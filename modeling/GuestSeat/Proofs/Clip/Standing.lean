import GuestSeat.Proofs.Clip.Quiet
import GuestSeat.Seat.Clip
import Mathlib.Logic.Function.Basic

/-!
What a clip rests on and what it shows to others, as one value. Each primitive operation of the clip is
pinned down by the change that it makes to the standing of a scene, so that a grab and a release come
down to a few outcomes.
-/

namespace GuestSeat

open Environment (desktop)

structure Standing where
  clip : Option ClipRegion
  surface : Option HostWindow
  rawStatus : RawStatus
  registry : Option ClipRegistry
  nextHandle : UInt64
  threads : Handle → Option ThreadId
  requests : List HostRequest
  messages : List Delivered

def Scene.standing (s : Scene) : Standing where
  clip := s.seat.input.clip
  surface := s.seat.input.captureSurface
  rawStatus := s.seat.input.raw.status
  registry := s.seat.registry
  nextHandle := s.env.nextHandle
  threads := s.env.threadOf?
  requests := s.env.journal.requests
  messages := s.env.journal.messages

structure Setting where
  config : Config
  map : CoordinateMap
  virtualScreen : Rect
  primaryMonitor : Rect
  thread : ThreadId

structure Ground extends Setting where
  queue : List EventRecord
  inFlight : Option InFlight

def Scene.ground (s : Scene) : Ground where
  config := s.seat.config
  map := s.env.map
  virtualScreen := s.env.virtualScreen
  primaryMonitor := s.env.primaryMonitor
  thread := s.env.thread
  queue := s.env.queue
  inFlight := s.seat.input.inFlight

def grabWork (w : HostWindow) (area : Rect) : List HostRequest :=
  [.moveResize w area, .map w, .raise w, .grabPointer w]

/-- The counter of handles counts a window twice: once when its handle is given out, and once when the
window is entered in the table. -/
theorem toNat_counterAfter {counter : UInt64} (room : counter.toNat + 2 < UInt64.size) :
    (max (counter + 2) (counter + 1)).toNat = counter.toNat + 2 := by
  have two : (counter + 2).toNat = counter.toNat + 2 := by
    rw [UInt64.toNat_add]
    exact Nat.mod_eq_of_lt room
  have one : (counter + 1).toNat = counter.toNat + 1 := by
    rw [UInt64.toNat_add]
    exact Nat.mod_eq_of_lt (by simp only [UInt64.size, UInt64.toNat_one] at room ⊢; omega)
  have larger : ¬ (counter + 2 ≤ counter + 1) := by
    rw [UInt64.le_iff_toNat_le, two, one]
    omega
  change (if counter + 2 ≤ counter + 1 then _ else counter + 2).toNat = _
  rw [if_neg larger, two]

namespace Standing

variable (st : Standing)

def fresh : Handle := ⟨st.nextHandle⟩

def doing (work : List HostRequest) : Standing := { st with requests := st.requests ++ work }

theorem doing_doing (first second : List HostRequest) :
    (st.doing first).doing second = st.doing (first ++ second) := by
  simp [doing]

def withWindow (thread : ThreadId) : Standing :=
  { st with
    nextHandle := max (st.nextHandle + 2) (st.nextHandle + 1)
    threads := Function.update st.threads st.fresh (some thread) }

/-- A handle that is given out is used up, as long as the counter does not run over. -/
theorem nextHandle_withWindow (room : st.nextHandle.toNat + 2 < UInt64.size) (thread : ThreadId) :
    (st.withWindow thread).nextHandle.toNat = st.nextHandle.toNat + 2 :=
  toNat_counterAfter room

def withoutWindow (h : Handle) : Standing := { st with threads := Function.update st.threads h none }

def asking : List HostRequest :=
  match st.rawStatus with
  | .unknown | .disabled => [.enableRawMotion]
  | .enabled | .unavailable => []

def asked (status : RawStatus) : Standing := { st.doing st.asking with rawStatus := status }

def unasking : List HostRequest := if st.rawStatus = .enabled then [.disableRawMotion] else []

def withoutRaw : Standing :=
  { st.doing st.unasking with
    rawStatus := if st.rawStatus = .enabled then .disabled else st.rawStatus }

/-- A message that is posted, unless its window is gone. -/
def posted (h : Handle) (message : GuestMessage) : List Delivered :=
  if !h.isNull && (st.threads h).isSome then [⟨h, message, false⟩] else []

/-- The message by which the desktop learns of a change of the clip's owner; there is none if the
registry is at hand. -/
def report (source target : Handle) : List Delivered :=
  if st.registry.isNone then st.posted desktop (.clipOwnerChanged source target) else []

/-- The report of a change of the clip's owner: to the seat's own registry, or by message to the
desktop. -/
def reporting (source target : Handle) : Standing :=
  { st with
    registry := st.registry.map fun registry => (registry.update source target).1
    messages := st.messages ++ st.report source target }

/-- A seat without a registry does not get one by reporting. -/
theorem registry_reporting (h : st.registry = none) (source target : Handle) :
    (st.reporting source target).registry = none := by
  simp [reporting, h]

def closed (tries : List HostRequest) (gone : Handle) : Standing :=
  let work := tries ++ HostRequest.ungrabPointer :: st.surface.toList.map HostRequest.unmap
  (Standing.doing { st with clip := none } work).withoutRaw.withoutWindow gone

theorem closed_doing (first tries : List HostRequest) (gone : Handle) :
    (st.doing first).closed tries gone = st.closed (first ++ tries) gone := by
  simp [closed, doing]

/-- It does not matter when the clip is dropped. -/
theorem closed_eq_dropped (tries : List HostRequest) (gone : Handle) :
    st.closed tries gone = { ((st.doing (tries ++ .ungrabPointer ::
      st.surface.toList.map .unmap)).withoutRaw.withoutWindow gone) with clip := none } := rfl

end Standing

namespace Scene

theorem Quiet.ground {s t : Scene} (h : s.Quiet t) : t.ground = s.ground := by
  simp [Scene.ground, h.config, h.env.queue, h.env.map, h.env.virtualScreen, h.env.primaryMonitor,
    h.env.thread, h.inFlight]

variable (s : Scene)

theorem standing_request (r : HostRequest) : (s.request r).standing = s.standing.doing [r] := rfl

@[simp] theorem ground_request (r : HostRequest) : (s.request r).ground = s.ground := rfl

@[simp] theorem ground_dropClip : s.dropClip.ground = s.ground := rfl

theorem standing_dropClip : s.dropClip.standing = { s.standing with clip := none } := rfl

theorem standing_destroyWindow (h : Handle) :
    (s.act fun env => env.destroyWindow h).standing = s.standing.withoutWindow h := by
  have threads : (s.env.destroyWindow h).threadOf? = Function.update s.env.threadOf? h none := by
    funext k
    simp only [Environment.destroyWindow, Environment.threadOf?, Environment.info?,
      Function.update_apply]
    by_cases hk : k = h
    · subst hk
      cases hg : s.env.windows.get? k <;> simp [OrderedMap.contains, hg]
    · split <;> simp [hk]
  unfold standing Standing.withoutWindow
  simp only [act, threads]
  unfold Environment.destroyWindow
  split <;> rfl

@[simp] theorem ground_destroyWindow (h : Handle) :
    (s.act fun env => env.destroyWindow h).ground = s.ground := by
  simp only [act, Environment.destroyWindow]
  split <;> rfl

theorem standing_createCaptureWindow :
    ({ s with env := s.env.createCaptureWindow.1 } : Scene).standing =
      s.standing.withWindow s.env.thread := by
  have threads : s.env.createCaptureWindow.1.threadOf? =
      Function.update s.env.threadOf? ⟨s.env.nextHandle⟩ (some s.env.thread) := by
    funext k
    simp only [Environment.createCaptureWindow, Environment.takeHandle, Environment.addWindow,
      Environment.threadOf?, Environment.info?, OrderedMap.get?_insert, Function.update_apply]
    by_cases hk : k = ⟨s.env.nextHandle⟩
    · simp [hk, WindowInfo.plain]
    · simp [hk, WindowInfo.plain]
  unfold standing Standing.withWindow
  simp only [threads]
  rfl

theorem standing_disableRaw : s.disableRaw.standing = s.standing.withoutRaw := by
  have status : s.standing.rawStatus = s.seat.input.raw.status := rfl
  unfold disableRaw Standing.withoutRaw Standing.unasking
  by_cases on : s.seat.input.raw.status = .enabled
  · have enabled : s.seat.input.raw.isEnabled = true := beq_iff_eq.mpr on
    have disabled : s.seat.input.raw.disable.status = .disabled := by
      simp [Accumulator.disable, enabled]
    rw [if_pos enabled, status, if_pos on, if_pos on]
    simp only [standing, request, act, editRaw, edit, disabled]
    rfl
  · have enabled : ¬ s.seat.input.raw.isEnabled = true := fun on' => on (beq_iff_eq.mp on')
    rw [if_neg enabled, status, if_neg on, if_neg on]
    simp only [Standing.doing, List.append_nil, ← status]

@[simp] theorem ground_disableRaw : s.disableRaw.ground = s.ground := by
  unfold disableRaw
  split <;> rfl

theorem standing_tell (h : Handle) (message : GuestMessage) : (s.tell h message).standing =
    { s.standing with messages := s.standing.messages ++ s.standing.posted h message } := by
  have known : (s.standing.threads h).isSome = s.env.windows.contains h := by
    simp [standing, Environment.threadOf?, Environment.info?, OrderedMap.contains]
  simp only [Standing.posted, known, tell, act, Environment.tell, Environment.post,
    Environment.deliver]
  cases h.isNull with
  | true => simp
  | false =>
      cases s.env.windows.contains h with
      | false => simp
      | true => rfl

theorem standing_reportOwner (source target : Handle) :
    (s.reportOwner source target).standing = s.standing.reporting source target := by
  unfold reportOwner
  cases h : s.seat.registry with
  | some registry => simp [standing, Standing.reporting, Standing.report, h]
  | none =>
      rw [standing_tell]
      simp [standing, Standing.reporting, Standing.report, h]

@[simp] theorem ground_tell (h : Handle) (message : GuestMessage) :
    (s.tell h message).ground = s.ground := by
  simp only [tell, act, Environment.tell, Environment.post, Environment.deliver]
  split
  · next hd =>
      split at hd
      · cases hd
      · cases hd
        rfl
  · rfl

@[simp] theorem ground_reportOwner (source target : Handle) :
    (s.reportOwner source target).ground = s.ground := by
  unfold reportOwner
  split
  · rfl
  · exact s.ground_tell desktop _

theorem standing_enableRaw : ∃ status, s.enableRaw.1.standing = s.standing.asked status ∧
    s.enableRaw.1.ground = s.ground ∧ (status = .enabled ∧ s.enableRaw.2 = true ∨
      status = .unavailable ∧ s.enableRaw.2 = false) := by
  unfold enableRaw Standing.asked Standing.asking
  cases h : s.seat.input.raw.status with
  | enabled =>
      refine ⟨.enabled, ?_, rfl, by simp⟩
      simp [standing, Standing.doing, h]
  | unavailable =>
      refine ⟨.unavailable, ?_, rfl, by simp⟩
      simp [standing, Standing.doing, h]
  | unknown | disabled =>
      have hst : s.standing.rawStatus = _ := h
      simp only [hst]
      cases (s.request .enableRawMotion).env.rawSession with
      | none => exact ⟨.unavailable, rfl, rfl, by simp⟩
      | some session => exact ⟨.enabled, rfl, rfl, by simp⟩

/-- What happens to a clip after the host was told to let go of the pointer. -/
theorem standing_closed {t : Scene} (tries : List HostRequest) (gone : Handle)
    (ht : t.standing = Standing.doing { s.standing with clip := none }
      (tries ++ .ungrabPointer :: s.standing.surface.toList.map .unmap)) :
    (t.disableRaw.act fun env => env.destroyWindow gone).standing = s.standing.closed tries gone := by
  rw [standing_destroyWindow, standing_disableRaw, ht]
  rfl

theorem release_of_clip {region : ClipRegion} (report : Bool)
    (h : s.seat.input.clip = some region) :
    (s.release report).standing =
      if report then (s.standing.closed [] region.captureWindow).reporting region.captureWindow .null
      else s.standing.closed [] region.captureWindow := by
  have hs : ∀ t : Scene, t.standing = Standing.doing { s.standing with clip := none }
      ([] ++ .ungrabPointer :: s.standing.surface.toList.map .unmap) →
      (if report then (t.disableRaw.act fun env =>
          env.destroyWindow region.captureWindow).reportOwner region.captureWindow .null
        else t.disableRaw.act fun env => env.destroyWindow region.captureWindow).standing =
      if report then (s.standing.closed [] region.captureWindow).reporting region.captureWindow .null
      else s.standing.closed [] region.captureWindow := by
    intro t ht
    have hclosed := s.standing_closed [] region.captureWindow ht
    cases report with
    | true => simp [standing_reportOwner, hclosed]
    | false => simpa using hclosed
  have kept : (s.dropClip.request .ungrabPointer).seat.input.captureSurface =
      s.seat.input.captureSurface := rfl
  unfold release
  simp only [h, kept]
  apply hs
  cases hw : s.seat.input.captureSurface with
  | none =>
      have hsurface : s.standing.surface = none := hw
      rw [standing_request, standing_dropClip, hsurface]
      rfl
  | some w =>
      have hsurface : s.standing.surface = some w := hw
      rw [standing_request, standing_request, standing_dropClip, Standing.doing_doing, hsurface]
      rfl

@[simp] theorem ground_release (report : Bool) : (s.release report).ground = s.ground := by
  unfold release
  split
  · rfl
  · dsimp only
    split <;> split <;> simp

@[simp] theorem ground_abandonGrab (w : HostWindow) (capture : Handle) :
    (s.abandonGrab w capture).ground = s.ground := by
  unfold abandonGrab
  dsimp only
  split <;> simp

theorem standing_abandonGrab {w : HostWindow} (capture : Handle)
    (hw : s.seat.input.captureSurface = some w) :
    (s.abandonGrab w capture).standing =
      match s.seat.input.clip with
      | none => s.standing.closed [] capture
      | some region => (s.standing.closed [] capture).reporting region.captureWindow .null := by
  have hsurface : s.standing.surface = some w := hw
  have hclosed : ((((s.request .ungrabPointer).request (.unmap w)).disableRaw.act
      fun env => env.destroyWindow capture).dropClip).standing = s.standing.closed [] capture := by
    rw [Standing.closed_eq_dropped, standing_dropClip, standing_destroyWindow, standing_disableRaw,
      standing_request, standing_request, Standing.doing_doing, hsurface]
    rfl
  unfold abandonGrab
  dsimp only
  cases s.seat.input.clip with
  | none => exact hclosed
  | some region => simp only [standing_reportOwner, hclosed]

theorem standing_showCursor (w : HostWindow) (cursor : Option CursorId) :
    ∃ native, (s.showCursor w cursor).standing = s.standing.doing [.defineCursor w native] := by
  unfold showCursor realize
  cases cursor with
  | none => exact ⟨none, rfl⟩
  | some c => exact ⟨(s.seat.realizer.realize c).2, rfl⟩

/-- A clip is put in force: the cursor is shown if it is the first, and the owner is reported. -/
theorem standing_establish (w : HostWindow) (region : ClipRegion) :
    match s.seat.input.clip with
    | none => ∃ native, (s.establish w region).standing =
        (Standing.doing { s.standing with clip := some region } [.defineCursor w native]).reporting
          .null region.captureWindow
    | some old => (s.establish w region).standing =
        Standing.reporting { s.standing with clip := some region } old.captureWindow
          region.captureWindow := by
  unfold establish
  cases h : s.seat.input.clip with
  | none =>
      simp only [InputState.captureWindow, InputState.isClipping, h, standing_reportOwner]
      obtain ⟨native, hn⟩ := standing_showCursor
        (s.edit fun i => { i with clip := some region }) w s.seat.tracker.cursor
      refine ⟨native, ?_⟩
      congr 1
  | some old =>
      simp only [InputState.captureWindow, InputState.isClipping, h, standing_reportOwner]
      rfl

@[simp] theorem ground_establish (w : HostWindow) (region : ClipRegion) :
    (s.establish w region).ground = s.ground := by
  unfold establish
  dsimp only
  rw [ground_reportOwner]
  split
  · exact (quiet_syncCursor _ w).ground
  · rfl

end Scene

end GuestSeat
