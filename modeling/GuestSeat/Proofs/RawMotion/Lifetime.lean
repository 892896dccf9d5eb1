import GuestSeat.Proofs.Clip.Validity
import GuestSeat.Proofs.Drain.Trail

/-!
Raw motion lives as long as a clip. It is switched on when a clip begins and off on every path that ends
one, so it is on just while the seat clips. While it is off nothing is known of the devices and nothing
is left over, and what they report is lost. A host that once had no raw motion is not asked again.
-/

namespace GuestSeat

namespace Scene

variable (s : Scene)

theorem raw_disableRaw : s.disableRaw.seat.input.raw = s.seat.input.raw.disable := by
  unfold disableRaw Accumulator.disable
  split <;> simp [*, editRaw, edit, request, act]

theorem raw_reportOwner (source target : Handle) :
    (s.reportOwner source target).seat.input.raw = s.seat.input.raw := by
  unfold reportOwner
  split <;> rfl

theorem raw_abandonGrab (w : HostWindow) (capture : Handle) :
    (s.abandonGrab w capture).seat.input.raw = s.seat.input.raw.disable := by
  have off := raw_disableRaw ((s.request .ungrabPointer).request (.unmap w))
  unfold abandonGrab
  dsimp only
  split
  · exact off
  · exact (raw_reportOwner ..).trans off

theorem raw_establish (w : HostWindow) (region : ClipRegion) :
    (s.establish w region).seat.input.raw = s.seat.input.raw := by
  have shown : ∀ u : Scene, (u.syncCursor w).seat.input.raw = u.seat.input.raw := by
    intro u
    unfold syncCursor showCursor realize
    cases u.seat.tracker.cursor <;> rfl
  unfold establish
  dsimp only
  refine (raw_reportOwner ..).trans ?_
  split
  · exact shown _
  · rfl

theorem raw_confine (w : HostWindow) (region : ClipRegion) :
    (s.confine w region).1.seat.input.raw =
      if s.env.grabSucceeds then s.seat.input.raw else s.seat.input.raw.disable := by
  let shown := s.showSurface w region.rect
  let aimed := if s.seat.input.clip.all fun previous => region.rect.restricts previous.rect
    then shown.armWarpFence else shown
  have same : aimed.seat.input.raw = s.seat.input.raw ∧ aimed.env.grabSucceeds = s.env.grabSucceeds := by
    dsimp only [aimed]
    split <;> exact ⟨rfl, rfl⟩
  rw [← same.1, ← same.2]
  change (if aimed.env.grabSucceeds then _ else _ : Scene × Bool).1.seat.input.raw = _
  split
  · exact raw_establish (aimed.request (.grabPointer w)) w region
  · exact raw_abandonGrab (aimed.request (.grabPointer w)) w region.captureWindow

theorem raw_release (report : Bool) : (s.release report).seat.input.raw =
    if s.seat.input.isClipping then s.seat.input.raw.disable else s.seat.input.raw := by
  unfold release
  cases held : s.seat.input.clip with
  | none => simp [InputState.isClipping, held]
  | some region =>
      let dropped := s.dropClip.request .ungrabPointer
      have off : ∀ u : Scene, u.seat.input.raw = s.seat.input.raw →
          u.disableRaw.seat.input.raw = s.seat.input.raw.disable :=
        fun u same => (u.raw_disableRaw).trans (by rw [same])
      have clipping : s.seat.input.isClipping = true := by simp [InputState.isClipping, held]
      rw [if_pos clipping]
      dsimp only
      split
      · refine (raw_reportOwner ..).trans (off _ ?_)
        split <;> rfl
      · refine off _ ?_
        split <;> rfl

theorem raw_enableRaw (idle : s.seat.input.raw.status ≠ .enabled → s.seat.input.raw.IsIdle) :
    (s.enableRaw.2 = true → s.enableRaw.1.seat.input.raw.status = .enabled) ∧
      (s.enableRaw.2 = false → s.enableRaw.1.seat.input.raw.IsIdle) := by
  unfold enableRaw
  cases h : s.seat.input.raw.status with
  | enabled => exact ⟨fun _ => h, nofun⟩
  | unavailable => exact ⟨nofun, fun _ => idle (by simp [h])⟩
  | unknown | disabled =>
      have off := (idle (by simp [h])).withdraw
      dsimp only
      cases (s.request .enableRawMotion).env.rawSession with
      | some session => exact ⟨fun _ => rfl, nofun⟩
      | none => exact ⟨nofun, fun _ => off⟩

structure Tuned (s : Scene) : Prop where
  lives : s.seat.input.raw.status = .enabled ↔ s.seat.input.isClipping = true
  idle : s.seat.input.raw.status ≠ .enabled → s.seat.input.raw.IsIdle

variable {s} {t : Scene}

theorem tuned_on (on : s.seat.input.raw.status = .enabled) (held : s.seat.input.isClipping = true) :
    s.Tuned := ⟨by simp [on, held], fun off => absurd on off⟩

theorem tuned_off (idle : s.seat.input.raw.IsIdle) (free : s.seat.input.clip = none) : s.Tuned :=
  ⟨by simp [idle.off, InputState.isClipping, free], fun _ => idle⟩

namespace Tuned

theorem congr (h : s.Tuned) (raw : t.seat.input.raw = s.seat.input.raw)
    (clip : t.seat.input.clip = s.seat.input.clip) : t.Tuned := by
  obtain ⟨lives, idle⟩ := h
  constructor
  · rw [raw, lives, InputState.isClipping, InputState.isClipping, clip]
  · rwa [raw]

theorem on (h : s.Tuned) {region : ClipRegion} (held : s.seat.input.clip = some region) :
    s.seat.input.raw.status = .enabled := h.lives.mpr (by simp [InputState.isClipping, held])

theorem off (h : s.Tuned) (free : s.seat.input.clip = none) : s.seat.input.raw.IsIdle :=
  h.idle fun on => by
    have held := h.lives.mp on
    simp [InputState.isClipping, free] at held

theorem quiet (h : s.Tuned) (q : s.Quiet t) : t.Tuned := by
  cases held : s.seat.input.clip with
  | none =>
      have idle := h.off held
      exact h.congr (q.rawIdle idle) q.clip
  | some region =>
      exact tuned_on (q.rawStatus.trans (h.on held)) (by simp [InputState.isClipping, q.clip, held])

theorem release (h : s.Tuned) (report : Bool) : (s.release report).Tuned := by
  cases held : s.seat.input.clip with
  | none =>
      have unchanged : s.release report = s := by simp [Scene.release, held]
      rwa [unchanged]
  | some region =>
      refine tuned_off ?_ (s.clip_release report)
      rw [s.raw_release report, if_pos (by simp [InputState.isClipping, held])]
      exact Accumulator.isIdle_disable (h.on held)

end Tuned

/-- An attempt at a clip while raw motion is on ends with either both or neither. -/
theorem tuned_confine (on : s.seat.input.raw.status = .enabled) (w : HostWindow)
    (region : ClipRegion) : (s.confine w region).1.Tuned := by
  have raw := s.raw_confine w region
  have clip := (s.confine_answer w region).1
  cases granted : s.env.grabSucceeds with
  | true =>
      simp only [granted, if_true] at raw clip
      exact tuned_on (by rw [raw, on]) (by simp [InputState.isClipping, clip])
  | false =>
      simp only [granted, Bool.false_eq_true, if_false] at raw clip
      refine tuned_off ?_ clip
      rw [raw]
      exact Accumulator.isIdle_disable on

theorem Tuned.beginClip (h : s.Tuned) (free : s.seat.input.clip = none) (w : HostWindow)
    (rect : Rect) (kind : ClipKind) : (s.beginClip w rect kind).1.Tuned := by
  let created : Scene := { s with env := s.env.createCaptureWindow.1 }
  obtain ⟨on, off⟩ := created.raw_enableRaw h.idle
  obtain ⟨-, kept, -⟩ := created.enableRaw_answer
  cases he : created.enableRaw with
  | mk u answer =>
      rw [he] at on off kept
      rw [s.beginClip_eq w rect kind he]
      cases answer with
      | true =>
          have ready : (u.request (.unmap w)).seat.input.raw.status = .enabled := on rfl
          rw [if_pos rfl]
          exact tuned_confine ready w _
      | false =>
          have idle : u.seat.input.raw.IsIdle := off rfl
          have unclipped : u.seat.input.clip = none := kept.trans free
          rw [if_neg (by simp)]
          exact (tuned_off idle unclipped).congr rfl rfl

theorem Tuned.grab (h : s.Tuned) (rect : Rect) (kind : ClipKind) : (s.grab rect kind).1.Tuned := by
  obtain ⟨-, kept, -, -⟩ := s.useSurface_answer
  have raw : s.useSurface.1.seat.input.raw = s.seat.input.raw := by
    unfold useSurface
    split <;> rfl
  unfold Scene.grab
  split
  · exact h
  split
  · exact h
  cases hu : s.useSurface with
  | mk u w =>
      rw [hu] at kept raw
      have ready : u.Tuned := h.congr raw kept
      cases w with
      | none => exact ready
      | some w =>
          dsimp only
          split
          · next free => exact ready.beginClip free w rect kind
          · next old held => exact tuned_confine (ready.on held) w _

/-- What quiet work, grabs and releases preserve is preserved by every call, if it depends on raw motion, the
clip and the requests only. -/
theorem call_preserves {P : Scene → Prop}
    (congr : ∀ {u v : Scene}, P u → v.seat.input.raw = u.seat.input.raw →
      v.seat.input.clip = u.seat.input.clip → v.env.journal.requests = u.env.journal.requests → P v)
    (quiet : ∀ {u v : Scene}, P u → u.Quiet v → P v)
    (grab : ∀ {u : Scene} rect kind, P u → P (u.grab rect kind).1)
    (release : ∀ {u : Scene} report, P u → P (u.release report))
    {call : Call} (taken : s.call? call = some t) (hs : P s) : P t := by
  by_cases ordinary : call.IsOrdinary
  · refine (s.doings_licence taken ordinary).preserves (P := fun _ u => P u) (fun deed hu => ?_) id
      (fun _ _ hu => congr hu rfl rfl rfl) 0 hs
    cases deed with
    | routine routine => exact quiet hu routine.toQuiet
    | touch region w => exact quiet hu (quiet_visit _ region.captureWindow (some w))
    | visit k info => exact quiet hu (quiet_visit _ k info.host)
    | confine rect => exact grab rect .explicit hu
    | cover u since => exact grab _ .fullscreen (quiet hu since.toQuiet)
    | release report => exact release report hu
    | mark => exact quiet hu (quiet_markReset _)
  · cases s.special_of_call taken ordinary with
    | chosen cursor => exact quiet hs (s.quiet_setCursor cursor)
    | destroyed cursor => exact quiet hs (s.quiet_destroyCursor cursor)
    | shown k cursor => exact quiet hs (s.quiet_defineCursor k cursor)
    | ignored => exact hs
    | heard => exact congr hs rfl rfl rfl
    | ruled _ _ _ registry evicted =>
        exact congr hs rfl rfl (congrArg Standing.requests (standing_tell _ evicted .clipReset))

theorem Tuned.call (h : s.Tuned) {call : Call} (taken : s.call? call = some t) : t.Tuned :=
  call_preserves (fun hu raw clip _ => hu.congr raw clip) Tuned.quiet (fun rect kind hu => hu.grab rect kind)
    (fun report hu => hu.release report) taken h

/-- Raw motion follows the clip on every run. -/
theorem Run.tuned {allowed : Scene → Turn → Prop} {start : Scene} (run : Run allowed start s)
    (fresh : Fresh start) : s.Tuned := by
  have raw : start.seat.input.raw = .initial := congrArg InputState.raw fresh.input
  refine run.preserves (tuned_off (raw ▸ Accumulator.isIdle_initial) fresh.clip_eq_none) ?_
  intro u v turn hu _ taken
  cases turn with
  | call call => exact hu.call taken
  | change env =>
      cases taken
      exact hu.congr rfl rfl

/-- An event leaves raw motion as it is and brings the guest no input. -/
def Loses (s : Scene) (event : EventRecord) : Prop :=
  (s.dispatch event).1.seat.input.raw = s.seat.input.raw ∧
    (s.dispatch event).1.env.journal.inputs = s.env.journal.inputs

theorem accumulateRaw_of_idle (idle : s.seat.input.raw.IsIdle) (raw : RawMotionEvent Float) :
    (s.accumulateRaw raw).1.seat.input.raw = s.seat.input.raw ∧ (s.accumulateRaw raw).1.env = s.env := by
  unfold accumulateRaw
  rw [idle.accumulate]
  exact ⟨rfl, rfl⟩

/-- An idle accumulator takes in nothing. -/
theorem handle_of_idle (idle : s.seat.input.raw.IsIdle) (h : Handle) {event : EventRecord}
    (raw : event.tag = .rawMotion ∨ event.tag = .deviceChanged) :
    (s.handle h event).1.seat.input.raw = s.seat.input.raw ∧
      (s.handle h event).1.env.journal.inputs = s.env.journal.inputs := by
  have lost : ∀ (u : Scene) e, u.seat.input.raw = s.seat.input.raw → u.env = s.env →
      (u.accumulateRaw e).1.seat.input.raw = s.seat.input.raw ∧
        (u.accumulateRaw e).1.env.journal.inputs = s.env.journal.inputs := by
    intro u e same env
    obtain ⟨same', env'⟩ := accumulateRaw_of_idle (s := u) (by rwa [same]) e
    exact ⟨same'.trans same, by rw [env', env]⟩
  unfold EventRecord.tag at raw
  unfold handle
  match hk : event.kind with
  | .generic (.rawMotion e) =>
      dsimp only
      unfold rawMotion
      split
      · split
        · next u passed =>
            obtain rfl : (s.passWarpFence event.serial).1 = u := congrArg Prod.fst passed
            exact ⟨rfl, rfl⟩
        · next u passed =>
            obtain rfl : (s.passWarpFence event.serial).1 = u := congrArg Prod.fst passed
            exact lost _ e rfl rfl
      · exact lost s e rfl rfl
  | .generic (.deviceChanged change) => exact ⟨idle.follow change, rfl⟩
  | .generic .missing | .generic (.unknown _ _) | .key _ | .button _ | .motion _ | .enter _
  | .leave _ | .focusIn _ | .focusOut _ | .expose _ | .map | .unmap | .destroy | .reparent _
  | .configure _ | .gravity _ | .property _ | .clientMessage _ =>
      rcases raw with raw | raw <;> simp [hk, EventKind.tag] at raw

theorem loses_of_idle (idle : s.seat.input.raw.IsIdle) {event : EventRecord}
    (raw : event.tag = .rawMotion ∨ event.tag = .deviceChanged) : s.Loses event :=
  handle_of_idle (s := s.receiving event) idle _ raw

/-- The host turned out to have no raw motion and, since a log of requests, was not asked for it. -/
structure Without (log : List HostRequest) (s : Scene) : Prop where
  tuned : s.Tuned
  unavailable : s.seat.input.raw.status = .unavailable
  unasked : Appends (· ≠ .enableRawMotion) log s.env.journal.requests

namespace Without

variable {log : List HostRequest}

theorem clip_eq_none (h : s.Without log) : s.seat.input.clip = none := by
  have off : ¬ s.seat.input.isClipping = true := fun held => by
    have on := h.tuned.lives.mpr held
    simp [h.unavailable] at on
  simpa [InputState.isClipping] using off

theorem congr (h : s.Without log) (raw : t.seat.input.raw = s.seat.input.raw)
    (clip : t.seat.input.clip = s.seat.input.clip)
    (requests : t.env.journal.requests = s.env.journal.requests) : t.Without log :=
  ⟨h.tuned.congr raw clip, by rw [raw, h.unavailable], by rw [requests]; exact h.unasked⟩

theorem quiet (h : s.Without log) (q : s.Quiet t) : t.Without log := by
  refine ⟨h.tuned.quiet q, q.rawStatus.trans h.unavailable, h.unasked.trans ?_⟩
  obtain ⟨added, eq, idle⟩ := q.env.requests
  refine ⟨added, eq, fun r member => ?_⟩
  rintro rfl
  exact absurd (idle _ member) (by decide)

/-- A clip is given up without a question to the host. -/
theorem beginClip (h : s.Without log) (w : HostWindow) (rect : Rect) (kind : ClipKind) :
    (s.beginClip w rect kind).1.Without log := by
  let created : Scene := { s with env := s.env.createCaptureWindow.1 }
  have answer : created.enableRaw = (created, false) := by
    have unavailable : created.seat.input.raw.status = .unavailable := h.unavailable
    unfold enableRaw
    rw [unavailable]
  rw [s.beginClip_eq w rect kind answer, if_neg (by simp)]
  refine h.congr rfl rfl ?_
  exact congrArg Standing.requests (standing_destroyWindow created s.standing.fresh)

theorem grab (h : s.Without log) (rect : Rect) (kind : ClipKind) :
    (s.grab rect kind).1.Without log := by
  have used : s.useSurface.1.seat.input.raw = s.seat.input.raw ∧
      s.useSurface.1.env.journal.requests = s.env.journal.requests := by
    unfold useSurface
    split
    · exact ⟨rfl, rfl⟩
    · exact ⟨rfl, congrArg Journal.requests s.env.useCaptureSurface_frame.1⟩
  obtain ⟨-, kept, -, -⟩ := s.useSurface_answer
  unfold Scene.grab
  split
  · exact h
  split
  · exact h
  cases hu : s.useSurface with
  | mk u w =>
      rw [hu] at used kept
      have ready : u.Without log := h.congr used.1 kept used.2
      cases w with
      | none => exact ready
      | some w =>
          dsimp only
          rw [ready.clip_eq_none]
          exact ready.beginClip w rect kind

theorem call (h : s.Without log) {call : Call} (taken : s.call? call = some t) : t.Without log := by
  refine call_preserves Without.congr Without.quiet (fun rect kind hu => hu.grab rect kind) ?_ taken h
  intro u report hu
  have unchanged : u.release report = u := by simp [Scene.release, hu.clip_eq_none]
  rwa [unchanged]

end Without

/-- A host that turned out to have no raw motion stays without it, and no call asks it again. -/
theorem Run.unavailable {allowed : Scene → Turn → Prop} (run : Run allowed s t) (tuned : s.Tuned)
    (unavailable : s.seat.input.raw.status = .unavailable) :
    t.seat.input.raw.status = .unavailable ∧ ∀ call u, t.call? call = some u →
      Appends (· ≠ .enableRawMotion) t.env.journal.requests u.env.journal.requests := by
  have later : t.Tuned ∧ t.seat.input.raw.status = .unavailable := by
    refine run.preserves (P := fun u => u.Tuned ∧ u.seat.input.raw.status = .unavailable)
      ⟨tuned, unavailable⟩ ?_
    intro u v turn hu _ taken
    cases turn with
    | call call =>
        have without := Without.call ⟨hu.1, hu.2, .refl _ _⟩ taken
        exact ⟨without.tuned, without.unavailable⟩
    | change env =>
        cases taken
        exact ⟨hu.1.congr rfl rfl, hu.2⟩
  refine ⟨later.2, fun call u taken => ?_⟩
  exact (Without.call ⟨later.1, later.2, .refl _ _⟩ taken).unasked

/-- Raw motion lives exactly as long as a clip. After every turn of a run it is on if and only if the seat
clips. While it is off there are neither axes nor a source and nothing is left over, so that the raw
events and changes of devices that are handled then, be it in the midst of a drain, are lost. If the host
turned out to have none, it never has any later and is never asked again. -/
theorem raw_motion_lives_with_clip {allowed : Scene → Turn → Prop} {start s : Scene}
    (run : Run allowed start s) (fresh : Fresh start) :
    let raw := s.seat.input.raw
    (raw.status = .enabled ↔ s.seat.input.isClipping = true) ∧
      (raw.status ≠ .enabled → raw.x = none ∧ raw.y = none ∧ raw.source = none ∧ raw.restX = 0 ∧
        raw.restY = 0) ∧
      (∀ call, ∀ handled ∈ s.callTrail call, handled.1.seat.input.raw.status ≠ .enabled →
        (handled.2.tag = .rawMotion ∨ handled.2.tag = .deviceChanged) → handled.1.Loses handled.2) ∧
      (raw.status = .unavailable → ∀ t, Run allowed s t →
        t.seat.input.raw.status = .unavailable ∧ ∀ call u, t.call? call = some u →
          Appends (· ≠ .enableRawMotion) t.env.journal.requests u.env.journal.requests) := by
  have tuned := run.tuned fresh
  refine ⟨tuned.lives, fun off => (tuned.idle off).fields, ?_, fun unavailable t more =>
    more.unavailable tuned unavailable⟩
  intro call handled member off raw
  have current : handled.1.Tuned := s.callTrail_preserves (P := Tuned)
    (fun u event hu => hu.call (show u.call? (.dispatch event) = _ from rfl))
    (fun u env _ hu => hu.congr rfl rfl) tuned call handled member
  exact loses_of_idle (current.idle off) raw

/-- Raw motion comes with a clip and goes with it, after which raw events are lost. On a host without raw
motion the first attempt at a clip settles it. -/
theorem raw_motion_comes_and_goes :
    let clipped := (alone ⟨0, 0, 1920, 1080⟩).clipCursor (some ⟨100, 100, 400, 300⟩)
    let freed := clipped.resetClipping
    let bare : Scene := { alone ⟨0, 0, 1920, 1080⟩ with
      env := { (alone ⟨0, 0, 1920, 1080⟩).env with rawSession := none } }
    let refused := bare.clipCursor (some ⟨100, 100, 400, 300⟩)
    (clipped.seat.input.raw.status = .enabled ∧ clipped.seat.input.raw.x ≠ none) ∧
      (freed.seat.input.raw.status = .disabled ∧ freed.seat.input.raw.x = none ∧
        ∀ event : EventRecord, event.tag = .rawMotion → freed.Loses event) ∧
      (refused.seat.input.raw.status = .unavailable ∧
        refused.env.journal.requests = [.enableRawMotion] ∧ refused.seat.input.raw.x = none ∧
        ∀ call u, refused.call? call = some u →
          Appends (· ≠ .enableRawMotion) refused.env.journal.requests u.env.journal.requests) := by
  intro clipped freed bare refused
  have clips : Run (fun _ _ => True) (alone ⟨0, 0, 1920, 1080⟩) clipped :=
    Run.start.turn trivial (show Scene.take? _ (.call (.clipCursor (some ⟨100, 100, 400, 300⟩))) = _ from rfl)
  have frees : Run (fun _ _ => True) (alone ⟨0, 0, 1920, 1080⟩) freed :=
    clips.turn trivial (show clipped.take? (.call .resetClipping) = _ from rfl)
  have fails : Run (fun _ _ => True) bare refused :=
    Run.start.turn trivial (show bare.take? (.call (.clipCursor (some ⟨100, 100, 400, 300⟩))) = _ from rfl)
  have asked : refused.seat.input.raw.status = .unavailable := by decide
  obtain ⟨lives, -⟩ := raw_motion_lives_with_clip clips (fresh_alone _)
  obtain ⟨-, blank, loses, -⟩ := raw_motion_lives_with_clip frees (fresh_alone _)
  obtain ⟨-, idle, -, dead⟩ := raw_motion_lives_with_clip fails ⟨rfl, rfl⟩
  have off : freed.seat.input.raw.status ≠ .enabled := by decide
  refine ⟨⟨lives.mpr (by decide), by decide⟩, ⟨by decide, (blank off).1, fun event raw => ?_⟩,
    asked, by decide, (idle ?_).1, (dead asked refused .start).2⟩
  · exact loses (.dispatch event) (freed, event) (List.mem_singleton_self _) off (Or.inl raw)
  · rw [asked]
    decide

end Scene

end GuestSeat
