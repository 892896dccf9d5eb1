import GuestSeat.Proofs.Pointer.CapturePlace
import GuestSeat.Proofs.Pointer.WarpFence

/-!
What the warp fence stands at. A seat arms the fence before it makes the request that moves the pointer, at the serial
that the request is going to have. In a run without a serial that runs over the prediction is always right: the fence
stands at a grab or a warp in the log of the seat, no later than the last serial. So what the host reports from now on
is not taken for out of date. A clip that passes to another rectangle or kind arms the fence exactly if it loses room.
-/

namespace GuestSeat.Scene

variable {s t : Scene}

/-- No serial ran over between a first and a last one: there is an end to them, and they are compared by their
difference, which wraps around at half of the range. -/
def Lasts (first : Serial) (last : Nat) : Prop :=
  last < UInt64.size ∧ last < first.value.toNat + UInt64.size / 2

/-- The serials of a run stay in order: from the first one on they do not run over, and between the calls others take
some up but give none back. -/
def InOrder (first : Serial) (s : Scene) : Turn → Prop
  | .call call => ∀ t, s.call? call = some t →
      Lasts first (s.env.lastSerial.value.toNat + (s.madeUntil t).length)
  | .change env => s.env.lastSerial.value.toNat ≤ env.lastSerial.value.toNat ∧
      Lasts first env.lastSerial.value.toNat

/-- The serials of a log ascend from the first one on, no further than to the last one, and the fence stands at one of a
request that moves the pointer. -/
structure Traced (first : Serial) (log : List Issue) (s : Scene) : Prop where
  lasts : Lasts first s.env.lastSerial.value.toNat
  since : first.value.toNat ≤ s.env.lastSerial.value.toNat
  after : ∀ issue ∈ log, first.value.toNat ≤ issue.serial.value.toNat
  bounded : ∀ issue ∈ log, issue.serial.value.toNat ≤ s.env.lastSerial.value.toNat
  ascending : log.Pairwise fun a b => a.serial.value.toNat < b.serial.value.toNat
  aimed : ∀ warp, s.seat.input.warpFence = .armed warp →
    ∃ issue ∈ log, issue.serial = warp ∧ issue.request.movesPointer = true

theorem mem_numbering {made : List HostRequest} {issue : Issue} : issue ∈ s.numbering made ↔
    ∃ i, ∃ within : i < made.length, issue = ⟨s.env.lastSerial.after (i + 1), s.env.map, made[i]⟩ := by
  unfold numbering
  rw [List.mem_mapIdx]
  simp only [eq_comm]

theorem serial_of_mem_numbering {made : List HostRequest} {issue : Issue} (member : issue ∈ s.numbering made)
    (room : s.env.lastSerial.value.toNat + made.length < UInt64.size) :
    s.env.lastSerial.value.toNat < issue.serial.value.toNat ∧
      issue.serial.value.toNat ≤ s.env.lastSerial.value.toNat + made.length := by
  obtain ⟨i, within, rfl⟩ := mem_numbering.mp member
  have serial := s.env.lastSerial.toNat_after (n := i + 1) (by omega)
  dsimp only
  omega

theorem pairwise_numbering {made : List HostRequest}
    (room : s.env.lastSerial.value.toNat + made.length < UInt64.size) :
    (s.numbering made).Pairwise fun a b => a.serial.value.toNat < b.serial.value.toNat := by
  rw [List.pairwise_iff_getElem]
  intro i j hi hj less
  unfold numbering at hi hj ⊢
  rw [List.length_mapIdx] at hi hj
  rw [List.getElem_mapIdx, List.getElem_mapIdx]
  have first := s.env.lastSerial.toNat_after (n := i + 1) (by omega)
  have second := s.env.lastSerial.toNat_after (n := j + 1) (by omega)
  dsimp only
  omega

/-- A call traces what it arms the fence at. -/
theorem Traced.call {first : Serial} {log : List Issue} (traced : s.Traced first log) (numbered : s.Numbered t)
    (lasts : Lasts first (s.env.lastSerial.value.toNat + (s.madeUntil t).length)) :
    t.Traced first (log ++ s.numbering (s.madeUntil t)) := by
  obtain ⟨made, requests, serial⟩ := numbered.env
  have made_eq := madeUntil_eq requests
  rw [made_eq] at lasts ⊢
  have room := lasts.1
  have since := traced.since
  have last : t.env.lastSerial.value.toNat = s.env.lastSerial.value.toNat + made.length := by
    rw [serial, Serial.toNat_after _ room]
  refine ⟨by rwa [last], by omega, fun issue member => ?_, fun issue member => ?_,
    List.pairwise_append.mpr ⟨traced.ascending, pairwise_numbering room, ?_⟩, ?_⟩
  · rcases List.mem_append.mp member with earlier | new
    · exact traced.after issue earlier
    · have above := serial_of_mem_numbering new room
      omega
  · rcases List.mem_append.mp member with earlier | new
    · have bounded := traced.bounded issue earlier
      omega
    · have bounded := serial_of_mem_numbering new room
      omega
  · intro a earlier b new
    have bounded := traced.bounded a earlier
    have above := serial_of_mem_numbering new room
    omega
  · intro warp armed
    rcases numbered.aims with same | released | ⟨before, request, later, known, moves, aimed⟩
    · obtain ⟨issue, member, named⟩ := traced.aimed warp (same.symm.trans armed)
      exact ⟨issue, List.mem_append_left _ member, named⟩
    · rw [released] at armed
      cases armed
    · obtain rfl : made = before ++ request :: later := List.append_cancel_left (requests.symm.trans known)
      have within : before.length < (before ++ request :: later).length := by simp
      have serial : s.env.lastSerial.after (before.length + 1) = warp :=
        Option.some.inj (congrArg Fence.serial (aimed.symm.trans armed))
      refine ⟨_, List.mem_append_right _ (mem_numbering.mpr ⟨before.length, within, rfl⟩), serial, ?_⟩
      simpa using moves

theorem Logged.traced {start : Scene} {log : List Issue}
    (run : Logged (InOrder start.env.lastSerial) start log s) (unarmed : start.seat.input.warpFence = {}) :
    s.Traced start.env.lastSerial log := by
  induction run with
  | start =>
      have lasts : Lasts start.env.lastSerial start.env.lastSerial.value.toNat :=
        ⟨start.env.lastSerial.value.toNat_lt, Nat.lt_add_of_pos_right (by decide)⟩
      refine ⟨lasts, Nat.le_refl _, by simp, by simp, .nil, fun warp armed => ?_⟩
      rw [unarmed] at armed
      cases armed
  | call _ ok taken traced => exact traced.call (numbered_call taken) (ok _ taken)
  | change _ ok traced =>
      exact ⟨ok.2, Nat.le_trans traced.since ok.1, traced.after,
        fun issue member => Nat.le_trans (traced.bounded issue member) ok.1, traced.ascending, traced.aimed⟩

/-- No two requests of a log have the same serial. -/
theorem Traced.eq_of_serial {first : Serial} {log : List Issue} (traced : s.Traced first log) {a b : Issue}
    (ha : a ∈ log) (hb : b ∈ log) (same : a.serial = b.serial) : a = b := by
  obtain ⟨i, hi, rfl⟩ := List.getElem_of_mem ha
  obtain ⟨j, hj, rfl⟩ := List.getElem_of_mem hb
  have ascending := List.pairwise_iff_getElem.mp traced.ascending
  rcases Nat.lt_trichotomy i j with less | rfl | more
  · have apart := ascending i j hi hj less
    rw [same] at apart
    omega
  · rfl
  · have apart := ascending j i hj hi more
    rw [same] at apart
    omega

def reported (s : Scene) (w : HostWindow) (kind : EventKind) : EventRecord :=
  { serial := s.env.lastSerial, window := w, kind }

theorem holdsBack_armed {warp serial : Serial} (later : warp.value.toNat ≤ serial.value.toNat)
    (recent : serial.value.toNat < warp.value.toNat + UInt64.size / 2) :
    (Fence.armed warp).holdsBack serial = false := by
  have within : serial.value.toNat < UInt64.size := serial.value.toNat_lt
  let step : Int := serial.value.toNat - warp.value.toNat
  have apart : serial.value.toNat = (warp.value.toNat + step) % UInt64.size := by
    simp only [step, UInt64.size] at *
    omega
  have order : serial.precedes warp = true ↔ step < 0 :=
    Serial.precedes_iff (by omega) (by simp only [step, UInt64.size] at *; omega) apart
  show serial.precedes warp = false
  rw [← Bool.not_eq_true, order]
  omega

/-- A fence that stands at no later a request than the last one does not hold back what is reported now. -/
theorem holdsBack_reported {first : Serial} {log : List Issue} (traced : s.Traced first log) :
    s.seat.input.warpFence.holdsBack s.env.lastSerial = false := by
  cases fence : s.seat.input.warpFence.serial with
  | none =>
      unfold Fence.holdsBack
      rw [fence]
  | some warp =>
      have armed : s.seat.input.warpFence = .armed warp := congrArg Fence.mk fence
      obtain ⟨issue, member, rfl, -⟩ := traced.aimed warp armed
      rw [armed]
      have recent := traced.lasts.2
      have after := traced.after issue member
      exact holdsBack_armed (traced.bounded issue member) (by omega)

/-- Draining what was just queued, and was all that is queued, is handling it. -/
theorem drain_push {w : HostWindow} {kind : EventKind} {mask : QueueMask} (idle : s.env.queue = [])
    (wanted : (s.reported w kind).matchesMask mask = true) : (s.act fun env => env.push w kind).drain mask =
      ((s.dispatch (s.reported w kind)).1.act Environment.flush, (s.dispatch (s.reported w kind)).2) := by
  have queued : (s.act fun env => env.push w kind).env.queue = [s.reported w kind] := by
    show s.env.queue ++ [_] = _
    rw [idle]
    rfl
  have restored : ((s.act fun env => env.push w kind).act fun env => { env with queue := [] }) = s := by
    rw [← idle]
    rfl
  have taken : [s.reported w kind].filter (fun event => event.matchesMask mask) = [s.reported w kind] := by
    simp [wanted]
  have left : [s.reported w kind].filter (fun event => !event.matchesMask mask) = [] := by simp [wanted]
  unfold drain
  rw [queued, taken, left]
  dsimp only
  rw [restored]
  rfl

theorem warpFence_showCursor (s : Scene) (w : HostWindow) (cursor : Option CursorId) :
    (s.showCursor w cursor).seat.input.warpFence = s.seat.input.warpFence := by
  cases cursor <;> rfl

theorem warpFence_reportOwner (s : Scene) (source target : Handle) :
    (s.reportOwner source target).seat.input.warpFence = s.seat.input.warpFence := by
  unfold reportOwner
  split <;> rfl

theorem warpFence_establish (s : Scene) (w : HostWindow) (region : ClipRegion) :
    (s.establish w region).seat.input.warpFence = s.seat.input.warpFence := by
  unfold establish
  rw [warpFence_reportOwner]
  dsimp only
  split
  · exact warpFence_showCursor _ _ _
  · rfl

theorem warpFence_abandonGrab (s : Scene) (w : HostWindow) (capture : Handle) :
    (s.abandonGrab w capture).seat.input.warpFence = s.seat.input.warpFence := by
  have freed : ((s.request .ungrabPointer).request (.unmap w)).disableRaw.seat.input.warpFence =
      s.seat.input.warpFence := by
    unfold disableRaw
    split <;> rfl
  unfold abandonGrab
  dsimp only
  split
  · exact freed
  · rw [warpFence_reportOwner]
    exact freed

variable {old : ClipRegion} {rect : Rect} {kind : ClipKind} {w : HostWindow}

theorem grab_again (member : s.onDesktopThread = false) (held : s.seat.input.clip = some old)
    (surface : s.seat.input.captureSurface = some w) (other : ¬(old.rect = rect ∧ old.kind = kind)) :
    s.grab rect kind = s.confine w ⟨rect, old.captureWindow, kind⟩ := by
  have used : s.useSurface = (s, some w) := by
    unfold useSurface
    rw [surface]
  unfold grab
  rw [if_neg (by simp [member]), if_neg (by simpa [held] using other), used]
  dsimp only
  rw [held]

/-- The surface is moved, mapped and raised, and then the pointer is grabbed, with the fence armed in between if the
clip loses room. -/
theorem confine_again (w : HostWindow) (rect : Rect) (kind : ClipKind) (held : s.seat.input.clip = some old) :
    (s.confine w ⟨rect, old.captureWindow, kind⟩).1.seat.input.warpFence =
        (if rect.restricts old.rect then .armed (s.env.lastSerial.after 4) else s.seat.input.warpFence) ∧
      (s.madeUntil (s.confine w ⟨rect, old.captureWindow, kind⟩).1)[3]? = some (.grabPointer w) := by
  let shown := s.showSurface w rect
  let ready := (if rect.restricts old.rect then shown.armWarpFence else shown).request (.grabPointer w)
  have confined : s.confine w ⟨rect, old.captureWindow, kind⟩ =
      if ready.env.grabSucceeds then (ready.establish w ⟨rect, old.captureWindow, kind⟩, true)
      else (ready.abandonGrab w old.captureWindow, false) := by
    unfold confine
    rw [held]
    rfl
  have fence : ready.seat.input.warpFence =
      if rect.restricts old.rect then .armed (s.env.lastSerial.after 4) else s.seat.input.warpFence := by
    dsimp only [ready]
    split
    · show Fence.armed (((s.env.lastSerial.after 1).after 1).after 1).next = _
      rw [Serial.next_eq_after, Serial.after_after, Serial.after_after, Serial.after_after]
    · rfl
  have asked : ready.env.journal.requests =
      s.env.journal.requests ++ grabWork w (s.area rect) := by
    dsimp only [ready]
    split <;> simp [shown, showSurface, request, act, Environment.request, armWarpFence, edit, grabWork, area]
  rw [confined]
  split
  · obtain ⟨made, requests, -⟩ := (ready.numbered_establish w ⟨rect, old.captureWindow, kind⟩).env
    rw [asked, List.append_assoc] at requests
    exact ⟨(warpFence_establish _ _ _).trans fence, by rw [madeUntil_eq requests]; rfl⟩
  · obtain ⟨made, requests, -⟩ := (ready.numbered_abandonGrab w old.captureWindow).env
    rw [asked, List.append_assoc] at requests
    exact ⟨(warpFence_abandonGrab _ _ _).trans fence, by rw [madeUntil_eq requests]; rfl⟩

/-- The serial at which a clip that loses room arms the fence is a new one. -/
theorem armed_after_ne {first : Serial} {log : List Issue} (traced : s.Traced first log) {n : Nat}
    (room : s.env.lastSerial.value.toNat + (n + 1) < UInt64.size) :
    Fence.armed (s.env.lastSerial.after (n + 1)) ≠ s.seat.input.warpFence := by
  intro same
  obtain ⟨issue, member, serial, -⟩ := traced.aimed _ same.symm
  have bounded := traced.bounded issue member
  rw [serial, Serial.toNat_after _ room] at bounded
  omega

/-- In a run from a seat at its start, in which no serial runs over: a fence that is armed stands at the serial of
exactly one request of the seat, which grabs or warps the pointer and is no later than the last serial. A move of the
pointer that the host reports on the capture surface from now on counts, whenever it is handled, unless the fence is
armed anew. A clip that passes to another rectangle or kind arms the fence, at the grab that comes fourth, exactly if
the rectangle takes room from the one before. -/
theorem warpFence_names_request {start : Scene} {log : List Issue}
    (run : Logged (InOrder start.env.lastSerial) start log s)
    (fresh : start.seat.input = (Seat.ofConfig start.seat.config).input) :
    (∀ warp, s.seat.input.warpFence = .armed warp → warp.value.toNat ≤ s.env.lastSerial.value.toNat ∧
      ∃ issue ∈ log, issue.serial = warp ∧ issue.request.movesPointer = true ∧
        ∀ other ∈ log, other.serial = warp → other = issue) ∧
    (∀ w e,
      let motion := s.reported w (.motion e)
      (∀ u : Scene, u.seat.input.warpFence = s.seat.input.warpFence ∨ u.seat.input.warpFence = {} →
        u.seat.input.isClipping = true → u.seat.input.captureSurface = some w →
        (target u.env motion).isNull = true → (u.dispatch motion).2 = true ∧
          ∃ input, (u.dispatch motion).1.env.journal.inputs =
            u.env.journal.inputs ++ [(Handle.null, .mouse input)]) ∧
      (s.seat.input.isClipping = true → s.seat.input.captureSurface = some w →
        (target s.env motion).isNull = true → s.env.queue = [] → ∀ mask, motion.matchesMask mask = true →
          let drained := (s.act fun env => env.push w (.motion e)).drain mask
          drained.2 = true ∧ ∃ input, drained.1.env.journal.inputs =
            s.env.journal.inputs ++ [(Handle.null, .mouse input)])) ∧
    (∀ old rect kind, s.seat.input.clip = some old → s.onDesktopThread = false →
      ¬(old.rect = rect ∧ old.kind = kind) →
      let t := (s.grab rect kind).1
      (∃ w, s.seat.input.captureSurface = some w ∧ (s.madeUntil t)[3]? = some (.grabPointer w)) ∧
        t.seat.input.warpFence = (if rect.restricts old.rect then .armed (s.env.lastSerial.after 4)
          else s.seat.input.warpFence) ∧
        (s.env.lastSerial.value.toNat + 4 < UInt64.size →
          (t.seat.input.warpFence ≠ s.seat.input.warpFence ↔ rect.restricts old.rect = true))) := by
  have traced := run.traced (congrArg InputState.warpFence fresh)
  refine ⟨fun warp armed => ?_, fun w e => ?_, fun old rect kind held member other => ?_⟩
  · obtain ⟨issue, known, rfl, moves⟩ := traced.aimed warp armed
    exact ⟨traced.bounded issue known, issue, known, rfl, moves,
      fun other member same => traced.eq_of_serial member known same⟩
  · intro motion
    have now := holdsBack_reported traced
    have counts : ∀ u : Scene, u.seat.input.warpFence = s.seat.input.warpFence ∨ u.seat.input.warpFence = {} →
        u.seat.input.isClipping = true → u.seat.input.captureSurface = some w →
        (target u.env motion).isNull = true → (u.dispatch motion).2 = true ∧
          ∃ input, (u.dispatch motion).1.env.journal.inputs =
            u.env.journal.inputs ++ [(Handle.null, .mouse input)] := by
      intro u fence clipping surface free
      have passed : u.seat.input.warpFence.holdsBack motion.serial = false := by
        rcases fence with same | released
        · rw [same]
          exact now
        · rw [released]
          rfl
      exact (dispatch_of_fresh clipping (by rw [isLoose, free]; rfl) passed).2 surface
    refine ⟨counts, fun clipping surface free idle mask wanted => ?_⟩
    rw [drain_push idle wanted]
    exact counts s (.inl rfl) clipping surface free
  · intro t
    obtain ⟨w, -, surface, -⟩ := run.covers (congrArg InputState.clip fresh) old held
    have surface : s.seat.input.captureSurface = some w := surface
    obtain ⟨fence, fourth⟩ := confine_again w rect kind held
    rw [← grab_again member held surface other] at fence fourth
    refine ⟨⟨w, surface, fourth⟩, fence, fun room => ?_⟩
    rw [show t.seat.input.warpFence = _ from fence]
    split
    · next smaller => exact iff_of_true (armed_after_ne traced room) smaller
    · next larger => exact iff_of_false (fun changed => changed rfl) larger

def fenced : Scene := (alone ⟨0, 0, 1920, 1080⟩).clipCursor (some ⟨0, 0, 800, 600⟩)

/-- The fence of that seat stands at the grab, which is the sixth request. A move that the host reports now counts. Half
of the rectangle arms the fence anew, a larger rectangle does not. -/
theorem fenced_names_grab :
    fenced.seat.input.warpFence = .armed ⟨6⟩ ∧
      (∃ issue ∈ (alone ⟨0, 0, 1920, 1080⟩).numbering ((alone ⟨0, 0, 1920, 1080⟩).madeUntil fenced),
        issue.serial = ⟨6⟩ ∧ issue.request.movesPointer = true) ∧
      ((fenced.act fun env => env.push ⟨0x04000001⟩ (.motion { position := ⟨5, 5⟩ })).drain .mouseMove).2 = true ∧
      (fenced.grab ⟨0, 0, 400, 600⟩ .explicit).1.seat.input.warpFence ≠ fenced.seat.input.warpFence ∧
      (fenced.grab ⟨0, 0, 900, 600⟩ .explicit).1.seat.input.warpFence = fenced.seat.input.warpFence := by
  have lasts : Lasts (alone ⟨0, 0, 1920, 1080⟩).env.lastSerial
      ((alone ⟨0, 0, 1920, 1080⟩).env.lastSerial.value.toNat +
        ((alone ⟨0, 0, 1920, 1080⟩).madeUntil fenced).length) := ⟨by decide +kernel, by decide +kernel⟩
  have run : Logged (InOrder (alone ⟨0, 0, 1920, 1080⟩).env.lastSerial) (alone ⟨0, 0, 1920, 1080⟩)
      ((alone ⟨0, 0, 1920, 1080⟩).numbering ((alone ⟨0, 0, 1920, 1080⟩).madeUntil fenced)) fenced := by
    refine .single (.clipCursor (some ⟨0, 0, 800, 600⟩)) ?_ rfl
    rintro t ⟨⟩
    exact lasts
  obtain ⟨named, counts, again⟩ := warpFence_names_request run rfl
  have armed : fenced.seat.input.warpFence = .armed ⟨6⟩ := by decide +kernel
  have held : fenced.seat.input.clip = some ⟨⟨0, 0, 800, 600⟩, ⟨0x20000⟩, .explicit⟩ := by decide +kernel
  have member : fenced.onDesktopThread = false := by decide +kernel
  obtain ⟨-, issue, known, serial, moves, -⟩ := named ⟨6⟩ armed
  have moved := (counts ⟨0x04000001⟩ { position := ⟨5, 5⟩ }).2 (by decide +kernel) (by decide +kernel)
    (by decide +kernel) (by decide +kernel) .mouseMove (by decide +kernel)
  have smaller := again _ ⟨0, 0, 400, 600⟩ .explicit held member (by decide)
  have larger := again _ ⟨0, 0, 900, 600⟩ .explicit held member (by decide)
  refine ⟨armed, ⟨issue, known, serial, moves⟩, moved.1, ?_, ?_⟩
  · exact (smaller.2.2 (by decide +kernel)).mpr (by decide)
  · rw [larger.2.1]
    exact if_neg (by decide)

end GuestSeat.Scene
