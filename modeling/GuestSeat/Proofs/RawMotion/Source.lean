import GuestSeat.RawMotion.Accumulator

/-!
Raw motion of one device at a time. While raw motion is on, the events that count are those of the device that
drives the core pointer: the source that the last change named, or before any such change the first of the core
pointer's slaves that sent something to be taken in. Which device that is follows from the calls of the session
alone. The events of all others leave no trace.
-/

namespace GuestSeat

/-- What is asked of an accumulator in the course of a session. -/
inductive RawCall (ν : Type)
  | event (event : RawMotionEvent ν) (screen : Rect)
  | change (change : DeviceChangeEvent ν)
  | calibrate (axes : List (AxisInfo ν))

namespace Accumulator

variable {ν : Type} {a b : Accumulator ν}

def named? (a : Accumulator ν) : RawCall ν → Option DeviceId
  | .change change => if a.isSourceSwitch change then some change.source else none
  | .event _ _ | .calibrate _ => none

def lastNamed (a : Accumulator ν) (calls : List (RawCall ν)) : Option DeviceId :=
  calls.reverse.findSome? a.named?

theorem lastNamed_append (a : Accumulator ν) (calls more : List (RawCall ν)) :
    a.lastNamed (calls ++ more) = (a.lastNamed more).or (a.lastNamed calls) := by
  unfold lastNamed
  rw [List.reverse_append, List.findSome?_append]

theorem lastNamed_eq_none_iff {calls : List (RawCall ν)} :
    a.lastNamed calls = none ↔ ∀ call ∈ calls, a.named? call = none := by
  unfold lastNamed
  simp [List.findSome?_eq_none_iff]

theorem isAttached_iff {device : DeviceId} : a.isAttached device = true ↔
    ∃ d ∈ a.devices, d.id = device ∧ d.use = .slavePointer ∧ a.corePointer = some d.attachment := by
  unfold isAttached
  rw [List.any_eq_true]
  refine exists_congr fun d => and_congr_right fun _ => ?_
  simp only [Bool.and_eq_true, beq_iff_eq]
  constructor
  · rintro ⟨⟨use, id⟩, core⟩
    exact ⟨id, use, core⟩
  · rintro ⟨id, use, core⟩
    exact ⟨⟨use, id⟩, core⟩

/-- Whether an event has values and its device is a slave of the core pointer, while both coordinates have
an axis. -/
def isSent (a : Accumulator ν) (event : RawMotionEvent ν) : Bool :=
  a.isCalibrated && !event.valuators.isEmpty && a.isAttached event.device

def sender? (a : Accumulator ν) : RawCall ν → Option DeviceId
  | .event event _ => if a.isSent event then some event.device else none
  | .change _ | .calibrate _ => none

theorem isAttached_of_sender? {call : RawCall ν} {device : DeviceId}
    (sends : a.sender? call = some device) : a.isAttached device = true := by
  cases call with
  | event event screen =>
    obtain ⟨sent, same⟩ := Option.ite_none_right_eq_some.mp sends
    obtain rfl := Option.some.inj same
    simp only [isSent, Bool.and_eq_true] at sent
    exact sent.2
  | change | calibrate => cases sends

structure SameSession (a b : Accumulator ν) : Prop where
  status : b.status = a.status
  core : b.corePointer = a.corePointer
  devices : b.devices = a.devices

namespace SameSession

theorem isEnabled (h : a.SameSession b) : b.isEnabled = a.isEnabled := by
  unfold Accumulator.isEnabled
  rw [h.status]

theorem isAttached (h : a.SameSession b) (device : DeviceId) :
    b.isAttached device = a.isAttached device := by
  unfold Accumulator.isAttached
  rw [h.devices, h.core]

theorem named? (h : a.SameSession b) : b.named? = a.named? := by
  funext call
  unfold Accumulator.named? isSourceSwitch
  rw [h.core]

end SameSession

variable {event : RawMotionEvent ν}

structure Admits (a : Accumulator ν) (event : RawMotionEvent ν) : Prop where
  calibrated : a.isCalibrated = true
  filled : event.valuators.isEmpty = false
  on : a.isEnabled = true
  source : a.sourceAfter event.device = some event.device

theorem admits_known {device : DeviceId} (known : a.source = some device) (on : a.isEnabled = true) :
    a.Admits event ↔
      a.isCalibrated = true ∧ event.valuators.isEmpty = false ∧ device = event.device := by
  have stays : a.sourceAfter event.device = some device := by simp [sourceAfter, known]
  constructor
  · rintro ⟨calibrated, filled, -, source⟩
    exact ⟨calibrated, filled, Option.some.inj (stays.symm.trans source)⟩
  · rintro ⟨calibrated, filled, rfl⟩
    exact ⟨calibrated, filled, on, stays⟩

theorem admits_unknown (unknown : a.source = none) (on : a.isEnabled = true) :
    a.Admits event ↔ a.isSent event = true := by
  have chosen : a.sourceAfter event.device = some event.device ↔ a.isAttached event.device = true := by
    simp [sourceAfter, unknown]
  unfold isSent
  simp only [Bool.and_eq_true, Bool.not_eq_true']
  constructor
  · rintro ⟨calibrated, filled, -, source⟩
    exact ⟨⟨calibrated, filled⟩, chosen.mp source⟩
  · rintro ⟨⟨calibrated, filled⟩, attached⟩
    exact ⟨calibrated, filled, on, chosen.mpr attached⟩

variable [MotionNumber ν]

/-- Whether an event is taken in: it is answered by motion or put off, or something else is left over. -/
def Takes (a : Accumulator ν) (event : RawMotionEvent ν) (screen : Rect) : Prop :=
  let (b, outcome) := a.accumulate event screen
  outcome = .pending ∨ (∃ step, outcome = .motion step) ∨ b.restX ≠ a.restX ∨ b.restY ≠ a.restY

theorem accumulate_eq_advance (h : a.Admits event) (screen : Rect) :
    ∃ x y, a.x = some x ∧ a.y = some y ∧ a.accumulate event screen =
      { a with source := some event.device }.advance (x.stepOf event.valuators screen.width)
        (y.stepOf event.valuators screen.height) := by
  obtain ⟨both, filled, on, source⟩ := h
  obtain ⟨hx, hy⟩ : a.x.isSome ∧ a.y.isSome := by simpa [isCalibrated] using both
  obtain ⟨x, hx⟩ := Option.isSome_iff_exists.mp hx
  obtain ⟨y, hy⟩ := Option.isSome_iff_exists.mp hy
  refine ⟨x, y, hx, hy, ?_⟩
  unfold accumulate
  rw [hx, hy]
  simp [filled, on, source]

/-- An event that is taken in changes what is left over and makes its device the source. -/
theorem accumulate_admitted (h : a.Admits event) (screen : Rect) : ∃ restX restY outcome,
    a.accumulate event screen = ({ a with restX, restY, source := some event.device }, outcome) ∧
      (outcome = .pending ∨ ∃ step, outcome = .motion step) := by
  obtain ⟨x, y, -, -, eq⟩ := accumulate_eq_advance h screen
  rw [eq]
  unfold advance
  dsimp only
  split
  · exact ⟨_, _, _, rfl, Or.inl rfl⟩
  · exact ⟨_, _, _, rfl, Or.inr ⟨_, rfl⟩⟩

theorem accumulate_refused (h : ¬ a.Admits event) (screen : Rect) :
    a.accumulate event screen = (a, .notApplicable) := by
  unfold accumulate
  split
  · next x y hx hy =>
    split
    · rfl
    · next ready =>
      split
      · next own =>
        obtain ⟨filled, on⟩ : event.valuators.isEmpty = false ∧ a.isEnabled = true := by
          simpa using ready
        exact absurd ⟨by simp [isCalibrated, hx, hy], filled, on, by simpa using own⟩ h
      · rfl
  · rfl

theorem takes_iff (a : Accumulator ν) (event : RawMotionEvent ν) (screen : Rect) :
    a.Takes event screen ↔ a.Admits event := by
  unfold Takes
  constructor
  · intro taken
    refine Classical.byContradiction fun refused => ?_
    rw [accumulate_refused refused] at taken
    simp at taken
  · intro admitted
    obtain ⟨restX, restY, outcome, eq, answered⟩ := accumulate_admitted admitted screen
    rw [eq]
    exact answered.elim Or.inl fun moved => Or.inr (Or.inl moved)

def next (a : Accumulator ν) : RawCall ν → Accumulator ν
  | .event event screen => (a.accumulate event screen).1
  | .change change => a.follow change
  | .calibrate axes => a.calibrate axes

def after (a : Accumulator ν) (calls : List (RawCall ν)) : Accumulator ν := calls.foldl next a

def firstSender (a : Accumulator ν) : List (RawCall ν) → Option DeviceId
  | [] => none
  | call :: rest => (a.sender? call).or ((a.next call).firstSender rest)

theorem firstSender_append (a : Accumulator ν) (calls more : List (RawCall ν)) :
    a.firstSender (calls ++ more) = (a.firstSender calls).or ((a.after calls).firstSender more) := by
  induction calls generalizing a with
  | nil => rfl
  | cons call rest ih =>
    rw [List.cons_append, firstSender, ih, firstSender, Option.or_assoc]
    rfl

theorem sameSession_next (a : Accumulator ν) (call : RawCall ν) : a.SameSession (a.next call) := by
  cases call with
  | event event screen =>
    by_cases h : a.Admits event
    · obtain ⟨restX, restY, outcome, eq, -⟩ := accumulate_admitted h screen
      simp only [next, eq]
      exact ⟨rfl, rfl, rfl⟩
    · simp only [next, accumulate_refused h]
      exact ⟨rfl, rfl, rfl⟩
  | change change =>
    simp only [next, follow]
    split <;> exact ⟨rfl, rfl, rfl⟩
  | calibrate axes => exact ⟨rfl, rfl, rfl⟩

theorem sameSession_after (a : Accumulator ν) (calls : List (RawCall ν)) :
    a.SameSession (a.after calls) := by
  induction calls generalizing a with
  | nil => exact ⟨rfl, rfl, rfl⟩
  | cons call rest ih =>
    obtain ⟨status, core, devices⟩ := ih (a.next call)
    have first := sameSession_next a call
    exact ⟨status.trans first.status, core.trans first.core, devices.trans first.devices⟩

theorem isAttached_of_firstSender {device : DeviceId} {calls : List (RawCall ν)}
    (first : a.firstSender calls = some device) : a.isAttached device = true := by
  induction calls generalizing a with
  | nil => cases first
  | cons call rest ih =>
    rcases Option.or_eq_some_iff.mp first with own | ⟨-, later⟩
    · exact isAttached_of_sender? own
    · rw [← (sameSession_next a call).isAttached]
      exact ih later

theorem isSent_iff_first (a : Accumulator ν) (event : RawMotionEvent ν) (screen : Rect)
    (future : List (RawCall ν)) : a.isSent event = true ↔
      a.isCalibrated = true ∧ event.valuators.isEmpty = false ∧
        a.firstSender (.event event screen :: future) = some event.device := by
  constructor
  · intro sent
    obtain ⟨⟨calibrated, filled⟩, -⟩ :
        (a.isCalibrated = true ∧ event.valuators.isEmpty = false) ∧ a.isAttached event.device = true := by
      simpa [isSent] using sent
    refine ⟨calibrated, filled, ?_⟩
    rw [firstSender, sender?, if_pos sent, Option.some_or]
  · rintro ⟨calibrated, filled, first⟩
    simp [isSent, calibrated, filled, isAttached_of_firstSender first]

/-- An event is there to be taken in if it has values, both coordinates have an axis and its device is the source
or, as long as none is known, the next sender. -/
theorem admits_iff_source (on : a.isEnabled = true) (event : RawMotionEvent ν) (screen : Rect)
    (future : List (RawCall ν)) : a.Admits event ↔
      a.isCalibrated = true ∧ event.valuators.isEmpty = false ∧
        a.source.or (a.firstSender (.event event screen :: future)) = some event.device := by
  cases known : a.source with
  | some device => rw [admits_known known on, Option.some_or, Option.some_inj]
  | none =>
    rw [admits_unknown known on, Option.none_or]
    exact a.isSent_iff_first event screen future

/-- A call sets the source if it names one, and otherwise a sender becomes the source if none was known. -/
theorem source_next (on : a.isEnabled = true) (call : RawCall ν) :
    (a.next call).source = (a.named? call).or (a.source.or (a.sender? call)) := by
  cases call with
  | event event screen =>
    simp only [next, named?, sender?, Option.none_or]
    by_cases h : a.Admits event
    · obtain ⟨restX, restY, outcome, eq, -⟩ := accumulate_admitted h screen
      rw [eq]
      cases source : a.source with
      | some device => rw [Option.some_or, ((admits_known source on).mp h).2.2]
      | none => rw [Option.none_or, if_pos ((admits_unknown source on).mp h)]
    · rw [accumulate_refused h]
      cases source : a.source with
      | some device => rw [Option.some_or]
      | none => rw [Option.none_or, if_neg fun sent => h ((admits_unknown source on).mpr sent)]
  | change change =>
    simp only [next, follow, named?, sender?]
    split <;> simp
  | calibrate axes =>
    simp only [next, named?, sender?, Option.or_none, Option.none_or]
    rfl

/-- The source after some calls is the one last named, or else the one known before, or else the first
sender. -/
theorem source_after (on : a.isEnabled = true) (calls : List (RawCall ν)) :
    (a.after calls).source = (a.lastNamed calls).or (a.source.or (a.firstSender calls)) := by
  induction calls generalizing a with
  | nil => simp [after, lastNamed, firstSender]
  | cons call rest ih =>
    have same := sameSession_next a call
    have later : (a.next call).lastNamed rest = a.lastNamed rest := by
      unfold lastNamed
      rw [same.named?]
    have first : a.lastNamed [call] = a.named? call := by simp [lastNamed]
    change ((a.next call).after rest).source = _
    rw [ih (same.isEnabled.trans on), source_next on, later, firstSender, ← List.singleton_append,
      lastNamed_append, first]
    simp only [Option.or_assoc]

/-- The device whose events count in a stretch of a session in which no source is named: the source that was
last named before it, or if there is none, the first sender of the session. -/
def sourceOf (a : Accumulator ν) (earlier stretch : List (RawCall ν)) : Option DeviceId :=
  (a.lastNamed earlier).or (a.firstSender (earlier ++ stretch))

theorem sourceOf_append (a : Accumulator ν) {earlier past : List (RawCall ν)}
    (steady : a.lastNamed past = none) (known : a.source = none) (on : a.isEnabled = true)
    (future : List (RawCall ν)) : a.sourceOf earlier (past ++ future) =
      (a.after (earlier ++ past)).source.or ((a.after (earlier ++ past)).firstSender future) := by
  unfold sourceOf
  rw [source_after on, known, Option.none_or, lastNamed_append, steady, Option.none_or,
    ← List.append_assoc, firstSender_append, Option.or_assoc]

/-- Raw motion comes from one device at a time. In every stretch of a session in which no change is answered by
yes, the events that are taken in are those of one device: the source that was named last, or if none was, the
first slave of the core pointer that sent an event with values while both coordinates had an axis. Every event
of that device that has values is taken in while both coordinates have an axis, and all other events do not
apply and change nothing. The answer to a change does not depend on the calls before. -/
theorem one_source_at_a_time (blank : Accumulator ν) (session : RawSession ν)
    (earlier stretch : List (RawCall ν)) (steady : ∀ change, .change change ∈ stretch →
      (blank.enable session).isSourceSwitch change = false) :
    let start := blank.enable session
    let source := start.sourceOf earlier stretch
    (∀ past event screen future, stretch = past ++ .event event screen :: future →
      let s := start.after (earlier ++ past)
      (s.Takes event screen ↔
        s.isCalibrated = true ∧ event.valuators.isEmpty = false ∧ source = some event.device) ∧
      (¬ s.Takes event screen → s.accumulate event screen = (s, .notApplicable))) ∧
    (start.lastNamed earlier = none → ∀ device, source = some device → ∃ d ∈ session.devices,
      d.id = device ∧ d.use = .slavePointer ∧ d.attachment = session.corePointer) ∧
    ∀ calls change, (start.after calls).isSourceSwitch change = start.isSourceSwitch change := by
  intro start source
  have on : start.isEnabled = true := rfl
  refine ⟨?_, ?_, ?_⟩
  · rintro past event screen future rfl s
    have unnamed : start.lastNamed past = none := by
      refine lastNamed_eq_none_iff.mpr fun call member => ?_
      cases call with
      | change change =>
        have no := steady change (List.mem_append_left _ member)
        exact if_neg (Bool.eq_false_iff.mp no)
      | event | calibrate => rfl
    have on' : s.isEnabled = true := (sameSession_after start _).isEnabled.trans on
    -- the source of the stretch, seen from the event: the one known by now, or a sender still to come
    have eq : source = s.source.or (s.firstSender (.event event screen :: future)) :=
      sourceOf_append start unnamed rfl on _
    rw [takes_iff, eq]
    exact ⟨admits_iff_source on' event screen future, fun refused => accumulate_refused refused screen⟩
  · intro unnamed device chosen
    have first : start.firstSender (earlier ++ stretch) = some device := by
      have same : source = (start.lastNamed earlier).or _ := rfl
      rw [← chosen, same, unnamed, Option.none_or]
    obtain ⟨d, listed, id, use, core⟩ := isAttached_iff.mp (isAttached_of_firstSender first)
    exact ⟨d, listed, id, use, (Option.some.inj core).symm⟩
  · intro calls change
    unfold isSourceSwitch
    rw [(sameSession_after start calls).core]

/-- Two slaves of the core pointer and a device of nobody's; the slave that moves first is the source. -/
theorem first_of_two_slaves :
    let axis (number : UInt16) (label : AxisLabel) : AxisInfo Float := ⟨number, label, -1, -1, .relative⟩
    let session : RawSession Float := ⟨⟨2⟩, [⟨⟨2⟩, .masterPointer, ⟨3⟩, [axis 0 .relX, axis 1 .relY]⟩,
      ⟨⟨9⟩, .slavePointer, ⟨2⟩, []⟩, ⟨⟨12⟩, .slavePointer, ⟨2⟩, []⟩]⟩
    let event (device : UInt16) : RawMotionEvent Float := { device := ⟨device⟩, valuators := ⟨1, [5]⟩ }
    let screen : Rect := ⟨0, 0, 1920, 1080⟩
    let start := (initial : Accumulator Float).enable session
    let foreign := start.after [.event (event 11) screen]
    let moved := start.after [.event (event 11) screen, .event (event 12) screen]
    foreign.Takes (event 12) screen ∧ moved.accumulate (event 9) screen = (moved, .notApplicable) := by
  intro axis session event screen start foreign moved
  obtain ⟨each, -, -⟩ := one_source_at_a_time initial session []
    [.event (event 11) screen, .event (event 12) screen, .event (event 9) screen] (by simp)
  obtain ⟨second, -⟩ := each [.event (event 11) screen] (event 12) screen _ rfl
  obtain ⟨third, refused⟩ := each [.event (event 11) screen, .event (event 12) screen] (event 9) screen [] rfl
  refine ⟨second.mpr ⟨by decide, by decide, by decide⟩, refused fun taken => ?_⟩
  exact absurd (third.mp taken).2.2 (by decide)

end Accumulator

end GuestSeat
