import GuestSeat.Proofs.Drain.Axes
import GuestSeat.Proofs.Drain.Handover
import Mathlib.Data.List.Forall2

/-!
What a drain makes of raw motion. While raw events may be added up, a drain of nothing but raw motion
hands over one event for every run of events whose axes are nested, and that event has the values of the
whole run. Which events make a run depends on their axes alone and not on the devices that they are
from; so the motion of several devices passes for that of one if they are together in a run, and only
then.
-/

namespace GuestSeat

def rawsOf (events : List EventRecord) : List (RawMotionEvent Float) :=
  events.filterMap fun e => e.kind.rawMotion?

theorem rawsOf_cons {e : EventRecord} {raw : RawMotionEvent Float}
    (h : e.kind = .generic (.rawMotion raw)) (rest : List EventRecord) :
    rawsOf (e :: rest) = raw :: rawsOf rest := by
  apply List.filterMap_cons_some
  rw [h]
  rfl

def Nested (a b : UInt32) : Prop := a ≠ 0 ∧ b ≠ 0 ∧ (a ||| b = b ∨ a ||| b = a)

instance : DecidableRel Nested := fun _ _ => inferInstanceAs (Decidable (_ ∧ _ ∧ (_ ∨ _)))

theorem Valuators.nests_iff {ν : Type} (p n : Valuators ν) : p.Nests n ↔ Nested p.mask n.mask := by
  simp [Nests, Nested, isEmpty]

section runs

variable {ν : Type}

/-- The runs of raw events with nested axes, the first of which has begun with `run` and has the axes of
`mask`. -/
def runsAfter (mask : UInt32) (run : List (RawMotionEvent ν)) :
    List (RawMotionEvent ν) → List (List (RawMotionEvent ν))
  | [] => [run]
  | raw :: rest =>
    if Nested mask raw.valuators.mask then
      runsAfter (mask ||| raw.valuators.mask) (run ++ [raw]) rest
    else run :: runsAfter raw.valuators.mask [raw] rest

def runs : List (RawMotionEvent ν) → List (List (RawMotionEvent ν))
  | [] => []
  | raw :: rest => runsAfter raw.valuators.mask [raw] rest

theorem flatten_runsAfter (mask : UInt32) (run rest : List (RawMotionEvent ν)) :
    (runsAfter mask run rest).flatten = run ++ rest := by
  induction rest generalizing mask run with
  | nil => simp [runsAfter]
  | cons raw rest ih =>
      unfold runsAfter
      split
      · rw [ih, List.append_assoc, List.singleton_append]
      · rw [List.flatten_cons, ih, List.singleton_append]

/-- The runs are contiguous, and every event is in one. -/
theorem flatten_runs (raws : List (RawMotionEvent ν)) : (runs raws).flatten = raws := by
  cases raws with
  | nil => rfl
  | cons raw rest => exact flatten_runsAfter _ [raw] rest

def OneDevice (run : List (RawMotionEvent ν)) : Prop := ∀ a ∈ run, ∀ b ∈ run, a.device = b.device

end runs

/-- Whether a handover comes to the same as a run of raw events. -/
def Gathers (run : List (RawMotionEvent Float)) (d : Handover) : Prop :=
  ∃ raw, d.event.kind = .generic (.rawMotion raw) ∧ Totals run raw

/-- Whether besides the whole run is from the device that the handover passes for. -/
def GathersOwn (run : List (RawMotionEvent Float)) (d : Handover) : Prop :=
  ∃ raw, d.event.kind = .generic (.rawMotion raw) ∧ Totals run raw ∧
    ∀ one ∈ run, one.device = raw.device

theorem Gathers.own_iff {run : List (RawMotionEvent Float)} {d : Handover} (h : Gathers run d) :
    GathersOwn run d ↔ OneDevice run := by
  constructor
  · rintro ⟨raw, -, -, own⟩ a inRun b inRun'
    exact (own a inRun).trans (own b inRun').symm
  · intro pure
    obtain ⟨raw, kind, totals⟩ := h
    obtain ⟨first, member, device, -⟩ := totals.passesFor
    exact ⟨raw, kind, totals, fun one inRun => (pure one inRun first member).trans device⟩

theorem forall₂_own_iff {all : List (List (RawMotionEvent Float))} {log : List Handover}
    (h : List.Forall₂ Gathers all log) :
    List.Forall₂ GathersOwn all log ↔ ∀ run ∈ all, OneDevice run := by
  induction h with
  | nil => simp
  | cons gathers _ ih => rw [List.forall₂_cons, gathers.own_iff, ih, List.forall_mem_cons]

namespace Scene

variable (s : Scene)

theorem mergeContext_accumulateRaw (raw : RawMotionEvent Float) :
    (s.accumulateRaw raw).1.mergeContext = s.mergeContext := by
  unfold accumulateRaw
  dsimp only
  split <;> rfl

theorem mergeContext_passWarpFence (serial : Serial) (free : s.seat.input.warpFence.isArmed = false) :
    (s.passWarpFence serial).1.mergeContext = s.mergeContext := by
  have same : (s.seat.input.warpFence.pass serial).isArmed = s.seat.input.warpFence.isArmed := by
    unfold Fence.pass
    split
    · rfl
    · rw [free]
      rfl
  exact congrArg (MergeContext.mk s.seat.input.rawOnly) same

/-- Raw motion is added up as long as no warp is waited for, and it makes none be waited for. -/
theorem allowsRaw_dispatch {event : EventRecord} {raw : RawMotionEvent Float}
    (kind : event.kind = .generic (.rawMotion raw)) (allowed : s.mergeContext.allowsRaw) :
    (s.dispatch event).1.mergeContext.allowsRaw := by
  let u := s.edit fun i => { i with inFlight := some ⟨event.tag, event.serial⟩ }
  have free : u.seat.input.warpFence.isArmed = false := by
    have both : s.seat.input.rawOnly = false ∧ s.seat.input.warpFence.isArmed = false := by
      simpa [mergeContext, MergeContext.allowsRaw] using allowed
    exact both.2
  have handled : (u.rawMotion event.serial raw).1.mergeContext = s.mergeContext := by
    unfold rawMotion
    split
    · have passed := u.mergeContext_passWarpFence event.serial free
      split
      · next v old =>
          rw [old] at passed
          exact passed
      · next v new =>
          rw [new] at passed
          exact (v.mergeContext_accumulateRaw raw).trans passed
    · exact u.mergeContext_accumulateRaw raw
  have same : (s.dispatch event).1.mergeContext = (u.rawMotion event.serial raw).1.mergeContext := by
    change (u.handle (target u.env event) event).1.mergeContext = _
    unfold handle
    rw [kind]
  rw [same, handled]
  exact allowed

/-- A waiting event that has the total of a run is handed over with the total of the whole run. -/
theorem gathers_handoversAfter {waiting : Handover} {total : RawMotionEvent Float}
    {run : List (RawMotionEvent Float)} (kind : waiting.event.kind = .generic (.rawMotion total))
    (totals : Totals run total) (allowed : s.mergeContext.allowsRaw) (place : Nat)
    {events : List EventRecord} (raws : ∀ e ∈ events, ∃ raw : RawMotionEvent Float,
      e.kind = .generic (.rawMotion raw) ∧ raw.valuators.WellFormed) :
    List.Forall₂ Gathers (runsAfter total.valuators.mask run (rawsOf events))
      (s.handoversAfter waiting place events) := by
  induction events generalizing s waiting place total run with
  | nil => exact .cons ⟨total, kind, totals⟩ .nil
  | cons e rest ih =>
      obtain ⟨⟨raw, hkind, formed⟩, more⟩ := List.forall_mem_cons.mp raws
      have tag : waiting.event.tag = .rawMotion := congrArg EventKind.tag kind
      have meeting := meeting_merge s.mergeContext waiting.event e
      rw [rawsOf_cons hkind]
      unfold handoversAfter runsAfter
      generalize merge s.mergeContext waiting.event e = merged at meeting ⊢
      cases meeting with
      | updated h => exact absurd tag h.tag_ne_rawMotion
      | passed h => exact absurd tag h.tag_ne_rawMotion
      | addedToNewer older newer hp hn _ nested wider =>
          cases kind.symm.trans hp
          cases hkind.symm.trans hn
          rw [if_pos ((Valuators.nests_iff _ _).mp nested), wider]
          exact ih s rfl (totals.addToNewer formed wider) allowed (place + 1) more
      | addedToOlder older newer hp hn _ nested wider =>
          cases kind.symm.trans hp
          cases hkind.symm.trans hn
          rw [if_pos ((Valuators.nests_iff _ _).mp nested), wider]
          exact ih s rfl (totals.addToOlder wider) allowed (place + 1) more
      | apart disjoint =>
          have kept := disjoint total raw kind hkind allowed
          rw [if_neg fun nested => kept ((Valuators.nests_iff _ _).mpr nested)]
          exact .cons ⟨total, kind, totals⟩
            (ih _ hkind (.single formed) (s.allowsRaw_dispatch kind allowed) (place + 1) more)

theorem gathers_handoversOf (allowed : s.mergeContext.allowsRaw) {events : List EventRecord}
    (raws : ∀ e ∈ events, ∃ raw : RawMotionEvent Float,
      e.kind = .generic (.rawMotion raw) ∧ raw.valuators.WellFormed) :
    List.Forall₂ Gathers (runs (rawsOf events)) (s.handoversOf events) := by
  cases events with
  | nil => exact .nil
  | cons e rest =>
      obtain ⟨⟨raw, kind, formed⟩, more⟩ := List.forall_mem_cons.mp raws
      rw [rawsOf_cons kind]
      exact s.gathers_handoversAfter kind (.single formed) allowed 1 more

/-- Whoever takes some raw motion takes all of it. -/
theorem accepted_of_raw (mask : QueueMask)
    (raws : ∀ e ∈ s.env.queue, ∃ raw, e.kind = .generic (.rawMotion raw)) :
    s.accepted mask = s.env.queue ∨ s.accepted mask = [] := by
  have alike : ∀ e ∈ s.env.queue, e.matchesMask mask =
      (mask.contains QueueMask.allInput || QueueMask.input.intersects mask) := by
    intro e member
    obtain ⟨raw, kind⟩ := raws e member
    unfold EventRecord.matchesMask EventKind.categories
    rw [kind]
  unfold accepted
  rw [List.filter_congr alike]
  cases mask.contains QueueMask.allInput || QueueMask.input.intersects mask with
  | false => exact Or.inr (List.filter_false _)
  | true => exact Or.inl (List.filter_true _)

/-- What a drain of a queue of raw motion hands over, while raw motion may be added up: one event for
each run, with the values of the run. Every event has nothing but the motion of the device that it
passes for if and only if no run has events of two devices. -/
theorem drain_gathers_runs {s : Scene} (mask : QueueMask)
    (raws : ∀ e ∈ s.env.queue, ∃ raw : RawMotionEvent Float,
      e.kind = .generic (.rawMotion raw) ∧ raw.valuators.WellFormed)
    (allowed : s.mergeContext.allowsRaw) :
    s.drain mask = s.handleAll mask (s.handovers mask) ∧
      (s.accepted mask = s.env.queue ∨ s.accepted mask = []) ∧
      (runs (rawsOf (s.accepted mask))).flatten = rawsOf (s.accepted mask) ∧
      List.Forall₂ Gathers (runs (rawsOf (s.accepted mask))) (s.handovers mask) ∧
      (List.Forall₂ GathersOwn (runs (rawsOf (s.accepted mask))) (s.handovers mask) ↔
        ∀ run ∈ runs (rawsOf (s.accepted mask)), OneDevice run) := by
  have taken : ∀ e ∈ s.accepted mask, ∃ raw : RawMotionEvent Float,
      e.kind = .generic (.rawMotion raw) ∧ raw.valuators.WellFormed :=
    fun e member => raws e (List.mem_filter.mp member).1
  have gathers := (s.withQueue (s.rejected mask)).gathers_handoversOf allowed taken
  refine ⟨s.drain_eq_handleAll mask, s.accepted_of_raw mask ?_, flatten_runs _, gathers,
    forall₂_own_iff gathers⟩
  intro e member
  obtain ⟨raw, kind, -⟩ := raws e member
  exact ⟨raw, kind⟩

/-- A screen with steps of two devices along the same axis in the queue. -/
def twoMice : Scene :=
  let step (device : UInt16) (value : Float) : EventRecord :=
    { serial := ⟨0⟩, window := Environment.root
      kind := .generic (.rawMotion { device := ⟨device⟩, valuators := ⟨1, [value]⟩ }) }
  let s : Scene := { seat := .ofConfig {}, env := .ofScreen ⟨0, 0, 1920, 1080⟩ }
  s.withQueue [step 7 5, step 9 3]

/-- The second device passes for the first as well. -/
theorem twoMice_mixed : ¬ List.Forall₂ GathersOwn
    (runs (rawsOf (twoMice.accepted QueueMask.allInput)))
    (twoMice.handovers QueueMask.allInput) := by
  have raws : ∀ e ∈ twoMice.env.queue, ∃ raw : RawMotionEvent Float,
      e.kind = .generic (.rawMotion raw) ∧ raw.valuators.WellFormed := by
    intro e member
    rcases List.mem_cons.mp member with rfl | member
    · exact ⟨_, rfl, by decide⟩
    · obtain rfl := List.mem_singleton.mp member
      exact ⟨_, rfl, by decide⟩
  have allowed : twoMice.mergeContext.allowsRaw := by decide
  obtain ⟨-, -, -, -, own⟩ := drain_gathers_runs QueueMask.allInput raws allowed
  rw [own]
  intro pure
  have together : OneDevice (rawsOf twoMice.env.queue) := pure _ (List.mem_singleton_self _)
  have same := together _ List.mem_cons_self _ (List.mem_cons_of_mem _ List.mem_cons_self)
  revert same
  decide

end Scene

end GuestSeat
