import GuestSeat.Proofs.Drain.Axes
import GuestSeat.Proofs.Drain.Merging

/-!
Raw events added up axis by axis. Of two raw events whose axes are nested the one with more axes stays, and
each of its axes is raised by what the other one has for it, wherever the values stand in the two sets. A
single pass over the axes that counts the slots of both sets on its way adds the same. Nothing is asked of
the addition.
-/

namespace GuestSeat

namespace Valuators

variable {ν : Type} {v w : Valuators ν} {axis : Nat}

def HasAxesOf (v w : Valuators ν) : Prop := ∀ axis, w.isSet axis = true → v.isSet axis = true

theorem hasAxesOf_iff : v.HasAxesOf w ↔ w.mask ||| v.mask = v.mask := by
  constructor
  · intro wider
    refine UInt32.toNat_inj.mp (Nat.eq_of_testBit_eq fun axis => ?_)
    rw [UInt32.toNat_or, Nat.testBit_or]
    change (w.isSet axis || v.isSet axis) = v.isSet axis
    cases set : w.isSet axis with
    | true => rw [wider axis set, Bool.or_true]
    | false => rw [Bool.false_or]
  · intro same axis set
    exact isSet_of_or_eq same set

theorem rank_succ (v : Valuators ν) (axis : Nat) :
    v.rank (axis + 1) = if v.isSet axis then v.rank axis + 1 else v.rank axis := by
  unfold rank
  rw [List.range_succ, List.filter_append, List.length_append]
  split <;> simp [*]

/-- The axis of a slot is the one whose rank the slot is. -/
theorem slot_eq_rank {slot : Nat} (here : v.axes[slot]? = some axis) : slot = v.rank axis := by
  obtain ⟨inAxes, at_slot⟩ := List.getElem?_eq_some_iff.mp here
  have set : v.isSet axis = true := by
    rw [← at_slot]
    exact (List.mem_filter.mp (List.getElem_mem inAxes)).2
  have once : v.axes.Nodup := List.nodup_range.filter _
  exact (List.getElem?_inj inAxes once).mp (here.trans (axes_rank set).symm)

def below (limit : Nat) (reading : Nat → Option ν) (axis : Nat) : Option ν :=
  if axis < limit then reading axis else none

theorem below_succ_of_ne {reading : Nat → Option ν} {a : Nat} (other : a ≠ axis) :
    below (axis + 1) reading a = below axis reading a := by
  have same : a < axis + 1 ↔ a < axis := by omega
  simp only [below, same]

section sums

variable [Add ν]

/-- Whether a set is `v` with the values of `w` added to it: the axes of `w` are raised by its values, and
the other ones are as they were. -/
structure IsSum (v w sum : Valuators ν) : Prop where
  mask : sum.mask = v.mask
  formed : sum.WellFormed
  raised : ∀ axis, w.isSet axis = true → ∃ old step, v.get? axis = some old ∧
    w.get? axis = some step ∧ sum.get? axis = some (old + step)
  kept : ∀ axis, w.isSet axis = false → sum.get? axis = v.get? axis

theorem isSum_plus (formed : v.WellFormed) (formed' : w.WellFormed) (wider : v.HasAxesOf w) :
    v.IsSum w (v.plus w) where
  mask := rfl
  formed := formed.plus
  raised axis set := by
    obtain ⟨old, found⟩ := formed.get?_isSome (wider axis set)
    obtain ⟨step, found'⟩ := formed'.get?_isSome set
    refine ⟨old, step, found, found', ?_⟩
    rw [get?_plus, found, found']
    rfl
  kept axis unset := by
    have absent : w.get? axis = none := by simp [get?, unset]
    rw [get?_plus, absent]
    cases v.get? axis <;> rfl

/-- How far a pass over the axes has come: the slot of the next axis of the set that is raised, the values
that are still to be added, and the values so far. -/
structure Pass (ν : Type) where
  slot : Nat
  steps : List ν
  values : List ν

/-- An axis takes up a slot if the set that is raised has it, and one of the values to be added if the other
set has it. -/
def Pass.over (v w : Valuators ν) (pass : Pass ν) (axis : Nat) : Pass ν where
  slot := if v.isSet axis then pass.slot + 1 else pass.slot
  steps := if w.isSet axis then pass.steps.tail else pass.steps
  values :=
    match if w.isSet axis then pass.steps.head? else none with
    | none => pass.values
    | some step => pass.values.modify pass.slot (· + step)

def raisedBy (v : Valuators ν) (reading : Nat → Option ν) : List ν :=
  v.values.mapIdx fun slot value =>
    match (v.axes[slot]?).bind reading with
    | none => value
    | some step => value + step

theorem raisedBy_congr {f g : Nat → Option ν} (same : ∀ axis ∈ v.axes, f axis = g axis) :
    v.raisedBy f = v.raisedBy g := by
  refine List.ext_getElem? fun slot => ?_
  unfold raisedBy
  rw [List.getElem?_mapIdx, List.getElem?_mapIdx]
  cases here : v.axes[slot]? with
  | none => rfl
  | some axis => rw [Option.bind_some, Option.bind_some, same axis (List.mem_of_getElem? here)]

theorem raisedBy_none (v : Valuators ν) : v.raisedBy (fun _ => none) = v.values := by
  refine List.ext_getElem? fun slot => ?_
  unfold raisedBy
  rw [List.getElem?_mapIdx]
  cases v.axes[slot]? <;> simp

/-- The value at the rank of an axis is raised, and no other one. -/
theorem modify_raisedBy {f g : Nat → Option ν} {step : ν} (set : v.isSet axis = true)
    (before : f axis = none) (after : g axis = some step) (others : ∀ a ≠ axis, g a = f a) :
    (v.raisedBy f).modify (v.rank axis) (· + step) = v.raisedBy g := by
  refine List.ext_getElem? fun slot => ?_
  unfold raisedBy
  rw [List.getElem?_modify, List.getElem?_mapIdx, List.getElem?_mapIdx]
  by_cases here : v.rank axis = slot
  · subst here
    simp [axes_rank set, before, after]
  · have elsewhere : (v.axes[slot]?).bind g = (v.axes[slot]?).bind f := by
      refine Option.bind_congr fun a found => others a ?_
      rintro rfl
      exact here (slot_eq_rank found).symm
    rw [elsewhere]
    simp [here]

/-- The pass has counted the axes of both sets so far, and has added what there is for the axes so far. -/
theorem passOver_below (wider : v.HasAxesOf w) (limit : Nat) :
    (List.range limit).foldl (Pass.over v w) ⟨0, w.values, v.values⟩ =
      ⟨v.rank limit, w.values.drop (w.rank limit), v.raisedBy (below limit w.get?)⟩ := by
  induction limit with
  | zero => exact congrArg (Pass.mk 0 w.values) (raisedBy_none v).symm
  | succ axis ih =>
    rw [List.range_succ, List.foldl_append, ih, List.foldl_cons, List.foldl_nil, rank_succ, rank_succ]
    have head : (if w.isSet axis then (w.values.drop (w.rank axis)).head? else none) = w.get? axis := by
      rw [List.head?_drop]
      rfl
    have steps : (if w.isSet axis then (w.values.drop (w.rank axis)).tail else w.values.drop (w.rank axis)) =
        w.values.drop (if w.isSet axis then w.rank axis + 1 else w.rank axis) := by
      rw [List.tail_drop]
      split <;> rfl
    unfold Pass.over
    rw [head, steps]
    congr 1
    have before : below axis w.get? axis = none := if_neg (Nat.lt_irrefl axis)
    have after : below (axis + 1) w.get? axis = w.get? axis := if_pos (Nat.lt_succ_self axis)
    cases found : w.get? axis with
    | none =>
      refine raisedBy_congr fun a _ => ?_
      by_cases here : a = axis
      · rw [here, before, after, found]
      · exact (below_succ_of_ne here).symm
    | some step =>
      exact modify_raisedBy (wider axis (isSet_of_get? found)) before (after.trans found)
        fun a other => below_succ_of_ne other

def plusInOnePass (v w : Valuators ν) : Valuators ν where
  mask := v.mask
  values := ((List.range axisLimit).foldl (Pass.over v w) ⟨0, w.values, v.values⟩).values

theorem plus_eq_plusInOnePass (wider : v.HasAxesOf w) : v.plus w = v.plusInOnePass w := by
  have all : v.raisedBy (below axisLimit w.get?) = v.raisedBy w.get? := by
    refine raisedBy_congr fun axis member => if_pos ?_
    exact List.mem_range.mp (List.mem_filter.mp member).1
  unfold plusInOnePass
  rw [passOver_below wider, all]
  rfl

/-- The values of one set are added to those of the other one if that has all its axes, to the newer one if
both have the same; sets without axes and sets that are not nested are left alone. -/
theorem mergeValuators_cases (p n : Valuators ν) :
    (p.isEmpty = false ∧ n.isEmpty = false ∧ n.HasAxesOf p ∧
      mergeValuators p n = (.discard, p, n.plus p)) ∨
    (p.isEmpty = false ∧ n.isEmpty = false ∧ p.HasAxesOf n ∧ ¬ n.HasAxesOf p ∧
      mergeValuators p n = (.ignore, p.plus n, n)) ∨
    ((p.isEmpty = false → n.isEmpty = false → ¬ n.HasAxesOf p ∧ ¬ p.HasAxesOf n) ∧
      mergeValuators p n = (.handle, p, n)) := by
  have newer : n.HasAxesOf p ↔ p.mask ||| n.mask = n.mask := hasAxesOf_iff
  have older : p.HasAxesOf n ↔ p.mask ||| n.mask = p.mask := by
    rw [UInt32.or_comm]
    exact hasAxesOf_iff
  unfold mergeValuators
  rw [newer, older]
  split
  · next empty => exact Or.inr (Or.inr ⟨fun filled filled' => by simp [filled, filled'] at empty, rfl⟩)
  · next filled =>
    obtain ⟨some_p, some_n⟩ : p.isEmpty = false ∧ n.isEmpty = false := by simpa using filled
    split
    · next wider => exact Or.inl ⟨some_p, some_n, wider, rfl⟩
    · next apart =>
      split
      · next wider => exact Or.inr (Or.inl ⟨some_p, some_n, wider, apart, rfl⟩)
      · next apart' => exact Or.inr (Or.inr ⟨fun _ _ => ⟨apart, apart'⟩, rfl⟩)

end sums

end Valuators

theorem merge_raws {context : MergeContext} {older newer : EventRecord} {p n : RawMotionEvent Float}
    (hp : older.kind = .generic (.rawMotion p)) (hn : newer.kind = .generic (.rawMotion n))
    (allowed : context.allowsRaw = true) : merge context older newer = mergeRaw older newer p n := by
  unfold merge
  rw [hp, hn]
  exact if_pos allowed

/-- Two raw events merge as their axes tell. If the newer one has all axes of the older one, the older one is
dropped, and if the older one has all axes of the newer one and more, the newer one is; neither may be without
axes. Otherwise both stay as they are. The one that stays keeps its axes and is well formed, and to its values
those of the dropped one are added, axis by axis. -/
theorem merge_adds_axis_by_axis {context : MergeContext} {older newer : EventRecord}
    {p n : RawMotionEvent Float} (hp : older.kind = .generic (.rawMotion p))
    (hn : newer.kind = .generic (.rawMotion n)) (formed : p.valuators.WellFormed)
    (formed' : n.valuators.WellFormed) (unreserved : context.rawOnly = false)
    (settled : context.warpPending = false) :
    let merged := merge context older newer
    (merged.action = .discard ↔ p.valuators.isEmpty = false ∧ n.valuators.isEmpty = false ∧
      n.valuators.HasAxesOf p.valuators) ∧
    (merged.action = .ignore ↔ p.valuators.isEmpty = false ∧ n.valuators.isEmpty = false ∧
      p.valuators.HasAxesOf n.valuators ∧ ¬ n.valuators.HasAxesOf p.valuators) ∧
    (merged.action ≠ .discard → merged.action ≠ .ignore → merged = ⟨.handle, older, newer⟩) ∧
    (merged.action = .discard → ∃ sum,
      merged.next = newer.withRawMotion { n with valuators := sum } ∧
      n.valuators.IsSum p.valuators sum ∧ sum = n.valuators.plusInOnePass p.valuators) ∧
    (merged.action = .ignore → ∃ sum,
      merged.previous = older.withRawMotion { p with valuators := sum } ∧
      p.valuators.IsSum n.valuators sum ∧ sum = p.valuators.plusInOnePass n.valuators) := by
  have allowed : context.allowsRaw = true := by simp [MergeContext.allowsRaw, unreserved, settled]
  rw [merge_raws hp hn allowed]
  unfold mergeRaw
  rcases Valuators.mergeValuators_cases p.valuators n.valuators with
    ⟨some_p, some_n, wider, eq⟩ | ⟨some_p, some_n, wider, more, eq⟩ | ⟨apart, eq⟩
  · rw [eq]
    refine ⟨by simp [*], by simp [*], by simp, fun _ => ⟨_, rfl, ?_, ?_⟩, by simp⟩
    · exact Valuators.isSum_plus formed' formed wider
    · exact Valuators.plus_eq_plusInOnePass wider
  · rw [eq]
    refine ⟨by simp [*], by simp [*], by simp, by simp, fun _ => ⟨_, rfl, ?_, ?_⟩⟩
    · exact Valuators.isSum_plus formed formed' wider
    · exact Valuators.plus_eq_plusInOnePass wider
  · rw [eq]
    have same : older.withRawMotion p = older ∧ newer.withRawMotion n = newer :=
      ⟨withRawMotion_self hp, withRawMotion_self hn⟩
    refine ⟨?_, ?_, fun _ _ => ?_, by simp, by simp⟩
    · exact ⟨by simp, fun ⟨some_p, some_n, wider⟩ => absurd wider (apart some_p some_n).1⟩
    · exact ⟨by simp, fun ⟨some_p, some_n, wider, _⟩ => absurd wider (apart some_p some_n).2⟩
    · exact congrArg₂ (Merged.mk .handle) same.1 same.2

/-- Values of the second and fourth axis are added to a newer event that has the third one as well. -/
theorem merge_adds_to_newer :
    let raw (mask : UInt32) (values : List Float) : RawMotionEvent Float :=
      { device := ⟨9⟩, valuators := ⟨mask, values⟩ }
    let record (raw : RawMotionEvent Float) : EventRecord :=
      { serial := ⟨0⟩, window := ⟨0⟩, kind := .generic (.rawMotion raw) }
    let merged := merge {} (record (raw 0b1010 [3, 5])) (record (raw 0b1110 [10, 20, 30]))
    merged.action = .discard ∧ ∃ sum, merged.next = record (raw 0b1110 sum) ∧
      (Valuators.mk 0b1110 sum).get? 2 = some 20 ∧
      (Valuators.mk 0b1110 sum).get? 3 = some (30 + 5) := by
  intro raw record merged
  obtain ⟨discarded, -, -, added, -⟩ := @merge_adds_axis_by_axis {} (record (raw 0b1010 [3, 5]))
    (record (raw 0b1110 [10, 20, 30])) _ _ rfl rfl (by decide) (by decide) rfl rfl
  have wider : (raw 0b1110 [10, 20, 30]).valuators.HasAxesOf (raw 0b1010 [3, 5]).valuators :=
    Valuators.hasAxesOf_iff.mpr (by decide)
  have discard : merged.action = .discard := discarded.mpr ⟨by decide, by decide, wider⟩
  obtain ⟨sum, next, ⟨mask, -, raised, kept⟩, -⟩ := added discard
  obtain ⟨bits, values⟩ := sum
  obtain rfl : bits = 0b1110 := mask
  obtain ⟨old, step, found, found', total⟩ := raised 3 (by decide)
  have second : (raw 0b1110 [10, 20, 30]).valuators.get? 2 = some 20 := by decide
  have third : (raw 0b1110 [10, 20, 30]).valuators.get? 3 = some 30 := by decide
  have third' : (raw 0b1010 [3, 5]).valuators.get? 3 = some 5 := by decide
  cases third.symm.trans found
  cases third'.symm.trans found'
  exact ⟨discard, values, next, (kept 2 (by decide)).trans second, total⟩

end GuestSeat
