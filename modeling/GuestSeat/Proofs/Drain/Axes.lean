import GuestSeat.Event.Valuators
import Mathlib.Tactic.ByContra

/-!
Axis values under addition. A set of axis values is seen through what it says of each axis; adding one
set to another that has all its axes adds up axis by axis. Nothing is asked of the addition of the
values, so this holds of binary64 as well; `SumsTo` keeps record of the order in which some values were
added.
-/

namespace GuestSeat

namespace Valuators

variable {ν : Type} {v w : Valuators ν} {axis : Nat}

/-- Whether there is a value for every axis of the mask and no more. -/
def WellFormed (v : Valuators ν) : Prop := v.values.length = v.axes.length

instance : Decidable v.WellFormed := inferInstanceAs (Decidable (v.values.length = v.axes.length))

theorem lt_axisLimit_of_isSet (set : v.isSet axis = true) : axis < axisLimit := by
  by_contra beyond
  have small : v.mask.toNat < 2 ^ axis := by
    have word : v.mask.toNat < 2 ^ 32 := v.mask.toNat_lt
    have wider : 2 ^ 32 ≤ 2 ^ axis := Nat.pow_le_pow_right (by omega) (Nat.le_of_not_lt beyond)
    omega
  unfold isSet at set
  rw [Nat.testBit_lt_two_pow small] at set
  cases set

/-- The rank of an axis is where it stands among the axes of the mask. -/
theorem axes_rank (set : v.isSet axis = true) : v.axes[v.rank axis]? = some axis := by
  obtain ⟨more, limit⟩ : ∃ more, axisLimit = axis + (more + 1) :=
    ⟨axisLimit - axis - 1, by have := lt_axisLimit_of_isSet set; omega⟩
  unfold axes rank
  rw [limit, List.range_add, List.filter_append, List.getElem?_append_right (Nat.le_refl _),
    Nat.sub_self, List.range_succ_eq_map, List.map_cons,
    List.filter_cons_of_pos (by simpa using set)]
  rfl

/-- There is a value for every axis of the mask. -/
theorem WellFormed.get?_isSome (formed : v.WellFormed) (set : v.isSet axis = true) :
    ∃ value, v.get? axis = some value := by
  obtain ⟨inAxes, -⟩ := List.getElem?_eq_some_iff.mp (axes_rank set)
  have below : v.rank axis < v.values.length := by rwa [formed]
  unfold get?
  rw [if_pos set]
  exact ⟨v.values[v.rank axis], List.getElem?_eq_getElem below⟩

theorem isSet_of_get? {value : ν} (found : v.get? axis = some value) : v.isSet axis = true := by
  unfold get? at found
  split at found
  · assumption
  · cases found

section plus

variable [Add ν]

/-- Every axis that both sets have is added up. -/
theorem get?_plus : (v.plus w).get? axis =
    (v.get? axis).map fun value => ((w.get? axis).map (value + ·)).getD value := by
  have same : (v.plus w).isSet axis = v.isSet axis := rfl
  have place : (v.plus w).rank axis = v.rank axis := rfl
  have read : ∀ u : Valuators ν,
      u.get? axis = if u.isSet axis then u.values[u.rank axis]? else none := fun _ => rfl
  rw [read v, read (v.plus w), same, place]
  split
  · next set =>
      unfold plus
      rw [List.getElem?_mapIdx, axes_rank set, Option.bind_some]
      cases w.get? axis <;> rfl
  · rfl

theorem WellFormed.plus (formed : v.WellFormed) : (v.plus w).WellFormed := by
  unfold WellFormed Valuators.plus
  rw [List.length_mapIdx]
  exact formed

end plus

/-- A mask that takes in another has all its axes. -/
theorem isSet_of_or_eq (wider : v.mask ||| w.mask = w.mask) (set : v.isSet axis = true) :
    w.isSet axis = true := by
  unfold isSet at set ⊢
  rw [← wider, UInt32.toNat_or, Nat.testBit_or, set, Bool.true_or]

end Valuators

/-- The value is the sum of the values in the list, each of which was added in its turn from either
side. -/
inductive SumsTo {ν : Type} [Add ν] : List ν → ν → Prop
  | one (value : ν) : SumsTo [value] value
  | add {values : List ν} {sum : ν} (before : SumsTo values sum) (value : ν) :
      SumsTo (values ++ [value]) (sum + value)
  | addTo {values : List ν} {sum : ν} (before : SumsTo values sum) (value : ν) :
      SumsTo (values ++ [value]) (value + sum)

def axisValues {ν : Type} (run : List (RawMotionEvent ν)) (axis : Nat) : List ν :=
  run.filterMap fun raw => raw.valuators.get? axis

theorem axisValues_snoc {ν : Type} (run : List (RawMotionEvent ν)) (raw : RawMotionEvent ν)
    (axis : Nat) :
    axisValues (run ++ [raw]) axis = axisValues run axis ++ (raw.valuators.get? axis).toList := by
  unfold axisValues
  rw [List.filterMap_append]
  cases found : raw.valuators.get? axis with
  | none => simp [found]
  | some value => simp [found]

/-- Whether a raw event comes to the same as some others: on every axis it has the sum of their values,
and it passes for one of them. -/
structure Totals {ν : Type} [Add ν] (run : List (RawMotionEvent ν)) (total : RawMotionEvent ν) :
    Prop where
  formed : total.valuators.WellFormed
  passesFor : ∃ raw ∈ run, raw.device = total.device ∧ raw.valuators.mask = total.valuators.mask
  sum : ∀ axis value, total.valuators.get? axis = some value → SumsTo (axisValues run axis) value
  absent : ∀ axis, total.valuators.get? axis = none → axisValues run axis = []

namespace Totals

variable {ν : Type} [Add ν] {run : List (RawMotionEvent ν)} {total : RawMotionEvent ν}

theorem single {raw : RawMotionEvent ν} (formed : raw.valuators.WellFormed) : Totals [raw] raw where
  formed := formed
  passesFor := ⟨raw, List.mem_singleton_self raw, rfl, rfl⟩
  sum axis value found := by
    simpa [axisValues, found] using SumsTo.one value
  absent axis none := by simp [axisValues, none]

/-- The total of a run is added to a raw event that has all its axes. -/
theorem addToNewer (h : Totals run total) {raw : RawMotionEvent ν} (formed : raw.valuators.WellFormed)
    (wider : total.valuators.mask ||| raw.valuators.mask = raw.valuators.mask) :
    Totals (run ++ [raw]) { raw with valuators := raw.valuators.plus total.valuators } where
  formed := formed.plus
  passesFor := ⟨raw, by simp, rfl, rfl⟩
  sum axis value found := by
    rw [axisValues_snoc]
    rw [Valuators.get?_plus] at found
    obtain ⟨own, present, rfl⟩ := Option.map_eq_some_iff.mp found
    rw [present]
    cases earlier : total.valuators.get? axis with
    | none =>
        rw [h.absent axis earlier]
        exact .one own
    | some sum => exact (h.sum axis sum earlier).addTo own
  absent axis none := by
    rw [axisValues_snoc]
    rw [Valuators.get?_plus] at none
    have unheard := Option.map_eq_none_iff.mp none
    rw [unheard]
    cases earlier : total.valuators.get? axis with
    | none =>
        rw [h.absent axis earlier]
        rfl
    | some sum =>
        obtain ⟨own, present⟩ :=
          formed.get?_isSome (Valuators.isSet_of_or_eq wider (Valuators.isSet_of_get? earlier))
        rw [unheard] at present
        cases present

/-- A raw event is added to the total of a run that has all its axes. -/
theorem addToOlder (h : Totals run total) {raw : RawMotionEvent ν}
    (wider : total.valuators.mask ||| raw.valuators.mask = total.valuators.mask) :
    Totals (run ++ [raw]) { total with valuators := total.valuators.plus raw.valuators } where
  formed := h.formed.plus
  passesFor := by
    obtain ⟨one, member, device, mask⟩ := h.passesFor
    exact ⟨one, List.mem_append_left _ member, device, mask⟩
  sum axis value found := by
    rw [axisValues_snoc]
    rw [Valuators.get?_plus] at found
    obtain ⟨earlier, present, rfl⟩ := Option.map_eq_some_iff.mp found
    cases own : raw.valuators.get? axis with
    | none =>
        rw [Option.toList_none, List.append_nil]
        exact h.sum axis earlier present
    | some step => exact (h.sum axis earlier present).add step
  absent axis none := by
    rw [axisValues_snoc]
    rw [Valuators.get?_plus] at none
    have unheard := Option.map_eq_none_iff.mp none
    rw [h.absent axis unheard]
    cases own : raw.valuators.get? axis with
    | none => rfl
    | some step =>
        have nested : raw.valuators.mask ||| total.valuators.mask = total.valuators.mask := by
          rw [UInt32.or_comm]
          exact wider
        obtain ⟨earlier, present⟩ :=
          h.formed.get?_isSome (Valuators.isSet_of_or_eq nested (Valuators.isSet_of_get? own))
        rw [unheard] at present
        cases present

end Totals

end GuestSeat
