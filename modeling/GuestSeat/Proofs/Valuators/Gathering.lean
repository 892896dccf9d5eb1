import GuestSeat.Proofs.Drain.Axes
import Mathlib.Data.List.Sort

/-!
Axis values as a map. A set of axis values lists the axes it has values for in ascending order, each with
what is read of it, be the set well formed or not. A set gathered from pairs is well formed and has the last
value given for each axis; sorting the pairs by their axes and keeping the last of equal ones comes to the
same list. A well-formed set is all that its list says, so it is gathered anew from its list.
-/

namespace GuestSeat.Valuators

variable {ν : Type} {v w : Valuators ν} {pairs : List (Nat × ν)} {axis : Nat} {value : ν}

def lastValue? (pairs : List (Nat × ν)) (axis : Nat) : Option ν :=
  (pairs.filter fun p => p.1 == axis).getLast?.map Prod.snd

theorem lastValue?_cons (p : Nat × ν) (rest : List (Nat × ν)) (axis : Nat) :
    lastValue? (p :: rest) axis =
      (lastValue? rest axis).or (if p.1 = axis then some p.2 else none) := by
  unfold lastValue?
  by_cases here : p.1 = axis
  · rw [List.filter_cons_of_pos (by simpa using here), List.getLast?_cons, if_pos here]
    cases (rest.filter fun p => p.1 == axis).getLast? <;> rfl
  · rw [List.filter_cons_of_neg (by simpa using here), if_neg here, Option.or_none]

theorem lookup_reverse (pairs : List (Nat × ν)) (axis : Nat) :
    pairs.reverse.lookup axis = lastValue? pairs axis := by
  unfold lastValue?
  rw [List.getLast?_filter]
  induction pairs.reverse with
  | nil => rfl
  | cons p rest ih =>
    obtain ⟨key, value⟩ := p
    rw [List.lookup_cons, List.find?_cons, Bool.beq_comm]
    cases key == axis with
    | true => rfl
    | false => exact ih

/-- Pairs of other axes make no difference to the value of an axis. -/
theorem lastValue?_append {others : List (Nat × ν)} (absent : ∀ p ∈ others, p.1 ≠ axis) :
    lastValue? (pairs ++ others) axis = lastValue? pairs axis := by
  have nobody : others.filter (fun p => p.1 == axis) = [] := by
    simpa [List.filter_eq_nil_iff] using absent
  unfold lastValue?
  rw [List.filter_append, nobody, List.append_nil]

theorem mem_of_lastValue? (found : lastValue? pairs axis = some value) : (axis, value) ∈ pairs := by
  obtain ⟨⟨key, _⟩, last, rfl⟩ := Option.map_eq_some_iff.mp found
  obtain ⟨member, same⟩ := List.mem_filter.mp (List.mem_of_getLast? last)
  obtain rfl : key = axis := by simpa using same
  exact member

theorem lastValue?_of_mem (member : (axis, value) ∈ pairs) :
    ∃ last, lastValue? pairs axis = some last := by
  induction pairs with
  | nil => cases member
  | cons p rest ih =>
    rw [lastValue?_cons]
    rcases List.mem_cons.mp member with rfl | later
    · cases lastValue? rest axis <;> simp
    · obtain ⟨last, found⟩ := ih later
      exact ⟨last, by rw [found, Option.some_or]⟩

def Ascending (pairs : List (Nat × ν)) : Prop := pairs.Pairwise fun p q => p.1 < q.1

theorem Ascending.lastValue?_eq_some_iff (ascending : Ascending pairs) :
    lastValue? pairs axis = some value ↔ (axis, value) ∈ pairs := by
  refine ⟨mem_of_lastValue?, fun member => ?_⟩
  obtain ⟨last, found⟩ := lastValue?_of_mem member
  have once : (pairs.map Prod.fst).Nodup :=
    List.pairwise_map.mpr (ascending.imp fun below => Nat.ne_of_lt below)
  have same := List.inj_on_of_nodup_map once (mem_of_lastValue? found) member rfl
  cases same
  exact found

theorem Ascending.ext {pairs' : List (Nat × ν)} (ascending : Ascending pairs)
    (ascending' : Ascending pairs') (same : ∀ axis, lastValue? pairs axis = lastValue? pairs' axis) :
    pairs = pairs' := by
  have order : ∀ p q : Nat × ν, p.1 < q.1 → ¬ q.1 < p.1 := fun _ _ => Nat.lt_asymm
  have : Std.Asymm fun p q : Nat × ν => p.1 < q.1 := ⟨order⟩
  refine List.Pairwise.eq_of_mem_iff ascending ascending' fun ⟨axis, value⟩ => ?_
  rw [← ascending.lastValue?_eq_some_iff, ← ascending'.lastValue?_eq_some_iff, same]

def listing (reading : Nat → Option ν) : List (Nat × ν) :=
  (List.range axisLimit).filterMap fun axis => (reading axis).map (axis, ·)

theorem mem_listing {reading : Nat → Option ν} :
    (axis, value) ∈ listing reading ↔ axis < axisLimit ∧ reading axis = some value := by
  unfold listing
  simp [List.mem_filterMap, Option.map_eq_some_iff]

theorem ascending_listing (reading : Nat → Option ν) : Ascending (listing reading) := by
  refine List.Pairwise.filterMap _ ?_ List.pairwise_lt_range
  intro a b below p found q found'
  obtain ⟨x, -, rfl⟩ := Option.map_eq_some_iff.mp found
  obtain ⟨y, -, rfl⟩ := Option.map_eq_some_iff.mp found'
  exact below

theorem lastValue?_listing (reading : Nat → Option ν) (axis : Nat) :
    lastValue? (listing reading) axis = if axis < axisLimit then reading axis else none := by
  ext value
  rw [(ascending_listing reading).lastValue?_eq_some_iff, mem_listing]
  split <;> simp [*]

theorem zip_append_left {α β : Type} (keys more : List α) (values : List β) :
    (keys ++ more).zip values = keys.zip values ++ more.zip (values.drop keys.length) := by
  induction keys generalizing values with
  | nil => rfl
  | cons first rest ih => cases values <;> simp [ih]

theorem zip_snoc {α β : Type} (keys : List α) (key : α) (values : List β) :
    (keys ++ [key]).zip values = keys.zip values ++ (values[keys.length]?.map (key, ·)).toList := by
  rw [zip_append_left, ← List.head?_drop]
  cases values.drop keys.length <;> rfl

/-- The values are dealt out to the axes of the mask in turn, and an axis gets the one at its rank. -/
theorem toList_eq (v : Valuators ν) : v.toList = listing v.get? := by
  unfold toList axes listing
  induction axisLimit with
  | zero => rfl
  | succ n ih =>
    rw [List.range_succ, List.filter_append, List.filterMap_append, ← ih]
    by_cases set : v.isSet n = true
    · rw [List.filter_cons_of_pos set, List.filter_nil, zip_snoc]
      have read : v.get? n = v.values[((List.range n).filter v.isSet).length]? := if_pos set
      rw [← read]
      cases found : v.get? n <;> simp [found]
    · have unread : v.get? n = none := if_neg set
      rw [List.filter_cons_of_neg set, List.filter_nil, List.append_nil]
      simp [unread]

theorem get?_eq_none (beyond : ¬ axis < axisLimit) : v.get? axis = none :=
  Option.eq_none_iff_forall_ne_some.mpr fun _ found =>
    beyond (lt_axisLimit_of_isSet (isSet_of_get? found))

theorem mem_toList : (axis, value) ∈ v.toList ↔ v.get? axis = some value := by
  rw [toList_eq, mem_listing]
  exact and_iff_right_of_imp fun found => lt_axisLimit_of_isSet (isSet_of_get? found)

theorem ascending_toList (v : Valuators ν) : Ascending v.toList := by
  rw [toList_eq]
  exact ascending_listing _

theorem lastValue?_toList (v : Valuators ν) (axis : Nat) : lastValue? v.toList axis = v.get? axis := by
  rw [toList_eq, lastValue?_listing]
  split
  · rfl
  · next beyond => exact (get?_eq_none beyond).symm

theorem WellFormed.isSome_get? (formed : v.WellFormed) : (v.get? axis).isSome = v.isSet axis := by
  cases set : v.isSet axis with
  | true =>
    obtain ⟨value, found⟩ := formed.get?_isSome set
    rw [found, Option.isSome_some]
  | false => simp [get?, set]

/-- A well-formed set is all that it says of the axes. -/
theorem WellFormed.ext (formed : v.WellFormed) (formed' : w.WellFormed)
    (same : ∀ axis, v.get? axis = w.get? axis) : v = w := by
  have bits : ∀ axis, v.isSet axis = w.isSet axis := fun axis => by
    rw [← formed.isSome_get?, ← formed'.isSome_get?, same]
  have masks : v.mask = w.mask := UInt32.toNat_inj.mp (Nat.eq_of_testBit_eq bits)
  have lists : v.toList = w.toList := by rw [toList_eq, toList_eq, funext same]
  have values : v.values = w.values := by
    rw [← List.map_snd_zip (Nat.le_of_eq formed), ← List.map_snd_zip (Nat.le_of_eq formed')]
    exact congrArg (List.map Prod.snd) lists
  cases v
  cases w
  cases masks
  cases values
  rfl

theorem testBit_single (first axis : Nat) : (UInt32.ofNat (1 <<< first)).toNat.testBit axis =
    (decide (axis < axisLimit) && decide (axis = first)) := by
  rw [UInt32.toNat_ofNat', Nat.one_shiftLeft, Nat.testBit_mod_two_pow, Nat.testBit_two_pow]
  exact congrArg (_ && ·) (decide_eq_decide.mpr eq_comm)

theorem testBit_maskOf (axes : List Nat) (axis : Nat) :
    (maskOf axes).toNat.testBit axis = (decide (axis < axisLimit) && decide (axis ∈ axes)) := by
  have added : ∀ mask : UInt32,
      (axes.foldl (fun mask axis => mask ||| UInt32.ofNat (1 <<< axis)) mask).toNat.testBit axis =
        (mask.toNat.testBit axis || (decide (axis < axisLimit) && decide (axis ∈ axes))) := by
    induction axes with
    | nil => simp
    | cons first rest ih =>
      intro mask
      rw [List.foldl_cons, ih, UInt32.toNat_or, Nat.testBit_or, testBit_single, Bool.or_assoc,
        ← Bool.and_or_distrib_left]
      simp
  exact (added 0).trans (by simp)

theorem axes_ofAxes (pairs : List (Nat × ν)) : (ofAxes pairs).axes =
    (List.range axisLimit).filter fun axis => (lastValue? pairs axis).isSome := by
  refine List.filter_congr fun axis inRange => ?_
  have below := List.mem_range.mp inRange
  have gathered : (ofAxes pairs).mask =
      maskOf ((List.range axisLimit).filter fun axis => (lastValue? pairs axis).isSome) := by
    simp [ofAxes, lookup_reverse]
  unfold isSet
  rw [gathered, testBit_maskOf]
  simp [below]

theorem values_ofAxes (pairs : List (Nat × ν)) :
    (ofAxes pairs).values = (ofAxes pairs).axes.filterMap (lastValue? pairs) := by
  rw [axes_ofAxes]
  simp [ofAxes, lookup_reverse]

theorem mask_ofAxes (pairs : List (Nat × ν)) : (ofAxes pairs).mask = maskOf (ofAxes pairs).axes := by
  rw [axes_ofAxes]
  simp [ofAxes, lookup_reverse]

theorem wellFormed_ofAxes (pairs : List (Nat × ν)) : (ofAxes pairs).WellFormed := by
  unfold WellFormed
  rw [values_ofAxes, axes_ofAxes, List.length_filterMap_eq_countP, List.countP_eq_length]
  intro axis member
  exact (List.mem_filter.mp member).2

theorem zip_filterMap {α β : Type} (keys : List α) (f : α → Option β) :
    (keys.filter fun key => (f key).isSome).zip ((keys.filter fun key => (f key).isSome).filterMap f) =
      keys.filterMap fun key => (f key).map (key, ·) := by
  induction keys with
  | nil => rfl
  | cons first rest ih => cases found : f first <;> simp [found, ih]

theorem toList_ofAxes (pairs : List (Nat × ν)) :
    (ofAxes pairs).toList = listing (lastValue? pairs) := by
  unfold toList
  rw [values_ofAxes, axes_ofAxes]
  exact zip_filterMap _ _

theorem get?_ofAxes (pairs : List (Nat × ν)) (axis : Nat) :
    (ofAxes pairs).get? axis = if axis < axisLimit then lastValue? pairs axis else none := by
  rw [← lastValue?_toList, toList_ofAxes, lastValue?_listing]

/-- Nothing is lost in the list of a well-formed set. -/
theorem WellFormed.ofAxes_toList (formed : v.WellFormed) : ofAxes v.toList = v := by
  refine (wellFormed_ofAxes _).ext formed fun axis => ?_
  rw [get?_ofAxes, lastValue?_toList]
  split
  · rfl
  · next beyond => exact (get?_eq_none beyond).symm

def lastOfEach : List (Nat × ν) → List (Nat × ν)
  | p :: q :: rest => if p.1 = q.1 then lastOfEach (q :: rest) else p :: lastOfEach (q :: rest)
  | pairs => pairs

/-- The pairs whose axes can be represented, sorted by their axes; of equal axes, which keep their order,
the last one is left. -/
def sorted (pairs : List (Nat × ν)) : List (Nat × ν) :=
  lastOfEach ((pairs.filter fun p => p.1 < axisLimit).mergeSort fun p q => p.1 ≤ q.1)

theorem lastOfEach_sublist (pairs : List (Nat × ν)) : (lastOfEach pairs).Sublist pairs := by
  fun_induction lastOfEach pairs with
  | case1 p q rest same ih => exact ih.cons p
  | case2 p q rest other ih => exact ih.cons_cons p
  | case3 pairs short => exact List.Sublist.refl pairs

theorem lastValue?_lastOfEach (pairs : List (Nat × ν)) (axis : Nat) :
    lastValue? (lastOfEach pairs) axis = lastValue? pairs axis := by
  fun_induction lastOfEach pairs with
  | case1 p q rest same ih =>
    -- the first of two equal axes is outlived by the second
    rw [ih, lastValue?_cons p, lastValue?_cons q, same]
    cases lastValue? rest axis <;> by_cases here : q.1 = axis <;> simp [here]
  | case2 p q rest other ih => rw [lastValue?_cons, ih, ← lastValue?_cons]
  | case3 pairs short => rfl

theorem ascending_lastOfEach (sorted : pairs.Pairwise fun p q => p.1 ≤ q.1) :
    Ascending (lastOfEach pairs) := by
  fun_induction lastOfEach pairs with
  | case1 p q rest same ih => exact ih sorted.of_cons
  | case2 p q rest other ih =>
    refine List.pairwise_cons.mpr ⟨fun r member => ?_, ih sorted.of_cons⟩
    obtain ⟨least, later⟩ := List.pairwise_cons.mp sorted
    have below : p.1 < q.1 := Nat.lt_of_le_of_ne (least q List.mem_cons_self) other
    rcases List.mem_cons.mp ((lastOfEach_sublist _).mem member) with rfl | further
    · exact below
    · exact Nat.lt_of_lt_of_le below (List.rel_of_pairwise_cons later further)
  | case3 pairs short =>
    match pairs with
    | [] => exact List.Pairwise.nil
    | [p] => exact List.pairwise_singleton _ p
    | p :: q :: rest => exact (short p q rest rfl).elim

/-- Sorting keeps the pairs with one axis in their order. -/
theorem lastValue?_mergeSort (pairs : List (Nat × ν)) (axis : Nat) :
    lastValue? (pairs.mergeSort fun p q => p.1 ≤ q.1) axis = lastValue? pairs axis := by
  let own : Nat × ν → Bool := fun p => p.1 == axis
  have level : (pairs.filter own).Pairwise fun p q => decide (p.1 ≤ q.1) = true := by
    refine List.pairwise_of_forall_mem_list fun p member q member' => ?_
    have first : p.1 = axis := by simpa [own] using (List.mem_filter.mp member).2
    have second : q.1 = axis := by simpa [own] using (List.mem_filter.mp member').2
    simp [first, second]
  have among : (pairs.filter own).Sublist (pairs.mergeSort fun p q => p.1 ≤ q.1) :=
    List.sublist_mergeSort (by simp; omega) (by simp; omega) level List.filter_sublist
  have kept : (pairs.filter own).Sublist ((pairs.mergeSort fun p q => p.1 ≤ q.1).filter own) := by
    simpa using among.filter own
  have all := kept.eq_of_length ((List.mergeSort_perm pairs _).filter own).length_eq.symm
  exact congrArg (fun own => own.getLast?.map Prod.snd) all.symm

theorem lastValue?_representable (pairs : List (Nat × ν)) (axis : Nat) :
    lastValue? (pairs.filter fun p => p.1 < axisLimit) axis =
      if axis < axisLimit then lastValue? pairs axis else none := by
  unfold lastValue?
  rw [List.filter_filter]
  split
  · next below =>
    have same : ∀ p ∈ pairs, (p.1 == axis && decide (p.1 < axisLimit)) = (p.1 == axis) := by
      intro p _
      by_cases here : p.1 = axis <;> simp [here, below]
    rw [List.filter_congr same]
  · next beyond =>
    have nobody : ∀ p ∈ pairs, ¬ (p.1 == axis && decide (p.1 < axisLimit)) = true := by
      simp only [Bool.and_eq_true, beq_iff_eq, decide_eq_true_eq]
      rintro p - ⟨rfl, below⟩
      exact beyond below
    rw [List.filter_eq_nil_iff.mpr nobody]
    rfl

theorem sorted_eq (pairs : List (Nat × ν)) : sorted pairs = (ofAxes pairs).toList := by
  have order : ((pairs.filter fun p => p.1 < axisLimit).mergeSort fun p q => p.1 ≤ q.1).Pairwise
      fun p q => decide (p.1 ≤ q.1) = true :=
    List.pairwise_mergeSort (by simp; omega) (by simp; omega) _
  refine (ascending_lastOfEach (order.imp fun le => by simpa using le)).ext
    (ascending_toList _) fun axis => ?_
  rw [lastValue?_lastOfEach, lastValue?_mergeSort, lastValue?_representable, lastValue?_toList,
    get?_ofAxes]

/-- Sets of axis values as maps. A set gathered from pairs has a value for each axis of its mask and no
other values; an axis has the last value that was given for it; the list of the set has its axes in
ascending order and is enough to gather it again; and the set is what sorting the pairs leads to. Of any
set, well formed or not, the list says what is read of the axes. -/
theorem ofAxes_faithful (pairs : List (Nat × ν)) :
    (ofAxes pairs).values.length = (ofAxes pairs).axes.length ∧
      (∀ axis, (ofAxes pairs).get? axis = if axis < axisLimit
        then (pairs.filter fun p => p.1 == axis).getLast?.map Prod.snd else none) ∧
      (∀ axis, (∃ value, (axis, value) ∈ (ofAxes pairs).toList) ↔
        axis < axisLimit ∧ ∃ value, (axis, value) ∈ pairs) ∧
      ofAxes (ofAxes pairs).toList = ofAxes pairs ∧
      ofAxes pairs = ⟨maskOf ((sorted pairs).map Prod.fst), (sorted pairs).map Prod.snd⟩ ∧
      ∀ v : Valuators ν, v.toList.Pairwise (fun p q => p.1 < q.1) ∧
        ∀ axis value, (axis, value) ∈ v.toList ↔ v.get? axis = some value := by
  let v := ofAxes pairs
  have formed : v.WellFormed := wellFormed_ofAxes pairs
  refine ⟨formed, get?_ofAxes pairs, fun axis => ?_, formed.ofAxes_toList, ?_, fun u =>
    ⟨ascending_toList u, fun axis value => mem_toList⟩⟩
  · rw [toList_ofAxes]
    constructor
    · rintro ⟨value, listed⟩
      obtain ⟨below, last⟩ := mem_listing.mp listed
      exact ⟨below, value, mem_of_lastValue? last⟩
    · rintro ⟨below, value, given⟩
      obtain ⟨last, found⟩ := lastValue?_of_mem given
      exact ⟨last, mem_listing.mpr ⟨below, found⟩⟩
  · have axes : v.toList.map Prod.fst = v.axes := List.map_fst_zip (Nat.le_of_eq formed.symm)
    have values : v.toList.map Prod.snd = v.values := List.map_snd_zip (Nat.le_of_eq formed)
    rw [sorted_eq, axes, values, ← mask_ofAxes]

/-- Axes out of order, one given twice and one beyond the mask. -/
example : (ofAxes [(3, 15), (0, 20), (40, 1), (3, 7)] : Valuators Nat) = ⟨0b1001, [20, 7]⟩ := by decide

end GuestSeat.Valuators
