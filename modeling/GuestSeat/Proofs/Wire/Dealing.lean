import GuestSeat.Proofs.Valuators.Gathering
import GuestSeat.Wire.Record

/-!
Axis values of raw motion, dealt out by rank. The values of an event belong to the set bits of its mask in turn, and
only the axes of the first word can be represented. So an axis has the value whose place in the list is the number
of set bits below it, if the list reaches that far; the words behind the first one only use up values that no
representable axis would have had. A walk over the bits that stops at the first set bit without a value deals out the
same, as long as the numbers of the axes fit into sixteen bits. What the fixed-point numbers are converted to plays no
part in any of this.
-/

namespace GuestSeat.Wire

variable {ν : Type} {mask : List UInt32} {values : List FixedPoint} {word : UInt32} {axis bit place : Nat}

def rank (word : UInt32) (bit : Nat) : Nat := ((List.range bit).filter word.toNat.testBit).length

theorem rank_lt_of_testBit (set : word.toNat.testBit bit = true) : rank word bit < (bitsOf word).length := by
  have member : (Valuators.mk word ([] : List Nat)).isSet bit = true := set
  exact (List.getElem?_eq_some_iff.mp (Valuators.axes_rank member)).1

/-- The axes of the later words lie behind those of the first one. -/
theorem axesOf_cons (word : UInt32) (later : List UInt32) :
    axesOf (word :: later) = bitsOf word ++ (axesOf later).map (32 + ·) := by
  have first : (bitsOf word).map (0 * 32 + ·) = bitsOf word := by simp
  have behind : later.mapIdx (fun index word => (bitsOf word).map ((index + 1) * 32 + ·)) =
      (later.mapIdx fun index word => (bitsOf word).map (index * 32 + ·)).map (List.map (32 + ·)) := by
    refine List.ext_getElem? fun index => ?_
    rw [List.getElem?_map, List.getElem?_mapIdx, List.getElem?_mapIdx, Option.map_map]
    refine congrArg (Option.map · _) (funext fun word => ?_)
    rw [Function.comp_apply, List.map_map]
    refine List.map_congr_left fun bit _ => ?_
    simp only [Function.comp_apply]
    omega
  unfold axesOf
  rw [List.mapIdx_cons, List.flatten_cons, first, behind, List.map_flatten]

def firstWord (convert : FixedPoint → ν) (mask : List UInt32) (values : List FixedPoint) : Valuators ν :=
  ⟨mask.headD 0, values.map convert⟩

theorem get?_firstWord (convert : FixedPoint → ν) (mask : List UInt32) (values : List FixedPoint) (axis : Nat) :
    (firstWord convert mask values).get? axis = if (mask.headD 0).toNat.testBit axis
      then (values[rank (mask.headD 0) axis]?).map convert else none := by
  rw [← List.getElem?_map]
  rfl

/-- The pairs dealt from all the words agree with the first word on every axis in range. -/
theorem lastValue?_dealt (convert : FixedPoint → ν) (mask : List UInt32) (values : List FixedPoint)
    (below : axis < Valuators.axisLimit) :
    Valuators.lastValue? ((axesOf mask).zip (values.map convert)) axis =
      (firstWord convert mask values).get? axis := by
  rw [← Valuators.lastValue?_toList]
  cases mask with
  | nil =>
    have nothing : (firstWord convert [] values).axes = [] := (by decide : bitsOf 0 = [])
    unfold Valuators.toList
    rw [nothing]
    rfl
  | cons word later =>
    rw [axesOf_cons, Valuators.zip_append_left]
    -- what the later words take goes to axes past the limit
    apply Valuators.lastValue?_append
    rintro ⟨key, value⟩ member
    obtain ⟨axis, -, rfl⟩ := List.mem_map.mp (List.of_mem_zip member).1
    have limit : Valuators.axisLimit = 32 := rfl
    omega

/-- What an event says of an axis is what its first word alone says of it. -/
theorem get?_valuators (convert : FixedPoint → ν) (mask : List UInt32) (values : List FixedPoint) (axis : Nat) :
    (valuators convert mask values).get? axis = (firstWord convert mask values).get? axis := by
  unfold valuators
  rw [Valuators.get?_ofAxes]
  split
  · next below => exact lastValue?_dealt convert mask values below
  · next beyond => exact (Valuators.get?_eq_none beyond).symm

/-- Whether a set holds what the bits of a word are dealt: its axes are those whose rank the list of values reaches,
and each has the value at its rank. -/
structure DealtByRank (convert : FixedPoint → ν) (word : UInt32) (values : List FixedPoint) (v : Valuators ν) :
    Prop where
  formed : v.WellFormed
  mask : ∀ axis, v.isSet axis = true ↔ word.toNat.testBit axis = true ∧ rank word axis < values.length
  value : ∀ axis, v.isSet axis = true →
    ∃ value, values[rank word axis]? = some value ∧ v.get? axis = some (convert value)

theorem DealtByRank.of_get? {convert : FixedPoint → ν} {v : Valuators ν} (formed : v.WellFormed)
    (read : ∀ axis, v.get? axis =
      if word.toNat.testBit axis then (values[rank word axis]?).map convert else none) :
    DealtByRank convert word values v := by
  have holds : ∀ axis, v.isSet axis = true ↔ word.toNat.testBit axis = true ∧ rank word axis < values.length := by
    intro axis
    rw [← formed.isSome_get?, read]
    split
    · next set => simp [set]
    · next unset => simp [unset]
  refine ⟨formed, holds, fun axis set => ?_⟩
  obtain ⟨bit, reached⟩ := (holds axis).mp set
  refine ⟨values[rank word axis], List.getElem?_eq_getElem reached, ?_⟩
  rw [read, if_pos bit, List.getElem?_eq_getElem reached, Option.map_some]

theorem dealtByRank_valuators (convert : FixedPoint → ν) (mask : List UInt32) (values : List FixedPoint) :
    DealtByRank convert (mask.headD 0) values (valuators convert mask values) := by
  refine .of_get? (Valuators.wellFormed_ofAxes _) fun axis => ?_
  rw [get?_valuators, get?_firstWord]

/-- Neither the later words nor values beyond the bits of the first one count. -/
theorem valuators_take (convert : FixedPoint → ν) (mask : List UInt32) (values : List FixedPoint) :
    valuators convert mask values =
      valuators convert (mask.take 1) (values.take (bitsOf (mask.headD 0)).length) := by
  have same : (mask.take 1).headD 0 = mask.headD 0 := by cases mask <;> rfl
  apply Valuators.WellFormed.ext (Valuators.wellFormed_ofAxes _) (Valuators.wellFormed_ofAxes _)
  intro axis
  change (valuators convert mask values).get? axis = (valuators convert (mask.take 1) _).get? axis
  rw [get?_valuators, get?_valuators, get?_firstWord, get?_firstWord, same]
  split
  · next set => rw [List.getElem?_take_of_lt (rank_lt_of_testBit set)]
  · rfl

def hasBit (mask : List UInt32) (place : Nat) : Bool := (mask.getD (place / 32) 0).toNat.testBit (place % 32)

def axisAt (place : Nat) : UInt16 := UInt16.ofNat (place / 32) * 32 + UInt16.ofNat (place % 32)

/-- Deal out values to the set bits among some places, up to the first one for which there is none left. -/
def deal (mask : List UInt32) : List Nat → List ν → List (UInt16 × ν)
  | [], _ => []
  | place :: places, values =>
    if hasBit mask place then
      match values with
      | [] => []
      | value :: values => (axisAt place, value) :: deal mask places values
    else deal mask places values

theorem toNat_axisAt (fits : place < UInt16.size) : (axisAt place).toNat = place := by
  have small : place < 65536 := fits
  simp only [axisAt, UInt16.toNat_add, UInt16.toNat_mul, UInt16.toNat_ofNat', UInt16.reduceToNat]
  omega

/-- The axes of a mask are the places of its set bits. -/
theorem axesOf_eq (mask : List UInt32) : axesOf mask = (List.range (32 * mask.length)).filter (hasBit mask) := by
  induction mask with
  | nil => rfl
  | cons word later ih =>
    have first : (List.range 32).filter (hasBit (word :: later)) = bitsOf word := by
      refine List.filter_congr fun place member => ?_
      have small : place < 32 := List.mem_range.mp member
      simp [hasBit, Nat.div_eq_of_lt small, Nat.mod_eq_of_lt small]
    have behind : hasBit (word :: later) ∘ (32 + ·) = hasBit later := funext fun place => by
      have next : (32 + place) / 32 = place / 32 + 1 := by omega
      simp [hasBit, next]
    rw [axesOf_cons, ih, List.length_cons, Nat.mul_succ, Nat.add_comm, List.range_add, List.filter_append, first,
      List.filter_map, behind]

/-- The walk pairs the set bits with the values, and both it and the pairing end with the shorter of the two. -/
theorem deal_eq (mask : List UInt32) {places : List Nat} (fits : ∀ place ∈ places, place < UInt16.size)
    (values : List ν) : (deal mask places values).map (fun p => (p.1.toNat, p.2)) =
      (places.filter (hasBit mask)).zip values := by
  fun_induction deal mask places values with
  | case1 values => rfl
  | case2 place places set => rw [List.zip_nil_right]; rfl
  | case3 place places set value values ih =>
    obtain ⟨here, others⟩ := List.forall_mem_cons.mp fits
    rw [List.map_cons, ih others, toNat_axisAt here, List.filter_cons_of_pos set, List.zip_cons_cons]
  | case4 place places values unset ih =>
    obtain ⟨-, others⟩ := List.forall_mem_cons.mp fits
    rw [ih others, List.filter_cons_of_neg unset]

theorem deal_all (few : mask.length < 2048) (values : List ν) :
    (deal mask (List.range (32 * mask.length)) values).map (fun p => (p.1.toNat, p.2)) =
      (axesOf mask).zip values := by
  rw [axesOf_eq]
  refine deal_eq mask (fun place member => ?_) values
  have within : place < 32 * mask.length := List.mem_range.mp member
  have room : UInt16.size = 32 * 2048 := rfl
  omega

/-- Raw motion from the wire, whatever becomes of the fixed-point numbers. The axes of the record are the set bits of
the first word that the values reach, each with the value at its rank among them; later words and further values
change nothing; and a walk over all the bits deals out the same. -/
theorem raw_motion_dealt_by_rank (convert : FixedPoint → ν) (few : mask.length < 2048) (values : List FixedPoint) :
    DealtByRank convert (mask.headD 0) values (valuators convert mask values) ∧
      valuators convert mask values =
        valuators convert (mask.take 1) (values.take (bitsOf (mask.headD 0)).length) ∧
      valuators convert mask values = Valuators.ofAxes
        ((deal mask (List.range (32 * mask.length)) (values.map convert)).map fun p => (p.1.toNat, p.2)) ∧
      ∀ (atoms : AtomTable) (w : Widener) (e : Event) (device : DeviceId) (time : Timestamp),
        record atoms w { e with payload := .rawMotion device time mask values } =
          ((w.widen e.sequence).1, some {
            serial := (w.widen e.sequence).2
            window := HostWindow.none
            sent := e.sent
            kind := .generic (.rawMotion
              { device, time, valuators := valuators FixedPoint.toFloat mask values }) }) := by
  refine ⟨dealtByRank_valuators convert mask values, valuators_take convert mask values, ?_, ?_⟩
  · rw [deal_all few]
    rfl
  · intro atoms w e device time
    rfl

/-- The values give out in the middle of the first word. -/
theorem raw_motion_dealt_midway :
    let mask : List UInt32 := [0b10110, 0b101]
    let values := [5, -6].map fun n => FixedPoint.mk n 0
    mask.length < 2048 ∧ valuators FixedPoint.integral mask values = ⟨0b110, [5, -6]⟩ ∧
      DealtByRank FixedPoint.integral 0b10110 values ⟨0b110, [5, -6]⟩ := by
  intro mask values
  have few : mask.length < 2048 := by decide
  have dealt : valuators FixedPoint.integral mask values = ⟨0b110, [5, -6]⟩ := by decide
  exact ⟨few, dealt, dealt ▸ (raw_motion_dealt_by_rank FixedPoint.integral few values).1⟩

/-- Of six values the second word uses up two, and one is left over. -/
example : valuators FixedPoint.integral [0b10110, 0b101] ([5, -6, 7, 8, 9, 10].map fun n => ⟨n, 0⟩) =
    ⟨0b10110, [5, -6, 7]⟩ := by decide

end GuestSeat.Wire
