import GuestSeat.Flags
import GuestSeat.Proofs.Document.Carried
import GuestSeat.Proofs.Text.Fields

/-!
Sets of flags as text. The names that are written cover only bits of the set, and what they do not
cover is written in hexadecimal; so reading the parts of the text one after the other collects the bits
of the set again, whichever names of the table overlap. For that every name has to be told from its
neighbours in the text, and from a number.
-/

namespace GuestSeat

open Text

/-- Whether a name stands for itself as a part of a text: it has something in it, no blank and no bar,
and does not begin like a number. -/
def isFlagName (cs : List Char) : Bool :=
  !cs.isEmpty && cs.all (fun c => !isBlank c && c != '|') && !(['0', 'x'].isPrefixOf cs)

structure FlagTable.IsNamed (table : FlagTable) : Prop where
  names : ∀ e ∈ table, isFlagName e.1.toList = true
  distinct : (table.map Prod.fst).Nodup

namespace Flags

variable {table : FlagTable}

theorem solid_of_isFlagName {cs : List Char} (name : isFlagName cs = true) :
    IsSolid cs ∧ '|' ∉ cs := by
  simp only [isFlagName, Bool.and_eq_true, Bool.not_eq_true', List.isEmpty_eq_false_iff, List.all_eq_true,
    bne_iff_ne, ne_eq] at name
  obtain ⟨⟨written, each⟩, -⟩ := name
  exact ⟨⟨written, fun c member => (each c member).1⟩, fun bar => (each '|' bar).2 rfl⟩

/-- What is no number is looked up. -/
theorem part?_of_isFlagName {cs : List Char} (name : isFlagName cs = true) :
    part? table cs = table.lookup (String.ofList cs) := by
  unfold part?
  split
  · cases name
  · simp [isFlagName] at name
  · rfl

theorem lookup_of_mem (distinct : (table.map Prod.fst).Nodup) {e : String × UInt32} (member : e ∈ table) :
    table.lookup e.1 = some e.2 := by
  induction table with
  | nil => cases member
  | cons first rest ih =>
      obtain ⟨fresh, others⟩ := List.nodup_cons.mp distinct
      rcases List.mem_cons.mp member with rfl | later
      · rw [List.lookup_cons, beq_self_eq_true]
      · have other : (e.1 == first.1) = false := by
          rw [beq_eq_false_iff_ne]
          intro same
          exact fresh (same ▸ List.mem_map_of_mem later)
        rw [List.lookup_cons, other]
        exact ih others later

/-- A name of the table is read as its bits. -/
theorem part?_of_mem (named : table.IsNamed) {e : String × UInt32} (member : e ∈ table) :
    part? table e.1.toList = some e.2 := by
  rw [part?_of_isFlagName (named.names e member), String.ofList_toList, lookup_of_mem named.distinct member]

/-- Hexadecimal digits are no blanks, no bars and no signs. -/
theorem hexDigit_plain {n : Nat} {c : Char} (member : c ∈ digits 16 n) :
    isBlank c = false ∧ c ≠ '|' ∧ c ≠ '+' := by
  have plain : ∀ d < 16, isBlank (digitChar d) = false ∧ digitChar d ≠ '|' ∧ digitChar d ≠ '+' := by decide
  obtain ⟨d, small, rfl⟩ := exists_digit_of_mem_digits (by decide) member
  exact plain d small

theorem word?_digits (x : UInt32) : word? (digits 16 x.toNat) = some x := by
  have value : ofDigits? 16 (digits 16 x.toNat) = some x.toNat := ofDigits?_digits (by decide) (by decide)
  have unsigned (rest : List Char) (sign : digits 16 x.toNat = '+' :: rest) : False :=
    (hexDigit_plain (sign ▸ List.mem_cons_self)).2.2 rfl
  rw [word?, value, Option.bind_some, if_pos x.toNat_lt_size, UInt32.ofNat_toNat]
  exact unsigned

def surplusText (left : UInt32) : String := "0x" ++ hex left.toNat

theorem toList_surplusText (left : UInt32) : (surplusText left).toList = '0' :: 'x' :: digits 16 left.toNat := by
  simp only [surplusText, hex, String.toList_append, String.toList_ofList]
  rfl

theorem part?_surplusText (left : UInt32) : part? table (surplusText left).toList = some left := by
  rw [toList_surplusText, part?, word?_digits]

theorem solid_surplusText (left : UInt32) :
    IsSolid (surplusText left).toList ∧ '|' ∉ (surplusText left).toList := by
  rw [toList_surplusText]
  refine ⟨⟨List.cons_ne_nil _ _, ?_⟩, ?_⟩
  · intro c member
    rcases List.mem_cons.mp member with rfl | member
    · decide
    rcases List.mem_cons.mp member with rfl | member
    · decide
    · exact (hexDigit_plain member).1
  · intro bar
    rcases List.mem_cons.mp bar with same | bar
    · exact absurd same (by decide)
    rcases List.mem_cons.mp bar with same | bar
    · exact absurd same (by decide)
    · exact (hexDigit_plain bar).2.1 rfl

def parts (flags : Flags table) : List String :=
  (cover flags.bits table flags.bits).1 ++
    if (cover flags.bits table flags.bits).2 == 0 then []
    else [surplusText (cover flags.bits table flags.bits).2]

theorem text_eq (flags : Flags table) : flags.text = " | ".intercalate flags.parts := rfl

/-- Only names of the table are written. -/
theorem mem_of_mem_cover {source left : UInt32} {name : String} :
    name ∈ (cover source table left).1 → name ∈ table.map Prod.fst := by
  induction table generalizing left with
  | nil => exact id
  | cons e rest ih =>
      rw [cover]
      split
      · intro member
        rcases List.mem_cons.mp member with rfl | later
        · exact List.mem_cons_self
        · exact List.mem_cons_of_mem _ (ih later)
      · exact fun later => List.mem_cons_of_mem _ (ih later)

theorem parts_solid (named : table.IsNamed) (flags : Flags table) :
    ∀ part ∈ flags.parts.map String.toList, IsSolid part ∧ '|' ∉ part := by
  rintro _ member
  obtain ⟨name, written, rfl⟩ := List.mem_map.mp member
  rw [parts] at written
  rcases List.mem_append.mp written with covered | surplus
  · obtain ⟨e, inside, rfl⟩ := List.mem_map.mp (mem_of_mem_cover covered)
    exact solid_of_isFlagName (named.names e inside)
  · split at surplus
    · cases surplus
    · rw [List.mem_singleton.mp surplus]
      exact solid_surplusText _

def addPart? (flags : Flags table) (cs : List Char) : Option (Flags table) :=
  (part? table cs).map fun bits => ⟨flags.bits ||| bits⟩

/-- Bits that move from what is left to what is read are not lost. -/
theorem or_or_and_not {read left source bits : UInt32} (whole : read ||| left = source)
    (inside : source &&& bits = bits) : (read ||| bits) ||| (left &&& ~~~bits) = source := by
  apply UInt32.toBitVec_inj.mp
  have whole := UInt32.toBitVec_inj.mpr whole
  have inside := UInt32.toBitVec_inj.mpr inside
  simp only [UInt32.toBitVec_and, UInt32.toBitVec_or, UInt32.toBitVec_not] at whole inside ⊢
  ext i bound
  have wholeBit := congrArg (fun word => word[i]) whole
  have insideBit := congrArg (fun word => word[i]) inside
  simp only [BitVec.getElem_and, BitVec.getElem_or, BitVec.getElem_not] at wholeBit insideBit ⊢
  grind

/-- The names that are written for a set, read one after the other: what has been read and what is left
to cover make up the set all along. -/
theorem foldlM_cover {source : UInt32} {rest : FlagTable}
    (known : ∀ e ∈ rest, part? table e.1.toList = some e.2) : ∀ read left : UInt32, read ||| left = source →
      ∃ covered : UInt32, ((cover source rest left).1.map String.toList).foldlM addPart? (⟨read⟩ : Flags table) =
        some ⟨covered⟩ ∧ covered ||| (cover source rest left).2 = source := by
  induction rest with
  | nil => exact fun read left whole => ⟨read, rfl, whole⟩
  | cons e rest ih =>
      intro read left whole
      obtain ⟨first, others⟩ := List.forall_mem_cons.mp known
      rw [cover]
      split
      · next taken =>
          rw [Bool.and_eq_true, beq_iff_eq] at taken
          obtain ⟨covered, more, all⟩ := ih others (read ||| e.2) (left &&& ~~~e.2)
            (or_or_and_not whole taken.1)
          refine ⟨covered, ?_, all⟩
          rw [List.map_cons, List.foldlM_cons, addPart?, first]
          exact more
      · exact ih others read left whole

/-- The parts of the text of a set add up to the set. -/
theorem foldlM_parts (named : table.IsNamed) (flags : Flags table) :
    (flags.parts.map String.toList).foldlM addPart? (empty : Flags table) = some flags := by
  obtain ⟨covered, names, whole⟩ := foldlM_cover (fun e member => part?_of_mem named member) 0 flags.bits
    UInt32.zero_or
  rw [parts, List.map_append, List.foldlM_append]
  change (((cover flags.bits table flags.bits).1.map String.toList).foldlM addPart? (⟨0⟩ : Flags table)).bind _ = _
  rw [names, Option.bind_some]
  split
  · next none =>
      rw [beq_iff_eq.mp none, UInt32.or_zero] at whole
      exact congrArg (fun bits => some (⟨bits⟩ : Flags table)) whole
  · rw [List.map_singleton, List.foldlM_cons, addPart?, part?_surplusText]
    exact congrArg (fun bits => some (⟨bits⟩ : Flags table)) whole

/-- A set is read back from its text. -/
theorem ofText?_text (named : table.IsNamed) (flags : Flags table) : ofText? flags.text = some flags := by
  have sum := foldlM_parts named flags
  have solid := parts_solid named flags
  have text : flags.text.toList = [' ', '|', ' '].intercalate (flags.parts.map String.toList) := by
    rw [text_eq, String.toList_intercalate]
    rfl
  rw [ofText?, text]
  generalize flags.parts.map String.toList = cs at sum solid
  cases cs with
  | nil => exact sum
  | cons part rest =>
      obtain ⟨⟨written, visible⟩, -⟩ := solid part List.mem_cons_self
      obtain ⟨c, inside⟩ := List.exists_mem_of_ne_nil part written
      have shown : c ∈ [' ', '|', ' '].intercalate (part :: rest) := by
        cases rest with
        | nil => rwa [List.intercalate_singleton]
        | cons next rest =>
            rw [List.intercalate_cons_cons, List.append_assoc]
            exact List.mem_append_left _ inside
      have cut : (fields '|' ([] ++ [' ', '|', ' '].intercalate (part :: rest))).map trim = part :: rest :=
        trim_fields_joined (by decide) (List.cons_ne_nil part rest) solid [] (List.forall_mem_nil _)
      rw [if_neg (trim_ne_nil shown (visible c inside))]
      rw [← cut, List.foldlM_map] at sum
      exact sum

/-- The codec of flags carries every set, bits without a name included. -/
theorem carries {d : Nat} (named : table.IsNamed) (flags : Flags table) : codec.Carries d flags :=
  ⟨.str _, fun _ => ofText?_text named flags⟩

end Flags

end GuestSeat
