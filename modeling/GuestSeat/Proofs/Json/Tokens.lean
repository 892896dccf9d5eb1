import GuestSeat.Json.Token
import GuestSeat.Json.Writer
import GuestSeat.Proofs.Text.Numerals
import Mathlib.Data.List.TakeWhile

/-!
The tokens of text that was written. A whole number of at most sixty-four bits is one token of that
number, wherever a character follows that no number has, and a string in quotes is one token of that
string: every escape that is written is read back as the one character it stands for.
-/

namespace GuestSeat.Json

open Text

theorem isNumeric_of_isDigit {c : Char} (digit : isDigit c = true) : isNumeric c = true := by
  simp [isNumeric, digit]

theorem takeWhile_isDigit_digits (n : Nat) : (digits 10 n).takeWhile isDigit = digits 10 n :=
  List.takeWhile_eq_self_iff.mpr fun _ member => isDigit_of_mem_digits member

theorem dropWhile_isDigit_digits (n : Nat) : (digits 10 n).dropWhile isDigit = [] :=
  List.dropWhile_eq_nil_iff.mpr fun _ member => isDigit_of_mem_digits member

theorem ofUnsigned?_digits (negative : Bool) (n : Nat) :
    Literal.ofUnsigned? negative (digits 10 n) = some ⟨negative, digits 10 n, none, none⟩ := by
  have proper : ¬ (digits 10 n = [] ∨ (1 < (digits 10 n).length ∧ (digits 10 n).head? = some '0')) := by
    rintro (empty | ⟨several, zero⟩)
    · exact digits_ne_nil 10 n empty
    · exact head?_digits_ne_zero_of_length (by decide) (by decide) several zero
  rw [Literal.ofUnsigned?, takeWhile_isDigit_digits, dropWhile_isDigit_digits]
  exact if_neg proper

/-- The literal of a whole number is its sign and its digits. -/
theorem ofChars?_decimal (n : Int) :
    Literal.ofChars? (decimal n) = some ⟨decide (n < 0), digits 10 n.natAbs, none, none⟩ := by
  by_cases negative : n < 0
  · rw [decimal, if_pos negative, Literal.ofChars?, ofUnsigned?_digits, decide_eq_true negative]
  · rw [decimal, if_neg negative, decide_eq_false negative, ← ofUnsigned?_digits]
    cases written : digits 10 n.natAbs with
    | nil => rfl
    | cons c cs =>
        have digit : isDigit c = true := isDigit_of_mem_digits (written ▸ List.mem_cons_self)
        unfold Literal.ofChars?
        split
        · next sign => cases sign; exact absurd digit (by decide)
        · rfl

theorem digitsValue_digits (n : Nat) : digitsValue (digits 10 n) = n := by
  induction n using digits_induct (show 2 ≤ 10 by decide) with
  | single n small =>
      rw [digits_of_lt small]
      interval_cases n <;> rfl
  | more n large ih =>
      have last : ∀ d < 10, (digitChar d).toNat - '0'.toNat = d := by decide
      rw [digits_of_le (by decide) large, digitsValue, List.foldl_append]
      change digitsValue (digits 10 (n / 10)) * 10 + ((digitChar (n % 10)).toNat - '0'.toNat) = n
      rw [ih, last _ (Nat.mod_lt n (by decide))]
      omega

def IsWord (n : Int) : Prop := -0x8000000000000000 ≤ n ∧ n ≤ 0xffffffffffffffff

theorem number?_decimal {n : Int} (word : IsWord n) :
    Literal.number? ⟨decide (n < 0), digits 10 n.natAbs, none, none⟩ = some (.whole n) := by
  obtain ⟨low, high⟩ := word
  simp only [Literal.number?, digitsValue_digits, decide_eq_true_eq]
  by_cases negative : n < 0
  · rw [if_pos negative, if_neg (by omega), show -(n.natAbs : Int) = n by omega]
  · rw [if_neg negative, if_pos (by simp only [wordLimit]; omega), show (n.natAbs : Int) = n by omega]

def EndsNumber (rest : List Char) : Prop := ∀ c ∈ rest.head?, isNumeric c = false

theorem token?_of_isNumeric {c : Char} (rest : List Char) (numeric : isNumeric c = true) :
    token? (c :: rest) = (Literal.ofChars? (c :: rest.takeWhile isNumeric)).map fun l =>
      (.num l.number?, rest.dropWhile isNumeric) := by
  unfold token?
  split
  case h_11 start =>
    cases start
    exact if_pos numeric
  case h_12 empty => cases empty
  all_goals
    next start =>
      cases start
      exact absurd numeric (by decide)

theorem isNumeric_of_mem_decimal {n : Int} {c : Char} (member : c ∈ decimal n) : isNumeric c = true := by
  have digit (member : c ∈ digits 10 n.natAbs) : isNumeric c = true :=
    isNumeric_of_isDigit (isDigit_of_mem_digits member)
  rw [decimal] at member
  split at member
  · rcases List.mem_cons.mp member with rfl | member
    · decide
    · exact digit member
  · exact digit member

theorem decimal_ne_nil (n : Int) : decimal n ≠ [] := by
  rw [decimal]
  split
  · exact List.cons_ne_nil _ _
  · exact digits_ne_nil _ _

/-- A whole number is read up to the first character that no number has. -/
theorem token?_decimal {n : Int} (word : IsWord n) {rest : List Char} (ends : EndsNumber rest) :
    token? (decimal n ++ rest) = some (.num (some (.whole n)), rest) := by
  have literal := ofChars?_decimal n
  have numeric : ∀ c ∈ decimal n, isNumeric c = true := fun _ => isNumeric_of_mem_decimal
  cases written : decimal n with
  | nil => exact absurd written (decimal_ne_nil n)
  | cons c cs =>
      rw [written] at literal numeric
      have more : ∀ d ∈ cs, isNumeric d = true := fun d member => numeric d (List.mem_cons_of_mem c member)
      have stop : rest.takeWhile isNumeric = [] ∧ rest.dropWhile isNumeric = rest := by
        cases rest with
        | nil => exact ⟨rfl, rfl⟩
        | cons d rest =>
            have other : ¬ isNumeric d = true := by simp [ends d rfl]
            exact ⟨List.takeWhile_cons_of_neg other, List.dropWhile_cons_of_neg other⟩
      rw [List.cons_append, token?_of_isNumeric _ (numeric c List.mem_cons_self),
        List.takeWhile_append_of_pos more, List.dropWhile_append_of_pos more, stop.1, stop.2,
        List.append_nil, literal, Option.map_some, number?_decimal word]

/-- Four hexadecimal digits are read back. -/
theorem unit?_hexPadded {n : Nat} (small : n < 16 ^ 4) (rest : List Char) :
    unit? ((hexPadded 4 n).toList ++ rest) = some (n, rest) := by
  have short : (digits 16 n).length ≤ 4 := length_digits_le (by decide) small
  have value : ofDigits? 16 (List.replicate (4 - (digits 16 n).length) '0' ++ digits 16 n) = some n :=
    ofDigits?_zeros_digits (by decide) (by decide) _
  have four : (List.replicate (4 - (digits 16 n).length) '0' ++ digits 16 n).length = 4 := by
    simp
    omega
  rw [hexPadded, String.toList_ofList]
  generalize List.replicate (4 - (digits 16 n).length) '0' ++ digits 16 n = cs at value four
  match cs, four with
  | [a, b, c, d], _ => simp [unit?, value]

theorem quoted?_escape {c : Char} {cs after : List Char} (read : escape? cs = some (some c, after))
    (done : List Char) : quoted? (some done) ('\\' :: cs) = quoted? (some (c :: done)) after := by
  rw [quoted?]
  split
  · next stuck => cases stuck.symm.trans read
  · next same => cases same.symm.trans read; rfl

/-- A control character is read back from its code. -/
theorem escape?_code {c : Char} (control : c.toNat < 0x20) (rest : List Char) :
    escape? ('u' :: ((hexPadded 4 c.toNat).toList ++ rest)) = some (some c, rest) := by
  have unit := unit?_hexPadded (n := c.toNat) (by omega) rest
  have whole : ¬ (0xd800 ≤ c.toNat ∧ c.toNat ≤ 0xdbff) := by omega
  have alone : ¬ (0xdc00 ≤ c.toNat ∧ c.toNat ≤ 0xdfff) := by omega
  simp only [escape?, unitEscape?, unit, if_neg whole, if_neg alone, Char.ofNat_toNat]

/-- What is written for a character inside a string is read as that character. -/
theorem quoted?_escaped (c : Char) (done rest : List Char) :
    quoted? (some done) (escaped c ++ rest) = quoted? (some (c :: done)) rest := by
  unfold escaped
  split_ifs with quote slash feed carriage tab control
  case pos => subst quote; exact quoted?_escape rfl done
  case pos => subst slash; exact quoted?_escape rfl done
  case pos => subst feed; exact quoted?_escape rfl done
  case pos => subst carriage; exact quoted?_escape rfl done
  case pos => subst tab; exact quoted?_escape rfl done
  case pos => exact quoted?_escape (escape?_code control rest) done
  case neg =>
    rw [List.singleton_append, quoted?]
    · rw [if_neg control, Option.map_some]
    · exact quote
    · exact fun start => absurd start slash

theorem quoted?_flatMap_escaped (cs : List Char) :
    ∀ done rest, quoted? (some done) (cs.flatMap escaped ++ '"' :: rest) =
      some (some (done.reverse ++ cs), rest) := by
  induction cs with
  | nil =>
      intro done rest
      rw [List.flatMap_nil, List.nil_append, quoted?, Option.map_some, List.append_nil]
  | cons c cs ih =>
      intro done rest
      rw [List.flatMap_cons, List.append_assoc, quoted?_escaped, ih, List.reverse_cons,
        List.append_assoc, List.singleton_append]

/-- A string in quotes is read back. -/
theorem token?_quote (s : String) (rest : List Char) :
    token? (quote s ++ rest) = some (.str (some s), rest) := by
  have content := quoted?_flatMap_escaped s.toList [] rest
  simp only [quote, List.cons_append, List.append_assoc, List.nil_append, token?]
  rw [content]
  simp

end GuestSeat.Json
