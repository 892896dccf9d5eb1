import GuestSeat.Text.Radix
import Mathlib.Algebra.Order.Group.Nat
import Mathlib.Data.List.Basic
import Mathlib.Tactic.IntervalCases

/-!
Numerals that are written and read again. The digits of a number spell that number in every base from
two to sixteen, leading zeros do not change what is spelled, and no numeral begins with a zero unless
it is the zero.
-/

namespace GuestSeat.Text

variable {base n : Nat}

theorem digit?_digitChar {d : Nat} (small : d < base) (known : base ≤ 16) :
    digit? base (digitChar d) = some d := by
  have few : d < 16 := by omega
  interval_cases d
  all_goals
    simp only [digitChar, digit?, Option.filter_eq_some_iff]
    exact ⟨by decide, decide_eq_true small⟩

theorem digits_of_lt (small : n < base) : digits base n = [digitChar n] := by
  rw [digits, if_pos (Or.inr small)]

theorem digits_of_le (two : 2 ≤ base) (large : base ≤ n) :
    digits base n = digits base (n / base) ++ [digitChar (n % base)] := by
  rw [digits, if_neg (by omega)]

/-- Numbers by their digits: those of one digit, and those with one digit more than another number. -/
theorem digits_induct (two : 2 ≤ base) {P : Nat → Prop} (single : ∀ n < base, P n)
    (more : ∀ n, base ≤ n → P (n / base) → P n) (n : Nat) : P n := by
  induction n using Nat.strong_induction_on with
  | _ n ih =>
    by_cases small : n < base
    · exact single n small
    · exact more n (by omega) (ih (n / base) (Nat.div_lt_self (by omega) (by omega)))

theorem digits_ne_nil (base n : Nat) : digits base n ≠ [] := by
  rw [digits]
  split <;> simp

/-- A numeral consists of digits of its base. -/
theorem exists_digit_of_mem_digits (two : 2 ≤ base) {c : Char} :
    c ∈ digits base n → ∃ d < base, c = digitChar d := by
  induction n using digits_induct two with
  | single n small =>
      rw [digits_of_lt small, List.mem_singleton]
      rintro rfl
      exact ⟨n, small, rfl⟩
  | more n large ih =>
      rw [digits_of_le two large, List.mem_append, List.mem_singleton]
      rintro (member | rfl)
      · exact ih member
      · exact ⟨n % base, Nat.mod_lt n (by omega), rfl⟩

def appendDigit? (base value : Nat) (c : Char) : Option Nat :=
  (digit? base c).map (value * base + ·)

theorem ofDigits?_of_ne_nil {cs : List Char} (written : cs ≠ []) :
    ofDigits? base cs = cs.foldlM (appendDigit? base) 0 := by
  cases cs with
  | nil => exact absurd rfl written
  | cons c cs => rfl

theorem foldlM_digits (two : 2 ≤ base) (known : base ≤ 16) :
    (digits base n).foldlM (appendDigit? base) 0 = some n := by
  induction n using digits_induct two with
  | single n small =>
      simp [digits_of_lt small, appendDigit?, digit?_digitChar small known]
  | more n large ih =>
      have last : digit? base (digitChar (n % base)) = some (n % base) :=
        digit?_digitChar (Nat.mod_lt n (by omega)) known
      rw [digits_of_le two large, List.foldlM_append, ih]
      simp [appendDigit?, last, Nat.mul_comm _ base, Nat.div_add_mod]

/-- What is written in digits is read again. -/
theorem ofDigits?_digits (two : 2 ≤ base) (known : base ≤ 16) : ofDigits? base (digits base n) = some n := by
  rw [ofDigits?_of_ne_nil (digits_ne_nil base n), foldlM_digits two known]

/-- Leading zeros do not change the number. -/
theorem ofDigits?_zeros_digits (two : 2 ≤ base) (known : base ≤ 16) (k : Nat) :
    ofDigits? base (List.replicate k '0' ++ digits base n) = some n := by
  rw [ofDigits?_of_ne_nil (by simp [digits_ne_nil]), List.foldlM_append]
  have zeros : (List.replicate k '0').foldlM (appendDigit? base) 0 = some 0 := by
    have zero : digit? base '0' = some 0 := digit?_digitChar (d := 0) (by omega) known
    induction k with
    | zero => rfl
    | succ k ih => simp [List.replicate_succ, appendDigit?, zero, ih]
  simp [zeros, foldlM_digits two known]

theorem length_digits_le (two : 2 ≤ base) {k : Nat} (small : n < base ^ (k + 1)) :
    (digits base n).length ≤ k + 1 := by
  induction k generalizing n with
  | zero => simp [digits_of_lt (by simpa using small : n < base)]
  | succ k ih =>
      by_cases single : n < base
      · simp [digits_of_lt single]
      · have fewer : n / base < base ^ (k + 1) :=
          Nat.div_lt_of_lt_mul (by rwa [Nat.pow_succ'] at small)
        rw [digits_of_le two (by omega), List.length_append, List.length_singleton]
        exact Nat.succ_le_succ (ih fewer)

/-- A number other than zero does not begin with a zero. -/
theorem head?_digits_ne_zero (two : 2 ≤ base) (known : base ≤ 16) (positive : 0 < n) :
    (digits base n).head? ≠ some '0' := by
  induction n using digits_induct two with
  | single n small =>
      rw [digits_of_lt small]
      intro zero
      have read : digit? base '0' = some n := by
        rw [← Option.some.inj zero]
        exact digit?_digitChar small known
      have : digit? base '0' = some 0 := digit?_digitChar (d := 0) (by omega) known
      rw [this] at read
      cases read
      exact absurd positive (by omega)
  | more n large ih =>
      rw [digits_of_le two large, List.head?_append_of_ne_nil _ (digits_ne_nil _ _)]
      exact ih (Nat.div_pos large (by omega))

/-- A numeral of several digits does not begin with a zero. -/
theorem head?_digits_ne_zero_of_length (two : 2 ≤ base) (known : base ≤ 16)
    (several : 1 < (digits base n).length) : (digits base n).head? ≠ some '0' := by
  apply head?_digits_ne_zero two known
  by_contra zero
  rw [digits_of_lt (by omega)] at several
  exact absurd several (by simp)

theorem isDigit_digitChar {d : Nat} (small : d < 10) : isDigit (digitChar d) = true := by
  interval_cases d <;> decide

theorem isDigit_of_mem_digits {c : Char} (member : c ∈ digits 10 n) : isDigit c = true := by
  obtain ⟨d, small, rfl⟩ := exists_digit_of_mem_digits (by decide) member
  exact isDigit_digitChar small

end GuestSeat.Text
