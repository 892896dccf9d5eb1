/-!
Whole numbers as text: decimal and hexadecimal digits, read and written. Writing uses the fewest
digits, lower case; reading takes either case and reports nothing when a digit is foreign.
-/

namespace GuestSeat.Text

def digit? (base : Nat) (c : Char) : Option Nat :=
  let value :=
    if '0' ≤ c ∧ c ≤ '9' then some (c.toNat - '0'.toNat)
    else if 'a' ≤ c ∧ c ≤ 'f' then some (c.toNat - 'a'.toNat + 10)
    else if 'A' ≤ c ∧ c ≤ 'F' then some (c.toNat - 'A'.toNat + 10)
    else none
  value.filter (· < base)

def isDigit (c : Char) : Bool := '0' ≤ c && c ≤ '9'

/-- The number that a nonempty run of digits spells. -/
def ofDigits? (base : Nat) : List Char → Option Nat
  | [] => none
  | cs => cs.foldlM (fun value c => (digit? base c).map (value * base + ·)) 0

def digitChar (d : Nat) : Char :=
  if d < 10 then Char.ofNat ('0'.toNat + d) else Char.ofNat ('a'.toNat + (d - 10))

/-- The digits of `n`, most significant first, fewest that spell it. -/
def digits (base : Nat) (n : Nat) : List Char :=
  if base < 2 ∨ n < base then [digitChar n]
  else digits base (n / base) ++ [digitChar (n % base)]
termination_by n
decreasing_by
  have : 0 < n := by omega
  exact Nat.div_lt_self this (by omega)

def hex (n : Nat) : String := String.ofList (digits 16 n)

/-- A number in hexadecimal, filled with zeros to at least `width` digits. -/
def hexPadded (width n : Nat) : String :=
  let ds := digits 16 n
  String.ofList (List.replicate (width - ds.length) '0' ++ ds)

/-- A whole number in decimal with a sign only when negative. -/
def decimal (n : Int) : List Char :=
  if n < 0 then '-' :: digits 10 n.natAbs else digits 10 n.natAbs

/-- Why a text is not the decimal spelling of a bounded whole number. -/
inductive NumeralFault
  | empty
  | strayCharacter
  | tooLarge
  | tooSmall
deriving DecidableEq

def NumeralFault.message : NumeralFault → String
  | .empty => "cannot parse integer from empty string"
  | .strayCharacter => "invalid digit found in string"
  | .tooLarge => "number too large to fit in target type"
  | .tooSmall => "number too small to fit in target type"

/-- The value of `digits` appended to `value` one by one. The first digit that is foreign or takes the
value past `bound` is the fault. -/
def boundedMagnitude (bound : Nat) (overflow : NumeralFault) :
    Nat → List Char → Except NumeralFault Nat
  | value, [] => .ok value
  | value, c :: rest =>
    match digit? 10 c with
    | none => .error .strayCharacter
    | some d =>
      if value * 10 + d ≤ bound then boundedMagnitude bound overflow (value * 10 + d) rest
      else .error overflow

/-- A signed decimal numeral within the signed range of `bits` bits. One sign may lead. -/
def signedNumeral (bits : Nat) (cs : List Char) : Except NumeralFault Int :=
  let half : Nat := 1 <<< (bits - 1)
  match cs with
  | [] => .error .empty
  | ['+'] | ['-'] => .error .strayCharacter
  | '+' :: ds => (boundedMagnitude (half - 1) .tooLarge 0 ds).map Int.ofNat
  | '-' :: ds => (boundedMagnitude half .tooSmall 0 ds).map fun n => -(n : Int)
  | ds => (boundedMagnitude (half - 1) .tooLarge 0 ds).map Int.ofNat

end GuestSeat.Text
