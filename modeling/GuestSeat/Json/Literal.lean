import GuestSeat.Document.Tree
import GuestSeat.Text.Radix

/-!
Number literals of JSON text. A literal without fraction and exponent that fits sixty-four bits is a
whole number, except minus zero. Any other literal is read as binary64 from its leading digits, as
many as fit an unsigned sixty-four bit word, scaled by a power of ten.
-/

namespace GuestSeat.Json

open Text

structure Literal where
  negative : Bool
  whole : List Char
  fraction : Option (List Char)
  exponent : Option (Bool × List Char)

/-- The characters that number literals are made of. -/
def isNumeric (c : Char) : Bool :=
  isDigit c || c == '-' || c == '+' || c == '.' || c == 'e' || c == 'E'

/-- The exponent of a literal: an optional sign and at least one digit, up to the end. -/
def exponent? : List Char → Option (Bool × List Char)
  | '+' :: ds => if ds ≠ [] ∧ ds.all isDigit then some (false, ds) else none
  | '-' :: ds => if ds ≠ [] ∧ ds.all isDigit then some (true, ds) else none
  | ds => if ds ≠ [] ∧ ds.all isDigit then some (false, ds) else none

/-- The end of a literal after its whole and fractional digits. -/
def Literal.ofTail? (negative : Bool) (whole : List Char) (fraction : Option (List Char)) :
    List Char → Option Literal
  | [] => some { negative, whole, fraction, exponent := none }
  | 'e' :: rest | 'E' :: rest =>
    (exponent? rest).map fun e => { negative, whole, fraction, exponent := some e }
  | _ => none

/-- A literal without its sign. The whole part has no superfluous leading zero, and a decimal point
stands between digits. -/
def Literal.ofUnsigned? (negative : Bool) (cs : List Char) : Option Literal :=
  let whole := cs.takeWhile isDigit
  if whole = [] ∨ (1 < whole.length ∧ whole.head? = some '0') then none
  else
    match cs.dropWhile isDigit with
    | '.' :: rest =>
      let fraction := rest.takeWhile isDigit
      if fraction = [] then none
      else Literal.ofTail? negative whole (some fraction) (rest.dropWhile isDigit)
    | rest => Literal.ofTail? negative whole none rest

def Literal.ofChars? : List Char → Option Literal
  | '-' :: rest => Literal.ofUnsigned? true rest
  | cs => Literal.ofUnsigned? false cs

def wordLimit : Nat := 0xffffffffffffffff

/-- Appends digits while the word can hold them; the second part counts those left over. -/
def appendDigits : Nat → List Char → Nat × Nat
  | word, [] => (word, 0)
  | word, c :: rest =>
    let next := word * 10 + (c.toNat - '0'.toNat)
    if next ≤ wordLimit then appendDigits next rest else (word, rest.length + 1)

def digitsValue (ds : List Char) : Nat :=
  ds.foldl (fun n c => n * 10 + (c.toNat - '0'.toNat)) 0

/-- A power of ten, rounded to binary64 once. -/
def tenTo (n : Nat) : Float := Float.ofScientific 1 false n

/-- A word scaled by a power of ten in one or two roundings. -/
def scale (word : Nat) (power : Int) : Float :=
  let f := Float.ofNat word
  if word = 0 then 0.0
  else if 308 < power then 1.0 / 0.0
  else if 0 ≤ power then f * tenTo power.toNat
  else if -308 ≤ power then f / tenTo (-power).toNat
  else if -616 ≤ power then f / tenTo 308 / tenTo (-(power + 308)).toNat
  else 0.0

/-- The largest exponent that is told apart from larger ones. -/
def exponentLimit : Nat := 0x7fffffff

/-- The binary64 value of a literal, an infinity when the literal is out of range. -/
def Literal.real (l : Literal) : Float :=
  let (word, surplus) := appendDigits 0 l.whole
  let (word, power) :=
    match l.fraction with
    | none => (word, (surplus : Int))
    | some ds =>
      let (extended, unused) := appendDigits word ds
      (extended, (surplus : Int) - (ds.length - unused : Nat))
  let magnitude :=
    match l.exponent with
    | none => scale word power
    | some (down, ds) =>
      let e := digitsValue ds
      if exponentLimit < e then
        if word = 0 ∨ down then 0.0 else 1.0 / 0.0
      else scale word (if down then power - e else power + e)
  if l.negative then -magnitude else magnitude

/-- The binary64 number of a literal that is in range. -/
def Literal.real? (l : Literal) : Option Number :=
  if l.real.isFinite then some (.real l.real) else none

/-- The number that a literal stands for, if it is in range. -/
def Literal.number? (l : Literal) : Option Number :=
  match l.fraction, l.exponent with
  | none, none =>
    let n := digitsValue l.whole
    if l.negative then
      if n = 0 ∨ 0x8000000000000000 < n then l.real? else some (.whole (-(n : Int)))
    else if n ≤ wordLimit then some (.whole n)
    else l.real?
  | _, _ => l.real?

end GuestSeat.Json
