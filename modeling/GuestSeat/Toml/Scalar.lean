import GuestSeat.Document.Tree
import GuestSeat.Toml.Text

/-!
The plain values of TOML that begin with a digit, a sign or a letter: dates and times, binary64 numbers,
whole numbers of sixty-four bits, and the words for truth values. A date or time reads as a record of
its text, which no field asks for.
-/

namespace GuestSeat.Toml

open Text

/-- Exactly `n` decimal digits with a value between two bounds. -/
def fixedDigits? (n low high : Nat) (cs : List Char) : Option (Nat × List Char) :=
  let ds := cs.take n
  if ds.length = n ∧ ds.all isDigit then
    match ofDigits? 10 ds with
    | some v => if low ≤ v ∧ v ≤ high then some (v, cs.drop n) else none
    | none => none
  else none

def after? (c : Char) : List Char → Option (List Char)
  | d :: rest => if d = c then some rest else none
  | [] => none

/-- What follows a date, in which every month has thirty-one days. -/
def date? (cs : List Char) : Option (List Char) := do
  let (_, cs) ← fixedDigits? 4 0 9999 cs
  let (_, cs) ← fixedDigits? 2 1 12 (← after? '-' cs)
  let (_, cs) ← fixedDigits? 2 1 31 (← after? '-' cs)
  return cs

/-- What follows a time of day; a fraction of the second may be given. -/
def time? (cs : List Char) : Option (List Char) := do
  let (_, cs) ← fixedDigits? 2 0 23 cs
  let (_, cs) ← fixedDigits? 2 0 59 (← after? ':' cs)
  let (_, cs) ← fixedDigits? 2 0 60 (← after? ':' cs)
  match cs with
  | '.' :: rest => if rest.takeWhile isDigit = [] then return cs else return rest.dropWhile isDigit
  | _ => return cs

/-- What follows the distance from universal time. -/
def zone? : List Char → Option (List Char)
  | 'Z' :: rest | 'z' :: rest => some rest
  | '+' :: rest | '-' :: rest => do
    let (_, cs) ← fixedDigits? 2 0 23 rest
    let (_, cs) ← fixedDigits? 2 0 59 (← after? ':' cs)
    return cs
  | cs => some cs

/-- What follows the time of a day, which a letter or a blank sets off. -/
def timeOfDay? : List Char → Option (List Char)
  | 'T' :: rest | 't' :: rest => (time? rest).bind zone?
  | ' ' :: rest =>
    match time? rest with
    | some cs => zone? cs
    | none => some (' ' :: rest)
  | cs => some cs

/-- Whether a text begins as a date or a time does. -/
def looksTimed (cs : List Char) : Bool :=
  let ds := cs.takeWhile isDigit
  match cs.dropWhile isDigit with
  | '-' :: _ => ds.length == 4
  | ':' :: _ => ds.length == 2
  | _ => false

def moment? (cs : List Char) : Option (Tree × List Char) := do
  let rest ← if (cs.takeWhile isDigit).length = 4 then (date? cs).bind timeOfDay? else time? cs
  let text := cs.take (cs.length - rest.length)
  return (.record [("moment", .str (String.ofList text))], rest)

/-- Digits of a base, single underscores between them, without the underscores. -/
def spacedDigits? (base : Nat) : List Char → Option (List Char × List Char)
  | [] => none
  | c :: rest =>
    if (digit? base c).isNone then none
    else
      match rest with
      | '_' :: more => (spacedDigits? base more).map fun (ds, cs) => (c :: ds, cs)
      | more =>
        match spacedDigits? base more with
        | some (ds, cs) => some (c :: ds, cs)
        | none => if more.head? = some '_' then none else some ([c], more)

/-- The largest whole number. -/
def wholeLimit : Nat := 0x7fffffffffffffff

/-- A whole number in a base other than ten, after the two characters that announce it. -/
def based? (base : Nat) (cs : List Char) : Option (Tree × List Char) := do
  let (ds, rest) ← spacedDigits? base cs
  let n ← ofDigits? base ds
  if n ≤ wholeLimit then return (.nat n, rest) else none

/-- The sign that a text begins with, and whether it is negative. -/
def sign : List Char → Bool × List Char
  | '-' :: rest => (true, rest)
  | '+' :: rest => (false, rest)
  | cs => (false, cs)

/-- The digits of a decimal whole part: a zero alone, or digits that begin with another. -/
def wholeDigits? : List Char → Option (List Char × List Char)
  | '0' :: rest => some (['0'], rest)
  | cs => spacedDigits? 10 cs

def fraction? : List Char → Option (Option (List Char) × List Char)
  | '.' :: rest => (spacedDigits? 10 rest).map fun (ds, cs) => (some ds, cs)
  | cs => some (none, cs)

def exponent? : List Char → Option (Option Int × List Char)
  | 'e' :: rest | 'E' :: rest => do
    let (negative, rest) := sign rest
    let (ds, cs) ← spacedDigits? 10 rest
    let n ← ofDigits? 10 ds
    return (some (if negative then -(n : Int) else n), cs)
  | cs => some (none, cs)

/-- The binary64 value of decimal digits times a power of ten. Powers beyond what any digits can bring
back into range are cut off. -/
def scaled (digits : Nat) (length : Nat) (power : Int) : Float :=
  if digits = 0 then 0
  else if 400 < power then 1.0 / 0.0
  else if power < -(400 + length : Nat) then 0
  else if 0 ≤ power then Float.ofScientific digits false power.toNat
  else Float.ofScientific digits true (-power).toNat

/-- A decimal number: whole, or binary64 if it has a fraction or an exponent. A binary64 that is too
large is refused. -/
def decimal? (cs : List Char) : Option (Tree × List Char) := do
  let (negative, cs) := sign cs
  let (whole, cs) ← wholeDigits? cs
  let (fraction, cs) ← fraction? cs
  let (exponent, cs) ← exponent? cs
  match fraction, exponent with
  | none, none =>
    let n ← ofDigits? 10 whole
    if n ≤ (if negative then wholeLimit + 1 else wholeLimit) then
      return (.int (if negative then -(n : Int) else n), cs)
    else none
  | _, _ =>
    let ds := whole ++ fraction.getD []
    let n ← ofDigits? 10 ds
    let x := scaled n ds.length (exponent.getD 0 - (fraction.getD []).length)
    if x.isInf ∧ !negative then none else return (.num (.real (if negative then -x else x)), cs)

/-- The words for values that are no numbers proper. -/
def word? (cs : List Char) : Option (Tree × List Char) :=
  match cs with
  | 't' :: 'r' :: 'u' :: 'e' :: rest => some (.bool true, rest)
  | 'f' :: 'a' :: 'l' :: 's' :: 'e' :: rest => some (.bool false, rest)
  | _ =>
    match sign cs with
    | (negative, 'i' :: 'n' :: 'f' :: rest) =>
      some (.num (.real (if negative then -1.0 / 0.0 else 1.0 / 0.0)), rest)
    | (_, 'n' :: 'a' :: 'n' :: rest) => some (.num (.real (0.0 / 0.0)), rest)
    | _ => none

def scalar? (cs : List Char) : Option (Tree × List Char) :=
  match word? cs with
  | some read => some read
  | none =>
    if looksTimed cs then moment? cs
    else
      match cs with
      | '0' :: 'x' :: rest => based? 16 rest
      | '0' :: 'o' :: rest => based? 8 rest
      | '0' :: 'b' :: rest => based? 2 rest
      | _ => decimal? cs

end GuestSeat.Toml
