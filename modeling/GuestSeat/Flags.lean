import GuestSeat.Document.Shape
import GuestSeat.Text.Blank
import GuestSeat.Text.Radix

/-!
Sets of named bits in a 32-bit word. The table of names belongs to the type; a name may cover several
bits, and bits without a name are kept. As text a set is the names it contains, joined by bars, with
the bits that no name covers appended in hexadecimal.
-/

namespace GuestSeat

open Text

/-- The names of a kind of flag, in the order in which they are written, with the bits they cover. -/
abbrev FlagTable := List (String × UInt32)

/-- A set of flags of one table. -/
structure Flags (table : FlagTable) where
  bits : UInt32
deriving DecidableEq, Inhabited

namespace Flags

variable {table : FlagTable}

def empty : Flags table := ⟨0⟩

def union (a b : Flags table) : Flags table := ⟨a.bits ||| b.bits⟩

instance : OrOp (Flags table) := ⟨union⟩

def contains (a b : Flags table) : Bool := a.bits &&& b.bits == b.bits

def intersects (a b : Flags table) : Bool := a.bits &&& b.bits != 0

/-- The names written for the set `source` when `left` still has to be covered, and what they leave
uncovered. A name is written if the set contains all of its bits and one of them is uncovered. -/
def cover (source : UInt32) : FlagTable → UInt32 → List String × UInt32
  | [], left => ([], left)
  | (name, bits) :: rest, left =>
    if source &&& bits == bits && left &&& bits != 0 then
      let (names, left) := cover source rest (left &&& ~~~bits)
      (name :: names, left)
    else cover source rest left

def text (flags : Flags table) : String :=
  let (names, left) := cover flags.bits table flags.bits
  let surplus := if left == 0 then [] else ["0x" ++ hex left.toNat]
  " | ".intercalate (names ++ surplus)

/-- A word in hexadecimal, after its `0x`; one plus sign may lead. -/
def word? (cs : List Char) : Option UInt32 :=
  let ds := match cs with
    | '+' :: rest => rest
    | _ => cs
  (ofDigits? 16 ds).bind fun n => if n < UInt32.size then some (UInt32.ofNat n) else none

def part? (table : FlagTable) : List Char → Option UInt32
  | [] => none
  | '0' :: 'x' :: rest => word? rest
  | name => table.lookup (String.ofList name)

/-- The set that a text spells; a blank text is the empty set. -/
def ofText? (s : String) : Option (Flags table) :=
  if trim s.toList = [] then some empty
  else
    (fields '|' s.toList).foldlM (fun (flags : Flags table) field =>
      (part? table (trim field)).map fun bits => ⟨flags.bits ||| bits⟩) empty

def codec : Codec (Flags table) where
  encode flags := .str flags.text
  decode p :=
    match p.tree with
    | .str s => ofText? s
    | _ => none

end Flags

end GuestSeat
