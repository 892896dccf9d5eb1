import GuestSeat.Document.Part

/-!
Two-way conversions between domain values and document trees. A codec reads exactly the shapes that
its writer's format admits; the widths of whole numbers are part of the format, so a literal outside
the width of its field, or one with a fraction or exponent, is refused.
-/

namespace GuestSeat

/-- A writer and a partial reader of one type of value. -/
structure Codec (α : Type) where
  encode : α → Tree
  decode : Part → Option α

namespace Codec

variable {α β : Type}

def read? (c : Codec α) (t : Tree) : Option α := c.decode { tree := t }

/-- A whole number between two bounds, both included. -/
def wholeWithin? (low high : Int) (p : Part) : Option Int :=
  match p.tree with
  | .num (.whole n) => if low ≤ n ∧ n ≤ high then some n else none
  | _ => none

def natural (bits : Nat) : Codec Nat where
  encode := Tree.nat
  decode p := (wholeWithin? 0 (1 <<< bits - 1 : Nat) p).map Int.toNat

def along (c : Codec α) (wrap : α → β) (unwrap : β → α) : Codec β where
  encode b := c.encode (unwrap b)
  decode p := (c.decode p).map wrap

def u8 : Codec UInt8 := (natural 8).along UInt8.ofNat UInt8.toNat

def u16 : Codec UInt16 := (natural 16).along UInt16.ofNat UInt16.toNat

def u32 : Codec UInt32 := (natural 32).along UInt32.ofNat UInt32.toNat

def u64 : Codec UInt64 := (natural 64).along UInt64.ofNat UInt64.toNat

/-- A coordinate: a whole number of the signed 32-bit range. -/
def i32 : Codec Int where
  encode := Tree.int
  decode := wholeWithin? (-0x80000000) 0x7fffffff

/-- A binary64 value, which any number in range spells. -/
def float : Codec Float where
  encode := Tree.float
  decode p :=
    match p.tree with
    | .num (.whole n) => some (Float.ofInt n)
    | .num (.real x) => if x.isFinite then some x else none
    | _ => none

def bool : Codec Bool where
  encode := Tree.bool
  decode p :=
    match p.tree with
    | .bool b => some b
    | _ => none

def text : Codec String where
  encode := Tree.str
  decode p :=
    match p.tree with
    | .str s => some s
    | _ => none

def option (c : Codec α) : Codec (Option α) where
  encode
    | none => .null
    | some a => c.encode a
  decode p :=
    match p.tree with
    | .null => some none
    | _ => (c.decode p).map some

def list (c : Codec α) : Codec (List α) where
  encode items := .list (items.map c.encode)
  decode p :=
    match p.tree with
    | .list items => items.mapM fun t => c.decode (p.inner t)
    | _ => none

def pair (c : Codec α) (d : Codec β) : Codec (α × β) where
  encode ab := .list [c.encode ab.1, d.encode ab.2]
  decode p :=
    match p.tree with
    | .list [a, b] => do return (← c.decode (p.inner a), ← d.decode (p.inner b))
    | _ => none

def vector (c : Codec α) (n : Nat) : Codec (Vector α n) where
  encode items := .list (items.toList.map c.encode)
  decode p := do
    let items ← c.list.decode p
    if h : items.length = n then some ⟨items.toArray, by simp [h]⟩ else none

end Codec

end GuestSeat
