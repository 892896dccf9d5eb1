/-!
The document tree that every text format reads into and every printed answer is built from. Records
keep their entries in the order written, repeated names included, because the record readers have to
refuse a repeated field and the writers have to keep field order. A text may also hold a value that has
a beginning and an end but no meaning; the tree keeps its place, so that a reader can pass over it.
-/

namespace GuestSeat

/-- A number of a document. A whole-number literal that fits sixty-four bits stays whole; every other
literal is held as the binary64 value it reads to. -/
inductive Number
  | whole (value : Int)
  | real (value : Float)
deriving DecidableEq, Inhabited

inductive Tree
  | null
  | bool (value : Bool)
  | num (value : Number)
  | str (value : String)
  | list (items : List Tree)
  | record (entries : List (String × Tree))
  /-- A value that can be passed over but not read. -/
  | unreadable
deriving Inhabited

namespace Tree

def int (n : Int) : Tree := .num (.whole n)

def nat (n : Nat) : Tree := .num (.whole n)

/-- A binary64 value; one that no literal spells is written as `null`. -/
def float (x : Float) : Tree := if x.isFinite then .num (.real x) else .null

/-- The value of an optional part, `null` when it is absent. -/
def option {α : Type} (write : α → Tree) : Option α → Tree
  | none => .null
  | some a => write a

mutual

def isReadable : Tree → Bool
  | .list items => areReadable items
  | .record entries => haveReadable entries
  | .unreadable => false
  | _ => true

def areReadable : List Tree → Bool
  | [] => true
  | t :: rest => t.isReadable && areReadable rest

/-- Whether every value of the entries can be read. -/
def haveReadable : List (String × Tree) → Bool
  | [] => true
  | (_, t) :: rest => t.isReadable && haveReadable rest

end

/-- The first entry of a name; a tree that is no record has none. -/
def get? (t : Tree) (name : String) : Option Tree :=
  match t with
  | .record entries => entries.lookup name
  | _ => none

end Tree

end GuestSeat
