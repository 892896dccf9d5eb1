import GuestSeat.Document.Tree

/-!
Parts of a document on their way into values. What a part means may depend on an entry that stands
later in the text; such a part is put off until that entry has been read. Putting a part off takes
reading all of it, so nothing unreadable may be inside, and what was put off is taken more leniently
than what is read in place: an empty record may stand for `null` behind the name of an alternative,
and an alternative may be given by its place among the others.
-/

namespace GuestSeat

/-- How a part comes to be read. -/
inductive Reading
  | inPlace
  | putOff
deriving DecidableEq

/-- A tree inside a document, and how it comes to be read. -/
structure Part where
  tree : Tree
  reading : Reading := .inPlace

namespace Part

def inner (p : Part) (t : Tree) : Part := { p with tree := t }

/-- The part, read once the whole of it was put off. -/
def putOff? (p : Part) : Option Part :=
  if p.tree.isReadable then some { p with reading := .putOff } else none

/-- Whether the part behind the name of an alternative stands for nothing. -/
def isVoid (p : Part) : Bool :=
  match p.tree, p.reading with
  | .null, _ => true
  | .record [], .putOff => true
  | _, _ => false

/-- An alternative named by itself or as the single entry of a record. -/
def variant? (p : Part) : Option (String × Option Part) :=
  match p.tree with
  | .str name => some (name, none)
  | .record [(name, content)] => some (name, some (p.inner content))
  | _ => none

def bareName? (p : Part) : Option String := do
  let (name, content) ← p.variant?
  if content.all isVoid then return name else none

/-- One of the alternatives `names`, by its name or, when it was put off, by its place. -/
def identifier? (names : List String) (p : Part) : Option String :=
  match p.tree, p.reading with
  | .str name, _ => some name
  | .num (.whole n), .putOff => if 0 ≤ n then names[n.toNat]? else none
  | _, _ => none

end Part

end GuestSeat
