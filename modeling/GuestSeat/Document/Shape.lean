import GuestSeat.Document.Codec

/-!
The shapes that records and choices take in a document. A record is written with its field names or as
a list of its fields in order. A choice between alternatives is written in one of three ways: by its
bare name or as a record with that single name (`variant?`), as a record whose tag entry names the
alternative and whose other entries are its fields (`tagged?`), or as a tag entry beside a content
entry (`adjacent?`). What belongs to an alternative is put off where its tag may still follow. Entries
that no field asks for are ignored; a field given twice is refused.
-/

namespace GuestSeat

/-- The fields of one record. When they were listed in order (`named` is false) an absent field is one
past the end of the list, which only a default can fill. -/
structure Row where
  entries : List (String × Part)
  named : Bool

namespace Row

variable {α : Type}

/-- The fields of a record written by name, refused when one of them is repeated. -/
def ofEntries? (fields : List String) (entries : List (String × Part)) : Option Row :=
  if fields.any fun f => 1 < (entries.filter (·.1 == f)).length then none
  else some { entries, named := true }

def read? (fields : List String) (p : Part) : Option Row :=
  match p.tree with
  | .record entries => ofEntries? fields (entries.map fun (name, t) => (name, p.inner t))
  | .list items =>
    if items.length ≤ fields.length then
      some { entries := fields.zip (items.map p.inner), named := false }
    else none
  | _ => none

/-- The fields of a record that may only be written by name. -/
def readNamed? (fields : List String) (p : Part) : Option Row :=
  match p.tree with
  | .record _ => read? fields p
  | _ => none

def required (row : Row) (field : String) (c : Codec α) : Option α :=
  (row.entries.lookup field).bind c.decode

def defaulted (row : Row) (field : String) (c : Codec α) (default : α) : Option α :=
  match row.entries.lookup field with
  | none => some default
  | some p => c.decode p

/-- A field that may be `null` or, in a record with names, left out. -/
def optional (row : Row) (field : String) (c : Codec α) : Option (Option α) :=
  match row.entries.lookup field with
  | none => if row.named then some none else none
  | some p => c.option.decode p

end Row

namespace Part

variable {α : Type}

/-- The value of an alternative that is spelled by its name and has no content. -/
def alone? (value : α) (content : Option Part) : Option α :=
  if content.all isVoid then some value else none

/-- The alternative that a tag entry names, and the record without that entry. In the spelling by
order the tag comes first. The tag may stand anywhere, so everything beside it is put off. -/
def tagged? (tag : String) (names : List String) (p : Part) : Option (String × Part) := do
  let whole ← p.putOff?
  match p.tree with
  | .record entries =>
    match entries.filter (·.1 == tag) with
    | [(_, t)] =>
      let name ← (p.inner t).identifier? names
      return (name, whole.inner (.record (entries.filter (·.1 != tag))))
    | _ => none
  | .list (t :: rest) =>
    let name ← (p.inner t).identifier? names
    return (name, whole.inner (.list rest))
  | _ => none

/-- Whether the rest of a tagged record suits an alternative without fields. -/
def isBare (p : Part) : Bool :=
  match p.tree with
  | .record _ => true
  | .list [] => true
  | _ => false

/-- The alternative that a tag entry names, and the content entry beside it, which is put off if it
comes first. In the spelling by order the tag does. -/
def adjacent? (tag content : String) (names : List String) (p : Part) :
    Option (String × Option Part) :=
  match p.tree with
  | .record entries =>
    match entries.filter fun entry => entry.1 == tag || entry.1 == content with
    | [(key, t)] => if key == tag then (p.inner t).bareName?.map (·, none) else none
    | [(first, t), (second, u)] =>
      if first == tag && second == content then
        (p.inner t).bareName?.map (·, some (p.inner u))
      else if first == content && second == tag then do
        let later ← (p.inner t).putOff?
        return (← (p.inner u).bareName?, some later)
      else none
    | _ => none
  | .list [name, t] => ((p.inner name).identifier? names).map (·, some (p.inner t))
  | _ => none

/-- The value of an alternative whose content entry has nothing to hold. -/
def noContent? (value : α) (content : Option Part) : Option α :=
  match content.map Part.tree with
  | none | some .null => some value
  | _ => none

end Part

/-- Alternatives without content, each spelled by its name. -/
def Codec.named {α : Type} (all : List α) (spelling : α → String) : Codec α where
  encode a := .str (spelling a)
  decode p := p.bareName?.bind fun name => all.find? fun a => spelling a == name

end GuestSeat
