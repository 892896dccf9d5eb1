import GuestSeat.Text.Blank
import GuestSeat.Toml.Value

/-!
TOML documents: lines that open a table, open the next table of a list, or give a key of the open table
its value. A table is defined once: a header may name a table that other headers only implied, and keys
with dots may add to tables that such keys made, but neither reopens what the other defined.
-/

namespace GuestSeat.Toml

open Text

inductive Origin
  /-- By a header of its own. -/
  | declared
  /-- As part of the path of another header. -/
  | implied
  /-- As part of a key with dots. -/
  | dotted
deriving DecidableEq

inductive Node
  | value (t : Tree)
  | table (origin : Origin) (entries : List (String × Node))
  /-- The tables of a list; the last one is open. -/
  | tables (before : List (List (String × Node))) (last : List (String × Node))

abbrev Entries := List (String × Node)

/-- The entries after `write` changed the table at a path. Tables on the way that are missing come to be
as `origin`; keys with dots do not go through declared tables. -/
def atPath? (origin : Origin) (write : Origin → Entries → Option Entries) :
    List String → Origin → Entries → Option Entries
  | [], here, entries => write here entries
  | name :: path, _, entries =>
    match entries.lookup name with
    | none => (atPath? origin write path origin []).map fun inner =>
        entries ++ [(name, .table origin inner)]
    | some (.value _) => none
    | some (.table found inner) =>
      if origin = .dotted ∧ found = .declared then none
      else (atPath? origin write path found inner).map fun inner =>
        replaceEntry name (.table found inner) entries
    | some (.tables before last) =>
      (atPath? origin write path .declared last).map fun last =>
        replaceEntry name (.tables before last) entries

def declare? (name : String) (entries : Entries) : Option Entries :=
  match entries.lookup name with
  | none => some (entries ++ [(name, .table .declared [])])
  | some (.table .implied inner) => some (replaceEntry name (.table .declared inner) entries)
  | some _ => none

def extend? (name : String) (entries : Entries) : Option Entries :=
  match entries.lookup name with
  | none => some (entries ++ [(name, .tables [] [])])
  | some (.tables before last) =>
    some (replaceEntry name (.tables (before ++ [last]) []) entries)
  | some _ => none

def define? (name : String) (t : Tree) (entries : Entries) : Option Entries :=
  match entries.lookup name with
  | none => some (entries ++ [(name, .value t)])
  | some _ => none

/-- The tables of a document read so far, and the path of the open one. -/
structure State where
  root : Entries := []
  openPath : List String := []

/-- The state after a header, where `open?` opens the table of its last name. -/
def State.header? (s : State) (open? : String → Entries → Option Entries) (path : List String) :
    Option State :=
  path.getLast?.bind fun name =>
    (atPath? .implied (fun _ => open? name) path.dropLast .declared s.root).map fun root =>
      { root, openPath := path }

/-- The state after a key of the open table got its value. -/
def State.assign? (s : State) (path : List String) (t : Tree) : Option State :=
  let write := fun (name : String) (here : Origin) (entries : Entries) =>
    if (here == .dotted) == path.dropLast.isEmpty then none else define? name t entries
  path.getLast?.bind fun name =>
    (atPath? .implied (fun _ => atPath? .dotted (write name) path.dropLast .declared)
      s.openPath .declared s.root).map fun root => { s with root }

/-- The state after a line that is not blank, and what follows it. -/
def State.line? (s : State) : List Char → Option (State × List Char)
  | '[' :: '[' :: rest => do
    let (path, rest) ← key? rest
    match rest with
    | ']' :: ']' :: rest => return (← s.header? extend? path, ← restOfLine? rest)
    | _ => none
  | '[' :: rest => do
    let (path, rest) ← key? rest
    match rest with
    | ']' :: rest => return (← s.header? declare? path, ← restOfLine? rest)
    | _ => none
  | cs => do
    let (path, rest) ← key? cs
    match rest with
    | '=' :: rest =>
      let (t, rest) ← value? (skipBlanks rest)
      return (← s.assign? path t, ← restOfLine? rest)
    | _ => none

/-- The state after a text. The first argument bounds the number of lines. -/
def State.lines? : Nat → State → List Char → Option State
  | 0, _, _ => none
  | fuel + 1, s, cs =>
    match skipFiller false cs with
    | [] => some s
    | cs =>
      match s.line? cs with
      | none => none
      | some (s, rest) => State.lines? fuel s rest

mutual

def Node.tree : Node → Tree
  | .value t => t
  | .table _ entries => .record (entryTrees entries)
  | .tables before last => .list (tableTrees before ++ [.record (entryTrees last)])

def entryTrees : List (String × Node) → List (String × Tree)
  | [] => []
  | (name, node) :: rest => (name, node.tree) :: entryTrees rest

def tableTrees : List (List (String × Node)) → List Tree
  | [] => []
  | entries :: rest => .record (entryTrees entries) :: tableTrees rest

end

/-- Without the mark of the byte order that a text may begin with. -/
def skipMark : List Char → List Char
  | '\ufeff' :: rest => rest
  | cs => cs

def read? (text : String) : Option Tree :=
  let cs := skipMark text.toList
  (State.lines? (cs.length + 1) {} cs).map fun s => .record (entryTrees s.root)

end GuestSeat.Toml
