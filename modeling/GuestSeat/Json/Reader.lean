import GuestSeat.Json.Token

/-!
JSON text read into a document tree. The reader keeps the containers that are still open on a stack and
takes one token at a time, so it needs no bound on the text. Text with half a surrogate pair, a record
with such a name, a number out of range and a container nested deeper than `depthLimit` have their
place in the tree, but cannot be read.
-/

namespace GuestSeat.Json

/-- A container whose next part is being read; what it already holds is in reverse order. -/
inductive Frame
  | list (done : List Tree)
  | record (done : List (Option String × Tree)) (name : Option String)

/-- What may come next, with the containers around it, innermost first. -/
inductive State
  /-- A value. -/
  | value (stack : List Frame)
  /-- The first item of a list, or its end. -/
  | firstItem (stack : List Frame)
  /-- A comma or the end of a list. -/
  | afterItem (done : List Tree) (stack : List Frame)
  /-- The first field name of a record, or its end. -/
  | firstKey (stack : List Frame)
  /-- A field name. -/
  | key (done : List (Option String × Tree)) (stack : List Frame)
  /-- The colon after a field name. -/
  | colon (done : List (Option String × Tree)) (name : Option String) (stack : List Frame)
  /-- A comma or the end of a record. -/
  | afterEntry (done : List (Option String × Tree)) (stack : List Frame)
  /-- Nothing: the document is complete. -/
  | complete (tree : Tree)

/-- The deepest nesting of containers that is read. -/
def depthLimit : Nat := 127

/-- The state after a whole value inside the containers of `stack`. -/
def State.close (t : Tree) : List Frame → State
  | [] => .complete t
  | .list done :: stack => .afterItem (t :: done) stack
  | .record done name :: stack => .afterEntry ((name, t) :: done) stack

/-- The state after a whole list inside the containers of `stack`. -/
def State.closeList (items : List Tree) (stack : List Frame) : State :=
  State.close (if stack.length < depthLimit then .list items else .unreadable) stack

/-- The record of some entries, unless one of them has no name. -/
def recordOf (entries : List (Option String × Tree)) : Tree :=
  match entries.mapM fun (name, t) => name.map (·, t) with
  | some entries => .record entries
  | none => .unreadable

/-- The state after a whole record inside the containers of `stack`. -/
def State.closeRecord (entries : List (Option String × Tree)) (stack : List Frame) : State :=
  State.close (if stack.length < depthLimit then recordOf entries else .unreadable) stack

def State.open? (stack : List Frame) : Token → Option State
  | .openList => some (.firstItem stack)
  | .openRecord => some (.firstKey stack)
  | .null => some (State.close .null stack)
  | .bool b => some (State.close (.bool b) stack)
  | .num n => some (State.close (n.elim .unreadable .num) stack)
  | .str s => some (State.close (s.elim .unreadable .str) stack)
  | _ => none

def State.step? : State → Token → Option State
  | .value stack, t => State.open? stack t
  | .firstItem stack, .closeList => some (State.closeList [] stack)
  | .firstItem stack, t => State.open? (.list [] :: stack) t
  | .afterItem done stack, .comma => some (.value (.list done :: stack))
  | .afterItem done stack, .closeList => some (State.closeList done.reverse stack)
  | .firstKey stack, .closeRecord => some (State.closeRecord [] stack)
  | .firstKey stack, .str name => some (.colon [] name stack)
  | .key done stack, .str name => some (.colon done name stack)
  | .colon done name stack, .colon => some (.value (.record done name :: stack))
  | .afterEntry done stack, .comma => some (.key done stack)
  | .afterEntry done stack, .closeRecord => some (State.closeRecord done.reverse stack)
  | _, _ => none

def State.run? (state : State) (cs : List Char) : Option State :=
  match _h : cs.dropWhile isSpace with
  | [] => some state
  | c :: rest =>
    match _ht : token? (c :: rest) with
    | none => none
    | some (t, after) =>
      match state.step? t with
      | none => none
      | some next => next.run? after
termination_by cs.length
decreasing_by
  have := token_shortens ‹token? (c :: rest) = _›
  have := length_dropWhile_le (p := isSpace) cs
  simp_all only [List.length_cons]
  omega

/-- The document that a text holds, if it is one document and nothing else. -/
def read? (text : String) : Option Tree :=
  match State.run? (.value []) text.toList with
  | some (.complete t) => some t
  | _ => none

end GuestSeat.Json
