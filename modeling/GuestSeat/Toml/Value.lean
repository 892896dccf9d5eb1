import GuestSeat.Toml.Scalar

/-!
The values of TOML. Lists may spread over lines and end with a comma; a table in braces stands on one
line, and its keys may have several parts, which nest.
-/

namespace GuestSeat.Toml

open Text

def replaceEntry {α : Type} (name : String) (value : α) (entries : List (String × α)) :
    List (String × α) :=
  entries.map fun (key, old) => if key == name then (key, value) else (key, old)

/-- The entries with a value at a path of names. Each name but the last has to be new or that of a
table, the last has to be new. -/
def insertPath? (value : Tree) : List String → List (String × Tree) → Option (List (String × Tree))
  | [], _ => none
  | [name], entries =>
    match entries.lookup name with
    | none => some (entries ++ [(name, value)])
    | some _ => none
  | name :: path, entries =>
    match entries.lookup name with
    | none => (insertPath? value path []).map fun inner => entries ++ [(name, .record inner)]
    | some (.record inner) =>
      (insertPath? value path inner).map fun inner => replaceEntry name (.record inner) entries
    | some _ => none

/-- Values nested deeper than this are refused. -/
def nestingLimit : Nat := 127

mutual

/-- A value with at most `depth` levels of nesting. The first argument bounds the number of steps. -/
def valueWithin? : Nat → Nat → List Char → Option (Tree × List Char)
  | 0, _, _ => none
  | fuel + 1, depth, cs =>
    match cs with
    | '"' :: _ | '\'' :: _ => (string? cs).map fun (text, rest) => (.str (String.ofList text), rest)
    | '[' :: rest => if depth = 0 then none else items? fuel (depth - 1) [] rest
    | '\x7b' :: rest =>
      if depth = 0 then none
      else
        match skipBlanks rest with
        | '\x7d' :: rest => some (.record [], rest)
        | rest => entries? fuel (depth - 1) [] rest
    | _ => scalar? cs

/-- The items of a list up to its end, after those of `done`. -/
def items? : Nat → Nat → List Tree → List Char → Option (Tree × List Char)
  | 0, _, _, _ => none
  | fuel + 1, depth, done, cs =>
    match skipFiller false cs with
    | ']' :: rest => some (.list done, rest)
    | cs =>
      match valueWithin? fuel depth cs with
      | none => none
      | some (t, rest) =>
        match skipFiller false rest with
        | ',' :: rest => items? fuel depth (done ++ [t]) rest
        | ']' :: rest => some (.list (done ++ [t]), rest)
        | _ => none

/-- The entries of a table in braces up to its end, after those of `done`. -/
def entries? : Nat → Nat → List (String × Tree) → List Char → Option (Tree × List Char)
  | 0, _, _, _ => none
  | fuel + 1, depth, done, cs =>
    match key? cs with
    | some (path, '=' :: rest) =>
      match valueWithin? fuel depth (skipBlanks rest) with
      | none => none
      | some (t, rest) =>
        match insertPath? t path done with
        | none => none
        | some done =>
          match skipBlanks rest with
          | ',' :: rest => entries? fuel depth done rest
          | '\x7d' :: rest => some (.record done, rest)
          | _ => none
    | _ => none

end

/-- A value of any kind; each step takes a character. -/
def value? (cs : List Char) : Option (Tree × List Char) :=
  valueWithin? (2 * cs.length + 1) nestingLimit cs

end GuestSeat.Toml
