import GuestSeat.Document.Tree
import GuestSeat.Text.Radix

/-!
Document trees written as JSON text without blanks. Strings escape the quote, the backslash and control
characters and nothing else. How a binary64 value is spelled is left to the caller.
-/

namespace GuestSeat.Json

open Text

def escaped (c : Char) : List Char :=
  if c = '"' then ['\\', '"']
  else if c = '\\' then ['\\', '\\']
  else if c = '\n' then ['\\', 'n']
  else if c = '\r' then ['\\', 'r']
  else if c = '\t' then ['\\', 't']
  else if c.toNat < 0x20 then '\\' :: 'u' :: (hexPadded 4 c.toNat).toList
  else [c]

def quote (s : String) : List Char := '"' :: (s.toList.flatMap escaped ++ ['"'])

mutual

/-- The text of a tree. What cannot be read is written as `null`. -/
def write (spell : Float → List Char) : Tree → List Char
  | .null | .unreadable => ['n', 'u', 'l', 'l']
  | .bool true => ['t', 'r', 'u', 'e']
  | .bool false => ['f', 'a', 'l', 's', 'e']
  | .num (.whole n) => decimal n
  | .num (.real x) => spell x
  | .str s => quote s
  | .list items => '[' :: (writeItems spell items ++ [']'])
  | .record entries => '\x7b' :: (writeEntries spell entries ++ ['\x7d'])

def writeItems (spell : Float → List Char) : List Tree → List Char
  | [] => []
  | [t] => write spell t
  | t :: rest => write spell t ++ ',' :: writeItems spell rest

/-- The entries of a record with commas between them. -/
def writeEntries (spell : Float → List Char) : List (String × Tree) → List Char
  | [] => []
  | [(key, t)] => quote key ++ ':' :: write spell t
  | (key, t) :: rest => quote key ++ ':' :: (write spell t ++ ',' :: writeEntries spell rest)

end

/-- A record of plain values with one field a line, indented by two blanks. -/
def writeIndented (spell : Float → List Char) (entries : List (String × Tree)) : List String :=
  let line := fun (entry : String × Tree) =>
    [' ', ' '] ++ quote entry.1 ++ [':', ' '] ++ write spell entry.2
  let body :=
    match entries.reverse with
    | [] => []
    | last :: before => (before.reverse.map fun e => line e ++ [',']) ++ [line last]
  (['\x7b'] :: body ++ [['\x7d']]).map String.ofList

end GuestSeat.Json
