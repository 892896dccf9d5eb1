/-!
White space and the cutting of text. Blanks are the twenty-five code points of the Unicode property
White_Space; trimming removes them at both ends, and a text is cut into fields at every separator.
-/

namespace GuestSeat.Text

def isBlank (c : Char) : Bool :=
  let n := c.toNat
  (9 ≤ n && n ≤ 13) || n == 0x20 || n == 0x85 || n == 0xa0 || n == 0x1680 ||
    (0x2000 ≤ n && n ≤ 0x200a) || n == 0x2028 || n == 0x2029 || n == 0x202f || n == 0x205f ||
    n == 0x3000

def trim (cs : List Char) : List Char :=
  ((cs.dropWhile isBlank).reverse.dropWhile isBlank).reverse

/-- The fields between separators; a text without one is a single field. -/
def fields (separator : Char) : List Char → List (List Char)
  | [] => [[]]
  | c :: rest =>
    if c = separator then [] :: fields separator rest
    else
      match fields separator rest with
      | [] => [[c]]
      | field :: others => (c :: field) :: others

/-- The texts before and after the first separator, if there is one. -/
def cut? (separator : Char) : List Char → Option (List Char × List Char)
  | [] => none
  | c :: rest =>
    if c = separator then some ([], rest)
    else (cut? separator rest).map fun (before, after) => (c :: before, after)

/-- The lines of a text: each ends at a line feed, a carriage return before it belongs to the line
end, and nothing follows a final line feed. -/
def lines (text : String) : List String :=
  let cut := fields '\n' text.toList
  let cut := if cut.getLast? = some [] then cut.dropLast else cut
  cut.map fun line =>
    String.ofList (if line.getLast? = some '\r' then line.dropLast else line)

end GuestSeat.Text
