import GuestSeat.Text.Radix

/-!
The character level of TOML: blanks, comments and line ends, the four kinds of string, and keys. Each
reader takes the text that is left and hands on what it did not use.
-/

namespace GuestSeat.Toml

open Text

def isBlank (c : Char) : Bool := c == ' ' || c == '\t'

/-- A character that may stand in comments and strings: no control character but the tabulator. -/
def isPlain (c : Char) : Bool := c == '\t' || (0x20 ≤ c.toNat && c.toNat != 0x7f)

def skipBlanks (cs : List Char) : List Char := cs.dropWhile isBlank

def lineEnd? : List Char → Option (List Char)
  | '\n' :: rest => some rest
  | '\r' :: '\n' :: rest => some rest
  | _ => none

/-- Without the comment that the text may begin with. -/
def skipComment : List Char → List Char
  | '#' :: rest => rest.dropWhile isPlain
  | cs => cs

/-- What follows the rest of a line on which nothing more stands than blanks and a comment. -/
def restOfLine? (cs : List Char) : Option (List Char) :=
  match skipComment (skipBlanks cs) with
  | [] => some []
  | rest => lineEnd? rest

/-- Without the blanks, line ends and comments at the start; `inComment` says that the text starts inside
a comment. -/
def skipFiller : Bool → List Char → List Char
  | _, [] => []
  | _, '\n' :: rest => skipFiller false rest
  | _, '\r' :: '\n' :: rest => skipFiller false rest
  | true, c :: rest => if isPlain c then skipFiller true rest else c :: rest
  | false, c :: rest =>
    if isBlank c then skipFiller false rest
    else if c == '#' then skipFiller true rest
    else c :: rest

/-- The character with a code point written in hexadecimal digits; surrogates have none. -/
def codePoint? (ds : List Char) : Option Char :=
  (ofDigits? 16 ds).bind fun n => if h : n.isValidChar then some (Char.ofNatAux n h) else none

/-- The character of an escape whose letter is given. -/
def escaped? : Char → Option Char
  | 'b' => some '\x08'
  | 't' => some '\t'
  | 'n' => some '\n'
  | 'f' => some '\x0c'
  | 'r' => some '\r'
  | '"' => some '"'
  | '\\' => some '\\'
  | _ => none

def prepend (c : Char) : Option (List Char × List Char) → Option (List Char × List Char) :=
  Option.map fun (text, rest) => (c :: text, rest)

/-- The text of a string up to its closing double quote. -/
def basic? : List Char → Option (List Char × List Char)
  | [] => none
  | '"' :: rest => some ([], rest)
  | '\\' :: 'u' :: a :: b :: c :: d :: rest =>
    (codePoint? [a, b, c, d]).bind fun x => prepend x (basic? rest)
  | '\\' :: 'U' :: a :: b :: c :: d :: e :: f :: g :: h :: rest =>
    (codePoint? [a, b, c, d, e, f, g, h]).bind fun x => prepend x (basic? rest)
  | '\\' :: c :: rest => (escaped? c).bind fun x => prepend x (basic? rest)
  | c :: rest => if isPlain c then prepend c (basic? rest) else none

/-- The text of a string up to its closing apostrophe. -/
def literal? : List Char → Option (List Char × List Char)
  | [] => none
  | '\'' :: rest => some ([], rest)
  | c :: rest => if isPlain c then prepend c (literal? rest) else none

/-- The text of a string of several lines up to the run of quotes that closes it. A run of four or five
quotes stands for one or two of them and the closing three. After a backslash at the end of a line,
`folding`, blanks and line ends are dropped up to the next character. -/
def basicLines? : Bool → List Char → Option (List Char × List Char)
  | _, [] => none
  | _, '"' :: '"' :: '"' :: '"' :: '"' :: rest => some (['"', '"'], rest)
  | _, '"' :: '"' :: '"' :: '"' :: rest => some (['"'], rest)
  | _, '"' :: '"' :: '"' :: rest => some ([], rest)
  | folding, '\r' :: '\n' :: rest =>
    if folding then basicLines? true rest else prepend '\n' (basicLines? false rest)
  | folding, '\n' :: rest =>
    if folding then basicLines? true rest else prepend '\n' (basicLines? false rest)
  | _, '\\' :: 'u' :: a :: b :: c :: d :: rest =>
    (codePoint? [a, b, c, d]).bind fun x => prepend x (basicLines? false rest)
  | _, '\\' :: 'U' :: a :: b :: c :: d :: e :: f :: g :: h :: rest =>
    (codePoint? [a, b, c, d, e, f, g, h]).bind fun x => prepend x (basicLines? false rest)
  | _, '\\' :: c :: rest =>
    if (lineEnd? (skipBlanks (c :: rest))).isSome then basicLines? true (c :: rest)
    else (escaped? c).bind fun x => prepend x (basicLines? false rest)
  | folding, c :: rest =>
    if folding && isBlank c then basicLines? true rest
    else if isPlain c then prepend c (basicLines? false rest)
    else none

/-- The text of a string of several lines without escapes, up to the run of apostrophes that closes
it. -/
def literalLines? : List Char → Option (List Char × List Char)
  | [] => none
  | '\'' :: '\'' :: '\'' :: '\'' :: '\'' :: rest => some (['\'', '\''], rest)
  | '\'' :: '\'' :: '\'' :: '\'' :: rest => some (['\''], rest)
  | '\'' :: '\'' :: '\'' :: rest => some ([], rest)
  | '\r' :: '\n' :: rest => prepend '\n' (literalLines? rest)
  | c :: rest => if isPlain c || c == '\n' then prepend c (literalLines? rest) else none

def skipLineEnd (cs : List Char) : List Char := (lineEnd? cs).getD cs

def string? : List Char → Option (List Char × List Char)
  | '"' :: '"' :: '"' :: rest => basicLines? false (skipLineEnd rest)
  | '"' :: rest => basic? rest
  | '\'' :: '\'' :: '\'' :: rest => literalLines? (skipLineEnd rest)
  | '\'' :: rest => literal? rest
  | _ => none

def isBare (c : Char) : Bool := c.isAlphanum || c == '_' || c == '-'

def simpleKey? : List Char → Option (String × List Char)
  | '"' :: rest => (basic? rest).map fun (text, rest) => (String.ofList text, rest)
  | '\'' :: rest => (literal? rest).map fun (text, rest) => (String.ofList text, rest)
  | cs =>
    let bare := cs.takeWhile isBare
    if bare = [] then none else some (String.ofList bare, cs.dropWhile isBare)

def keyLimit : Nat := 127

/-- The parts of a key with dots between them, at most `limit`, blanks allowed around each. -/
def keyParts? : Nat → List Char → Option (List String × List Char)
  | 0, _ => none
  | limit + 1, cs => do
    let (part, rest) ← simpleKey? (skipBlanks cs)
    match skipBlanks rest with
    | '.' :: rest =>
      let (parts, rest) ← keyParts? limit rest
      return (part :: parts, rest)
    | rest => return ([part], rest)

def key? (cs : List Char) : Option (List String × List Char) := keyParts? keyLimit cs

end GuestSeat.Toml
