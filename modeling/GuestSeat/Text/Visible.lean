/-!
What a terminal shows of a text. Control characters show nothing, white space among them excepted, and an
escape begins a sequence of characters that are taken for a command. The positions inside such a
sequence are those of the usual state machine of a video terminal; a sequence that stops early leaves
its position behind for the next control character, while text that has begun to show goes on to show.
-/

namespace GuestSeat.Text

/-- A position among the characters that a terminal receives. -/
inductive Position
  /-- Text. -/
  | ground
  /-- After an escape. -/
  | escape
  /-- After the first characters of an escape sequence. -/
  | escapeTail
  /-- Inside a control sequence. -/
  | control
  /-- At the start of a device control string. -/
  | device
  /-- Among the parameters of a device control string. -/
  | deviceParameters
  /-- After the parameters of a device control string. -/
  | deviceTail
  /-- Inside a string that a terminator ends. -/
  | string
  /-- Inside a command to the operating system, which a bell ends. -/
  | command
deriving DecidableEq

/-- A control character that shows as white space. -/
def isLayout (c : Char) : Bool := c == '\t' || c == '\n' || c == '\x0c' || c == '\r'

def terminator : UInt8 := 0x9c

namespace Position

/-- Whether a character that arrives here is shown. -/
def shows (p : Position) (c : Char) : Bool :=
  match p with
  | ground => isLayout c || (0x20 ≤ c.toNat && c.toNat != 0x7f)
  | escape | escapeTail | control => isLayout c
  | _ => false

/-- The position after a character that arrives here and is not shown. Of a character beyond ASCII
every byte is looked at. -/
def after (p : Position) (c : Char) : Position :=
  let n := c.toNat
  if n = 0x18 ∨ n = 0x1a then ground
  else if n = 0x1b then escape
  else
    match p with
    | ground => ground
    | escape =>
      if 0x20 ≤ n ∧ n ≤ 0x2f then escapeTail
      else if c = 'P' then device
      else if c = '[' then control
      else if c = ']' then command
      else if c = 'X' ∨ c = '^' ∨ c = '_' then string
      else if 0x30 ≤ n ∧ n ≤ 0x7e then ground
      else escape
    | escapeTail => if 0x30 ≤ n ∧ n ≤ 0x7e then ground else escapeTail
    | control => if 0x40 ≤ n ∧ n ≤ 0x7e then ground else control
    | device =>
      if 0x20 ≤ n ∧ n ≤ 0x2f then deviceTail
      else if c = ':' then string
      else if 0x30 ≤ n ∧ n ≤ 0x3f then deviceParameters
      else if 0x40 ≤ n ∧ n ≤ 0x7e then string
      else device
    | deviceParameters =>
      if 0x20 ≤ n ∧ n ≤ 0x2f then deviceTail
      else if c = ':' ∨ (0x3c ≤ n ∧ n ≤ 0x7e) then string
      else deviceParameters
    | deviceTail => if 0x30 ≤ n ∧ n ≤ 0x7e then string else deviceTail
    | string => if (String.utf8EncodeChar c).contains terminator then ground else string
    | command => if n = 0x07 then ground else command

end Position

/-- The characters shown of those that arrive at a position. After one that was shown (`showing`) the
next is taken as text, and a character beyond ASCII ends any sequence. -/
def shown (showing : Bool) (p : Position) : List Char → List Char
  | [] => []
  | c :: rest =>
    if (if showing then .ground else p : Position).shows c then
      c :: shown true (if c.toNat < 0x80 then p else .ground) rest
    else shown false (p.after c) rest

def visible (s : String) : String := String.ofList (shown false .ground s.toList)

end GuestSeat.Text
