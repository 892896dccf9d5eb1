import GuestSeat.Text.Printing
import GuestSeat.Text.Radix

/-!
Text between double quotes as messages show it. Quotes, backslashes and characters that do not print by
themselves are escaped.
-/

namespace GuestSeat.Text

def quotedChar (c : Char) : List Char :=
  if c = '"' then ['\\', '"']
  else if c = '\\' then ['\\', '\\']
  else if c = '\t' then ['\\', 't']
  else if c = '\n' then ['\\', 'n']
  else if c = '\r' then ['\\', 'r']
  else if c = '\x00' then ['\\', '0']
  else if printsAlone c then [c]
  else ['\\', 'u', '\x7b'] ++ digits 16 c.toNat ++ ['\x7d']

def quoted (s : String) : String := String.ofList ('"' :: (s.toList.flatMap quotedChar ++ ['"']))

end GuestSeat.Text
