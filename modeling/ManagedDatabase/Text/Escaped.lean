/-
Texts as a log line shows them: in double quotes, with the quote, the backslash and everything
that does not show as itself written as an escape. An apostrophe is not escaped.
-/
import ManagedDatabase.Text.Unprintable

namespace ManagedDatabase.Text

/-- The escape of one character, or the character itself. -/
def escapeChar (c : Char) : List Char :=
  if c = '\x00' then ['\\', '0']
  else if c = '\t' then ['\\', 't']
  else if c = '\r' then ['\\', 'r']
  else if c = '\n' then ['\\', 'n']
  else if c = '\x22' then ['\\', '\x22']
  else if c = '\\' then ['\\', '\\']
  else if isUnprintable c then
    '\\' :: 'u' :: '\x7b' :: (Nat.toDigits 16 c.toNat ++ ['\x7d'])
  else [c]

/-- A text in double quotes with its escapes. -/
def escaped (s : String) : String :=
  String.ofList ('\x22' :: (s.toList.flatMap escapeChar ++ ['\x22']))

end ManagedDatabase.Text
