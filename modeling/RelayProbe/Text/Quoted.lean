import RelayProbe.Text.Printable

set_option autoImplicit false

/-! # Quoted texts

A text that is quoted in a message stands between quotation marks. Within it the marks, the
backslash, the usual control characters and NUL are written by a letter behind a backslash, and
every other character that does not print on its own by its code, so that the message shows what
the text holds.
-/

namespace RelayProbe

namespace Text

/-- The number in hexadecimal, with lower-case digits. -/
def hexadecimal (n : Nat) : List Char := Nat.toDigits 16 n

/-- How a character stands in a quoted text. -/
def quotedChar (c : Char) : List Char :=
  if c = '\x00' then ['\\', '0']
  else if c = '\t' then ['\\', 't']
  else if c = '\r' then ['\\', 'r']
  else if c = '\n' then ['\\', 'n']
  else if c = '"' ∨ c = '\\' then ['\\', c]
  else if isPrintable c then [c]
  else "\\u\x7b".toList ++ hexadecimal c.toNat ++ ['\x7d']

/-- A text between quotation marks. -/
def quoted (s : String) : String :=
  String.ofList ('"' :: (s.toList.flatMap quotedChar ++ ['"']))

end Text

end RelayProbe
