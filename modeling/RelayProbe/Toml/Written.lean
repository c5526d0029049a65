set_option autoImplicit false

/-! # Strings as they are written

The written forms of a text between quotation marks, on one line. A character that may stand there
as it is can also be escaped; quotation marks, backslashes and control characters have to be. An
escape is a letter behind a backslash, or `\u` and the code in four hexadecimal digits.
-/

namespace RelayProbe

namespace Toml

/-- The characters that cannot stand between quotation marks as they are. -/
def NeedsEscape (c : Char) : Prop := c = '"' ∨ c = '\\' ∨ c < ' ' ∨ c = '\x7f'

instance (c : Char) : Decidable (NeedsEscape c) :=
  inferInstanceAs (Decidable (c = '"' ∨ c = '\\' ∨ c < ' ' ∨ c = '\x7f'))

/-- A hexadecimal digit, in upper or lower case. -/
def hexDigit (upper : Bool) (n : Nat) : Char :=
  if upper then n.digitChar.toUpper else n.digitChar

/-- A number below `0x10000` in four hexadecimal digits. -/
def fourDigits (upper : Bool) (n : Nat) : List Char :=
  [n / 4096 % 16, n / 256 % 16, n / 16 % 16, n % 16].map (hexDigit upper)

/-- The escapes of a character. -/
inductive Escape : Char → List Char → Prop
  | backspace : Escape '\x08' ['\\', 'b']
  | tab : Escape '\t' ['\\', 't']
  | newline : Escape '\n' ['\\', 'n']
  | formFeed : Escape '\x0c' ['\\', 'f']
  | carriageReturn : Escape '\r' ['\\', 'r']
  | quotationMark : Escape '"' ['\\', '"']
  | backslash : Escape '\\' ['\\', '\\']
  | code {c : Char} (upper : Bool) (small : c.toNat < 0x10000) :
      Escape c ('\\' :: 'u' :: fourDigits upper c.toNat)

/-- The written forms of a text, without the quotation marks around them. -/
inductive Written : List Char → List Char → Prop
  | nil : Written [] []
  | plain {c : Char} {cs ws : List Char} (asIs : ¬ NeedsEscape c) (rest : Written cs ws) :
      Written (c :: cs) (c :: ws)
  | escaped {c : Char} {cs es ws : List Char} (escape : Escape c es) (rest : Written cs ws) :
      Written (c :: cs) (es ++ ws)

/-- A written form in which every character that needs it is escaped by its code. -/
def write (cs : List Char) : List Char :=
  cs.flatMap fun c => if NeedsEscape c then '\\' :: 'u' :: fourDigits true c.toNat else [c]

/-- What has to be escaped has a code of four digits. -/
theorem toNat_lt_of_needsEscape {c : Char} (h : NeedsEscape c) : c.toNat < 0x10000 := by
  rcases h with rfl | rfl | h | rfl
  · decide
  · decide
  · have : c.toNat < 32 := h
    omega
  · decide

/-- Every text has a written form. -/
theorem written_write (cs : List Char) : Written cs (write cs) := by
  induction cs with
  | nil => exact .nil
  | cons c cs ih =>
      rw [write, List.flatMap_cons]
      split
      · next h => exact .escaped (.code true (toNat_lt_of_needsEscape h)) ih
      · next h => exact .plain h ih

end Toml

end RelayProbe
