set_option autoImplicit false

/-! # Numbers in texts

A digit is one of ASCII; the digits above nine are letters in either case.
-/

namespace RelayProbe

namespace Digits

/-- The value of a digit, up to the hexadecimal ones. -/
def value? (c : Char) : Option Nat :=
  if c.isDigit then some (c.toNat - 48)
  else if 'a' ≤ c ∧ c ≤ 'f' then some (c.toNat - 87)
  else if 'A' ≤ c ∧ c ≤ 'F' then some (c.toNat - 55)
  else none

/-- Whether a character is a digit of the given base, at most sixteen. -/
def isDigitOf (base : Nat) (c : Char) : Bool :=
  match value? c with
  | some d => d < base
  | none => false

/-- The number that digits stand for; a character that is none counts as zero. -/
def toNat (base : Nat) (cs : List Char) : Nat :=
  cs.foldl (fun n c => base * n + (value? c).getD 0) 0

/-- The number that a text stands for; `none` when it is empty or not made of digits of that
base. -/
def number? (base : Nat) (cs : List Char) : Option Nat :=
  if cs ≠ [] ∧ cs.all (isDigitOf base) then some (toNat base cs) else none

end Digits

end RelayProbe
