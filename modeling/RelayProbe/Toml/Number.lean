import RelayProbe.Decimal.Shortest
import RelayProbe.Toml.Form

set_option autoImplicit false

/-! # Numbers

Whole numbers have 64 bits. They are decimal, without a zero in front of other digits, or
hexadecimal, octal or binary and then without a sign. A number with a fraction or an exponent is
the nearest one of 64 bits; it may fall below the lowest one, to minus infinity, but not rise above
the highest one. Infinity and the value that is no number have names.

A number ends where the next character does not belong to it: behind a zero in front no digit does.
A point or an exponent that has begun belongs to it, and has to be followed by digits.
-/

namespace RelayProbe

namespace Toml

namespace Form

/-- A sign, if there is one; `true` for minus. -/
def sign : Form Bool := do
  return (← optional (char fun c => c = '+' || c = '-')) = some '-'

/-- The digits of a decimal number in front of its point. -/
def wholeDigits : Form (List Char) :=
  (fun _ => ['0']) <$> text "0" <|> digits 10

/-- A number that has to have 64 bits with its sign. -/
def int64 (n : Int) : Form Int :=
  if -0x8000000000000000 ≤ n ∧ n < 0x8000000000000000 then nothing n else wrong

/-- A whole decimal number. -/
def decimal : Form Int := do
  let negative ← sign
  let n : Int := Digits.toNat 10 (← wholeDigits)
  int64 (if negative then -n else n)

/-- What stands in front of the digits of another base, and that base. -/
def base : Form Nat :=
  (fun _ => 16) <$> text "0x" <|> (fun _ => 8) <$> text "0o" <|> (fun _ => 2) <$> text "0b"

/-- A whole number to another base. -/
def based : Form Int := do
  let b ← base
  let ds ← required (digits b)
  int64 (Digits.toNat b ds)

/-- A point and the digits behind it. -/
def fraction : Form (List Char) := do
  text "."
  required (digits 10)

/-- A power of ten. -/
def exponent : Form Int := do
  let _ ← char fun c => c = 'e' || c = 'E'
  let negative ← sign
  let n : Int := Digits.toNat 10 (← required (digits 10))
  return if negative then -n else n

/-- A number with a fraction, an exponent, or both. -/
def fractional : Form Float := do
  let negative ← sign
  let whole ← wholeDigits
  let places ← optional fraction
  let e ← optional exponent
  if places = none ∧ e = none then never
  else
    let behind := places.getD []
    let x := Decimal.nearest (Digits.toNat 10 (whole ++ behind)) (e.getD 0 - behind.length)
    if x == Decimal.infinity ∧ !negative then wrong
    else return if negative then -x else x

/-- Infinity, or the value that is no number, by name. -/
def named : Form Float := do
  let negative ← sign
  let x ← (fun _ => Decimal.infinity) <$> text "inf" <|> (fun _ => 0.0 / 0.0) <$> text "nan"
  return if negative then -x else x

theorem shortens_wholeDigits : wholeDigits.Shortens :=
  shortens_or (shortens_bind_left (shortens_text (by decide))) (shortens_bind_left shortens_char)

theorem shortens_decimal : decimal.Shortens :=
  shortens_bind_right fun _ => shortens_bind_left shortens_wholeDigits

theorem shortens_based : based.Shortens :=
  shortens_bind_left
    (shortens_or (shortens_bind_left (shortens_text (by decide)))
      (shortens_or (shortens_bind_left (shortens_text (by decide)))
        (shortens_bind_left (shortens_text (by decide)))))

theorem shortens_fractional : fractional.Shortens :=
  shortens_bind_right fun _ => shortens_bind_left shortens_wholeDigits

theorem shortens_named : named.Shortens :=
  shortens_bind_right fun _ =>
    shortens_bind_left
      (shortens_or (shortens_bind_left (shortens_text (by decide)))
        (shortens_bind_left (shortens_text (by decide))))

end Form

end Toml

end RelayProbe
