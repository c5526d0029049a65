import RelayProbe.Toml.Number

set_option autoImplicit false

/-! # Values without marks

Booleans, numbers, dates and times are written bare. Such a value ends where its form does, and
not where the next blank or comma stands: `truex` is `true` with an `x` behind it, and it is for
what surrounds the value to find the `x` out of place.

The forms are tried from the one that takes most: a date before a number with a point, that before
a whole number. A date takes a time behind it in, after a `T` or a blank; if what stands there is
no time, the value is the date alone.
-/

namespace RelayProbe

namespace Toml

/-- How many days a month has. -/
def daysOfMonth (year month : Nat) : Nat :=
  if month = 2 then
    if year % 4 = 0 ∧ (year % 100 ≠ 0 ∨ year % 400 = 0) then 29 else 28
  else if month = 4 ∨ month = 6 ∨ month = 9 ∨ month = 11 then 30
  else 31

namespace Form

/-- A date: year, month and day. The dash behind the year settles that it is one. -/
def date : Form Unit := do
  let year ← field 4 0 9999
  text "-"
  required do
    let month ← field 2 1 12
    text "-"
    discard (field 2 1 (daysOfMonth year month))

/-- Hours and minutes. The colon between them settles that they are meant. -/
def clock : Form Unit := do
  discard (field 2 0 23)
  text ":"
  required (discard (field 2 0 59))

/-- A time of day: hour, minute and second, which may have a fraction. -/
def time : Form Unit := do
  clock
  required do
    text ":"
    discard (field 2 0 60)
  discard <| optional do
    text "."
    discard (char Char.isDigit)
    chars Char.isDigit

/-- The distance of a time of day from universal time. -/
def offset : Form Unit :=
  discard (char fun c => c = 'Z' || c = 'z') <|> do
    discard (char fun c => c = '+' || c = '-')
    required clock

/-- A date, a time of day, or both, and then perhaps the distance from universal time. -/
def dateTime : Form Unit :=
  (do
    date
    discard <| optional do
      discard (char fun c => c = 'T' || c = 't' || c = ' ')
      time
      optional offset) <|> time

/-- Any bare value. -/
def bare : Form Scalar :=
  (fun _ => .boolean true) <$> text "true" <|>
  (fun _ => .boolean false) <$> text "false" <|>
  (fun _ => .dateTime) <$> dateTime <|>
  .float <$> fractional <|>
  .float <$> named <|>
  .integer <$> based <|>
  .integer <$> decimal

theorem shortens_date : date.Shortens := shortens_bind_left (shortens_field (by decide))

theorem shortens_time : time.Shortens :=
  shortens_bind_left (shortens_bind_left (shortens_bind_left (shortens_field (by decide))))

theorem shortens_dateTime : dateTime.Shortens :=
  shortens_or (shortens_bind_left shortens_date) shortens_time

theorem shortens_bare : bare.Shortens := by
  refine shortens_or (shortens_bind_left (shortens_text (by decide))) ?_
  refine shortens_or (shortens_bind_left (shortens_text (by decide))) ?_
  refine shortens_or (shortens_bind_left shortens_dateTime) ?_
  refine shortens_or (shortens_bind_left shortens_fractional) ?_
  refine shortens_or (shortens_bind_left shortens_named) ?_
  exact shortens_or (shortens_bind_left shortens_based) (shortens_bind_left shortens_decimal)

end Form

/-- Read a bare value. -/
def readBare (s : Place) : Except Place (Scalar × Place) :=
  match Form.bare.run s with
  | .read v r => .ok (v, r)
  | _ => .error s

theorem length_readBare {s r : Place} {v : Scalar} (h : readBare s = .ok (v, r)) :
    r.length < s.length := by
  unfold readBare at h
  split at h
  · next hr => cases h; exact Form.shortens_bare hr
  · cases h

end Toml

end RelayProbe
