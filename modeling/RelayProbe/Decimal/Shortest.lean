set_option autoImplicit false

/-! # Decimal text of binary floating-point numbers

A floating-point number of 64 bits is a sign, and a mantissa times a power of two, or else an
infinity or no number. In decimal it is written with the fewest digits that no other number is
nearer to: among the decimals of so many digits that lie in the interval which is read back as the
number, the nearest one, the larger of two that are equally near. The digits are found in exact
arithmetic. They are laid out without an exponent, and always with a point.

Reading goes the other way: to the number nearest to a decimal.
-/

namespace RelayProbe

namespace Decimal

/-! ## Reading -/

/-- The infinity above all numbers. -/
def infinity : Float := Float.ofBits 0x7ff0000000000000

/-- The floating-point number nearest to `m · 10 ^ e`. Beyond 400 digits on either side of the
point it is infinite or zero whatever the digits are. -/
def nearest (m : Nat) (e : Int) : Float :=
  if m = 0 then 0
  else
    let top : Int := (Nat.toDigits 10 m).length + e
    if 400 < top then infinity
    else if top < -400 then 0
    else Float.ofScientific m (e < 0) e.natAbs

/-! ## Writing -/

/-- The power of a base, for an exponent that is not negative, else one. So a number `m · b ^ e` is
the fraction `m * power b e / power b (-e)`. -/
def power (b : Nat) (e : Int) : Nat := Nat.pow b e.toNat

/-- The least mantissa of a number with an exponent of its own. -/
def leastMantissa : Nat := Nat.pow 2 52

/-- The interval of numbers that are read back as `m · 2 ^ q`, in quarters of `2 ^ q`: its two ends
on both sides of `4 · m`. Below a power of two the neighbour is nearer by half. -/
def lowerEnd (m : Nat) (q : Int) : Nat := if m = leastMantissa ∧ q > -1074 then 4 * m - 1 else 4 * m - 2

def upperEnd (m : Nat) : Nat := 4 * m + 2

/-- Whether `c · 10 ^ g` is read back as `m · 2 ^ q`. The ends of the interval are so when `m` is
even. -/
def readsBack (m : Nat) (q : Int) (c : Nat) (g : Int) : Bool :=
  let unit := power 2 q * power 10 (-g)
  let x := 4 * c * power 10 g * power 2 (-q)
  let low := lowerEnd m q * unit
  let high := upperEnd m * unit
  if m % 2 = 0 then low ≤ x && x ≤ high else low < x && x < high

/-- The position of the leading decimal digit of `num / den`: the greatest `k` for which `10 ^ k` is
not above it. -/
def leading (num den : Nat) : Int :=
  if den ≤ num then ((Nat.toDigits 10 (num / den)).length : Int) - 1
  else
    let inverse := (den + num - 1) / num
    if inverse ≤ 1 then 0 else -((Nat.toDigits 10 (inverse - 1)).length : Int)

/-- The decimal on the grid of `10 ^ g` that is read back as `m · 2 ^ q` and nearest to it, if there
is one. -/
def onGrid (m : Nat) (q : Int) (g : Int) : Option Nat :=
  let num := m * power 2 q * power 10 (-g)
  let den := power 2 (-q) * power 10 g
  let below := num / den
  match readsBack m q below g, readsBack m q (below + 1) g with
  | true, true => some (if 2 * (num % den) < den then below else below + 1)
  | true, false => some below
  | false, true => some (below + 1)
  | false, false => none

/-- The shortest decimal `c · 10 ^ g` for `m · 2 ^ q`. The search starts one place above the leading
digit, since the next power of ten may be read back as the number. Seventeen digits always
suffice. -/
def shortest (m : Nat) (q : Int) : Nat × Int :=
  let top := leading (m * power 2 q) (power 2 (-q)) + 1
  let hit := (List.range 18).findSome? fun (n : Nat) =>
    (onGrid m q (top - n)).map (·, top - n)
  hit.getD (m * power 2 q, 0)

/-- The digits `ds`, of which the last stands at the place of `10 ^ g`, written with a point. -/
def positional (ds : List Char) (g : Int) : List Char :=
  if 0 ≤ g then ds ++ List.replicate g.toNat '0' ++ ['.', '0']
  else
    let places := (-g).toNat
    if places < ds.length then
      ds.take (ds.length - places) ++ '.' :: ds.drop (ds.length - places)
    else '0' :: '.' :: (List.replicate (places - ds.length) '0' ++ ds)

/-- The text of a number that is neither infinite nor zero, without its sign. -/
def magnitude (m : Nat) (q : Int) : List Char :=
  let (c, g) := shortest m q
  positional (Nat.toDigits 10 c) g

/-- The decimal text of a floating-point number. -/
def text (x : Float) : String :=
  let bits := x.toBits.toNat
  let exponent : Nat := bits / leastMantissa % 2048
  let fraction := bits % leastMantissa
  let sign := if bits / leastMantissa / 2048 = 1 then ['-'] else []
  if exponent = 2047 then
    if fraction = 0 then String.ofList (sign ++ "inf".toList) else "NaN"
  else if exponent = 0 ∧ fraction = 0 then String.ofList (sign ++ "0.0".toList)
  else if exponent = 0 then String.ofList (sign ++ magnitude fraction (-1074))
  else String.ofList (sign ++ magnitude (leastMantissa + fraction) ((exponent : Int) - 1075))

end Decimal

end RelayProbe
