set_option autoImplicit false

/-! # How alike two words are

Jaro's measure goes from zero to one. Two characters match when they are equal and stand at most
half the length of the longer word, less one, apart; every character is matched at most once, with
the first partner that is free. The measure is the mean of three shares: that of the matched
characters in either word, and that of the matched characters which are in the same order in both.
-/

namespace RelayProbe

namespace Similarity

/-- How far apart matching characters may stand in words of the given lengths. -/
def reach (m n : Nat) : Nat := max m n / 2 - 1

/-- The first position in `free` from which on `c` may be matched, given the position `i` of `c`;
`free` holds the characters of the other word with their positions, without the matched ones. -/
def partner? (range i : Nat) (c : Char) (free : List (Nat × Char)) : Option Nat :=
  (free.find? fun p => i ≤ p.1 + range && p.1 ≤ i + range && p.2 = c).map (·.1)

/-- Match the characters of a word, in order, with those that are free: the matched characters, and
the positions of their partners. -/
def matched (range : Nat) : List (Nat × Char) → List (Nat × Char) → List Char × List Nat
  | [], _ => ([], [])
  | (i, c) :: cs, free =>
      match partner? range i c free with
      | none => matched range cs free
      | some j =>
          let rest := matched range cs (free.filter (·.1 ≠ j))
          (c :: rest.1, j :: rest.2)

/-- The characters of a word with their positions. -/
def positions (cs : List Char) : List (Nat × Char) := cs.zipIdx.map fun p => (p.2, p.1)

/-- Jaro's measure of two words. -/
def jaro (a b : List Char) : Float :=
  if a = [] ∧ b = [] then 1
  else
    let (left, partners) := matched (reach a.length b.length) (positions a) (positions b)
    let right := ((positions b).filter (partners.contains ·.1)).map (·.2)
    let moved := ((left.zip right).countP fun p => p.1 ≠ p.2) / 2
    let m := left.length
    if m = 0 then 0
    else
      (m.toFloat / a.length.toFloat + m.toFloat / b.length.toFloat +
        (m - moved).toFloat / m.toFloat) / 3

end Similarity

end RelayProbe
