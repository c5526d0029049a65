import RelayProbe.Toml.Quoted

set_option autoImplicit false

/-! # Keys

A part of a key is written bare or as a string of one line. A key has one or more parts with points
between them, and blank space around each part; the last part names an entry, the parts before it
lead to the table that the entry belongs to.
-/

namespace RelayProbe

namespace Toml

/-- How many parts a key may have. -/
def partLimit : Nat := 79

/-- The characters of a bare part of a key. -/
def isKeyChar (c : Char) : Bool := c.isAlphanum || c = '_' || c = '-'

/-- A key: the parts that lead to a table, and the name of the entry in it. -/
structure DottedKey where
  path : List Key
  last : Key

/-- The key with one more part in front. -/
def DottedKey.behind (front : Key) (k : DottedKey) : DottedKey := ⟨front :: k.path, k.last⟩

/-- Read one part of a key. -/
def keyPart (s : Place) : Except Place (Key × Place) :=
  match s with
  | '"' :: r => (restOfLine .basic [] r).map fun t => (⟨t.1, s, t.2⟩, t.2)
  | '\'' :: r => (restOfLine .literal [] r).map fun t => (⟨t.1, s, t.2⟩, t.2)
  | _ =>
      let name := s.takeWhile isKeyChar
      let rest := s.drop name.length
      if name = [] then .error s else .ok (⟨String.ofList name, s, rest⟩, rest)

/-- Read a key of at most so many parts, with the blank space behind it. -/
def dottedKey : Nat → Place → Except Place (DottedKey × Place)
  | 0, s => .error s
  | n + 1, s =>
      match keyPart (skipSpace s) with
      | .error p => .error p
      | .ok (k, r) =>
          match skipSpace r with
          | '.' :: r' => (dottedKey n r').map fun t => (t.1.behind k, t.2)
          | r' => .ok (⟨[], k⟩, r')

/-- Whether a key may start at a place: what follows the blank space is a character of a bare part
or the mark of a string. -/
def startsKey (s : Place) : Bool :=
  match skipSpace s with
  | [] => false
  | c :: _ => isKeyChar c || c = '"' || c = '\''

theorem length_keyPart {s r : Place} {k : Key} (h : keyPart s = .ok (k, r)) :
    r.length < s.length := by
  have hquoted : ∀ kind t, ((restOfLine kind [] t).map fun u =>
      ((⟨u.1, s, u.2⟩ : Key), u.2)) = .ok (k, r) → r.length < t.length := by
    intro kind t ht
    cases hq : restOfLine kind [] t with
    | error p => rw [hq] at ht; cases ht
    | ok u =>
        rw [hq] at ht
        cases ht
        exact length_restOfLine hq
  unfold keyPart at h
  split at h
  · exact Nat.lt_succ_of_lt (hquoted _ _ h)
  · exact Nat.lt_succ_of_lt (hquoted _ _ h)
  · simp only at h
    split at h
    · cases h
    · next hne =>
        cases h
        have h₁ : 0 < (s.takeWhile isKeyChar).length := List.length_pos_iff.mpr hne
        have h₂ : (s.takeWhile isKeyChar).length ≤ s.length :=
          (List.takeWhile_prefix _).length_le
        simp only [List.length_drop]; omega

theorem length_dottedKey {n : Nat} {s r : Place} {k : DottedKey}
    (h : dottedKey n s = .ok (k, r)) : r.length < s.length := by
  induction n generalizing s k with
  | zero => cases h
  | succ n ih =>
      have h₀ := length_skipSpace_le s
      simp only [dottedKey] at h
      split at h
      · cases h
      · next p r₁ hp =>
          have h₁ := length_keyPart hp
          have h₂ := length_skipSpace_le r₁
          split at h
          · next r₂ hr =>
              rw [hr] at h₂
              cases hk : dottedKey n r₂ with
              | error q => rw [hk] at h; cases h
              | ok t =>
                  rw [hk] at h
                  cases h
                  have h₃ := ih hk
                  simp only [List.length_cons] at h₂
                  omega
          · cases h; omega

end Toml

end RelayProbe
