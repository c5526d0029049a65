import RelayProbe.Toml.Item

set_option autoImplicit false

/-! # Blank space, comments and the ends of lines

Blank space is made of blanks and tabs. A line ends in LF or CR LF; a CR alone is nowhere allowed.
A comment goes from `#` to the end of the line and holds tabs and every character from the blank on
but `U+007F`.

A reader takes a place and gives what it read with the place behind it, or the place at which it
had to stop.
-/

namespace RelayProbe

namespace Toml

/-- Blank space within a line. -/
def isBlank (c : Char) : Bool := c = ' ' || c = '\t'

/-- The characters that may stand in comments and strings as they are. -/
def isText (c : Char) : Bool := c = '\t' || (' ' ≤ c && c ≠ '\x7f')

/-- The place behind the blank space. -/
def skipSpace (s : Place) : Place := s.dropWhile isBlank

/-- The place behind the end of a line, if one stands here. -/
def newline? : Place → Option Place
  | '\n' :: r => some r
  | '\r' :: '\n' :: r => some r
  | _ => none

/-- The place behind a comment, if one stands here. -/
def skipComment : Place → Place
  | '#' :: r => r.dropWhile isText
  | s => s

/-- What may stand behind a statement: blank space, a comment, and the end of the line or of the
document. -/
def endOfLine (s : Place) : Except Place Place :=
  let r := skipComment (skipSpace s)
  if r = [] then .ok []
  else
    match newline? r with
    | some r' => .ok r'
    | none => .error r

/-- Skip blank space, the ends of lines and comments, each with the end of its line; in the middle
of a comment if `inComment` holds. -/
def skipLines (inComment : Bool) : Place → Except Place Place
  | [] => if inComment then .error [] else .ok []
  | '\n' :: r => skipLines false r
  | '\r' :: '\n' :: r => skipLines false r
  | '\r' :: r => .error ('\r' :: r)
  | c :: r =>
      if inComment then if isText c then skipLines true r else .error (c :: r)
      else if isBlank c then skipLines false r
      else if c = '#' then skipLines true r
      else .ok (c :: r)

/-- Skip blank space and the ends of lines. -/
def skipBlankLines : Place → Place
  | '\n' :: r => skipBlankLines r
  | '\r' :: '\n' :: r => skipBlankLines r
  | c :: r => if isBlank c then skipBlankLines r else c :: r
  | [] => []

/-! ## Nothing is read twice -/

theorem length_skipSpace_le (s : Place) : (skipSpace s).length ≤ s.length :=
  (List.dropWhile_suffix _).length_le

theorem length_skipComment_le (s : Place) : (skipComment s).length ≤ s.length := by
  unfold skipComment
  split
  · exact Nat.le_succ_of_le (List.dropWhile_suffix _).length_le
  · exact Nat.le_refl _

theorem length_newline {s r : Place} (h : newline? s = some r) : r.length < s.length := by
  unfold newline? at h
  split at h
  · cases h
    exact Nat.lt_succ_self _
  · cases h
    simp only [List.length_cons]; omega
  · cases h

theorem length_endOfLine {s r : Place} (h : endOfLine s = .ok r) :
    r = [] ∨ r.length < s.length := by
  have h₁ := length_skipComment_le (skipSpace s)
  have h₂ := length_skipSpace_le s
  simp only [endOfLine] at h
  split at h
  · cases h; exact .inl rfl
  · split at h
    · next hn =>
        cases h
        have := length_newline hn
        exact .inr (by omega)
    · cases h

theorem length_skipLines {b : Bool} {s r : Place} (h : skipLines b s = .ok r) :
    r.length ≤ s.length := by
  fun_induction skipLines b s with
  | case1 => cases h
  | case2 => cases h; exact Nat.le_refl _
  | case3 b r' ih => have := ih h; simp; omega
  | case4 b r' ih => have := ih h; simp; omega
  | case5 => cases h
  | case6 c r' _ _ _ _ ih => have := ih h; simp; omega
  | case7 => cases h
  | case8 b c r' _ _ _ _ _ ih => have := ih h; simp; omega
  | case9 b r' _ _ _ _ _ ih => have := ih h; simp; omega
  | case10 => cases h; exact Nat.le_refl _

theorem length_skipBlankLines_le (s : Place) : (skipBlankLines s).length ≤ s.length := by
  fun_induction skipBlankLines s with
  | case1 r ih => simp; omega
  | case2 r ih => simp; omega
  | case3 c r _ _ _ ih => simp; omega
  | case4 => exact Nat.le_refl _
  | case5 => exact Nat.le_refl _

end Toml

end RelayProbe
