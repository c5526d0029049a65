import RelayProbe.Digits
import RelayProbe.Toml.Blank

set_option autoImplicit false

/-! # Strings

A string stands between quotation marks or between apostrophes; behind three of them it may go over
several lines. Between quotation marks a backslash opens an escape. In a string of several lines a
newline right behind the opening is dropped, CR LF is read as LF, up to two marks in a row may
stand inside, and a backslash at the end of a line takes the blank space up to the next text with
it.
-/

namespace RelayProbe

namespace Toml

/-- What a string stands between: quotation marks, or apostrophes. -/
inductive QuoteKind
  | basic
  | literal
  deriving DecidableEq, Repr

/-- The mark at the ends of a string. -/
def QuoteKind.mark : QuoteKind → Char
  | basic => '"'
  | literal => '\''

/-- Whether a backslash opens an escape in a string. -/
def QuoteKind.escapes : QuoteKind → Bool
  | basic => true
  | literal => false

/-- The character whose code stands here in `n` hexadecimal digits. -/
def codePoint (n : Nat) (s : Place) : Except Place (Char × Place) :=
  match Digits.number? 16 (s.take n) with
  | some v =>
      if (s.take n).length = n ∧ v.isValidChar then .ok (Char.ofNat v, s.drop n) else .error s
  | none => .error s

/-- The character that a letter behind a backslash stands for. -/
def escapeLetter? (c : Char) : Option Char :=
  if c = 'b' then some '\x08'
  else if c = 't' then some '\t'
  else if c = 'n' then some '\n'
  else if c = 'f' then some '\x0c'
  else if c = 'r' then some '\r'
  else if c = '"' ∨ c = '\\' then some c
  else none

/-- The character that an escape stands for, read behind its backslash. -/
def escaped : Place → Except Place (Char × Place)
  | [] => .error []
  | c :: r =>
      match escapeLetter? c with
      | some d => .ok (d, r)
      | none =>
          if c = 'u' then codePoint 4 r
          else if c = 'U' then codePoint 8 r
          else .error r

/-- The place where the text goes on behind a backslash at the end of a line, read behind the
backslash. -/
def continuation? (s : Place) : Option Place := (newline? (skipSpace s)).map skipBlankLines

theorem length_codePoint {n : Nat} {s r : Place} {c : Char} (h : codePoint n s = .ok (c, r)) :
    r.length ≤ s.length := by
  unfold codePoint at h
  split at h
  · split at h
    · cases h; simp
    · cases h
  · cases h

theorem length_escaped {s r : Place} {c : Char} (h : escaped s = .ok (c, r)) :
    r.length < s.length := by
  cases s with
  | nil => cases h
  | cons a t =>
      simp only [escaped] at h
      split at h
      · cases h; simp
      · split at h
        · exact Nat.lt_succ_of_le (length_codePoint h)
        · split at h
          · exact Nat.lt_succ_of_le (length_codePoint h)
          · cases h

theorem length_continuation {s r : Place} (h : continuation? s = some r) :
    r.length < s.length := by
  obtain ⟨t, ht, rfl⟩ := Option.map_eq_some_iff.mp h
  have h₁ := length_newline ht
  have h₂ := length_skipSpace_le s
  have h₃ := length_skipBlankLines_le t
  omega

/-- Read a string of one line to its closing mark; `acc` holds the characters so far, the last one
first. -/
def restOfLine (kind : QuoteKind) (acc : List Char) (s : Place) : Except Place (String × Place) :=
  match s with
  | [] => .error []
  | c :: r =>
      if c = kind.mark then .ok (String.ofList acc.reverse, r)
      else if c = '\\' ∧ kind.escapes then
        match _h : escaped r with
        | .error p => .error p
        | .ok (d, r') => restOfLine kind (d :: acc) r'
      else if isText c then restOfLine kind (c :: acc) r
      else .error (c :: r)
termination_by s.length
decreasing_by
  · have := length_escaped _h
    simp only [List.length_cons]; omega
  · simp

/-- Read a string of several lines to its closing marks; `acc` holds the characters so far, the
last one first. -/
def restOfLines (kind : QuoteKind) (acc : List Char) (s : Place) : Except Place (String × Place) :=
  match s with
  | [] => .error []
  | c :: r =>
      if c = kind.mark then
        let marks := 1 + (r.takeWhile (· = kind.mark)).length
        if marks < 3 then restOfLines kind (c :: acc) r
        else
          let inside := min marks 5 - 3
          .ok (String.ofList (List.replicate inside kind.mark ++ acc).reverse, r.drop (inside + 2))
      else if c = '\\' ∧ kind.escapes then
        match _hc : continuation? r with
        | some r' => restOfLines kind acc r'
        | none =>
            match _h : escaped r with
            | .error p => .error p
            | .ok (d, r') => restOfLines kind (d :: acc) r'
      else
        match _hn : newline? (c :: r) with
        | some r' => restOfLines kind ('\n' :: acc) r'
        | none => if isText c then restOfLines kind (c :: acc) r else .error (c :: r)
termination_by s.length
decreasing_by
  · simp
  · have := length_continuation _hc
    simp only [List.length_cons]; omega
  · have := length_escaped _h
    simp only [List.length_cons]; omega
  · exact length_newline _hn
  · simp

/-- Read a string of one line, behind its opening mark, or of several lines if the opening mark
stands three times. -/
def quoted (kind : QuoteKind) (s : Place) : Except Place (String × Place) :=
  match s with
  | a :: b :: r =>
      if a = kind.mark ∧ b = kind.mark then restOfLines kind [] ((newline? r).getD r)
      else restOfLine kind [] s
  | _ => restOfLine kind [] s

theorem length_restOfLine {kind : QuoteKind} {acc : List Char} {s r : Place} {t : String}
    (h : restOfLine kind acc s = .ok (t, r)) : r.length < s.length := by
  fun_induction restOfLine kind acc s with
  | case1 => cases h
  | case2 => cases h; simp
  | case3 => cases h
  | case4 acc c r' _ _ d r'' hr ih =>
      have h₁ := ih h
      have h₂ := length_escaped hr
      simp only [List.length_cons]; omega
  | case5 acc c r' _ _ _ ih =>
      have := ih h
      simp only [List.length_cons]; omega
  | case6 => cases h

theorem length_restOfLines {kind : QuoteKind} {acc : List Char} {s r : Place} {t : String}
    (h : restOfLines kind acc s = .ok (t, r)) : r.length < s.length := by
  fun_induction restOfLines kind acc s with
  | case1 => cases h
  | case2 acc r' _ _ ih =>
      have := ih h
      simp only [List.length_cons]; omega
  | case3 =>
      cases h
      simp only [List.length_drop, List.length_cons]; omega
  | case4 acc c r' _ _ r'' hr ih =>
      have h₁ := ih h
      have h₂ := length_continuation hr
      simp only [List.length_cons]; omega
  | case5 => cases h
  | case6 acc c r' _ _ _ d r'' hr ih =>
      have h₁ := ih h
      have h₂ := length_escaped hr
      simp only [List.length_cons]; omega
  | case7 acc c r' _ _ r'' hr ih =>
      have h₁ := ih h
      have h₂ := length_newline hr
      omega
  | case8 acc c r' _ _ _ _ ih =>
      have := ih h
      simp only [List.length_cons]; omega
  | case9 => cases h

theorem length_quoted {kind : QuoteKind} {s r : Place} {t : String}
    (h : quoted kind s = .ok (t, r)) : r.length < s.length := by
  unfold quoted at h
  split at h
  · next a b s' =>
      split at h
      · have h₁ := length_restOfLines h
        have h₂ : ((newline? s').getD s').length ≤ s'.length := by
          cases hn : newline? s' with
          | none => simp
          | some u => simpa using Nat.le_of_lt (length_newline hn)
        simp only [List.length_cons]; omega
      · exact length_restOfLine h
  · exact length_restOfLine h

end Toml

end RelayProbe
