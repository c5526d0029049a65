import RelayProbe.Request

set_option autoImplicit false

/-! # Where lines end in a request

A far end reads a request line by line, and takes the first empty line for the end of its headers.
Here a string of bytes is looked at in that way, whatever it was made from: how often CR LF stands
in it, and what stands between.
-/

namespace RelayProbe

namespace Request

/-- How often CR LF stands in a string of bytes. -/
def lineEnds : Bytes → Nat
  | [] => 0
  | b :: bs => (if crlf.isPrefixOf (b :: bs) then 1 else 0) + lineEnds bs

/-- What stands before, between and behind the line ends of a string of bytes. -/
def splitLines : Bytes → List Bytes
  | [] => [[]]
  | [b] => [[b]]
  | a :: b :: bs =>
      if [a, b] = crlf then [] :: splitLines bs
      else
        match splitLines (b :: bs) with
        | [] => [[a]]
        | l :: ls => (a :: l) :: ls

/-- The end of the headers: a line end with an empty line behind it. -/
def headersEnd : Bytes := crlf ++ crlf

/-- How many bytes stand in front of the first end of the headers, if there is one. -/
def headersLength? : Bytes → Option Nat
  | [] => none
  | b :: bs => if headersEnd.isPrefixOf (b :: bs) then some 0 else (headersLength? bs).map (· + 1)

/-- Whether a line ends at the front is settled by the first two bytes. -/
theorem crlf_isPrefixOf_cons_cons (a b : UInt8) (bs : Bytes) :
    crlf.isPrefixOf (a :: b :: bs) = decide ([a, b] = crlf) := by
  have h : ∀ x y : UInt8, (x == y) = decide (y = x) := fun x y => by
    by_cases hxy : x = y
    · simp [hxy]
    · simp [hxy, Ne.symm hxy]
  simp [crlf, List.isPrefixOf, h]

/-- There is a piece more than there are line ends. -/
theorem length_splitLines (bs : Bytes) : (splitLines bs).length = lineEnds bs + 1 := by
  fun_induction splitLines bs with
  | case1 => rfl
  | case2 b => simp [lineEnds, crlf, List.isPrefixOf]
  | case3 a b bs h ih =>
      have hb : crlf.isPrefixOf (b :: bs) = false := by
        obtain ⟨-, rfl⟩ : a = 0x0d ∧ b = 0x0a := by simpa [crlf] using h
        cases bs <;> simp [crlf, List.isPrefixOf]
      rw [lineEnds, lineEnds, crlf_isPrefixOf_cons_cons, List.length_cons, ih, hb]
      simp only [h, decide_true, if_true, Bool.false_eq_true, if_false]
      omega
  | case4 a b bs h hs ih => rw [hs] at ih; simp at ih
  | case5 a b bs h l ls hs ih =>
      rw [hs] at ih
      rw [lineEnds, crlf_isPrefixOf_cons_cons]
      simp only [h, decide_false, Bool.false_eq_true, if_false, List.length_cons] at ih ⊢
      omega

end Request

end RelayProbe
