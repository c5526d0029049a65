import RelayProbe.Toml.Value

set_option autoImplicit false

/-! # Documents

A document is a sequence of lines. A line may hold a statement: an entry, or the header of a table
or of one more table of an array, to which the entries below it belong. Statements are carried out
one after the other, so a statement that cannot be carried out is an error before anything wrong
that stands behind it.

Reading a document gives its entries, or the line on which it is wrong.
-/

namespace RelayProbe

namespace Toml

/-- What a line of a document says. -/
inductive Statement
  | entry (key : DottedKey) (value : Item)
  | table (key : DottedKey) (header : Span)
  | element (key : DottedKey) (header : Span)

/-- A document as far as its statements are carried out: its entries, and the parts of the key of
the table to which further entries belong. -/
structure Draft where
  root : Entries := []
  opened : List Key := []

namespace Draft

/-- The draft with its outermost table changed. -/
def changeRoot (d : Draft) (opened : List Key) (f : Span → TableForm → Entries → Option Item) :
    Option Draft :=
  (f ⟨[], []⟩ .header d.root).map fun t => ⟨t.entries, opened⟩

/-- Carry out a statement. An entry stretches the table that it belongs to up to its own end. -/
def add (d : Draft) : Statement → Option Draft
  | .entry key value =>
      d.changeRoot d.opened <|
        changeAt Item.passesHeader .implied
          (fun span form es =>
            (addEntry key value span form es).map (Item.stretchedTo value.span.stop))
          d.opened
  | .table key header => d.changeRoot (key.path ++ [key.last]) (openTable key header)
  | .element key header => d.changeRoot (key.path ++ [key.last]) (openElement key header)

end Draft

/-- Read a header behind its opening bracket; `start` is the place of that bracket. -/
def header (start : Place) (s : Place) : Except Place (Statement × Place) :=
  match s with
  | '[' :: s' =>
      match dottedKey partLimit s' with
      | .error p => .error p
      | .ok (k, ']' :: ']' :: r) => .ok (.element k ⟨start, r⟩, r)
      | .ok (_, r) => .error r
  | _ =>
      match dottedKey partLimit s with
      | .error p => .error p
      | .ok (k, ']' :: r) => .ok (.table k ⟨start, r⟩, r)
      | .ok (_, r) => .error r

/-- Read a statement, if one stands here and not a comment or the end of the line. -/
def statement (s : Place) : Except Place (Option Statement × Place) :=
  match s with
  | [] => .ok (none, [])
  | '#' :: _ => .ok (none, s)
  | '\n' :: _ => .ok (none, s)
  | '\r' :: _ => .ok (none, s)
  | '[' :: r => (header s r).map fun t => (some t.1, t.2)
  | _ => (entry (value nestingLimit) s).map fun t => (some (.entry t.1.1 t.1.2), t.2)

/-- Read a line: blank space, a statement if there is one, and what may stand behind it. -/
def line (s : Place) : Except Place (Option Statement × Place) :=
  match statement (skipSpace s) with
  | .error p => .error p
  | .ok (st, r) => (endOfLine r).map (st, ·)

theorem length_header {start s r : Place} {st : Statement} (h : header start s = .ok (st, r)) :
    r.length < s.length := by
  unfold header at h
  split at h
  · split at h
    · cases h
    · next hk =>
        cases h
        have := length_dottedKey hk
        simp only [List.length_cons] at *
        omega
    · cases h
  · split at h
    · cases h
    · next hk =>
        cases h
        have := length_dottedKey hk
        simp only [List.length_cons] at *
        omega
    · cases h

theorem length_statement {s r : Place} {st : Option Statement}
    (h : statement s = .ok (st, r)) : r.length ≤ s.length := by
  unfold statement at h
  split at h
  · cases h; exact Nat.le_refl _
  · cases h; exact Nat.le_refl _
  · cases h; exact Nat.le_refl _
  · cases h; exact Nat.le_refl _
  · next t =>
      cases hh : header ('[' :: t) t with
      | error p => rw [hh] at h; cases h
      | ok u =>
          rw [hh] at h
          cases h
          exact Nat.le_succ_of_le (Nat.le_of_lt (length_header hh))
  · cases he : entry (value nestingLimit) s with
    | error p => rw [he] at h; cases h
    | ok u =>
        rw [he] at h
        cases h
        exact Nat.le_of_lt (length_entry he)

theorem length_line {s r : Place} {st : Option Statement} (hs : s ≠ [])
    (h : line s = .ok (st, r)) : r.length < s.length := by
  have hpos : 0 < s.length := List.length_pos_iff.mpr hs
  unfold line at h
  split at h
  · cases h
  · next st' r' hst =>
      cases he : endOfLine r' with
      | error p => rw [he] at h; cases h
      | ok u =>
          rw [he] at h
          cases h
          have h₁ := length_skipSpace_le s
          have h₂ := length_statement hst
          rcases length_endOfLine he with hu | hu
          · rw [hu]; exact hpos
          · omega

/-- Read the lines from a place on, and carry out their statements. -/
def lines (d : Draft) (s : Place) : Except Place Draft :=
  if _hs : s = [] then .ok d
  else
    match _h : line s with
    | .error p => .error p
    | .ok (none, r) => lines d r
    | .ok (some st, r) =>
        match d.add st with
        | none => .error (skipSpace s)
        | some d' => lines d' r
termination_by s.length
decreasing_by
  · exact length_line _hs _h
  · exact length_line _hs _h

/-- The place behind a byte order mark, if the text starts with one. -/
def skipMark : Place → Place
  | '\uFEFF' :: r => r
  | s => s

/-- The number, from one, of the line on which a place of a text lies. The end of the text lies on
the line of its last character. -/
def lineNumber (text p : Place) : Nat :=
  let before := if p = [] then text.dropLast.count '\n' else text.count '\n' - p.count '\n'
  before + 1

/-- The entries of a document, or the number of the line on which it is wrong. -/
def parse (text : String) : Except Nat Entries :=
  match lines {} (skipMark text.toList) with
  | .ok d => .ok d.root
  | .error p => .error (lineNumber text.toList p)

end Toml

end RelayProbe
