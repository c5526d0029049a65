import RelayProbe.Transcript.Read

set_option autoImplicit false

/-! # The lines that a reader of the output sees

A reader of the output cuts it at its newlines, and takes a line for one about a chunk if it opens
like one and the first quote behind the opening that no backslash escapes is its last byte. Nothing
of this knows how a line is printed. Whatever a chunk holds, there is no such quote in its printed
form (`behindQuote_escape`), so the chunk cannot end its line early.
-/

namespace RelayProbe

namespace Transcript

/-! ## Cutting a text at its newlines -/

/-- A text cut at its newlines: the lines that end in one, without it, and what stands behind the
last of them. -/
def lines : Bytes → List Bytes × Bytes
  | [] => ([], [])
  | b :: bs =>
      if b = newline then ([] :: (lines bs).1, (lines bs).2)
      else
        match (lines bs).1 with
        | [] => ([], b :: (lines bs).2)
        | l :: ls => ((b :: l) :: ls, (lines bs).2)

/-- Lines put together, each ended by a newline. -/
def unlines (ls : List Bytes) : Bytes := ls.flatMap (· ++ [newline])

theorem unlines_append (ls ms : List Bytes) : unlines (ls ++ ms) = unlines ls ++ unlines ms :=
  List.flatMap_append

theorem unlines_cons (l : Bytes) (ls : List Bytes) : unlines (l :: ls) = l ++ [newline] ++ unlines ls :=
  List.flatMap_cons

/-- A text without newlines has no line that is complete. -/
theorem lines_of_notMem {part : Bytes} (h : newline ∉ part) : lines part = ([], part) := by
  induction part with
  | nil => rfl
  | cons b bs ih =>
      rw [List.mem_cons, not_or] at h
      rw [lines, if_neg (Ne.symm h.1), ih h.2]

/-- A line in front of a text is the first of its lines. -/
theorem lines_append {l : Bytes} (h : newline ∉ l) (rest : Bytes) :
    lines (l ++ newline :: rest) = (l :: (lines rest).1, (lines rest).2) := by
  induction l with
  | nil => rw [List.nil_append, lines, if_pos rfl]
  | cons b bs ih =>
      rw [List.mem_cons, not_or] at h
      rw [List.cons_append, lines, if_neg (Ne.symm h.1), ih h.2]

/-- **Lines that are put together are found again.** -/
theorem lines_unlines_append {ls : List Bytes} {part : Bytes} (hls : ∀ l ∈ ls, newline ∉ l)
    (hpart : newline ∉ part) : lines (unlines ls ++ part) = (ls, part) := by
  induction ls with
  | nil => exact lines_of_notMem hpart
  | cons l ls ih =>
      have hfirst : unlines (l :: ls) ++ part = l ++ newline :: (unlines ls ++ part) := by
        simp [unlines_cons]
      rw [hfirst, lines_append (hls l List.mem_cons_self),
        ih fun m hm => hls m (List.mem_cons_of_mem l hm)]

/-! ## Lines about chunks -/

/-- What stands behind the first quote of a text that no backslash escapes. -/
def behindQuote? : Bytes → Option Bytes
  | [] => none
  | b :: bs =>
      if b = quote then some bs
      else if b = backslash then
        match bs with
        | [] => none
        | _ :: rest => behindQuote? rest
      else behindQuote? bs

/-- Whether a line reads `Received: b"…"`, with no quote between the two that is not escaped. -/
def isChunkLine (line : Bytes) : Bool :=
  opening.isPrefixOf line && behindQuote? (line.drop opening.length) == some []

/-- The two digits of a byte are no quotes and no backslashes. -/
theorem hexDigit_ne (b : UInt8) :
    (hexDigit (b / 16) ≠ quote ∧ hexDigit (b / 16) ≠ backslash) ∧
      hexDigit (b % 16) ≠ quote ∧ hexDigit (b % 16) ≠ backslash :=
  forall_byte (p := fun b => (hexDigit (b / 16) ≠ quote ∧ hexDigit (b / 16) ≠ backslash) ∧
    hexDigit (b % 16) ≠ quote ∧ hexDigit (b % 16) ≠ backslash) (by decide +kernel) b

theorem behindQuote_cons {b : UInt8} (hq : b ≠ quote) (hs : b ≠ backslash) (bs : Bytes) :
    behindQuote? (b :: bs) = behindQuote? bs := by
  rw [behindQuote?.eq_def]
  simp only [hq, hs, if_false]

theorem behindQuote_escaped (e : UInt8) (bs : Bytes) :
    behindQuote? (backslash :: e :: bs) = behindQuote? bs := by
  rw [behindQuote?.eq_def]
  have hne : backslash ≠ quote := by decide
  simp only [hne, if_true, if_false]

/-- The printed form of a byte has no quote that is not escaped. -/
theorem behindQuote_escapeByte (b : UInt8) (rest : Bytes) :
    behindQuote? (escapeByte b ++ rest) = behindQuote? rest := by
  unfold escapeByte
  split
  · next e he => exact behindQuote_escaped e rest
  · next he =>
      obtain ⟨hq, hs⟩ := ne_of_escapeLetter_none he
      by_cases hp : isPrintable b
      · rw [if_pos hp]
        exact behindQuote_cons hq hs rest
      · -- the letter before the digits is escaped, and the digits stand for themselves
        obtain ⟨⟨hq₁, hs₁⟩, hq₂, hs₂⟩ := hexDigit_ne b
        rw [if_neg hp]
        calc behindQuote? (backslash :: 0x78 :: hexDigit (b / 16) :: hexDigit (b % 16) :: rest)
            _ = behindQuote? (hexDigit (b / 16) :: hexDigit (b % 16) :: rest) :=
              behindQuote_escaped _ _
            _ = behindQuote? (hexDigit (b % 16) :: rest) := behindQuote_cons hq₁ hs₁ _
            _ = behindQuote? rest := behindQuote_cons hq₂ hs₂ _

theorem behindQuote_escape (chunk rest : Bytes) :
    behindQuote? (escape chunk ++ quote :: rest) = some rest := by
  induction chunk with
  | nil =>
      show behindQuote? (quote :: rest) = some rest
      rw [behindQuote?.eq_def]
      simp only [if_true]
  | cons b bs ih =>
      have hfirst : escape (b :: bs) = escapeByte b ++ escape bs := List.flatMap_cons
      rw [hfirst, List.append_assoc, behindQuote_escapeByte, ih]

end Transcript

end RelayProbe
