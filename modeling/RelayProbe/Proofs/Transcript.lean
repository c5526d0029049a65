import RelayProbe.Transcript.Read

set_option autoImplicit false

/-! # A printed transcript can be read back

Whatever was received, its printed form leads back to it (`read_print`). A byte is printed in
printable ASCII only, so the newlines of a printed transcript are those at the ends of its lines,
and a line about a chunk, up to the quote that closes it, can be taken apart again. The line at the
end of the stream is told from the lines about chunks by its first letter.
-/

namespace RelayProbe

namespace Transcript

/-! ## The text of a line -/

/-- The line about a chunk, without its newline. -/
def chunkText (chunk : Bytes) : Bytes := opening ++ escape chunk ++ [quote]

theorem chunkLine_eq (chunk : Bytes) : chunkLine chunk = chunkText chunk ++ [newline] := by
  simp [chunkLine, chunkText]

/-- Every byte is printed in printable ASCII. -/
theorem all_isPrintable_escapeByte (b : UInt8) : (escapeByte b).all isPrintable = true :=
  forall_byte (p := fun b => (escapeByte b).all isPrintable = true) (by decide +kernel) b

theorem isPrintable_of_mem_chunkText {chunk : Bytes} {x : UInt8} (h : x ∈ chunkText chunk) :
    isPrintable x = true := by
  have hopening : opening.all isPrintable = true := by decide
  rw [chunkText, List.append_assoc, List.mem_append, List.mem_append, List.mem_singleton] at h
  rcases h with h | h | rfl
  · exact List.all_eq_true.mp hopening x h
  · obtain ⟨b, -, hb⟩ := List.mem_flatMap.mp h
    exact List.all_eq_true.mp (all_isPrintable_escapeByte b) x hb
  · decide

theorem isPrintable_of_mem_endText {x : UInt8} (h : x ∈ endText) : isPrintable x = true := by
  have hall : endText.all isPrintable = true := by decide
  exact List.all_eq_true.mp hall x h

/-- A text in printable ASCII is on one line. -/
theorem newline_notMem {l : Bytes} (h : ∀ x ∈ l, isPrintable x = true) : newline ∉ l := by
  intro hmem
  have := h newline hmem
  revert this
  decide

/-! ## Reading a line -/

/-- The line about a chunk tells the chunk. -/
theorem chunkOfLine_chunkText (chunk : Bytes) : chunkOfLine? (chunkText chunk) = some chunk := by
  have hprefix : opening.isPrefixOf (chunkText chunk) = true := by
    rw [List.isPrefixOf_iff_prefix, chunkText, List.append_assoc]
    exact List.prefix_append _ _
  rw [chunkOfLine?, if_pos hprefix, chunkText, List.append_assoc, List.drop_left,
    unescape_escape]

/-- A line about a chunk does not look like the one at the end of the stream. -/
theorem chunkText_ne_endText (chunk : Bytes) : chunkText chunk ≠ endText := by
  intro h
  have hfirst : (chunkText chunk).head? = opening.head? := rfl
  rw [h] at hfirst
  revert hfirst
  decide

/-! ## Reading a transcript -/

/-- The lines of a transcript, without their newlines. -/
def texts (t : Transcript) : List Bytes :=
  t.chunks.map chunkText ++ if t.ended then [endText] else []

theorem texts_cons (c : Bytes) (cs : List Bytes) (ended : Bool) :
    texts ⟨c :: cs, ended⟩ = chunkText c :: texts ⟨cs, ended⟩ := rfl

theorem print_cons (c : Bytes) (cs : List Bytes) (ended : Bool) :
    print ⟨c :: cs, ended⟩ = chunkLine c ++ print ⟨cs, ended⟩ := by
  rw [print, print, List.flatMap_cons, List.append_assoc]

/-- Cutting a printed transcript at its newlines gives its lines. -/
theorem lines_print (t : Transcript) : lines? t.print = some t.texts := by
  obtain ⟨cs, ended⟩ := t
  induction cs with
  | nil =>
      cases ended with
      | false => rfl
      | true =>
          show lines? (endText ++ newline :: []) = _
          rw [lines_line_append (newline_notMem fun x => isPrintable_of_mem_endText)]
          rfl
  | cons c cs ih =>
      have hc : newline ∉ chunkText c := newline_notMem fun x => isPrintable_of_mem_chunkText
      have hfirst : print ⟨c :: cs, ended⟩ = chunkText c ++ newline :: print ⟨cs, ended⟩ := by
        rw [print_cons, chunkLine_eq, List.append_assoc]
        rfl
      rw [hfirst, lines_line_append hc, ih]
      rfl

/-- The lines of a transcript make it up. -/
theorem ofLines_texts (t : Transcript) : ofLines? t.texts = some t := by
  obtain ⟨cs, ended⟩ := t
  induction cs with
  | nil => cases ended <;> rfl
  | cons c cs ih =>
      rw [texts_cons, ofLines?, if_neg fun h => chunkText_ne_endText c h.1, chunkOfLine_chunkText, ih]
      rfl

/-- **Printing loses nothing**: a printed transcript can be read back. -/
theorem read_print (t : Transcript) : read? t.print = some t := by
  rw [read?, lines_print]
  exact ofLines_texts t

end Transcript

end RelayProbe
