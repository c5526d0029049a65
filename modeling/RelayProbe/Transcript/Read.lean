import RelayProbe.Transcript

set_option autoImplicit false

/-! # Reading a transcript back

A printed transcript is cut into lines, and each line about a chunk gives the chunk back. Reading is
strict: it takes the one way in which each byte is printed and no other, so a text that can be read
is the printed form of what was read.
-/

namespace RelayProbe

namespace Transcript

/-! ## Bytes between quotes -/

/-- The byte that a letter behind a backslash stands for. -/
def byteOfLetter? (e : UInt8) : Option UInt8 :=
  if e = 0x6e then some 0x0a
  else if e = 0x72 then some 0x0d
  else if e = 0x74 then some 0x09
  else if e = backslash then some backslash
  else if e = quote then some quote
  else if e = 0x30 then some 0x00
  else none

/-- The value of a hexadecimal digit of lower case. -/
def digitValue? (d : UInt8) : Option UInt8 :=
  if 0x30 ≤ d ∧ d ≤ 0x39 then some (d - 0x30)
  else if 0x61 ≤ d ∧ d ≤ 0x66 then some (d - 0x57)
  else none

/-- The byte that two hexadecimal digits stand for, if it is printed by its digits. -/
def byteOfDigits? (h l : UInt8) : Option UInt8 :=
  match digitValue? h, digitValue? l with
  | some m, some n =>
      let b := 16 * m + n
      if (escapeLetter? b).isNone ∧ ¬ isPrintable b then some b else none
  | _, _ => none

/-- The bytes whose escaped form stands here up to a quote, and what stands behind the quote. -/
def unescape : Bytes → Option (Bytes × Bytes)
  | [] => none
  | b :: bs =>
      if b = quote then some ([], bs)
      else if b = backslash then
        match bs with
        | [] => none
        | e :: rest =>
            if e = 0x78 then
              match rest with
              | h :: l :: rest' =>
                  (byteOfDigits? h l).bind fun c => (unescape rest').map fun t => (c :: t.1, t.2)
              | _ => none
            else (byteOfLetter? e).bind fun c => (unescape rest).map fun t => (c :: t.1, t.2)
      else if isPrintable b then (unescape bs).map fun t => (b :: t.1, t.2)
      else none

/-- The chunk that a line is about; the line is given without its newline. -/
def chunkOfLine? (line : Bytes) : Option Bytes :=
  if opening.isPrefixOf line then
    match unescape (line.drop opening.length) with
    | some (chunk, []) => some chunk
    | _ => none
  else none

/-! ## Lines -/

/-- The lines of a text, without their newlines. The last line has to end in a newline too. -/
def lines? : Bytes → Option (List Bytes)
  | [] => some []
  | b :: bs =>
      match lines? bs with
      | none => none
      | some ls =>
          if b = newline then some ([] :: ls)
          else
            match ls with
            | [] => none
            | l :: ls => some ((b :: l) :: ls)

/-- The transcript that lines make up: only the last one may tell the end of the stream. -/
def ofLines? : List Bytes → Option Transcript
  | [] => some ⟨[], false⟩
  | l :: ls =>
      if l = endText ∧ ls = [] then some ⟨[], true⟩
      else (chunkOfLine? l).bind fun c => (ofLines? ls).map fun t => { t with chunks := c :: t.chunks }

/-- The transcript whose printed form is a given text. -/
def read? (text : Bytes) : Option Transcript := (lines? text).bind ofLines?

/-! ## What is printed can be read -/

/-- What holds of the 256 bytes one by one holds of every byte. -/
theorem forall_byte {p : UInt8 → Prop} (h : ∀ i : Fin 256, p (UInt8.ofNat i)) (b : UInt8) : p b := by
  have hb := h ⟨b.toNat, b.toNat_lt⟩
  rwa [UInt8.ofNat_toNat] at hb

/-- The letter of a byte leads back to it, and is not the one that digits stand behind. -/
theorem byteOfLetter_escapeLetter {b e : UInt8} (h : escapeLetter? b = some e) :
    e ≠ 0x78 ∧ byteOfLetter? e = some b := by
  unfold escapeLetter? at h
  repeat' split at h
  all_goals first | (cases h; subst_vars; decide) | cases h

/-- The digits of a byte lead back to it. -/
theorem byteOfDigits_hexDigit (b : UInt8) :
    escapeLetter? b = none → isPrintable b = false →
      byteOfDigits? (hexDigit (b / 16)) (hexDigit (b % 16)) = some b :=
  forall_byte (p := fun b => escapeLetter? b = none → isPrintable b = false →
    byteOfDigits? (hexDigit (b / 16)) (hexDigit (b % 16)) = some b) (by decide +kernel) b

/-- A byte that is printed as itself is none of the two that end a plain stretch. -/
theorem ne_of_escapeLetter_none {b : UInt8} (h : escapeLetter? b = none) :
    b ≠ quote ∧ b ≠ backslash := by
  constructor <;> (rintro rfl; exact absurd h (by decide))

/-- Reading takes the printed form of one byte off the front. -/
theorem unescape_escapeByte (b : UInt8) (rest : Bytes) :
    unescape (escapeByte b ++ rest) = (unescape rest).map fun t => (b :: t.1, t.2) := by
  unfold escapeByte
  split
  · next e he =>
      obtain ⟨hx, hb⟩ := byteOfLetter_escapeLetter he
      rw [List.cons_append, unescape.eq_def]
      simp [show backslash ≠ quote by decide, hx, hb]
  · next he =>
      obtain ⟨hq, hs⟩ := ne_of_escapeLetter_none he
      by_cases hp : isPrintable b
      · rw [if_pos hp, List.singleton_append, unescape.eq_def]
        simp [hp, hq, hs]
      · have hd := byteOfDigits_hexDigit b he (by simpa using hp)
        rw [if_neg hp, List.cons_append, unescape.eq_def]
        simp [show backslash ≠ quote by decide, hd]

/-- Reading a chunk stops at the quote behind it. -/
theorem unescape_escape (chunk rest : Bytes) :
    unescape (escape chunk ++ quote :: rest) = some (chunk, rest) := by
  induction chunk with
  | nil =>
      rw [escape, List.flatMap_nil, List.nil_append, unescape.eq_def]
      simp
  | cons b bs ih =>
      rw [escape, List.flatMap_cons, List.append_assoc, unescape_escapeByte]
      rw [escape] at ih
      simp [ih]

/-- A line in front of a text is the first of its lines. -/
theorem lines_line_append {l : Bytes} (h : newline ∉ l) (rest : Bytes) :
    lines? (l ++ newline :: rest) = (lines? rest).map (l :: ·) := by
  induction l with
  | nil => cases hr : lines? rest <;> simp [lines?, hr]
  | cons b bs ih =>
      rw [List.mem_cons, not_or] at h
      rw [List.cons_append, lines?, ih h.2]
      cases lines? rest <;> simp [Ne.symm h.1]

end Transcript

end RelayProbe
