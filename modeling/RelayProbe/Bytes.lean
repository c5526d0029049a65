set_option autoImplicit false

/-! # Byte strings

What travels over a connection and what is printed are strings of bytes. A text stands for the
bytes of its UTF-8 form (`utf8`); the other way there are two readings, one that refuses bytes
that are not UTF-8 (`text?`) and one that puts the replacement character `U+FFFD` for each stretch
it cannot read (`lossyText`).
-/

namespace RelayProbe

/-- A string of bytes. -/
abbrev Bytes := List UInt8

/-- The UTF-8 form of a text. -/
def utf8 (s : String) : Bytes := s.toByteArray.data.toList

/-- The text whose UTF-8 form is `bs`, if there is one. -/
def text? (bs : Bytes) : Option String := String.fromUTF8? ⟨bs.toArray⟩

theorem utf8_append (s t : String) : utf8 (s ++ t) = utf8 s ++ utf8 t := by
  simp [utf8]

theorem utf8_injective {s t : String} (h : utf8 s = utf8 t) : s = t := by
  rw [← String.toByteArray_inj]
  exact ByteArray.ext (Array.toList_inj.mp h)

/-- A text is read from its own bytes, and from no others. -/
theorem text?_eq_some_iff {bs : Bytes} {s : String} : text? bs = some s ↔ utf8 s = bs := by
  rw [text?, String.fromUTF8?]
  constructor
  · intro h
    split at h
    · cases h
      rfl
    · cases h
  · rintro rfl
    exact dif_pos s.isValidUTF8

theorem text?_utf8 (s : String) : text? (utf8 s) = some s := text?_eq_some_iff.mpr rfl

/-! ## Reading bytes that may be broken

A reader of UTF-8 meets the bytes one at a time. It is between two characters, or inside one that
its first byte announced. A byte that does not fit ends the announced character as a broken one
and is then looked at afresh, so every broken stretch is as long as it can be. -/

/-- An announced character: how many bytes it still needs, the range in which the next of them has
to lie, and the number read so far. -/
structure OpenChar where
  owed : Nat
  low : UInt8
  high : UInt8
  code : Nat

/-- The character a first byte announces; `none` for a byte that no character starts with. A byte
below `0x80` is a whole character. -/
def announced (b : UInt8) : Option (Char ⊕ OpenChar) :=
  if b < 0x80 then some (.inl (Char.ofNat b.toNat))
  else if b < 0xc2 then none
  else if b < 0xe0 then some (.inr ⟨1, 0x80, 0xbf, b.toNat - 0xc0⟩)
  else if b < 0xf0 then
    some (.inr ⟨2, if b = 0xe0 then 0xa0 else 0x80, if b = 0xed then 0x9f else 0xbf, b.toNat - 0xe0⟩)
  else if b < 0xf5 then
    some (.inr ⟨3, if b = 0xf0 then 0x90 else 0x80, if b = 0xf4 then 0x8f else 0xbf, b.toNat - 0xf0⟩)
  else none

/-- The announced character after one more byte, which has to lie in its range. -/
def OpenChar.extend (p : OpenChar) (b : UInt8) : Option (Char ⊕ OpenChar) :=
  if p.low ≤ b ∧ b ≤ p.high then
    let code := p.code * 64 + (b.toNat - 0x80)
    if p.owed ≤ 1 then some (.inl (Char.ofNat code)) else some (.inr ⟨p.owed - 1, 0x80, 0xbf, code⟩)
  else none

/-- The characters of `bs`, read on from inside the character `p` if there is one. -/
def lossyChars (p : Option OpenChar) : Bytes → List Char
  | [] => if p.isSome then ['\uFFFD'] else []
  | b :: bs =>
      match p.bind (·.extend b) with
      | some (.inl c) => c :: lossyChars none bs
      | some (.inr q) => lossyChars (some q) bs
      | none =>
          (if p.isSome then ['\uFFFD'] else []) ++
            match announced b with
            | some (.inl c) => c :: lossyChars none bs
            | some (.inr q) => lossyChars (some q) bs
            | none => '\uFFFD' :: lossyChars none bs

/-- The text of `bs`, with `U+FFFD` for each longest stretch that is broken. -/
def lossyText (bs : Bytes) : String := String.ofList (lossyChars none bs)

end RelayProbe
