import Mathlib
import RelayProbe.Toml.Quoted
import RelayProbe.Toml.Written

set_option autoImplicit false

/-! # Written strings are read back

A text that is written between quotation marks, in any of its written forms, is read back, and
reading stops behind the closing mark (`quoted_written`). A written form never starts with a
quotation mark, so only that of the empty text could be taken for the opening of a string of
several lines, if a third mark stood behind it.
-/

namespace RelayProbe

namespace Toml

/-! ## Escapes -/

/-- A hexadecimal digit has its value. -/
theorem value_hexDigit (upper : Bool) {n : Nat} (h : n < 16) :
    Digits.value? (hexDigit upper n) = some n := by
  have hall : ∀ (u : Bool) (i : Fin 16), Digits.value? (hexDigit u i) = some (i : Nat) := by decide
  exact hall upper ⟨n, h⟩

/-- Four hexadecimal digits have the value that they were written for. -/
theorem number_fourDigits (upper : Bool) {n : Nat} (h : n < 0x10000) :
    Digits.number? 16 (fourDigits upper n) = some n := by
  have hdigit : ∀ m, Digits.value? (hexDigit upper (m % 16)) = some (m % 16) :=
    fun m => value_hexDigit upper (Nat.mod_lt m (by decide))
  have hall : (fourDigits upper n).all (Digits.isDigitOf 16) = true := by
    simp [fourDigits, Digits.isDigitOf, hdigit, Nat.mod_lt]
  rw [Digits.number?, if_pos ⟨List.cons_ne_nil _ _, hall⟩]
  simp only [fourDigits, Digits.toNat, List.map_cons, List.map_nil, List.foldl_cons,
    List.foldl_nil, hdigit, Option.getD_some]
  congr 1
  omega

theorem codePoint_fourDigits (upper : Bool) {c : Char} (h : c.toNat < 0x10000) (rest : Place) :
    codePoint 4 (fourDigits upper c.toNat ++ rest) = .ok (c, rest) := by
  have htake : (fourDigits upper c.toNat ++ rest).take 4 = fourDigits upper c.toNat := rfl
  have hdrop : (fourDigits upper c.toNat ++ rest).drop 4 = rest := rfl
  rw [codePoint, htake, hdrop, number_fourDigits upper h]
  show (if _ ∧ _ then _ else _) = _
  rw [if_pos ⟨rfl, c.valid⟩, Char.ofNat_toNat]

/-- An escape is read back. -/
theorem escaped_escape {c : Char} {es : List Char} (h : Escape c es) :
    ∃ tail, es = '\\' :: tail ∧ ∀ rest, escaped (tail ++ rest) = .ok (c, rest) := by
  cases h with
  | code upper small => exact ⟨_, rfl, codePoint_fourDigits upper small⟩
  | _ => exact ⟨_, rfl, fun rest => rfl⟩

/-! ## Strings of one line -/

theorem restOfLine_mark (acc : List Char) (rest : Place) :
    restOfLine .basic acc ('"' :: rest) = .ok (String.ofList acc.reverse, rest) := by
  rw [restOfLine, QuoteKind.mark, if_pos rfl]

/-- A character that needs no escape is read as it is. -/
theorem restOfLine_plain {c : Char} (h : ¬ NeedsEscape c) (acc : List Char) (s : Place) :
    restOfLine .basic acc (c :: s) = restOfLine .basic (c :: acc) s := by
  rw [NeedsEscape, not_or, not_or, not_or, not_lt] at h
  obtain ⟨hmark, hbackslash, hlow, hdel⟩ := h
  have htext : isText c = true := by simp [isText, hlow, hdel]
  rw [restOfLine, QuoteKind.mark, if_neg hmark, if_neg fun hc => hbackslash hc.1, if_pos htext]

/-- An escape is read as its character. -/
theorem restOfLine_escape {c : Char} {es : List Char} (h : Escape c es) (acc : List Char)
    (s : Place) : restOfLine .basic acc (es ++ s) = restOfLine .basic (c :: acc) s := by
  obtain ⟨tail, rfl, hread⟩ := escaped_escape h
  rw [List.cons_append, restOfLine, if_neg (by decide), if_pos ⟨rfl, rfl⟩]
  split
  · next p hp =>
      rw [hread] at hp
      cases hp
  · next d r hd =>
      rw [hread] at hd
      cases hd
      rfl

/-- A written text is read up to the mark behind it. -/
theorem restOfLine_written {cs ws : List Char} (h : Written cs ws) (acc : List Char)
    (rest : Place) :
    restOfLine .basic acc (ws ++ '"' :: rest) = .ok (String.ofList (acc.reverse ++ cs), rest) := by
  induction h generalizing acc with
  | nil => rw [List.nil_append, restOfLine_mark, List.append_nil]
  | plain asIs _ ih =>
      rw [List.cons_append, restOfLine_plain asIs, ih]
      simp
  | escaped escape _ ih =>
      rw [List.append_assoc, restOfLine_escape escape, ih]
      simp

/-- A written form does not start with a mark. -/
theorem head_written {cs ws : List Char} (h : Written cs ws) : ws.head? ≠ some '"' := by
  cases h with
  | nil => simp
  | plain asIs _ => exact fun hc => asIs (Or.inl (Option.some.inj hc))
  | escaped escape _ =>
      obtain ⟨tail, rfl, -⟩ := escaped_escape escape
      simp

/-- A written text is read back when no third mark stands behind it. -/
theorem quoted_written {cs ws : List Char} (h : Written cs ws) {rest : Place}
    (hrest : rest.head? ≠ some '"') :
    quoted .basic (ws ++ '"' :: rest) = .ok (String.ofList cs, rest) := by
  have hone : restOfLine .basic [] (ws ++ '"' :: rest) = .ok (String.ofList cs, rest) :=
    restOfLine_written h [] rest
  have hhead := head_written h
  unfold quoted
  split
  · next a b r hs =>
      refine (if_neg ?_).trans (hs ▸ hone)
      rintro ⟨ha, hb⟩
      rcases ws with _ | ⟨w, ws⟩
      · obtain ⟨-, rfl⟩ := List.cons.inj hs
        exact hrest (congrArg some hb)
      · obtain ⟨rfl, -⟩ := List.cons.inj hs
        exact hhead (congrArg some ha)
  · exact hone

end Toml

end RelayProbe
