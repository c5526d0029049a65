import RelayProbe.Request.Lines

set_option autoImplicit false

/-! # Where the headers of a request end

The headers end where an empty line stands between two line ends. A line that is not empty itself,
has no empty line inside and neither starts nor ends with a line end makes no empty line with the
lines around it (`Fills`). If all lines of a request are of that kind, the headers end where the
request ends and nowhere before (`eq_nil_of_ofLines_eq`).

For the request for a host this comes down to the host: it must hold no end of the headers and not
end in CR LF (`fills_lines`). A host in one piece is such a host, so no beginning of its request
other than the whole of it holds the end of the headers (`headersEnd_infix_iff`).
-/

namespace RelayProbe

namespace Request

/-- A text in one piece: no line ends in it. -/
def Unbroken (bs : Bytes) : Prop := ¬ crlf <:+: bs

instance (bs : Bytes) : Decidable (Unbroken bs) := inferInstanceAs (Decidable (¬ crlf <:+: bs))

/-- A text that makes no empty line, wherever it stands between two line ends. -/
structure Fills (l : Bytes) : Prop where
  ne_nil : l ≠ []
  start : ¬ crlf <+: l
  inside : ¬ headersEnd <:+: l
  stop : ¬ crlf <:+ l

/-! ## Where a string cannot stand -/

/-- A string does not start in a part that lacks its first byte. -/
theorem infix_of_append_left {front bs w : Bytes} {c : UInt8} (hc : c ∉ front)
    (h : c :: w <:+: front ++ bs) : c :: w <:+: bs := by
  induction front with
  | nil => exact h
  | cons b front ih =>
      rw [List.mem_cons, not_or] at hc
      rcases List.infix_cons_iff.mp h with hfirst | hlater
      · exact (hc.1 (List.cons_prefix_cons.mp hfirst).1).elim
      · exact ih hc.2 hlater

/-- A string does not end in a part that lacks its last byte. -/
theorem infix_of_append_right {bs back w : Bytes} {c : UInt8} (hc : c ∉ back)
    (h : w ++ [c] <:+: bs ++ back) : w ++ [c] <:+: bs := by
  rw [← List.reverse_infix] at h ⊢
  rw [List.reverse_append, List.reverse_append] at h
  rw [List.reverse_append]
  exact infix_of_append_left (by rwa [List.mem_reverse]) h

/-- The end of a text that starts with a given byte stands behind a part that lacks this byte. -/
theorem suffix_of_append_left {front bs w : Bytes} {c : UInt8} (hc : c ∉ front)
    (h : c :: w <:+ front ++ bs) : c :: w <:+ bs := by
  obtain ⟨x, hx⟩ := h
  rcases List.append_eq_append_iff.mp hx with ⟨m, rfl, hm⟩ | ⟨m, -, rfl⟩
  · -- the end would start inside the front, unless it starts right behind it
    cases m with
    | nil => exact ⟨[], hm⟩
    | cons d m =>
        obtain ⟨rfl, -⟩ := List.cons.inj hm
        exact (hc (by simp)).elim
  · exact List.suffix_append _ _

/-- What starts where a line end starts is empty, or its first half, or has all of it in front. -/
theorem front_of_crlf {m x z : Bytes} (he : crlf ++ x = m ++ z) :
    (m = [] ∧ z = crlf ++ x) ∨ (m = [0x0d] ∧ z = 0x0a :: x) ∨ ∃ b, m = crlf ++ b ∧ x = b ++ z := by
  rcases m with _ | ⟨c, _ | ⟨d, b⟩⟩
  · exact Or.inl ⟨rfl, he.symm⟩
  · obtain ⟨hc, hz⟩ := List.cons.inj he
    exact Or.inr (Or.inl ⟨by rw [hc], hz.symm⟩)
  · obtain ⟨hc, hrest⟩ := List.cons.inj he
    obtain ⟨hd, hx⟩ := List.cons.inj hrest
    exact Or.inr (Or.inr ⟨b, by rw [← hc, ← hd]; rfl, hx⟩)

/-! ## Texts in one piece -/

theorem unbroken_of_notMem {bs : Bytes} (h : 0x0d ∉ bs) : Unbroken bs := fun hin =>
  h (hin.subset List.mem_cons_self)

theorem Unbroken.not_headersEnd_isInfix {bs : Bytes} (h : Unbroken bs) : ¬ headersEnd <:+: bs :=
  fun hin => h ((List.infix_append [] crlf crlf).trans hin)

theorem Unbroken.not_crlf_isSuffix {bs : Bytes} (h : Unbroken bs) : ¬ crlf <:+ bs :=
  fun hs => h hs.isInfix

theorem Unbroken.fills {l : Bytes} (h : Unbroken l) (hne : l ≠ []) : Fills l where
  ne_nil := hne
  start := fun hp => h hp.isInfix
  inside := h.not_headersEnd_isInfix
  stop := h.not_crlf_isSuffix

/-! ## Lines put together -/

theorem ofLines_cons (l : Bytes) (ls : List Bytes) : ofLines (l :: ls) = l ++ crlf ++ ofLines ls := by
  simp [ofLines]

/-- Lines end with the end of the headers. -/
theorem headersEnd_suffix_ofLines {ls : List Bytes} (h : ls ≠ []) : headersEnd <:+ ofLines ls := by
  induction ls with
  | nil => exact (h rfl).elim
  | cons l ls ih =>
      rw [ofLines_cons]
      by_cases hls : ls = []
      · subst hls
        exact ⟨l, by simp [ofLines, headersEnd]⟩
      · exact (ih hls).trans (List.suffix_append _ _)

/-- An end of the headers in a text that starts with such a line stands right behind the line, or
behind its line end. -/
theorem Fills.append_crlf_eq {l a x y : Bytes} (h : Fills l)
    (he : l ++ crlf ++ x = a ++ headersEnd ++ y) :
    (a = l ∧ x = crlf ++ y) ∨ ∃ b, a = l ++ crlf ++ b ∧ x = b ++ headersEnd ++ y := by
  have hsplit : l ++ (crlf ++ x) = a ++ (crlf ++ (crlf ++ y)) := by
    simpa [headersEnd] using he
  rcases List.append_eq_append_iff.mp hsplit with ⟨m, rfl, hm⟩ | ⟨m, rfl, hm⟩
  · rcases front_of_crlf hm with ⟨rfl, hx⟩ | ⟨-, hx⟩ | ⟨b, rfl, rfl⟩
    · exact Or.inl ⟨List.append_nil l, (List.append_cancel_left hx).symm⟩
    · exact absurd (List.cons.inj hx).1 (by decide)
    · exact Or.inr ⟨b, by simp, by simp [headersEnd]⟩
  · -- the end of the headers would start inside the line
    rcases front_of_crlf hm with ⟨rfl, hx⟩ | ⟨-, hx⟩ | ⟨m', rfl, hm'⟩
    · exact Or.inl ⟨(List.append_nil a).symm, List.append_cancel_left hx⟩
    · exact absurd (List.cons.inj hx).1 (by decide)
    · rcases front_of_crlf hm' with ⟨rfl, -⟩ | ⟨-, hx⟩ | ⟨b, rfl, -⟩
      · exact (h.stop ⟨a, by simp⟩).elim
      · exact absurd (List.cons.inj hx).1 (by decide)
      · exact (h.inside ⟨a, b, by simp [headersEnd]⟩).elim

/-- A line that makes no empty line does not let its text start with a line end. -/
theorem Fills.not_crlf_isPrefix {l : Bytes} (h : Fills l) (x : Bytes) : ¬ crlf <+: l ++ crlf ++ x := by
  intro hp
  rcases l with _ | ⟨c, _ | ⟨d, l⟩⟩
  · exact h.ne_nil rfl
  · -- behind a single byte stands a CR, and no LF
    have hd := (List.cons_prefix_cons.mp hp).2
    exact absurd (List.cons_prefix_cons.mp hd).1 (by decide)
  · obtain ⟨hc, hrest⟩ := List.cons_prefix_cons.mp hp
    have hd : (0x0a : UInt8) = d := (List.cons_prefix_cons.mp hrest).1
    subst hc hd
    exact h.start (List.prefix_append crlf l)

/-- Behind the end of the headers of lines that make no empty line stands nothing. -/
theorem eq_nil_of_ofLines_eq {ls : List Bytes} (h : ∀ l ∈ ls, Fills l) {a rest : Bytes}
    (he : ofLines ls = a ++ headersEnd ++ rest) : rest = [] := by
  -- the front gets shorter by a line at a time, as long as the headers do not end in it
  induction ls generalizing a with
  | nil =>
      have hlen := congrArg List.length he
      simp only [ofLines, headersEnd, crlf, List.flatMap_nil, List.nil_append, List.length_append,
        List.length_cons, List.length_nil] at hlen
      omega
  | cons l ls ih =>
      rw [ofLines_cons] at he
      rcases (h l List.mem_cons_self).append_crlf_eq he with ⟨-, hrest⟩ | ⟨b, -, hrest⟩
      · cases ls with
        | nil => exact List.append_right_eq_self.mp hrest.symm
        | cons l' ls =>
            rw [ofLines_cons] at hrest
            exact ((h l' (by simp)).not_crlf_isPrefix _ ⟨rest, hrest.symm⟩).elim
      · exact ih (fun l' hl' => h l' (List.mem_cons_of_mem l hl')) hrest

/-! ## The request for a host -/

/-- The lines of a request make no empty line, if the host holds no end of the headers and does not
end in CR LF: what stands around the host has no CR in front of it and no LF right behind it. -/
theorem fills_lines {host : Bytes} (hin : ¬ headersEnd <:+: host) (hstop : ¬ crlf <:+ host) :
    ∀ l ∈ lines host, Fills l := by
  have hfixed : ∀ l ∈ fixedLines, l ≠ [] ∧ 0x0d ∉ l := by decide
  intro l hl
  simp only [lines, List.mem_cons] at hl
  rcases hl with rfl | rfl | hl
  · refine ⟨List.cons_ne_nil _ _, ?_, ?_, ?_⟩
    · intro hp
      exact absurd (List.cons_prefix_cons.mp hp).1 (by decide)
    · intro h
      exact hin (infix_of_append_left (by decide)
        (infix_of_append_right (w := [0x0d, 0x0a, 0x0d]) (by decide) h))
    · intro h
      have hback : crlf <:+ utf8 "/ HTTP/1.1" :=
        List.suffix_of_suffix_length_le h (List.suffix_append _ _) (by decide)
      exact absurd hback (by decide)
  · refine ⟨List.cons_ne_nil _ _, ?_, ?_, ?_⟩
    · intro hp
      exact absurd (List.cons_prefix_cons.mp hp).1 (by decide)
    · exact fun h => hin (infix_of_append_left (by decide) h)
    · exact fun h => hstop (suffix_of_append_left (by decide) h)
  · exact (unbroken_of_notMem (hfixed l hl).2).fills (hfixed l hl).1

/-- **The headers of a request end with the request.** When the host has no line end in it, a
beginning of the request holds the end of the headers exactly if it is the whole request. -/
theorem headersEnd_infix_iff {host : String} (h : Unbroken (utf8 host)) {p : Bytes}
    (hp : p <+: forHost host) : headersEnd <:+: p ↔ p = forHost host := by
  constructor
  · rintro ⟨a, b, rfl⟩
    obtain ⟨rest, hrest⟩ := hp
    have hnil : b ++ rest = [] :=
      eq_nil_of_ofLines_eq (fills_lines h.not_headersEnd_isInfix h.not_crlf_isSuffix) (a := a)
        (by rw [← List.append_assoc, hrest]; rfl)
    rw [← hrest, (List.append_eq_nil_iff.mp hnil).2, List.append_nil]
  · rintro rfl
    exact (headersEnd_suffix_ofLines (List.cons_ne_nil _ _)).isInfix

end Request

end RelayProbe
