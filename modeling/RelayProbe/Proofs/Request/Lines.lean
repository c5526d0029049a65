import RelayProbe.Proofs.Request.Ending

set_option autoImplicit false

/-! # The lines of the request for any host

A host is put into the request as it is, so the line ends in it become line ends of the request. The
text around the host makes no further ones with it, whatever the host starts or ends with: how many
lines the request has, which they are and where its headers end is settled by the line ends in the
host alone (`forHost_lines`).
-/

namespace RelayProbe

namespace Request

/-! ## Counting line ends -/

@[simp] theorem lineEnds_nil : lineEnds [] = 0 := rfl

@[simp] theorem lineEnds_singleton (b : UInt8) : lineEnds [b] = 0 := by
  simp [lineEnds, crlf, List.isPrefixOf]

/-- The line ends of two parts are those of each of them, and one more where they meet if the first
ends in CR and the second starts with LF. -/
theorem lineEnds_append (a b : Bytes) :
    lineEnds (a ++ b) = lineEnds a + lineEnds b +
      if a.getLast? = some 0x0d ∧ b.head? = some 0x0a then 1 else 0 := by
  induction a with
  | nil => simp
  | cons x a ih =>
      cases a with
      | nil =>
          cases b with
          | nil => simp
          | cons y b =>
              show lineEnds (x :: y :: b) = _
              rw [lineEnds, crlf_isPrefixOf_cons_cons, lineEnds_singleton]
              simp [crlf, Nat.add_comm]
      | cons y a =>
          simp only [List.cons_append, lineEnds, crlf_isPrefixOf_cons_cons,
            List.getLast?_cons_cons] at ih ⊢
          omega

/-- A line end stands by itself between any two texts: it neither ends in CR nor starts with LF. -/
theorem lineEnds_append_crlf (l rest : Bytes) :
    lineEnds (l ++ crlf ++ rest) = lineEnds l + lineEnds rest + 1 := by
  have hcrlf : lineEnds crlf = 1 := by decide
  rw [lineEnds_append, lineEnds_append, hcrlf, if_neg (by simp [crlf]), if_neg (by simp [crlf])]
  omega

/-- Lines put together have a line end for each line, and one for the empty line behind them. -/
theorem lineEnds_ofLines {ls : List Bytes} (h : ∀ l ∈ ls, lineEnds l = 0) :
    lineEnds (ofLines ls) = ls.length + 1 := by
  induction ls with
  | nil => rfl
  | cons l ls ih =>
      rw [ofLines_cons, lineEnds_append_crlf, h l List.mem_cons_self,
        ih fun l' hl' => h l' (List.mem_cons_of_mem l hl'), List.length_cons]
      omega

theorem lineEnds_eq_zero_iff {bs : Bytes} : lineEnds bs = 0 ↔ Unbroken bs := by
  induction bs with
  | nil => exact ⟨fun _ => by decide, fun _ => rfl⟩
  | cons b bs ih =>
      have hfirst : crlf.isPrefixOf (b :: bs) = true ↔ crlf <+: b :: bs := List.isPrefixOf_iff_prefix
      rw [Unbroken, List.infix_cons_iff, not_or, ← hfirst, lineEnds, Nat.add_eq_zero_iff, ih]
      simp [Unbroken]

/-- The text around a host makes no line end with it. -/
theorem lineEnds_around {front back : Bytes} (hfront : lineEnds front = 0)
    (hfront' : front.getLast? ≠ some 0x0d) (hback : lineEnds back = 0)
    (hback' : back.head? ≠ some 0x0a) (host : Bytes) :
    lineEnds (front ++ host ++ back) = lineEnds host := by
  rw [lineEnds_append, lineEnds_append, hfront, hback, if_neg fun h => hfront' h.1,
    if_neg fun h => hback' h.2]
  omega

/-- The host stands twice in its request, which has seven line ends of its own. -/
theorem lineEnds_forHost (host : String) :
    lineEnds (forHost host) = 7 + 2 * lineEnds (utf8 host) := by
  have hfixed : lineEnds (ofLines fixedLines) = 5 := lineEnds_ofLines (by decide)
  have hrequest : lineEnds (requestLine (utf8 host)) = lineEnds (utf8 host) :=
    lineEnds_around (by decide) (by decide) (by decide) (by decide) _
  have hheader : lineEnds (hostLine (utf8 host)) = lineEnds (utf8 host) := by
    rw [hostLine, lineEnds_append, if_neg fun h => absurd h.1 (by decide)]
    exact Nat.zero_add _
  calc lineEnds (forHost host)
      = lineEnds (requestLine (utf8 host) ++ crlf ++ (hostLine (utf8 host) ++ crlf ++
          ofLines fixedLines)) := by rw [forHost, lines, ofLines_cons, ofLines_cons]
    _ = lineEnds (utf8 host) + (lineEnds (utf8 host) + 5 + 1) + 1 := by
        rw [lineEnds_append_crlf, lineEnds_append_crlf, hrequest, hheader, hfixed]
    _ = 7 + 2 * lineEnds (utf8 host) := by omega

/-! ## Splitting at the line ends -/

/-- A text without CR in front makes no line end. -/
theorem Unbroken.append_left {bs : Bytes} (h : Unbroken bs) {front : Bytes}
    (hfront : 0x0d ∉ front) : Unbroken (front ++ bs) := fun hin =>
  h (infix_of_append_left hfront hin)

/-- A text without LF behind it makes no line end. -/
theorem Unbroken.append_right {bs : Bytes} (h : Unbroken bs) {back : Bytes} (hback : 0x0a ∉ back) :
    Unbroken (bs ++ back) := fun hin =>
  h (infix_of_append_right (w := [0x0d]) hback hin)

/-- The lines of the request for a host in one piece are in one piece. -/
theorem unbroken_lines {host : Bytes} (h : Unbroken host) : ∀ l ∈ lines host, Unbroken l := by
  have hfixed : ∀ l ∈ fixedLines, 0x0d ∉ l := by decide
  intro l hl
  simp only [lines, List.mem_cons] at hl
  rcases hl with rfl | rfl | hl
  · exact (h.append_left (by decide)).append_right (by decide)
  · exact h.append_left (by decide)
  · exact unbroken_of_notMem (hfixed l hl)

/-- A byte that does not start a line end goes to the first piece of what stands behind it. -/
theorem splitLines_cons {a b : UInt8} {bs : Bytes} (hab : [a, b] ≠ crlf) {l : Bytes}
    {ls : List Bytes} (h : splitLines (b :: bs) = l :: ls) :
    splitLines (a :: b :: bs) = (a :: l) :: ls := by
  rw [splitLines, if_neg hab, h]

/-- What stands in front of the first line end is the first piece. -/
theorem Unbroken.splitLines_append {l : Bytes} (h : Unbroken l) (rest : Bytes) :
    splitLines (l ++ crlf ++ rest) = l :: splitLines rest := by
  induction l with
  | nil =>
      show splitLines (0x0d :: 0x0a :: rest) = [] :: splitLines rest
      rw [splitLines]
      exact if_pos rfl
  | cons a l ih =>
      have hl : Unbroken l := fun hin => h (hin.trans (List.suffix_cons a l).isInfix)
      cases l with
      | nil => exact splitLines_cons (by simp [crlf]) (ih hl)
      | cons b l =>
          refine splitLines_cons ?_ (ih hl)
          intro hab
          exact h ⟨[], l, by rw [← hab]; rfl⟩

/-- Lines in one piece are what their text is split into, with two empty pieces behind them. -/
theorem splitLines_ofLines {ls : List Bytes} (h : ∀ l ∈ ls, Unbroken l) :
    splitLines (ofLines ls) = ls ++ [[], []] := by
  induction ls with
  | nil => rfl
  | cons l ls ih =>
      rw [ofLines_cons, (h l List.mem_cons_self).splitLines_append,
        ih fun l' hl' => h l' (List.mem_cons_of_mem l hl'), List.cons_append]

/-! ## The first end of the headers -/

/-- The end of the headers stands where it is found. -/
theorem exists_of_headersLength? {bs : Bytes} {n : Nat} (h : headersLength? bs = some n) :
    ∃ a rest, bs = a ++ headersEnd ++ rest ∧ a.length = n := by
  induction bs generalizing n with
  | nil => cases h
  | cons b bs ih =>
      rw [headersLength?] at h
      split at h
      · next hfirst =>
          obtain ⟨rest, hrest⟩ := List.isPrefixOf_iff_prefix.mp hfirst
          cases h
          exact ⟨[], rest, hrest.symm, rfl⟩
      · obtain ⟨m, hm, rfl⟩ := Option.map_eq_some_iff.mp h
        obtain ⟨a, rest, rfl, rfl⟩ := ih hm
        exact ⟨b :: a, rest, rfl, rfl⟩

/-- An end of the headers is found, and none that stands further ahead is passed over. -/
theorem headersLength?_append (a rest : Bytes) :
    ∃ n, headersLength? (a ++ headersEnd ++ rest) = some n ∧ n ≤ a.length := by
  induction a with
  | nil => exact ⟨0, rfl, Nat.le_refl 0⟩
  | cons b a ih =>
      obtain ⟨n, hn, hle⟩ := ih
      show ∃ m, headersLength? (b :: (a ++ headersEnd ++ rest)) = some m ∧ _
      rw [headersLength?]
      split
      · exact ⟨0, rfl, Nat.zero_le _⟩
      · exact ⟨n + 1, by rw [hn]; rfl, Nat.succ_le_succ hle⟩

/-- Where a text ends with the end of the headers, this is the first one exactly if nothing ever
stands behind one. -/
theorem headersLength?_of_suffix {bs : Bytes} (h : headersEnd <:+ bs) :
    ∃ n, headersLength? bs = some n ∧ n + headersEnd.length ≤ bs.length ∧
      (n + headersEnd.length = bs.length ↔ ∀ a rest, bs = a ++ headersEnd ++ rest → rest = []) := by
  obtain ⟨front, hfront⟩ := h
  obtain ⟨n, hn, -⟩ := headersLength?_append front []
  rw [List.append_nil, hfront] at hn
  obtain ⟨a, rest, hbs, hlen⟩ := exists_of_headersLength? hn
  have hcount : bs.length = n + headersEnd.length + rest.length := by
    rw [hbs, List.length_append, List.length_append, hlen]
  refine ⟨n, hn, by omega, ?_, ?_⟩
  · intro hend a' rest' hbs'
    -- the first one is not behind this one, and it is the last
    obtain ⟨m, hm, hle⟩ := headersLength?_append a' rest'
    rw [← hbs', hn] at hm
    obtain rfl := Option.some.inj hm
    have hcount' : bs.length = a'.length + headersEnd.length + rest'.length := by
      rw [hbs', List.length_append, List.length_append]
    exact List.eq_nil_of_length_eq_zero (by omega)
  · intro hall
    rw [hall a rest hbs, List.length_nil] at hcount
    exact hcount.symm

/-! ## The request for a host -/

/-- Nothing stands behind an end of the headers in a request exactly if its host holds none and does
not end in CR LF. -/
theorem forHost_eq_append_iff (host : String) :
    (∀ a rest, forHost host = a ++ headersEnd ++ rest → rest = []) ↔
      ¬ headersEnd <:+: utf8 host ∧ ¬ crlf <:+ utf8 host := by
  constructor
  · intro h
    constructor
    · rintro ⟨x, y, hhost⟩
      have hrest := h (utf8 "GET http://" ++ x)
        (y ++ utf8 "/ HTTP/1.1" ++ crlf ++ ofLines (hostLine (utf8 host) :: fixedLines)) (by
          rw [forHost, lines, ofLines_cons, requestLine]
          simp [← hhost])
      simp [crlf] at hrest
    · rintro ⟨x, hhost⟩
      -- the line end in the host is followed by the one of the header
      have hrest := h (requestLine (utf8 host) ++ crlf ++ utf8 "Host: " ++ x) (ofLines fixedLines) (by
        rw [forHost, lines, ofLines_cons, ofLines_cons, hostLine]
        simp [← hhost, headersEnd])
      exact absurd hrest (by decide)
  · rintro ⟨hin, hstop⟩ a rest he
    exact eq_nil_of_ofLines_eq (fills_lines hin hstop) he

/-- **The lines of the request for any host.** It has seven line ends and twice those of the host,
and it ends with the end of the headers. It is split into the request line, the five headers and two
empty pieces exactly if no line ends in the host; every line end in the host makes two more pieces.
The headers end with the request exactly if the host holds no end of the headers and does not end in
CR LF; for every other host they end earlier. -/
theorem forHost_lines (host : String) :
    lineEnds (forHost host) = 7 + 2 * lineEnds (utf8 host) ∧
      headersEnd <:+ forHost host ∧
      (splitLines (forHost host) =
          ["GET http://" ++ host ++ "/ HTTP/1.1",
            "Host: " ++ host,
            "Cache-Control: max-age=0",
            "Accept: text/html,application/xhtml+xml,application/xml;q=0.9,*/*;q=0.8",
            "User-Agent: Mozilla/5.0 (X11; Linux x86_64) AppleWebKit/537.36 " ++
              "(KHTML, like Gecko) Chrome/29.0.1547.62 Safari/537.36",
            "Accept-Language: en-US,en;q=0.8,zh-CN;q=0.6,zh;q=0.4", "", ""].map utf8 ↔
        Unbroken (utf8 host)) ∧
      (splitLines (forHost host)).length = 8 + 2 * lineEnds (utf8 host) ∧
      ∃ n, headersLength? (forHost host) = some n ∧
        n + headersEnd.length ≤ (forHost host).length ∧
        (n + headersEnd.length = (forHost host).length ↔
          ¬ headersEnd <:+: utf8 host ∧ ¬ crlf <:+ utf8 host) := by
  have hpieces : (splitLines (forHost host)).length = 8 + 2 * lineEnds (utf8 host) := by
    rw [length_splitLines, lineEnds_forHost]
    omega
  have hends : headersEnd <:+ forHost host := headersEnd_suffix_ofLines (List.cons_ne_nil _ _)
  refine ⟨lineEnds_forHost host, hends, ⟨?_, ?_⟩, hpieces, ?_⟩
  · intro hsplit
    rw [hsplit] at hpieces
    have hzero : lineEnds (utf8 host) = 0 := by
      simp only [List.map_cons, List.map_nil, List.length_cons, List.length_nil] at hpieces
      omega
    exact lineEnds_eq_zero_iff.mp hzero
  · intro h
    rw [forHost, splitLines_ofLines (unbroken_lines h)]
    simp only [List.map_cons, List.map_nil, utf8_append]
    rfl
  · rw [← forHost_eq_append_iff]
    exact headersLength?_of_suffix hends

end Request

end RelayProbe
