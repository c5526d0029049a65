import RelayProbe.Proofs.Toml.Quoted
import RelayProbe.Toml.Document

set_option autoImplicit false

/-! # Lines as they are written

The lines that a settings file is made of are read back: a header, and a key with a written text
behind it or with a table between braces that holds one. The parts of the keys are bare names. What
is read remembers where it stood; here it only matters what it says, so each of the last lemmas
gives a line that says it, wherever its parts stand.
-/

namespace RelayProbe

namespace Toml

/-! ## Bare names -/

/-- A name that may stand in a key without marks around it. -/
structure IsBareName (name : List Char) : Prop where
  ne_nil : name ≠ []
  chars : ∀ c ∈ name, isKeyChar c = true

/-- What follows a bare name must not go on with a character of one. -/
def EndsName (rest : Place) : Prop := ∀ c, rest.head? = some c → isKeyChar c = false

/-- The part of a key that a bare name is read as, with what stands behind it. -/
def bareKey (name : List Char) (rest : Place) : Key :=
  ⟨String.ofList name, ⟨name ++ rest, rest⟩⟩

/-- The first character of a bare name is none of those that open something else. -/
theorem IsBareName.exists_cons {name : List Char} (h : IsBareName name) :
    ∃ c cs, name = c :: cs ∧ isBlank c = false ∧
      c ≠ '"' ∧ c ≠ '\'' ∧ c ≠ '[' ∧ c ≠ '#' ∧ c ≠ '\n' ∧ c ≠ '\r' := by
  obtain ⟨c, cs, rfl⟩ := List.exists_cons_of_ne_nil h.ne_nil
  have hc : isKeyChar c = true := h.chars c List.mem_cons_self
  have hother : ∀ d, isKeyChar d = false → c ≠ d := by
    rintro d hd rfl
    rw [hc] at hd
    cases hd
  have hblank : isBlank c = false := by
    simp [isBlank, hother ' ' (by decide), hother '\t' (by decide)]
  exact ⟨c, cs, rfl, hblank, hother _ (by decide), hother _ (by decide), hother _ (by decide),
    hother _ (by decide), hother _ (by decide), hother _ (by decide)⟩

theorem IsBareName.skipSpace_append {name : List Char} (h : IsBareName name) (rest : Place) :
    skipSpace (name ++ rest) = name ++ rest := by
  obtain ⟨c, cs, rfl, hblank, -⟩ := h.exists_cons
  rw [skipSpace, List.cons_append, List.dropWhile_cons_of_neg (by simp [hblank])]

theorem keyPart_bare {name : List Char} (hname : IsBareName name) {rest : Place}
    (hrest : EndsName rest) : keyPart (name ++ rest) = .ok (bareKey name rest, rest) := by
  have hbehind : rest.takeWhile isKeyChar = [] := by
    cases rest with
    | nil => rfl
    | cons c r => exact List.takeWhile_cons_of_neg (by simp [hrest c rfl])
  have htake : (name ++ rest).takeWhile isKeyChar = name := by
    rw [List.takeWhile_append_of_pos hname.chars, hbehind, List.append_nil]
  obtain ⟨c, cs, hcs, -, hmark, hapostrophe, -⟩ := hname.exists_cons
  unfold keyPart
  split
  · next r hs =>
      rw [hcs] at hs
      exact (hmark (List.cons.inj hs).1).elim
  · next r hs =>
      rw [hcs] at hs
      exact (hapostrophe (List.cons.inj hs).1).elim
  · simp only [htake, List.drop_left]
    rw [if_neg hname.ne_nil, bareKey]

/-- A bare name with no point behind it is the last part of a key. -/
theorem dottedKey_last {name : List Char} (hname : IsBareName name) {s rest : Place}
    (hs : skipSpace s = name ++ rest) (hrest : EndsName rest)
    (hpoint : (skipSpace rest).head? ≠ some '.') (n : Nat) :
    dottedKey (n + 1) s = .ok (⟨[], bareKey name rest⟩, skipSpace rest) := by
  rw [dottedKey, hs, keyPart_bare hname hrest]
  simp only
  split
  · next r hr =>
      rw [hr] at hpoint
      exact (hpoint rfl).elim
  · rfl

/-- A bare name with a point behind it leads to a table. -/
theorem dottedKey_point {name : List Char} (hname : IsBareName name) {s rest : Place}
    (hs : skipSpace s = name ++ '.' :: rest) (n : Nat) :
    dottedKey (n + 1) s =
      (dottedKey n rest).map fun t => (t.1.behind (bareKey name ('.' :: rest)), t.2) := by
  have hends : EndsName ('.' :: rest) := by
    intro c hc
    obtain rfl := Option.some.inj hc
    decide
  rw [dottedKey, hs, keyPart_bare hname hends]
  rfl

/-! ## Values -/

/-- A written text is read as a string, however deep it is nested. -/
theorem value_written {cs ws : List Char} (h : Written cs ws) {rest : Place}
    (hrest : rest.head? ≠ some '"') (n : Nat) :
    ∃ span, (value n).run ('"' :: (ws ++ '"' :: rest)) =
      .ok (.scalar span (.string (String.ofList cs)), rest) := by
  refine ⟨⟨'"' :: (ws ++ '"' :: rest), rest⟩, ?_⟩
  have hread : ∀ read, valueWith read ('"' :: (ws ++ '"' :: rest)) =
      .ok (.scalar ⟨'"' :: (ws ++ '"' :: rest), rest⟩ (.string (String.ofList cs)), rest) := by
    intro read
    rw [valueWith, quoted_written h hrest]
    rfl
  cases n with
  | zero => exact hread none
  | succ n => exact hread (some (value n))

/-- Behind a name, an equals sign and a value stand between blanks. -/
def assigned (rest : Place) : Place := ' ' :: '=' :: ' ' :: rest

theorem endsName_assigned (rest : Place) : EndsName (assigned rest) := by
  intro c hc
  obtain rfl := Option.some.inj hc
  decide

/-- A bare name with a value is an entry. -/
theorem entry_bare {name : List Char} (hname : IsBareName name) {read : Reader} {s rest r : Place}
    {v : Item} (hs : skipSpace s = name ++ assigned rest) (hrest : skipSpace rest = rest)
    (hv : read.run rest = .ok (v, r)) :
    ∃ k, k.name = String.ofList name ∧ entry read s = .ok ((⟨[], k⟩, v), r) := by
  refine ⟨bareKey name (assigned rest), rfl, ?_⟩
  have hkey : dottedKey partLimit s =
      .ok (⟨[], bareKey name (assigned rest)⟩, '=' :: ' ' :: rest) :=
    dottedKey_last hname hs (endsName_assigned rest) (by simp [assigned, skipSpace, isBlank]) 78
  have hspace : skipSpace (' ' :: rest) = rest := hrest
  rw [entry, hkey]
  simp only [hspace, hv]
  rfl

/-- Two bare names with a point between them and a value are an entry. -/
theorem entry_dotted {outer name : List Char} (houter : IsBareName outer) (hname : IsBareName name)
    {read : Reader} {rest r : Place} {v : Item} (hrest : skipSpace rest = rest)
    (hv : read.run rest = .ok (v, r)) :
    ∃ ko k, ko.name = String.ofList outer ∧ k.name = String.ofList name ∧
      entry read (outer ++ '.' :: (name ++ assigned rest)) = .ok ((⟨[ko], k⟩, v), r) := by
  refine ⟨bareKey outer ('.' :: (name ++ assigned rest)), bareKey name (assigned rest), rfl, rfl, ?_⟩
  have hlast : dottedKey 78 (name ++ assigned rest) =
      .ok (⟨[], bareKey name (assigned rest)⟩, '=' :: ' ' :: rest) :=
    dottedKey_last hname (hname.skipSpace_append _) (endsName_assigned rest)
      (by simp [assigned, skipSpace, isBlank]) 77
  have hkey := dottedKey_point houter (houter.skipSpace_append ('.' :: (name ++ assigned rest))) 78
  rw [hlast] at hkey
  have hspace : skipSpace (' ' :: rest) = rest := hrest
  rw [entry, show partLimit = 78 + 1 from rfl, hkey]
  simp only [Except.map, hspace, hv]
  rfl

/-- A table between braces that holds one entry. -/
theorem braced_single {read : Reader} {start s r rest : Place} {k : Key} {v : Item}
    (hkey : startsKey s = true) (hentry : entry read s = .ok ((⟨[], k⟩, v), r))
    (hclose : skipSpace r = '}' :: rest) :
    braced read start s = .ok (.table ⟨start, rest⟩ .inline [(k.name, v)], rest) := by
  have hentries : entries read s = .ok ([(⟨[], k⟩, v)], '}' :: rest) := by
    rw [entries]
    split
    · next p hp =>
        rw [hentry] at hp
        cases hp
    · next e r' he =>
        obtain ⟨rfl, rfl⟩ : ((⟨[], k⟩, v) : DottedKey × Item) = e ∧ r = r' := by simp_all
        split
        · next r' hcomma =>
            rw [hclose] at hcomma
            cases hcomma
        · rw [hclose]
  simp only [braced, if_pos hkey, hentries]
  rfl

/-- A table between braces that holds a written text under a name. -/
theorem value_braced {name cs ws : List Char} (hname : IsBareName name) (h : Written cs ws)
    (rest : Place) (n : Nat) :
    ∃ span inner, (value (n + 1)).run
        ('{' :: ' ' :: (name ++ assigned ('"' :: (ws ++ '"' :: ' ' :: '}' :: rest)))) =
      .ok (.table span .inline [(String.ofList name, .scalar inner (.string (String.ofList cs)))],
        rest) := by
  have hnoMark : (' ' :: '}' :: rest).head? ≠ some '"' := by simp
  obtain ⟨inner, hv⟩ := value_written h hnoMark n
  have hs : skipSpace (' ' :: (name ++ assigned ('"' :: (ws ++ '"' :: ' ' :: '}' :: rest)))) =
      name ++ assigned ('"' :: (ws ++ '"' :: ' ' :: '}' :: rest)) := hname.skipSpace_append _
  obtain ⟨k, hk, hentry⟩ := entry_bare hname hs rfl hv
  have hstarts : startsKey (' ' :: (name ++ assigned ('"' :: (ws ++ '"' :: ' ' :: '}' :: rest)))) =
      true := by
    rw [startsKey, hs]
    obtain ⟨c, cs, rfl, -⟩ := hname.exists_cons
    simp [hname.chars c List.mem_cons_self]
  rw [← hk]
  exact ⟨_, inner, braced_single hstarts hentry rfl⟩

/-! ## Lines -/

theorem endOfLine_newline (rest : Place) : endOfLine ('\n' :: rest) = .ok rest := rfl

/-- A line with an entry on it. -/
theorem line_entry {name : List Char} (hname : IsBareName name) {s rest : Place}
    {e : DottedKey × Item}
    (hentry : entry (value nestingLimit) (name ++ s) = .ok (e, '\n' :: rest)) :
    line (name ++ s) = .ok (some (.entry e.1 e.2), rest) := by
  have hstatement : statement (name ++ s) = .ok (some (.entry e.1 e.2), '\n' :: rest) := by
    obtain ⟨c, cs, rfl, -, -, -, hbracket, hhash, hlf, hcr⟩ := hname.exists_cons
    rw [List.cons_append] at hentry ⊢
    rw [statement, hentry]
    · rfl
    all_goals simp_all
  rw [line, hname.skipSpace_append, hstatement]
  simp only [endOfLine_newline]
  rfl

/-- A line with the header of a table on it. -/
theorem line_header {name : List Char} (hname : IsBareName name) (rest : Place) :
    ∃ k span, k.name = String.ofList name ∧
      line ('[' :: (name ++ ']' :: '\n' :: rest)) = .ok (some (.table ⟨[], k⟩ span), rest) := by
  have hends : EndsName (']' :: '\n' :: rest) := by
    intro c hc
    obtain rfl := Option.some.inj hc
    decide
  have hkey := dottedKey_last hname (hname.skipSpace_append (']' :: '\n' :: rest)) hends
    (by simp [skipSpace, isBlank]) 78
  refine ⟨bareKey name (']' :: '\n' :: rest),
    ⟨'[' :: (name ++ ']' :: '\n' :: rest), '\n' :: rest⟩, rfl, ?_⟩
  have hheader : ∀ start, header start (name ++ ']' :: '\n' :: rest) =
      .ok (.table ⟨[], bareKey name (']' :: '\n' :: rest)⟩ ⟨start, '\n' :: rest⟩,
        '\n' :: rest) := by
    intro start
    obtain ⟨c, cs, rfl, -, -, -, hbracket, -⟩ := hname.exists_cons
    unfold header
    split
    · next s' hs => exact (hbracket (List.cons.inj hs).1).elim
    · rw [show partLimit = 78 + 1 from rfl, hkey]
      rfl
  have hspace : skipSpace ('[' :: (name ++ ']' :: '\n' :: rest)) =
      '[' :: (name ++ ']' :: '\n' :: rest) := rfl
  rw [line, hspace, statement, hheader]
  rfl

theorem lines_nil (d : Draft) : lines d [] = .ok d := by
  rw [lines, dif_pos rfl]

/-- A line whose statement can be carried out is followed by the next lines. -/
theorem lines_of_line {d d' : Draft} {s r : Place} {st : Statement} (hs : s ≠ [])
    (hline : line s = .ok (some st, r)) (hadd : d.add st = some d') : lines d s = lines d' r := by
  rw [lines, dif_neg hs]
  split
  · simp_all
  · simp_all
  · next st' r' hline' =>
      obtain ⟨rfl, rfl⟩ : st = st' ∧ r = r' := by simp_all
      split
      · simp_all
      · next d'' hadd' =>
          obtain rfl : d' = d'' := by simp_all
          rfl

end Toml

end RelayProbe
