import RelayProbe.Proofs.Settings.File
import RelayProbe.Proofs.Toml.Line
import RelayProbe.Settings.Layout

set_option autoImplicit false

/-! # Settings files are read back

A settings file that is written section by section, each in one of the layouts, gives the settings
that were written (`parse_document`). A section adds one entry to the document, a table that holds
the text of the section, whatever its layout (`lines_section`); only its place and the way in which
it was made differ, and these do not matter to the one who looks for the text.
-/

namespace RelayProbe

namespace Toml

namespace Draft

variable {d : Draft} {k outer : Key} {v : Item} {span : Span}

/-! ## Carrying out one statement -/

/-- An entry at the top of a document. -/
theorem add_entry (hopened : d.opened = []) (hfresh : d.root.lookup k.name = none) :
    d.add (.entry ⟨[], k⟩ v) = some ⟨d.root ++ [(k.name, v)], []⟩ := by
  simp [add, changeRoot, hopened, changeAt, addEntry, hfresh, Item.stretchedTo, Item.entries]

/-- An entry with a dotted key makes a table of its own. -/
theorem add_dotted (hopened : d.opened = []) (hfresh : d.root.lookup outer.name = none) :
    d.add (.entry ⟨[outer], k⟩ v) =
      some ⟨d.root ++ [(outer.name, .table outer.span .dotted [(k.name, v)])], []⟩ := by
  simp [add, changeRoot, hopened, changeAt, addEntry, hfresh, Item.stretchedTo, Item.entries]

/-- The header of a table that is not there yet. -/
theorem add_header (hfresh : d.root.lookup k.name = none) :
    d.add (.table ⟨[], k⟩ span) = some ⟨d.root ++ [(k.name, .table span .header [])], [k]⟩ := by
  simp [add, changeRoot, openTable, changeAt, hfresh, Item.entries]

/-- The first entry below a header. -/
theorem add_below_header {es : Entries} (hfresh : es.lookup outer.name = none) :
    add ⟨es ++ [(outer.name, .table span .header [])], [outer]⟩ (.entry ⟨[], k⟩ v) =
      some ⟨es ++ [(outer.name, .table ⟨span.start, v.span.stop⟩ .header [(k.name, v)])],
        [outer]⟩ := by
  have hlookup : List.lookup outer.name (es ++ [(outer.name, .table span .header [])]) =
      some (.table span .header []) := by
    simp [List.lookup_append, hfresh]
  have hreplace := Entries.replace_append_last hfresh (.table span .header [])
    (.table ⟨span.start, v.span.stop⟩ .header [(k.name, v)])
  simp [add, changeRoot, changeAt, addEntry, Item.passesHeader, Item.changeTable,
    Item.stretchedTo, Item.entries, hlookup, hreplace]

end Draft

end Toml

open Toml

/-! ## One section -/

theorem Section.isBareName_name (s : Section) : IsBareName s.name.toList := by
  cases s <;> exact ⟨by decide, by simp [Section.name, isKeyChar]⟩

theorem Section.isBareName_field (s : Section) : IsBareName s.field.toList := by
  cases s <;> exact ⟨by decide, by simp [Section.field, isKeyChar]⟩

namespace FileSettings

/-- The lines of a section with those behind them. -/
theorem Layout.lines_append (l : Layout) (s : Section) (written : List Char) (rest : Place) :
    l.lines s written ++ rest =
      match l with
      | .header =>
          '[' :: (s.name.toList ++ ']' :: '\n' :: (s.field.toList ++
            assigned ('"' :: (written ++ '"' :: '\n' :: rest))))
      | .dottedKey =>
          s.name.toList ++ '.' :: (s.field.toList ++
            assigned ('"' :: (written ++ '"' :: '\n' :: rest)))
      | .inlineTable =>
          s.name.toList ++ assigned ('{' :: ' ' :: (s.field.toList ++
            assigned ('"' :: (written ++ '"' :: ' ' :: '}' :: '\n' :: rest)))) := by
  have htoString : ∀ t : String, toString t = t := fun t => rfl
  cases l <;> simp [lines, assigned, htoString]

/-- An entry of a document that is a written section: a table of any kind that holds its text. -/
def IsSection (e : String × Item) (w : WrittenSection) : Prop :=
  ∃ span form inner,
    e = (w.sec.name, .table span form [(w.sec.field, .scalar inner (.string w.text))])

/-- **One section**: reading its lines adds an entry with its text to the document. Only behind a
header a table is left open. -/
theorem lines_section (w : WrittenSection) {d : Draft} (hfresh : d.root.lookup w.sec.name = none)
    (hopened : w.layout = .header ∨ d.opened = []) (rest : Place) :
    ∃ e opened, IsSection e w ∧ (w.layout = .header ∨ opened = []) ∧
      Toml.lines d (w.lines ++ rest) = Toml.lines ⟨d.root ++ [e], opened⟩ rest := by
  have hname := w.sec.isBareName_name
  have hfield := w.sec.isBareName_field
  have hnoMark : ('\n' :: rest).head? ≠ some '"' := by simp
  obtain ⟨inner, hvalue⟩ := value_written w.isWritten hnoMark nestingLimit
  rw [String.ofList_toList] at hvalue
  rw [WrittenSection.lines, Layout.lines_append]
  cases hlayout : w.layout with
  | header =>
      -- the header opens a table, and the entry below it belongs to it
      obtain ⟨kt, span, hkt, htable⟩ := line_header hname (w.sec.field.toList ++
        assigned ('"' :: (w.written ++ '"' :: '\n' :: rest)))
      obtain ⟨k, hk, hentry⟩ := entry_bare hfield (hfield.skipSpace_append _) rfl hvalue
      rw [String.ofList_toList] at hkt hk
      rw [← hkt] at hfresh
      refine ⟨_, [kt], ⟨⟨span.start, inner.stop⟩, .header, inner, rfl⟩, Or.inl rfl, ?_⟩
      rw [lines_of_line (List.cons_ne_nil _ _) htable (Draft.add_header hfresh),
        lines_of_line (by simp [hfield.ne_nil]) (line_entry hfield hentry)
          (Draft.add_below_header hfresh), hkt, hk]
      rfl
  | dottedKey =>
      have hopen : d.opened = [] := hopened.resolve_left (by simp [hlayout])
      obtain ⟨ko, k, hko, hk, hentry⟩ := entry_dotted hname hfield rfl hvalue
      rw [String.ofList_toList] at hko hk
      rw [← hko] at hfresh
      refine ⟨_, [], ⟨ko.span, .dotted, inner, rfl⟩, Or.inr rfl, ?_⟩
      rw [lines_of_line (by simp) (line_entry hname hentry) (Draft.add_dotted hopen hfresh), hko, hk]
  | inlineTable =>
      have hopen : d.opened = [] := hopened.resolve_left (by simp [hlayout])
      obtain ⟨span, inner, htable⟩ := value_braced hfield w.isWritten ('\n' :: rest) 78
      obtain ⟨k, hk, hentry⟩ := entry_bare hname (hname.skipSpace_append _) rfl htable
      rw [String.ofList_toList] at hk
      rw [← hk] at hfresh
      refine ⟨_, [], ⟨span, .inline, inner, rfl⟩, Or.inr rfl, ?_⟩
      rw [lines_of_line (by simp [hname.ne_nil]) (line_entry hname hentry)
        (Draft.add_entry hopen hfresh), hk, String.ofList_toList, String.ofList_toList]

/-! ## A whole document -/

/-- The lines of some sections add an entry for each of them to the document. -/
theorem lines_sections {ws : List WrittenSection} (hws : WellOrdered ws) {d : Draft}
    (hfresh : ∀ w ∈ ws, d.root.lookup w.sec.name = none)
    (hopened : ∀ w ∈ ws, w.layout = .header ∨ d.opened = []) :
    ∃ es opened, List.Forall₂ IsSection es ws ∧
      Toml.lines d (ws.flatMap (·.lines)) = .ok ⟨d.root ++ es, opened⟩ := by
  induction ws generalizing d with
  | nil =>
      refine ⟨[], d.opened, .nil, ?_⟩
      rw [List.flatMap_nil, lines_nil, List.append_nil]
  | cons w ws ih =>
      obtain ⟨hdistinct, hheaders⟩ := hws
      rw [List.map_cons, List.nodup_cons] at hdistinct
      rw [List.pairwise_cons] at hheaders
      obtain ⟨e, opened, he, hlayout, hlines⟩ := lines_section w (hfresh w List.mem_cons_self)
        (hopened w List.mem_cons_self) (ws.flatMap (·.lines))
      -- the new entry has a name of its own, and a header is followed by headers only
      have hfresh' : ∀ x ∈ ws, (d.root ++ [e]).lookup x.sec.name = none := by
        intro x hx
        obtain ⟨span, form, inner, rfl⟩ := he
        have hne : x.sec.name ≠ w.sec.name := by
          intro hname
          exact hdistinct.1 (Section.name_injective hname ▸ List.mem_map.mpr ⟨x, hx, rfl⟩)
        rw [List.lookup_append, hfresh x (List.mem_cons_of_mem w hx)]
        simp [List.lookup_cons, beq_false_of_ne hne]
      have hopened' : ∀ x ∈ ws, x.layout = .header ∨ opened = [] := by
        intro x hx
        exact hlayout.imp_left (hheaders.1 x hx)
      obtain ⟨es, opened', hes, hrest⟩ := ih ⟨hdistinct.2, hheaders.2⟩
        (d := ⟨d.root ++ [e], opened⟩) hfresh' hopened'
      refine ⟨e :: es, opened', .cons he hes, ?_⟩
      rw [List.flatMap_cons, hlines, hrest, List.append_assoc]
      rfl

/-- What the text of a section is does not depend on how it is laid out. -/
theorem addEntry_section {e : String × Item} {w : WrittenSection} (h : IsSection e w)
    (s : FileSettings) : addEntry s e = .ok (s.set w.sec w.text) := by
  obtain ⟨span, form, inner, rfl⟩ := h
  simp [addEntry, Section.ofName_name, readSection, readText, Except.map]

/-- Entries that are sections give the texts of these, one after the other. -/
theorem foldlM_sections {es : Entries} {ws : List WrittenSection}
    (h : List.Forall₂ IsSection es ws) (s : FileSettings) :
    es.foldlM addEntry s = .ok (ws.foldl (fun s w => s.set w.sec w.text) s) := by
  induction h generalizing s with
  | nil => rfl
  | cons he _ ih =>
      rw [List.foldlM_cons, addEntry_section he]
      exact ih _

/-- Entries that are sections hold their texts, each under the name of its section. -/
theorem holds_sections {es : Entries} {ws : List WrittenSection}
    (h : List.Forall₂ IsSection es ws) (sec : Section) :
    Holds sec (es.lookup sec.name) ((ws.find? (·.sec = sec)).map (·.text)) := by
  induction h with
  | nil => exact .absent
  | @cons e w es ws he _ ih =>
      obtain ⟨span, form, inner, rfl⟩ := he
      rw [Entries.lookup_cons]
      by_cases hsec : w.sec = sec
      · subst hsec
        rw [if_pos rfl, List.find?_cons_of_pos (by simp)]
        exact .entry List.lookup_cons_self
      · have hname : w.sec.name ≠ sec.name := fun hname => hsec (Section.name_injective hname)
        rw [if_neg hname, List.find?_cons_of_neg (by simpa using hsec)]
        exact ih

/-- A document of sections does not start with a byte order mark. -/
theorem skipMark_sections (ws : List WrittenSection) :
    skipMark (ws.flatMap (·.lines)) = ws.flatMap (·.lines) := by
  cases ws with
  | nil => rfl
  | cons w ws =>
      rw [List.flatMap_cons, WrittenSection.lines, Layout.lines_append]
      cases w.layout <;> cases w.sec <;> rfl

/-- A document of sections is read as an entry for each of them. -/
theorem parse_sections {ws : List WrittenSection} (h : WellOrdered ws) :
    ∃ es, Toml.parse (document ws) = .ok es ∧ List.Forall₂ IsSection es ws := by
  obtain ⟨es, opened, hes, hlines⟩ := lines_sections h (d := {}) (fun w _ => rfl)
    fun w _ => Or.inr rfl
  refine ⟨es, ?_, hes⟩
  rw [Toml.parse, document, String.toList_ofList, skipMark_sections, hlines]
  rfl

theorem parse_document_eq {ws : List WrittenSection} (h : WellOrdered ws) :
    FileSettings.parse (document ws) = .ok (ofSections ws) := by
  obtain ⟨es, hparse, hes⟩ := parse_sections h
  rw [parse_of_entries hparse, ofEntries, foldlM_sections hes]
  rfl

/-- A document of sections gives their texts. -/
theorem gives_document {ws : List WrittenSection} (h : WellOrdered ws) :
    Gives (document ws) fun sec => (ws.find? (·.sec = sec)).map (·.text) := by
  obtain ⟨es, hparse, hes⟩ := parse_sections h
  exact ⟨es, hparse, holds_sections hes⟩

/-- Different sections have their own texts. -/
theorem get_ofSections_of_mem {ws : List WrittenSection} (h : (ws.map (·.sec)).Nodup)
    {w : WrittenSection} (hw : w ∈ ws) : (ofSections ws).get w.sec = w.text := by
  have hfind : ws.find? (·.sec = w.sec) = some w := by
    cases hf : ws.find? (·.sec = w.sec) with
    | none => simpa using List.find?_eq_none.mp hf w hw
    | some x =>
        have hsec : x.sec = w.sec := by simpa using List.find?_some hf
        rw [List.inj_on_of_nodup_map h (List.mem_of_find?_eq_some hf) hw hsec]
  rw [get_ofSections h, hfind]
  rfl

/-- A section that is not there has its default. -/
theorem get_ofSections_of_notMem {ws : List WrittenSection} (h : (ws.map (·.sec)).Nodup)
    {sec : Section} (hsec : sec ∉ ws.map (·.sec)) : (ofSections ws).get sec = sec.default := by
  have hfind : ws.find? (·.sec = sec) = none := by
    rw [List.find?_eq_none]
    intro x hx hxs
    exact hsec (List.mem_map.mpr ⟨x, hx, of_decide_eq_true hxs⟩)
  rw [get_ofSections h, hfind]
  rfl

/-- **A settings file is read back.** Whatever the texts of the sections that are there, in which
order they stand, how each is laid out and in which of its written forms each text stands: if those
without a header stand in front of those with one, the document is accepted. The settings are then
the texts that were written, and the defaults of the sections that are not there. -/
theorem parse_document {ws : List WrittenSection} (h : WellOrdered ws) :
    ∃ s, FileSettings.parse (document ws) = .ok s ∧ (∀ w ∈ ws, s.get w.sec = w.text) ∧
      ∀ sec, sec ∉ ws.map (·.sec) → s.get sec = sec.default :=
  ⟨ofSections ws, parse_document_eq h, fun _ hw => get_ofSections_of_mem h.distinct hw,
    fun _ hsec => get_ofSections_of_notMem h.distinct hsec⟩

/-- Texts that look like a document themselves: a dotted key in front of a header, and no target. -/
theorem parse_document_two_sections :
    let level := WrittenSection.mk .logging .dottedKey "\"\n[request]\\"
      (write "\"\n[request]\\".toList) (written_write _)
    let host := WrittenSection.mk .request .header "" [] .nil
    WellOrdered [level, host] ∧
      ∃ s, FileSettings.parse (document [level, host]) = .ok s ∧
        s.level = "\"\n[request]\\" ∧ s.remoteHost = "" ∧ s.target = "127.0.0.1:7077" := by
  intro level host
  have hordered : WellOrdered [level, host] := by
    refine ⟨by decide, List.pairwise_pair.mpr ?_⟩
    exact fun _ => rfl
  obtain ⟨s, hparse, hthere, habsent⟩ := parse_document hordered
  exact ⟨hordered, s, hparse, hthere level (by simp), hthere host (by simp),
    habsent .target (by decide)⟩

end FileSettings

end RelayProbe
