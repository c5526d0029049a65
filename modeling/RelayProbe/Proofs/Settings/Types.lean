import RelayProbe.Proofs.Settings.File
import RelayProbe.Proofs.Toml.Line
import RelayProbe.Proofs.Toml.Standing
import RelayProbe.Settings

set_option autoImplicit false

/-! # Which documents are settings files

Each section is to be a table whose own entry, if it has one, is a text, or an array whose first
element, if it has one, is a text (`WellTyped`). Anything else is a misfit, and a misfit says what was
found and what was wanted in its place (`Misfit`). Reading goes through the entries of the document in
their order, which is the order in which they stand, and stops at the first misfit
(`exists_misfit_of_error`). So a document whose sections are all well typed is accepted, and of the
others the first ill-typed section is reported (`parse_by_types`).
-/

namespace RelayProbe

open Toml

namespace FileSettings

/-! ## The types of one section -/

/-- A text. -/
def IsText (item : Item) : Prop := ∃ span text, item = .scalar span (.string text)

/-- What stands in a document for a section, if anything does, is of the type of that section. -/
inductive WellTyped (sec : Section) : Option Item → Prop
  | absent : WellTyped sec none
  | table {span form es} (own : ∀ item, es.lookup sec.field = some item → IsText item) :
      WellTyped sec (some (.table span form es))
  | array {span form items} (front : ∀ item, items.head? = some item → IsText item) :
      WellTyped sec (some (.array span form items))

/-- What is wrong with an item that stands in a document for a section: which item was found, and what
was wanted in its place. -/
inductive Misfit (sec : Section) : Item → IllTyped → Prop
  | own {span form es found} (h : es.lookup sec.field = some found) (hne : ¬ IsText found) :
      Misfit sec (.table span form es) ⟨found, .text⟩
  | front {span form found items} (hne : ¬ IsText found) :
      Misfit sec (.array span form (found :: items)) ⟨found, .text⟩
  | whole {span value} (hne : value ≠ .dateTime) :
      Misfit sec (.scalar span value) ⟨.scalar span value, .table sec⟩

theorem isText_iff_exists_readText {item : Item} : IsText item ↔ ∃ text, readText item = .ok text := by
  constructor
  · rintro ⟨span, text, rfl⟩
    exact ⟨text, rfl⟩
  · rintro ⟨text, h⟩
    obtain ⟨span, rfl⟩ := readText_eq_ok_iff.mp h
    exact ⟨span, text, rfl⟩

/-- What is no text is reported as such. -/
theorem readText_eq_error_iff {item : Item} {e : IllTyped} :
    readText item = .error e ↔ ¬ IsText item ∧ e = ⟨item, .text⟩ := by
  rw [isText_iff_exists_readText]
  cases h : readText item with
  | ok text => simp
  | error e' =>
      have he : e' = ⟨item, .text⟩ := by
        unfold readText at h
        split at h
        · cases h
        · exact (Except.error.inj h).symm
      simp [he, eq_comm]

/-- A section is not read exactly when it is a misfit, and what is reported is what is wrong. -/
theorem readSection_eq_error_iff {sec : Section} {item : Item} {e : IllTyped} :
    readSection sec item = .error e ↔ Misfit sec item e := by
  constructor
  · intro h
    unfold readSection at h
    split at h
    · split at h
      · cases h
      · next found hfound =>
          obtain ⟨hne, rfl⟩ := readText_eq_error_iff.mp h
          exact .own hfound hne
    · cases h
    · obtain ⟨hne, rfl⟩ := readText_eq_error_iff.mp h
      exact .front hne
    · cases h
    · next htable harray hfront hdate =>
        obtain rfl := (Except.error.inj h).symm
        cases item with
        | scalar span value =>
            refine .whole ?_
            rintro rfl
            exact hdate span rfl
        | array span form items =>
            cases items with
            | nil => exact (harray span form rfl).elim
            | cons found items => exact (hfront span form found items rfl).elim
        | table span form es => exact (htable span form es rfl).elim
  · intro h
    cases h with
    | own hfound hne =>
        rw [readSection, hfound]
        exact readText_eq_error_iff.mpr ⟨hne, rfl⟩
    | front hne => exact readText_eq_error_iff.mpr ⟨hne, rfl⟩
    | @whole span value hne =>
        cases value with
        | dateTime => exact (hne rfl).elim
        | _ => rfl

/-- An item that is no date is of the type of a section, or it is a misfit. -/
theorem not_wellTyped_iff {sec : Section} {item : Item} (hdate : ∀ span, item ≠ .scalar span .dateTime) :
    ¬ WellTyped sec (some item) ↔ ∃ e, Misfit sec item e := by
  constructor
  · intro h
    cases item with
    | scalar span value =>
        refine ⟨_, .whole ?_⟩
        rintro rfl
        exact hdate span rfl
    | array span form items =>
        cases items with
        | nil => exact (h (.array fun _ hfront => nomatch hfront)).elim
        | cons found items =>
            refine ⟨_, .front fun htext => h (.array fun item hfront => ?_)⟩
            rwa [← Option.some.inj hfront]
    | table span form es =>
        cases hfound : es.lookup sec.field with
        | none => exact (h (.table fun item hitem => nomatch hfound.symm.trans hitem)).elim
        | some found =>
            refine ⟨_, .own hfound fun htext => h (.table fun item hitem => ?_)⟩
            rwa [← Option.some.inj (hfound.symm.trans hitem)]
  · rintro ⟨e, hmisfit⟩ h
    cases hmisfit with
    | own hfound hne =>
        cases h with
        | table own => exact hne (own _ hfound)
    | front hne =>
        cases h with
        | array front => exact hne (front _ rfl)
    | whole => cases h

/-- A section is of its type exactly when it can be read. -/
theorem wellTyped_iff_readSection {sec : Section} {item : Item}
    (hdate : ∀ span, item ≠ .scalar span .dateTime) :
    WellTyped sec (some item) ↔ ∃ text, readSection sec item = .ok text := by
  have hmisfit : ¬ WellTyped sec (some item) ↔ ∃ e, Misfit sec item e := not_wellTyped_iff hdate
  simp only [← readSection_eq_error_iff] at hmisfit
  cases h : readSection sec item with
  | ok text => simpa [h] using hmisfit
  | error e => simpa [h] using hmisfit

/-! ## The first misfit -/

/-- Reading an entry fails when it is a section that cannot be read. -/
theorem addEntry_eq_error_iff {s : FileSettings} {name : String} {item : Item} {e : IllTyped} :
    addEntry s (name, item) = .error e ↔
      ∃ sec : Section, name = sec.name ∧ readSection sec item = .error e := by
  rw [addEntry]
  cases hname : Section.ofName? name with
  | none =>
      refine iff_of_false (by rintro ⟨⟩) ?_
      rintro ⟨sec, rfl, -⟩
      rw [sec.ofName_name] at hname
      cases hname
  | some own =>
      obtain rfl := Section.ofName_eq_some_iff.mp hname
      show (readSection own item).map (s.set own) = .error e ↔ _
      constructor
      · intro h
        refine ⟨own, rfl, ?_⟩
        cases hread : readSection own item with
        | ok text =>
            rw [hread] at h
            cases h
        | error e' =>
            rw [hread] at h
            exact congrArg _ (Except.error.inj h)
      · rintro ⟨sec, hsec, hread⟩
        obtain rfl := Section.name_injective hsec
        rw [hread]
        rfl

/-- Reading stops at a section that cannot be read, and all sections in front of it can be. -/
theorem exists_misfit_of_error {es : Entries} {s : FileSettings} {e : IllTyped}
    (h : es.foldlM addEntry s = .error e) :
    ∃ (sec : Section) (item : Item) (before after : Entries),
      es = before ++ (sec.name, item) :: after ∧ Misfit sec item e ∧
        ∀ (other : Section) item', (other.name, item') ∈ before →
          ∃ text, readSection other item' = .ok text := by
  induction es generalizing s with
  | nil => cases h
  | cons first es ih =>
      obtain ⟨name, item⟩ := first
      rw [List.foldlM_cons] at h
      cases hfirst : addEntry s (name, item) with
      | error e' =>
          rw [hfirst] at h
          obtain rfl : e' = e := Except.error.inj h
          obtain ⟨sec, rfl, hread⟩ := addEntry_eq_error_iff.mp hfirst
          exact ⟨sec, item, [], es, rfl, readSection_eq_error_iff.mp hread, fun _ _ hmem => nomatch hmem⟩
      | ok s' =>
          rw [hfirst] at h
          obtain ⟨sec, found, before, after, rfl, hmisfit, hbefore⟩ := ih h
          refine ⟨sec, found, (name, item) :: before, after, rfl, hmisfit, ?_⟩
          intro other item' hmem
          rcases List.mem_cons.mp hmem with heq | hmem
          · obtain ⟨rfl, rfl⟩ := Prod.mk.inj heq
            have hread := addEntry_eq_ok_iff.mp hfirst other
            rw [if_pos rfl] at hread
            exact ⟨_, hread⟩
          · exact hbefore other item' hmem

/-! ## A whole document -/

variable {text : String} {es : Entries}

/-- An entry of a document that does not stand in front of another one stands behind it. -/
theorem standsAt_lt {name other : String} {item item' : Item} {before after : Entries}
    (h : Toml.parse text = .ok (before ++ (name, item) :: after))
    (hmem : (other, item') ∈ before ++ (name, item) :: after) (hne : other ≠ name)
    (hnot : (other, item') ∉ before) : standsAt text name < standsAt text other := by
  have hbehind : (other, item') ∈ after := by
    rcases List.mem_append.mp hmem with hmem | hmem
    · exact (hnot hmem).elim
    · rcases List.mem_cons.mp hmem with heq | hmem
      · exact (hne (Prod.mk.inj heq).1).elim
      · exact hmem
  have hpairs := pairwise_standsAt_parse h
  rw [Entries.names, List.map_append, List.map_cons, List.pairwise_append] at hpairs
  exact (List.pairwise_cons.mp hpairs.2.1).1 other (List.mem_map.mpr ⟨_, hbehind, rfl⟩)

/-- In a document without dates for sections, nothing that stands for a section is one. -/
theorem ne_dateTime_of_lookup
    (hdate : ∀ (sec : Section) span, es.lookup sec.name ≠ some (.scalar span .dateTime))
    {sec : Section} {item : Item} (h : es.lookup sec.name = some item) :
    ∀ span, item ≠ .scalar span .dateTime := by
  rintro span rfl
  exact hdate sec span h

/-- A document that is not accepted has a misfit, and this is the first one. -/
theorem exists_misfit_of_parse {e : IllTyped} (h : Toml.parse text = .ok es)
    (hdate : ∀ (sec : Section) span, es.lookup sec.name ≠ some (.scalar span .dateTime))
    (he : ofEntries es = .error e) :
    ∃ (sec : Section) (item : Item), es.lookup sec.name = some item ∧ Misfit sec item e ∧
      ∀ other : Section, other ≠ sec → ¬ WellTyped other (es.lookup other.name) →
        standsAt text sec.name < standsAt text other.name := by
  obtain ⟨sec, item, before, after, rfl, hmisfit, hbefore⟩ := exists_misfit_of_error he
  have hnodup := nodup_names_parse h
  refine ⟨sec, item, ?_, hmisfit, ?_⟩
  · exact Entries.lookup_of_mem hnodup (List.mem_append_right before List.mem_cons_self)
  · intro other hne hother
    cases hlookup : (before ++ (sec.name, item) :: after).lookup other.name with
    | none => exact (hother (hlookup ▸ .absent)).elim
    | some item' =>
        have hname : other.name ≠ sec.name := fun heq => hne (Section.name_injective heq)
        refine standsAt_lt h (Entries.mem_of_lookup hlookup) hname fun hfront => ?_
        -- a section in front of the first misfit was read
        have hdate' := ne_dateTime_of_lookup hdate hlookup
        rw [hlookup] at hother
        exact hother ((wellTyped_iff_readSection hdate').mpr (hbefore other item' hfront))

/-- A document is accepted exactly when its entries are. -/
theorem parse_eq_ok_iff_ofEntries {s : FileSettings} (h : Toml.parse text = .ok es) :
    parse text = .ok s ↔ ofEntries es = .ok s := by
  rw [parse_of_entries h]
  cases ofEntries es <;> simp [Except.mapError]

/-- A document without dates for sections is accepted exactly when all its sections are well typed. -/
theorem exists_parse_iff (h : Toml.parse text = .ok es)
    (hdate : ∀ (sec : Section) span, es.lookup sec.name ≠ some (.scalar span .dateTime)) :
    (∃ s, parse text = .ok s) ↔ ∀ sec : Section, WellTyped sec (es.lookup sec.name) := by
  simp only [parse_eq_ok_iff_ofEntries h]
  constructor
  · rintro ⟨s, hs⟩ sec
    obtain ⟨held, hheld, -⟩ := (ofEntries_eq_ok_iff (nodup_names_parse h)).mp hs sec
    cases hitem : es.lookup sec.name with
    | none => exact .absent
    | some item =>
        have hdate' := ne_dateTime_of_lookup hdate hitem
        rw [hitem] at hheld
        exact (wellTyped_iff_readSection hdate').mpr ⟨_, readSection_eq_ok_iff.mpr ⟨held, hheld, rfl⟩⟩
  · intro htyped
    cases he : ofEntries es with
    | ok s => exact ⟨s, rfl⟩
    | error e =>
        -- the misfit would be of a section that is well typed
        obtain ⟨sec, item, hitem, hmisfit, -⟩ := exists_misfit_of_parse h hdate he
        have hdate' := ne_dateTime_of_lookup hdate hitem
        have hwell := htyped sec
        rw [hitem] at hwell
        exact ((not_wellTyped_iff hdate').mpr ⟨e, hmisfit⟩ hwell).elim

/-- **Which documents are settings files.** For a document in which no section is a date:

* it is accepted exactly when each section is absent, or a table whose own entry is absent or a text,
  or an array that is empty or has a text in front;
* the settings are then the texts that the sections hold, and the defaults of those that hold none,
  whatever else the document holds;
* otherwise the file is reported to be no settings file, with what is wrong with the first ill-typed
  section in the order in which they stand: the section itself where its own type was wanted, if it
  is neither a table nor an array, and else its own entry or its first element where a text was
  wanted. -/
theorem parse_by_types (h : Toml.parse text = .ok es)
    (hdate : ∀ (sec : Section) span, es.lookup sec.name ≠ some (.scalar span .dateTime)) :
    ((∃ s, parse text = .ok s) ↔ ∀ sec : Section, WellTyped sec (es.lookup sec.name)) ∧
      (∀ s, parse text = .ok s ↔ ∀ sec : Section, ∃ held,
        Holds sec (es.lookup sec.name) held ∧ s.get sec = held.getD sec.default) ∧
      ((∃ sec : Section, ¬ WellTyped sec (es.lookup sec.name)) →
        ∃ (sec : Section) (item : Item) (e : IllTyped),
          es.lookup sec.name = some item ∧ Misfit sec item e ∧
          (∀ other : Section, other ≠ sec → ¬ WellTyped other (es.lookup other.name) →
            standsAt text sec.name < standsAt text other.name) ∧
          parse text = .error (.illTyped e) ∧
          e.message text = excerpt text.toList e.found.span ++
            s!"invalid type: {describe e.found}, expected {e.wanted.describe}\n" ∧
          ∀ (files : Settings.FileReader) path bs, files path = .ok bs → text? bs = some text →
            Settings.loadFile files path = .error (.improper path text (.illTyped e))) := by
  refine ⟨exists_parse_iff h hdate, fun s => ?settings, fun hill => ?first⟩
  case settings =>
    rw [parse_eq_ok_iff_ofEntries h]
    exact ofEntries_eq_ok_iff (nodup_names_parse h)
  case first =>
    obtain ⟨ill, hill⟩ := hill
    cases he : ofEntries es with
    | ok s =>
        have hok : ∃ s, parse text = .ok s := ⟨s, (parse_eq_ok_iff_ofEntries h).mpr he⟩
        exact (hill ((exists_parse_iff h hdate).mp hok ill)).elim
    | error e =>
        obtain ⟨sec, item, hitem, hmisfit, hfirst⟩ := exists_misfit_of_parse h hdate he
        have hparse : parse text = .error (.illTyped e) := by
          rw [parse_of_entries h, he]
          rfl
        refine ⟨sec, item, e, hitem, hmisfit, hfirst, hparse, rfl, ?_⟩
        intro files path bs hfile htext
        rw [Settings.loadFile, hfile]
        simp only [htext, hparse]

/-- A section that is implied by a longer header stands at the header of its own: here the request is
reported, although the name of the target comes first. -/
theorem parse_by_types_implied_target :
    let text := "[target.x]\n[request]\nremote_host = true\n[target]\naddress = false\n"
    ∃ es, Toml.parse text = .ok es ∧
      (∀ (sec : Section) span, es.lookup sec.name ≠ some (.scalar span .dateTime)) ∧
      ∃ item e, es.lookup "request" = some item ∧ Misfit .request item e ∧
        parse text = .error (.illTyped e) := by
  intro text
  -- the five lines, read one after the other, leave the request in front of the target
  obtain ⟨d, hlines, hnames, ⟨span, inner, hrequest⟩, ⟨span', inner', es, htarget, haddress⟩,
      hlogging⟩ :
      ∃ d, lines {} text.toList = .ok d ∧ d.root.names = ["request", "target"] ∧
        (∃ span inner, d.root.lookup "request" =
          some (.table span .header [("remote_host", .scalar inner (.boolean true))])) ∧
        (∃ span inner es, d.root.lookup "target" = some (.table span .header es) ∧
          es.lookup "address" = some (.scalar inner (.boolean false))) ∧
        d.root.lookup "logging" = none := by
    dsimp only [text]
    exact ⟨_, (lines_of_line (by simp) rfl rfl).trans <| (lines_of_line (by simp) rfl rfl).trans <|
      (lines_of_line (by simp) rfl rfl).trans <| (lines_of_line (by simp) rfl rfl).trans <|
      (lines_of_line (by simp) rfl rfl).trans <| lines_nil _, rfl, ⟨_, _, rfl⟩,
      ⟨_, _, _, rfl, rfl⟩, rfl⟩
  have hparse : Toml.parse text = .ok d.root := by
    have hmark : skipMark text.toList = text.toList := by
      dsimp only [text]
      rfl
    rw [Toml.parse, hmark, hlines]
  have hdate : ∀ (sec : Section) span, d.root.lookup sec.name ≠ some (.scalar span .dateTime) := by
    rintro (_ | _ | _) span h
    · cases htarget.symm.trans h
    · cases hrequest.symm.trans h
    · cases hlogging.symm.trans h
  have hill : ¬ WellTyped .request (d.root.lookup "request") := by
    rw [hrequest]
    intro hwell
    cases hwell with
    | table own =>
        obtain ⟨_, _, htext⟩ := own _ rfl
        cases htext
  obtain ⟨-, -, hfirst⟩ := parse_by_types hparse hdate
  obtain ⟨sec, item, e, hitem, hmisfit, hbefore, herror, -⟩ := hfirst ⟨.request, hill⟩
  refine ⟨d.root, hparse, hdate, ?_⟩
  cases sec with
  | request => exact ⟨item, e, hitem, hmisfit, herror⟩
  | logging => cases hlogging.symm.trans hitem
  | target =>
      -- the target would have to stand in front of the request
      have horder := pairwise_standsAt_parse hparse
      rw [hnames, List.pairwise_pair] at horder
      exact (lt_asymm horder (hbefore .request (by decide) hill)).elim

end FileSettings

end RelayProbe
