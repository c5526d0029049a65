import Mathlib
import RelayProbe.Proofs.Toml.Names
import RelayProbe.Settings.File

set_option autoImplicit false

/-! # What a settings file gives

A document is a settings file if each section that it names is of the right type; it then gives the
text that the section holds, if there is one (`Gives`). Reading the file goes through the entries
one after the other and keeps what was read so far. No name is given twice, so the outcome is
decided section by section (`parse_eq_ok_iff`): each text is the one that its own section gives, or
the default, whatever stands in the other sections and around them.
-/

namespace RelayProbe

open Toml

/-! ## Sections -/

theorem Section.name_injective {s t : Section} (h : s.name = t.name) : s = t := by
  cases s <;> cases t <;> first | rfl | exact absurd h (by decide)

/-- A section is found by its name. -/
theorem Section.ofName_name (s : Section) : Section.ofName? s.name = some s := by
  cases s <;> decide

theorem Section.ofName_eq_some_iff {name : String} {sec : Section} :
    Section.ofName? name = some sec ↔ name = sec.name := by
  constructor
  · intro h
    have hfound := List.find?_some h
    exact (of_decide_eq_true hfound).symm
  · rintro rfl
    exact sec.ofName_name

namespace FileSettings

theorem get_default (sec : Section) : get {} sec = sec.default := by
  cases sec <;> rfl

/-- Settings are their texts, section by section. -/
theorem ext_get {s t : FileSettings} (h : ∀ sec, s.get sec = t.get sec) : s = t := by
  cases s
  cases t
  exact congr (congr (congrArg FileSettings.mk (h .target)) (h .request)) (h .logging)

/-- Settings can be made of any texts. -/
theorem exists_get (f : Section → String) : ∃ s : FileSettings, ∀ sec, s.get sec = f sec :=
  ⟨⟨f .target, f .request, f .logging⟩, by rintro (_ | _ | _) <;> rfl⟩

/-! ## One section -/

/-- What stands in a document for a section, if anything does, is of the type of that section; and
it holds the given text, or none. -/
inductive Holds (sec : Section) : Option Item → Option String → Prop
  | absent : Holds sec none none
  | entry {span inner form es text}
      (h : es.lookup sec.field = some (.scalar inner (.string text))) :
      Holds sec (some (.table span form es)) (some text)
  | noEntry {span form es} (h : es.lookup sec.field = none) :
      Holds sec (some (.table span form es)) none
  | front {span inner form text items} :
      Holds sec (some (.array span form (.scalar inner (.string text) :: items))) (some text)
  | nothing {span form} : Holds sec (some (.array span form [])) none
  | dateTime {span} : Holds sec (some (.scalar span .dateTime)) none

/-- There is one text at most. -/
theorem Holds.unique {sec : Section} {item : Option Item} {held held' : Option String}
    (h : Holds sec item held) (h' : Holds sec item held') : held = held' := by
  cases h <;> cases h' <;> simp_all

theorem readText_eq_ok_iff {item : Item} {text : String} :
    readText item = .ok text ↔ ∃ span, item = .scalar span (.string text) := by
  constructor
  · intro h
    unfold readText at h
    split at h
    · next span _ => exact ⟨span, by rw [Except.ok.inj h]⟩
    · cases h
  · rintro ⟨span, rfl⟩
    rfl

/-- A section is read when it is of its type, and the default stands for a text it does not hold. -/
theorem readSection_eq_ok_iff {sec : Section} {item : Item} {text : String} :
    readSection sec item = .ok text ↔
      ∃ held, Holds sec (some item) held ∧ text = held.getD sec.default := by
  constructor
  · intro h
    unfold readSection at h
    split at h
    · split at h
      · next hnone => exact ⟨none, .noEntry hnone, (Except.ok.inj h).symm⟩
      · next hsome =>
          obtain ⟨span, rfl⟩ := readText_eq_ok_iff.mp h
          exact ⟨some text, .entry hsome, rfl⟩
    · exact ⟨none, .nothing, (Except.ok.inj h).symm⟩
    · obtain ⟨span, rfl⟩ := readText_eq_ok_iff.mp h
      exact ⟨some text, .front, rfl⟩
    · exact ⟨none, .dateTime, (Except.ok.inj h).symm⟩
    · cases h
  · rintro ⟨held, hheld, rfl⟩
    cases hheld with
    | entry h => rw [readSection, h]; rfl
    | noEntry h => rw [readSection, h]; rfl
    | front => rfl
    | nothing => rfl
    | dateTime => rfl

/-! ## All sections -/

/-- One entry: it says the text of its own section, and leaves the others as they were. -/
theorem addEntry_eq_ok_iff {s s' : FileSettings} {name : String} {item : Item} :
    addEntry s (name, item) = .ok s' ↔
      ∀ sec : Section,
        if name = sec.name then readSection sec item = .ok (s'.get sec)
        else s'.get sec = s.get sec := by
  rw [addEntry]
  cases hname : Section.ofName? name with
  | none =>
      have hne : ∀ sec : Section, name ≠ sec.name := by
        intro sec he
        simp [Section.ofName_eq_some_iff.mpr he] at hname
      simp only [hne, if_false]
      constructor
      · rintro ⟨⟩ sec
        rfl
      · exact fun h => congrArg Except.ok (ext_get fun sec => (h sec).symm)
  | some own =>
      have hown : ∀ sec : Section, name = sec.name ↔ sec = own := by
        intro sec
        rw [Section.ofName_eq_some_iff.mp hname, eq_comm]
        exact ⟨Section.name_injective, congrArg _⟩
      simp only [hown]
      cases hread : readSection own item with
      | error f =>
          refine iff_of_false (by rintro ⟨⟩) fun h => ?_
          have := h own
          rw [if_pos rfl, hread] at this
          cases this
      | ok text =>
          constructor
          · rintro ⟨⟩ sec
            by_cases hsec : sec = own
            · rw [if_pos hsec, get_set, if_pos hsec, hsec, hread]
            · rw [if_neg hsec, get_set, if_neg hsec]
          · intro h
            refine congrArg Except.ok (ext_get fun sec => ?_)
            have := h sec
            rw [get_set]
            by_cases hsec : sec = own
            · rw [if_pos hsec, hsec, hread] at this
              rw [if_pos hsec, hsec, Except.ok.inj this]
            · rw [if_neg hsec] at this
              rw [if_neg hsec, this]

theorem foldlM_cons_eq_ok_iff {s s' : FileSettings} {e : String × Item} {es : Entries} :
    (e :: es).foldlM addEntry s = .ok s' ↔
      ∃ m, addEntry s e = .ok m ∧ es.foldlM addEntry m = .ok s' := by
  rw [List.foldlM_cons]
  cases addEntry s e with
  | error f => exact iff_of_false (by rintro ⟨⟩) (by rintro ⟨m, ⟨⟩, -⟩)
  | ok m =>
      constructor
      · exact fun h => ⟨m, rfl, h⟩
      · rintro ⟨_, ⟨⟩, h⟩
        exact h

/-- **All entries**: the text of a section is what the entry of its name says, or else what it was
before. -/
theorem foldlM_addEntry_eq_ok_iff {es : Entries} (hes : es.names.Nodup) {s s' : FileSettings} :
    es.foldlM addEntry s = .ok s' ↔
      ∀ sec : Section,
        match es.lookup sec.name with
        | none => s'.get sec = s.get sec
        | some item => readSection sec item = .ok (s'.get sec) := by
  -- along the entries, with the texts that were read so far in `s`
  induction es generalizing s with
  | nil =>
      constructor
      · rintro ⟨⟩ sec
        rfl
      · exact fun h => congrArg Except.ok (ext_get fun sec => (h sec).symm)
  | cons e es ih =>
      obtain ⟨name, item⟩ := e
      obtain ⟨hfresh, hes⟩ := List.nodup_cons.mp hes
      -- no later entry has the name of this one
      have hlater : ∀ sec : Section, name = sec.name → es.lookup sec.name = none := by
        rintro sec rfl
        exact Entries.lookup_eq_none_iff.mpr hfresh
      simp only [foldlM_cons_eq_ok_iff, ih hes, addEntry_eq_ok_iff, Entries.lookup_cons]
      constructor
      · rintro ⟨m, hm, hrest⟩ sec
        have hm := hm sec
        have hrest := hrest sec
        by_cases he : name = sec.name
        · rw [if_pos he] at hm ⊢
          rw [hlater sec he] at hrest
          rw [hrest]
          exact hm
        · rw [if_neg he] at hm ⊢
          rw [hm] at hrest
          exact hrest
      · intro h
        -- in between, only the section of the first entry has its last text
        obtain ⟨m, hm⟩ := exists_get fun sec => if name = sec.name then s'.get sec else s.get sec
        refine ⟨m, fun sec => ?_, fun sec => ?_⟩
        · have h := h sec
          by_cases he : name = sec.name
          · rw [if_pos he] at h ⊢
            rw [hm, if_pos he]
            exact h
          · rw [if_neg he, hm, if_neg he]
        · have h := h sec
          by_cases he : name = sec.name
          · rw [hlater sec he, hm, if_pos he]
          · rw [if_neg he] at h
            rw [hm, if_neg he]
            exact h

/-- The settings that entries give, section by section. -/
theorem ofEntries_eq_ok_iff {es : Entries} (hes : es.names.Nodup) {s : FileSettings} :
    ofEntries es = .ok s ↔
      ∀ sec : Section, ∃ held, Holds sec (es.lookup sec.name) held ∧
        s.get sec = held.getD sec.default := by
  rw [ofEntries, foldlM_addEntry_eq_ok_iff hes]
  refine forall_congr' fun sec => ?_
  cases es.lookup sec.name with
  | none =>
      rw [get_default]
      constructor
      · exact fun h => ⟨none, .absent, h⟩
      · rintro ⟨_, ⟨⟩, h⟩
        exact h
  | some item => exact readSection_eq_ok_iff

/-! ## A whole file -/

/-- A text is a settings file, with the texts that its sections hold. -/
def Gives (text : String) (given : Section → Option String) : Prop :=
  ∃ es, Toml.parse text = .ok es ∧ ∀ sec : Section, Holds sec (es.lookup sec.name) (given sec)

/-- A settings file leaves no choice of what it gives. -/
theorem Gives.unique {text : String} {given given' : Section → Option String}
    (h : Gives text given) (h' : Gives text given') : given = given' := by
  obtain ⟨es, hparse, hholds⟩ := h
  obtain ⟨es', hparse', hholds'⟩ := h'
  obtain rfl := Except.ok.inj (hparse.symm.trans hparse')
  exact funext fun sec => (hholds sec).unique (hholds' sec)

/-- The entries of a document decide what settings it gives. -/
theorem parse_of_entries {text : String} {es : Entries} (h : Toml.parse text = .ok es) :
    parse text = (ofEntries es).mapError .illTyped := by
  rw [parse, h]
  simp only
  cases ofEntries es <;> rfl

/-- **The texts that a settings file gives are its settings**, with defaults for those it does not
give; and nothing but a settings file has settings. -/
theorem parse_eq_ok_iff {text : String} {s : FileSettings} :
    parse text = .ok s ↔
      ∃ given, Gives text given ∧ ∀ sec, s.get sec = (given sec).getD sec.default := by
  cases hparse : Toml.parse text with
  | error line =>
      rw [parse, hparse]
      refine iff_of_false (by rintro ⟨⟩) ?_
      rintro ⟨given, ⟨es, hes, -⟩, -⟩
      rw [hparse] at hes
      cases hes
  | ok es =>
      have hread : (ofEntries es).mapError TextFault.illTyped = .ok s ↔ ofEntries es = .ok s := by
        cases ofEntries es <;> simp [Except.mapError]
      rw [parse_of_entries hparse, hread, ofEntries_eq_ok_iff (nodup_names_parse hparse)]
      constructor
      · intro h
        choose given hgiven using h
        exact ⟨given, ⟨es, hparse, fun sec => (hgiven sec).1⟩, fun sec => (hgiven sec).2⟩
      · rintro ⟨given, ⟨es', hes', hholds⟩, hget⟩ sec
        obtain rfl := Except.ok.inj (hparse.symm.trans hes')
        exact ⟨given sec, hholds sec, hget sec⟩

end FileSettings

end RelayProbe
