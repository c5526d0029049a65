import Mathlib
import RelayProbe.Toml.Document

set_option autoImplicit false

/-! # A document names each of its entries once

Statements are carried out in such a way that no name is given to a second entry: an entry is only
added under a name that is free, and an entry that grows keeps its name. So looking for a name in a
document that was read finds the one entry that has it (`nodup_names_parse`).
-/

namespace RelayProbe

namespace Toml

/-- The names of some entries. -/
def Entries.names (es : Entries) : List String := es.map (·.1)

namespace Entries

theorem names_replace (es : Entries) (name : String) (item : Item) :
    (es.replace name item).names = es.names := by
  rw [replace, names, names, List.map_map]
  refine List.map_congr_left fun e _ => ?_
  by_cases he : e.1 = name <;> simp [he]

theorem lookup_eq_none_iff {es : Entries} {name : String} :
    es.lookup name = none ↔ name ∉ es.names := by
  rw [List.lookup_eq_none_iff, names, List.mem_map]
  constructor
  · rintro h ⟨e, he, rfl⟩
    simpa using h e he
  · intro h e he
    have hne : name ≠ e.1 := fun heq => h ⟨e, he, heq.symm⟩
    simpa using hne

theorem lookup_cons (name other : String) (item : Item) (es : Entries) :
    ((other, item) :: es).lookup name = if other = name then some item else es.lookup name := by
  rw [List.lookup_cons]
  by_cases he : other = name
  · simp [he]
  · simp [he, beq_false_of_ne (Ne.symm he)]

/-- The entry that was added last is the one that is replaced. -/
theorem replace_append_last {es : Entries} {name : String} (h : es.lookup name = none)
    (item item' : Item) : replace (es ++ [(name, item)]) name item' = es ++ [(name, item')] := by
  have hkeep : ∀ e ∈ es, (if e.1 = name then (name, item') else e) = e := by
    intro e he
    exact if_neg fun hname => lookup_eq_none_iff.mp h (List.mem_map.mpr ⟨e, he, hname⟩)
  rw [replace, List.map_append, List.map_congr_left hkeep, List.map_id', List.map_singleton,
    if_pos rfl]

theorem nodup_names_append {es : Entries} {name : String} (item : Item) (hes : es.names.Nodup)
    (h : es.lookup name = none) : names (es ++ [(name, item)]) |>.Nodup := by
  rw [names, List.map_append, List.map_singleton, List.nodup_append_comm, List.singleton_append,
    List.nodup_cons]
  exact ⟨lookup_eq_none_iff.mp h, hes⟩

/-- An entry may be taken out and put back at the end. -/
theorem nodup_names_remove {es : Entries} (name : String) (item : Item) (hes : es.names.Nodup) :
    names (es.remove name ++ [(name, item)]) |>.Nodup := by
  refine nodup_names_append item ?_ ?_
  · exact (List.filter_sublist.map _).nodup hes
  · rw [lookup_eq_none_iff]
    intro hmem
    obtain ⟨e, he, hname⟩ := List.mem_map.mp hmem
    exact of_decide_eq_true (List.mem_filter.mp he).2 hname

theorem names_concat (es : Entries) (name : String) (item : Item) :
    names (es ++ [(name, item)]) = es.names ++ [name] := List.map_append

theorem lookup_concat (es : Entries) (name other : String) (item : Item) :
    (es ++ [(other, item)]).lookup name =
      (es.lookup name).or (if other = name then some item else none) := by
  rw [List.lookup_append, lookup_cons]
  rfl

/-- A replaced entry is found under its name, and the others are as they were. -/
theorem lookup_replace (es : Entries) (name other : String) (item : Item) :
    (es.replace other item).lookup name =
      if other = name then (es.lookup name).map fun _ => item else es.lookup name := by
  induction es with
  | nil => simp [replace]
  | cons e es ih =>
      obtain ⟨first, old⟩ := e
      have hcons : replace ((first, old) :: es) other item =
          (if first = other then (other, item) else (first, old)) :: replace es other item := rfl
      rw [hcons]
      by_cases hfirst : first = other
      · subst hfirst
        rw [if_pos rfl, lookup_cons, lookup_cons, ih]
        by_cases hname : first = name <;> simp [hname]
      · rw [if_neg hfirst, lookup_cons, lookup_cons, ih]
        by_cases hname : first = name
        · have hother : other ≠ name := fun h => hfirst (hname.trans h.symm)
          rw [if_pos hname, if_neg hother, if_pos hname]
        · rw [if_neg hname, if_neg hname]

/-- An entry that is not taken out is found as before. -/
theorem lookup_remove {es : Entries} {name other : String} (h : other ≠ name) :
    (es.remove other).lookup name = es.lookup name := by
  induction es with
  | nil => rfl
  | cons e es ih =>
      obtain ⟨first, item⟩ := e
      by_cases hfirst : first = other
      · have hdrop : remove ((first, item) :: es) other = remove es other := by
          simp [remove, hfirst]
        rw [hdrop, ih, lookup_cons, if_neg (hfirst ▸ h)]
      · have hkeep : remove ((first, item) :: es) other = (first, item) :: remove es other := by
          simp [remove, hfirst]
        rw [hkeep, lookup_cons, lookup_cons, ih]

theorem mem_names_remove {es : Entries} {name other : String} :
    name ∈ (es.remove other).names ↔ name ∈ es.names ∧ name ≠ other := by
  simp only [names, remove, List.mem_map, List.mem_filter, decide_eq_true_eq]
  constructor
  · rintro ⟨e, ⟨he, hne⟩, rfl⟩
    exact ⟨⟨e, he, rfl⟩, hne⟩
  · rintro ⟨⟨e, he, rfl⟩, hne⟩
    exact ⟨e, ⟨he, hne⟩, rfl⟩

/-- What is found under a name is an entry of that name. -/
theorem mem_of_lookup {es : Entries} {name : String} {item : Item}
    (h : es.lookup name = some item) : (name, item) ∈ es := by
  obtain ⟨before, after, rfl, -⟩ := List.lookup_eq_some_iff.mp h
  exact List.mem_append_right before List.mem_cons_self

theorem mem_names_of_lookup {es : Entries} {name : String} {item : Item}
    (h : es.lookup name = some item) : name ∈ es.names :=
  List.mem_map.mpr ⟨_, mem_of_lookup h, rfl⟩

/-- If no name is given twice, an entry is found under its name. -/
theorem lookup_of_mem {es : Entries} {name : String} {item : Item} (hes : es.names.Nodup)
    (h : (name, item) ∈ es) : es.lookup name = some item := by
  obtain ⟨before, after, rfl⟩ := List.append_of_mem h
  have hfresh : name ∉ names before := by
    rw [names, List.map_append, List.nodup_append] at hes
    exact fun hmem => hes.2.2 name hmem name List.mem_cons_self rfl
  rw [List.lookup_append, lookup_eq_none_iff.mpr hfresh, List.lookup_cons_self]
  rfl

end Entries

/-! ## Statements -/

/-- A change of a table that keeps its names apart. -/
def KeepsNames (f : Span → TableForm → Entries → Option Item) : Prop :=
  ∀ {span : Span} {form : TableForm} {es : Entries} {t : Item}, es.names.Nodup →
    f span form es = some t → t.entries.names.Nodup

/-- On the way to a table nothing but a table of a free name is added. -/
theorem keepsNames_changeAt {passes : Item → Bool} {made : TableForm}
    {f : Span → TableForm → Entries → Option Item} (hf : KeepsNames f) (path : List Key) :
    KeepsNames (changeAt passes made f path) := by
  intro span form es t hes h
  cases path with
  | nil => exact hf hes h
  | cons k ks =>
      rw [changeAt] at h
      split at h
      · next hfree =>
          obtain ⟨u, -, rfl⟩ := Option.map_eq_some_iff.mp h
          exact Entries.nodup_names_append u hes hfree
      · split at h
        · obtain ⟨u, -, rfl⟩ := Option.map_eq_some_iff.mp h
          rw [Item.entries, Entries.names_replace]
          exact hes
        · cases h

theorem keepsNames_addEntry (key : DottedKey) (value : Item) : KeepsNames (addEntry key value) := by
  refine keepsNames_changeAt ?_ key.path
  intro span form es t hes h
  dsimp only at h
  split at h
  · cases h
  · next hfree =>
      obtain rfl := Option.some.inj h
      rw [not_or, Option.not_isSome_iff_eq_none] at hfree
      exact Entries.nodup_names_append value hes hfree.2

theorem keepsNames_openTable (key : DottedKey) (header : Span) :
    KeepsNames (openTable key header) := by
  refine keepsNames_changeAt ?_ key.path
  intro span form es t hes h
  dsimp only at h
  split at h
  · next hfree =>
      obtain rfl := Option.some.inj h
      exact Entries.nodup_names_append _ hes hfree
  · obtain rfl := Option.some.inj h
    exact Entries.nodup_names_remove _ _ hes
  · cases h

theorem keepsNames_openElement (key : DottedKey) (header : Span) :
    KeepsNames (openElement key header) := by
  refine keepsNames_changeAt ?_ key.path
  intro span form es t hes h
  dsimp only at h
  split at h
  · next hfree =>
      obtain rfl := Option.some.inj h
      exact Entries.nodup_names_append _ hes hfree
  · obtain rfl := Option.some.inj h
    rw [Item.entries, Entries.names_replace]
    exact hes
  · cases h

theorem nodup_names_changeRoot {d d' : Draft} {opened : List Key}
    {f : Span → TableForm → Entries → Option Item} (hf : KeepsNames f)
    (hd : d.root.names.Nodup) (h : d.changeRoot opened f = some d') : d'.root.names.Nodup := by
  obtain ⟨t, ht, rfl⟩ := Option.map_eq_some_iff.mp h
  exact hf hd ht

/-- Carrying out a statement keeps the names of a document apart. -/
theorem nodup_names_add {d d' : Draft} {st : Statement} (hd : d.root.names.Nodup)
    (h : d.add st = some d') : d'.root.names.Nodup := by
  cases st with
  | entry key value =>
      refine nodup_names_changeRoot (keepsNames_changeAt ?_ d.opened) hd h
      intro span form es t hes ht
      obtain ⟨u, hu, rfl⟩ := Option.map_eq_some_iff.mp ht
      have hentries : (u.stretchedTo value.span.stop).entries = u.entries := by cases u <;> rfl
      rw [hentries]
      exact keepsNames_addEntry key value hes hu
  | table key header => exact nodup_names_changeRoot (keepsNames_openTable key header) hd h
  | element key header => exact nodup_names_changeRoot (keepsNames_openElement key header) hd h

/-! ## Documents -/

theorem nodup_names_lines {d d' : Draft} {s : Place} (hd : d.root.names.Nodup)
    (h : lines d s = .ok d') : d'.root.names.Nodup := by
  -- along the lines, each of which leaves a draft whose names are apart
  fun_induction lines d s with
  | case1 => cases h; exact hd
  | case2 => cases h
  | case3 d s _ r _ ih => exact ih hd h
  | case4 => cases h
  | case5 d s _ st r _ d₁ hadd ih => exact ih (nodup_names_add hd hadd) h

/-- **No name is given twice** at the top of a document that is read. -/
theorem nodup_names_parse {text : String} {es : Entries} (h : parse text = .ok es) :
    es.names.Nodup := by
  rw [parse] at h
  split at h
  · next d hd =>
      cases h
      exact nodup_names_lines (d := {}) List.nodup_nil hd
  · cases h

end Toml

end RelayProbe
