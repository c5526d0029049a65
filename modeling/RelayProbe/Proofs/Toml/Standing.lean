import RelayProbe.Proofs.Toml.Names
import RelayProbe.Toml.Standing

set_option autoImplicit false

/-! # The entries of a document are in the order in which they stand

Carrying out a statement does one of three things to the entries at the top of a document
(`Draft.effect_of_add`): an entry of a new name is added at the end, an entry grows where it is and a
table stays of its form, or a table that was only implied so far is moved to the end because this is
its header. So the entries are always in the order in which they stand (`InOrder`), and are so in the
document as a whole (`pairwise_standsAt_parse`).
-/

namespace RelayProbe

namespace Toml

/-! ## What a statement does to the top of a document -/

/-- The form of a table. -/
def Item.form? : Item → Option TableForm
  | table _ form _ => some form
  | _ => none

/-- A change of a table that leaves it a table of the same form. -/
def KeepsForm (f : Span → TableForm → Entries → Option Item) : Prop :=
  ∀ {span : Span} {form : TableForm} {es : Entries} {t : Item}, f span form es = some t →
    t.form? = some form

theorem KeepsForm.changeTable {f : Span → TableForm → Entries → Option Item} (hf : KeepsForm f)
    {item item' : Item} (h : item.changeTable f = some item') : item'.form? = item.form? := by
  unfold Item.changeTable at h
  split at h
  · exact hf h
  · split at h
    · obtain ⟨t, -, rfl⟩ := Option.map_eq_some_iff.mp h
      rfl
    · cases h
  · cases h

/-- The first step on the way to a table: an entry of a new name is added, or an entry is changed
and stays what it is. -/
theorem changeAt_cons_cases {passes : Item → Bool} {made : TableForm}
    {f : Span → TableForm → Entries → Option Item} {k : Key} {ks : List Key}
    (hf : KeepsForm (changeAt passes made f ks)) {span : Span} {form : TableForm} {es : Entries}
    {t : Item} (h : changeAt passes made f (k :: ks) span form es = some t) :
    (es.lookup k.name = none ∧ ∃ item, t = .table span form (es ++ [(k.name, item)])) ∨
      ∃ item item', es.lookup k.name = some item ∧ item'.form? = item.form? ∧
        t = .table span form (es.replace k.name item') := by
  rw [changeAt] at h
  split at h
  · next hfree =>
      obtain ⟨u, -, rfl⟩ := Option.map_eq_some_iff.mp h
      exact Or.inl ⟨hfree, u, rfl⟩
  · next item hitem =>
      split at h
      · obtain ⟨u, hu, rfl⟩ := Option.map_eq_some_iff.mp h
        exact Or.inr ⟨item, u, hitem, hf.changeTable hu, rfl⟩
      · cases h

/-- A change keeps the form of every table on the way to where it is made. -/
theorem keepsForm_changeAt {passes : Item → Bool} {made : TableForm}
    {f : Span → TableForm → Entries → Option Item} (hf : KeepsForm f) (path : List Key) :
    KeepsForm (changeAt passes made f path) := by
  induction path with
  | nil => exact hf
  | cons k ks ih =>
      intro span form es t h
      rcases changeAt_cons_cases ih h with ⟨-, item, rfl⟩ | ⟨-, item', -, -, rfl⟩ <;> rfl

/-- What a statement does to the entries at the top of a document: it adds one of a new name at the
end, it changes one that stays what it is, or it moves a table that was only implied to the end,
because it is the header of that table. -/
inductive Effect (m : Mark) (es : Entries) : Entries → Prop
  | adds (item : Item) (free : es.lookup m.name = none)
      (header : m.isHeader = true → item.form? = some .header) :
      Effect m es (es ++ [(m.name, item)])
  | changes (item item' : Item) (there : es.lookup m.name = some item)
      (form : item'.form? = item.form?) (inner : m.isHeader = false) :
      Effect m es (es.replace m.name item')
  | moves (item item' : Item) (there : es.lookup m.name = some item)
      (implied : item.form? = some .implied) (form : item'.form? = some .header)
      (header : m.isHeader = true) : Effect m es (es.remove m.name ++ [(m.name, item')])

/-- What is changed below the top has an effect on the first entry on the way there. -/
theorem effect_of_changeAt_cons {passes : Item → Bool} {made : TableForm}
    {f : Span → TableForm → Entries → Option Item} (hf : KeepsForm f) {k : Key} {ks : List Key}
    {span : Span} {form : TableForm} {es : Entries} {t : Item}
    (h : changeAt passes made f (k :: ks) span form es = some t) :
    t.form? = some form ∧ Effect ⟨k.name, false⟩ es t.entries := by
  rcases changeAt_cons_cases (keepsForm_changeAt hf ks) h with
    ⟨hfree, item, rfl⟩ | ⟨item, item', hitem, hform, rfl⟩
  · exact ⟨rfl, .adds item hfree fun hheader => nomatch hheader⟩
  · exact ⟨rfl, .changes item item' hitem hform rfl⟩

/-- An entry is added to the table in which it is written, at the top of the document or below. -/
theorem effect_of_addEntry {key : DottedKey} {value : Item} {span : Span} {form : TableForm}
    {es : Entries} {t : Item} (h : addEntry key value span form es = some t) :
    t.form? = some form ∧ Effect ⟨(key.path.headD key.last).name, false⟩ es t.entries := by
  obtain ⟨path, last⟩ := key
  cases path with
  | nil =>
      dsimp only [addEntry, changeAt] at h
      split at h
      · cases h
      · next hfree =>
          obtain rfl := Option.some.inj h
          rw [not_or, Option.not_isSome_iff_eq_none] at hfree
          exact ⟨rfl, .adds value hfree.2 fun hheader => nomatch hheader⟩
  | cons k ks =>
      refine effect_of_changeAt_cons ?_ h
      intro span form es t h
      dsimp only at h
      split at h
      · cases h
      · obtain rfl := Option.some.inj h
        rfl

/-- The header of a table opens a table that is new, or that was only implied. -/
theorem effect_of_openTable_last {last : Key} {header span : Span} {form : TableForm} {es : Entries}
    {t : Item} (h : openTable ⟨[], last⟩ header span form es = some t) :
    t.form? = some form ∧ Effect ⟨last.name, true⟩ es t.entries := by
  dsimp only [openTable, changeAt] at h
  split at h
  · next hfree =>
      obtain rfl := Option.some.inj h
      exact ⟨rfl, .adds _ hfree fun _ => rfl⟩
  · next span' inner hthere =>
      obtain rfl := Option.some.inj h
      exact ⟨rfl, .moves (.table span' .implied inner) _ hthere rfl rfl rfl⟩
  · cases h

/-- The header of one more table of an array adds it to the array, or makes a new one. -/
theorem effect_of_openElement_last {last : Key} {header span : Span} {form : TableForm}
    {es : Entries} {t : Item} (h : openElement ⟨[], last⟩ header span form es = some t) :
    t.form? = some form ∧ Effect ⟨last.name, false⟩ es t.entries := by
  dsimp only [openElement, changeAt] at h
  split at h
  · next hfree =>
      obtain rfl := Option.some.inj h
      exact ⟨rfl, .adds _ hfree fun hheader => nomatch hheader⟩
  · next span' items hthere =>
      obtain rfl := Option.some.inj h
      exact ⟨rfl, .changes (.array span' .headers items) _ hthere rfl rfl⟩
  · cases h

/-- Headers open a table at the top of the document, or below. -/
theorem effect_of_openTable {key : DottedKey} {header span : Span} {form : TableForm}
    {es : Entries} {t : Item} (h : openTable key header span form es = some t) :
    Effect ⟨(key.path.headD key.last).name, key.path.isEmpty⟩ es t.entries := by
  obtain ⟨path, last⟩ := key
  cases path with
  | nil => exact (effect_of_openTable_last h).2
  | cons k ks => exact (effect_of_changeAt_cons (fun hat => (effect_of_openTable_last hat).1) h).2

theorem effect_of_openElement {key : DottedKey} {header span : Span} {form : TableForm}
    {es : Entries} {t : Item} (h : openElement key header span form es = some t) :
    Effect ⟨(key.path.headD key.last).name, false⟩ es t.entries := by
  obtain ⟨path, last⟩ := key
  cases path with
  | nil => exact (effect_of_openElement_last h).2
  | cons k ks => exact (effect_of_changeAt_cons (fun hat => (effect_of_openElement_last hat).1) h).2

/-- **What a statement does to the top of a document** is told by its mark. -/
theorem Draft.effect_of_add {d d' : Draft} {st : Statement} (h : d.add st = some d') :
    d'.opened = st.opens d.opened ∧ Effect (st.mark d.opened) d.root d'.root := by
  cases st with
  | entry key value =>
      obtain ⟨t, ht, rfl⟩ := Option.map_eq_some_iff.mp h
      refine ⟨rfl, ?_⟩
      have hstretched : ∀ u : Item, (u.stretchedTo value.span.stop).entries = u.entries ∧
          (u.stretchedTo value.span.stop).form? = u.form? := by
        intro u
        cases u <;> exact ⟨rfl, rfl⟩
      cases hopened : d.opened with
      | nil =>
          rw [hopened] at ht
          obtain ⟨u, hu, rfl⟩ := Option.map_eq_some_iff.mp ht
          show Effect _ _ (u.stretchedTo value.span.stop).entries
          rw [(hstretched u).1]
          exact (effect_of_addEntry hu).2
      | cons k ks =>
          rw [hopened] at ht
          refine (effect_of_changeAt_cons (fun hat => ?_) ht).2
          obtain ⟨u, hu, rfl⟩ := Option.map_eq_some_iff.mp hat
          rw [(hstretched u).2]
          exact (effect_of_addEntry hu).1
  | table key header =>
      obtain ⟨t, ht, rfl⟩ := Option.map_eq_some_iff.mp h
      exact ⟨rfl, effect_of_openTable ht⟩
  | element key header =>
      obtain ⟨t, ht, rfl⟩ := Option.map_eq_some_iff.mp h
      exact ⟨rfl, effect_of_openElement ht⟩

/-! ## Where entries stand while statements are carried out -/

/-- An entry that was told about before stands where it did, unless this is its own header and the
first one. -/
theorem standing_append_of_mem {ms : List Mark} {m : Mark} {name : String}
    (hmem : ∃ n ∈ ms, n.name = name) (hnew : m ≠ ⟨name, true⟩ ∨ ⟨name, true⟩ ∈ ms) :
    standing (ms ++ [m]) name = standing ms name := by
  by_cases hheader : ⟨name, true⟩ ∈ ms
  · rw [standing, standing, if_pos hheader, if_pos (List.mem_append_left _ hheader),
      List.idxOf_append_of_mem hheader]
  · have hm : m ≠ ⟨name, true⟩ := hnew.resolve_right hheader
    have hnot : ⟨name, true⟩ ∉ ms ++ [m] := by simp [hheader, Ne.symm hm]
    have hfound : ms.findIdx (·.name = name) < ms.length := by
      rw [List.findIdx_lt_length]
      simpa using hmem
    rw [standing, standing, if_neg hheader, if_neg hnot, List.findIdx_append, if_pos hfound]

/-- An entry stands at the last statement if that is the first one about it, or its own header and the
first one. -/
theorem standing_append_self {ms : List Mark} {name : String} {isHeader : Bool}
    (hnew : (∀ n ∈ ms, n.name ≠ name) ∨ isHeader = true ∧ ⟨name, true⟩ ∉ ms) :
    standing (ms ++ [⟨name, isHeader⟩]) name = ms.length := by
  have hheader : ⟨name, true⟩ ∉ ms := by
    rcases hnew with hnew | ⟨-, hnew⟩
    · exact fun hmem => hnew _ hmem rfl
    · exact hnew
  cases isHeader with
  | true =>
      rw [standing, if_pos (by simp), List.idxOf_append_of_notMem hheader]
      simp
  | false =>
      have hfresh : ∀ n ∈ ms, n.name ≠ name := hnew.resolve_right fun h => nomatch h.1
      have hnot : ⟨name, true⟩ ∉ ms ++ [⟨name, false⟩] := by simp [hheader]
      have hfirst : ms.findIdx (·.name = name) = ms.length :=
        List.findIdx_eq_length.mpr fun n hn => by simp [hfresh n hn]
      rw [standing, if_neg hnot, List.findIdx_append, hfirst, if_neg (Nat.lt_irrefl _)]
      simp

/-- An entry that was told about stands at one of the statements. -/
theorem standing_lt_length {ms : List Mark} {name : String} (h : ∃ n ∈ ms, n.name = name) :
    standing ms name < ms.length := by
  rw [standing]
  split
  · next hheader => exact List.idxOf_lt_length_iff.mpr hheader
  · rw [List.findIdx_lt_length]
    simpa using h

/-- The entries at the top of a document agree with what its statements said about them: they are the
ones that were told about, those that had a header of their own are tables with one, and they are in
the order in which they stand. -/
structure InOrder (ms : List Mark) (es : Entries) : Prop where
  named : ∀ name, name ∈ es.names ↔ ∃ m ∈ ms, m.name = name
  headed : ∀ name, ⟨name, true⟩ ∈ ms →
    ∃ item, es.lookup name = some item ∧ item.form? = some .header
  ordered : es.names.Pairwise fun a b => standing ms a < standing ms b

/-- With one more statement, an entry is told about if it was before or if the statement is about it. -/
theorem about_concat {ms : List Mark} {m : Mark} {name : String} :
    (∃ n ∈ ms ++ [m], n.name = name) ↔ (∃ n ∈ ms, n.name = name) ∨ m.name = name := by
  simp [or_and_right, exists_or]

namespace InOrder

variable {ms : List Mark} {m : Mark} {es : Entries}

/-- Nothing was said about an empty document. -/
theorem nil : InOrder [] [] where
  named := by simp [Entries.names]
  headed := by simp
  ordered := List.Pairwise.nil

/-- An entry stands where it did if the next statement is not its own header. -/
theorem standing_append (h : InOrder ms es) {name : String} (hname : name ∈ es.names)
    (hm : m ≠ ⟨name, true⟩) : standing (ms ++ [m]) name = standing ms name :=
  standing_append_of_mem ((h.named name).mp hname) (Or.inl hm)

/-- An entry that stands at the last statement may be put at the end. -/
theorem ordered_concat (h : InOrder ms es) {kept : Entries} (item : Item)
    (hkept : kept.names.Sublist es.names) (hother : m.name ∉ kept.names)
    (hlast : standing (ms ++ [m]) m.name = ms.length) :
    (Entries.names (kept ++ [(m.name, item)])).Pairwise fun a b =>
      standing (ms ++ [m]) a < standing (ms ++ [m]) b := by
  have hsame : ∀ name ∈ kept.names, standing (ms ++ [m]) name = standing ms name := by
    intro name hname
    refine h.standing_append (hkept.subset hname) ?_
    rintro rfl
    exact hother hname
  rw [Entries.names_concat, List.pairwise_append]
  refine ⟨?_, List.pairwise_singleton _ _, ?_⟩
  · refine (h.ordered.sublist hkept).imp_of_mem fun ha hb hlt => ?_
    rwa [hsame _ ha, hsame _ hb]
  · intro name hname last hmem
    obtain rfl : last = m.name := List.mem_singleton.mp hmem
    rw [hsame name hname, hlast]
    exact standing_lt_length ((h.named name).mp (hkept.subset hname))

/-- An entry of a new name stands where it is added, at the end. -/
theorem adds (h : InOrder ms es) {item : Item} (free : es.lookup m.name = none)
    (header : m.isHeader = true → item.form? = some .header) :
    InOrder (ms ++ [m]) (es ++ [(m.name, item)]) := by
  have hfresh : m.name ∉ es.names := Entries.lookup_eq_none_iff.mp free
  have hnew : ∀ n ∈ ms, n.name ≠ m.name := by
    intro n hn hname
    exact hfresh ((h.named m.name).mpr ⟨n, hn, hname⟩)
  refine ⟨fun name => ?named, fun name hmem => ?headed, ?ordered⟩
  case named =>
    rw [Entries.names_concat, List.mem_append, List.mem_singleton, h.named, about_concat,
      eq_comm (a := name)]
  case headed =>
    rw [Entries.lookup_concat]
    rcases List.mem_append.mp hmem with hmem | hmem
    · obtain ⟨old, hold, hform⟩ := h.headed name hmem
      exact ⟨old, by rw [hold]; rfl, hform⟩
    · obtain rfl := List.mem_singleton.mp hmem
      exact ⟨item, by rw [free, if_pos rfl]; rfl, header rfl⟩
  case ordered =>
    have hlast : standing (ms ++ [m]) m.name = ms.length := standing_append_self (Or.inl hnew)
    exact h.ordered_concat item (List.Sublist.refl _) hfresh hlast

/-- An entry that grows stays where it is, and no other one moves. -/
theorem changes (h : InOrder ms es) {item item' : Item} (there : es.lookup m.name = some item)
    (form : item'.form? = item.form?) (inner : m.isHeader = false) :
    InOrder (ms ++ [m]) (es.replace m.name item') := by
  have hnames : (es.replace m.name item').names = es.names := Entries.names_replace es m.name item'
  have hthere : m.name ∈ es.names := Entries.mem_names_of_lookup there
  have hm : ∀ name, m ≠ ⟨name, true⟩ := by
    rintro name rfl
    cases inner
  refine ⟨fun name => ?named, fun name hmem => ?headed, ?ordered⟩
  case named =>
    rw [hnames, about_concat, ← h.named]
    refine ⟨Or.inl, ?_⟩
    rintro (hname | rfl)
    · exact hname
    · exact hthere
  case headed =>
    have hold : ⟨name, true⟩ ∈ ms := by
      rcases List.mem_append.mp hmem with hmem | hmem
      · exact hmem
      · exact (hm name (List.mem_singleton.mp hmem).symm).elim
    obtain ⟨old, hlookup, hform⟩ := h.headed name hold
    rw [Entries.lookup_replace, hlookup]
    by_cases hname : m.name = name
    · -- the table has grown, and still has its header
      have hitem : old = item := Option.some.inj (hlookup.symm.trans (hname ▸ there))
      exact ⟨item', if_pos hname, by rw [form, ← hitem, hform]⟩
    · exact ⟨old, if_neg hname, hform⟩
  case ordered =>
    rw [hnames]
    refine h.ordered.imp_of_mem fun ha hb hlt => ?_
    rwa [h.standing_append ha (hm _), h.standing_append hb (hm _)]

/-- A table that was only implied stands at its own header, and is moved to the end for that. -/
theorem moves (h : InOrder ms es) {name : String} {item item' : Item}
    (there : es.lookup name = some item) (implied : item.form? = some .implied)
    (form : item'.form? = some .header) :
    InOrder (ms ++ [⟨name, true⟩]) (es.remove name ++ [(name, item')]) := by
  -- a table with a header of its own would not be implied
  have hfirst : ⟨name, true⟩ ∉ ms := by
    intro hmem
    obtain ⟨old, hold, hform⟩ := h.headed name hmem
    obtain rfl := Option.some.inj (hold.symm.trans there)
    rw [implied] at hform
    cases hform
  have hgone : name ∉ (es.remove name).names := fun hmem => (Entries.mem_names_remove.mp hmem).2 rfl
  refine ⟨fun other => ?named, fun other hmem => ?headed, ?ordered⟩
  case named =>
    rw [Entries.names_concat, List.mem_append, List.mem_singleton, Entries.mem_names_remove,
      h.named, about_concat, eq_comm (a := other)]
    by_cases hname : name = other
    · simp [hname]
    · simp [hname, Ne.symm hname]
  case headed =>
    rw [Entries.lookup_concat]
    by_cases hother : name = other
    · subst hother
      rw [Entries.lookup_eq_none_iff.mpr hgone, if_pos rfl]
      exact ⟨item', rfl, form⟩
    · have hold : ⟨other, true⟩ ∈ ms := by
        rcases List.mem_append.mp hmem with hmem | hmem
        · exact hmem
        · cases List.mem_singleton.mp hmem
          exact (hother rfl).elim
      obtain ⟨old, hlookup, hform⟩ := h.headed other hold
      exact ⟨old, by rw [Entries.lookup_remove hother, hlookup]; rfl, hform⟩
  case ordered =>
    have hkept : (es.remove name).names.Sublist es.names := List.filter_sublist.map _
    have hlast : standing (ms ++ [⟨name, true⟩]) name = ms.length :=
      standing_append_self (Or.inr ⟨rfl, hfirst⟩)
    exact h.ordered_concat item' hkept hgone hlast

/-- **A step keeps the order.** -/
theorem step (h : InOrder ms es) {es' : Entries} (heffect : Effect m es es') :
    InOrder (ms ++ [m]) es' := by
  cases heffect with
  | adds item free header => exact h.adds free header
  | changes item item' there form inner => exact h.changes there form inner
  | moves item item' there implied form header =>
      obtain ⟨name, isHeader⟩ := m
      obtain rfl : isHeader = true := header
      exact h.moves there implied form

/-- **Carrying out statements keeps the order.** -/
theorem run {sts : List Statement} {d d' : Draft} (h : InOrder ms d.root)
    (hrun : sts.foldlM Draft.add d = some d') : InOrder (ms ++ marks d.opened sts) d'.root := by
  induction sts generalizing ms d with
  | nil =>
      obtain rfl := Option.some.inj hrun
      rwa [marks, List.append_nil]
  | cons st sts ih =>
      rw [List.foldlM_cons] at hrun
      obtain ⟨d₁, hadd, hrest⟩ := Option.bind_eq_some_iff.mp hrun
      obtain ⟨hopened, heffect⟩ := Draft.effect_of_add hadd
      have htail := ih (h.step heffect) hrest
      rwa [hopened, List.append_assoc] at htail

end InOrder

/-! ## Whole documents -/

/-- Reading lines carries out their statements. -/
theorem foldlM_statements {d d' : Draft} {s : Place} (h : lines d s = .ok d') :
    (statements s).foldlM Draft.add d = some d' := by
  fun_induction lines d s with
  | case1 d =>
      cases h
      rw [statements, dif_pos rfl]
      rfl
  | case2 => cases h
  | case3 d s hs r hline ih =>
      rw [statements, dif_neg hs]
      split
      · simp_all
      · next r' hline' =>
          obtain rfl : r = r' := by simp_all
          exact ih h
      · simp_all
  | case4 => cases h
  | case5 d s hs st r hline d₁ hadd ih =>
      rw [statements, dif_neg hs]
      split
      · simp_all
      · simp_all
      · next st' r' hline' =>
          obtain ⟨rfl, rfl⟩ : st = st' ∧ r = r' := by simp_all
          rw [List.foldlM_cons, hadd]
          exact ih h

/-- **The entries of a document are in the order in which they stand.** -/
theorem pairwise_standsAt_parse {text : String} {es : Entries} (h : parse text = .ok es) :
    es.names.Pairwise fun a b => standsAt text a < standsAt text b := by
  rw [parse] at h
  split at h
  · next d hd =>
      obtain rfl := Except.ok.inj h
      exact (InOrder.nil.run (foldlM_statements hd)).ordered
  · cases h

end Toml

end RelayProbe
