import Mathlib
import RelayProbe.Log.Filter

set_option autoImplicit false

/-! # Levels and what they let through

A threshold lets those records through that are at least as severe as it says
(`atLeast_eq_filter`). A text that is its rank, or its name in any letter case, denotes it
(`parse?_of_denotes`), and as the text of a whole filter it lets the same records through, whatever
their source (`apply_of_denotes`): such a text is made of ASCII letters and digits, none of which is
a sign in a filter.
-/

namespace RelayProbe

namespace Log

/-! ## Letters and digits -/

theorem toNat_lt_of_isAlphanum {c : Char} (h : c.isAlphanum = true) : c.toNat < 128 := by
  simp only [Char.isAlphanum, Char.isAlpha, Char.isUpper, Char.isLower, Char.isDigit,
    Bool.or_eq_true, Bool.and_eq_true, decide_eq_true_eq, UInt32.le_iff_toNat_le] at h
  -- the last of them is `z`
  have hz : c.val.toNat ≤ 122 := by
    rcases h with (⟨-, h⟩ | ⟨-, h⟩) | ⟨-, h⟩
    · exact h.trans (by decide)
    · exact h
    · exact h.trans (by decide)
  exact Nat.lt_of_le_of_lt hz (by decide)

/-- The letters and digits of ASCII are no signs in a filter, and a directive may start with them. -/
theorem plain_of_isAlphanum {c : Char} (h : c.isAlphanum = true) :
    Directive.mayStart c = true ∧ Text.isBlank c = false ∧ c ≠ ',' ∧ c ≠ '=' ∧ c ≠ '[' := by
  -- few enough to try them all, for the table of letters is only read up to their codes
  have key : ∀ n < 128, (Char.ofNat n).isAlphanum = true →
      Directive.mayStart (Char.ofNat n) = true ∧ Text.isBlank (Char.ofNat n) = false ∧
        Char.ofNat n ≠ ',' ∧ Char.ofNat n ≠ '=' ∧ Char.ofNat n ≠ '[' := by
    decide +kernel
  have hc := key c.toNat (toNat_lt_of_isAlphanum h)
  rw [Char.ofNat_toNat] at hc
  exact hc h

/-- A number does not start with a letter. -/
theorem number?_eq_none {c : Char} (h : c.isAlpha = true) (cs : List Char) :
    Threshold.number? (c :: cs) = none := by
  have key : ∀ n < 128, (Char.ofNat n).isAlpha = true →
      Char.ofNat n ≠ '+' ∧ Digits.isDigitOf 10 (Char.ofNat n) = false := by
    decide +kernel
  have hc := key c.toNat (toNat_lt_of_isAlphanum (by rw [Char.isAlphanum, h, Bool.true_or]))
  rw [Char.ofNat_toNat] at hc
  obtain ⟨hplus, hdigit⟩ := hc h
  have hnumber : Threshold.number? (c :: cs) = Digits.number? 10 (c :: cs) := by
    rw [Threshold.number?]
    intro rest heq
    exact hplus (List.cons.inj heq).1
  rw [hnumber, Digits.number?, if_neg]
  rintro ⟨-, hall⟩
  rw [List.all_cons, hdigit] at hall
  cases hall

/-! ## Thresholds -/

theorem Level.rank_pos (l : Level) : 0 < l.rank := by
  cases l <;> decide

theorem Level.rank_le (l : Level) : l.rank ≤ 5 := by
  cases l <;> decide

namespace Threshold

/-- The rank of a threshold, `0` for the one that lets nothing through. -/
def rank : Threshold → Nat
  | none => 0
  | some l => l.rank

theorem admits_iff {t : Threshold} {l : Level} : t.admits l = true ↔ l.rank ≤ t.rank := by
  cases t with
  | none => exact iff_of_false Bool.false_ne_true (Nat.not_le.mpr l.rank_pos)
  | some m => exact decide_eq_true_iff

/-- A threshold lets through what is at least as severe as it says, in order. -/
theorem atLeast_eq_filter (t : Threshold) (rs : List Record) :
    atLeast t rs = rs.filter (·.level.rank ≤ t.rank) := by
  refine List.filter_congr fun r _ => ?_
  rw [Bool.eq_iff_iff, admits_iff, decide_eq_true_iff]

/-- The names of the thresholds, by their ranks. -/
def names : List String := ["off", "error", "warn", "info", "debug", "trace"]

/-- A text stands for the threshold of a rank: it is the rank, or the name in any letter case. -/
def Denotes (s : String) (n : Nat) : Prop :=
  ∃ name, names[n]? = some name ∧ (s.map Char.toLower = name ∨ s = toString n)

/-- There are six names, all of them of small letters. -/
theorem of_names {n : Nat} {name : String} (h : names[n]? = some name) :
    n < 6 ∧ name ≠ "" ∧ ∀ c ∈ name.toList, c.isLower = true := by
  have key : ∀ name ∈ names, name ≠ "" ∧ name.toList.all Char.isLower = true := by decide
  obtain ⟨hn, rfl⟩ := List.getElem?_eq_some_iff.mp h
  obtain ⟨hne, hlower⟩ := key _ (List.getElem_mem hn)
  exact ⟨hn, hne, List.all_eq_true.mp hlower⟩

theorem exists_ofRank? {n : Nat} (h : n < 6) : ∃ t, ofRank? n = some t ∧ t.rank = n := by
  interval_cases n <;> exact ⟨_, rfl, rfl⟩

theorem ofName?_of_lower {s name : String} {n : Nat} (hname : names[n]? = some name)
    (hs : s.map Char.toLower = name) : ofName? s = ofRank? n := by
  have hn := (of_names hname).1
  unfold ofName?
  rw [hs]
  interval_cases n <;> cases hname <;> rfl

/-- A text that is a name in any letter case starts with a letter, and has only letters. -/
theorem isAlpha_of_lower {s name : String} {n : Nat} (hname : names[n]? = some name)
    (hs : s.map Char.toLower = name) : s ≠ "" ∧ ∀ c ∈ s.toList, c.isAlpha = true := by
  obtain ⟨-, hne, hlower⟩ := of_names hname
  constructor
  · rintro rfl
    rw [← hs, ← String.toList_eq_nil_iff.ne, String.toList_map] at hne
    exact hne rfl
  · intro c hc
    have hmem : c.toLower ∈ name.toList := by
      rw [← hs, String.toList_map]
      exact List.mem_map_of_mem hc
    rw [← Char.isLower_toLower_eq_isAlpha]
    exact hlower _ hmem

/-- **A level by rank or by name**: what is read is the threshold of that rank. -/
theorem parse?_of_denotes {s : String} {n : Nat} (h : Denotes s n) : parse? s = ofRank? n := by
  obtain ⟨name, hname, hs | rfl⟩ := h
  · obtain ⟨hne, halpha⟩ := isAlpha_of_lower hname hs
    obtain ⟨c, cs, hcs⟩ := List.exists_cons_of_ne_nil (mt String.toList_eq_nil_iff.mp hne)
    have hnumber : number? s.toList = none := by
      rw [hcs]
      exact number?_eq_none (halpha c (hcs ▸ List.mem_cons_self)) cs
    rw [parse?, hnumber, ← ofName?_of_lower hname hs]
    exact if_neg (by simpa using hne)
  · have hn := (of_names hname).1
    interval_cases n <;> decide

/-- A text that stands for a threshold is not empty, and has only letters and digits of ASCII. -/
theorem Denotes.isAlphanum {s : String} {n : Nat} (h : Denotes s n) :
    s ≠ "" ∧ ∀ c ∈ s.toList, c.isAlphanum = true := by
  obtain ⟨name, hname, hs | rfl⟩ := h
  · obtain ⟨hne, halpha⟩ := isAlpha_of_lower hname hs
    exact ⟨hne, fun c hc => by rw [Char.isAlphanum, halpha c hc, Bool.true_or]⟩
  · have key : ∀ n < 6, toString n ≠ "" ∧ (toString n).toList.all Char.isAlphanum = true := by
      decide
    obtain ⟨hne, hall⟩ := key n (of_names hname).1
    exact ⟨hne, List.all_eq_true.mp hall⟩

end Threshold

/-! ## Filters -/

/-- A text without blank space is as it is without the blank space at its ends. -/
theorem trimmed_eq_self {cs : List Char} (h : ∀ c ∈ cs, Text.isBlank c = false) :
    Text.trimmed cs = cs := by
  have hdrop : ∀ ds : List Char, (∀ c ∈ ds, Text.isBlank c = false) →
      ds.dropWhile Text.isBlank = ds := by
    intro ds hds
    cases ds with
    | nil => rfl
    | cons d ds => rw [List.dropWhile_cons_of_neg (by simp [hds d List.mem_cons_self])]
  rw [Text.trimmed, hdrop cs h, hdrop cs.reverse fun c hc => h c (List.mem_reverse.mp hc),
    List.reverse_reverse]

/-- A directive of letters and digits that is a threshold is that threshold, for all sources. -/
theorem Directive.parse_of_isAlphanum {s : String} {t : Threshold} (hne : s ≠ "")
    (hs : ∀ c ∈ s.toList, c.isAlphanum = true) (ht : Threshold.parse? s = some t) :
    parse s = .ok (.sources "" t) := by
  obtain ⟨c, cs, hcs⟩ := List.exists_cons_of_ne_nil (mt String.toList_eq_nil_iff.mp hne)
  have htrimmed : Text.trimmed s.toList = c :: cs := by
    rw [trimmed_eq_self fun c hc => (plain_of_isAlphanum (hs c hc)).2.1, hcs]
  -- no sign ends the name, so nothing is left behind it
  have hname : (c :: cs).takeWhile (fun d => d ≠ '=' && d ≠ '[') = c :: cs := by
    rw [List.takeWhile_eq_self_iff]
    intro d hd
    obtain ⟨-, -, -, heq, hopen⟩ := plain_of_isAlphanum (hs d (hcs ▸ hd))
    simp [heq, hopen]
  obtain ⟨hstart, -, -, -, hopen⟩ := plain_of_isAlphanum (hs c (hcs ▸ List.mem_cons_self))
  simp only [parse, htrimmed]
  rw [if_neg hopen, hstart, if_neg (by decide)]
  simp only [hname, List.drop_length, ht]

/-- A filter of one level for all sources lets through what the threshold of that level does. -/
theorem Filter.apply_sources (t : Threshold) (rs : List Record) :
    Filter.apply ⟨[.sources "" t]⟩ rs = atLeast t rs := rfl

/-- **A level as a filter**: it is read, and lets through the records that are at least as severe. -/
theorem Filter.apply_of_denotes {s : String} {n : Nat} (h : Threshold.Denotes s n) :
    ∃ f t, Filter.parse s = .ok f ∧ Threshold.parse? s = some t ∧ t.rank = n ∧
      ∀ rs, f.apply rs = atLeast t rs := by
  obtain ⟨hne, hs⟩ := h.isAlphanum
  have hparse := Threshold.parse?_of_denotes h
  obtain ⟨name, hname, -⟩ := h
  obtain ⟨t, ht, hrank⟩ := Threshold.exists_ofRank? (Threshold.of_names hname).1
  rw [ht] at hparse
  -- there is no comma in the text, so it is the only directive
  have hpieces : pieces s = [s] := by
    have hcomma : ',' ∉ s.toList := fun hc => (plain_of_isAlphanum (hs _ hc)).2.2.1 rfl
    simp [pieces, List.splitOn_eq_singleton hcomma, hne]
  refine ⟨_, t, ?_, hparse, hrank, apply_sources t⟩
  rw [parse, hpieces, List.mapM_cons, Directive.parse_of_isAlphanum hne hs hparse]
  rfl

end Log

end RelayProbe
