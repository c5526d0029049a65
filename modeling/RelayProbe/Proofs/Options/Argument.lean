import Mathlib
import RelayProbe.Options.Spelling

set_option autoImplicit false

/-! # What arguments look like

What is made of an argument depends on its first bytes only: a word can stand alone, two dashes
close the line, and a setting is recognised by its long name or its letter, with what stands behind
that as its value. For each of these this file says which arguments they are. Reading a command
line needs to know no more about the bytes of an argument than `spelling_iff` tells.
-/

namespace RelayProbe

namespace Options

namespace Known

/-- An option is found by its long name. -/
theorem find_long (o : Known) : all.find? (utf8 ·.long = utf8 o.long) = some o := by
  rcases o with s | f
  · cases s <;> decide
  · cases f <;> decide

/-- The long names have no equals sign. -/
theorem equals_notMem_long (o : Known) : Argument.equals ∉ utf8 o.long := by
  rcases o with s | f
  · cases s <;> decide
  · cases f <;> decide

end Known

/-- A setting is found by its letter. -/
theorem Setting.find_letter {s : Setting} {c : UInt8} (h : s.letter? = some c) :
    Known.all.find? (·.letter?.map (·.toNat) = some c.toNat) = some (.setting s) := by
  cases s <;> cases h <;> decide

/-- The dash is the letter of no setting. -/
theorem Setting.letter_ne_dash {s : Setting} {c : UInt8} (h : s.letter? = some c) :
    c ≠ Argument.dash := by
  cases s <;> cases h <;> decide

namespace Argument

/-! ## Long options -/

/-- Without an equals sign a long option is all name. -/
theorem cutValue_of_notMem {name : Bytes} (h : equals ∉ name) : cutValue name = (name, none) := by
  have hall : name.dropWhile (· ≠ equals) = [] := by
    rw [List.dropWhile_eq_nil_iff]
    intro x hx
    exact decide_eq_true fun he => h (he ▸ hx)
  rw [cutValue, hall]

/-- The value attached to a long option stands behind the first equals sign. -/
theorem cutValue_append {name : Bytes} (h : equals ∉ name) (value : Bytes) :
    cutValue (name ++ equals :: value) = (name, some value) := by
  have hall : ∀ x ∈ name, decide (x ≠ equals) = true :=
    fun x hx => decide_eq_true fun he => h (he ▸ hx)
  rw [cutValue, List.dropWhile_append_of_pos hall, List.takeWhile_append_of_pos hall]
  simp

/-- A long option is known by its name; what is attached to it stands behind an equals sign. -/
theorem ofLong_eq_known_iff {bs : Bytes} {o : Known} {value : Option Bytes} :
    ofLong bs = known o value ↔ bs = utf8 o.long ++ value.elim [] (equals :: ·) := by
  constructor
  · intro h
    by_cases hmem : equals ∈ bs
    · obtain ⟨name, v, rfl, hname⟩ := List.eq_append_cons_of_mem hmem
      rw [ofLong, cutValue_append hname] at h
      simp only at h
      split at h
      · next o' hfind =>
          obtain ⟨rfl, rfl⟩ := known.inj h
          have hlong : utf8 o'.long = name := by simpa using List.find?_some hfind
          rw [hlong]
          rfl
      · cases h
    · rw [ofLong, cutValue_of_notMem hmem] at h
      simp only at h
      split at h
      · next o' hfind =>
          obtain ⟨rfl, rfl⟩ := known.inj h
          have hlong : utf8 o'.long = bs := by simpa using List.find?_some hfind
          rw [hlong]
          exact (List.append_nil bs).symm
      · cases h
  · rintro rfl
    cases value with
    | none =>
        rw [Option.elim_none, List.append_nil, ofLong, cutValue_of_notMem o.equals_notMem_long]
        simp only [Known.find_long]
    | some v =>
        rw [Option.elim_some, ofLong, cutValue_append o.equals_notMem_long]
        simp only [Known.find_long]

/-- A long option is an option, known or not. -/
theorem ofLong_ne (bs : Bytes) : ofLong bs ≠ word ∧ ofLong bs ≠ separator := by
  rw [ofLong]
  split
  split <;> simp

/-! ## Letters -/

/-- A setting is known by its letter, and its value is what stands behind it. -/
theorem ofLetters_eq_setting_iff {b : UInt8} {bs : Bytes} {s : Setting} {value : Option Bytes} :
    ofLetters (b :: bs) = known (.setting s) value ↔
      s.letter? = some b ∧ behindLetter bs = value := by
  constructor
  · intro h
    rw [ofLetters] at h
    split at h
    · cases h
    · next o _ hfind =>
        obtain ⟨rfl, rfl⟩ := known.inj h
        refine ⟨?_, rfl⟩
        have hletter := List.find?_some hfind
        rw [decide_eq_true_eq] at hletter
        obtain ⟨c, hc, hcode⟩ := Option.map_eq_some_iff.mp hletter
        rw [Setting.letter?, hc, Option.map_some, Option.some_inj]
        rw [← UInt8.toNat_inj, ← hcode]
        cases s <;> cases hc <;> rfl
    · cases h
  · rintro ⟨hletter, rfl⟩
    rw [ofLetters, Setting.find_letter hletter]

/-- A letter is an option, known or not. -/
theorem ofLetters_ne (b : UInt8) (bs : Bytes) :
    ofLetters (b :: bs) ≠ word ∧ ofLetters (b :: bs) ≠ separator := by
  rw [ofLetters]
  split <;> simp

/-- The value behind a letter stands there as it is, if it does not begin with an equals sign, or
behind an equals sign. -/
theorem behindLetter_eq_some_iff {bs v : Bytes} :
    behindLetter bs = some v ↔
      bs = equals :: v ∨ v ≠ [] ∧ v.head? ≠ some equals ∧ bs = v := by
  cases bs with
  | nil =>
      constructor
      · intro h
        cases h
      · rintro (h | ⟨hv, -, h⟩)
        · cases h
        · exact (hv h.symm).elim
  | cons b bs =>
      rw [behindLetter, Option.some_inj]
      by_cases hb : b = equals
      · subst hb
        rw [if_pos rfl]
        constructor
        · rintro rfl
          exact Or.inl rfl
        · rintro (h | ⟨-, hhead, rfl⟩)
          · exact (List.cons.inj h).2
          · exact (hhead rfl).elim
      · rw [if_neg hb]
        constructor
        · rintro rfl
          exact Or.inr ⟨List.cons_ne_nil b bs, fun h => hb (Option.some.inj h), rfl⟩
        · rintro (h | ⟨-, -, h⟩)
          · exact (hb (List.cons.inj h).1).elim
          · exact h

theorem behindLetter_eq_none_iff {bs : Bytes} : behindLetter bs = none ↔ bs = [] := by
  cases bs <;> simp [behindLetter]

/-! ## Any argument -/

/-- A word is what can stand alone. -/
theorem ofBytes_eq_word_iff {a : Bytes} : ofBytes a = word ↔ StandsAlone a := by
  match a with
  | [] => simp [ofBytes, StandsAlone]
  | [x] => simp [ofBytes, StandsAlone]
  | x :: y :: r =>
      rw [ofBytes, StandsAlone, List.head?_cons, Option.some_inj]
      by_cases hx : x = dash
      · have hno : x :: y :: r ≠ [dash] := by simp
        simp only [hx, true_and, if_true, forall_const]
        rw [hx] at hno
        refine iff_of_false ?_ hno
        split
        · split
          · simp
          · exact (ofLong_ne r).1
        · exact (ofLetters_ne y r).1
      · simp [hx]

/-- Only two dashes with nothing behind them close the line. -/
theorem ofBytes_eq_separator_iff {a : Bytes} : ofBytes a = separator ↔ a = [dash, dash] := by
  match a with
  | [] => simp [ofBytes]
  | [x] => simp [ofBytes]
  | x :: y :: r =>
      rw [ofBytes]
      split
      · next h =>
          obtain ⟨rfl, rfl⟩ := h
          split
          · next hr => simp [hr]
          · next hr => simp [hr, (ofLong_ne r).2]
      · next h =>
          have hne : x :: y :: r ≠ [dash, dash] := fun he => by simp_all
          split
          · simp [hne, (ofLetters_ne y r).2]
          · simp [hne]

/-- A setting is recognised by its long name or by its letter. -/
theorem ofBytes_eq_setting_iff {a : Bytes} {s : Setting} {value : Option Bytes} :
    ofBytes a = known (.setting s) value ↔
      a = s.longName ++ value.elim [] (equals :: ·) ∨
        ∃ c rest, s.letter? = some c ∧ behindLetter rest = value ∧ a = dash :: c :: rest := by
  have hlong : utf8 (Known.setting s).long ≠ [] := by cases s <;> decide
  constructor
  · intro h
    match a, h with
    | x :: y :: r, h =>
        rw [ofBytes] at h
        split at h
        · next hd =>
            obtain ⟨rfl, rfl⟩ := hd
            split at h
            · cases h
            · exact Or.inl (by rw [ofLong_eq_known_iff.mp h]; rfl)
        · split at h
          · next hx =>
              obtain ⟨hletter, hvalue⟩ := ofLetters_eq_setting_iff.mp h
              exact Or.inr ⟨y, r, hletter, hvalue, by rw [hx]⟩
          · cases h
  · rintro (rfl | ⟨c, rest, hletter, hvalue, rfl⟩)
    · have hdashes : s.longName ++ value.elim [] (equals :: ·) =
          dash :: dash :: (utf8 (Known.setting s).long ++ value.elim [] (equals :: ·)) := rfl
      rw [hdashes, ofBytes, if_pos ⟨rfl, rfl⟩,
        if_neg fun h => hlong (List.append_eq_nil_iff.mp h).1]
      exact ofLong_eq_known_iff.mpr rfl
    · rw [ofBytes, if_neg fun h => Setting.letter_ne_dash hletter h.2, if_pos rfl]
      exact ofLetters_eq_setting_iff.mpr ⟨hletter, hvalue⟩

end Argument

open Argument

/-- A setting is spelled by one argument that holds its value, or by one that does not and a word
behind it. -/
theorem spelling_iff {s : Setting} {v : Bytes} {front : List Bytes} :
    Spelling s v front ↔
      (∃ a, ofBytes a = known (.setting s) (some v) ∧ front = [a]) ∨
        ∃ a, ofBytes a = known (.setting s) none ∧ ofBytes v = word ∧ front = [a, v] := by
  constructor
  · rintro (alone | - | ⟨own, alone⟩ | own | ⟨own, hv, hhead⟩)
    · exact Or.inr ⟨_, ofBytes_eq_setting_iff.mpr (Or.inl (List.append_nil _).symm),
        ofBytes_eq_word_iff.mpr alone, rfl⟩
    · exact Or.inl ⟨_, ofBytes_eq_setting_iff.mpr (Or.inl rfl), rfl⟩
    · exact Or.inr ⟨_, ofBytes_eq_setting_iff.mpr (Or.inr ⟨_, _, own, rfl, rfl⟩),
        ofBytes_eq_word_iff.mpr alone, rfl⟩
    · have hvalue := behindLetter_eq_some_iff.mpr (Or.inl (rfl : equals :: v = equals :: v))
      exact Or.inl ⟨_, ofBytes_eq_setting_iff.mpr (Or.inr ⟨_, _, own, hvalue, rfl⟩), rfl⟩
    · have hvalue := behindLetter_eq_some_iff.mpr (Or.inr ⟨hv, hhead, rfl⟩)
      exact Or.inl ⟨_, ofBytes_eq_setting_iff.mpr (Or.inr ⟨_, _, own, hvalue, rfl⟩), rfl⟩
  · rintro (⟨a, ha, rfl⟩ | ⟨a, ha, hv, rfl⟩)
    · rcases ofBytes_eq_setting_iff.mp ha with rfl | ⟨c, rest, own, hvalue, rfl⟩
      · exact .longAttached
      · rcases behindLetter_eq_some_iff.mp hvalue with rfl | ⟨hne, hhead, rfl⟩
        · exact .letterEquals own
        · exact .letterAttached own hne hhead
    · have alone := ofBytes_eq_word_iff.mp hv
      rcases ofBytes_eq_setting_iff.mp ha with rfl | ⟨c, rest, own, hvalue, rfl⟩
      · rw [Option.elim_none, List.append_nil]
        exact .long alone
      · obtain rfl := behindLetter_eq_none_iff.mp hvalue
        exact .letter own alone

end Options

end RelayProbe
