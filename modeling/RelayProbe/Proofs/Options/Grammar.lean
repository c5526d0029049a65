import RelayProbe.Proofs.Options.Argument

set_option autoImplicit false

/-! # The accepted command lines are those of the grammar

The arguments are read from left to right, and a setting may be pending for a while before it
counts. When a line is accepted this makes no difference: it may as well count at once
(`finish_pending`). So the lines that are accepted are those that are made of spellings of different
settings, one after the other (`finish_eq_ok_iff`), and what they say does not depend on the order
of the settings or on how they are spelled.
-/

namespace RelayProbe

namespace Options

open Argument

/-! ## What may be given -/

@[simp] theorem Given.settings_nil : Given.settings [] = [] := rfl

@[simp] theorem Given.settings_cons (s : Setting) (v : Bytes) (g : Given) :
    Given.settings ((s, v) :: g) = s :: g.settings := rfl

@[simp] theorem Given.settings_append (g h : Given) :
    Given.settings (g ++ h) = g.settings ++ h.settings := List.map_append

@[simp] theorem checked_none (g : Given) : checked (g, none) = .ok g := rfl

theorem checked_eq_ok_iff {r : Given × Option Refusal} {g : Given} :
    checked r = .ok g ↔ r = (g, none) := by
  rcases r with ⟨h, _ | f⟩ <;> simp [checked]

/-- Nothing is wrong with the values that a setting admits. -/
theorem valueFault_eq_none_iff {s : Setting} {v : Bytes} :
    valueFault? s v = none ↔ s.Admits v := by
  rw [valueFault?, Setting.Admits]
  by_cases hs : s = .config
  · simp [hs]
  · simp [hs, Option.isSome_iff_ne_none]

/-- A setting can be given once, with a value that it admits. -/
theorem checked_add_eq_ok_iff {g g' : Given} {s : Setting} {v : Bytes} :
    checked (g.add s v) = .ok g' ↔ s ∉ g.settings ∧ s.Admits v ∧ g' = g ++ [(s, v)] := by
  rw [checked_eq_ok_iff, Given.add]
  by_cases hs : s ∈ g.settings
  · simp [hs]
  · rw [if_neg hs, Prod.mk.injEq, valueFault_eq_none_iff]
    constructor
    · rintro ⟨rfl, hv⟩
      exact ⟨hs, hv, rfl⟩
    · rintro ⟨-, hv, rfl⟩
      exact ⟨rfl, hv⟩

/-! ## Reading to the end -/

/-- What is given once the arguments are read from some point on, all together. -/
def Progress.finish (p : Progress) (args : List Bytes) : Except Refusal Given :=
  match args.foldlM Progress.step p with
  | .error r => .error r
  | .ok q => checked q.settle

theorem given_eq_finish (args : List Bytes) : given args = Progress.finish {} args := rfl

namespace Progress

theorem finish_nil (p : Progress) : p.finish [] = checked p.settle := rfl

theorem finish_cons (p : Progress) (a : Bytes) (args : List Bytes) :
    p.finish (a :: args) =
      match p.step a with
      | .error r => .error r
      | .ok q => q.finish args := by
  rw [finish, List.foldlM_cons]
  cases p.step a <;> rfl

/-- Behind the two dashes nothing may stand. -/
theorem finish_closed {g g' : Given} {pending : Option (Setting × Option Bytes)}
    {args : List Bytes} :
    finish ⟨g, pending, true⟩ args = .ok g' ↔
      args = [] ∧ checked (settle ⟨g, pending, true⟩) = .ok g' := by
  cases args with
  | nil => simp [finish_nil]
  | cons a args => simp [finish_cons, step]

/-- A setting that is pending with its value may as well count at once. -/
theorem finish_pending {g g' : Given} {s : Setting} {v : Bytes} {args : List Bytes} :
    finish ⟨g, some (s, some v), false⟩ args = .ok g' ↔
      ∃ h, checked (g.add s v) = .ok h ∧ finish ⟨h, none, false⟩ args = .ok g' := by
  cases args with
  | nil =>
      rw [finish_nil]
      show checked (g.add s v) = .ok g' ↔ ∃ h, _ ∧ Except.ok h = .ok g'
      simp
  | cons a args =>
      simp only [finish_cons, step, Bool.false_eq_true, if_false]
      -- an option settles the pending setting first, and everything else but two dashes is refused
      cases ofBytes a with
      | word => simp
      | separator =>
          simp only [finish_closed, settle]
          show _ ↔ ∃ h, _ ∧ args = [] ∧ Except.ok h = .ok g'
          simp [and_comm]
      | known o value =>
          cases hadd : checked (g.add s v) with
          | error r => rcases o with t | f <;> cases value <;> simp [settle, hadd, Except.map]
          | ok h =>
              rcases o with t | f <;> cases value <;> simp [settle, hadd, Except.map]
      | unknownLong name => simp
      | unknownLetter shown => simp

/-- A setting that is pending without a value takes the next argument, which has to be a word. -/
theorem finish_open {g g' : Given} {s : Setting} {args : List Bytes} :
    finish ⟨g, some (s, none), false⟩ args = .ok g' ↔
      ∃ v rest, args = v :: rest ∧ ofBytes v = word ∧
        finish ⟨g, some (s, some v), false⟩ rest = .ok g' := by
  cases args with
  | nil => simp [finish_nil, settle, checked]
  | cons a args =>
      simp only [finish_cons, step, Bool.false_eq_true, if_false]
      cases ha : ofBytes a with
      | word => simp [ha]
      | separator => simp [ha, finish_closed, settle, checked]
      | known o value => rcases o with t | f <;> cases value <;> simp [ha, settle, checked, Except.map]
      | unknownLong name => simp [ha]
      | unknownLetter shown => simp [ha]

/-- A setting with an attached value counts at once. -/
theorem finish_attached {g g' : Given} {s : Setting} {v a : Bytes} {args : List Bytes}
    (ha : ofBytes a = known (.setting s) (some v)) :
    finish ⟨g, none, false⟩ (a :: args) = .ok g' ↔
      ∃ h, checked (g.add s v) = .ok h ∧ finish ⟨h, none, false⟩ args = .ok g' := by
  simp only [finish_cons, step, ha, settle, checked_none, Bool.false_eq_true, if_false]
  cases checked (g.add s v) <;> simp [Except.map]

/-- A setting without an attached value is pending. -/
theorem finish_unattached {g g' : Given} {s : Setting} {a : Bytes} {args : List Bytes}
    (ha : ofBytes a = known (.setting s) none) :
    finish ⟨g, none, false⟩ (a :: args) = .ok g' ↔
      finish ⟨g, some (s, none), false⟩ args = .ok g' := by
  simp only [finish_cons, step, ha, settle, checked_none, Bool.false_eq_true, if_false]
  simp [Except.map]

/-- **One spelling after the other**: an accepted line is at its end, or only two dashes are left,
or it goes on with a spelling of a setting that was not given yet. -/
theorem finish_iff {g g' : Given} {args : List Bytes} :
    finish ⟨g, none, false⟩ args = .ok g' ↔
      (args = [] ∨ args = [[dash, dash]]) ∧ g' = g ∨
        ∃ s v front rest, args = front ++ rest ∧ Spelling s v front ∧ s ∉ g.settings ∧
          s.Admits v ∧ finish ⟨g ++ [(s, v)], none, false⟩ rest = .ok g' := by
  constructor
  · intro h
    cases args with
    | nil => exact Or.inl ⟨Or.inl rfl, (Except.ok.inj h).symm⟩
    | cons a args =>
        cases ha : ofBytes a with
        | word => simp [finish_cons, step, ha] at h
        | separator =>
            simp only [finish_cons, step, ha, Bool.false_eq_true, if_false, finish_closed] at h
            obtain ⟨rfl, hg⟩ := h
            rw [ofBytes_eq_separator_iff.mp ha]
            exact Or.inl ⟨Or.inr rfl, (Except.ok.inj hg).symm⟩
        | known o value =>
            rcases o with s | f
            · refine Or.inr ?_
              cases value with
              | none =>
                  obtain ⟨v, rest, rfl, hv, hrest⟩ := finish_open.mp ((finish_unattached ha).mp h)
                  obtain ⟨k, hk, hfinish⟩ := finish_pending.mp hrest
                  obtain ⟨hfresh, hadmits, rfl⟩ := checked_add_eq_ok_iff.mp hk
                  exact ⟨s, v, [a, v], rest, rfl, spelling_iff.mpr (Or.inr ⟨a, ha, hv, rfl⟩),
                    hfresh, hadmits, hfinish⟩
              | some v =>
                  obtain ⟨k, hk, hfinish⟩ := (finish_attached ha).mp h
                  obtain ⟨hfresh, hadmits, rfl⟩ := checked_add_eq_ok_iff.mp hk
                  exact ⟨s, v, [a], args, rfl, spelling_iff.mpr (Or.inl ⟨a, ha, rfl⟩),
                    hfresh, hadmits, hfinish⟩
            · cases value <;> simp [finish_cons, step, ha, settle] at h
        | unknownLong name => simp [finish_cons, step, ha] at h
        | unknownLetter shown => simp [finish_cons, step, ha] at h
  · rintro (⟨rfl | rfl, rfl⟩ | ⟨s, v, front, rest, rfl, hspelling, hfresh, hadmits, hfinish⟩)
    · rfl
    · rfl
    · have hadd := checked_add_eq_ok_iff.mpr ⟨hfresh, hadmits, rfl⟩
      rcases spelling_iff.mp hspelling with ⟨a, ha, rfl⟩ | ⟨a, ha, hv, rfl⟩
      · exact (finish_attached ha).mpr ⟨_, hadd, hfinish⟩
      · refine (finish_unattached ha).mpr (finish_open.mpr ⟨v, rest, rfl, hv, ?_⟩)
        exact finish_pending.mpr ⟨_, hadd, hfinish⟩

end Progress

/-! ## Whole lines -/

theorem Spelling.length_pos {s : Setting} {v : Bytes} {front : List Bytes}
    (h : Spelling s v front) : 0 < front.length := by
  cases h <;> simp

/-- The rest of a line is accepted when it spells settings that were not given before. -/
theorem finish_eq_ok_iff {g g' : Given} {args : List Bytes} :
    Progress.finish ⟨g, none, false⟩ args = .ok g' ↔
      ∃ more, Spells more args ∧ (∀ s ∈ more.settings, s ∉ g.settings) ∧ g' = g ++ more := by
  constructor
  · -- along the spellings of the line, each of which takes an argument at least
    induction hn : args.length using Nat.strongRecOn generalizing args g with
    | ind n ih =>
        intro h
        rcases Progress.finish_iff.mp h with
          ⟨rfl | rfl, rfl⟩ | ⟨s, v, front, rest, rfl, hspelling, hfresh, hadmits, hfinish⟩
        · exact ⟨[], .nil, by simp, (List.append_nil g').symm⟩
        · exact ⟨[], .separator, by simp, (List.append_nil g').symm⟩
        · have hshorter : rest.length < n := by
            have := hspelling.length_pos
            rw [← hn, List.length_append]
            omega
          obtain ⟨more, hmore, hnew, rfl⟩ := ih _ hshorter rfl hfinish
          refine ⟨(s, v) :: more, .cons ?_ hadmits hspelling hmore, ?_, by simp⟩
          · intro hs
            exact hnew s hs (by simp)
          · intro t ht
            rcases List.mem_cons.mp ht with rfl | ht
            · exact hfresh
            · intro hg
              exact hnew t ht (by simp [hg])
  · rintro ⟨more, hspells, hnew, rfl⟩
    induction hspells generalizing g with
    | nil => simp [Progress.finish_nil, Progress.settle]
    | separator => exact Progress.finish_iff.mpr (Or.inl ⟨Or.inr rfl, List.append_nil g⟩)
    | @cons s v more front rest fresh admits spelling _ ih =>
        have hs : s ∉ g.settings := hnew s List.mem_cons_self
        have hrest : ∀ t ∈ more.settings, t ∉ Given.settings (g ++ [(s, v)]) := by
          intro t ht
          have htg := hnew t (List.mem_cons_of_mem s ht)
          have hts : t ≠ s := fun he => fresh (he ▸ ht)
          simp [htg, hts]
        refine Progress.finish_iff.mpr (Or.inr ⟨s, v, front, rest, rfl, spelling, hs, admits, ?_⟩)
        rw [ih hrest, List.append_assoc]
        rfl

/-- The arguments that are accepted are those that spell different settings. -/
theorem given_eq_ok_iff {g : Given} {args : List Bytes} : given args = .ok g ↔ Spells g args := by
  rw [given_eq_finish, finish_eq_ok_iff]
  constructor
  · rintro ⟨more, hspells, -, rfl⟩
    exact hspells
  · intro hspells
    exact ⟨g, hspells, by simp, rfl⟩

/-! ## What an accepted line says -/

/-- A setting that is given once has the value it was given. -/
theorem Given.lookup_eq_some_iff {g : Given} (h : g.settings.Nodup) {s : Setting} {v : Bytes} :
    g.lookup s = some v ↔ (s, v) ∈ g := by
  induction g with
  | nil => simp
  | cons p g ih =>
      obtain ⟨t, w⟩ := p
      rw [Given.settings_cons, List.nodup_cons] at h
      rw [List.lookup_cons, List.mem_cons, Prod.mk.injEq]
      by_cases hs : s = t
      · have hnot : (s, v) ∉ g := fun hmem => h.1 (hs ▸ List.mem_map.mpr ⟨_, hmem, rfl⟩)
        simp [hs] at hnot ⊢
        simp [hnot, eq_comm]
      · have hne : (s == t) = false := by simpa using hs
        simp only [hne, hs, false_and, false_or]
        exact ih h.2

/-- The order in which settings are given does not matter. -/
theorem Given.lookup_perm {g h : Given} (hg : g.settings.Nodup) (hperm : g.Perm h) (s : Setting) :
    g.lookup s = h.lookup s := by
  have hh : h.settings.Nodup := (hperm.map _).nodup_iff.mp hg
  ext v
  rw [Given.lookup_eq_some_iff hg, Given.lookup_eq_some_iff hh, hperm.mem_iff]

/-- A level of `info` may as well be left out. -/
theorem Given.commandLine_info {g h : Given} (hh : h.settings.Nodup)
    (hperm : h.Perm ((.logLevel, utf8 "info") :: g)) : h.commandLine = g.commandLine := by
  have hnodup : Given.settings ((.logLevel, utf8 "info") :: g) |>.Nodup :=
    (hperm.map _).nodup_iff.mp hh
  obtain ⟨hfresh, hg⟩ := List.nodup_cons.mp hnodup
  have habsent : g.lookup .logLevel = none := by
    rw [Option.eq_none_iff_forall_ne_some]
    intro v hv
    exact hfresh (List.mem_map.mpr ⟨_, (Given.lookup_eq_some_iff hg).mp hv, rfl⟩)
  have hlookup : ∀ s, h.lookup s = List.lookup s ((Setting.logLevel, utf8 "info") :: g) :=
    Given.lookup_perm hh hperm
  have hlevel : h.lookup .logLevel = some (utf8 "info") := by
    rw [hlookup, List.lookup_cons_self]
  have hother : ∀ s ≠ .logLevel, h.lookup s = g.lookup s := by
    intro s hs
    rw [hlookup, List.lookup_cons, beq_false_of_ne hs]
  simp [Given.commandLine, Given.text?, hlevel, hother, habsent, text?_utf8]

theorem Spells.nodup {g : Given} {args : List Bytes} (h : Spells g args) : g.settings.Nodup := by
  induction h with
  | nil => exact List.nodup_nil
  | separator => exact List.nodup_nil
  | cons fresh _ _ _ ih => exact List.nodup_cons.mpr ⟨fresh, ih⟩

theorem Spells.admits {g : Given} {args : List Bytes} (h : Spells g args) {s : Setting} {v : Bytes}
    (hmem : (s, v) ∈ g) : s.Admits v := by
  induction h with
  | nil => cases hmem
  | separator => cases hmem
  | cons _ admits _ _ ih =>
      rcases List.mem_cons.mp hmem with heq | hmem
      · cases heq
        exact admits
      · exact ih hmem

/-- The value of a setting that is not a path is the text that is read from it. -/
theorem Spells.map_text {g : Given} {args : List Bytes} (h : Spells g args) {s : Setting}
    (hs : s ≠ .config) : (g.text? s).map utf8 = g.lookup s := by
  rw [Given.text?]
  cases hv : g.lookup s with
  | none => rfl
  | some v =>
      have hadmits := h.admits ((Given.lookup_eq_some_iff h.nodup).mp hv)
      rw [Setting.Admits, if_neg hs] at hadmits
      obtain ⟨t, ht⟩ := Option.isSome_iff_exists.mp hadmits
      rw [Option.bind_some, ht, Option.map_some, text?_eq_some_iff.mp ht]

/-- The command line made from the settings of a line says what they are. -/
theorem Spells.says {g : Given} {args : List Bytes} (h : Spells g args) :
    g.commandLine.Says g where
  config := rfl
  target := h.map_text (by decide)
  remoteHost := h.map_text (by decide)
  logLevel := by
    rw [← h.map_text (s := .logLevel) (by decide), Given.commandLine]
    cases g.text? .logLevel <;> rfl

/-- Settings leave no choice of what a command line says. -/
theorem eq_of_says {g : Given} {cl cl' : CommandLine} (h : cl.Says g) (h' : cl'.Says g) :
    cl = cl' := by
  have hutf8 : Function.Injective utf8 := fun _ _ => utf8_injective
  obtain ⟨config, target, remoteHost, logLevel⟩ := cl
  obtain ⟨config', target', remoteHost', logLevel'⟩ := cl'
  have hc : config = config' := h.config.trans h'.config.symm
  have ht : target = target' := Option.map_injective hutf8 (h.target.trans h'.target.symm)
  have hr : remoteHost = remoteHost' :=
    Option.map_injective hutf8 (h.remoteHost.trans h'.remoteHost.symm)
  have hl : logLevel = logLevel' := hutf8 (h.logLevel.trans h'.logLevel.symm)
  rw [hc, ht, hr, hl]

theorem parse_eq_ok_iff_given {argv : List Bytes} {cl : CommandLine} :
    parse argv = .ok cl ↔ ∃ g, Spells g (argv.drop 1) ∧ cl = g.commandLine := by
  simp only [← given_eq_ok_iff, parse]
  cases given (argv.drop 1) with
  | error r => simp [Except.map]
  | ok g => simp [Except.map, eq_comm]

/-- **The command line is accepted exactly by its grammar.** Whatever the name of the program, a
line is accepted when its arguments are spellings of different settings, one after the other, and
perhaps two dashes at the end; it then says what was given, and nothing else. So neither the order
of the settings nor the way in which each is spelled matters. -/
theorem parse_accepts_grammar :
    (∀ (argv : List Bytes) (cl : CommandLine),
        parse argv = .ok cl ↔ ∃ g, Spells g (argv.drop 1) ∧ cl.Says g) ∧
      ∀ (g h : Given) (argv argv' : List Bytes), g.Perm h → Spells g (argv.drop 1) →
        Spells h (argv'.drop 1) → ∃ cl, parse argv = .ok cl ∧ parse argv' = .ok cl := by
  have haccepts : ∀ (argv : List Bytes) (cl : CommandLine),
      parse argv = .ok cl ↔ ∃ g, Spells g (argv.drop 1) ∧ cl.Says g := by
    intro argv cl
    rw [parse_eq_ok_iff_given]
    refine exists_congr fun g => and_congr_right fun hspells => ?_
    constructor
    · rintro rfl
      exact hspells.says
    · exact fun hsays => eq_of_says hsays hspells.says
  refine ⟨haccepts, fun g h argv argv' hperm hg hh => ⟨g.commandLine, ?_, ?_⟩⟩
  · exact (haccepts argv _).mpr ⟨g, hg, hg.says⟩
  · refine (haccepts argv' _).mpr ⟨h, hh, ?_⟩
    have hlookup := Given.lookup_perm hg.nodup hperm
    obtain ⟨hconfig, htarget, hhost, hlevel⟩ := hg.says
    rw [hlookup] at hconfig htarget hhost hlevel
    exact ⟨hconfig, htarget, hhost, hlevel⟩

/-- A target and a path in either order, spelled in two ways: the dash is a value here, and the path
holds an equals sign. -/
theorem parse_accepts_grammar_two_orders :
    ∃ cl, parse [utf8 "p", utf8 "-t", utf8 "-", utf8 "--config=a=b", utf8 "--"] = .ok cl ∧
      parse [utf8 "q", utf8 "-ca=b", utf8 "--target", utf8 "-"] = .ok cl := by
  have hletter : Spelling .target (utf8 "-") [utf8 "-t", utf8 "-"] :=
    .letter (by decide) (by decide)
  have hattached : Spelling .config (utf8 "a=b") [utf8 "--config=a=b"] := .longAttached
  have hbehind : Spelling .config (utf8 "a=b") [utf8 "-ca=b"] :=
    .letterAttached (by decide) (by decide) (by decide)
  have hlong : Spelling .target (utf8 "-") [utf8 "--target", utf8 "-"] := .long (by decide)
  refine parse_accepts_grammar.2 [(.target, utf8 "-"), (.config, utf8 "a=b")]
    [(.config, utf8 "a=b"), (.target, utf8 "-")] _ _ (List.Perm.swap _ _ _) ?_ ?_
  · exact .cons (by decide) (by decide) hletter (.cons (by decide) (by decide) hattached .separator)
  · exact .cons (by decide) (by decide) hbehind (.cons (by decide) (by decide) hlong .nil)

end Options

end RelayProbe
