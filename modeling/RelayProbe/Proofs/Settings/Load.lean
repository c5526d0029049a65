import Mathlib
import RelayProbe.Proofs.Options.Grammar
import RelayProbe.Proofs.Settings.Layout
import RelayProbe.Settings

set_option autoImplicit false

/-! # Where the settings of a run come from

The command line decides first, then the file that it names, then the defaults, and this for each
setting on its own (`load_eq_ok_iff`). There are no settings exactly when a file is named that is no
settings file; what else the command line says makes no difference then (`load_eq_error_iff`).
-/

namespace RelayProbe

/-- The text that a command line gives in place of that of a section. A level of `info` does not
count, for the command line does not tell it from none. -/
def CommandLine.over? (cl : CommandLine) : Section → Option String
  | .target => cl.target
  | .request => cl.remoteHost
  | .logging => if cl.logLevel ≠ "info" then some cl.logLevel else none

namespace Settings

open FileSettings

/-- The setting that has its place in a section of a file. -/
def get (s : Settings) : Section → String
  | .target => s.target
  | .request => s.remoteHost
  | .logging => s.logLevel

theorem ext_get {s t : Settings} (h : ∀ sec, s.get sec = t.get sec) : s = t := by
  cases s
  cases t
  exact congr (congr (congrArg Settings.mk (h .target)) (h .request)) (h .logging)

/-- The command line goes over the file, setting by setting. -/
theorem get_merge (cl : CommandLine) (file : FileSettings) (sec : Section) :
    (merge cl file).get sec = (cl.over? sec).getD (file.get sec) := by
  cases sec with
  | target => rfl
  | request => rfl
  | logging =>
      show (if cl.logLevel ≠ "info" then cl.logLevel else file.level) = Option.getD (ite _ _ _) _
      split <;> rfl

/-- The settings over those of a file that gives certain texts. -/
theorem merge_eq_iff {cl : CommandLine} {file : FileSettings} {given : Section → Option String}
    (hfile : ∀ sec, file.get sec = (given sec).getD sec.default) {s : Settings} :
    merge cl file = s ↔
      ∀ sec, s.get sec = (cl.over? sec).getD ((given sec).getD sec.default) := by
  constructor
  · rintro rfl sec
    rw [get_merge, hfile]
  · exact fun hs => ext_get fun sec => by rw [get_merge, hfile, hs]

/-! ## The file -/

variable {files : FileReader} {path : Bytes}

/-- A file has one text at most. -/
theorem text_unique {text text' : String} (h : files path = .ok (utf8 text))
    (h' : files path = .ok (utf8 text')) : text = text' :=
  utf8_injective (Except.ok.inj (h.symm.trans h'))

/-- A file without text cannot be read. -/
theorem loadFile_of_not_text (h : ∀ text, files path ≠ .ok (utf8 text)) :
    ∃ f, loadFile files path = .error (.unreadable path f) := by
  unfold loadFile
  cases hread : files path with
  | error f => exact ⟨f, rfl⟩
  | ok bs =>
      cases htext : text? bs with
      | none => exact ⟨FileSystem.notText, by simp only [htext]⟩
      | some text => exact absurd (by rw [hread, text?_eq_some_iff.mp htext]) (h text)

/-- A file with text is what that text is. -/
theorem loadFile_of_text {text : String} (h : files path = .ok (utf8 text)) :
    loadFile files path = (FileSettings.parse text).mapError (.improper path text) := by
  rw [loadFile, h]
  simp only [text?_utf8]
  cases FileSettings.parse text <;> rfl

/-- The three things that a file can be. -/
theorem loadFile_cases (files : FileReader) (path : Bytes) :
    (∃ f, loadFile files path = .error (.unreadable path f) ∧
        ∀ text, files path ≠ .ok (utf8 text)) ∨
      ∃ text, files path = .ok (utf8 text) ∧
        ((∃ e, loadFile files path = .error (.improper path text e) ∧
            ∀ given, ¬ Gives text given) ∨
          ∃ file given, loadFile files path = .ok file ∧ Gives text given ∧
            ∀ sec, file.get sec = (given sec).getD sec.default) := by
  by_cases h : ∀ text, files path ≠ .ok (utf8 text)
  · obtain ⟨f, hf⟩ := loadFile_of_not_text h
    exact Or.inl ⟨f, hf, h⟩
  · obtain ⟨text, htext⟩ := not_forall_not.mp h
    refine Or.inr ⟨text, htext, ?_⟩
    rw [loadFile_of_text htext]
    cases hparse : FileSettings.parse text with
    | error e =>
        refine Or.inl ⟨e, rfl, fun given hgiven => ?_⟩
        obtain ⟨file, hfile⟩ := exists_get fun sec => (given sec).getD sec.default
        rw [parse_eq_ok_iff.mpr ⟨given, hgiven, hfile⟩] at hparse
        cases hparse
    | ok file =>
        obtain ⟨given, hgiven, hget⟩ := parse_eq_ok_iff.mp hparse
        exact Or.inr ⟨file, given, rfl, hgiven, hget⟩

/-! ## All sources -/

/-- What the file gives that a command line names, if it names one. -/
inductive FileGives (files : FileReader) : Option Bytes → (Section → Option String) → Prop
  | noFile : FileGives files none fun _ => none
  | file {path text given} (hread : files path = .ok (utf8 text)) (hgives : Gives text given) :
      FileGives files (some path) given

/-- A file leaves no choice of what it gives. -/
theorem FileGives.unique {config : Option Bytes} {given given' : Section → Option String}
    (h : FileGives files config given) (h' : FileGives files config given') : given = given' := by
  cases h with
  | noFile => cases h'; rfl
  | file hread hgives =>
      cases h' with
      | file hread' hgives' =>
          obtain rfl := text_unique hread hread'
          exact hgives.unique hgives'

theorem FileGives.exists_iff {config : Option Bytes} {given : Section → Option String}
    (h : FileGives files config given) {P : (Section → Option String) → Prop} :
    (∃ given', FileGives files config given' ∧ P given') ↔ P given := by
  constructor
  · rintro ⟨given', hgiven', hP⟩
    rwa [h.unique hgiven']
  · exact fun hP => ⟨given, h, hP⟩

/-- There are no settings when the file that is named gives none, for the reason it has. -/
theorem load_eq_error_iff {cl : CommandLine} {e : LoadFailure} :
    load files cl = .error e ↔ ∃ path, cl.config = some path ∧ loadFile files path = .error e := by
  rw [load]
  cases cl.config with
  | none => simp
  | some path => cases hfile : loadFile files path <;> simp [hfile, Except.map]

theorem load_eq_unreadable_iff {cl : CommandLine} {path : Bytes} :
    (∃ f, load files cl = .error (.unreadable path f)) ↔
      cl.config = some path ∧ ∀ text, files path ≠ .ok (utf8 text) := by
  simp only [load_eq_error_iff]
  constructor
  · rintro ⟨f, named, hconfig, hfile⟩
    rcases loadFile_cases files named with
      ⟨f', hfile', hnot⟩ | ⟨text, -, ⟨e, hfile', -⟩ | ⟨_, _, hfile', -⟩⟩ <;>
      rw [hfile] at hfile' <;> cases hfile'
    exact ⟨hconfig, hnot⟩
  · rintro ⟨hconfig, hnot⟩
    obtain ⟨f, hfile⟩ := loadFile_of_not_text hnot
    exact ⟨f, path, hconfig, hfile⟩

theorem load_eq_improper_iff {cl : CommandLine} {path : Bytes} :
    (∃ text e, load files cl = .error (.improper path text e)) ↔
      cl.config = some path ∧
        ∃ text, files path = .ok (utf8 text) ∧ ∀ given, ¬ Gives text given := by
  simp only [load_eq_error_iff]
  constructor
  · rintro ⟨text, e, named, hconfig, hfile⟩
    rcases loadFile_cases files named with
      ⟨f', hfile', -⟩ | ⟨text, hread, ⟨e, hfile', hnot⟩ | ⟨_, _, hfile', -⟩⟩ <;>
      rw [hfile] at hfile' <;> cases hfile'
    exact ⟨hconfig, text, hread, hnot⟩
  · rintro ⟨hconfig, text, hread, hnot⟩
    rcases loadFile_cases files path with
      ⟨_, -, hnot'⟩ | ⟨text', hread', ⟨e, hfile, -⟩ | ⟨_, given, -, hgiven, -⟩⟩
    · exact absurd hread (hnot' text)
    · exact ⟨text', e, path, hconfig, hfile⟩
    · obtain rfl := text_unique hread hread'
      exact absurd hgiven (hnot given)

/-- **Each setting has its own sources**: the command line, the section of its own, the default. -/
theorem load_eq_ok_iff {cl : CommandLine} {s : Settings} :
    load files cl = .ok s ↔
      ∃ given, FileGives files cl.config given ∧
        ∀ sec, s.get sec = (cl.over? sec).getD ((given sec).getD sec.default) := by
  rw [load]
  cases cl.config with
  | none =>
      rw [FileGives.noFile.exists_iff, ← merge_eq_iff get_default]
      exact iff_of_eq (Except.ok.injEq _ _)
  | some path =>
      show (loadFile files path).map (merge cl) = .ok s ↔ _
      rcases loadFile_cases files path with
        ⟨f, hfile, hnot⟩ | ⟨text, hread, ⟨e, hfile, hnot⟩ | ⟨file, given, hfile, hgiven, hget⟩⟩
      · rw [hfile]
        refine iff_of_false (by rintro ⟨⟩) ?_
        rintro ⟨_, _ | ⟨hread, -⟩, -⟩
        exact hnot _ hread
      · rw [hfile]
        refine iff_of_false (by rintro ⟨⟩) ?_
        rintro ⟨given, _ | ⟨hread', hgiven⟩, -⟩
        obtain rfl := text_unique hread hread'
        exact hnot given hgiven
      · rw [hfile, (FileGives.file hread hgiven).exists_iff, ← merge_eq_iff hget]
        exact iff_of_eq (Except.ok.injEq _ _)

/-- With a file that is one, or without any, there are settings. -/
theorem load_of_gives {cl : CommandLine} {given : Section → Option String}
    (h : FileGives files cl.config given) :
    ∃ s, load files cl = .ok s ∧
      ∀ sec, s.get sec = (cl.over? sec).getD ((given sec).getD sec.default) := by
  obtain ⟨file, hfile⟩ := exists_get fun sec => (given sec).getD sec.default
  have hget : ∀ sec, (merge cl file).get sec =
      (cl.over? sec).getD ((given sec).getD sec.default) := fun sec => by rw [get_merge, hfile]
  exact ⟨merge cl file, load_eq_ok_iff.mpr ⟨given, h, hget⟩, hget⟩

/-- **Where the settings come from.** For a command line that is accepted, whatever the files:

* there are no settings exactly when it names a file that cannot be read as text, or whose text is
  no settings file, whatever else it says;
* without a file there always are settings, and no file matters;
* the settings are those of the command line, else of the file, else the defaults, where a level of
  `info` on the command line is as good as none;
* each setting depends only on the option and on the section of its own. -/
theorem load_resolves {argv : List Bytes} {cl : CommandLine} (h : Options.parse argv = .ok cl)
    (files : FileReader) :
    (∀ path, (∃ f, load files cl = .error (.unreadable path f)) ↔
        cl.config = some path ∧ ∀ text, files path ≠ .ok (utf8 text)) ∧
      (∀ path, (∃ text e, load files cl = .error (.improper path text e)) ↔
        cl.config = some path ∧
          ∃ text, files path = .ok (utf8 text) ∧ ∀ given, ¬ Gives text given) ∧
      (∀ cl' e, cl'.config = cl.config → load files cl = .error e → load files cl' = .error e) ∧
      (cl.config = none → ∃ s, ∀ files', load files' cl = .ok s) ∧
      (∀ s, load files cl = .ok s ↔
        ∃ given, FileGives files cl.config given ∧
          s.target = cl.target.getD ((given .target).getD "127.0.0.1:7077") ∧
          s.remoteHost = cl.remoteHost.getD ((given .request).getD "www.cnbeta.com") ∧
          s.logLevel =
            if cl.logLevel ≠ "info" then cl.logLevel else (given .logging).getD "info") ∧
      (∀ files' cl' given given' s s', FileGives files cl.config given →
        FileGives files' cl'.config given' → load files cl = .ok s → load files' cl' = .ok s' →
          ∀ sec, cl.over? sec = cl'.over? sec → given sec = given' sec → s.get sec = s'.get sec) ∧
      ∀ g g' argv', Options.Spells g (argv.drop 1) → Options.Spells g' (argv'.drop 1) →
        g'.Perm ((.logLevel, utf8 "info") :: g) → Options.parse argv' = .ok cl := by
  refine ⟨fun _ => load_eq_unreadable_iff, fun _ => load_eq_improper_iff, ?failure, ?noFile,
    ?success, ?independent, ?info⟩
  case failure =>
    intro cl' e hconfig he
    rw [load_eq_error_iff] at he ⊢
    rwa [hconfig]
  case noFile =>
    intro hconfig
    refine ⟨merge cl {}, fun files' => ?_⟩
    rw [load, hconfig]
  case success =>
    intro s
    rw [load_eq_ok_iff]
    refine exists_congr fun given => and_congr_right fun _ => ?_
    have hlevel : s.get .logging =
        (cl.over? .logging).getD ((given .logging).getD (Section.default .logging)) ↔
          s.logLevel = if cl.logLevel ≠ "info" then cl.logLevel
            else (given .logging).getD "info" := by
      show s.logLevel = Option.getD (ite _ _ _) _ ↔ _
      split <;> rfl
    rw [← hlevel]
    constructor
    · exact fun hs => ⟨hs .target, hs .request, hs .logging⟩
    · rintro ⟨ht, hr, hl⟩ (_ | _ | _)
      · exact ht
      · exact hr
      · exact hl
  case independent =>
    intro files' cl' given given' s s' hgiven hgiven' hs hs' sec hover hsec
    obtain ⟨_, hgiven₁, hget⟩ := load_eq_ok_iff.mp hs
    obtain ⟨_, hgiven₂, hget'⟩ := load_eq_ok_iff.mp hs'
    rw [hget, hget', hgiven₁.unique hgiven, hgiven₂.unique hgiven', hover, hsec]
  case info =>
    intro g g' argv' hg hg' hperm
    have hcl : Options.parse argv = .ok g.commandLine :=
      Options.parse_eq_ok_iff_given.mpr ⟨g, hg, rfl⟩
    refine Options.parse_eq_ok_iff_given.mpr ⟨g', hg', ?_⟩
    rw [Options.Given.commandLine_info hg'.nodup hperm]
    exact Except.ok.inj (h.symm.trans hcl)

/-- An empty target on the command line counts, and a level that only the file gives. -/
theorem load_resolves_empty_target :
    let level := WrittenSection.mk .logging .header "debug" (Toml.write "debug".toList)
      (Toml.written_write _)
    let files : FileReader := fun _ => .ok (utf8 (document [level]))
    ∃ cl s, Options.parse [utf8 "p", utf8 "--target=", utf8 "-cf"] = .ok cl ∧
      load files cl = .ok s ∧ s.target = "" ∧ s.remoteHost = "www.cnbeta.com" ∧
      s.logLevel = "debug" := by
  intro level files
  have hargv : Options.parse [utf8 "p", utf8 "--target=", utf8 "-cf"] =
      .ok { config := some (utf8 "f"), target := some "" } := by decide
  have hordered : WellOrdered [level] := ⟨by decide, List.pairwise_singleton _ _⟩
  obtain ⟨given, hgives, hget⟩ := parse_eq_ok_iff.mp (parse_document_eq hordered)
  refine ⟨_, ⟨"", "www.cnbeta.com", "debug"⟩, hargv, ?_, rfl, rfl, rfl⟩
  obtain ⟨-, -, -, -, hsuccess, -⟩ := load_resolves hargv files
  refine (hsuccess _).mpr ⟨given, .file rfl hgives, rfl, ?_, ?_⟩
  · exact hget .request
  · exact hget .logging

end Settings

end RelayProbe
