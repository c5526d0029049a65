import RelayProbe.Program
import RelayProbe.Proofs.Session.Recovery
import RelayProbe.Proofs.Session.Verdict
import RelayProbe.Proofs.Settings.Load

set_option autoImplicit false

/-! # What the log can change

All that a run does is done by its session, and only the lines on the standard error are made of log
records (`exists_runWith_eq`). The session is given by the target, the host and the network. The
level of the log is a setting beside these, with an option and a section of its own, and the filter
in the environment is read for nothing else. So a run does the same whatever is said about the log
(`run_unaffected_by_log`).
-/

namespace RelayProbe

/-- The option that stands for the section of a file. -/
def Section.option : Section → Options.Setting
  | target => .target
  | request => .remoteHost
  | logging => .logLevel

theorem Section.option_ne_logLevel {sec : Section} (h : sec ≠ .logging) :
    sec.option ≠ .logLevel := by
  cases sec with
  | target => decide
  | request => decide
  | logging => exact absurd rfl h

/-- What is said in place of a section comes from the option that stands for it. -/
theorem CommandLine.over?_congr {g g' : Options.Given} {sec : Section}
    (h : g.lookup sec.option = g'.lookup sec.option) :
    g.commandLine.over? sec = g'.commandLine.over? sec := by
  have htext : g.text? sec.option = g'.text? sec.option := congrArg (Option.bind · text?) h
  cases sec with
  | target => exact htext
  | request => exact htext
  | logging =>
      have hlevel : g.commandLine.logLevel = g'.commandLine.logLevel :=
        congrArg (Option.getD · _) htext
      rw [CommandLine.over?, CommandLine.over?, hlevel]

namespace Program

/-! ## One run -/

/-- The status that a run with a given result ends with. -/
def statusOf : Except Failure Summary → Nat
  | .ok _ => 0
  | .error _ => 1

@[simp] theorem statusOf_eq_zero_iff {r : Except Failure Summary} :
    statusOf r = 0 ↔ ∃ summary, r = .ok summary := by
  cases r <;> simp [statusOf]

/-- The log can be printed record by record, each as soon as it is written. -/
theorem logLines_eq_flatMap (f : Log.Filter) (rs : List Log.Record) :
    logLines f rs = rs.flatMap fun r => logLines f [r] := by
  induction rs with
  | nil => rfl
  | cons r rs ih =>
      have hfirst : logLines f (r :: rs) = logLines f [r] ++ logLines f rs := by
        simp only [logLines, Log.Filter.apply, List.filter_cons]
        split <;> simp
      rw [hfirst, List.flatMap_cons, ih]

/-- The standard output has no failure of its own that could be an interruption. -/
theorem no_refusal (f : Fault) (h : none = some f) : f.kind ≠ .interrupted := nomatch h

/-- The probe of a run with its settings. -/
def probe (env : Surroundings) (s : Settings) : Session.Outcome :=
  Probe.run env.network s.target (Request.forHost s.remoteHost) { refusal_kind := no_refusal }

/-- A run does what its probe does; the rest stands on the standard error. -/
theorem exists_runWith_eq (env : Surroundings) (s : Settings) :
    ∃ complaints, runWith env s =
      ⟨statusOf (probe env s).result, Session.output (probe env s).events, complaints,
        Session.sent (probe env s).events⟩ := by
  -- the filter and the records only go into the lines on the standard error
  unfold runWith probe
  generalize Probe.run env.network s.target (Request.forHost s.remoteHost) {} = o
  obtain ⟨es, rs, result⟩ := o
  cases result with
  | ok summary => exact ⟨_, rfl⟩
  | error f => exact ⟨_, rfl⟩

theorem run_of_load_error {env : Surroundings} {cl : CommandLine} {e : Settings.LoadFailure}
    (hparse : Options.parse env.argv = .ok cl) (hload : Settings.load env.files cl = .error e) :
    run env = ⟨1, [], [failureLine (.load e)], []⟩ := by
  simp only [run, hparse, hload]

theorem run_of_load {env : Surroundings} {cl : CommandLine} {s : Settings}
    (hparse : Options.parse env.argv = .ok cl) (hload : Settings.load env.files cl = .ok s) :
    run env = runWith env s := by
  simp only [run, hparse, hload]

/-! ## Two runs -/

/-- What the surroundings of a run say: what the options of the command line are given, and what the
file gives that it names, if it names one. -/
structure Surroundings.Say (env : Surroundings) (g : Options.Given)
    (given : Section → Option String) : Prop where
  arguments : Options.Spells g (env.argv.drop 1)
  file : Settings.FileGives env.files (g.lookup .config) given

/-- Two surroundings differ in what they say about the log at most: in the filter of the
environment, in the option for the level, and in the text of the section for the log. -/
def Surroundings.AlikeButForLog (env env' : Surroundings) : Prop :=
  env.network = env'.network ∧
    ∃ g g' given given', env.Say g given ∧ env'.Say g' given' ∧
      (∀ o, o ≠ .logLevel → g.lookup o = g'.lookup o) ∧
      ∀ sec, sec ≠ .logging → given sec = given' sec

theorem Surroundings.Say.parse {env : Surroundings} {g : Options.Given}
    {given : Section → Option String} (h : env.Say g given) :
    Options.parse env.argv = .ok g.commandLine :=
  Options.parse_eq_ok_iff_given.mpr ⟨g, h.arguments, rfl⟩

/-- Surroundings that differ in the log at most lead to the same probe. -/
theorem Surroundings.AlikeButForLog.load {env env' : Surroundings} (h : env.AlikeButForLog env') :
    ∃ cl cl' s s', Options.parse env.argv = .ok cl ∧ Options.parse env'.argv = .ok cl' ∧
      Settings.load env.files cl = .ok s ∧ Settings.load env'.files cl' = .ok s' ∧
      ∀ sec, sec ≠ .logging → s.get sec = s'.get sec := by
  obtain ⟨-, g, g', given, given', hsay, hsay', hoptions, hsections⟩ := h
  obtain ⟨s, hload, hget⟩ := @Settings.load_of_gives _ g.commandLine _ hsay.file
  obtain ⟨s', hload', hget'⟩ := @Settings.load_of_gives _ g'.commandLine _ hsay'.file
  refine ⟨_, _, s, s', hsay.parse, hsay'.parse, hload, hload', fun sec hsec => ?_⟩
  -- the option, the section and the default of this setting are the same in both
  rw [hget, hget', CommandLine.over?_congr (hoptions _ (Section.option_ne_logLevel hsec)),
    hsections sec hsec]

theorem probe_congr {env env' : Surroundings} {s s' : Settings} (hnet : env.network = env'.network)
    (h : ∀ sec, sec ≠ .logging → s.get sec = s'.get sec) : probe env s = probe env' s' := by
  have htarget : s.target = s'.target := h .target (by decide)
  have hhost : s.remoteHost = s'.remoteHost := h .request (by decide)
  rw [probe, probe, hnet, htarget, hhost]

/-- **The log does not matter.** For a command line that is accepted:

* without settings, nothing is sent and nothing printed, and the status is not `0`;
* with settings, the run is the session over the request for their host, if a connection to their
  target can be made, else nothing is sent and nothing printed; what is printed is the transcript of
  the session, and nothing else; and the status is `0` exactly when the session succeeds;
* any other run that differs in what is said about the log at most has settings too, with the same
  target and the same host, sends and prints the same, and ends with the same status. -/
theorem run_unaffected_by_log {env : Surroundings} {cl : CommandLine}
    (h : Options.parse env.argv = .ok cl) :
    (∀ e, Settings.load env.files cl = .error e →
        (run env).sent = [] ∧ (run env).output = [] ∧ (run env).status ≠ 0) ∧
      (∀ s, Settings.load env.files cl = .ok s →
        (∀ f, env.network.connect s.target = .error f →
          (run env).sent = [] ∧ (run env).output = [] ∧ (run env).status ≠ 0) ∧
        ∀ c, env.network.connect s.target = .ok c →
          let o := Session.run (Request.forHost s.remoteHost) c.script {}
          (run env).sent = Session.sent o.events ∧ (run env).output = Session.output o.events ∧
            (run env).output = (Session.transcript o.events).print ∧
            ((run env).status = 0 ↔ ∃ summary, o.result = .ok summary)) ∧
      ∀ env', env.AlikeButForLog env' →
        ∃ cl' s s', Options.parse env'.argv = .ok cl' ∧ Settings.load env.files cl = .ok s ∧
          Settings.load env'.files cl' = .ok s' ∧ s.target = s'.target ∧
          s.remoteHost = s'.remoteHost ∧ (run env).sent = (run env').sent ∧
          (run env).output = (run env').output ∧ (run env).status = (run env').status := by
  refine ⟨fun e hload => ?noSettings, fun s hload => ?settings, fun env' halike => ?alike⟩
  case noSettings =>
    rw [run_of_load_error h hload]
    exact ⟨rfl, rfl, Nat.one_ne_zero⟩
  case settings =>
    obtain ⟨complaints, hrun⟩ := exists_runWith_eq env s
    rw [run_of_load h hload, hrun]
    obtain ⟨hfail, hopen⟩ :=
      Session.run_probe env.network s.target (Request.forHost s.remoteHost) {}
    refine ⟨fun f hf => ?_, fun c hc => ?_⟩
    · rw [show probe env s = _ from hfail f hf]
      exact ⟨rfl, rfl, Nat.one_ne_zero⟩
    · obtain ⟨hevents, hresult⟩ := hopen c hc
      intro o
      rw [show (probe env s).events = o.events from hevents,
        show (probe env s).result = o.result from hresult]
      exact ⟨rfl, rfl, Session.output_run_eq_print _ _ rfl, statusOf_eq_zero_iff⟩
  case alike =>
    obtain ⟨cl₀, cl', s, s', hparse, hparse', hload, hload', hsame⟩ := halike.load
    obtain rfl := Except.ok.inj (h.symm.trans hparse)
    obtain ⟨complaints, hrun⟩ := exists_runWith_eq env s
    obtain ⟨complaints', hrun'⟩ := exists_runWith_eq env' s'
    refine ⟨cl', s, s', hparse', hload, hload', hsame .target (by decide),
      hsame .request (by decide), ?_⟩
    rw [run_of_load h hload, run_of_load hparse' hload', hrun, hrun', probe_congr halike.1 hsame]
    exact ⟨rfl, rfl, rfl⟩

/-- The level as an option, in the file and in the environment against the level in the file alone:
over an open connection both runs do what the session does. -/
theorem run_unaffected_by_log_over_listener :
    let level := fun text => FileSettings.WrittenSection.mk .logging .header text
      (Toml.write text.toList) (Toml.written_write _)
    let script : Script := { arrivals := [.data [0x78]] }
    let listener : Network := .ofListener ⟨.loopback, 7077⟩ script
    let loud : Surroundings :=
      { argv := [utf8 "p", utf8 "--log-level=trace", utf8 "-cf"]
        environmentFilter := some "debug"
        files := fun _ => .ok (utf8 (FileSettings.document [level "warn"]))
        network := listener }
    let quiet : Surroundings :=
      { argv := [utf8 "p", utf8 "-cf"]
        files := fun _ => .ok (utf8 (FileSettings.document [level "off"]))
        network := listener }
    let o := Session.run (Request.forHost "www.cnbeta.com") script {}
    (run loud).sent = Session.sent o.events ∧ (run loud).output = Session.output o.events ∧
      (run quiet).sent = (run loud).sent ∧ (run quiet).output = (run loud).output ∧
      (run quiet).status = (run loud).status := by
  intro level script listener loud quiet o
  have hordered : ∀ text, FileSettings.WellOrdered [level text] :=
    fun text => ⟨List.nodup_singleton _, List.pairwise_singleton _ _⟩
  have hfile : Options.Spells [(.config, utf8 "f")] [utf8 "-cf"] :=
    .cons (by decide) (by decide) (.letterAttached (by decide) (by decide) (by decide)) .nil
  have hloud : loud.Say [(.logLevel, utf8 "trace"), (.config, utf8 "f")] _ :=
    ⟨.cons (by decide) (by decide) .longAttached hfile,
      .file rfl (FileSettings.gives_document (hordered "warn"))⟩
  have hquiet : quiet.Say [(.config, utf8 "f")] _ :=
    ⟨hfile, .file rfl (FileSettings.gives_document (hordered "off"))⟩
  have hconnect : listener.connect "127.0.0.1:7077" =
      .ok ⟨.ok ⟨.loopback, 7077⟩, script⟩ := rfl
  obtain ⟨-, hsession, hsame⟩ := run_unaffected_by_log hloud.parse
  have halike : loud.AlikeButForLog quiet := by
    refine ⟨rfl, _, _, _, _, hloud, hquiet, fun o ho => ?_, fun sec hsec => ?_⟩
    · cases o with
      | logLevel => exact absurd rfl ho
      | _ => rfl
    · cases sec with
      | logging => exact absurd rfl hsec
      | _ => rfl
  have hload : Settings.load loud.files
      (Options.Given.commandLine [(.logLevel, utf8 "trace"), (.config, utf8 "f")]) =
        .ok ⟨"127.0.0.1:7077", "www.cnbeta.com", "trace"⟩ := by
    refine Settings.load_eq_ok_iff.mpr ⟨_, hloud.file, fun sec => ?_⟩
    cases sec <;> rfl
  obtain ⟨hsent', houtput', -⟩ := (hsession _ hload).2 _ hconnect
  obtain ⟨-, -, -, -, -, -, -, -, hsent, houtput, hstatus⟩ := hsame quiet halike
  exact ⟨hsent', houtput', hsent.symm, houtput.symm, hstatus.symm⟩

end Program

end RelayProbe
