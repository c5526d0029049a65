import RelayProbe.Log.Filter
import RelayProbe.Options.Message
import RelayProbe.Probe
import RelayProbe.Request
import RelayProbe.Settings

set_option autoImplicit false

/-! # A run of the program

The program reads its command line and settings, probes the target once, and ends. What was
received goes to the standard output and nothing else does; the log and all complaints go to the
standard error. The status is `0` when the probe came to the end of the stream, also after asking
for help or for the version, `2` for a command line that is not accepted, and `1` for every other
failure.

The log is filtered as the environment says, if it gives a proper filter, else as the settings say.
-/

namespace RelayProbe

namespace Program

/-- What a run of the program depends on: its command line, the filter given by the environment, the
files it can read, and the network. -/
structure Surroundings where
  argv : List Bytes
  environmentFilter : Option String := none
  files : Settings.FileReader
  network : Network

/-- What a run of the program leaves behind: its status, what it printed on the standard output, the
lines on its standard error, and what it sent. -/
structure Report where
  status : Nat
  output : Bytes
  complaints : List String
  sent : Bytes
  deriving DecidableEq, Repr

/-- Why a run fails once its command line is accepted. -/
inductive RunFailure
  | load (f : Settings.LoadFailure)
  | probe (f : Failure)

/-- The word by which the last line of a failed run names the failure. -/
def RunFailure.label : RunFailure → String
  | load (.unreadable ..) => "FileRead"
  | load (.improper ..) => "TomlParse"
  | probe (.connect ..) => "Connect"
  | probe (.write _) => "Write"
  | probe (.read _) => "Read"
  | probe (.output _) => "Output"

/-- The last line of a failed run. -/
def failureLine (f : RunFailure) : String := s!"Error: {f.label}"

/-- The lines of a text; the end of the last one does not begin another. -/
def textLines (s : String) : List String :=
  let ls := (s.toList.splitOn '\n').map String.ofList
  if ls.getLast? = some "" then ls.dropLast else ls

/-- A record about the program as a whole. -/
def note (level : Log.Level) (message : String) (fields : List (String × String)) : Log.Record :=
  ⟨.program, level, message, fields⟩

def starting (s : Settings) : Log.Record :=
  note .info "Starting proxy-probe" [("proxy", s.target), ("remote_host", s.remoteHost)]

def finished (s : Summary) : Log.Record :=
  note .info "Probe finished" [("chunks", toString s.chunks), ("bytes", toString s.bytes)]

def aborted (f : Failure) : Log.Record := note .error "Probe aborted" [("error", f.message)]

/-- The filter of a run, and the complaints about the one in the settings. -/
def filterFor (environment : Option String) (level : String) : Log.Filter × List String :=
  match environment.map Log.Filter.parse with
  | some (.ok f) => (f, [])
  | _ => Log.Filter.parseLenient level

/-- The lines of the log. -/
def logLines (f : Log.Filter) (rs : List Log.Record) : List String :=
  (f.apply rs).flatMap fun r => textLines r.line

/-- Run the program with its settings. -/
def runWith (env : Surroundings) (s : Settings) : Report :=
  let (filter, ignored) := filterFor env.environmentFilter s.logLevel
  let o := Probe.run env.network s.target (Request.forHost s.remoteHost) {}
  let log := fun last => ignored ++ logLines filter (starting s :: o.records ++ [last])
  match o.result with
  | .ok summary => ⟨0, Session.output o.events, log (finished summary), Session.sent o.events⟩
  | .error f =>
      ⟨1, Session.output o.events, log (aborted f) ++ [failureLine (.probe f)],
        Session.sent o.events⟩

/-- Run the program. -/
def run (env : Surroundings) : Report :=
  match Options.parse env.argv with
  | .error r =>
      let message := r.message (Options.programName env.argv)
      if r.isError then ⟨2, [], textLines message, []⟩ else ⟨0, utf8 message, [], []⟩
  | .ok cl =>
      match Settings.load env.files cl with
      | .error f => ⟨1, [], [failureLine (.load f)], []⟩
      | .ok s => runWith env s

end Program

end RelayProbe
