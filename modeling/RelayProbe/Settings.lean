import RelayProbe.FileSystem
import RelayProbe.Options
import RelayProbe.Settings.File

set_option autoImplicit false

/-! # The settings of a run

A setting is taken from the command line if it is given there, else from the file that the command
line names, else it has a default. The level of the log is an exception: the command line does not
tell a level of `info` from none, so the file decides then too.
-/

namespace RelayProbe

/-- The settings of a run. -/
structure Settings where
  target : String
  remoteHost : String
  logLevel : String
  deriving DecidableEq, Repr

namespace Settings

/-- The settings of a command line over those of a file. -/
def merge (cl : CommandLine) (file : FileSettings) : Settings where
  target := cl.target.getD file.target
  remoteHost := cl.remoteHost.getD file.remoteHost
  logLevel := if cl.logLevel ≠ "info" then cl.logLevel else file.level

/-- Why there are no settings: the file could not be read as text, or its text is no proper
settings file. -/
inductive LoadFailure
  | unreadable (path : Bytes) (cause : Fault)
  | improper (path : Bytes) (text : String) (cause : FileSettings.TextFault)

namespace LoadFailure

/-- The text of a failure; what is wrong with the form of a document is not put into words. -/
def message : LoadFailure → String
  | unreadable path f => s!"Failed to read config file '{lossyText path}': {f.text}"
  | improper path text cause =>
      s!"Failed to parse config file '{lossyText path}': " ++
        match cause with
        | .malformed _ => ""
        | .illTyped e => e.message text

end LoadFailure

/-- A way to read files. -/
abbrev FileReader := Bytes → Except Fault Bytes

/-- The settings in the file at a path. -/
def loadFile (files : FileReader) (path : Bytes) : Except LoadFailure FileSettings :=
  match files path with
  | .error f => .error (.unreadable path f)
  | .ok bs =>
      match text? bs with
      | none => .error (.unreadable path FileSystem.notText)
      | some text =>
          match FileSettings.parse text with
          | .error e => .error (.improper path text e)
          | .ok s => .ok s

/-- The settings that a command line leads to. -/
def load (files : FileReader) (cl : CommandLine) : Except LoadFailure Settings :=
  match cl.config with
  | none => .ok (merge cl {})
  | some path => (loadFile files path).map (merge cl)

end Settings

end RelayProbe
