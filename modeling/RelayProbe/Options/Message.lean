import RelayProbe.Options
import RelayProbe.Options.Similarity
import RelayProbe.Text.Control

set_option autoImplicit false

/-! # What a refused command line is answered with

An error says what is wrong, mostly with a line that shows how the program is used, and points to
the help. For a long name that is not known the known name that is most like it is proposed, if any
is like it enough; the line about usage then shows the settings given so far and the proposed one.
What a message takes from the command line stands in it without control sequences.
-/

namespace RelayProbe

namespace Options

namespace Known

/-- How an option is written, with a name in place of its value. -/
def shown : Known → String
  | setting .config => "--config <CONFIG>"
  | setting .target => "--target <TARGET>"
  | setting .remoteHost => "--remote-host <REMOTE_HOST>"
  | setting .logLevel => "--log-level <LOG_LEVEL>"
  | flag .help => "--help"
  | flag .version => "--version"

/-- How it is written that any one of the settings may stand here. -/
def anySetting : String :=
  let settings := [Setting.config, .target, .remoteHost, .logLevel].map fun s => (setting s).shown
  "<" ++ "|".intercalate settings ++ ">"

end Known

/-- How alike a name and an option's long name have to be for a proposal. -/
def alikeEnough : Float := 0.7

/-- The option whose long name is most like the given one, the last of several that are equally
like it. -/
def proposal? (name : String) : Option Known :=
  let rated := Known.all.map fun o => (o, Similarity.jaro name.toList o.long.toList)
  (rated.foldl (fun best r =>
    if alikeEnough < r.2 then
      match best with
      | none => some r
      | some b => if r.2 < b.2 then best else some r
    else best) none).map (·.1)

/-- The name of the program in messages: the last part of its path, unless that leads to a
directory or is no text. -/
def programName (argv : List Bytes) : String :=
  let parts := ((argv.head?.getD []).splitOn 0x2f).filter fun p => p ≠ [] ∧ p ≠ utf8 "."
  match parts.getLast? with
  | none => "proxy-probe"
  | some p =>
      if p = utf8 ".." then "proxy-probe" else Text.withoutControls ((text? p).getD "proxy-probe")

/-- The line about usage, which shows the given options, or that there are options. -/
def usage (name : String) (shown : List String) : String :=
  let options := if shown = [] then "[OPTIONS]" else " ".intercalate shown
  s!"Usage: {name} {options}"

/-- The first line of an error about an argument that nothing can be made of. -/
def unexpectedText (argument : String) : String :=
  s!"unexpected argument '{Text.withoutControls argument}' found"

/-- An error message with its parts. -/
def errorText (parts : List String) : String :=
  "error: " ++ "\n\n".intercalate (parts ++ ["For more information, try '--help'."]) ++ "\n"

/-- The text that help consists of. -/
def helpText (name : String) : String :=
  "Send one raw HTTP request through a local proxy and dump the reply\n\n" ++ usage name [] ++
    "\n\nOptions:\n" ++
    "  -c, --config <CONFIG>            Path to TOML configuration file\n" ++
    "  -t, --target <TARGET>            Proxy endpoint to dial (e.g., 127.0.0.1:7077)\n" ++
    "  -r, --remote-host <REMOTE_HOST>  Remote host named in the request line and Host header\n" ++
    "      --log-level <LOG_LEVEL>      " ++
    "Log level (trace, debug, info, warn, error) [default: info]\n" ++
    "  -h, --help                       Print help\n" ++
    "  -V, --version                    Print version\n"

/-- The text that the version consists of. -/
def versionText : String := "proxy-probe 0.1.0\n"

namespace Refusal

/-- Whether a refusal is an error; asking for help or for the version is none. -/
def isError : Refusal → Bool
  | asked _ => false
  | _ => true

/-- What a refused command line is answered with, by a program of the given name. -/
def message (name : String) : Refusal → String
  | unknownLong long used =>
      let said := unexpectedText ("--" ++ long)
      let given := used.map Known.setting
      match proposal? long with
      | none => errorText [said, usage name (given.map Known.shown)]
      | some o =>
          errorText [said, s!"  tip: a similar argument exists: '--{o.long}'",
            usage name ((if o ∈ given then given else given ++ [o]).map Known.shown)]
  | unexpected shown => errorText [unexpectedText shown, usage name []]
  | missingValue s =>
      errorText [s!"a value is required for '{(Known.setting s).shown}' but none was supplied"]
  | repeated s =>
      errorText [s!"the argument '{(Known.setting s).shown}' cannot be used multiple times",
        usage name []]
  | surplusValue f value used =>
      errorText [s!"unexpected value '{Text.withoutControls value}' for " ++
          s!"'{(Known.flag f).shown}' found; no more were expected",
        usage name ((Known.flag f).shown :: if used = [] then [] else [Known.anySetting])]
  | notText =>
      errorText ["invalid UTF-8 was detected in one or more arguments", usage name []]
  | asked .help => helpText name
  | asked .version => versionText

end Refusal

end Options

end RelayProbe
