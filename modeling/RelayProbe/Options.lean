import RelayProbe.Bytes

set_option autoImplicit false

/-! # The command line

A command line gives settings and flags. A setting has a long name and a value, most have a letter
too; the value stands attached to the name or as the next argument. The arguments are taken from
left to right. A setting whose value is the next argument is pending until that value, and only
enters into the result when a further option or the end of the line shows that it is complete. So
a setting without a value is found out at that point, and an argument that is not known at all is
reported before it.

Everything that keeps a line from being accepted is a `Refusal`; asking for help or for the version
is one of them.
-/

namespace RelayProbe

namespace Options

/-- What a command line can set. -/
inductive Setting
  | config
  | target
  | remoteHost
  | logLevel
  deriving DecidableEq, Repr

/-- What a command line can ask for. -/
inductive Flag
  | help
  | version
  deriving DecidableEq, Repr

/-- A setting or a flag. -/
inductive Known
  | setting (s : Setting)
  | flag (f : Flag)
  deriving DecidableEq, Repr

namespace Known

/-- All that may be given, in the order in which help lists it. -/
def all : List Known :=
  [setting .config, setting .target, setting .remoteHost, setting .logLevel, flag .help,
    flag .version]

/-- The long name. -/
def long : Known → String
  | setting .config => "config"
  | setting .target => "target"
  | setting .remoteHost => "remote-host"
  | setting .logLevel => "log-level"
  | flag .help => "help"
  | flag .version => "version"

/-- The letter, if there is one. -/
def letter? : Known → Option Char
  | setting .config => some 'c'
  | setting .target => some 't'
  | setting .remoteHost => some 'r'
  | setting .logLevel => none
  | flag .help => some 'h'
  | flag .version => some 'V'

end Known

/-- An argument by its looks. -/
inductive Argument
  /-- what may be a value that stands alone -/
  | word
  /-- two dashes: no options follow -/
  | separator
  /-- a known option, with the value that is attached to its name if there is one -/
  | known (o : Known) (attached : Option Bytes)
  /-- a long name that is not known, without the value attached to it -/
  | unknownLong (name : String)
  /-- a letter that is not known, with the dash in front -/
  | unknownLetter (shown : String)
  deriving DecidableEq, Repr

namespace Argument

/-- The dash that options start with. -/
def dash : UInt8 := 0x2d

/-- The sign between a name and its value. -/
def equals : UInt8 := 0x3d

/-- A long option cut into its name and the attached value. -/
def cutValue (bs : Bytes) : Bytes × Option Bytes :=
  match bs.dropWhile (· ≠ equals) with
  | [] => (bs, none)
  | _ :: value => (bs.takeWhile (· ≠ equals), some value)

/-- A long option, without its two dashes. -/
def ofLong (bs : Bytes) : Argument :=
  let (name, value) := cutValue bs
  match Known.all.find? (utf8 ·.long = name) with
  | some o => known o value
  | none => unknownLong (lossyText name)

/-- The value that stands behind a letter: what is left of the argument, without a leading equals
sign, if anything is left. -/
def behindLetter : Bytes → Option Bytes
  | [] => none
  | b :: bs => some (if b = equals then bs else b :: bs)

/-- How an unknown letter is shown: the first character alone, or everything if the argument does
not go on with a character. -/
def shownLetter (bs : Bytes) : String :=
  match [1, 2, 3, 4].findSome? fun n => text? (bs.take n) with
  | some s => s
  | none => lossyText bs

/-- An option by its letter, without the dash. A flag asks for something at once, whatever other
letters stand behind it. -/
def ofLetters : Bytes → Argument
  | [] => word
  | b :: bs =>
      match Known.all.find? (·.letter?.map (·.toNat) = some b.toNat) with
      | some (.flag f) => known (.flag f) none
      | some o => known o (behindLetter bs)
      | none => unknownLetter ("-" ++ shownLetter (b :: bs))

/-- What an argument looks like. A dash alone is a word. -/
def ofBytes : Bytes → Argument
  | a :: b :: bs =>
      if a = dash ∧ b = dash then if bs = [] then separator else ofLong bs
      else if a = dash then ofLetters (b :: bs)
      else word
  | _ => word

end Argument

/-- Why a command line is not accepted. -/
inductive Refusal
  /-- a long name that is not known; the settings that were given before it -/
  | unknownLong (name : String) (used : List Setting)
  /-- an argument that nothing can be made of -/
  | unexpected (shown : String)
  | missingValue (s : Setting)
  | repeated (s : Setting)
  /-- a flag with a value; the settings that were complete before it -/
  | surplusValue (f : Flag) (value : String) (used : List Setting)
  /-- a value that is not UTF-8 -/
  | notText
  | asked (f : Flag)
  deriving DecidableEq, Repr

/-- Settings with their values, in the order in which they were given. -/
abbrev Given := List (Setting × Bytes)

/-- The settings that are given. -/
def Given.settings (g : Given) : List Setting := g.map (·.1)

/-- What is wrong with a value. Paths may be any bytes but none at all; all else has to be text. -/
def valueFault? (s : Setting) (v : Bytes) : Option Refusal :=
  if s = .config then if v = [] then some (.missingValue s) else none
  else if (text? v).isNone then some .notText
  else none

/-- Give one more setting. One that was given before is taken away again; one with a wrong value
counts as given. -/
def Given.add (g : Given) (s : Setting) (v : Bytes) : Given × Option Refusal :=
  if s ∈ g.settings then (g.filter (·.1 ≠ s), some (.repeated s))
  else (g ++ [(s, v)], valueFault? s v)

/-- How far a command line is read: what is given, and the setting that is pending, with its value
if that was there already. -/
structure Progress where
  given : Given := []
  pending : Option (Setting × Option Bytes) := none
  /-- Whether the two dashes were passed. -/
  closed : Bool := false

/-- What is given once the pending setting counts, and what is wrong with it. -/
def Progress.settle (p : Progress) : Given × Option Refusal :=
  match p.pending with
  | none => (p.given, none)
  | some (s, none) => (p.given, some (.missingValue s))
  | some (s, some v) => p.given.add s v

/-- The outcome of a step that has to succeed. -/
def checked : Given × Option Refusal → Except Refusal Given
  | (g, none) => .ok g
  | (_, some r) => .error r

/-- Read one argument. -/
def Progress.step (p : Progress) (arg : Bytes) : Except Refusal Progress :=
  if p.closed then .error (.unexpected (lossyText arg))
  else
    match Argument.ofBytes arg with
    | .separator => .ok { p with closed := true }
    | .word =>
        match p.pending with
        | some (s, none) => .ok { p with pending := some (s, some arg) }
        | _ => .error (.unexpected (lossyText arg))
    | .known (.setting s) none => (checked p.settle).map (⟨·, some (s, none), false⟩)
    | .known (.setting s) (some v) =>
        match checked p.settle with
        | .error r => .error r
        | .ok g => (checked (g.add s v)).map (⟨·, none, false⟩)
    | .known (.flag f) none =>
        match checked p.settle with
        | .error r => .error r
        | .ok _ => .error (.asked f)
    | .known (.flag f) (some v) => .error (.surplusValue f (lossyText v) p.given.settings)
    | .unknownLong name => .error (.unknownLong name p.settle.1.settings)
    | .unknownLetter shown => .error (.unexpected shown)

/-- What the arguments give, all together. -/
def given (args : List Bytes) : Except Refusal Given :=
  match args.foldlM Progress.step {} with
  | .error r => .error r
  | .ok p => checked p.settle

end Options

/-- What an accepted command line says. -/
structure CommandLine where
  config : Option Bytes := none
  target : Option String := none
  remoteHost : Option String := none
  logLevel : String := "info"
  deriving DecidableEq, Repr

namespace Options

/-- The text that a setting is given. -/
def Given.text? (g : Given) (s : Setting) : Option String := (g.lookup s).bind RelayProbe.text?

/-- The command line that gives certain settings. -/
def Given.commandLine (g : Given) : CommandLine where
  config := g.lookup .config
  target := g.text? .target
  remoteHost := g.text? .remoteHost
  logLevel := (g.text? .logLevel).getD "info"

/-- Read a command line: the name of the program, which does not matter, and the arguments. -/
def parse (argv : List Bytes) : Except Refusal CommandLine :=
  (given (argv.drop 1)).map Given.commandLine

end Options

end RelayProbe
