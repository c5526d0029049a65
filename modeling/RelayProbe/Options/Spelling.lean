import RelayProbe.Options

set_option autoImplicit false

/-! # The accepted command lines

The command lines that give settings, described by what they are made of and not by how they are
read: one spelling after the other, of different settings, and perhaps two dashes at the end.
-/

namespace RelayProbe

namespace Options

/-- The letter of a setting, if it has one. -/
def Setting.letter? (s : Setting) : Option UInt8 := (Known.setting s).letter?.map (·.toUInt8)

/-- The long name of a setting behind its two dashes. -/
def Setting.longName (s : Setting) : Bytes :=
  [Argument.dash, Argument.dash] ++ utf8 (Known.setting s).long

/-- The values that a setting can have: a path is not empty, and all else is text. -/
def Setting.Admits (s : Setting) (v : Bytes) : Prop :=
  if s = .config then v ≠ [] else (text? v).isSome

/-- The values that can stand as an argument of their own: a dash in front only if nothing is
behind it. -/
def StandsAlone (v : Bytes) : Prop := v.head? = some Argument.dash → v = [Argument.dash]

instance (s : Setting) (v : Bytes) : Decidable (s.Admits v) :=
  inferInstanceAs (Decidable (if s = .config then v ≠ [] else (text? v).isSome))

instance (v : Bytes) : Decidable (StandsAlone v) :=
  inferInstanceAs (Decidable (v.head? = some Argument.dash → v = [Argument.dash]))

/-- The ways to give a setting a value. -/
inductive Spelling (s : Setting) (v : Bytes) : List Bytes → Prop
  /-- `--name value` -/
  | long (alone : StandsAlone v) : Spelling s v [s.longName, v]
  /-- `--name=value` -/
  | longAttached : Spelling s v [s.longName ++ Argument.equals :: v]
  /-- `-x value` -/
  | letter {c : UInt8} (own : s.letter? = some c) (alone : StandsAlone v) :
      Spelling s v [[Argument.dash, c], v]
  /-- `-x=value` -/
  | letterEquals {c : UInt8} (own : s.letter? = some c) :
      Spelling s v [Argument.dash :: c :: Argument.equals :: v]
  /-- `-xvalue` -/
  | letterAttached {c : UInt8} (own : s.letter? = some c) (some_value : v ≠ [])
      (no_equals : v.head? ≠ some Argument.equals) : Spelling s v [Argument.dash :: c :: v]

/-- The arguments that give certain settings, each at most once and in this order. -/
inductive Spells : Given → List Bytes → Prop
  | nil : Spells [] []
  | separator : Spells [] [[Argument.dash, Argument.dash]]
  | cons {s : Setting} {v : Bytes} {g : Given} {front rest : List Bytes} (fresh : s ∉ g.settings)
      (admits : s.Admits v) (spelling : Spelling s v front) (spells : Spells g rest) :
      Spells ((s, v) :: g) (front ++ rest)

end Options

/-- A command line says what certain settings are, and that the level is `info` where nothing else
is given. -/
structure CommandLine.Says (cl : CommandLine) (g : Options.Given) : Prop where
  config : cl.config = g.lookup .config
  target : cl.target.map utf8 = g.lookup .target
  remoteHost : cl.remoteHost.map utf8 = g.lookup .remoteHost
  logLevel : utf8 cl.logLevel = (g.lookup .logLevel).getD (utf8 "info")

end RelayProbe
