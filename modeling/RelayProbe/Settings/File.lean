import RelayProbe.Decimal.Shortest
import RelayProbe.Text.Quoted
import RelayProbe.Toml.Document
import RelayProbe.Toml.Excerpt

set_option autoImplicit false

/-! # The settings in a file

A settings file is a TOML document with up to three sections, each of which holds one text under a
name of its own; what is absent has a default, and everything else in the document is ignored. A
section may also be an array whose first value is the text. The sections are looked at in the order
in which they stand, and the first value of a wrong type is reported, with the place where it
stands.
-/

namespace RelayProbe

/-- The sections of a settings file. -/
inductive Section
  | target
  | request
  | logging
  deriving DecidableEq, Repr

namespace Section

/-- All sections. -/
def all : List Section := [target, request, logging]

/-- The name of a section. -/
def name : Section → String
  | target => "target"
  | request => "request"
  | logging => "logging"

/-- The name of the text that a section holds. -/
def field : Section → String
  | target => "address"
  | request => "remote_host"
  | logging => "level"

/-- The text that counts where a section does not give one. -/
def default : Section → String
  | target => "127.0.0.1:7077"
  | request => "www.cnbeta.com"
  | logging => "info"

/-- What a message calls the type of a section. -/
def typeName : Section → String
  | target => "struct TargetConfig"
  | request => "struct RequestConfig"
  | logging => "struct LoggingConfig"

/-- The section of a given name. -/
def ofName? (s : String) : Option Section := all.find? (·.name = s)

end Section

/-- The texts that a settings file gives. -/
structure FileSettings where
  target : String := Section.default .target
  remoteHost : String := Section.default .request
  level : String := Section.default .logging
  deriving DecidableEq, Repr

namespace FileSettings

/-- The text of a section. -/
def get (s : FileSettings) : Section → String
  | .target => s.target
  | .request => s.remoteHost
  | .logging => s.level

/-- The settings with another text for a section. -/
def set (s : FileSettings) (sec : Section) (v : String) : FileSettings :=
  match sec with
  | .target => { s with target := v }
  | .request => { s with remoteHost := v }
  | .logging => { s with level := v }

/-- A section that is given has the text it was given. -/
theorem get_set (s : FileSettings) (sec other : Section) (v : String) :
    (s.set sec v).get other = if other = sec then v else s.get other := by
  cases sec <;> cases other <;> rfl

/-- What should have stood in the place of a value. -/
inductive Wanted
  | text
  | table (s : Section)
  deriving DecidableEq, Repr

/-- A value of a wrong type. -/
structure IllTyped where
  found : Toml.Item
  wanted : Wanted

/-- The text that a value is, if it is one. -/
def readText : Toml.Item → Except IllTyped String
  | .scalar _ (.string s) => .ok s
  | item => .error ⟨item, .text⟩

/-- The text that a section holds. A date is taken for a section without entries. -/
def readSection (sec : Section) : Toml.Item → Except IllTyped String
  | .table _ _ es =>
      match es.lookup sec.field with
      | none => .ok sec.default
      | some item => readText item
  | .array _ _ [] => .ok sec.default
  | .array _ _ (item :: _) => readText item
  | .scalar _ .dateTime => .ok sec.default
  | item => .error ⟨item, .table sec⟩

/-- The settings with what an entry of the document says. -/
def addEntry (s : FileSettings) (e : String × Toml.Item) : Except IllTyped FileSettings :=
  match Section.ofName? e.1 with
  | none => .ok s
  | some sec => (readSection sec e.2).map (s.set sec)

/-- The settings that the entries of a document give. -/
def ofEntries (es : Toml.Entries) : Except IllTyped FileSettings := es.foldlM addEntry {}

/-! ## Messages -/

/-- What a message calls a value that was found. -/
def describe : Toml.Item → String
  | .scalar _ (.string s) => "string " ++ Text.quoted s
  | .scalar _ (.integer n) => s!"integer `{n}`"
  | .scalar _ (.float x) => s!"floating point `{Decimal.text x}`"
  | .scalar _ (.boolean b) => s!"boolean `{b}`"
  | .scalar _ .dateTime => "map"
  | .array .. => "sequence"
  | .table .. => "map"

/-- What a message calls that which was wanted. -/
def Wanted.describe : Wanted → String
  | text => "a string"
  | table s => s.typeName

/-- The message about a value of a wrong type, with the place where it stands in the document. -/
def IllTyped.message (text : String) (e : IllTyped) : String :=
  Toml.excerpt text.toList e.found.span ++
    s!"invalid type: {FileSettings.describe e.found}, expected {e.wanted.describe}\n"

/-- Why a document gives no settings: it is no TOML on some line, or a value has a wrong type. -/
inductive TextFault
  | malformed (line : Nat)
  | illTyped (e : IllTyped)

/-- The settings that a document gives. -/
def parse (text : String) : Except TextFault FileSettings :=
  match Toml.parse text with
  | .error line => .error (.malformed line)
  | .ok es =>
      match ofEntries es with
      | .error e => .error (.illTyped e)
      | .ok s => .ok s

end FileSettings

end RelayProbe
