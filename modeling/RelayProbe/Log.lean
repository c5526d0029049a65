import RelayProbe.Digits

set_option autoImplicit false

/-! # Log records

A record has a level, the name of the part of the program it comes from, a message and fields. It
is printed as one line: the level, the message, then `name=value` for each field.

A threshold admits the records that are at least as severe as a given level, or none at all.
-/

namespace RelayProbe

namespace Log

/-- How severe a record is, the most severe first. -/
inductive Level
  | error
  | warn
  | info
  | debug
  | trace
  deriving DecidableEq, Repr

namespace Level

/-- The position of a level, from `1` for the most severe. -/
def rank : Level → Nat
  | error => 1
  | warn => 2
  | info => 3
  | debug => 4
  | trace => 5

/-- The name under which a record of the level is printed. -/
def label : Level → String
  | error => "ERROR"
  | warn => "WARN"
  | info => "INFO"
  | debug => "DEBUG"
  | trace => "TRACE"

end Level

/-- A part of the program that writes records: the program as a whole, or the probing of a relay
within it. -/
inductive Source
  | program
  | probe
  deriving DecidableEq, Repr

/-- The name by which a filter refers to a source; the probing is a part of the program. -/
def Source.name : Source → String
  | program => "proxy_probe"
  | probe => "proxy_probe::probe"

/-- One log record. -/
structure Record where
  source : Source
  level : Level
  message : String
  fields : List (String × String) := []
  deriving DecidableEq, Repr

/-- The line that a record is printed as. -/
def Record.line (r : Record) : String :=
  r.fields.foldl (fun s f => s ++ " " ++ f.1 ++ "=" ++ f.2) (r.level.label ++ " " ++ r.message)

/-- Which levels pass: `none` lets nothing through, a level lets itself and what is more severe
through. -/
abbrev Threshold := Option Level

namespace Threshold

/-- Whether a record of level `l` passes. -/
def admits (t : Threshold) (l : Level) : Bool :=
  match t with
  | none => false
  | some m => l.rank ≤ m.rank

/-- The threshold of a given rank, `0` for the one that lets nothing through. -/
def ofRank? : Nat → Option Threshold
  | 0 => some none
  | 1 => some (some .error)
  | 2 => some (some .warn)
  | 3 => some (some .info)
  | 4 => some (some .debug)
  | 5 => some (some .trace)
  | _ => none

/-- The number that a text stands for; one plus sign may stand in front of the digits. -/
def number? : List Char → Option Nat
  | '+' :: cs => Digits.number? 10 cs
  | cs => Digits.number? 10 cs

/-- The threshold of a given name, in any letter case. -/
def ofName? (s : String) : Option Threshold :=
  let name := s.map Char.toLower
  if name = "off" then some none
  else if name = "error" then some (some .error)
  else if name = "warn" then some (some .warn)
  else if name = "info" then some (some .info)
  else if name = "debug" then some (some .debug)
  else if name = "trace" then some (some .trace)
  else none

/-- The threshold that a text denotes: a number from `0` to `5`, a name in any letter case, or
nothing at all, which stands for errors. -/
def parse? (s : String) : Option Threshold :=
  match number? s.toList with
  | some n => ofRank? n
  | none => if s.isEmpty then some (some .error) else ofName? s

end Threshold

/-- The records that pass a threshold, in order. -/
def atLeast (t : Threshold) (rs : List Record) : List Record := rs.filter (t.admits ·.level)

end Log

end RelayProbe
