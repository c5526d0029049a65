import RelayProbe.Log
import RelayProbe.Text.Alphanumeric
import RelayProbe.Text.Blank

set_option autoImplicit false

/-! # Log filters

A filter is a list of directives with commas between them. A directive is a threshold for all
sources, a source with an equals sign and a threshold, or a source alone, of which every record
passes. Sources are named by the beginning of their names; the directive with the longest name that
fits decides about a record, and of two for the same name the later one. A record that no directive
fits does not pass. Blank space is part of a name.

A directive may also name a span, in brackets. Records are written outside of spans only, so such a
directive lets nothing pass.
-/

namespace RelayProbe

namespace Log

/-- One part of a filter: a threshold for the sources whose names begin with a text. -/
inductive Directive
  | sources (name : String) (threshold : Threshold)
  | span
  deriving DecidableEq, Repr

/-- What is wrong with a directive. -/
inductive DirectiveFault
  | form
  | threshold
  deriving DecidableEq, Repr

namespace DirectiveFault

/-- The text of a fault. -/
def message : DirectiveFault → String
  | form => "invalid filter directive"
  | threshold =>
      "error parsing level filter: expected one of \"off\", \"error\", \"warn\", " ++
        "\"info\", \"debug\", \"trace\", or a number 0-5"

end DirectiveFault

namespace Directive

/-- Whether a directive may start with a character: letters, digits and the signs `-`, `:` and
`_`. -/
def mayStart (c : Char) : Bool := Text.isAlphanumeric c || c = '-' || c = ':' || c = '_'

/-- The threshold behind an equals sign; everything passes when none stands there. -/
def thresholdOf (s : String) : Except DirectiveFault Threshold :=
  if s = "" then .ok (some .trace)
  else
    match Threshold.parse? s with
    | some t => .ok t
    | none => .error .threshold

/-- Read a directive. Blank space around it only keeps it from being taken for empty: names and
thresholds are cut from the text as it is, at the place that the sign has without that space. -/
def parse (s : String) : Except DirectiveFault Directive :=
  let cs := s.toList
  match Text.trimmed cs with
  | [] => .error .form
  | c :: r =>
      if c = '[' then .ok .span
      else if !mayStart c then .error .form
      else
        let name := (c :: r).takeWhile fun d => d ≠ '=' && d ≠ '['
        match (c :: r).drop name.length with
        | [] =>
            match Threshold.parse? s with
            | some t => .ok (.sources "" t)
            | none => .ok (.sources s (some .trace))
        | sign :: _ =>
            if sign = '[' then .ok .span
            else
              (thresholdOf (String.ofList (cs.drop (name.length + 1)))).map
                (.sources (String.ofList (cs.take name.length)))

/-- Whether a directive is about a source. -/
def fits (d : Directive) (source : Source) : Bool :=
  match d with
  | sources name _ => name.toList.isPrefixOf source.name.toList
  | span => false

/-- How much of a name a directive fixes. -/
def weight : Directive → Nat
  | sources name _ => name.toList.length
  | span => 0

/-- What a directive lets pass. -/
def threshold : Directive → Threshold
  | sources _ t => t
  | span => none

end Directive

/-- A list of directives, in the order in which they were given. -/
structure Filter where
  directives : List Directive
  deriving DecidableEq, Repr

namespace Filter

/-- The directive that decides about a source: the last of those that fix most of its name. -/
def deciding (f : Filter) (source : Source) : Option Directive :=
  (f.directives.filter (·.fits source)).foldl (fun best d =>
    match best with
    | none => some d
    | some b => if d.weight < b.weight then best else some d) none

/-- What passes of a source. -/
def threshold (f : Filter) (source : Source) : Threshold :=
  ((f.deciding source).map Directive.threshold).getD none

/-- Whether a record passes. -/
def admits (f : Filter) (r : Record) : Bool := (f.threshold r.source).admits r.level

/-- The records that pass, in order. -/
def apply (f : Filter) (rs : List Record) : List Record := rs.filter f.admits

/-- The texts of the directives in the text of a filter. -/
def pieces (s : String) : List String :=
  ((s.toList.splitOn ',').filter (· ≠ [])).map String.ofList

/-- Read a filter in which every directive has to be a proper one. -/
def parse (s : String) : Except DirectiveFault Filter :=
  ((pieces s).mapM Directive.parse).map Filter.mk

/-- Read a filter, leaving out the directives that are not proper ones, and tell about them. Where
nothing is left errors pass. -/
def parseLenient (s : String) : Filter × List String :=
  let read := (pieces s).map fun p => (p, Directive.parse p)
  let proper := read.filterMap fun p => p.2.toOption
  let ignored := read.filterMap fun p =>
    match p.2 with
    | .ok _ => none
    | .error e => some s!"ignoring `{p.1}`: {e.message}"
  (⟨if proper = [] then [.sources "" (some .error)] else proper⟩, ignored)

end Filter

end Log

end RelayProbe
