import RelayProbe.Toml.Document

set_option autoImplicit false

/-! # Where the entries of a document stand

Every statement says something about one entry at the top of the document: the first part of its key
names it, counted from the outermost table. An entry stands where its name first occurs. But a table
that was only implied by longer headers and has a header of its own further down stands at that
header. (An array of tables has its first header where its name first occurs.)
-/

namespace RelayProbe

namespace Toml

/-- What a statement says about the entries at the top of the document: which of them it is about,
and whether it is the header of that very entry, as a table. -/
structure Mark where
  name : String
  isHeader : Bool
  deriving DecidableEq

/-- The parts of the key of the table that is open behind a statement. -/
def Statement.opens (opened : List Key) : Statement → List Key
  | entry _ _ => opened
  | table key _ => key.path ++ [key.last]
  | element key _ => key.path ++ [key.last]

/-- What a statement says about the top of the document while the table `opened` is open. -/
def Statement.mark (opened : List Key) : Statement → Mark
  | entry key _ => ⟨((opened ++ key.path).headD key.last).name, false⟩
  | table key _ => ⟨(key.path.headD key.last).name, key.path.isEmpty⟩
  | element key _ => ⟨(key.path.headD key.last).name, false⟩

/-- What statements say about the top of the document, one after the other. -/
def marks (opened : List Key) : List Statement → List Mark
  | [] => []
  | st :: sts => st.mark opened :: marks (st.opens opened) sts

/-- Where an entry stands: at the statement that is its own header, else at the first one that is
about it. -/
def standing (ms : List Mark) (name : String) : Nat :=
  if ⟨name, true⟩ ∈ ms then ms.idxOf ⟨name, true⟩ else ms.findIdx (·.name = name)

/-- The statements of a document, from a place on and up to the first line that is wrong. -/
def statements (s : Place) : List Statement :=
  if _hs : s = [] then []
  else
    match _h : line s with
    | .error _ => []
    | .ok (none, r) => statements r
    | .ok (some st, r) => st :: statements r
termination_by s.length
decreasing_by
  · exact length_line _hs _h
  · exact length_line _hs _h

/-- Where an entry of a document stands. -/
def standsAt (text : String) (name : String) : Nat :=
  standing (marks [] (statements (skipMark text.toList))) name

end Toml

end RelayProbe
