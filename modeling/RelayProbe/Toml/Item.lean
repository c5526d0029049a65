set_option autoImplicit false

/-! # What a TOML document holds

A document is a table: a list of named entries in the order in which they stand. An entry is a
scalar, an array, or again a table. Every item remembers the stretch of the document that it was
written in, because a reader of the document's meaning may have to point at it.

A place in a document is the text from there to the end. So a reader needs no counters, and lines
and columns are worked out only where they are shown.
-/

namespace RelayProbe

namespace Toml

/-- A place in a document: what stands from there on. -/
abbrev Place := List Char

/-- A stretch of a document: the place where it starts and the place behind it. -/
structure Span where
  start : Place
  stop : Place

/-- A value without parts. Dates and times are kept apart from the other values, but not told
apart. -/
inductive Scalar
  | string (s : String)
  | integer (n : Int)
  | float (x : Float)
  | boolean (b : Bool)
  | dateTime

/-- How a table was made, which decides what may still be added to it. -/
inductive TableForm
  /-- between braces: nothing may be added -/
  | inline
  /-- by a header of its own: keys under that header belong to it -/
  | header
  /-- by a longer header: a header of its own may follow -/
  | implied
  /-- by a dotted key: further dotted keys may add to it -/
  | dotted
  deriving DecidableEq, Repr

/-- How an array was made: between brackets, or by a header for each of its tables. -/
inductive ArrayForm
  | literal
  | headers
  deriving DecidableEq, Repr

/-- An item of a document. -/
inductive Item
  | scalar (span : Span) (value : Scalar)
  | array (span : Span) (form : ArrayForm) (items : List Item)
  | table (span : Span) (form : TableForm) (entries : List (String × Item))

/-- The entries of a table, in the order in which they stand. -/
abbrev Entries := List (String × Item)

/-- The stretch of the document that an item was written in. For a table without a header or braces
of its own it is the part of the key that made it. -/
def Item.span : Item → Span
  | scalar span _ => span
  | array span _ _ => span
  | table span _ _ => span

/-- One part of a key, and where it stands. -/
structure Key where
  name : String
  span : Span

end Toml

end RelayProbe
