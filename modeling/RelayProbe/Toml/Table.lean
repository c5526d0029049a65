import RelayProbe.Toml.Key

set_option autoImplicit false

/-! # Building tables

A table grows by entries and by headers. An entry `a.b.c = v` leads through the tables `a` and
`a.b`, which it makes if they are missing, and adds `c`. A header `[a.b.c]` leads through `a` and
`a.b` too, and makes the table `c`, or takes over the one that was only implied so far; a header
`[[a.b.c]]` adds one more table to the array `c`. On the way an array of tables stands for its last
table. What is refused is everything that would define something twice:

* dotted keys do not add to a table that has braces or a header of its own;
* headers do not add to a table that has braces;
* a name is given to one entry only.
-/

namespace RelayProbe

namespace Toml

namespace Entries

/-- The entries with another item under a name that is there already. -/
def replace (es : Entries) (name : String) (item : Item) : Entries :=
  es.map fun e => if e.1 = name then (name, item) else e

/-- The entries without the one of the given name. -/
def remove (es : Entries) (name : String) : Entries := es.filter (·.1 ≠ name)

end Entries

/-- Change the table that an item stands for: itself, or the last table of an array of tables. -/
def Item.changeTable (f : Span → TableForm → Entries → Option Item) : Item → Option Item
  | .table span form es => f span form es
  | .array span .headers items =>
      match items.getLast? with
      | some (.table s form es) =>
          (f s form es).map fun t =>
            .array ⟨span.start, t.span.stop⟩ .headers (items.dropLast ++ [t])
      | _ => none
  | _ => none

/-- Whether a dotted key may lead through an item. -/
def Item.passesKey : Item → Bool
  | .table _ form _ => form = .dotted || form = .implied
  | .array _ form _ => form = .headers
  | .scalar .. => false

/-- Whether a header may lead through an item. -/
def Item.passesHeader : Item → Bool
  | .table _ form _ => form ≠ .inline
  | .array _ form _ => form = .headers
  | .scalar .. => false

/-- Change the table to which the parts of a key lead from the given table. A missing table on the
way is made, of the form `made`. -/
def changeAt (passes : Item → Bool) (made : TableForm)
    (f : Span → TableForm → Entries → Option Item) :
    List Key → Span → TableForm → Entries → Option Item
  | [], span, form, es => f span form es
  | k :: ks, span, form, es =>
      match es.lookup k.name with
      | none =>
          (changeAt passes made f ks k.span made []).map fun t =>
            .table span form (es ++ [(k.name, t)])
      | some item =>
          if passes item then
            (item.changeTable (changeAt passes made f ks)).map fun t =>
              .table span form (Entries.replace es k.name t)
          else none

/-- Add an entry to a table, by a key that leads there from the table itself. -/
def addEntry (key : DottedKey) (value : Item) (span : Span) (form : TableForm) (es : Entries) :
    Option Item :=
  changeAt Item.passesKey .dotted
    (fun s f inner =>
      if (key.path ≠ [] ∧ f ≠ .dotted) ∨ (inner.lookup key.last.name).isSome then none
      else some (.table s f (inner ++ [(key.last.name, value)])))
    key.path span form es

/-- Open the table of a header that stands at `header`. -/
def openTable (key : DottedKey) (header : Span) (span : Span) (form : TableForm) (es : Entries) :
    Option Item :=
  let name := key.last.name
  changeAt Item.passesHeader .implied
    (fun s f inner =>
      match inner.lookup name with
      | none => some (.table s f (inner ++ [(name, .table header .header [])]))
      | some (.table _ .implied es) =>
          some (.table s f (Entries.remove inner name ++ [(name, .table header .header es)]))
      | some _ => none)
    key.path span form es

/-- Open one more table of an array of tables, by a header that stands at `header`. -/
def openElement (key : DottedKey) (header : Span) (span : Span) (form : TableForm) (es : Entries) :
    Option Item :=
  let name := key.last.name
  let element := Item.table header .header []
  changeAt Item.passesHeader .implied
    (fun s f inner =>
      match inner.lookup name with
      | none => some (.table s f (inner ++ [(name, .array header .headers [element])]))
      | some (.array a .headers items) =>
          some (.table s f
            (Entries.replace inner name (.array ⟨a.start, header.stop⟩ .headers (items ++ [element]))))
      | some _ => none)
    key.path span form es

/-- The entries of a table. -/
def Item.entries : Item → Entries
  | .table _ _ es => es
  | _ => []

/-- The stretch of an item, stretched to a later end. -/
def Item.stretchedTo (stop : Place) : Item → Item
  | .table span form es => .table ⟨span.start, stop⟩ form es
  | item => item

end Toml

end RelayProbe
