import RelayProbe.Settings.File
import RelayProbe.Toml.Written

set_option autoImplicit false

/-! # Settings files as they are written

A section can be written as a header with a line below it, as one line with a dotted key, or as one
line with an inline table. Sections without a header belong in front of those with one, for what
stands below a header belongs to it.
-/

namespace RelayProbe

namespace FileSettings

/-- The ways to write a section. -/
inductive Layout
  | header
  | dottedKey
  | inlineTable
  deriving DecidableEq, Repr

/-- The lines of a section in a layout, with its text as it is written between quotation marks. -/
def Layout.lines (l : Layout) (s : Section) (written : List Char) : List Char :=
  let value := '"' :: written ++ ['"']
  match l with
  | header => s!"[{s.name}]\n{s.field} = ".toList ++ value ++ ['\n']
  | dottedKey => s!"{s.name}.{s.field} = ".toList ++ value ++ ['\n']
  | inlineTable => s!"{s.name} = \x7b {s.field} = ".toList ++ value ++ " \x7d\n".toList

/-- A section as it is written: how it is laid out, its text, and the written form of that. -/
structure WrittenSection where
  sec : Section
  layout : Layout
  text : String
  written : List Char
  isWritten : Toml.Written text.toList written

/-- The lines of a section. -/
def WrittenSection.lines (w : WrittenSection) : List Char := w.layout.lines w.sec w.written

/-- The text of a settings file that is made of some sections. -/
def document (ws : List WrittenSection) : String := String.ofList (ws.flatMap (·.lines))

/-- The sections are different ones, and below the first header all have one. -/
structure WellOrdered (ws : List WrittenSection) : Prop where
  distinct : (ws.map (·.sec)).Nodup
  headersLast : ws.Pairwise fun a b => a.layout = .header → b.layout = .header

/-- The settings that sections give, one after the other. -/
def ofSections (ws : List WrittenSection) : FileSettings :=
  ws.foldl (fun s w => s.set w.sec w.text) {}

/-- A section that no one gives has its default, and one that is given has its text. -/
theorem get_ofSections {ws : List WrittenSection} (h : (ws.map (·.sec)).Nodup) (sec : Section) :
    (ofSections ws).get sec = ((ws.find? (·.sec = sec)).map (·.text)).getD sec.default := by
  have key : ∀ (ws : List WrittenSection) (s : FileSettings), (ws.map (·.sec)).Nodup →
      (ws.foldl (fun s w => s.set w.sec w.text) s).get sec =
        ((ws.find? (·.sec = sec)).map (·.text)).getD (s.get sec) := by
    intro ws
    induction ws with
    | nil => intro s _; rfl
    | cons w ws ih =>
        intro s hd
        rw [List.map_cons, List.nodup_cons] at hd
        rw [List.foldl_cons, ih _ hd.2, get_set]
        by_cases hw : w.sec = sec
        · have hn : ws.find? (·.sec = sec) = none := by
            rw [List.find?_eq_none]
            intro x hx hs
            exact hd.1 (List.mem_map.mpr ⟨x, hx, (of_decide_eq_true hs).trans hw.symm⟩)
          simp [hn, hw]
        · simp [hw, Ne.symm hw]
  rw [ofSections, key ws {} h]
  cases sec <;> rfl

end FileSettings

end RelayProbe
