import RelayProbe.Bytes

set_option autoImplicit false

/-! # Control characters and control sequences

A text from outside may hold control characters, and control sequences that would change how a
terminal shows what comes after it. `withoutControls` leaves both out; tabs and the ends of lines
and pages stay.

A sequence begins with the escape character. What stands behind that says how it goes on:

* any letter, digit or sign ends it at once, except for those below;
* behind characters from the blank to the slash, the next character beyond these ends it;
* behind `[` stand parameters, and a letter ends it;
* behind `]` a command goes on to the bell character;
* behind `X`, `^` or `_`, and behind `P` with parameters and a letter of its own, a string goes on
  until the byte `0x9c` stands in the UTF-8 form of the text, be it inside a character.

Cancel and substitute, and another escape character, break any sequence off. So does a tab or the
end of a line or page, in the first three kinds. A sequence that is not ended takes in all the rest.
-/

namespace RelayProbe

namespace Text

/-- What a place in a text is in: nothing special, or a part of a control sequence. -/
inductive ControlPart
  | outside
  | escape
  | intermediate
  | parameters
  | command
  /-- behind `P`, where parameters may follow -/
  | device
  | deviceParameters
  | deviceIntermediate
  | string
  deriving DecidableEq, Repr

namespace ControlPart

/-- The control characters that are shown, by what they do to the layout. -/
def isLayout (c : Char) : Bool := c = '\t' || c = '\n' || c = '\x0c' || c = '\r'

/-- Whether a character is shown. Whatever is shown is outside of all sequences. -/
def shows (p : ControlPart) (c : Char) : Bool :=
  match p with
  | outside => isLayout c || (' ' ≤ c && c ≠ '\x7f')
  | escape | intermediate | parameters => isLayout c
  | _ => false

/-- What the text is in behind a character that is not shown. -/
def next (p : ControlPart) (c : Char) : ControlPart :=
  if c = '\x18' ∨ c = '\x1a' then outside
  else if c = '\x1b' then escape
  else
    match p with
    | outside => outside
    | escape =>
        if c < ' ' ∨ '\x7f' ≤ c then escape
        else if c < '0' then intermediate
        else if c = '[' then parameters
        else if c = ']' then command
        else if c = 'P' then device
        else if c = 'X' ∨ c = '^' ∨ c = '_' then string
        else outside
    | intermediate => if '0' ≤ c ∧ c < '\x7f' then outside else intermediate
    | parameters => if '@' ≤ c ∧ c < '\x7f' then outside else parameters
    | command => if c = '\x07' then outside else command
    | device =>
        if c < ' ' ∨ '\x7f' ≤ c then device
        else if c < '0' then deviceIntermediate
        else if c < '@' ∧ c ≠ ':' then deviceParameters
        else string
    | deviceParameters =>
        if c < ' ' ∨ '\x7f' ≤ c then deviceParameters
        else if c < '0' then deviceIntermediate
        else if c.isDigit ∨ c = ';' then deviceParameters
        else string
    | deviceIntermediate => if '0' ≤ c ∧ c < '\x7f' then string else deviceIntermediate
    | string => if 0x9c ∈ utf8 (String.singleton c) then outside else string

/-- What is shown of a text that begins in a part of a control sequence. -/
def shown : ControlPart → List Char → List Char
  | _, [] => []
  | p, c :: cs => if p.shows c then c :: shown outside cs else shown (p.next c) cs

/-- What is shown in a sequence is shown outside as well. -/
theorem shows_outside {p : ControlPart} {c : Char} (h : p.shows c = true) :
    outside.shows c = true := by
  have hlayout : isLayout c = true → outside.shows c = true := fun hc => by
    simp only [shows, hc, Bool.true_or]
  cases p with
  | outside => exact h
  | escape => exact hlayout h
  | intermediate => exact hlayout h
  | parameters => exact hlayout h
  | command => cases h
  | device => cases h
  | deviceParameters => cases h
  | deviceIntermediate => cases h
  | string => cases h

theorem shows_of_mem_shown {p : ControlPart} {cs : List Char} {c : Char} (h : c ∈ shown p cs) :
    outside.shows c = true := by
  induction cs generalizing p with
  | nil => cases h
  | cons d ds ih =>
      rw [shown] at h
      split at h
      · next hd =>
          rcases List.mem_cons.mp h with rfl | h
          · exact shows_outside hd
          · exact ih h
      · exact ih h

theorem shown_of_shows {cs : List Char} (h : ∀ c ∈ cs, outside.shows c = true) :
    shown outside cs = cs := by
  induction cs with
  | nil => rfl
  | cons d ds ih =>
      rw [shown, if_pos (h d List.mem_cons_self), ih fun c hc => h c (List.mem_cons_of_mem d hc)]

end ControlPart

/-- A text without its control characters and control sequences. -/
def withoutControls (s : String) : String :=
  String.ofList (ControlPart.shown .outside s.toList)

/-- Nothing that could be left out is left. -/
theorem withoutControls_idem (s : String) :
    withoutControls (withoutControls s) = withoutControls s := by
  simp only [withoutControls, String.toList_ofList]
  rw [ControlPart.shown_of_shows fun _ => ControlPart.shows_of_mem_shown]

end Text

end RelayProbe
