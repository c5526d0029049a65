import RelayProbe.Toml.Item

set_option autoImplicit false

/-! # Pointing at a stretch of a document

An excerpt names the line and the column at which a stretch starts, shows that line, and marks the
stretch below it. Columns count characters. The marks are as many as the stretch has bytes, but at
least one, and no more than the bytes of the line from that column on, a column counting as one
byte.
-/

namespace RelayProbe

namespace Toml

/-- How many bytes a text has in UTF-8. -/
def byteLength (s : List Char) : Nat := (String.ofList s).utf8ByteSize

/-- The excerpt of a text that points at a stretch of it. -/
def excerpt (text : Place) (span : Span) : String :=
  let before := text.take (text.length - span.start.length)
  let line := before.count '\n' + 1
  let lead := (before.reverse.takeWhile (· ≠ '\n')).reverse
  let shown := lead ++ span.start.takeWhile (· ≠ '\n')
  let marked := span.start.take (span.start.length - span.stop.length)
  let marks := max 1 (min (byteLength marked) (byteLength shown - lead.length))
  let gutter := String.ofList (List.replicate ((toString line).length + 1) ' ') ++ "|"
  s!"TOML parse error at line {line}, column {lead.length + 1}\n" ++ gutter ++
    s!"\n{line} | " ++ String.ofList shown ++ "\n" ++ gutter ++
    String.ofList (List.replicate (lead.length + 1) ' ' ++ List.replicate marks '^') ++ "\n"

end Toml

end RelayProbe
