import RelayProbe.Bytes

set_option autoImplicit false

/-! # The transcript of what was received

Each received chunk is printed as one line, `Received: b"…"`, and the end of the stream as the line
`Something is wrong, or the stream end reached.`. Between the quotes a byte of printable ASCII
stands for itself and every other byte is escaped, so a line holds no other newline than the one
that ends it, whatever bytes were received.

A line is handed to the output in the pieces in which it is made: the opening, one piece for every
escaped byte, the closing quote and the newline.
-/

namespace RelayProbe

namespace Transcript

/-- The newline that ends a line. -/
def newline : UInt8 := 0x0a

/-- The quote around a chunk. -/
def quote : UInt8 := 0x22

/-- The backslash that opens an escape. -/
def backslash : UInt8 := 0x5c

/-- The lower-case hexadecimal digit of a number below sixteen. -/
def hexDigit (n : UInt8) : UInt8 := if n < 10 then 0x30 + n else 0x57 + n

/-- The letter that stands for a byte behind a backslash, for the bytes that have one. -/
def escapeLetter? (b : UInt8) : Option UInt8 :=
  if b = 0x0a then some 0x6e
  else if b = 0x0d then some 0x72
  else if b = 0x09 then some 0x74
  else if b = backslash then some backslash
  else if b = quote then some quote
  else if b = 0x00 then some 0x30
  else none

/-- Printable ASCII: from the blank to the tilde. -/
def isPrintable (b : UInt8) : Bool := 0x20 ≤ b && b < 0x7f

/-- How a byte is printed: by its letter behind a backslash if it has one, as itself if it is
printable, else as `\x` and two hexadecimal digits. -/
def escapeByte (b : UInt8) : Bytes :=
  match escapeLetter? b with
  | some e => [backslash, e]
  | none => if isPrintable b then [b] else [backslash, 0x78, hexDigit (b / 16), hexDigit (b % 16)]

/-- The escaped form of a chunk, without quotes. -/
def escape (chunk : Bytes) : Bytes := chunk.flatMap escapeByte

/-- What a line about a chunk opens with. -/
def opening : Bytes := utf8 "Received: b" ++ [quote]

/-- The line about a received chunk, in the pieces in which it is handed out. -/
def chunkPieces (chunk : Bytes) : List Bytes :=
  opening :: (chunk.map escapeByte ++ [[quote], [newline]])

/-- What the line at the end of the stream says. -/
def endText : Bytes := utf8 "Something is wrong, or the stream end reached."

/-- The line at the end of the stream, in the pieces in which it is handed out. -/
def endPieces : List Bytes := [endText, [newline]]

/-- The line about a received chunk. -/
def chunkLine (chunk : Bytes) : Bytes := opening ++ escape chunk ++ [quote, newline]

/-- The line at the end of the stream. -/
def endLine : Bytes := endText ++ [newline]

theorem chunkPieces_flatten (chunk : Bytes) : (chunkPieces chunk).flatten = chunkLine chunk := by
  simp [chunkPieces, chunkLine, escape, List.flatMap_def]

theorem endPieces_flatten : endPieces.flatten = endLine := by
  simp [endPieces, endLine]

end Transcript

/-- What a run received: the chunks in order, and whether the end of the stream was reached. -/
structure Transcript where
  chunks : List Bytes
  ended : Bool
  deriving DecidableEq

namespace Transcript

/-- The printed form of a transcript: a line for each chunk, and the line at the end of the stream
if it was reached. -/
def print (t : Transcript) : Bytes :=
  t.chunks.flatMap chunkLine ++ if t.ended then endLine else []

end Transcript

end RelayProbe
