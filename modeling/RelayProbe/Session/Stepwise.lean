import RelayProbe.Session

set_option autoImplicit false

/-! # A session, one operation at a time

A session can be carried out while the far end is still talking. Where it stands tells which
operation comes next, and the answer to that operation tells where it stands then; nothing depends
on what is still to arrive. Who carries the operations out is left open (`Operations`): a machine
with a real connection, or a script and a sink, which take down what happens (`Course`).
-/

namespace RelayProbe

/-- The answer to a write of some bytes, and the answers to the next writes. -/
def WriteAnswer.take : List WriteAnswer → Bytes → Except Fault Nat × List WriteAnswer
  | [], bs => (.ok bs.length, [])
  | .fail f :: ws, _ => (.error f, ws)
  | .accept n :: ws, bs => (.ok (min n bs.length), ws)

namespace Session

/-- What a session needs to have done. -/
structure Operations (m : Type → Type) where
  /-- Offer bytes to the far end, and tell how many were taken. -/
  write : Bytes → m (Except Fault Nat)
  flush : m (Option Fault)
  /-- Read with room for so many bytes. -/
  read : Nat → m (Except Fault Bytes)
  /-- Print a line that is handed out in pieces. -/
  print : List Bytes → m (Option Fault)
  shutdown : m (Option Fault)
  close : m Unit
  log : Log.Record → m Unit

/-- Where a session stands: which operation comes next. -/
inductive Stage
  /-- these bytes are to be written -/
  | writing (left : Bytes)
  | flushing
  /-- a read comes next, after so many chunks -/
  | reading (counts : Summary)
  /-- a line is to be printed, in pieces, before the session goes on -/
  | printing (pieces : List Bytes) (next : Stage)
  /-- the exchange is over, and the connection is to be shut down -/
  | closing (result : Except Failure Summary)
  | closed (result : Except Failure Summary)

namespace Stage

/-- The stage at which bytes are left to be sent. Without any the flush comes next. -/
def sending (left : Bytes) : Stage := if left = [] then flushing else writing left

/-- Carry out one operation. -/
def step {m : Type → Type} [Monad m] (ops : Operations m) (request : Bytes) : Stage → m Stage
  | writing left => do
      match ← ops.write left with
      | .error f =>
          return if f.kind = .interrupted then writing left else closing (.error (.write f))
      | .ok k =>
          return if k = 0 then closing (.error (.write nothingTaken)) else sending (left.drop k)
  | flushing => do
      match ← ops.flush with
      | some f => return closing (.error (.write f))
      | none =>
          ops.log (requestSent request.length)
          return reading {}
  | reading counts => do
      match ← ops.read Arrival.readRoom with
      | .error f => return closing (.error (.read f))
      | .ok [] =>
          ops.log closedByPeer
          return printing Transcript.endPieces (closing (.ok counts))
      | .ok (b :: bs) =>
          let chunk := b :: bs
          ops.log (chunkReceived chunk.length)
          return printing (Transcript.chunkPieces chunk) (reading (counts.add chunk.length))
  | printing pieces next => do
      match ← ops.print pieces with
      | some f => return closing (.error (.output f))
      | none => return next
  | closing result => do
      match ← ops.shutdown with
      | some f => ops.log (shutdownFailed f)
      | none => pure ()
      ops.close
      ops.log connectionClosed
      return closed result
  | closed result => return closed result

end Stage

/-! ## Against a script -/

/-- A session against a script, up to some moment: what is left of the script, the sink as it then
is, and what happened. -/
structure Course where
  script : Script
  sink : Sink
  events : List Event := []
  records : List Log.Record := []

namespace Course

/-- The course after some more events. -/
def happened (c : Course) (es : List Event) : Course := { c with events := c.events ++ es }

/-- The operations as a script and a sink answer them. -/
def operations : Operations (StateM Course) where
  write bs := modifyGet fun c =>
    let (answer, writes) := WriteAnswer.take c.script.writes bs
    (answer, { c with script.writes := writes }.happened [.write bs answer])
  flush := modifyGet fun c => (c.script.flush, c.happened [.flush c.script.flush])
  read room := modifyGet fun c =>
    let (answer, arrivals) := Arrival.take c.script.arrivals
    (answer, { c with script.arrivals := arrivals }.happened [.read room answer])
  print pieces := modifyGet fun c =>
    let w := c.sink.writePieces pieces
    (w.failure, { c with sink := w.sink }.happened (printed w.accepted))
  shutdown := modifyGet fun c => (c.script.shutdown, c.happened [.shutdown c.script.shutdown])
  close := modify fun c => c.happened [.close c.script.arrivals]
  log r := modify fun c => { c with records := c.records ++ [r] }

end Course

/-- Carry out one operation against a script. -/
def advance (request : Bytes) (p : Stage × Course) : Stage × Course :=
  (p.1.step Course.operations request).run p.2

end Session

end RelayProbe
