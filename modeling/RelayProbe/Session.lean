import RelayProbe.Log
import RelayProbe.Session.Script
import RelayProbe.Session.Sink
import RelayProbe.Transcript

set_option autoImplicit false

/-! # One exchange over an open connection

The request is written until all of it is taken, and flushed. Then one read follows another, and
each received chunk is printed before the next read, until a read finds the end of the stream,
which is printed too. The first failure, on either side, ends this; only a write that was
interrupted is made again. Whatever happened, the connection is shut down and closed at the end,
and a failing shutdown is no more than logged.

A run leaves a list of events, in the order in which they happened, and the log records written
along the way, whatever their level.
-/

namespace RelayProbe

/-- How a probe fails. -/
inductive Failure
  | connect (target : String) (cause : Fault)
  | write (cause : Fault)
  | read (cause : Fault)
  | output (cause : Fault)
  deriving DecidableEq, Repr

namespace Failure

/-- The failed operation under a failure. -/
def cause : Failure → Fault
  | connect _ f => f
  | write f => f
  | read f => f
  | output f => f

/-- The text of a failure. -/
def message : Failure → String
  | connect target f => s!"Failed to connect to '{target}': {f.text}"
  | write f => s!"Failed to send request: {f.text}"
  | read f => s!"Failed to read response: {f.text}"
  | output f => s!"Failed to write output: {f.text}"

end Failure

/-- What a run counts: the chunks that were received and printed, and their bytes. -/
structure Summary where
  chunks : Nat := 0
  bytes : Nat := 0
  deriving DecidableEq, Repr

/-- The counts with one more chunk of `n` bytes. -/
def Summary.add (s : Summary) (n : Nat) : Summary := ⟨s.chunks + 1, s.bytes + n⟩

namespace Session

/-- What happens on the connection and at the sink. -/
inductive Event
  /-- a write that offers these bytes, and how many of them were taken -/
  | write (offered : Bytes) (answer : Except Fault Nat)
  | flush (failure : Option Fault)
  /-- a read with room for so many bytes, and what it gave -/
  | read (room : Nat) (answer : Except Fault Bytes)
  /-- bytes that the sink took -/
  | print (text : Bytes)
  | shutdown (failure : Option Fault)
  /-- the connection is given up while this was still to arrive -/
  | close (unread : List Arrival)

/-- The bytes of the request that an event brought over to the far end. -/
def Event.sent : Event → Bytes
  | write offered (.ok n) => offered.take n
  | _ => []

/-- The bytes that an event printed. -/
def Event.printed : Event → Bytes
  | print text => text
  | _ => []

/-- All bytes that were taken by the far end. -/
def sent (es : List Event) : Bytes := es.flatMap Event.sent

/-- All bytes that were taken by the sink. -/
def output (es : List Event) : Bytes := es.flatMap Event.printed

/-! ## Log records -/

/-- A record about the exchange. -/
def note (level : Log.Level) (message : String) (fields : List (String × String) := []) :
    Log.Record := ⟨.probe, level, message, fields⟩

def requestSent (n : Nat) : Log.Record := note .trace "Request sent" [("bytes", toString n)]

def chunkReceived (n : Nat) : Log.Record := note .debug "Received chunk" [("len", toString n)]

def closedByPeer : Log.Record := note .trace "Connection closed by peer"

def shutdownFailed (f : Fault) : Log.Record := note .debug "Shutdown failed" [("error", f.text)]

def connectionClosed : Log.Record := note .info "Connection closed"

/-! ## Sending -/

/-- The failure of a write that takes nothing. -/
def nothingTaken : Fault := .bare .writeZero

/-- Write the bytes until all are taken: each call offers all that are left. An interrupted call is
made again; the failure is the one of the last call, if that failed otherwise or took nothing. -/
def send : List WriteAnswer → Bytes → List Event × Option Fault
  | _, [] => ([], none)
  | [], bs => ([.write bs (.ok bs.length)], none)
  | .fail f :: ws, bs =>
      if f.kind = .interrupted then
        let rest := send ws bs
        (.write bs (.error f) :: rest.1, rest.2)
      else ([.write bs (.error f)], some f)
  | .accept n :: ws, bs =>
      let k := min n bs.length
      if k = 0 then ([.write bs (.ok 0)], some nothingTaken)
      else
        let rest := send ws (bs.drop k)
        (.write bs (.ok k) :: rest.1, rest.2)

/-! ## Receiving -/

/-- What came of receiving. -/
structure Received where
  events : List Event
  records : List Log.Record
  result : Except Failure Summary
  unread : List Arrival

/-- The event of printing; there is none when the sink took nothing. -/
def printed (text : Bytes) : List Event := if text = [] then [] else [.print text]

/-- Read and print until the end of the stream, or the first failure. -/
def receive (arrivals : List Arrival) (sink : Sink) : Received :=
  match _h : Arrival.take arrivals with
  | (.error f, rest) => ⟨[.read Arrival.readRoom (.error f)], [], .error (.read f), rest⟩
  | (.ok [], rest) =>
      let w := sink.writePieces Transcript.endPieces
      ⟨.read Arrival.readRoom (.ok []) :: printed w.accepted, [closedByPeer],
        match w.failure with
        | some f => .error (.output f)
        | none => .ok {},
        rest⟩
  | (.ok (b :: bs), rest) =>
      let chunk := b :: bs
      let w := sink.writePieces (Transcript.chunkPieces chunk)
      let events := .read Arrival.readRoom (.ok chunk) :: printed w.accepted
      match w.failure with
      | some f => ⟨events, [chunkReceived chunk.length], .error (.output f), rest⟩
      | none =>
          let tail := receive rest w.sink
          ⟨events ++ tail.events, chunkReceived chunk.length :: tail.records,
            tail.result.map (·.add chunk.length), tail.unread⟩
termination_by Arrival.weight arrivals
decreasing_by exact Arrival.weight_take _h

/-! ## The whole exchange -/

/-- Send the request, flush, and receive. -/
def exchange (request : Bytes) (script : Script) (sink : Sink) : Received :=
  match send script.writes request with
  | (events, some f) => ⟨events, [], .error (.write f), script.arrivals⟩
  | (events, none) =>
      match script.flush with
      | some f => ⟨events ++ [.flush (some f)], [], .error (.write f), script.arrivals⟩
      | none =>
          let tail := receive script.arrivals sink
          { tail with
            events := events ++ .flush none :: tail.events
            records := requestSent request.length :: tail.records }

/-- What a run leaves behind. -/
structure Outcome where
  events : List Event
  records : List Log.Record
  result : Except Failure Summary

/-- Run one exchange, then shut the connection down and close it. -/
def run (request : Bytes) (script : Script) (sink : Sink) : Outcome :=
  let e := exchange request script sink
  { events := e.events ++ [.shutdown script.shutdown, .close e.unread]
    records := e.records ++ (script.shutdown.map shutdownFailed).toList ++ [connectionClosed]
    result := e.result }

end Session

end RelayProbe
