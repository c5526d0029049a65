import RelayProbe.Session

set_option autoImplicit false

/-! # What the events of a run tell

The events of a run are enough to say what was received, what had to be printed, how the run ended
and what was logged. The functions here read all this off a list of events alone, one event at a
time, and know nothing of the loop that left it.
-/

namespace RelayProbe

namespace Session

namespace Event

/-- Whether an event is a write. -/
def isWrite : Event → Bool
  | write .. => true
  | _ => false

/-- Whether an event is a flush. -/
def isFlush : Event → Bool
  | flush _ => true
  | _ => false

/-- Whether an event is a read. -/
def isRead : Event → Bool
  | read .. => true
  | _ => false

/-- Whether an event is a shutdown. -/
def isShutdown : Event → Bool
  | shutdown _ => true
  | _ => false

/-- Whether an event is the end of the connection. -/
def isClose : Event → Bool
  | close _ => true
  | _ => false

/-- The chunk that an event brought, if it is a read that gave bytes. -/
def chunk? : Event → Option Bytes
  | read _ (.ok (b :: bs)) => some (b :: bs)
  | _ => none

/-- Whether an event is a read that found the end of the stream. -/
def foundEnd : Event → Bool
  | read _ (.ok []) => true
  | _ => false

/-- The failure of the connection that an event is, if it ends the exchange. An interrupted write
does not, and neither does a failing shutdown. -/
def failure? : Event → Option Failure
  | write _ (.error f) => if f.kind = .interrupted then none else some (.write f)
  | write _ (.ok 0) => some (.write nothingTaken)
  | flush (some f) => some (.write f)
  | read _ (.error f) => some (.read f)
  | _ => none

/-- What has to be printed because of an event. -/
def owed : Event → Bytes
  | read _ (.ok []) => Transcript.endLine
  | read _ (.ok (b :: bs)) => Transcript.chunkLine (b :: bs)
  | _ => []

/-- What is logged because of an event, when the request has `n` bytes. -/
def records (n : Nat) : Event → List Log.Record
  | flush none => [requestSent n]
  | read _ (.ok []) => [closedByPeer]
  | read _ (.ok (b :: bs)) => [chunkReceived (b :: bs).length]
  | shutdown (some f) => [shutdownFailed f]
  | close _ => [connectionClosed]
  | _ => []

end Event

/-- The chunks that were received, in order. -/
def chunks (es : List Event) : List Bytes := es.filterMap Event.chunk?

/-- All bytes that had to be printed. -/
def owed (es : List Event) : Bytes := es.flatMap Event.owed

/-- The records of a list of events, when the request has `n` bytes. -/
def recordsOf (n : Nat) (es : List Event) : List Log.Record := es.flatMap (Event.records n)

/-- What was received: the chunks, and whether the end of the stream was found. -/
def transcript (es : List Event) : Transcript := ⟨chunks es, es.any Event.foundEnd⟩

/-- The counts of what was received. -/
def tally (es : List Event) : Summary := (chunks es).foldr (fun c s => s.add c.length) {}

/-- How a run ended, when a sink that takes no more fails with `refusal`: by the first failure of
the connection, else by the sink if not all was printed that had to be, else well. -/
def verdict (refusal : Fault) (es : List Event) : Except Failure Summary :=
  match es.findSome? Event.failure? with
  | some f => .error f
  | none => if output es = owed es then .ok (tally es) else .error (.output refusal)

end Session

end RelayProbe
