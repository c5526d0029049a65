import RelayProbe.Network
import RelayProbe.Session

set_option autoImplicit false

/-! # One probe

A probe connects to its target and runs one exchange over the connection. When the connection
cannot be made, nothing is sent and nothing is printed.
-/

namespace RelayProbe

namespace Probe

/-- The record of an open connection. It names the far end, or the target as it was given when the
connection does not tell whom it leads to. -/
def connected (target : String) : Except Fault Endpoint → Log.Record
  | .ok peer => Session.note .info "Connected" [("peer", toString peer)]
  | .error _ => Session.note .info "Connected" [("proxy", target)]

/-- Connect to the target, send the request, and print the answer to the sink. -/
def run (net : Network) (target : String) (request : Bytes) (sink : Sink) : Session.Outcome :=
  match net.connect target with
  | .error f => ⟨[], [], .error (.connect target f)⟩
  | .ok c =>
      let o := Session.run request c.script sink
      { o with records := connected target c.peer :: o.records }

end Probe

end RelayProbe
