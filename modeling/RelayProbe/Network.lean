import RelayProbe.Fault
import RelayProbe.Network.Address
import RelayProbe.Session.Script

set_option autoImplicit false

/-! # Reaching a target

A target is a text: an endpoint as it stands, or the name of a host, a colon and a port. A network
knows the addresses of names and how a connection to an endpoint behaves. Connecting tries the
endpoints of a target one after the other; when none of them can be reached, the failure of the
last one is the failure of the connection. An open connection tells whom it leads to, unless it
fails at that, as it does when the far end has gone already.
-/

namespace RelayProbe

/-- What a probe meets outside: the addresses of a host's name, and how a connection to an endpoint
behaves. -/
structure Network where
  lookup : String → Except Fault (List IPv4)
  dial : Endpoint → Except Fault Script
  /-- What an open connection to an endpoint says when it is asked whom it leads to. -/
  peer : Endpoint → Except Fault Endpoint := .ok

/-- An open connection: whom it leads to, if it can tell, and how it answers. -/
structure Connection where
  peer : Except Fault Endpoint
  script : Script

namespace Network

/-- The failure of a target without a port. -/
def noPort : Fault := .described .invalidInput "invalid socket address"

/-- The failure of a target whose port is no number of a port. -/
def badPort : Fault := .described .invalidInput "invalid port value"

/-- The failure of a target whose host holds a NUL. -/
def nulInHost : Fault :=
  .described .invalidInput "file name contained an unexpected NUL byte"

/-- The failure of a name that nothing is known of. -/
def unknownName : Fault :=
  .described .uncategorized "failed to lookup address information: Name or service not known"

/-- The failure of a target that has no address at all. -/
def noAddress : Fault := .described .invalidInput "could not resolve to any address"

/-- The addresses of a host that is given by numbers or by name. -/
def hostAddresses (net : Network) (host : List Char) : Except Fault (List IPv4) :=
  if '\x00' ∈ host then .error nulInHost
  else
    match looseAddress? host with
    | some a => .ok [a]
    | none => net.lookup (String.ofList host)

/-- The endpoints that a target stands for. -/
def endpoints (net : Network) (target : String) : Except Fault (List Endpoint) :=
  match endpoint? target.toList with
  | some e => .ok [e]
  | none =>
      match cutAtLast ':' target.toList with
      | none => .error noPort
      | some (host, port) =>
          match port? port with
          | none => .error badPort
          | some p => (net.hostAddresses host).map (List.map (⟨·, p⟩))

/-- The first of the endpoints that can be reached, or else why the last one cannot be. -/
def dialFirst (net : Network) (why : Fault) : List Endpoint → Except Fault Connection
  | [] => .error why
  | e :: es =>
      match net.dial e with
      | .ok script => .ok ⟨net.peer e, script⟩
      | .error f => net.dialFirst f es

/-- Connect to a target. -/
def connect (net : Network) (target : String) : Except Fault Connection :=
  match net.endpoints target with
  | .error f => .error f
  | .ok es => net.dialFirst noAddress es

/-- A network on which no name is known and nothing can be reached. -/
def isolated : Network where
  lookup _ := .error unknownName
  dial _ := .error (.system 101)

/-- A machine on which a single endpoint listens and answers in a given way. -/
def ofListener (listener : Endpoint) (script : Script) : Network where
  lookup _ := .error unknownName
  dial e := if e = listener then .ok script else .error (.system 111)

end Network

end RelayProbe
