import RelayProbe.Program
import RelayProbe.Session.Stepwise
import Std.Async.DNS
import Std.Async.TCP

set_option autoImplicit false

/-! # The program on a machine

A run that ends before the probe, for its command line or its settings, is carried out as a whole,
and its report is printed. A probe is carried out step by step over a real connection, so that each
line is printed, and each record logged, as soon as it is there.
-/

namespace RelayProbe

namespace Machine

open Std.Async

/-- The error number in a code of the machine. The network gives its codes below zero. -/
def errno (code : UInt32) : Nat := if code.toNat < 0x80000000 then code.toNat else (-code).toNat

/-- A failure that the machine reports. -/
def faultOf : IO.Error → Fault
  | .otherError n _ | .resourceBusy n _ | .resourceVanished n _ | .unsupportedOperation n _
  | .hardwareFault n _ | .unsatisfiedConstraints n _ | .illegalOperation n _ | .protocolError n _
  | .timeExpired n _ | .alreadyExists _ n _ | .interrupted _ n _ | .noFileOrDirectory _ n _
  | .invalidArgument _ n _ | .permissionDenied _ n _ | .resourceExhausted _ n _
  | .inappropriateType _ n _ | .noSuchThing _ n _ => .system (errno n)
  | .unexpectedEof => .bare .unexpectedEof
  | .userError s => .described .other s

/-- The outcome of an action, whose failure is data. -/
def outcome {α : Type} (act : IO α) : IO (Except Fault α) := do
  try
    return .ok (← act)
  catch e =>
    return .error (faultOf e)

/-- The failure of an action that gives nothing. -/
def failureOf (act : IO Unit) : IO (Option Fault) := do
  match ← outcome act with
  | .ok () => return none
  | .error f => return some f

/-- The failure of a path that the machine cannot be given. -/
def pathNotText : Fault := .described .unsupported "the path is not UTF-8"

/-- The content of a file. -/
def fileContent (path : Bytes) : IO (Except Fault Bytes) := do
  if 0 ∈ path then return .error FileSystem.nulInPath
  match text? path with
  | none => return .error pathNotText
  | some name => outcome do return (← IO.FS.readBinFile name).data.toList

/-- Print lines on the standard error. Nothing is to be done when that fails. -/
def complain (lines : List String) : IO Unit := do
  for line in lines do
    let _ ← failureOf (IO.eprintln line)

/-! ## The network -/

/-- An address in the form of the machine. -/
def ofMachine (a : Std.Net.IPv4Addr) : IPv4 :=
  IPv4.ofBytes a.octets[0].toNat a.octets[1].toNat a.octets[2].toNat a.octets[3].toNat

/-- The addresses that the machine knows for the host of a target. -/
def addressesFor (target : String) : IO (Except Fault (List IPv4)) := do
  match Network.cutAtLast ':' target.toList with
  | none => return .error Network.unknownName
  | some (host, _) =>
      match ← outcome (DNS.getAddrInfo (String.ofList host) "").block with
      | .error _ => return .error Network.unknownName
      | .ok found =>
          return .ok <| found.toList.filterMap fun
            | .v4 a => some (ofMachine a)
            | .v6 _ => none

/-- The address of an endpoint in the machine's form. -/
def socketAddress (e : Endpoint) : Std.Net.SocketAddress :=
  let part := fun i => UInt8.ofNat (e.address.byte i)
  .v4 ⟨Std.Net.IPv4Addr.ofParts (part 0) (part 1) (part 2) (part 3), e.port⟩

/-- Connect to the first of the endpoints that can be reached, or tell why the last one cannot be. -/
def connectFirst (why : Fault) : List Endpoint → IO (Except Fault TCP.Socket.Client)
  | [] => return .error why
  | e :: es => do
      let dialled ← outcome do
        let client ← TCP.Socket.Client.mk
        (client.connect (socketAddress e)).block
        return client
      match dialled with
      | .ok client => return .ok client
      | .error f => connectFirst f es

/-- Connect to a target. -/
def connect (target : String) : IO (Except Fault TCP.Socket.Client) := do
  let known ← addressesFor target
  match { Network.isolated with lookup := fun _ => known }.endpoints target with
  | .error f => return .error f
  | .ok es => connectFirst Network.noAddress es

/-- Whom a connection leads to. -/
def peerOf (client : TCP.Socket.Client) : IO (Except Fault Endpoint) := do
  match ← outcome client.getPeerName with
  | .error f => return .error f
  | .ok (.v4 a) => return .ok ⟨ofMachine a.addr, a.port⟩
  | .ok (.v6 _) => return .error (.bare .unsupported)

/-! ## The probe -/

/-- The operations of a session over an open connection. -/
def operations (client : TCP.Socket.Client) (log : Log.Record → IO Unit) :
    Session.Operations IO where
  write bs := do
    match ← outcome (client.send ⟨bs.toArray⟩).block with
    | .error f => return .error f
    | .ok () => return .ok bs.length
  -- what was sent is not held back
  flush := return none
  read room := do
    match ← outcome (client.recv? (UInt64.ofNat room)).block with
    | .error f => return .error f
    | .ok none => return .ok []
    | .ok (some bs) => return .ok bs.data.toList
  print pieces := failureOf do
    let out ← IO.getStdout
    out.write ⟨pieces.flatten.toArray⟩
    out.flush
  shutdown := failureOf client.shutdown.block
  -- the machine closes a connection that nothing refers to
  close := return ()
  log

/-- Carry out what is left of a session. -/
partial def drive (ops : Session.Operations IO) (request : Bytes) :
    Session.Stage → IO (Except Failure Summary)
  | .closed result => return result
  | stage => do drive ops request (← stage.step ops request)

/-- Probe the target, and end with the status of the run. -/
def probe (environmentFilter : Option String) (s : Settings) : IO UInt32 := do
  let (filter, ignored) := Program.filterFor environmentFilter s.logLevel
  let log := fun r => complain (Program.logLines filter [r])
  complain ignored
  log (Program.starting s)
  let result ← match ← connect s.target with
    | .error f => pure (.error (.connect s.target f))
    | .ok client => do
        log (Probe.connected s.target (← peerOf client))
        let request := Request.forHost s.remoteHost
        drive (operations client log) request (.sending request)
  match result with
  | .ok summary =>
      log (Program.finished summary)
      return 0
  | .error f =>
      log (Program.aborted f)
      complain [Program.failureLine (.probe f)]
      return 1

/-- What a run with the given command line can read. -/
def surroundings (argv : List Bytes) : IO Program.Surroundings := do
  let environmentFilter ← IO.getEnv "RUST_LOG"
  let content ← match (Options.parse argv).toOption.bind (·.config) with
    | none => pure (.error FileSystem.missing)
    | some path => fileContent path
  return { argv, environmentFilter, files := fun _ => content, network := .isolated }

end Machine

end RelayProbe

open RelayProbe in
/-- Run the program, and end with its status. -/
def main (args : List String) : IO UInt32 := do
  let name := utf8 (← IO.appPath).toString
  let env ← Machine.surroundings (name :: args.map utf8)
  match (Options.parse env.argv).toOption.bind fun cl => (Settings.load env.files cl).toOption with
  | some s => Machine.probe env.environmentFilter s
  | none =>
      let report := Program.run env
      (← IO.getStdout).write ⟨report.output.toArray⟩
      Machine.complain report.complaints
      return UInt32.ofNat report.status
