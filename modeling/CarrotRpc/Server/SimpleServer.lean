import Mathlib.Data.Finset.Basic
import CarrotRpc.Library.TransitionSystem
import CarrotRpc.Server.Requests

/-! `carrot_simple_server.cpp`: the handling of one request, and the pool of
`rpc_connection` objects with the callbacks that move them. An exception leaves
`Run`, which may be called again. -/

set_option autoImplicit false

namespace CarrotRpc.Server.Simple

open Library Library.Faulting Common Protob

def expandConnectionPacket (heap : Realloc) (size : UInt32) (buf : PacketBuf) :
    PacketBuf × Bool :=
  if buf.size < size ∨ buf.p = none then
    match heap.apply buf.p size.toNat with
    | none => ({ buf with p := none }, false)
    | some block => ({ p := some block, size }, true)
  else (buf, true)

def dialect : Dialect where
  setsId := false
  failureMessage _ := "server side failure"
  catches := false

section Requests

variable {Msg : Type} [Protobuf]

/-- `respond_to_client` up to its write; the size is a `size_t`. -/
def preparePacket (delivery : Delivery) (rpcResp : Response) (resp : Option (List UInt8)) :
    Handling (List UInt8) :=
  let rpc := Protobuf.response.serialize rpcResp
  let n := sizeofPacket + rpc.length + byteSize resp
  Server.preparePacket delivery
    (fun buf => some (expandConnectionPacket delivery.heap (.ofNat n) buf)) n rpc resp

def respondToClient (delivery : Delivery) (rpcResp : Response) (resp : Option (List UInt8)) :
    Serving Unit := do
  let packet ← onBuffer (preparePacket delivery rpcResp resp)
  send delivery.accepted packet

def receive (heap : Realloc) : Serving Header :=
  receivePacket fun size buf => some (expandConnectionPacket heap size buf)

/-- `handle_client`; a fault stands for the call of `destroy_rpc_connection`. -/
def handleClient (services : Services Msg) (turn : Turn Msg) : Serving Unit := do
  let header ← receive turn.heap
  let (rpcResp, resp) ← onBuffer (dispatch dialect (lookUp services) turn.perform header)
  respondToClient turn.delivery rpcResp resp

end Requests

abbrev ConnRef := Nat

/-- The object of one connection. The flag `allocated` is history: the object was
created and has not been deleted. -/
structure RpcConnection where
  clientFd : Nat := 0
  alive : Bool := false
  endpoint : Endpoint := {}
  allocated : Bool := false

/-- The open numbers are those of client descriptors, and `lostBuffers` counts the
packet buffers of deleted objects. -/
structure State where
  unused : List ConnRef
  inUse : OrderedMap Nat ConnRef
  connections : ConnRef → RpcConnection
  nextConn : ConnRef
  openFds : Finset Nat
  lostBuffers : Nat

/-- How `accept` ends: a new number with what the client will send, or -1. -/
inductive Accepted where
  | failed
  | client (fd : Nat) (incoming : Incoming)

inductive Label (Msg : Type) where
  | accept (accepted : Accepted) (allocates registers : Bool)
  | readable (conn : ConnRef) (turn : Turn Msg)

namespace State

def modifyConn (conn : ConnRef) (change : RpcConnection → RpcConnection) (state : State) :
    State :=
  { state with
    connections := Function.update state.connections conn (change (state.connections conn)) }

/-- `destroy_rpc_connection`: the buffer is kept for reuse. -/
def destroyRpcConnection (conn : ConnRef) (state : State) : State :=
  let record := state.connections conn
  let state :=
    if record.alive then
      { state with openFds := state.openFds.erase record.clientFd }.modifyConn conn fun record =>
        { record with alive := false }
    else state
  { state with
    unused := state.unused ++ [conn]
    inUse := state.inUse.erase conn }

/-- The object `handle_listen_sock` takes from the pool, or creates. -/
def takeConnection (state : State) : ConnRef × State :=
  match state.unused.getLast? with
  | some conn => (conn, { state with unused := state.unused.dropLast })
  | none =>
      (state.nextConn,
        { state.modifyConn state.nextConn fun _ => { allocated := true } with
          nextConn := state.nextConn + 1 })

/-- `handle_listen_sock` after `accept` has returned a client. -/
def addClient (fd : Nat) (incoming : Incoming) (allocates registers : Bool) (state : State) :
    State :=
  let state := { state with openFds := insert fd state.openFds }
  -- `new` throws when there is no memory
  if state.unused = [] ∧ !allocates then state
  else
    let (conn, state) := state.takeConnection
    let state := state.modifyConn conn fun record =>
      { record with
        clientFd := fd
        alive := true
        endpoint := { buf := record.endpoint.buf, incoming, sent := [] } }
    if !registers then
      let lost := ((state.connections conn).endpoint.buf.p.map fun _ => 1).getD 0
      { state.modifyConn conn fun record => { record with allocated := false } with
        lostBuffers := state.lostBuffers + lost }
    else { state with inUse := state.inUse.insert conn conn }

def handleListenSock (accepted : Accepted) (allocates registers : Bool) (state : State) :
    Option State :=
  match accepted with
  | .failed => some state
  | .client fd incoming =>
      if fd ∈ state.openFds then none
      else some (state.addClient fd incoming allocates registers)

variable {Msg : Type} [Protobuf]

/-- What follows the handling of a request. -/
def conclude (conn : ConnRef) (state : State) : Endpoint × Except Fault Unit → Option State
  | (endpoint, result) =>
      let state := state.modifyConn conn fun record => { record with endpoint }
      match result with
      | .ok () => some state
      | .error (.escapes _) => some state
      | .error fault => if fault.isFatal then none else some (state.destroyRpcConnection conn)

/-- The reactor calls back only for events that are registered. -/
def readable (services : Services Msg) (conn : ConnRef) (turn : Turn Msg) (state : State) :
    Option State :=
  if state.inUse.find? conn = some conn then
    state.conclude conn (handleClient services turn (state.connections conn).endpoint)
  else none

def step (services : Services Msg) (state : State) : Label Msg → Option State
  | .accept accepted allocates registers =>
      state.handleListenSock accepted allocates registers
  | .readable conn turn => state.readable services conn turn

end State

/-- A simple server with a table of registered services. -/
def simpleServer {Msg : Type} [Protobuf] (services : Services Msg) :
    TransitionSystem State (Label Msg) where
  initial :=
    { unused := []
      inUse := .empty
      connections := fun _ => {}
      nextConn := 0
      openFds := ∅
      lostBuffers := 0 }
  step := State.step services

end CarrotRpc.Server.Simple
