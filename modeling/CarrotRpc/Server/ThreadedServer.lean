import Mathlib.Data.Finset.Basic
import CarrotRpc.Library.TransitionSystem
import CarrotRpc.Server.Requests

/-! `carrot_threaded_server.cpp`: one pass of the loop in `handle_client`, and the
interleaving of the handler threads with the accepts of `Run`. A descriptor is a
number, and a number that is not open may be given to the next client. -/

set_option autoImplicit false

namespace CarrotRpc.Server.Threaded

open Library Library.Faulting Common Protob

def dialect : Dialect where
  setsId := false
  failureMessage _ := "server side failure"
  catches := false

section Requests

variable {Msg : Type} [Protobuf]

/-- `respond_to_client` up to its write; the size is a `uint32_t`. -/
def preparePacket (delivery : Delivery) (rpcResp : Response) (resp : Option (List UInt8)) :
    Handling (List UInt8) :=
  let rpc := Protobuf.response.serialize rpcResp
  let n : UInt32 := .ofNat (sizeofPacket + rpc.length + byteSize resp)
  Server.preparePacket delivery (fun buf => expandPacket delivery.heap buf n) n.toNat rpc resp

def respondToClient (delivery : Delivery) (rpcResp : Response) (resp : Option (List UInt8)) :
    Serving Unit := do
  let packet ← onBuffer (preparePacket delivery rpcResp resp)
  send delivery.accepted packet

def receive (heap : Realloc) : Serving Header :=
  receivePacket fun size buf => expandPacket heap buf size

/-- One pass of the loop of `handle_client` that nothing disturbs. -/
def handleRequest (services : Services Msg) (turn : Turn Msg) : Serving Unit := do
  let header ← receive turn.heap
  let (rpcResp, resp) ← onBuffer (dispatch dialect (lookUp services) turn.perform header)
  respondToClient turn.delivery rpcResp resp

end Requests

/-- Where a thread in `handle_client` is. At `destroy` it is about to call
`destroy_connection` in a branch that goes on with the loop or leaves it, and at
`leave` it is about to make the call behind the loop. -/
inductive Point where
  | top
  | readRpcLen
  | readReqLen (rpcLen : UInt32)
  | readRespLen (rpcLen reqLen : UInt32)
  | readPayload (header : Header) (size : Nat)
  | write (packet : List UInt8)
  | destroy (again : Bool)
  | leave
  | exited
  deriving DecidableEq

namespace Point

/-- The next step is a call on the descriptor. -/
def uses : Point → Bool
  | .top | .exited => false
  | .readRpcLen | .readReqLen _ | .readRespLen _ _ | .readPayload _ _ | .write _ | .destroy _
  | .leave => true

def closes : Point → Bool
  | .destroy _ | .leave => true
  | .top | .readRpcLen | .readReqLen _ | .readRespLen _ _ | .readPayload _ _ | .write _
  | .exited => false

end Point

/-- What the environment decides about one step of a thread: nothing, that a read or
a write makes some progress only, that it transfers all of its bytes, or that it
fails, a read after some bytes. -/
inductive Event (Msg : Type) where
  | proceeds
  | progresses
  | transfers (bytes : List UInt8) (turn : Turn Msg)
  | fails (bytes : List UInt8)

abbrev HandlerRef := Nat

/-- A thread and its locals. From `closes` on the fields are history: how often it
closed its number, whether it used the number after that, whether it used the number
while it was another client's, and whether a step of it failed. -/
structure Handler where
  fd : Nat := 0
  point : Point := .exited
  buf : PacketBuf := {}
  closes : Nat := 0
  usedClosed : Bool := false
  trespassed : Bool := false
  failed : Bool := false

section Steps

variable {Msg : Type} [Protobuf]

/-- Go on behind a computation on the buffer. A fault is followed by
`destroy_connection`, unless no step follows it; an exception ends the program. -/
def proceed {Value : Type} (again : Bool) (next : Value → Point) (handler : Handler) :
    PacketBuf × Except Fault Value → Option Handler
  | (buf, .ok value) => some { handler with buf, point := next value }
  | (_, .error (.escapes _)) => none
  | (buf, .error fault) =>
      if fault.isFatal then none
      else some { handler with buf, point := .destroy again, failed := true }

/-- One step of a thread, apart from what it does to its descriptor. -/
def advance (services : Services Msg) (stopped : Bool) (handler : Handler) :
    Event Msg → Option Handler
  | .proceeds =>
      match handler.point with
      | .top => some { handler with point := if stopped then .leave else .readRpcLen }
      | .destroy again => some { handler with point := if again then .top else .leave }
      | .leave => some { handler with point := .exited }
      | _ => none
  | .progresses =>
      match handler.point with
      | .top | .destroy _ | .leave | .exited => none
      | _ => some handler
  | .transfers bytes turn =>
      let field := ByteOrder.ofBigEndian32 bytes
      match handler.point with
      | .readRpcLen =>
          if bytes.length = 4 then some { handler with point := .readReqLen field } else none
      | .readReqLen rpcLen =>
          if bytes.length = 4 then some { handler with point := .readRespLen rpcLen field }
          else none
      | .readRespLen rpcLen reqLen =>
          let header : Header := ⟨rpcLen, reqLen, field⟩
          if bytes.length = 4 then
            proceed false (.readPayload header) handler
              (openPayload (fun buf => expandPacket turn.heap buf (packetSize header)) header
                handler.buf)
          else none
      | .readPayload header size =>
          match storePayload size bytes handler.buf with
          | (buf, .ok ()) =>
              proceed true .write handler
                ((do
                  let (rpcResp, resp) ← dispatch dialect (lookUp services) turn.perform header
                  preparePacket turn.delivery rpcResp resp) buf)
          | (_, .error _) => none
      | .write _ => some { handler with point := .top }
      | _ => none
  | .fails bytes =>
      match handler.point with
      | .readRpcLen | .readReqLen _ | .readRespLen _ _ =>
          some { handler with point := .destroy false, failed := true }
      | .readPayload _ size =>
          match storePayload size bytes handler.buf with
          | (buf, .error .unread) =>
              some { handler with buf, point := .destroy false, failed := true }
          | _ => none
      | .write _ => some { handler with point := .destroy true, failed := true }
      | _ => none

end Steps

/-- The field `owner` is history: the thread a number was last given to. -/
structure State where
  stopped : Bool
  accepting : Bool
  openFds : Finset Nat
  handlers : HandlerRef → Handler
  nextHandler : HandlerRef
  owner : Nat → HandlerRef

inductive Label (Msg : Type) where
  | run
  | stop
  | accept (accepted : Option Nat)
  | handle (handler : HandlerRef) (event : Event Msg)

namespace State

variable {Msg : Type}

/-- `accept` in `Run` returns a number and a thread is started for it, or fails and
`Run` returns. -/
def accept (accepted : Option Nat) (state : State) : Option State :=
  if state.accepting then
    match accepted with
    | none => some { state with accepting := false }
    | some fd =>
        if fd ∈ state.openFds then none
        else some
          { state with
            accepting := !state.stopped
            openFds := insert fd state.openFds
            handlers := Function.update state.handlers state.nextHandler
              { fd, point := .top }
            nextHandler := state.nextHandler + 1
            owner := Function.update state.owner fd state.nextHandler }
  else none

/-- Bytes are transferred only through a number that is open. -/
def permits (handler : Handler) (state : State) : Event Msg → Prop
  | .transfers _ _ | .progresses => handler.fd ∈ state.openFds
  | .proceeds | .fails _ => True

instance (handler : Handler) (state : State) (event : Event Msg) :
    Decidable (state.permits handler event) := by
  cases event <;> simp only [permits] <;> infer_instance

/-- What the use of a descriptor leaves in the history. -/
def record (ref : HandlerRef) (state : State) (handler advanced : Handler) : Handler :=
  { advanced with
    closes := if handler.point.closes then handler.closes + 1 else handler.closes
    usedClosed := handler.usedClosed || (handler.point.uses && 0 < handler.closes)
    trespassed := handler.trespassed ||
      (handler.point.uses && state.owner handler.fd ≠ ref) }

def handle [Protobuf] (services : Services Msg) (ref : HandlerRef) (event : Event Msg)
    (state : State) : Option State :=
  let handler := state.handlers ref
  if ref < state.nextHandler ∧ state.permits handler event then
    (advance services state.stopped handler event).map fun advanced =>
      { state with
        handlers := Function.update state.handlers ref (state.record ref handler advanced)
        openFds :=
          if handler.point.closes then state.openFds.erase handler.fd else state.openFds }
  else none

def step [Protobuf] (services : Services Msg) (state : State) : Label Msg → Option State
  | .run => if state.accepting then none else some { state with stopped := false, accepting := true }
  | .stop => some { state with stopped := true }
  | .accept accepted => state.accept accepted
  | .handle handler event => state.handle services handler event

end State

/-- A threaded server with a table of registered services. -/
def threadedServer {Msg : Type} [Protobuf] (services : Services Msg) :
    TransitionSystem State (Label Msg) where
  initial :=
    { stopped := true
      accepting := false
      openFds := ∅
      handlers := fun _ => {}
      nextHandler := 0
      owner := fun _ => 0 }
  step := State.step services

end CarrotRpc.Server.Threaded
