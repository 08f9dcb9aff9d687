import CarrotRpc.Library.TransitionSystem
import CarrotRpc.Server.Requests

/-! `carrot_async_server.cpp`: the handlers of one connection, and the server with
its map of connections and the operations asio has outstanding. An operation leaves
the state when its handler is invoked; after an exception the application calls
`io_service::run` again. -/

set_option autoImplicit false

namespace CarrotRpc.Server.Async

open Library Library.Faulting Common Protob

/-- The pair `p_`, `size_` is `buf`. The flag `server` tells that `server_` is not
NULL, and `largest` is history: the largest packet the buffer was asked to hold. -/
structure RpcServerConnection where
  server : Bool := true
  isOpen : Bool := false
  buf : PacketBuf := {}
  n : UInt32 := 0
  largest : UInt32 := 0

/-- The operation a handler starts before it returns. -/
inductive Operation where
  | readHeader
  | readPayload (size : Nat)
  | write (packet : List UInt8)
  deriving DecidableEq

/-- A computation of a handler on its connection. -/
abbrev Handler (Value : Type) := Faulting RpcServerConnection Fault Value

def dialect : Dialect where
  setsId := true
  failureMessage controller := controller.errorText
  catches := true

namespace RpcServerConnection

def onBuffer {Value : Type} (handling : Handling Value) : Handler Value :=
  zoom RpcServerConnection.buf (fun conn buf => { conn with buf }) handling

/-- `expand_packet(&p_, &size_, n)` -/
def expand (heap : Realloc) (n : UInt32) : Handler Unit := fun conn =>
  onBuffer (grow fun buf => expandPacket heap buf n) { conn with largest := max conn.largest n }

def serve (heap : Realloc) : Handler Operation := do
  expand heap (.ofNat sizeofPacket)
  pure .readHeader

/-- `CONVERT_TO_HOST_ORDER(*p_)` and the use of its fields. -/
def convertHeader : Handling Header := do
  let bytes ← load 0 sizeofPacket
  let header := Header.ofNetwork bytes
  store 0 header.toHost
  pure header

def setSize (n : UInt32) : Handler Unit := fun conn => ({ conn with n }, .ok ())

/-- `handle_read_header` up to the read of the payload: the number of bytes that is then
asked for. The bytes are those the completed read has left in the buffer. -/
def openPayload (heap : Realloc) (bytes : List UInt8) : Handler Nat := do
  onBuffer (store 0 bytes)
  let header ← onBuffer convertHeader
  setSize (packetSize header)
  expand heap (packetSize header)
  pure (payloadSize (packetSize header))

def handleReadHeader (heap : Realloc) (bytes : List UInt8) : Handler Operation := do
  let size ← openPayload heap bytes
  pure (.readPayload size)

/-- The fields `p_->rpc_len` and so on of a packet in host order. -/
def readFields : Handling Header := do
  let bytes ← load 0 sizeofPacket
  pure (Header.ofHost bytes)

variable {Msg : Type}

/-- The lookup goes through `server_`. -/
def find (services : Services Msg) (server : Bool) (identity : String) :
    Handling (Except String (Method Msg)) :=
  if server ∨ splitIdentity identity = none then pure (findTarget services identity)
  else Faulting.fail .crashes

variable [Protobuf]

/-- `respond_to_client` up to its write. The buffer is expanded to `n_`, which is the size
of the request. -/
def preparePacket (delivery : Delivery) (rpcResp : Response) (resp : Option (List UInt8)) :
    Handler (List UInt8) := fun conn =>
  let rpc := Protobuf.response.serialize rpcResp
  let n := sizeofPacket + rpc.length + byteSize resp
  onBuffer (Server.preparePacket delivery (fun buf => expandPacket delivery.heap buf conn.n) n
    rpc resp) conn

def respondToClient (delivery : Delivery) (rpcResp : Response) (resp : Option (List UInt8)) :
    Handler Operation := do
  let packet ← preparePacket delivery rpcResp resp
  pure (.write packet)

/-- What `handle_read_payload` parses first. -/
def metadata (size : Nat) (bytes : List UInt8) : Handling (List UInt8) := do
  storePayload size bytes
  let header ← readFields
  parseRange 0 header.rpcLen

/-- The request it finds in its buffer, if it can parse its metadata. -/
def parsedRequest (size : Nat) (bytes : List UInt8) (buf : PacketBuf) : Option Request :=
  match (metadata size bytes buf).2 with
  | .error _ => none
  | .ok metadata => Protobuf.request.parse metadata

/-- Whether it gets to its lookup in `server_->services()`: the identity has a dot. -/
def looksUp (size : Nat) (bytes : List UInt8) (conn : RpcServerConnection) : Bool :=
  match parsedRequest size bytes conn.buf with
  | none => false
  | some rpcReq => (splitIdentity rpcReq.getMethodIdentity).isSome

/-- `handle_read_payload`, from what it finds in `server_`. -/
def answerPayload (services : Services Msg) (server : Bool) (turn : Turn Msg) (size : Nat)
    (bytes : List UInt8) : Handler Operation := do
  onBuffer (storePayload size bytes)
  let header ← onBuffer readFields
  let (rpcResp, resp) ← onBuffer (dispatch dialect (find services server) turn.perform header)
  respondToClient turn.delivery rpcResp resp

def handleReadPayload (services : Services Msg) (turn : Turn Msg) (size : Nat)
    (bytes : List UInt8) : Handler Operation := fun conn =>
  answerPayload services conn.server turn size bytes conn

end RpcServerConnection

/-- An exception that leaves a handler. -/
inductive Thrown where
  | systemError (message : String)
  | badAlloc
  | runtimeError (what : String)
  deriving DecidableEq, Repr

/-- The exception a fault is reported by; `text` is the message of the error code or of
`errno`. -/
def thrown (text : String) : Fault → Thrown
  | .noMemory => .badAlloc
  | .metadataUnparsed => .runtimeError ("failed to read incoming packet from client: " ++ text)
  | .parameterUnparsed => .runtimeError "failed to read request parameter from client"
  | .metadataUnserialized => .runtimeError "failed to serialize response(metadata)"
  | .responseUnserialized => .runtimeError "failed to serialize response"
  | .hangs | .crashes | .overruns | .unread | .escapes _ | .unsent => .systemError text

/-- Every other exception is thrown after a call of `destroy`. -/
def Thrown.destroys : Thrown → Bool
  | .badAlloc => false
  | .systemError _ | .runtimeError _ => true

abbrev ConnRef := Nat

inductive OpKind where
  | accept
  | readHeader
  | readPayload (size : Nat)
  | write (packet : List UInt8)
  deriving DecidableEq

/-- How an operation ends: with an error after some of the bytes of a read, or with
all of them. -/
inductive Completion where
  | failed (message : String) (bytes : List UInt8)
  | done (bytes : List UInt8)
  deriving DecidableEq

/-- From its completion on the handler of an operation is queued. -/
inductive OpStatus where
  | pending
  | queued (completion : Completion)
  deriving DecidableEq

structure Op where
  conn : ConnRef
  kind : OpKind
  status : OpStatus
  deriving DecidableEq

/-- The flag `alive` is history: the server object was not destroyed. So is
`dangling`: it was used after that. -/
structure State where
  alive : Bool
  dangling : Bool
  conns : OrderedMap Nat ConnRef
  connections : ConnRef → RpcServerConnection
  nextConn : ConnRef
  ops : List Op

/-- The heap, the service methods, the allocator of the response and the text of
`errno`, as a handler finds them. -/
structure Input (Msg : Type) where
  turn : Turn Msg
  errno : String

inductive Label (Msg : Type) where
  | complete (op : Op) (completion : Completion)
  | handle (op : Op) (input : Input Msg)
  | destroyServer

def Operation.kind : Operation → OpKind
  | .readHeader => .readHeader
  | .readPayload size => .readPayload size
  | .write packet => .write packet

namespace State

def modifyConn (conn : ConnRef) (change : RpcServerConnection → RpcServerConnection)
    (state : State) : State :=
  { state with
    connections := Function.update state.connections conn (change (state.connections conn)) }

def start (op : Op) (state : State) : State :=
  { state with ops := state.ops ++ [op] }

def abort (selected : Op → Bool) (state : State) : State :=
  { state with
    ops := state.ops.map fun op =>
      if selected op ∧ op.status = .pending then
        { op with status := .queued (.failed "Operation canceled" []) }
      else op }

/-- A use of the server object, where there is one. -/
def useServer (used : Bool) (state : State) : State :=
  { state with dangling := state.dangling || used && !state.alive }

def startAccept (state : State) : State :=
  let conn := state.nextConn
  let state := state.useServer true
  { state.modifyConn conn (fun _ => {}) with
    nextConn := conn + 1
    conns := state.conns.insert conn conn
    ops := state.ops ++ [⟨conn, .accept, .pending⟩] }

def destroy (conn : ConnRef) (state : State) : State :=
  let state :=
    if (state.connections conn).server then
      { state.useServer true with conns := state.conns.erase conn }
    else state
  (state.abort fun op => op.conn = conn && op.kind ≠ .accept).modifyConn conn fun record =>
    { record with isOpen := false }

/-- What follows the body of a handler: its operation is started, or it throws. -/
def conclude (conn : ConnRef) (text : String) (state : State) :
    RpcServerConnection × Except Fault Operation → Option (State × Option Thrown)
  | (record, result) =>
      let state := state.modifyConn conn fun _ => record
      match result with
      | .ok operation =>
          some (state.start ⟨conn, operation.kind,
            if record.isOpen then .pending else .queued (.failed "Bad file descriptor" [])⟩, none)
      | .error fault =>
          if fault.isFatal then none
          else
            let thrown := thrown text fault
            some (if thrown.destroys then state.destroy conn else state, some thrown)

variable {Msg : Type}

/-- The server is bound into the handler. -/
def handleAccept (conn : ConnRef) (input : Input Msg) (completion : Completion) (state : State) :
    Option (State × Option Thrown) :=
  let state := state.useServer true
  match completion with
  | .failed _ _ => some (state.startAccept, none)
  | .done _ =>
      match state.conclude conn input.errno
          (RpcServerConnection.serve input.turn.heap (state.connections conn)) with
      | some (state, none) => some (state.startAccept, none)
      | ended => ended

variable [Protobuf]

/-- The handler of a read or a write that was completed without an error. -/
def body (services : Services Msg) (kind : OpKind) (bytes : List UInt8) (input : Input Msg) :
    Handler Operation :=
  match kind with
  | .accept => RpcServerConnection.serve input.turn.heap
  | .readHeader => RpcServerConnection.handleReadHeader input.turn.heap bytes
  | .readPayload size => RpcServerConnection.handleReadPayload services input.turn size bytes
  | .write _ => RpcServerConnection.serve input.turn.heap

/-- Where a read puts its bytes. -/
def arrive (kind : OpKind) (bytes : List UInt8) : Handler Unit :=
  match kind with
  | .readHeader => RpcServerConnection.onBuffer (store 0 bytes)
  | .readPayload _ => RpcServerConnection.onBuffer (store sizeofPacket bytes)
  | .accept | .write _ => pure ()

/-- The handler of an operation that failed, after some bytes in case of a read. -/
def stored (kind : OpKind) (bytes : List UInt8) : Handler Operation := do
  arrive kind bytes
  fail .unread

def invoke (services : Services Msg) (op : Op) (completion : Completion) (input : Input Msg)
    (state : State) : Option (State × Option Thrown) :=
  match op.kind, completion with
  | .accept, completion => state.handleAccept op.conn input completion
  | kind, .failed message bytes =>
      state.conclude op.conn message (stored kind bytes (state.connections op.conn))
  | .readPayload size, .done bytes =>
      let used := RpcServerConnection.looksUp size bytes (state.connections op.conn)
      (state.useServer used).conclude op.conn input.errno
        (body services (.readPayload size) bytes input (state.connections op.conn))
  | kind, .done bytes =>
      state.conclude op.conn input.errno (body services kind bytes input (state.connections op.conn))

/-- How many bytes a read asks for. -/
def OpKind.wants : OpKind → Nat
  | .readHeader => sizeofPacket
  | .readPayload size => size
  | .accept | .write _ => 0

/-- A completed accept has opened the socket of its connection. -/
def complete (op : Op) (completion : Completion) (state : State) : Option State :=
  if op ∈ state.ops ∧ op.status = .pending then
    let state :=
      { state with ops := state.ops.erase op ++ [{ op with status := .queued completion }] }
    match op.kind, completion with
    | .accept, .done _ => some (state.modifyConn op.conn fun record => { record with isOpen := true })
    | _, .failed _ _ => some state
    | kind, .done bytes => if bytes.length = OpKind.wants kind then some state else none
  else none

def handle (services : Services Msg) (op : Op) (input : Input Msg) (state : State) :
    Option State :=
  match op.status with
  | .queued completion =>
      if op ∈ state.ops then
        ({ state with ops := state.ops.erase op }.invoke services op completion input).map
          Prod.fst
      else none
  | .pending => none

/-- `~CarrotAsyncServer` -/
def destroyServer (state : State) : Option State :=
  if state.alive then
    let state := state.conns.entries.foldl
      (fun state entry => state.modifyConn entry.2 fun record => { record with server := false })
      state
    some { state.abort (fun op => op.kind = .accept) with conns := .empty, alive := false }
  else none

def step (services : Services Msg) (state : State) : Label Msg → Option State
  | .complete op completion => state.complete op completion
  | .handle op input => state.handle services op input
  | .destroyServer => state.destroyServer

end State

/-- A server that was constructed with a table of registered services. -/
def asyncServer {Msg : Type} [Protobuf] (services : Services Msg) :
    TransitionSystem State (Label Msg) where
  initial := State.startAccept
    { alive := true
      dangling := false
      conns := .empty
      connections := fun _ => {}
      nextConn := 0
      ops := [] }
  step := State.step services

namespace State

def sampleInput : Input (List UInt8) := ⟨sampleTurn 0, ""⟩

/-- The client connects, and its first request is read. -/
def sampleRequest : List (Label (List UInt8)) :=
  let header := samplePacket.take sizeofPacket
  [.complete ⟨0, .accept, .pending⟩ (.done []),
    .handle ⟨0, .accept, .queued (.done [])⟩ sampleInput,
    .complete ⟨0, .readHeader, .pending⟩ (.done header),
    .handle ⟨0, .readHeader, .queued (.done header)⟩ sampleInput,
    .complete ⟨0, .readPayload 14, .pending⟩ (.done samplePayload),
    .handle ⟨0, .readPayload 14, .queued (.done samplePayload)⟩ sampleInput]

end State

end CarrotRpc.Server.Async
