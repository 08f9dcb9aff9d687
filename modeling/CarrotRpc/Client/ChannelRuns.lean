import CarrotRpc.Client.AsyncChannel

/-! Runs of a channel. Besides the calls of the application there are the
completions the environment decides, with the bytes a socket accepts one by one,
and the invocation of queued handlers one at a time. A handler that never
returns has no successor state. -/

set_option autoImplicit false

namespace CarrotRpc.Client

open Library Common Protob

/-- What a handler finds besides its bound arguments: the length fields of a
header just read, the bytes of the payload buffer, `bytes_transferred`, and the
behaviour of the allocator. -/
structure Input where
  header : Header
  data : List UInt8
  transferred : Nat
  heap : Realloc

inductive Label (Msg : Type) where
  | callMethod (call : Call Msg) (done : Closure Msg)
  | complete (op : Op) (error : Option SystemError)
  | writeSome (op : Op) (count : Nat)
  | handle (op : Op) (input : Input)

namespace State

variable {Msg : Type}

def replaceOp (op replacement : Op) (state : State Msg) : State Msg :=
  { state with ops := state.ops.erase op ++ [replacement] }

/-- A pending operation completes. Success of a write is left to `writeSome`. -/
def complete (op : Op) (error : Option SystemError) (state : State Msg) :
    Option (State Msg) :=
  if op ∈ state.ops ∧ op.status = .pending then
    let state' := state.replaceOp op { op with status := .queued error }
    match op.kind, error with
    | .write _ _ _, none => none
    | .connect _, none =>
        some (state'.modifyConn op.conn fun connection =>
          { connection with socket := { connection.socket with connected := true } })
    | _, _ => some state'
  else none

/-- The socket accepts the next `count` bytes of a packet. -/
def accept (task : TaskRef) (packet : List UInt8) (sent count : Nat) (socket : Socket) :
    Socket :=
  let whole := sent + count = packet.length
  { socket with
    delivered := socket.delivered ++ (packet.drop sent).take count
    finished := if whole then socket.finished ++ [task] else socket.finished
    inside := if whole then none else some task }

/-- A write completes when the last byte of its packet was accepted. -/
def writeSome (op : Op) (count : Nat) (state : State Msg) : Option (State Msg) :=
  match op.kind with
  | .write task packet sent =>
      let socket := (state.connections op.conn).socket
      if op ∈ state.ops ∧ op.status = .pending ∧ socket.connected ∧ 0 < count ∧
          sent + count ≤ packet.length then
        let state := state.replaceOp op
          { op with
            kind := .write task packet (sent + count)
            status := if sent + count = packet.length then .queued none else .pending }
        some (state.modifyConn op.conn fun connection =>
          { connection with socket := accept task packet sent count connection.socket })
      else none
  | _ => none

variable [Protobuf]

def invoke (op : Op) (error : Option SystemError) (input : Input) (state : State Msg) :
    State Msg × Option Thrown :=
  match op.kind with
  | .resolve task => state.handleResolve op.conn task error
  | .connect task => state.handleConnect input.heap op.conn task error
  | .readHeader => state.handleReadHeader input.heap op.conn input.header error
  | .readPayload =>
      state.handleReadPayload input.heap op.conn input.data input.transferred error
  | .write task _ _ => state.handleWrite op.conn task error
  | .timer task => (state.handleTimeout task error, none)

def dequeue (op : Op) (state : State Msg) : State Msg :=
  { state with ops := state.ops.erase op }

/-- A step of the program ends unless it is stuck in a loop. -/
def settle (state : State Msg) : Option (State Msg) :=
  if state.stuck then none else some state

def handle (op : Op) (input : Input) (state : State Msg) : Option (State Msg) :=
  match op.status with
  | .queued error =>
      if op ∈ state.ops then
        settle ((state.dequeue op).invoke op error input).1
      else none
  | .pending => none

def step (state : State Msg) : Label Msg → Option (State Msg)
  | .callMethod call done => settle (state.callMethod done.run call done)
  | .complete op error => state.complete op error
  | .writeSome op count => state.writeSome op count
  | .handle op input => state.handle op input

end State

/-- A channel without connections. -/
def channel (Msg : Type) [Inhabited Msg] [Protobuf] :
    TransitionSystem (State Msg) (Label Msg) where
  initial :=
    { conns := .empty
      connections := fun _ => { host := "", service := "" }
      nextConn := 0
      tasks := fun _ =>
        { conn := 0
          id := 0
          call :=
            { controller := { timeout := timeoutNever }
              serviceName := ""
              methodName := ""
              request := default
              requestFormat := ⟨fun _ => [], fun _ => none⟩
              responseFormat := ⟨fun _ => [], fun _ => none⟩
              heap := .exhausted
              serializesMetadata := false
              serializesRequest := false }
          controller := { timeout := timeoutNever }
          done := .returns }
      nextTask := 0
      ops := []
      stuck := false }
  step := State.step

/-- A call whose messages are byte strings, for runs on concrete inputs. -/
def sampleCall (timeout : UInt32) (request : List UInt8) : Call (List UInt8) where
  controller := { host := "localhost", service := "8080", timeout := timeout }
  serviceName := "Echo"
  methodName := "ping"
  request := request
  requestFormat := ⟨id, some⟩
  responseFormat := ⟨id, some⟩
  heap := .zeroed
  serializesMetadata := true
  serializesRequest := true

/-- The request packet of a sample call with the given id. -/
def samplePacket [Protobuf] (id : Nat) (request : List UInt8) : List UInt8 :=
  layout (Protobuf.request.serialize ⟨some id, some "Echo.ping"⟩) request []

def Input.silent : Input := ⟨⟨0, 0, 0⟩, [], 0, .zeroed⟩

end CarrotRpc.Client
