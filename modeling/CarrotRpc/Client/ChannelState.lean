import Mathlib.Logic.Function.Basic
import Mathlib.Data.String.Basic
import CarrotRpc.Library.OrderedMap
import CarrotRpc.Common.Controller
import CarrotRpc.Common.Utils
import CarrotRpc.Protob.Messages

/-! State of a `CarrotAsyncChannel`: its map of connections, the connections and
call tasks its handlers share, and the operations asio has outstanding. An
operation leaves the state when its handler is invoked. History fields are read
by no function of the program. -/

set_option autoImplicit false

namespace CarrotRpc.Client

open Library Common Protob

/-- A `boost::system::error_code` that is set, known by its message. -/
structure SystemError where
  message : String
  deriving DecidableEq, Repr

namespace SystemError

def operationAborted : SystemError := ⟨"Operation canceled"⟩
def eof : SystemError := ⟨"End of file"⟩
def badDescriptor : SystemError := ⟨"Bad file descriptor"⟩
def timedOut : SystemError := ⟨"Connection timed out"⟩
def notEnoughMemory : SystemError := ⟨"Cannot allocate memory"⟩
def invalidArgument : SystemError := ⟨"Invalid argument"⟩

end SystemError

inductive TaskState where
  | connectToServer
  | prepareToWriteToServer
  | writeToServer
  | readMetadata
  | readData
  | timeout
  | done
  deriving DecidableEq, Repr

/-- `state_strs` -/
def TaskState.str : TaskState → String
  | .connectToServer => "STATE_CONNECT_TO_SERVER"
  | .prepareToWriteToServer => "STATE_PREPARE_TO_WRITE_TO_SERVER"
  | .writeToServer => "STATE_WRITE_TO_SERVER"
  | .readMetadata => "STATE_READ_METADATA"
  | .readData => "STATE_READ_DATA"
  | .timeout => "STATE_TIMEOUT"
  | .done => "STATE_DONE"

/-- What a caller hands to `CallMethod`, with the results its `start_call` gets
from the allocator and from the two `SerializeToArray` calls. -/
structure Call (Msg : Type) where
  controller : CarrotController
  serviceName : String
  methodName : String
  request : Msg
  requestFormat : MessageFormat Msg
  responseFormat : MessageFormat Msg
  heap : Realloc
  serializesMetadata : Bool
  serializesRequest : Bool

/-- `method->service()->name() + "." + method->name()` -/
def Call.methodIdentity {Msg : Type} (call : Call Msg) : String :=
  call.serviceName ++ "." ++ call.methodName

/-- What one run of a `done` closure does: it calls `CallMethod` any number of
times, each time with a closure of its own, and then returns or throws a
`std::exception`. -/
inductive Closure (Msg : Type) where
  | returns
  | throws (what : String)
  | callMethod (call : Call Msg) (done next : Closure Msg)

/-- `e.what()` of the exception that leaves the closure. -/
def Closure.thrown {Msg : Type} : Closure Msg → Option String
  | .returns => none
  | .throws what => some what
  | .callMethod _ _ next => next.thrown

abbrev TaskRef := Nat

abbrev ConnRef := Nat

/-- A call task and the connection bound into its handlers. From `runs` on the
fields are history: how often `done->Run()` was invoked, whether one of the
caller's pointers was used after that, how many writes of the request packet
were started, and the packet. -/
structure CallTask (Msg : Type) where
  conn : ConnRef
  id : Nat
  call : Call Msg
  controller : CarrotController
  response : Option Msg := none
  done : Closure Msg
  buf : PacketBuf := {}
  called : Bool := false
  state : TaskState := .connectToServer
  runs : Nat := 0
  stale : Bool := false
  writes : Nat := 0
  packet : List UInt8 := []

/-- From `connected` on the fields are history: whether connecting this socket
succeeded, the number of sockets opened so far, the bytes this one accepted,
the calls whose packets it accepted whole, and the call of whose packet it
accepted only a part so far. -/
structure Socket where
  isOpen : Bool := false
  connected : Bool := false
  session : Nat := 0
  delivered : List UInt8 := []
  finished : List TaskRef := []
  inside : Option TaskRef := none

/-- The pair `p_`, `size_` is `buf`, and `header` holds the length fields of `*p_`
in host order. The last two fields are history: whether a call was made while the
name was being resolved for another, and how many tasks there were when `destroy`
first returned. -/
structure RpcClientConnection where
  host : String
  service : String
  id : Nat := 0
  socket : Socket := {}
  outgoingTasks : OrderedMap Nat TaskRef := .empty
  buf : PacketBuf := {}
  header : Header := ⟨0, 0, 0⟩
  n : UInt32 := 0
  connecting : Bool := false
  overlapped : Bool := false
  destroyedAt : Option TaskRef := none

inductive OpKind where
  | resolve (task : TaskRef)
  | connect (task : TaskRef)
  | readHeader
  | readPayload
  | write (task : TaskRef) (packet : List UInt8) (sent : Nat)
  | timer (task : TaskRef)
  deriving DecidableEq

/-- An operation is pending until it completes; from then on its handler is
queued with the error it completed with, or with none. -/
inductive OpStatus where
  | pending
  | queued (error : Option SystemError)
  deriving DecidableEq

structure Op where
  conn : ConnRef
  kind : OpKind
  status : OpStatus
  deriving DecidableEq

/-- The flag `stuck` is set when the doubling loop of an `expand_packet` call of
the running handler never ends. -/
structure State (Msg : Type) where
  conns : OrderedMap String ConnRef
  connections : ConnRef → RpcClientConnection
  nextConn : ConnRef
  tasks : TaskRef → CallTask Msg
  nextTask : TaskRef
  ops : List Op
  stuck : Bool

namespace OpKind

def usesSocket : OpKind → Bool
  | .connect _ | .readHeader | .readPayload | .write _ _ _ => true
  | .resolve _ | .timer _ => false

def isResolve : OpKind → Bool
  | .resolve _ => true
  | _ => false

def task? : OpKind → Option TaskRef
  | .resolve task | .connect task | .write task _ _ | .timer task => some task
  | .readHeader | .readPayload => none

end OpKind

namespace State

variable {Msg : Type}

def modifyTask (task : TaskRef) (change : CallTask Msg → CallTask Msg) (state : State Msg) :
    State Msg :=
  { state with tasks := Function.update state.tasks task (change (state.tasks task)) }

def modifyConn (conn : ConnRef) (change : RpcClientConnection → RpcClientConnection)
    (state : State Msg) : State Msg :=
  { state with
    connections := Function.update state.connections conn (change (state.connections conn)) }

def start (op : Op) (state : State Msg) : State Msg :=
  { state with ops := state.ops ++ [op] }

/-- An operation started on a closed socket completes with an error at once. -/
def startOnSocket (conn : ConnRef) (kind : OpKind) (state : State Msg) : State Msg :=
  state.start ⟨conn, kind,
    if (state.connections conn).socket.isOpen then .pending
    else .queued (some .badDescriptor)⟩

def abort (op : Op) : Op :=
  match op.status with
  | .pending => { op with status := .queued (some .operationAborted) }
  | .queued _ => op

/-- Cancel the selected operations: those still pending complete with an error,
queued handlers keep their result. -/
def cancel (selected : Op → Bool) (state : State Msg) : State Msg :=
  { state with ops := state.ops.map fun op => if selected op then abort op else op }

def cancelTimer (task : TaskRef) (state : State Msg) : State Msg :=
  state.cancel fun op => op.kind = .timer task

def cancelResolver (conn : ConnRef) (state : State Msg) : State Msg :=
  state.cancel fun op => op.conn = conn && op.kind.isResolve

def closeSocket (conn : ConnRef) (state : State Msg) : State Msg :=
  (state.cancel fun op => op.conn = conn && op.kind.usesSocket).modifyConn conn fun connection =>
    { connection with socket := { connection.socket with isOpen := false, connected := false } }

def openSocket (conn : ConnRef) (state : State Msg) : State Msg :=
  state.modifyConn conn fun connection =>
    { connection with socket := { isOpen := true, session := connection.socket.session + 1 } }

/-- Record an access through one of the pointers the caller lent the task. -/
def borrow (task : TaskRef) (state : State Msg) : State Msg :=
  state.modifyTask task fun record => { record with stale := record.stale || 0 < record.runs }

/-- `task->controller->SetFailed(reason, code)` -/
def setFailed (task : TaskRef) (reason : String) (code : ErrorCode) (state : State Msg) :
    State Msg :=
  (state.borrow task).modifyTask task fun record =>
    { record with controller := record.controller.setFailedWith reason code }

@[simp] theorem tasks_modifyTask (state : State Msg) (task other : TaskRef)
    (change : CallTask Msg → CallTask Msg) :
    (state.modifyTask task change).tasks other =
      if other = task then change (state.tasks task) else state.tasks other :=
  Function.update_apply _ _ _ _

@[simp] theorem connections_modifyTask (state : State Msg) (task : TaskRef)
    (change : CallTask Msg → CallTask Msg) :
    (state.modifyTask task change).connections = state.connections := rfl

@[simp] theorem connections_modifyConn (state : State Msg) (conn other : ConnRef)
    (change : RpcClientConnection → RpcClientConnection) :
    (state.modifyConn conn change).connections other =
      if other = conn then change (state.connections conn) else state.connections other :=
  Function.update_apply _ _ _ _

@[simp] theorem tasks_modifyConn (state : State Msg) (conn : ConnRef)
    (change : RpcClientConnection → RpcClientConnection) :
    (state.modifyConn conn change).tasks = state.tasks := rfl

@[simp] theorem tasks_start (state : State Msg) (op : Op) :
    (state.start op).tasks = state.tasks := rfl

@[simp] theorem connections_start (state : State Msg) (op : Op) :
    (state.start op).connections = state.connections := rfl

end State

end CarrotRpc.Client
