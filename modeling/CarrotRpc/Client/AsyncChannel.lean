import CarrotRpc.Library.TransitionSystem
import CarrotRpc.Client.ChannelState

/-! The handlers of `carrot_async_channel.cpp` in the order of the source, and
the runs they take part in. A handler that ends in a `throw` returns the
exception; the application then calls `io_service::run` again. -/

set_option autoImplicit false

namespace CarrotRpc.Client

open Library Common Protob

/-- An exception that leaves a handler. -/
inductive Thrown where
  | systemError (error : SystemError)
  | badAlloc
  | runtimeError (what : String)
  deriving DecidableEq, Repr

namespace State

variable {Msg : Type} [Protobuf]

/-- The block around `task->done->Run()`: the closure runs inside `try`, a
`std::exception` is turned into `SetFailed`, and `called` is set last. The
argument `body` is what the closure does to the state. -/
def runDone (body : State Msg → State Msg) (task : TaskRef) (state : State Msg) : State Msg :=
  let state := (state.borrow task).modifyTask task fun record =>
    { record with runs := record.runs + 1 }
  let state := body state
  let state :=
    match (state.tasks task).done.thrown with
    | none => state
    | some what => state.setFailed task ("rpc failed: " ++ what) .failed
  state.modifyTask task fun record => { record with called := true }

def setupTaskTimer (task : TaskRef) (state : State Msg) : State Msg :=
  let state := state.borrow task
  let record := state.tasks task
  if record.controller.timeout ≠ timeoutNever then
    (state.cancelTimer task).start ⟨record.conn, .timer task, .pending⟩
  else state

def finishTask (body : State Msg → State Msg) (task : TaskRef) (state : State Msg) :
    State Msg :=
  let state := state.cancelTimer task
  if (state.tasks task).called then state else state.runDone body task

def startCall (body : State Msg → State Msg) (task : TaskRef) (state : State Msg) :
    State Msg :=
  let state := state.borrow task
  let record := state.tasks task
  let rpcReq : Request :=
    { id := some record.id
      methodIdentity := some record.call.methodIdentity }
  let rpc := Protobuf.request.serialize rpcReq
  let req := record.call.requestFormat.serialize record.call.request
  let n := sizeofPacket + rpc.length + req.length
  match expandPacket record.call.heap record.buf (.ofNat n) with
  | none => { state with stuck := true }
  | some (buf, expanded) =>
      let state := state.modifyTask task fun record => { record with buf := buf }
      if !expanded then
        (state.setFailed task "failed to allocate memory for rpc packet" .oom).finishTask
          body task
      else if !record.call.serializesMetadata then
        (state.setFailed task "failed to serialize Request metadata into byte array"
          .serializationError).finishTask body task
      else if !record.call.serializesRequest then
        (state.setFailed task "failed to serialize request paramerter into byte array"
          .serializationError).finishTask body task
      else
        let packet := layout rpc req []
        let state := state.modifyConn record.conn fun connection =>
          { connection with outgoingTasks := connection.outgoingTasks.insert record.id task }
        let state := state.setupTaskTimer task
        let state := state.modifyTask task fun record =>
          { record with state := .writeToServer, writes := record.writes + 1, packet := packet }
        state.startOnSocket record.conn (.write task packet 0)

/-- The task a new call gets: its id is the incremented call counter. -/
def newTask (conn : ConnRef) (call : Call Msg) (done : Closure Msg) (state : State Msg) :
    State Msg :=
  let id := (state.connections conn).id + 1
  let state := state.modifyConn conn fun connection => { connection with id := id }
  { state with
    tasks := Function.update state.tasks state.nextTask
      { conn, id, call, controller := call.controller, done }
    nextTask := state.nextTask + 1 }

def issue (body : State Msg → State Msg) (conn : ConnRef) (call : Call Msg)
    (done : Closure Msg) (state : State Msg) : State Msg :=
  let task := state.nextTask
  let state := state.newTask conn call done
  if !(state.connections conn).socket.isOpen then
    let state := state.start ⟨conn, .resolve task, .pending⟩
    let state := state.modifyConn conn fun connection =>
      { connection with
        connecting := true
        overlapped := connection.overlapped || connection.connecting }
    let state := state.modifyTask task fun record => { record with state := .connectToServer }
    state.setupTaskTimer task
  else state.startCall body task

/-- `RpcClientConnection::create` and the insertion into `conns_`. -/
def openConnection (host service : String) (state : State Msg) : State Msg :=
  { state with
    connections := Function.update state.connections state.nextConn { host, service }
    nextConn := state.nextConn + 1
    conns := state.conns.insert (host ++ ":" ++ service) state.nextConn }

def callMethod (body : State Msg → State Msg) (call : Call Msg) (done : Closure Msg)
    (state : State Msg) : State Msg :=
  let host := call.controller.host
  let service := call.controller.service
  match state.conns.find? (host ++ ":" ++ service) with
  | none => (state.openConnection host service).issue body state.nextConn call done
  | some conn => state.issue body conn call done

end State

/-- What a closure does to the channel before it returns or throws. -/
def Closure.run {Msg : Type} [Protobuf] : Closure Msg → State Msg → State Msg
  | .returns, state => state
  | .throws _, state => state
  | .callMethod call done next, state => next.run (state.callMethod done.run call done)

namespace State

variable {Msg : Type} [Protobuf]

/-- The block `if (!task->called) { SetFailed(...); ... }` of the failure paths.
`SetFailed` without a code sets `EC_FAILED`. -/
def failTask (reason : String) (code : ErrorCode) (task : TaskRef) (state : State Msg) :
    State Msg :=
  if (state.tasks task).called then state
  else (state.setFailed task reason code).runDone (state.tasks task).done.run task

/-- `destroy`. The map that `chann_->conns()` returns is a copy of `conns_`, so
erasing from it leaves the channel as it was. The socket is closed while the
loop runs, so a closure that calls again resolves instead of inserting into the
map the loop iterates over. -/
def destroy (conn : ConnRef) (reason : SystemError) (state : State Msg) : State Msg :=
  let state := (state.cancelResolver conn).closeSocket conn
  let connection := state.connections conn
  let _conns := state.conns.erase (connection.host ++ ":" ++ connection.service)
  let state := connection.outgoingTasks.entries.foldl
    (fun state entry =>
      (state.cancelTimer entry.2).failTask ("rpc failed: " ++ reason.message) .failed entry.2)
    state
  state.modifyConn conn fun connection =>
    { connection with
      outgoingTasks := .empty
      destroyedAt := some (connection.destroyedAt.getD state.nextTask) }

def handleTimeout (task : TaskRef) (error : Option SystemError) (state : State Msg) :
    State Msg :=
  match error with
  | none =>
      let record := state.tasks task
      let state := state.modifyConn record.conn fun connection =>
        { connection with outgoingTasks := connection.outgoingTasks.erase record.id }
      let state :=
        state.failTask ("rpc timed out at state " ++ record.state.str) .rpcTimeout task
      if (state.connections record.conn).connecting then state.destroy record.conn .timedOut
      else state
  | some _ => state

/-- The range form of `async_connect` closes the socket before it opens it. -/
def asyncConnect (conn : ConnRef) (task : TaskRef) (state : State Msg) : State Msg :=
  ((state.closeSocket conn).openSocket conn).start ⟨conn, .connect task, .pending⟩

def handleResolve (conn : ConnRef) (task : TaskRef) (error : Option SystemError)
    (state : State Msg) : State Msg × Option Thrown :=
  match error with
  | none => (state.asyncConnect conn task, none)
  | some error =>
      let state := state.failTask ("failed to connect, " ++ error.message) .error task
      (state.destroy conn error, some (.systemError error))

def startRead (heap : Realloc) (conn : ConnRef) (state : State Msg) :
    State Msg × Option Thrown :=
  match expandPacket heap (state.connections conn).buf (.ofNat sizeofPacket) with
  | none => ({ state with stuck := true }, none)
  | some (buf, expanded) =>
      let state := state.modifyConn conn fun connection => { connection with buf := buf }
      if !expanded then (state.destroy conn .notEnoughMemory, some .badAlloc)
      else (state.startOnSocket conn .readHeader, none)

def handleConnect (heap : Realloc) (conn : ConnRef) (task : TaskRef)
    (error : Option SystemError) (state : State Msg) : State Msg × Option Thrown :=
  match error with
  | none =>
      let state := state.modifyConn conn fun connection => { connection with connecting := false }
      let state := state.startCall (state.tasks task).done.run task
      state.startRead heap conn
  | some error =>
      let state := state.failTask ("failed to connect, " ++ error.message) .connectionFailed task
      (state.destroy conn error, some (.systemError error))

/-- The sum of the three lengths is a `uint32_t`; adding `sizeof(packet)` to it is
done in `size_t` and narrowed again by the call of `expand_packet`. -/
def handleReadHeader (heap : Realloc) (conn : ConnRef) (header : Header)
    (error : Option SystemError) (state : State Msg) : State Msg × Option Thrown :=
  match error with
  | none =>
      let n := header.rpcLen + header.reqLen + header.respLen
      let state := state.modifyConn conn fun connection => { connection with header, n }
      match expandPacket heap (state.connections conn).buf (.ofNat (n.toNat + sizeofPacket)) with
      | none => ({ state with stuck := true }, none)
      | some (buf, expanded) =>
          let state := state.modifyConn conn fun connection => { connection with buf := buf }
          if !expanded then (state.destroy conn .notEnoughMemory, some .badAlloc)
          else (state.startOnSocket conn .readPayload, none)
  | some error => (state.destroy conn error, some (.systemError error))

/-- The `switch` on the status of a response. -/
def applyStatus (task : TaskRef) (rpcResp : Response) (state : State Msg) : State Msg :=
  match rpcResp.getStatus with
  | .notFound =>
      state.setFailed task
        ("The remote method called not found on the server side: " ++ rpcResp.getMessage)
        .methodNotFound
  | .error =>
      state.setFailed task ("Some errors occurred during the rpc: " ++ rpcResp.getMessage) .error
  | .failed => state.setFailed task ("Failed to call rpc: " ++ rpcResp.getMessage) .failed
  | .success => state

/-- `task->response->ParseFromArray` on the response parameter. -/
def parseResponse (task : TaskRef) (bytes : List UInt8) (state : State Msg) : State Msg :=
  let state := state.borrow task
  match (state.tasks task).call.responseFormat.parse bytes with
  | some message => state.modifyTask task fun record => { record with response := some message }
  | none =>
      state.setFailed task "failed to read response parameter from server" .serializationError

/-- The branch of `handle_read_payload` that reads a response; `data` are the bytes
found at `p_->data`. -/
def receivePayload (heap : Realloc) (conn : ConnRef) (data : List UInt8) (state : State Msg) :
    State Msg × Option Thrown :=
  let connection := state.connections conn
  let rpcLen := connection.header.rpcLen.toNat
  match Protobuf.response.parse (data.take rpcLen) with
  | none =>
      (state.destroy conn .invalidArgument,
        some (.runtimeError "carrot-rpc: failed to parse rpc request metadata"))
  | some rpcResp =>
      match connection.outgoingTasks.find? rpcResp.getId with
      | none => state.startRead heap conn
      | some task =>
          let state := state.modifyTask task fun record => { record with state := .done }
          let state := state.applyStatus task rpcResp
          let state := state.parseResponse task
            ((data.drop rpcLen).take connection.header.respLen.toNat)
          match state.startRead heap conn with
          | (state, some thrown) => (state, some thrown)
          | (state, none) =>
              let state := state.modifyConn conn fun connection =>
                { connection with
                  outgoingTasks := connection.outgoingTasks.erase rpcResp.getId }
              (state.finishTask (state.tasks task).done.run task, none)

/-- `transferred` is `bytes_transferred`. -/
def handleReadPayload (heap : Realloc) (conn : ConnRef) (data : List UInt8) (transferred : Nat)
    (error : Option SystemError) (state : State Msg) : State Msg × Option Thrown :=
  match error with
  | none => state.receivePayload heap conn data
  | some error =>
      if (state.connections conn).n.toNat = transferred ∧ error = .eof then
        state.receivePayload heap conn data
      else (state.destroy conn error, some (.systemError error))

def handleWrite (conn : ConnRef) (task : TaskRef) (error : Option SystemError)
    (state : State Msg) : State Msg × Option Thrown :=
  match error with
  | none => (state.modifyTask task fun record => { record with state := .readData }, none)
  | some error =>
      let state :=
        state.failTask ("failed write rpc packet out, " ++ error.message) .transportError task
      (state.destroy conn error, some (.systemError error))

end State

end CarrotRpc.Client
