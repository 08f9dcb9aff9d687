import CarrotRpc.Client.AsyncChannel
import CarrotRpc.Client.BlockingChannel
import CarrotRpc.Common.Growth

/-! What the arrival of a response does to the task it answers. -/

set_option autoImplicit false

namespace CarrotRpc.Client

open Library Common Protob

variable {Msg : Type}

namespace State

section Frame

variable {state : State Msg} {conn : ConnRef} {task other : TaskRef} {rpcResp : Response}
  {bytes : List UInt8}

theorem connections_applyStatus :
    (state.applyStatus task rpcResp).connections = state.connections := by
  unfold applyStatus
  split <;> rfl

theorem connections_parseResponse :
    (state.parseResponse task bytes).connections = state.connections := by
  unfold parseResponse
  dsimp only
  split <;> rfl

theorem call_setFailed (reason : String) (code : ErrorCode) :
    ((state.setFailed task reason code).tasks other).call = (state.tasks other).call := by
  by_cases same : other = task <;> simp [setFailed, borrow, same]

theorem called_setFailed (reason : String) (code : ErrorCode) :
    ((state.setFailed task reason code).tasks other).called = (state.tasks other).called := by
  by_cases same : other = task <;> simp [setFailed, borrow, same]

theorem controller_setFailed (reason : String) (code : ErrorCode) :
    ((state.setFailed task reason code).tasks task).controller =
      (state.tasks task).controller.setFailedWith reason code := by
  simp [setFailed, borrow]

/-- The `switch` on the status sets the controller as the blocking client does. -/
theorem controller_applyStatus :
    ((state.applyStatus task rpcResp).tasks task).controller =
      Blocking.applyStatus rpcResp (state.tasks task).controller := by
  unfold applyStatus Blocking.applyStatus
  cases rpcResp.getStatus with
  | success => rfl
  | error => exact controller_setFailed _ _
  | notFound => exact controller_setFailed _ _
  | failed => exact controller_setFailed _ _

theorem call_applyStatus :
    ((state.applyStatus task rpcResp).tasks other).call = (state.tasks other).call := by
  unfold applyStatus
  split <;> first | rfl | exact call_setFailed _ _

theorem called_applyStatus :
    ((state.applyStatus task rpcResp).tasks other).called = (state.tasks other).called := by
  unfold applyStatus
  split <;> first | rfl | exact called_setFailed _ _

theorem called_parseResponse :
    ((state.parseResponse task bytes).tasks other).called = (state.tasks other).called := by
  unfold parseResponse
  dsimp only
  split
  · by_cases same : other = task <;> simp [borrow, same]
  · rw [called_setFailed]
    by_cases same : other = task <;> simp [borrow, same]

theorem controller_parseResponse :
    ((state.parseResponse task bytes).tasks task).controller =
      (Blocking.parseResponse (state.tasks task).call.responseFormat bytes
        (state.tasks task).controller).1 := by
  have call : ((state.borrow task).tasks task).call = (state.tasks task).call := by
    simp [borrow]
  simp only [parseResponse, Blocking.parseResponse, call]
  cases parsed : (state.tasks task).call.responseFormat.parse bytes with
  | none => simp [setFailed, borrow]
  | some message => simp [borrow]

theorem tasks_setFailed_of_ne (reason : String) (code : ErrorCode) (different : other ≠ task) :
    (state.setFailed task reason code).tasks other = state.tasks other := by
  simp [setFailed, borrow, different]

theorem tasks_applyStatus_of_ne (different : other ≠ task) :
    (state.applyStatus task rpcResp).tasks other = state.tasks other := by
  unfold applyStatus
  split <;> first | rfl | exact tasks_setFailed_of_ne _ _ different

theorem tasks_parseResponse_of_ne (different : other ≠ task) :
    (state.parseResponse task bytes).tasks other = state.tasks other := by
  unfold parseResponse
  dsimp only
  split
  · simp [borrow, different]
  · rw [tasks_setFailed_of_ne _ _ different]
    simp [borrow, different]

end Frame

section Receiving

variable [Protobuf] {state : State Msg} {conn : ConnRef} {task : TaskRef} {rpcResp : Response}
  {heap : Realloc} {block : Block} {data : List UInt8}

/-- A buffer that already holds a header is read into as it is. -/
theorem startRead_ready (present : (state.connections conn).buf.p = some block)
    (enough : .ofNat sizeofPacket ≤ (state.connections conn).buf.size) :
    state.startRead heap conn = (state.startOnSocket conn .readHeader, none) := by
  have same : (state.modifyConn conn fun connection =>
      { connection with buf := (state.connections conn).buf }) = state := by
    simp [modifyConn]
  rw [startRead, expandPacket_of_le present enough]
  simp only [Bool.not_true, Bool.false_eq_true, if_false, same]

/-- The outcome of a call, as its response tells it. -/
def learn (task : TaskRef) (rpcResp : Response) (parameter : List UInt8) (state : State Msg) :
    State Msg :=
  ((state.modifyTask task fun record => { record with state := .done }).applyStatus task
    rpcResp).parseResponse task parameter

omit [Protobuf] in
theorem connections_learn {parameter : List UInt8} :
    (state.learn task rpcResp parameter).connections = state.connections := by
  rw [learn, connections_parseResponse, connections_applyStatus]
  rfl

omit [Protobuf] in
theorem called_learn {parameter : List UInt8} {other : TaskRef} :
    ((state.learn task rpcResp parameter).tasks other).called = (state.tasks other).called := by
  rw [learn, called_parseResponse, called_applyStatus]
  by_cases same : other = task <;> simp [same]

omit [Protobuf] in
theorem controller_learn {parameter : List UInt8} :
    ((state.learn task rpcResp parameter).tasks task).controller =
      (Blocking.parseResponse (state.tasks task).call.responseFormat parameter
        (Blocking.applyStatus rpcResp (state.tasks task).controller)).1 := by
  rw [learn, controller_parseResponse, call_applyStatus, controller_applyStatus]
  simp

omit [Protobuf] in
theorem response_learn {parameter : List UInt8} {message : Msg}
    (parsed : (state.tasks task).call.responseFormat.parse parameter = some message) :
    ((state.learn task rpcResp parameter).tasks task).response = some message := by
  let marked := state.modifyTask task fun record => { record with state := .done }
  have same : (marked.tasks task).call = (state.tasks task).call := by
    simp [marked]
  have applied : ((marked.applyStatus task rpcResp).tasks task).call = (marked.tasks task).call :=
    call_applyStatus
  have call : (((marked.applyStatus task rpcResp).borrow task).tasks task).call =
      (state.tasks task).call := by
    rw [← same, ← applied]
    simp [borrow]
  change (((marked.applyStatus task rpcResp).parseResponse task parameter).tasks task).response = _
  simp only [parseResponse, call, parsed]
  simp

omit [Protobuf] in
theorem tasks_learn_of_ne {parameter : List UInt8} {other : TaskRef} (different : other ≠ task) :
    (state.learn task rpcResp parameter).tasks other = state.tasks other := by
  rw [learn, tasks_parseResponse_of_ne different, tasks_applyStatus_of_ne different]
  simp [different]

omit [Protobuf] in
/-- A call that has not failed was answered with success, and with a response that parses. -/
theorem unfailed_learn {parameter : List UInt8}
    (unfailed : ((state.learn task rpcResp parameter).tasks task).controller.failed = false) :
    rpcResp.getStatus = .success ∧ ∃ message,
      (state.tasks task).call.responseFormat.parse parameter = some message ∧
      ((state.learn task rpcResp parameter).tasks task).response = some message := by
  rw [controller_learn] at unfailed
  cases parsed : (state.tasks task).call.responseFormat.parse parameter with
  | none =>
      simp only [Blocking.parseResponse, parsed] at unfailed
      cases unfailed
  | some message =>
      refine ⟨?_, message, rfl, response_learn parsed⟩
      simp only [Blocking.parseResponse, parsed] at unfailed
      cases status : rpcResp.getStatus with
      | success => rfl
      | error | notFound | failed =>
          simp only [Blocking.applyStatus, status] at unfailed
          cases unfailed

/-- What is left of `handle_read_payload` once the next read is started. -/
def concludeRead (conn : ConnRef) (id : Nat) (task : TaskRef) :
    State Msg × Option Thrown → State Msg × Option Thrown
  | (state, some thrown) => (state, some thrown)
  | (state, none) =>
      let state := state.modifyConn conn fun connection =>
        { connection with outgoingTasks := connection.outgoingTasks.erase id }
      (state.finishTask (state.tasks task).done.run task, none)

/-- A response with the id of an open call. -/
theorem receivePayload_eq
    (parsed : Protobuf.response.parse
      (data.take (state.connections conn).header.rpcLen.toNat) = some rpcResp)
    (listed : (state.connections conn).outgoingTasks.find? rpcResp.getId = some task) :
    state.receivePayload heap conn data =
      concludeRead conn rpcResp.getId task ((state.learn task rpcResp
        ((data.drop (state.connections conn).header.rpcLen.toNat).take
          (state.connections conn).header.respLen.toNat)).startRead heap conn) := by
  simp only [receivePayload, parsed, listed]
  rfl

/-- The state in which the closure of an answered call runs. -/
def answered (conn : ConnRef) (task : TaskRef) (rpcResp : Response) (parameter : List UInt8)
    (state : State Msg) : State Msg :=
  ((((state.learn task rpcResp parameter).startOnSocket conn .readHeader).modifyConn conn
    fun connection =>
      { connection with
        outgoingTasks := connection.outgoingTasks.erase rpcResp.getId }).cancelTimer task)

/-- A response with the id of an open call completes that call. -/
theorem receivePayload_found
    (parsed : Protobuf.response.parse
      (data.take (state.connections conn).header.rpcLen.toNat) = some rpcResp)
    (listed : (state.connections conn).outgoingTasks.find? rpcResp.getId = some task)
    (uncalled : (state.tasks task).called = false)
    (present : (state.connections conn).buf.p = some block)
    (enough : .ofNat sizeofPacket ≤ (state.connections conn).buf.size) :
    let before := state.answered conn task rpcResp
      ((data.drop (state.connections conn).header.rpcLen.toNat).take
        (state.connections conn).header.respLen.toNat)
    state.receivePayload heap conn data =
      (before.runDone (before.tasks task).done.run task, none) := by
  let parameter := (data.drop (state.connections conn).header.rpcLen.toNat).take
    (state.connections conn).header.respLen.toNat
  have reads : (state.learn task rpcResp parameter).startRead heap conn =
      ((state.learn task rpcResp parameter).startOnSocket conn .readHeader, none) := by
    apply startRead_ready
    · rw [connections_learn]
      exact present
    · rw [connections_learn]
      exact enough
  have open_call : ((state.answered conn task rpcResp parameter).tasks task).called = false := by
    change ((state.learn task rpcResp parameter).tasks task).called = false
    rw [called_learn]
    exact uncalled
  have received : state.receivePayload heap conn data =
      concludeRead conn rpcResp.getId task ((state.learn task rpcResp parameter).startRead heap conn) :=
    receivePayload_eq parsed listed
  rw [received, reads]
  change ((if ((state.answered conn task rpcResp parameter).tasks task).called = true then _
    else _), none) = _
  rw [open_call]
  rfl

end Receiving

end State

end CarrotRpc.Client
