import CarrotRpc.Client.SessionSteps
import CarrotRpc.Client.Sparing

/-! A response that arrives on an open connection completes the call of its id. No other
call takes notice of it, and the next response is read. -/

set_option autoImplicit false

namespace CarrotRpc.Client

open Library Common Protob

variable {Msg : Type}

/-- The connection was not destroyed, and no call was made during its resolution. -/
structure Within (conn : ConnRef) (state : State Msg) : Prop where
  intact : (state.connections conn).destroyedAt = none
  calm : (state.connections conn).overlapped = false

/-- The call of the task is completed and taken from the table of its connection; no other
call and no other entry changes. -/
structure CompletesOnly (conn : ConnRef) (task : TaskRef) (before after : State Msg) : Prop where
  count : before.nextTask ≤ after.nextTask
  called : (after.tasks task).called = true
  erased : (after.connections conn).outgoingTasks.find? (before.tasks task).id = none
  others : ∀ other < before.nextTask, other ≠ task → after.tasks other = before.tasks other
  entries : ∀ other < before.nextTask, other ≠ task →
    (after.connections (before.tasks other).conn).outgoingTasks.find? (before.tasks other).id =
      (before.connections (before.tasks other).conn).outgoingTasks.find? (before.tasks other).id

/-- No call and no table changes. -/
structure Ignores (before after : State Msg) : Prop where
  count : after.nextTask = before.nextTask
  tasks : after.tasks = before.tasks
  tables : ∀ conn, (after.connections conn).outgoingTasks = (before.connections conn).outgoingTasks

variable {conn : ConnRef} {state : State Msg} {task : TaskRef} {stage : Stage}

theorem Within.not_beyond (within : Within conn state) (unstuck : state.stuck = false) :
    ¬ Beyond conn state := by
  intro ended
  rcases ended with hangs | ⟨_, destroyed | overlaps⟩
  · cases unstuck.symm.trans hangs
  · exact destroyed within.intact
  · cases within.calm.symm.trans overlaps

theorem Within.at_stage (within : Within conn state) (unstuck : state.stuck = false)
    (stands : Stands conn stage state) : At conn stage state := by
  rcases stands with ended | stands
  · exact absurd ended (within.not_beyond unstuck)
  · exact stands

theorem Within.of_staysOpen {after : State Msg} (within : Within conn state)
    (stays : StaysOpen (state.connections conn) (after.connections conn)) :
    Within conn after :=
  ⟨stays.destroyedAt.trans within.intact, stays.overlapped.trans within.calm⟩

section Acknowledging

variable [Protobuf] {rpcResp : Response} {parameter : List UInt8} {buf : PacketBuf}

omit [Protobuf] in
theorem connections_acknowledge (other : ConnRef) :
    (state.acknowledge conn task rpcResp parameter buf).connections other =
      if other = conn then
        { state.connections conn with
          buf := buf
          outgoingTasks := (state.connections conn).outgoingTasks.erase rpcResp.getId }
      else state.connections other := by
  have learnt : (state.learn task rpcResp parameter).connections = state.connections :=
    State.connections_learn
  simp only [State.acknowledge, State.startOnSocket, State.connections_modifyConn,
    State.connections_start, learnt]
  split <;> simp

theorem count_learn (bound : task < state.nextTask) :
    state.nextTask ≤ (state.learn task rpcResp parameter).nextTask := by
  have learnt : Passage 0 (some task) state (state.learn task rpcResp parameter) :=
    passage_learn bound (fun ordinary => absurd rfl ordinary) _ _
  exact learnt.count

/-- The closure of the call runs after everything else was done. -/
theorem completes_acknowledge {duty : Duty} (base : Base False (duty, state))
    (listed : (state.connections conn).outgoingTasks.find? rpcResp.getId = some task)
    (known : conn < state.nextConn) (done : Closure Msg) :
    CompletesOnly conn task state
      ((state.acknowledge conn task rpcResp parameter buf).finishTask done.run task) := by
  let before := state.acknowledge conn task rpcResp parameter buf
  obtain ⟨bound, own, sameId⟩ := base.sound.entry conn _ (OrderedMap.find?_eq_some_iff.mp listed)
  have own : (state.tasks task).conn = conn := own
  have sameId : (state.tasks task).id = rpcResp.getId := sameId
  have learnt : Passage conn (some task) state (state.learn task rpcResp parameter) :=
    passage_learn bound (fun ordinary => absurd rfl ordinary) _ _
  have count : state.nextTask ≤ before.nextTask := learnt.count
  have conns : state.nextConn ≤ before.nextConn := learnt.known
  have finished : Finished task before (before.finishTask done.run task) :=
    finished_finishTask (Nat.lt_of_lt_of_le bound count) done
  have counter : ∀ other, (before.connections other).id = (state.connections other).id := by
    intro other
    simp only [before, connections_acknowledge]
    split
    · next same => rw [same]
    · rfl
  refine ⟨count.trans finished.count, finished.called, ?_, ?_, ?_⟩
  · have limit : (state.tasks task).id ≤ (before.connections conn).id := by
      rw [counter, ← own]
      exact base.sound.id_le task bound
    rw [finished.tables conn (known.trans_le conns) _ limit]
    simp only [before, connections_acknowledge, if_true]
    rw [sameId, OrderedMap.find?_erase, if_pos rfl]
  · intro other older different
    rw [finished.others other (older.trans_le count) different]
    exact State.tasks_learn_of_ne different
  · intro other older different
    have placed : (state.tasks other).conn < before.nextConn :=
      Nat.lt_of_lt_of_le (base.sound.conn_lt other older) conns
    have limit : (state.tasks other).id ≤ (before.connections (state.tasks other).conn).id := by
      rw [counter]
      exact base.sound.id_le other older
    rw [finished.tables _ placed _ limit]
    simp only [before, connections_acknowledge]
    split
    · next same =>
        -- the ids of one connection are distinct
        have apart : (state.tasks other).id ≠ rpcResp.getId := by
          intro equal
          apply different
          exact base.sound.id_unique other older task bound (same.trans own.symm)
            (equal.trans sameId.symm)
        rw [OrderedMap.find?_erase, if_neg apart, same]
    · rfl

/-- A call that has not failed then was answered with success, and its response is the one
that arrived. -/
theorem told_acknowledge {done : Closure Msg} (bound : task < state.nextTask)
    (unfailed : (((state.acknowledge conn task rpcResp parameter buf).finishTask done.run
      task).tasks task).controller.failed = false) :
    rpcResp.getStatus = .success ∧ ∃ message,
      (state.tasks task).call.responseFormat.parse parameter = some message ∧
      (((state.acknowledge conn task rpcResp parameter buf).finishTask done.run
        task).tasks task).response = some message := by
  let before := state.acknowledge conn task rpcResp parameter buf
  have older : task < before.nextTask := Nat.lt_of_lt_of_le bound (count_learn bound)
  have finished : Finished task before (before.finishTask done.run task) :=
    finished_finishTask older done
  have earlier : (before.tasks task).controller.failed = false := by
    cases failed : (before.tasks task).controller.failed with
    | false => rfl
    | true => cases unfailed.symm.trans (finished.failed failed)
  obtain ⟨status, message, parsed, response⟩ := State.unfailed_learn earlier
  exact ⟨status, message, parsed, finished.response.trans response⟩

end Acknowledging

section Receiving

variable [Protobuf] {rpcResp : Response} {data : List UInt8} {heap : Realloc}

/-- When memory is found, the handler of the response goes through to its end. -/
theorem receivePayload_nominal (succeeds : heap.Succeeds) (bound : task < state.nextTask)
    (parsed : Protobuf.response.parse
      (data.take (state.connections conn).header.rpcLen.toNat) = some rpcResp)
    (listed : (state.connections conn).outgoingTasks.find? rpcResp.getId = some task)
    (unstuck : (state.receivePayload heap conn data).1.stuck = false) :
    let parameter := (data.drop (state.connections conn).header.rpcLen.toNat).take
      (state.connections conn).header.respLen.toNat
    ∃ buf,
      let before := state.acknowledge conn task rpcResp parameter buf
      (state.receivePayload heap conn data).1 =
        before.finishTask (before.tasks task).done.run task := by
  intro parameter
  let learnt := state.learn task rpcResp parameter
  have count : task < learnt.nextTask := Nat.lt_of_lt_of_le bound (count_learn bound)
  have received : state.receivePayload heap conn data =
      State.concludeRead conn rpcResp.getId task (learnt.startRead heap conn) :=
    State.receivePayload_eq parsed listed
  rcases startRead_nominal conn learnt succeeds with hangs | ⟨buf, started⟩
  · have still : ∀ (ready : State Msg) (done : Closure Msg), task < ready.nextTask →
        ready.stuck = true → (ready.finishTask done.run task).stuck = true :=
      fun ready done older stuck => (finished_finishTask older done).stuck stuck
    rw [received, hangs] at unstuck
    cases unstuck.symm.trans (still _ _ count rfl)
  · refine ⟨buf, ?_⟩
    rw [received, started]
    rfl

theorem receivePayload_unlisted (succeeds : heap.Succeeds)
    (parsed : Protobuf.response.parse
      (data.take (state.connections conn).header.rpcLen.toNat) = some rpcResp)
    (unlisted : (state.connections conn).outgoingTasks.find? rpcResp.getId = none)
    (unstuck : (state.receivePayload heap conn data).1.stuck = false) :
    ∃ buf, (state.receivePayload heap conn data).1 =
      (state.modifyConn conn fun connection =>
        { connection with buf := buf }).startOnSocket conn .readHeader := by
  have received : state.receivePayload heap conn data = state.startRead heap conn := by
    simp only [State.receivePayload, parsed, unlisted]
  rw [received] at unstuck ⊢
  rcases startRead_nominal conn state succeeds with hangs | ⟨buf, started⟩
  · rw [hangs] at unstuck
    cases unstuck
  · exact ⟨buf, congrArg Prod.fst started⟩

omit [Protobuf] in
/-- The connection reads the header of the next response, and does nothing else to be set
up. -/
theorem Within.reads (within : Within conn state) (unstuck : state.stuck = false)
    (stands : Stands conn (.reading .header) state) : state.setUps conn = [.readHeader] :=
  List.perm_singleton.mp (within.at_stage unstuck stands).kinds

/-- The response to an open call. -/
theorem receivePayload_completes {duty : Duty} (base : Base False (duty, state))
    (within : Within conn state) (linked : At conn .linked state) (succeeds : heap.Succeeds)
    (parsed : Protobuf.response.parse
      (data.take (state.connections conn).header.rpcLen.toNat) = some rpcResp)
    (listed : (state.connections conn).outgoingTasks.find? rpcResp.getId = some task)
    (unstuck : (state.receivePayload heap conn data).1.stuck = false) :
    let after := (state.receivePayload heap conn data).1
    CompletesOnly conn task state after ∧ after.setUps conn = [.readHeader] ∧ Within conn after := by
  intro after
  have bound : task < state.nextTask :=
    (base.sound.entry conn _ (OrderedMap.find?_eq_some_iff.mp listed)).1
  obtain ⟨-, stands, -⟩ := receivePayload_listed linked base.numbered bound parsed listed
  obtain ⟨buf, same⟩ := receivePayload_nominal succeeds bound parsed listed unstuck
  let before := state.acknowledge conn task rpcResp
    ((data.drop (state.connections conn).header.rpcLen.toNat).take
      (state.connections conn).header.respLen.toNat) buf
  have same : after = before.finishTask (before.tasks task).done.run task := same
  have learnt : Passage conn (some task) state (state.learn task rpcResp
      ((data.drop (state.connections conn).header.rpcLen.toNat).take
        (state.connections conn).header.respLen.toNat)) :=
    passage_learn bound (fun ordinary => absurd rfl ordinary) _ _
  have older : task < before.nextTask := Nat.lt_of_lt_of_le bound learnt.count
  have finished : Finished task before after := by
    rw [same]
    exact finished_finishTask older _
  have connection : before.connections conn =
      { state.connections conn with
        buf := buf
        outgoingTasks := (state.connections conn).outgoingTasks.erase rpcResp.getId } := by
    rw [connections_acknowledge, if_pos rfl]
  have earlier : Within conn before := by
    constructor
    · rw [connection]
      exact within.intact
    · rw [connection]
      exact within.calm
  have isOpen : (before.connections conn).socket.isOpen = true := by
    rw [connection]
    exact linked.isOpen
  have later := earlier.of_staysOpen
    (finished.opened conn (Nat.lt_of_lt_of_le linked.known learnt.known) isOpen)
  refine ⟨?_, later.reads unstuck stands, later⟩
  rw [same]
  exact completes_acknowledge base listed linked.known _

/-- A response to no open call. -/
theorem receivePayload_ignores (within : Within conn state) (linked : At conn .linked state)
    (succeeds : heap.Succeeds)
    (parsed : Protobuf.response.parse
      (data.take (state.connections conn).header.rpcLen.toNat) = some rpcResp)
    (unlisted : (state.connections conn).outgoingTasks.find? rpcResp.getId = none)
    (unstuck : (state.receivePayload heap conn data).1.stuck = false) :
    let after := (state.receivePayload heap conn data).1
    Ignores state after ∧ after.setUps conn = [.readHeader] ∧ Within conn after := by
  intro after
  obtain ⟨buf, same⟩ := receivePayload_unlisted succeeds parsed unlisted unstuck
  let sized := state.modifyConn conn fun connection => { connection with buf := buf }
  have same : after = sized.startOnSocket conn .readHeader := same
  have resized : Passage conn none state sized :=
    .modifyConn (fun _ => ⟨rfl, rfl, rfl, rfl, rfl, rfl⟩) fun _ => .inl
  have stands : Stands conn (.reading .header) after := by
    rw [same]
    exact stands_startOnSocket .header (resized.standing .linked nofun linked)
  have later : Within conn after := by
    rw [same]
    constructor
    · simp [sized, State.startOnSocket, within.intact]
    · simp [sized, State.startOnSocket, within.calm]
  refine ⟨?_, later.reads unstuck stands, later⟩
  rw [same]
  refine ⟨rfl, rfl, ?_⟩
  intro other
  simp only [sized, State.startOnSocket, State.connections_start, State.connections_modifyConn]
  split
  · next mine => rw [mine]
  · rfl

end Receiving

end CarrotRpc.Client
