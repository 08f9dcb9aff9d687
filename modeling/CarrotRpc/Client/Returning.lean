import CarrotRpc.Common.Growth
import CarrotRpc.Client.Sessions
import CarrotRpc.Client.Sparing

/-! Closures that come to an end. The only step of the program that can go on forever is
the doubling loop of `expand_packet`, which a closure enters when it makes a call. -/

set_option autoImplicit false

namespace CarrotRpc.Client

open Library Common Protob

variable {Msg : Type} [Protobuf]

/-- The size of the packet, as `expand_packet` is given it, is one the doubling reaches,
whatever id the call gets. -/
def Call.Expandable (call : Call Msg) : Prop :=
  ∀ id, (UInt32.ofNat (requestPacket id call).length).toNat ≤ maxSize

/-- So it is for every call the closure makes, also in the closures it hands over. -/
def Closure.Expandable : Closure Msg → Prop
  | .returns | .throws _ => True
  | .callMethod call done next => call.Expandable ∧ done.Expandable ∧ next.Expandable

/-- No loop is stuck, and none would be in a closure that was not invoked yet. -/
structure Returning (state : State Msg) : Prop where
  unstuck : state.stuck = false
  expandable : ∀ task < state.nextTask, (state.tasks task).called = false →
    (state.tasks task).done.Expandable
  listed : ∀ conn, ∀ entry ∈ (state.connections conn).outgoingTasks.entries,
    entry.2 < state.nextTask

namespace Returning

variable {state : State Msg} {conn : ConnRef} {task : TaskRef} {body : State Msg → State Msg}

theorem modifyTask {change : CallTask Msg → CallTask Msg} (returning : Returning state)
    (same : (change (state.tasks task)).done = (state.tasks task).done)
    (opened : (change (state.tasks task)).called = false → (state.tasks task).called = false) :
    Returning (state.modifyTask task change) where
  unstuck := returning.unstuck
  expandable := by
    intro other bound
    rw [State.tasks_modifyTask]
    split
    · next equal =>
        rw [same]
        exact fun uncalled => returning.expandable task (equal ▸ bound) (opened uncalled)
    · exact returning.expandable other bound
  listed := returning.listed

theorem modifyConn {change : RpcClientConnection → RpcClientConnection}
    (returning : Returning state)
    (listed : ∀ entry ∈ (change (state.connections conn)).outgoingTasks.entries,
      entry.2 < state.nextTask) : Returning (state.modifyConn conn change) where
  unstuck := returning.unstuck
  expandable := returning.expandable
  listed := by
    intro other
    rw [State.connections_modifyConn]
    split
    · exact listed
    · exact returning.listed other

theorem withOps (returning : Returning state) (ops : List Op) :
    Returning { state with ops := ops } :=
  ⟨returning.unstuck, returning.expandable, returning.listed⟩

theorem borrow (returning : Returning state) : Returning (state.borrow task) :=
  returning.modifyTask rfl id

theorem setFailed (returning : Returning state) (reason : String) (code : ErrorCode) :
    Returning (state.setFailed task reason code) := by
  have lent : Returning (state.borrow task) := returning.borrow
  exact lent.modifyTask rfl id

theorem setupTaskTimer (returning : Returning state) :
    Returning (state.setupTaskTimer task) := by
  have lent : Returning (state.borrow task) := returning.borrow
  unfold State.setupTaskTimer
  simp only
  split
  · exact lent.withOps _
  · exact lent

theorem runDone (returning : Returning state)
    (returns : ∀ state, Returning state → Returning (body state)) :
    Returning (state.runDone body task) := by
  have lent : Returning (state.borrow task) := returning.borrow
  have counted : Returning ((state.borrow task).modifyTask task fun record =>
      { record with runs := record.runs + 1 }) := lent.modifyTask rfl id
  have ran := returns _ counted
  have called : ∀ ready : State Msg, Returning ready →
      Returning (ready.modifyTask task fun record => { record with called := true }) := by
    intro ready returning
    apply returning.modifyTask rfl
    intro uncalled
    cases uncalled
  unfold State.runDone
  simp only
  split
  · exact called _ ran
  · exact called _ (ran.setFailed _ _)

theorem finishTask (returning : Returning state)
    (returns : ∀ state, Returning state → Returning (body state)) :
    Returning (state.finishTask body task) := by
  have cancelled : Returning (state.cancelTimer task) := returning.withOps _
  unfold State.finishTask
  simp only
  split
  · exact cancelled
  · exact cancelled.runDone returns

theorem newTask {call : Call Msg} {done : Closure Msg} (returning : Returning state)
    (expandable : done.Expandable) : Returning (state.newTask conn call done) where
  unstuck := returning.unstuck
  expandable := by
    intro other bound
    by_cases new : other = state.nextTask
    · rw [new, State.tasks_newTask_self]
      exact fun _ => expandable
    · have older : other < state.nextTask := Nat.lt_of_le_of_ne (Nat.le_of_lt_succ bound) new
      rw [State.tasks_newTask_of_ne new]
      exact returning.expandable other older
  listed := by
    have counted : Returning (state.modifyConn conn fun connection =>
        { connection with id := (state.connections conn).id + 1 }) :=
      returning.modifyConn (returning.listed conn)
    exact fun other entry member => (counted.listed other entry member).trans (Nat.lt_succ_self _)

theorem startCall (returning : Returning state) (bound : task < state.nextTask) (empty : (state.tasks task).buf = {})
    (expandable : (state.tasks task).call.Expandable)
    (returns : ∀ state, Returning state → Returning (body state)) :
    Returning (state.startCall body task) := by
  have lent : Returning (state.borrow task) := returning.borrow
  have own : ((state.borrow task).tasks task).buf = {} ∧
      ((state.borrow task).tasks task).call = (state.tasks task).call := by
    simp [State.borrow, empty]
  have failing : ∀ ready reason code, Returning ready →
      Returning ((ready.setFailed task reason code).finishTask body task) :=
    fun ready reason code returning => (returning.setFailed reason code).finishTask returns
  have size := expandable ((state.borrow task).tasks task).id
  simp only [requestPacket, length_layout, List.length_nil, Nat.add_zero] at size
  unfold State.startCall
  simp only [own.1, own.2]
  split
  · next hangs =>
      have large := (expandPacket_eq_none_iff PacketBuf.Grown.initial).mp hangs
      exact absurd size (Nat.not_le.mpr large)
  · next buf expanded grown =>
      have sized : Returning ((state.borrow task).modifyTask task fun record =>
          { record with buf := buf }) := lent.modifyTask rfl id
      split
      · exact failing _ _ _ sized
      split
      · exact failing _ _ _ sized
      split
      · exact failing _ _ _ sized
      · have inserted : Returning (((state.borrow task).modifyTask task fun record =>
            { record with buf := buf }).modifyConn ((state.borrow task).tasks task).conn
              fun connection => { connection with
                outgoingTasks := connection.outgoingTasks.insert
                  ((state.borrow task).tasks task).id task }) := by
          apply sized.modifyConn
          intro entry member
          rcases OrderedMap.mem_of_mem_insert member with new | old
          · rw [new]
            exact bound
          · exact sized.listed _ entry old
        exact (inserted.setupTaskTimer.modifyTask rfl id).withOps _

theorem issue {call : Call Msg} {done : Closure Msg} (returning : Returning state)
    (expandable : call.Expandable) (later : done.Expandable)
    (returns : ∀ state, Returning state → Returning (body state)) :
    Returning (state.issue body conn call done) := by
  have added : Returning (state.newTask conn call done) := returning.newTask later
  unfold State.issue
  simp only
  split
  · have resolving : Returning ((state.newTask conn call done).start
        ⟨conn, .resolve state.nextTask, .pending⟩) := added.withOps _
    have flagged : Returning (((state.newTask conn call done).start
        ⟨conn, .resolve state.nextTask, .pending⟩).modifyConn conn fun connection =>
          { connection with
            connecting := true
            overlapped := connection.overlapped || connection.connecting }) :=
      resolving.modifyConn (resolving.listed conn)
    exact (flagged.modifyTask rfl id).setupTaskTimer
  · apply added.startCall
    · exact Nat.lt_succ_self _
    · rw [State.tasks_newTask_self]
    · rw [State.tasks_newTask_self]
      exact expandable
    · exact returns

theorem callMethod {call : Call Msg} {done : Closure Msg} (returning : Returning state)
    (expandable : call.Expandable) (later : done.Expandable)
    (returns : ∀ state, Returning state → Returning (body state)) :
    Returning (state.callMethod body call done) := by
  unfold State.callMethod
  simp only
  split
  · have opened :
        Returning (state.openConnection call.controller.host call.controller.service) := by
      refine ⟨returning.unstuck, returning.expandable, ?_⟩
      intro other entry member
      by_cases new : other = state.nextConn
      · rw [new, connections_openConnection_self] at member
        cases member
      · have older : (state.openConnection call.controller.host
            call.controller.service).connections other = state.connections other :=
          Function.update_of_ne new _ _
        rw [older] at member
        exact returning.listed other entry member
    exact opened.issue expandable later returns
  · exact returning.issue expandable later returns

theorem run {done : Closure Msg} (expandable : done.Expandable) :
    ∀ state, Returning state → Returning (done.run state) := by
  induction done with
  | returns => exact fun _ returning => returning
  | throws what => exact fun _ returning => returning
  | callMethod call done next inner outer =>
      obtain ⟨call, done, next⟩ := expandable
      exact fun state returning => outer next _ (returning.callMethod call done (inner done))

theorem failTask (returning : Returning state) (bound : task < state.nextTask) (reason : String)
    (code : ErrorCode) : Returning (state.failTask reason code task) := by
  unfold State.failTask
  split
  · exact returning
  · next uncalled =>
      have expandable := returning.expandable task bound (eq_false_of_ne_true uncalled)
      exact (returning.setFailed reason code).runDone (run expandable)

theorem closeSocket (returning : Returning state) : Returning (state.closeSocket conn) := by
  have cancelled : Returning (state.cancel fun op => op.conn = conn && op.kind.usesSocket) :=
    returning.withOps _
  exact cancelled.modifyConn (cancelled.listed conn)

/-- The calls of the table are failed one by one, and their closures make no fewer. -/
theorem destroy (returning : Returning state) (reason : SystemError) :
    Returning (state.destroy conn reason) := by
  let closed := (state.cancelResolver conn).closeSocket conn
  have cancelled : Returning (state.cancelResolver conn) := returning.withOps _
  have begun : Returning closed := cancelled.closeSocket
  have looped : Returning ((closed.connections conn).outgoingTasks.entries.foldl
        (fun state entry => (state.cancelTimer entry.2).failTask
          ("rpc failed: " ++ reason.message) .failed entry.2) closed) ∧
      closed.nextTask ≤ ((closed.connections conn).outgoingTasks.entries.foldl
        (fun state entry => (state.cancelTimer entry.2).failTask
          ("rpc failed: " ++ reason.message) .failed entry.2) closed).nextTask := by
    apply List.foldlRecOn (motive := fun reached =>
      Returning reached ∧ closed.nextTask ≤ reached.nextTask)
    · exact ⟨begun, Nat.le_refl _⟩
    · intro reached earlier entry member
      obtain ⟨returning, count⟩ := earlier
      have bound : entry.2 < (reached.cancelTimer entry.2).nextTask :=
        (begun.listed conn entry member).trans_le count
      have cancelled : Returning (reached.cancelTimer entry.2) := returning.withOps _
      exact ⟨cancelled.failTask bound _ _, count.trans (count_failTask bound _ _)⟩
  have cleared : ∀ reached : State Msg, Returning reached →
      Returning (reached.modifyConn conn fun connection =>
        { connection with
          outgoingTasks := .empty
          destroyedAt := some (connection.destroyedAt.getD reached.nextTask) }) := by
    intro reached returning
    apply returning.modifyConn
    intro entry member
    cases member
  exact cleared _ looped.1

theorem handleTimeout (returning : Returning state) (bound : task < state.nextTask) :
    Returning (state.handleTimeout task none) := by
  have erased : Returning (state.modifyConn (state.tasks task).conn fun connection =>
      { connection with
        outgoingTasks := connection.outgoingTasks.erase (state.tasks task).id }) := by
    apply returning.modifyConn
    intro entry member
    exact returning.listed _ entry (OrderedMap.mem_erase_iff.mp member).1
  have failed := erased.failTask bound ("rpc timed out at state " ++ (state.tasks task).state.str)
    .rpcTimeout
  unfold State.handleTimeout
  simp only
  split
  · exact failed.destroy .timedOut
  · exact failed

end Returning

end CarrotRpc.Client
