import CarrotRpc.Client.Answered
import CarrotRpc.Client.HandlerSteps

/-! What the closure of a call leaves alone: it makes calls of its own, and no call that
was made before takes notice of them. -/

set_option autoImplicit false

namespace CarrotRpc.Client

open Library Common Protob

variable {Msg : Type}

/-- An open connection stays open; it is neither destroyed nor resolved again. -/
structure StaysOpen (record next : RpcClientConnection) : Prop where
  isOpen : next.socket.isOpen = true
  destroyedAt : next.destroyedAt = record.destroyedAt
  overlapped : next.overlapped = record.overlapped

/-- The calls that were made up to the start are as they were then, and so is every table
under the ids that were given out by then. -/
structure Spared (start state : State Msg) : Prop where
  stuck : start.stuck = true → state.stuck = true
  count : start.nextTask ≤ state.nextTask
  known : start.nextConn ≤ state.nextConn
  tasks : ∀ task < start.nextTask, state.tasks task = start.tasks task
  counters : ∀ conn < start.nextConn,
    (start.connections conn).id ≤ (state.connections conn).id
  tables : ∀ conn < start.nextConn, ∀ id ≤ (start.connections conn).id,
    (state.connections conn).outgoingTasks.find? id =
      (start.connections conn).outgoingTasks.find? id
  opened : ∀ conn < start.nextConn, (start.connections conn).socket.isOpen = true →
    StaysOpen (start.connections conn) (state.connections conn)

/-- The call was made after the start, and got its id then. -/
structure Later (start state : State Msg) (task : TaskRef) : Prop where
  new : start.nextTask ≤ task
  id : (state.tasks task).conn < start.nextConn →
    (start.connections (state.tasks task).conn).id < (state.tasks task).id

namespace Spared

variable {start state : State Msg} {task : TaskRef} {conn : ConnRef}
  {body : State Msg → State Msg}

theorem refl (start : State Msg) : Spared start start :=
  ⟨id, Nat.le_refl _, Nat.le_refl _, fun _ _ => rfl, fun _ _ => Nat.le_refl _,
    fun _ _ _ _ => rfl, fun _ _ isOpen => ⟨isOpen, rfl, rfl⟩⟩

theorem modifyTask {change : CallTask Msg → CallTask Msg} (spared : Spared start state)
    (new : start.nextTask ≤ task) : Spared start (state.modifyTask task change) where
  stuck := spared.stuck
  count := spared.count
  known := spared.known
  tasks := by
    intro other bound
    rw [State.tasks_modifyTask, if_neg (Nat.ne_of_lt (bound.trans_le new))]
    exact spared.tasks other bound
  counters := spared.counters
  tables := spared.tables
  opened := spared.opened

theorem modifyConn {change : RpcClientConnection → RpcClientConnection}
    (spared : Spared start state)
    (counter : (state.connections conn).id ≤ (change (state.connections conn)).id)
    (table : conn < start.nextConn → ∀ id ≤ (start.connections conn).id,
      (change (state.connections conn)).outgoingTasks.find? id =
        (state.connections conn).outgoingTasks.find? id)
    (opened : (state.connections conn).socket.isOpen = true →
      StaysOpen (state.connections conn) (change (state.connections conn))) :
    Spared start (state.modifyConn conn change) where
  stuck := spared.stuck
  count := spared.count
  known := spared.known
  tasks := spared.tasks
  counters := by
    intro other known
    rw [State.connections_modifyConn]
    split
    · next same =>
        rw [same] at known ⊢
        exact (spared.counters conn known).trans counter
    · exact spared.counters other known
  tables := by
    intro other known id bound
    rw [State.connections_modifyConn]
    split
    · next same =>
        rw [same] at known bound ⊢
        exact (table known id bound).trans (spared.tables conn known id bound)
    · exact spared.tables other known id bound
  opened := by
    intro other known isOpen
    rw [State.connections_modifyConn]
    split
    · next same =>
        rw [same] at known isOpen ⊢
        have before := spared.opened conn known isOpen
        have after := opened before.isOpen
        exact ⟨after.isOpen, after.destroyedAt.trans before.destroyedAt,
          after.overlapped.trans before.overlapped⟩
    · exact spared.opened other known isOpen

theorem withOps {ops : List Op} (spared : Spared start state) :
    Spared start { state with ops := ops } :=
  ⟨spared.stuck, spared.count, spared.known, spared.tasks, spared.counters, spared.tables,
    spared.opened⟩

theorem getStuck (spared : Spared start state) : Spared start { state with stuck := true } :=
  ⟨fun _ => rfl, spared.count, spared.known, spared.tasks, spared.counters, spared.tables,
    spared.opened⟩

theorem borrow (spared : Spared start state) (new : start.nextTask ≤ task) :
    Spared start (state.borrow task) :=
  spared.modifyTask new

theorem setFailed {reason : String} {code : ErrorCode} (spared : Spared start state)
    (new : start.nextTask ≤ task) : Spared start (state.setFailed task reason code) :=
  (spared.borrow new).modifyTask new

theorem setupTaskTimer (spared : Spared start state) (new : start.nextTask ≤ task) :
    Spared start (state.setupTaskTimer task) := by
  have lent : Spared start (state.borrow task) := spared.borrow new
  unfold State.setupTaskTimer
  simp only
  split
  · exact lent.withOps.withOps
  · exact lent

theorem runDone (spared : Spared start state) (new : start.nextTask ≤ task)
    (spares : ∀ state, Spared start state → Spared start (body state)) :
    Spared start (state.runDone body task) := by
  have begun : Spared start ((state.borrow task).modifyTask task fun record =>
      { record with runs := record.runs + 1 }) := (spared.borrow new).modifyTask new
  have ran := spares _ begun
  unfold State.runDone
  simp only
  split
  · exact ran.modifyTask new
  · exact (ran.setFailed new).modifyTask new

theorem finishTask (spared : Spared start state) (new : start.nextTask ≤ task)
    (spares : ∀ state, Spared start state → Spared start (body state)) :
    Spared start (state.finishTask body task) := by
  have cancelled : Spared start (state.cancelTimer task) := spared.withOps
  unfold State.finishTask
  simp only
  split
  · exact cancelled
  · exact cancelled.runDone new spares

theorem newTask (spared : Spared start state) (call : Call Msg) (done : Closure Msg) :
    Spared start (state.newTask conn call done) := by
  have counted : Spared start (state.modifyConn conn fun connection =>
      { connection with id := (state.connections conn).id + 1 }) := by
    apply spared.modifyConn
    · exact Nat.le_succ _
    · exact fun _ _ _ => rfl
    · exact fun isOpen => ⟨isOpen, rfl, rfl⟩
  refine ⟨counted.stuck, counted.count.trans (Nat.le_succ _), counted.known, ?_,
    counted.counters, counted.tables, counted.opened⟩
  intro task bound
  have older : task ≠ state.nextTask := Nat.ne_of_lt (bound.trans_le spared.count)
  rw [State.tasks_newTask_of_ne older]
  exact spared.tasks task bound

theorem later_newTask (spared : Spared start state) (call : Call Msg) (done : Closure Msg) :
    Later start (state.newTask conn call done) state.nextTask where
  new := spared.count
  id := by
    rw [State.tasks_newTask_self]
    intro known
    exact Nat.lt_succ_of_le (spared.counters conn known)

theorem openConnection (spared : Spared start state) (host service : String) :
    Spared start (state.openConnection host service) := by
  have older : ∀ conn < start.nextConn,
      (state.openConnection host service).connections conn = state.connections conn := by
    intro conn known
    exact Function.update_of_ne (Nat.ne_of_lt (known.trans_le spared.known)) _ _
  refine ⟨spared.stuck, spared.count, spared.known.trans (Nat.le_succ _), spared.tasks, ?_, ?_,
    ?_⟩
  · intro conn known
    rw [older conn known]
    exact spared.counters conn known
  · intro conn known id bound
    rw [older conn known]
    exact spared.tables conn known id bound
  · intro conn known isOpen
    rw [older conn known]
    exact spared.opened conn known isOpen

variable [Protobuf]

theorem startCall (spared : Spared start state) (later : Later start state task)
    (spares : ∀ state, Spared start state → Spared start (body state)) :
    Spared start (state.startCall body task) := by
  have lent : Spared start (state.borrow task) := spared.borrow later.new
  have own : ((state.borrow task).tasks task).conn = (state.tasks task).conn ∧
      ((state.borrow task).tasks task).id = (state.tasks task).id := by
    simp [State.borrow]
  have failing : ∀ ready reason code, Spared start ready →
      Spared start ((ready.setFailed task reason code).finishTask body task) :=
    fun ready reason code spared => (spared.setFailed later.new).finishTask later.new spares
  unfold State.startCall
  simp only
  split
  · exact lent.getStuck
  · next buf expanded grown =>
      have sized : Spared start ((state.borrow task).modifyTask task fun record =>
          { record with buf := buf }) := lent.modifyTask later.new
      split
      · exact failing _ _ _ sized
      split
      · exact failing _ _ _ sized
      split
      · exact failing _ _ _ sized
      · have inserted : Spared start (((state.borrow task).modifyTask task fun record =>
            { record with buf := buf }).modifyConn ((state.borrow task).tasks task).conn
              fun connection => { connection with
                outgoingTasks := connection.outgoingTasks.insert
                  ((state.borrow task).tasks task).id task }) := by
          apply sized.modifyConn
          · exact Nat.le_refl _
          · rw [own.1, own.2]
            intro known id bound
            exact OrderedMap.find?_insert_of_ne (Nat.ne_of_lt (bound.trans_lt (later.id known)))
          · exact fun isOpen => ⟨isOpen, rfl, rfl⟩
        exact ((inserted.setupTaskTimer later.new).modifyTask later.new).withOps

theorem issue (spared : Spared start state) (call : Call Msg) (done : Closure Msg)
    (spares : ∀ state, Spared start state → Spared start (body state)) :
    Spared start (state.issue body conn call done) := by
  have added : Spared start (state.newTask conn call done) := spared.newTask call done
  unfold State.issue
  simp only
  split
  · next closed =>
      apply setupTaskTimer _ spared.count
      apply modifyTask _ spared.count
      apply added.withOps.modifyConn
      · exact Nat.le_refl _
      · exact fun _ _ _ => rfl
      · intro isOpen
        have isOpen : ((state.newTask conn call done).connections conn).socket.isOpen = true :=
          isOpen
        rw [isOpen] at closed
        cases closed
  · exact added.startCall (spared.later_newTask call done) spares

theorem callMethod (spared : Spared start state) (call : Call Msg) (done : Closure Msg)
    (spares : ∀ state, Spared start state → Spared start (body state)) :
    Spared start (state.callMethod body call done) := by
  unfold State.callMethod
  simp only
  split
  · exact (spared.openConnection _ _).issue call done spares
  · exact spared.issue call done spares

theorem run (done : Closure Msg) :
    ∀ state, Spared start state → Spared start (done.run state) := by
  induction done with
  | returns => exact fun _ spared => spared
  | throws what => exact fun _ spared => spared
  | callMethod call done next inner outer =>
      exact fun state spared => outer _ (spared.callMethod call done inner)

end Spared

/-- Only the call itself learns that it is completed. -/
structure Finished (task : TaskRef) (before after : State Msg) : Prop where
  stuck : before.stuck = true → after.stuck = true
  count : before.nextTask ≤ after.nextTask
  others : ∀ other < before.nextTask, other ≠ task → after.tasks other = before.tasks other
  called : (after.tasks task).called = true
  response : (after.tasks task).response = (before.tasks task).response
  failed : (before.tasks task).controller.failed = true →
    (after.tasks task).controller.failed = true
  tables : ∀ conn < before.nextConn, ∀ id ≤ (before.connections conn).id,
    (after.connections conn).outgoingTasks.find? id =
      (before.connections conn).outgoingTasks.find? id
  opened : ∀ conn < before.nextConn, (before.connections conn).socket.isOpen = true →
    StaysOpen (before.connections conn) (after.connections conn)

section Finishing

variable [Protobuf] {state : State Msg} {task : TaskRef}

theorem finished_runDone (bound : task < state.nextTask) (done : Closure Msg) :
    Finished task state (state.runDone done.run task) := by
  let begun := (state.borrow task).modifyTask task fun record =>
    { record with runs := record.runs + 1 }
  have others : ∀ other, other ≠ task → begun.tasks other = state.tasks other := by
    intro other different
    simp [begun, State.borrow, different]
  have own : (begun.tasks task).response = (state.tasks task).response ∧
      (begun.tasks task).controller = (state.tasks task).controller := by
    simp [begun, State.borrow]
  have spared : Spared begun (done.run begun) := Spared.run done begun (.refl begun)
  have ended : ∀ ran : State Msg, ran.nextTask = (done.run begun).nextTask →
      (∀ other, other ≠ task → ran.tasks other = (done.run begun).tasks other) →
      (ran.tasks task).response = ((done.run begun).tasks task).response →
      (((done.run begun).tasks task).controller.failed = true →
        (ran.tasks task).controller.failed = true) →
      ran.connections = (done.run begun).connections →
      ran.stuck = (done.run begun).stuck →
      Finished task state (ran.modifyTask task fun record => { record with called := true }) := by
    intro ran count same response failed connections stuck
    refine ⟨fun hangs => stuck.trans (spared.stuck hangs), spared.count.trans (Nat.le_of_eq count.symm),
      ?_, ?_, ?_, ?_, ?_, ?_⟩
    · intro other older different
      rw [State.tasks_modifyTask, if_neg different, same other different,
        spared.tasks other older, others other different]
    · rw [State.tasks_modifyTask, if_pos rfl]
    · rw [State.tasks_modifyTask, if_pos rfl]
      rw [response, spared.tasks task bound, own.1]
    · intro before
      rw [State.tasks_modifyTask, if_pos rfl]
      apply failed
      rw [spared.tasks task bound, own.2]
      exact before
    · intro conn known id counted
      rw [State.connections_modifyTask, connections]
      exact spared.tables conn known id counted
    · intro conn known isOpen
      rw [State.connections_modifyTask, connections]
      exact spared.opened conn known isOpen
  have failing : ∀ (ran : State Msg) (reason : String) (code : ErrorCode),
      (∀ other, other ≠ task → (ran.setFailed task reason code).tasks other = ran.tasks other) ∧
        ((ran.setFailed task reason code).tasks task).response = (ran.tasks task).response ∧
        ((ran.setFailed task reason code).tasks task).controller.failed = true := by
    intro ran reason code
    refine ⟨?_, ?_, ?_⟩
    · intro other different
      simp [State.setFailed, State.borrow, different]
    · simp [State.setFailed, State.borrow]
    · simp [State.setFailed]
  unfold State.runDone
  simp only
  split
  · exact ended _ rfl (fun _ _ => rfl) rfl (fun failed => failed) rfl rfl
  · next what _ =>
      obtain ⟨same, response, failed⟩ := failing (done.run begun) ("rpc failed: " ++ what) .failed
      exact ended _ rfl same response (fun _ => failed) rfl rfl

theorem finished_finishTask (bound : task < state.nextTask) (done : Closure Msg) :
    Finished task state (state.finishTask done.run task) := by
  unfold State.finishTask
  simp only
  split
  · next called =>
      exact ⟨id, Nat.le_refl _, fun _ _ _ => rfl, called, rfl, fun failed => failed,
        fun _ _ _ _ => rfl, fun _ _ isOpen => ⟨isOpen, rfl, rfl⟩⟩
  · have cancelled : task < (state.cancelTimer task).nextTask := bound
    obtain ⟨stuck, count, others, called, response, failed, tables, opened⟩ :=
      finished_runDone cancelled done
    exact ⟨stuck, count, others, called, response, failed, tables, opened⟩

theorem count_failTask (bound : task < state.nextTask) (reason : String) (code : ErrorCode) :
    state.nextTask ≤ (state.failTask reason code task).nextTask := by
  unfold State.failTask
  split
  · exact Nat.le_refl _
  · have told : task < (state.setFailed task reason code).nextTask := bound
    exact (finished_runDone told _).count

end Finishing

end CarrotRpc.Client
