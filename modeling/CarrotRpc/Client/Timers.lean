import CarrotRpc.Client.SetUp
import CarrotRpc.Client.Borrowing
import CarrotRpc.Client.Completion

/-! Timers of completed calls. A connection takes a timeout of any of its calls for
one of the attempt to connect it as long as `connecting_` is set, and a failed
attempt leaves it set. -/

set_option autoImplicit false

namespace CarrotRpc.Client

open Library Common Protob

variable {Msg : Type}

/-- A resolve or a connect of the connection is outstanding, or its handler is queued. -/
def Attempted (conn : ConnRef) (state : State Msg) : Prop :=
  ∃ op ∈ state.ops, op.conn = conn ∧ op.kind.isAttempt = true

instance (conn : ConnRef) (state : State Msg) : Decidable (Attempted conn state) :=
  inferInstanceAs (Decidable (∃ op ∈ state.ops, op.conn = conn ∧ op.kind.isAttempt = true))

/-- `connecting_` is set only during an attempt. -/
def Honest (state : State Msg) : Prop :=
  ∀ conn, (state.connections conn).connecting = true → Attempted conn state

/-- The handler does not take the last attempt of a connection away with an error
while `connecting_` is set. -/
def LeavesAttempt (state : State Msg) (op : Op) : Prop :=
  op.kind.isAttempt = true → op.status ≠ .queued none →
    (state.connections op.conn).connecting = true → Attempted op.conn (state.dequeue op)

instance (state : State Msg) (op : Op) : Decidable (LeavesAttempt state op) :=
  inferInstanceAs (Decidable (_ → _ → _ → _))

/-- No attempt is under way on the task's connection, which lists no call with the id
of the task. -/
def NothingToDisturb (state : State Msg) (task : TaskRef) : Prop :=
  (state.connections (state.tasks task).conn).connecting = false ∧
    (state.connections (state.tasks task).conn).outgoingTasks.find? (state.tasks task).id = none

instance (state : State Msg) (task : TaskRef) : Decidable (NothingToDisturb state task) :=
  inferInstanceAs (Decidable (_ ∧ _))

/-- Attempts fail only while another one is left, and a timeout of a completed call is
handled when there is nothing it could disturb. -/
def Steady (state : State Msg) : Label Msg → Prop
  | .handle op _ =>
      LeavesAttempt state op ∧
        ∀ task, op.kind = .timer task → op.status = .queued none →
          (state.tasks task).called = true → NothingToDisturb state task
  | .callMethod _ _ | .complete _ _ | .writeSome _ _ => True

instance (state : State Msg) (label : Label Msg) : Decidable (Steady state label) :=
  match label with
  | .callMethod _ _ | .complete _ _ | .writeSome _ _ => .isTrue trivial
  | .handle ⟨conn, .timer task, status⟩ _ =>
      decidable_of_iff (LeavesAttempt state ⟨conn, .timer task, status⟩ ∧
          (status = .queued none → (state.tasks task).called = true →
            NothingToDisturb state task))
        ⟨fun steady => ⟨steady.1, fun _ same => OpKind.timer.inj same ▸ steady.2⟩,
          fun steady => ⟨steady.1, steady.2 task rfl⟩⟩
  | .handle ⟨_, .resolve _, _⟩ _ | .handle ⟨_, .connect _, _⟩ _
  | .handle ⟨_, .readHeader, _⟩ _ | .handle ⟨_, .readPayload, _⟩ _
  | .handle ⟨_, .write _ _ _, _⟩ _ =>
      decidable_of_iff (LeavesAttempt state _) ⟨fun leaves => ⟨leaves, nofun⟩, And.left⟩

/-- An attempt fails only while another of its connection is left, and a timeout of a
completed call is handled while its connection is not being connected. -/
def Unhurried (state : State Msg) : Label Msg → Prop
  | .handle op _ =>
      (op.kind.isAttempt = true → op.status ≠ .queued none →
        Attempted op.conn (state.dequeue op)) ∧
      ∀ task, op.kind = .timer task → op.status = .queued none →
        (state.tasks task).called = true → ¬ Attempted (state.tasks task).conn state
  | .callMethod _ _ | .complete _ _ | .writeSome _ _ => True

/-- Attempts go on, and `connecting_` is set only where one is started. -/
structure Onward (before after : State Msg) : Prop where
  attempted : ∀ conn, Attempted conn before → Attempted conn after
  connecting : ∀ conn, (after.connections conn).connecting = true →
    (before.connections conn).connecting = true ∨ Attempted conn after

namespace Onward

variable {before after state : State Msg} {conn : ConnRef} {task : TaskRef}

theorem refl (state : State Msg) : Onward state state :=
  ⟨fun _ => id, fun _ => .inl⟩

theorem trans {middle : State Msg} (first : Onward before middle)
    (second : Onward middle after) : Onward before after where
  attempted := fun conn begun => second.attempted conn (first.attempted conn begun)
  connecting := by
    intro conn set
    rcases second.connecting conn set with earlier | begun
    · exact (first.connecting conn earlier).imp_right (second.attempted conn)
    · exact .inr begun

theorem honest (onward : Onward before after) (honest : Honest before) : Honest after := by
  intro conn set
  rcases onward.connecting conn set with earlier | begun
  · exact onward.attempted conn (honest conn earlier)
  · exact begun

theorem modifyTask {change : CallTask Msg → CallTask Msg} :
    Onward state (state.modifyTask task change) :=
  ⟨fun _ => id, fun _ => .inl⟩

theorem modifyConn {change : RpcClientConnection → RpcClientConnection}
    (keeps : (change (state.connections conn)).connecting =
      (state.connections conn).connecting) :
    Onward state (state.modifyConn conn change) where
  attempted := fun _ => id
  connecting := by
    intro other set
    rw [State.connections_modifyConn] at set
    split at set
    · next same =>
        rw [keeps, ← same] at set
        exact .inl set
    · exact .inl set

theorem getStuck : Onward state { state with stuck := true } :=
  ⟨fun _ => id, fun _ => .inl⟩

theorem start (op : Op) : Onward state (state.start op) where
  attempted := by
    intro conn begun
    obtain ⟨other, member, mine, attempt⟩ := begun
    exact ⟨other, List.mem_append_left _ member, mine, attempt⟩
  connecting := fun _ => .inl

theorem startOnSocket (kind : OpKind) : Onward state (state.startOnSocket conn kind) :=
  start _

/-- A cancelled attempt is one until its handler runs. -/
theorem cancel (selected : Op → Bool) : Onward state (state.cancel selected) where
  attempted := by
    intro conn begun
    obtain ⟨op, member, mine, attempt⟩ := begun
    refine ⟨_, List.mem_map_of_mem member, ?_⟩
    split
    · obtain ⟨sameConn, sameKind⟩ := State.abort_same op
      rw [sameConn, sameKind]
      exact ⟨mine, attempt⟩
    · exact ⟨mine, attempt⟩
  connecting := fun _ => .inl

theorem replaceOp {op replacement : Op} (sameConn : replacement.conn = op.conn)
    (sameKind : replacement.kind.isAttempt = op.kind.isAttempt) :
    Onward state (state.replaceOp op replacement) where
  attempted := by
    intro conn begun
    obtain ⟨attempt, member, mine, attempts⟩ := begun
    by_cases same : attempt = op
    · subst same
      refine ⟨replacement, List.mem_append_right _ List.mem_cons_self, ?_, ?_⟩
      · rw [sameConn, mine]
      · rw [sameKind, attempts]
    · have kept : attempt ∈ state.ops.erase op := (List.mem_erase_of_ne same).mpr member
      exact ⟨attempt, List.mem_append_left _ kept, mine, attempts⟩
  connecting := fun _ => .inl

theorem closeSocket : Onward state (state.closeSocket conn) :=
  (cancel _).trans (modifyConn rfl)

theorem borrow : Onward state (state.borrow task) :=
  modifyTask

theorem setFailed {reason : String} {code : ErrorCode} :
    Onward state (state.setFailed task reason code) :=
  borrow.trans modifyTask

theorem setupTaskTimer : Onward state (state.setupTaskTimer task) := by
  unfold State.setupTaskTimer
  simp only
  split
  · exact (borrow.trans (cancel _)).trans (start _)
  · exact borrow

theorem asyncConnect : Onward state (state.asyncConnect conn task) := by
  have opened : Onward (state.closeSocket conn) ((state.closeSocket conn).openSocket conn) :=
    modifyConn rfl
  exact (closeSocket.trans opened).trans (start _)

theorem newTask {call : Call Msg} {done : Closure Msg} :
    Onward state (state.newTask conn call done) := by
  have counted : Onward state (state.modifyConn conn fun connection =>
      { connection with id := (state.connections conn).id + 1 }) := modifyConn rfl
  exact ⟨counted.attempted, counted.connecting⟩

theorem openConnection {host service : String} :
    Onward state (state.openConnection host service) where
  attempted := fun _ => id
  connecting := by
    intro conn set
    by_cases new : conn = state.nextConn
    · subst new
      simp [State.openConnection] at set
    · simp only [State.openConnection, Function.update_of_ne new] at set
      exact .inl set

end Onward

/-- A step of the program after which `connecting_` is still set only during attempts. -/
def Continues (body : State Msg → State Msg) : Prop :=
  ∀ state, Onward state (body state)

namespace Onward

variable {state : State Msg} {body : State Msg → State Msg} {conn : ConnRef}
  {task : TaskRef}

theorem runDone (continues : Continues body) : Onward state (state.runDone body task) := by
  unfold State.runDone
  simp only
  have begun : Onward state ((state.borrow task).modifyTask task fun record =>
      { record with runs := record.runs + 1 }) := borrow.trans modifyTask
  have ran := begun.trans (continues _)
  split
  · exact ran.trans modifyTask
  · exact (ran.trans setFailed).trans modifyTask

theorem finishTask (continues : Continues body) :
    Onward state (state.finishTask body task) := by
  unfold State.finishTask
  simp only
  split
  · exact cancel _
  · exact (cancel _).trans (runDone continues)

theorem applyStatus (task : TaskRef) (rpcResp : Response) :
    Onward state (state.applyStatus task rpcResp) := by
  unfold State.applyStatus
  split
  · exact setFailed
  · exact setFailed
  · exact setFailed
  · exact refl state

theorem parseResponse (task : TaskRef) (bytes : List UInt8) :
    Onward state (state.parseResponse task bytes) := by
  unfold State.parseResponse
  simp only
  split
  · exact borrow.trans modifyTask
  · exact borrow.trans setFailed

variable [Protobuf]

theorem startCall (continues : Continues body) : Onward state (state.startCall body task) := by
  unfold State.startCall
  simp only
  split
  · exact borrow.trans getStuck
  · next buf expanded grown =>
      have sized : Onward state ((state.borrow task).modifyTask task fun record =>
          { record with buf := buf }) := borrow.trans modifyTask
      split
      · exact (sized.trans setFailed).trans (finishTask continues)
      split
      · exact (sized.trans setFailed).trans (finishTask continues)
      split
      · exact (sized.trans setFailed).trans (finishTask continues)
      · apply Onward.trans _ (startOnSocket _)
        apply Onward.trans _ modifyTask
        apply Onward.trans _ setupTaskTimer
        exact sized.trans (modifyConn rfl)

theorem issue (continues : Continues body) (call : Call Msg) (done : Closure Msg) :
    Onward state (state.issue body conn call done) := by
  unfold State.issue
  simp only
  split
  · apply Onward.trans _ setupTaskTimer
    apply Onward.trans _ modifyTask
    -- the flag is set for the resolve that was just started
    have started : Attempted conn ((state.newTask conn call done).start
        ⟨conn, .resolve state.nextTask, .pending⟩) :=
      ⟨_, List.mem_append_right _ List.mem_cons_self, rfl, rfl⟩
    have resolving : Onward state ((state.newTask conn call done).start
        ⟨conn, .resolve state.nextTask, .pending⟩) := newTask.trans (start _)
    refine ⟨resolving.attempted, ?_⟩
    intro other set
    by_cases same : other = conn
    · rw [same]
      exact .inr started
    · rw [State.connections_modifyConn, if_neg same] at set
      exact resolving.connecting other set
  · exact newTask.trans (startCall continues)

theorem callMethod (continues : Continues body) (call : Call Msg) (done : Closure Msg) :
    Onward state (state.callMethod body call done) := by
  unfold State.callMethod
  simp only
  split
  · exact openConnection.trans (issue continues call done)
  · exact issue continues call done

theorem run (done : Closure Msg) : Continues done.run := by
  induction done with
  | returns => exact refl
  | throws what => exact refl
  | callMethod call done next inner outer =>
      intro state
      exact (callMethod inner call done).trans (outer _)

theorem failTask {reason : String} {code : ErrorCode} :
    Onward state (state.failTask reason code task) := by
  unfold State.failTask
  split
  · exact refl state
  · exact setFailed.trans (runDone (run _))

theorem destroy {reason : SystemError} : Onward state (state.destroy conn reason) := by
  have closed : Onward state ((state.cancelResolver conn).closeSocket conn) :=
    (cancel _).trans closeSocket
  unfold State.destroy
  apply Onward.trans _ (modifyConn rfl)
  apply List.foldlRecOn (motive := Onward state) _ _ closed
  intro reached onward entry _
  exact (onward.trans (cancel _)).trans failTask

theorem handleTimeout (error : Option SystemError) :
    Onward state (state.handleTimeout task error) := by
  cases error with
  | some error => exact refl state
  | none =>
      have erased : Onward state (state.modifyConn (state.tasks task).conn fun connection =>
          { connection with
            outgoingTasks := connection.outgoingTasks.erase (state.tasks task).id }) :=
        modifyConn rfl
      unfold State.handleTimeout
      simp only
      split
      · exact (erased.trans failTask).trans destroy
      · exact erased.trans failTask

theorem handleResolve (error : Option SystemError) :
    Onward state (state.handleResolve conn task error).1 := by
  cases error with
  | none => exact asyncConnect
  | some error => exact failTask.trans destroy

theorem startRead (heap : Realloc) (conn : ConnRef) :
    Onward state (state.startRead heap conn).1 := by
  unfold State.startRead
  split
  · exact getStuck
  · next buf expanded grown =>
      have sized : Onward state (state.modifyConn conn fun connection =>
          { connection with buf := buf }) := modifyConn rfl
      simp only
      split
      · exact sized.trans destroy
      · exact sized.trans (startOnSocket _)

theorem handleConnect (heap : Realloc) (error : Option SystemError) :
    Onward state (state.handleConnect heap conn task error).1 := by
  cases error with
  | none =>
      have connected : Onward state (state.modifyConn conn fun connection =>
          { connection with connecting := false }) := by
        refine ⟨fun _ => id, ?_⟩
        intro other set
        rw [State.connections_modifyConn] at set
        split at set
        · cases set
        · exact .inl set
      exact (connected.trans (startCall (run _))).trans (startRead heap conn)
  | some error => exact failTask.trans destroy

theorem handleReadHeader (heap : Realloc) (header : Header) (error : Option SystemError) :
    Onward state (state.handleReadHeader heap conn header error).1 := by
  cases error with
  | some error => exact destroy
  | none =>
      have noted : Onward state (state.modifyConn conn fun connection =>
          { connection with header, n := header.rpcLen + header.reqLen + header.respLen }) :=
        modifyConn rfl
      unfold State.handleReadHeader
      simp only
      split
      · exact noted.trans getStuck
      · next buf expanded grown =>
          split
          · exact (noted.trans (modifyConn rfl)).trans destroy
          · exact (noted.trans (modifyConn rfl)).trans (startOnSocket _)

theorem receivePayload (heap : Realloc) (data : List UInt8) :
    Onward state (state.receivePayload heap conn data).1 := by
  unfold State.receivePayload
  simp only
  split
  · exact destroy
  · next rpcResp _ =>
      split
      · exact startRead heap conn
      · next task _ =>
          have marked : Onward state (state.modifyTask task fun record =>
              { record with state := .done }) := modifyTask
          have learnt := (marked.trans (applyStatus task rpcResp)).trans (parseResponse task
            ((data.drop (state.connections conn).header.rpcLen.toNat).take
              (state.connections conn).header.respLen.toNat))
          have read := learnt.trans (startRead heap conn)
          split
          · next started =>
              rw [started] at read
              exact read
          · next started =>
              rw [started] at read
              exact (read.trans (modifyConn rfl)).trans (finishTask (run _))

theorem handleReadPayload (heap : Realloc) (data : List UInt8) (transferred : Nat)
    (error : Option SystemError) :
    Onward state (state.handleReadPayload heap conn data transferred error).1 := by
  cases error with
  | none => exact receivePayload heap data
  | some error =>
      unfold State.handleReadPayload
      simp only
      split
      · exact receivePayload heap data
      · exact destroy

theorem handleWrite (error : Option SystemError) :
    Onward state (state.handleWrite conn task error).1 := by
  cases error with
  | none =>
      have marked : Onward state (state.modifyTask task fun record =>
          { record with state := .readData }) := modifyTask
      exact marked
  | some error => exact failTask.trans destroy

theorem invoke (op : Op) (error : Option SystemError) (input : Input) :
    Onward state (state.invoke op error input).1 := by
  obtain ⟨conn, kind, status⟩ := op
  cases kind with
  | resolve task => exact handleResolve error
  | connect task => exact handleConnect input.heap error
  | readHeader => exact handleReadHeader input.heap input.header error
  | readPayload => exact handleReadPayload input.heap input.data input.transferred error
  | write task packet sent => exact handleWrite error
  | timer task => exact handleTimeout error

end Onward

section Steps

variable {state : State Msg} {conn : ConnRef} {task : TaskRef} {op : Op}

theorem Attempted.dequeue (attempted : Attempted conn state)
    (other : op.conn ≠ conn ∨ op.kind.isAttempt = false) : Attempted conn (state.dequeue op) := by
  obtain ⟨attempt, member, mine, attempts⟩ := attempted
  have different : attempt ≠ op := by
    intro same
    subst same
    rcases other with foreign | settled
    · exact foreign mine
    · cases attempts.symm.trans settled
  exact ⟨attempt, (List.mem_erase_of_ne different).mpr member, mine, attempts⟩

/-- Only an attempt that ends can leave `connecting_` set without one. -/
theorem Honest.dequeue (honest : Honest state)
    (left : op.kind.isAttempt = true → (state.connections op.conn).connecting = true →
      Attempted op.conn (state.dequeue op)) : Honest (state.dequeue op) := by
  intro conn set
  by_cases foreign : op.conn = conn
  · subst foreign
    cases attempts : op.kind.isAttempt with
    | true => exact left attempts set
    | false => exact (honest op.conn set).dequeue (.inr attempts)
  · exact (honest conn set).dequeue (.inl foreign)

theorem modifyConn_of_same {change : RpcClientConnection → RpcClientConnection}
    (same : change (state.connections conn) = state.connections conn) :
    state.modifyConn conn change = state := by
  simp [State.modifyConn, same]

variable [Protobuf]

/-- A resolve that succeeded is followed by a connect. -/
theorem Honest.handleResolve (honest : Honest state) :
    Honest ((state.dequeue op).handleResolve op.conn task none).1 := by
  have onward : Onward (state.dequeue op) ((state.dequeue op).asyncConnect op.conn task) :=
    .asyncConnect
  intro conn set
  by_cases foreign : op.conn = conn
  · subst foreign
    exact ⟨_, List.mem_append_right _ List.mem_cons_self, rfl, rfl⟩
  · rcases onward.connecting conn set with earlier | begun
    · exact onward.attempted conn ((honest conn earlier).dequeue (.inl foreign))
    · exact begun

/-- A connect that succeeded ends the attempt. -/
theorem Honest.handleConnect (honest : Honest state) (heap : Realloc) :
    Honest ((state.dequeue op).handleConnect heap op.conn task none).1 := by
  have connected : Honest ((state.dequeue op).modifyConn op.conn fun connection =>
      { connection with connecting := false }) := by
    intro conn set
    rw [State.connections_modifyConn] at set
    split at set
    · cases set
    · next foreign => exact (honest conn set).dequeue (.inl (Ne.symm foreign))
  exact ((Onward.startCall (Onward.run _)).trans (Onward.startRead heap op.conn)).honest connected

theorem Honest.handle {input : Input} {next : State Msg} (honest : Honest state)
    (leaves : LeavesAttempt state op) (handled : state.handle op input = some next) :
    Honest next := by
  obtain ⟨error, queued, _, rfl, _⟩ := handle_eq_some handled
  cases error with
  | some error =>
      have failed : op.status ≠ .queued none := by
        rw [queued]
        nofun
      apply (Onward.invoke op (some error) input).honest
      exact honest.dequeue fun attempts set => leaves attempts failed set
  | none =>
      cases attempts : op.kind.isAttempt with
      | false =>
          apply (Onward.invoke op none input).honest
          apply honest.dequeue
          intro attempt
          cases attempt.symm.trans attempts
      | true =>
          obtain ⟨conn, kind, status⟩ := op
          cases kind with
          | resolve task => exact honest.handleResolve
          | connect task => exact honest.handleConnect input.heap
          | readHeader | readPayload | write | timer => cases attempts

theorem Honest.step {next : State Msg} {label : Label Msg} (honest : Honest state)
    (steady : Steady state label) (stepped : state.step label = some next) : Honest next := by
  cases label with
  | callMethod call done =>
      obtain ⟨rfl, _⟩ := settle_eq_some stepped
      exact (Onward.callMethod (Onward.run done) call done).honest honest
  | complete op error =>
      obtain ⟨_, _, change, changes, rfl⟩ := complete_eq_some stepped
      have replaced : Onward state
          (state.replaceOp op { op with status := .queued error }) := .replaceOp rfl rfl
      apply (replaced.trans _).honest honest
      rcases changes with rfl | ⟨_, _, rfl⟩
      · exact .modifyConn rfl
      · exact .modifyConn rfl
  | writeSome op count =>
      obtain ⟨task, packet, sent, kind, _, _, _, _, _, rfl⟩ := writeSome_eq_some stepped
      have replaced : Onward state (state.replaceOp op
          { op with
            kind := .write task packet (sent + count)
            status := if sent + count = packet.length then .queued none else .pending }) := by
        apply Onward.replaceOp
        · rfl
        · rw [kind]
          rfl
      exact (replaced.trans (.modifyConn rfl)).honest honest
  | handle op input => exact honest.handle steady.1 stepped

end Steps

/-- The timer of a completed call expired, and its handler is queued without error. -/
structure LateTimeout (state : State Msg) (op : Op) (task : TaskRef) : Prop where
  member : op ∈ state.ops
  kind : op.kind = .timer task
  expired : op.status = .queued none
  completed : 0 < (state.tasks task).runs

section Runs

variable [Protobuf] [Inhabited Msg] {state : State Msg}

theorem honest_reachable (reached : (channel Msg).ReachableVia Steady state) : Honest state := by
  apply reached.invariant (channel Msg)
  · intro conn set
    cases set
  · intro state label next honest steady stepped
    exact honest.step steady stepped

/-- The table of its connection lists no call under the id of a completed one. -/
theorem unlisted_of_called {task : TaskRef} (reached : (channel Msg).ReachableVia Tidy state)
    (bound : task < state.nextTask) (called : (state.tasks task).called = true) :
    (state.connections (state.tasks task).conn).outgoingTasks.find? (state.tasks task).id =
      none := by
  obtain ⟨base, _, _⟩ := kept_untouched.reachable reached
  apply OrderedMap.find?_eq_none_iff.mpr
  intro other member
  obtain ⟨otherBound, conn, id⟩ := base.sound.entry _ _ member
  have same : other = task := base.sound.id_unique other otherBound task bound conn id
  subst same
  cases called.symm.trans (listed_uncalled reached member)

/-- If besides no connection is made for a completed call and no closure throws, there is
never anything that a late timeout could disturb. -/
theorem steady_of_unhurried
    (reached : (channel Msg).ReachableVia
      (fun state label => Tidy state label ∧ Unhurried state label) state) :
    (channel Msg).ReachableVia Steady state := by
  apply reached.weaken_with (channel Msg)
  intro state label next before steady permitted stepped
  obtain ⟨_, unhurried⟩ := permitted
  cases label with
  | callMethod | complete | writeSome => trivial
  | handle op input =>
      obtain ⟨succeeded, idle⟩ := unhurried
      refine ⟨fun attempts failed _ => succeeded attempts failed, ?_⟩
      intro task kind expired called
      have tidy : (channel Msg).ReachableVia Tidy state :=
        before.weaken (channel Msg) fun _ _ permitted => permitted.1
      have unattempted := idle task kind expired called
      constructor
      · by_contra connecting
        have set := eq_true_of_ne_false connecting
        exact unattempted (honest_reachable steady _ set)
      · obtain ⟨base, _, _⟩ := kept_untouched.reachable tidy
        obtain ⟨_, _, member, _⟩ := handle_eq_some stepped
        have binds : op.kind.role.task? = some task := by
          rw [kind]
          rfl
        have bound := (base.sound.op_task op.bare (List.mem_map_of_mem member) task binds).1
        exact unlisted_of_called tidy bound called

omit [Inhabited Msg] in
/-- The handler of a timeout without anything to disturb does nothing for a call that
was completed. -/
theorem handleTimeout_of_called {task : TaskRef} (called : (state.tasks task).called = true)
    (nothing : NothingToDisturb state task) : state.handleTimeout task none = state := by
  obtain ⟨idle, unlisted⟩ := nothing
  have erased : (state.modifyConn (state.tasks task).conn fun connection =>
      { connection with
        outgoingTasks := connection.outgoingTasks.erase (state.tasks task).id }) = state := by
    apply modifyConn_of_same
    rw [OrderedMap.erase_of_find?_eq_none unlisted]
  simp only [State.handleTimeout, erased, State.failTask, called, if_true, idle]
  rfl

/-- Timers of completed calls are harmless. -/
theorem late_timeouts_harmless (reached : (channel Msg).ReachableVia Steady state) :
    Honest state ∧ ∀ op task input, LateTimeout state op task →
      Steady state (.handle op input) → state.handle op input = some (state.dequeue op) := by
  refine ⟨honest_reachable reached, ?_⟩
  intro op task input late steady
  obtain ⟨base, _, unstuck⟩ := (kept_nothing fun _ _ => True).reachable
    (reached.reachable (channel Msg))
  have binds : op.kind.role.task? = some task := by
    rw [late.kind]
    rfl
  have bound := (base.sound.op_task op.bare (List.mem_map_of_mem late.member) task binds).1
  have called : (state.tasks task).called = true := by
    by_contra uncalled
    have fresh := base.sound.runs_zero bound (eq_false_of_ne_true uncalled) List.not_mem_nil
    exact absurd fresh (Nat.ne_of_gt late.completed)
  have nothing := steady.2 task late.kind late.expired called
  have kept : (state.dequeue op).handleTimeout task none = state.dequeue op :=
    handleTimeout_of_called called nothing
  simp only [State.handle, late.expired, late.member, if_true, State.invoke, late.kind, kept]
  exact if_neg (ne_true_of_eq_false unstuck)

end Runs

/-- The handler of an expired timer of the first call. -/
def firstTimer : Op := ⟨0, .timer 0, .queued none⟩

/-- The timer that was set for the attempt expires before the call is sent and its
handler completes the call, whose other timer expires then. -/
theorem late_timeouts_harmless_twice :
    ∃ state : State (List UInt8), (channel (List UInt8)).Reachable state ∧
      LateTimeout state firstTimer 0 ∧
      state.handle firstTimer .silent = some (state.dequeue firstTimer) := by
  have observed : ((channel (List UInt8)).runVia Steady
      [.callMethod (sampleCall 50 [1]) .returns,
        .complete ⟨0, .timer 0, .pending⟩ none,
        .complete ⟨0, .resolve 0, .pending⟩ none,
        .handle ⟨0, .resolve 0, .queued none⟩ .silent,
        .complete ⟨0, .connect 0, .pending⟩ none,
        .handle ⟨0, .connect 0, .queued none⟩ .silent,
        .handle firstTimer .silent,
        .complete ⟨0, .timer 0, .pending⟩ none]
      (channel (List UInt8)).initial).map
      (fun state => (decide (firstTimer ∈ state.ops), (state.tasks 0).runs,
        decide (Steady state (.handle firstTimer .silent)))) = some (true, 1, true) := by
    decide +kernel
  obtain ⟨state, reached, same⟩ := (channel (List UInt8)).exists_reachableVia_of_run observed
  simp only [Prod.mk.injEq, decide_eq_true_eq] at same
  obtain ⟨member, ran, steady⟩ := same
  have late : LateTimeout state firstTimer 0 := by
    refine ⟨member, rfl, rfl, ?_⟩
    rw [ran]
    exact Nat.one_pos
  have harmless := (late_timeouts_harmless reached).2 firstTimer 0 .silent late steady
  exact ⟨state, reached.reachable (channel (List UInt8)), late, harmless⟩

/-- The name of the first call is not resolved. Nothing is under way then, yet
`connecting_` stays set, and the timer of that call aborts the attempt for the next. -/
theorem late_timeout_aborts_attempt :
    (∃ state : State (List UInt8), (channel (List UInt8)).Reachable state ∧ ¬ Honest state) ∧
      ∃ state next : State (List UInt8), (channel (List UInt8)).Reachable state ∧
        LateTimeout state firstTimer 0 ∧ state.handle firstTimer .silent = some next ∧
        ⟨0, .resolve 1, .pending⟩ ∈ state.ops ∧
        ⟨0, .resolve 1, .queued (some .operationAborted)⟩ ∈ next.ops ∧
        ⟨0, .resolve 1, .pending⟩ ∉ next.ops := by
  constructor
  · have observed : ((channel (List UInt8)).run
        [.callMethod (sampleCall 50 [1]) .returns,
          .complete ⟨0, .resolve 0, .pending⟩ (some .eof),
          .handle ⟨0, .resolve 0, .queued (some .eof)⟩ .silent]
        (channel (List UInt8)).initial).map
        (fun state => ((state.connections 0).connecting, decide (Attempted 0 state))) =
        some (true, false) := by
      decide
    obtain ⟨state, reached, same⟩ := (channel (List UInt8)).exists_reachable_of_run observed
    simp only [Prod.mk.injEq, decide_eq_false_iff_not] at same
    exact ⟨state, reached, fun honest => same.2 (honest 0 same.1)⟩
  · have observed : ((channel (List UInt8)).run
        [.callMethod (sampleCall 50 [1]) .returns,
          .complete ⟨0, .resolve 0, .pending⟩ (some .eof),
          .handle ⟨0, .resolve 0, .queued (some .eof)⟩ .silent,
          .callMethod (sampleCall timeoutNever [2]) .returns,
          .complete ⟨0, .timer 0, .pending⟩ none]
        (channel (List UInt8)).initial).map
        (fun state => ((state.tasks 0).runs, state.ops,
          (state.handle firstTimer .silent).map (·.ops))) =
        some (1, [⟨0, .resolve 1, .pending⟩, firstTimer],
          some [⟨0, .resolve 1, .queued (some .operationAborted)⟩]) := by
      decide
    obtain ⟨state, reached, same⟩ := (channel (List UInt8)).exists_reachable_of_run observed
    simp only [Prod.mk.injEq, Option.map_eq_some_iff] at same
    obtain ⟨ran, ops, next, handled, left⟩ := same
    have late : LateTimeout state firstTimer 0 := by
      refine ⟨?_, rfl, rfl, ?_⟩
      · rw [ops]
        decide
      · rw [ran]
        exact Nat.one_pos
    refine ⟨state, next, reached, late, handled, ?_, ?_, ?_⟩
    · rw [ops]
      decide
    · rw [left]
      decide
    · rw [left]
      decide

end CarrotRpc.Client
