import CarrotRpc.Client.Completion
import CarrotRpc.Client.Returning

/-! Calls with a deadline. As long as such a call is open its timer is set, whatever the
connection goes through and whoever cancels timers, and the handler of the expired timer
completes the call. -/

set_option autoImplicit false

namespace CarrotRpc.Client

open Library Common Protob

variable {Msg : Type}

/-- The call has a deadline and its closure was not invoked. -/
def CallTask.Due (record : CallTask Msg) : Prop :=
  record.called = false ∧ record.runs = 0 ∧ record.controller.timeout ≠ timeoutNever

/-- The wait goes on, or it ended because the timer expired. -/
def OpStatus.Expires (status : OpStatus) : Prop :=
  status = .pending ∨ status = .queued none

/-- The timer of the call is pending, or it expired and its handler is queued. -/
def Armed (state : State Msg) (task : TaskRef) : Prop :=
  ∃ op ∈ state.ops, op.kind = .timer task ∧ op.status.Expires

/-- The timer of every open call with a deadline is set, that of the spared call apart. -/
def Watched (spare : Option TaskRef) (state : State Msg) : Prop :=
  state.stuck = false →
    ∀ task < state.nextTask, spare ≠ some task → (state.tasks task).Due → Armed state task

/-- A wait on a timer fails only where the program cancels it. -/
def Punctual (_ : State Msg) : Label Msg → Prop
  | .complete op error => op.kind.isTimer = true → error = none
  | .callMethod _ _ | .writeSome _ _ | .handle _ _ => True

instance (state : State Msg) (label : Label Msg) : Decidable (Punctual state label) :=
  match label with
  | .complete op error => inferInstanceAs (Decidable (op.kind.isTimer = true → error = none))
  | .callMethod _ _ | .writeSome _ _ | .handle _ _ => .isTrue trivial

namespace Armed

variable {state : State Msg} {task other : TaskRef}

theorem start (armed : Armed state task) (op : Op) : Armed (state.start op) task := by
  obtain ⟨timer, member, kind, expires⟩ := armed
  exact ⟨timer, List.mem_append_left _ member, kind, expires⟩

/-- Cancelling other operations leaves the timer set. -/
theorem cancel {selected : Op → Bool} (armed : Armed state task)
    (others : ∀ op, op.kind = .timer task → selected op = false) :
    Armed (state.cancel selected) task := by
  obtain ⟨timer, member, kind, expires⟩ := armed
  refine ⟨timer, ?_, kind, expires⟩
  have kept : (if selected timer then State.abort timer else timer) = timer := by
    rw [others timer kind]
    rfl
  have mapped := List.mem_map_of_mem
    (f := fun op => if selected op then State.abort op else op) member
  rw [kept] at mapped
  exact mapped

theorem dequeue {op : Op} (armed : Armed state task)
    (other : op.kind = .timer task → ¬ op.status.Expires) : Armed (state.dequeue op) task := by
  obtain ⟨timer, member, kind, expires⟩ := armed
  have different : timer ≠ op := by
    rintro rfl
    exact other kind expires
  exact ⟨timer, (List.mem_erase_of_ne different).mpr member, kind, expires⟩

theorem replaceOp {op replacement : Op} (armed : Armed state task)
    (same : op.kind = .timer task → replacement.kind = .timer task ∧ replacement.status.Expires) :
    Armed (state.replaceOp op replacement) task := by
  obtain ⟨timer, member, kind, expires⟩ := armed
  by_cases replaced : timer = op
  · subst replaced
    obtain ⟨kind, expires⟩ := same kind
    exact ⟨replacement, List.mem_append_right _ List.mem_cons_self, kind, expires⟩
  · have kept : timer ∈ state.ops.erase op := (List.mem_erase_of_ne replaced).mpr member
    exact ⟨timer, List.mem_append_left _ kept, kind, expires⟩

end Armed

namespace Watched

variable {state : State Msg} {spare : Option TaskRef} {conn : ConnRef} {task : TaskRef}

theorem weaken (watched : Watched none state) : Watched spare state :=
  fun unstuck other bound _ due => watched unstuck other bound (by rintro ⟨⟩) due

/-- Whatever else changes, calls do not become due, and timers stay set. -/
theorem mono {next : State Msg} (watched : Watched spare state)
    (stuck : next.stuck = state.stuck) (count : next.nextTask = state.nextTask)
    (due : ∀ other < state.nextTask, spare ≠ some other → (next.tasks other).Due →
      (state.tasks other).Due)
    (armed : ∀ other, spare ≠ some other → Armed state other → Armed next other) :
    Watched spare next := by
  intro unstuck other bound ordinary open'
  rw [stuck] at unstuck
  rw [count] at bound
  exact armed other ordinary (watched unstuck other bound ordinary (due other bound ordinary open'))

theorem modifyTask {change : CallTask Msg → CallTask Msg} (watched : Watched spare state)
    (due : spare ≠ some task → (change (state.tasks task)).Due → (state.tasks task).Due) :
    Watched spare (state.modifyTask task change) := by
  refine watched.mono ?_ ?_ ?_ fun _ _ armed => armed
  · rfl
  · rfl
  intro other _ ordinary open'
  rw [State.tasks_modifyTask] at open'
  split at open'
  · next same =>
      rw [same] at ordinary ⊢
      exact due ordinary open'
  · exact open'

/-- A call that is no longer due needs no timer. -/
theorem settle {change : CallTask Msg → CallTask Msg} (watched : Watched (some task) state)
    (settled : ¬ (change (state.tasks task)).Due) :
    Watched none (state.modifyTask task change) := by
  intro unstuck other bound _ open'
  rw [State.tasks_modifyTask] at open'
  split at open'
  · exact absurd open' settled
  · next different =>
      refine watched unstuck other bound ?_ open'
      rintro ⟨⟩
      exact different rfl

theorem modifyConn {change : RpcClientConnection → RpcClientConnection}
    (watched : Watched spare state) : Watched spare (state.modifyConn conn change) :=
  watched

theorem getStuck : Watched spare { state with stuck := true } := by
  rintro ⟨⟩

theorem start (watched : Watched spare state) (op : Op) : Watched spare (state.start op) :=
  watched.mono rfl rfl (fun _ _ _ due => due) fun _ _ armed => armed.start op

theorem startOnSocket (watched : Watched spare state) (kind : OpKind) :
    Watched spare (state.startOnSocket conn kind) :=
  watched.start _

theorem cancel {selected : Op → Bool} (watched : Watched spare state)
    (others : ∀ op, op.kind.isTimer = true → selected op = false) :
    Watched spare (state.cancel selected) := by
  refine watched.mono ?_ ?_ (fun _ _ _ due => due) ?_
  · rfl
  · rfl
  intro other _ armed
  apply armed.cancel
  intro op kind
  apply others
  rw [kind]
  rfl

/-- The timer of a call may be cancelled if the call is spared. -/
theorem cancelTimer (watched : Watched (some task) state) :
    Watched (some task) (state.cancelTimer task) := by
  refine watched.mono ?_ ?_ (fun _ _ _ due => due) ?_
  · rfl
  · rfl
  intro other ordinary armed
  apply armed.cancel
  intro op kind
  apply decide_eq_false
  rw [kind]
  rintro ⟨⟩
  exact ordinary rfl

theorem closeSocket (watched : Watched spare state) : Watched spare (state.closeSocket conn) := by
  have closed : Watched spare
      (state.cancel fun op => op.conn = conn && op.kind.usesSocket) := by
    apply watched.cancel
    intro op timer
    cases kind : op.kind with
    | timer task => simp [OpKind.usesSocket]
    | resolve | connect | readHeader | readPayload | write =>
        rw [kind] at timer
        cases timer
  exact closed

theorem cancelResolver (watched : Watched spare state) :
    Watched spare (state.cancelResolver conn) := by
  apply watched.cancel
  intro op timer
  cases kind : op.kind with
  | timer task => simp [OpKind.isResolve]
  | resolve | connect | readHeader | readPayload | write =>
      rw [kind] at timer
      cases timer

theorem borrow (watched : Watched spare state) : Watched spare (state.borrow task) :=
  watched.modifyTask fun _ due => due

theorem setFailed {reason : String} {code : ErrorCode} (watched : Watched spare state) :
    Watched spare (state.setFailed task reason code) :=
  watched.borrow.modifyTask fun _ due => due

theorem setupTaskTimer (watched : Watched (some task) state) :
    Watched none (state.setupTaskTimer task) := by
  have lent : Watched (some task) (state.borrow task) := watched.borrow
  unfold State.setupTaskTimer
  simp only
  split
  · next timed =>
      intro unstuck other bound _ due
      by_cases same : other = task
      · subst same
        exact ⟨_, List.mem_append_right _ List.mem_cons_self, rfl, .inl rfl⟩
      · refine (lent.cancelTimer unstuck other bound ?_ due).start _
        rintro ⟨⟩
        exact same rfl
  · next untimed =>
      intro unstuck other bound _ due
      by_cases same : other = task
      · subst same
        exact absurd due.2.2 untimed
      · refine lent unstuck other bound ?_ due
        rintro ⟨⟩
        exact same rfl

theorem newTask (watched : Watched none state) (call : Call Msg) (done : Closure Msg) :
    Watched (some state.nextTask) (state.newTask conn call done) := by
  intro unstuck other bound ordinary due
  have different : other ≠ state.nextTask := by
    rintro rfl
    exact ordinary rfl
  have older : other < state.nextTask := Nat.lt_of_le_of_ne (Nat.le_of_lt_succ bound) different
  rw [State.tasks_newTask_of_ne different] at due
  exact watched unstuck other older (by rintro ⟨⟩) due

theorem openConnection (watched : Watched spare state) (host service : String) :
    Watched spare (state.openConnection host service) :=
  watched

theorem asyncConnect (watched : Watched spare state) :
    Watched spare (state.asyncConnect conn task) :=
  watched.closeSocket.start _

theorem applyStatus (watched : Watched spare state) (task : TaskRef) (rpcResp : Response) :
    Watched spare (state.applyStatus task rpcResp) := by
  unfold State.applyStatus
  cases rpcResp.getStatus with
  | notFound | error | failed => exact watched.setFailed
  | success => exact watched

theorem parseResponse (watched : Watched spare state) (task : TaskRef) (bytes : List UInt8) :
    Watched spare (state.parseResponse task bytes) := by
  have lent : Watched spare (state.borrow task) := watched.borrow
  unfold State.parseResponse
  simp only
  split
  · exact lent.modifyTask fun _ due => due
  · exact lent.setFailed

end Watched

/-- What keeps every timer that is needed set. -/
def Watchful (body : State Msg → State Msg) : Prop :=
  ∀ state, Watched none state → Watched none (body state)

namespace Watched

variable {state : State Msg} {body : State Msg → State Msg} {conn : ConnRef} {task : TaskRef}

theorem runDone (watched : Watched (some task) state) (watchful : Watchful body) :
    Watched none (state.runDone body task) := by
  have begun : Watched none ((state.borrow task).modifyTask task fun record =>
      { record with runs := record.runs + 1 }) := by
    apply watched.borrow.settle
    rintro ⟨_, ran, _⟩
    exact Nat.succ_ne_zero _ ran
  have ran := watchful _ begun
  have marked : ∀ ended : State Msg, Watched none ended →
      Watched none (ended.modifyTask task fun record => { record with called := true }) := by
    intro ended watched
    apply watched.modifyTask
    rintro _ ⟨uncalled, _⟩
    cases uncalled
  unfold State.runDone
  simp only
  split
  · exact marked _ ran
  · exact marked _ ran.setFailed

theorem finishTask (watched : Watched (some task) state) (watchful : Watchful body) :
    Watched none (state.finishTask body task) := by
  have cancelled := watched.cancelTimer
  unfold State.finishTask
  simp only
  split
  · next called =>
      intro unstuck other bound _ due
      refine cancelled unstuck other bound ?_ due
      rintro ⟨⟩
      cases called.symm.trans due.1
  · exact cancelled.runDone watchful

variable [Protobuf]

/-- A call is either sent, with its timer set, or completed at once. -/
theorem startCall (watched : Watched (some task) state) (watchful : Watchful body) :
    Watched none (state.startCall body task) := by
  have lent : Watched (some task) (state.borrow task) := watched.borrow
  unfold State.startCall
  simp only
  split
  · exact getStuck
  · next buf expanded grown =>
      have sized : Watched (some task) ((state.borrow task).modifyTask task fun record =>
          { record with buf := buf }) := lent.modifyTask fun _ due => due
      split
      · exact sized.setFailed.finishTask watchful
      split
      · exact sized.setFailed.finishTask watchful
      split
      · exact sized.setFailed.finishTask watchful
      · apply startOnSocket
        refine modifyTask ?_ fun _ due => due
        exact sized.modifyConn.setupTaskTimer

theorem issue (watched : Watched none state) (watchful : Watchful body) (call : Call Msg)
    (done : Closure Msg) : Watched none (state.issue body conn call done) := by
  have added : Watched (some state.nextTask) (state.newTask conn call done) :=
    watched.newTask call done
  unfold State.issue
  simp only
  split
  · apply setupTaskTimer
    refine modifyTask ?_ fun _ due => due
    exact (added.start _).modifyConn
  · exact added.startCall watchful

theorem callMethod (watched : Watched none state) (watchful : Watchful body) (call : Call Msg)
    (done : Closure Msg) : Watched none (state.callMethod body call done) := by
  unfold State.callMethod
  simp only
  split
  · exact (watched.openConnection _ _).issue watchful call done
  · exact watched.issue watchful call done

theorem run (done : Closure Msg) : Watchful done.run := by
  induction done with
  | returns => exact fun _ watched => watched
  | throws what => exact fun _ watched => watched
  | callMethod call done next inner outer =>
      exact fun state watched => outer _ (watched.callMethod inner call done)

theorem failTask {reason : String} {code : ErrorCode} (watched : Watched (some task) state) :
    Watched none (state.failTask reason code task) := by
  unfold State.failTask
  split
  · next called =>
      intro unstuck other bound _ due
      refine watched unstuck other bound ?_ due
      rintro ⟨⟩
      cases called.symm.trans due.1
  · exact watched.setFailed.runDone (run _)

/-- `destroy` completes the calls whose timers it cancels. -/
theorem destroy {reason : SystemError} (watched : Watched none state) :
    Watched none (state.destroy conn reason) := by
  have closed : Watched none ((state.cancelResolver conn).closeSocket conn) :=
    watched.cancelResolver.closeSocket
  unfold State.destroy
  simp only
  apply modifyConn
  apply List.foldlRecOn (motive := Watched none) _ _ closed
  intro reached watched entry _
  exact watched.weaken.cancelTimer.failTask

theorem startRead (watched : Watched none state) (heap : Realloc) (conn : ConnRef) :
    Watched none (state.startRead heap conn).1 := by
  unfold State.startRead
  split
  · exact getStuck
  · next buf expanded grown =>
      simp only
      split
      · exact watched.modifyConn.destroy
      · exact watched.modifyConn.startOnSocket _

theorem handleTimeout {error : Option SystemError}
    (expired : error = none → Watched (some task) state) (watched : error ≠ none → Watched none state) :
    Watched none (state.handleTimeout task error) := by
  cases error with
  | some error => exact watched (by rintro ⟨⟩)
  | none =>
      have failed : ∀ reason code, Watched none
          ((state.modifyConn (state.tasks task).conn fun connection =>
            { connection with
              outgoingTasks := connection.outgoingTasks.erase (state.tasks task).id }).failTask
                reason code task) :=
        fun _ _ => (expired rfl).modifyConn.failTask
      unfold State.handleTimeout
      simp only
      split
      · exact (failed _ _).destroy
      · exact failed _ _

theorem handleResolve (watched : Watched none state) (error : Option SystemError) :
    Watched none (state.handleResolve conn task error).1 := by
  cases error with
  | none => exact watched.asyncConnect
  | some error => exact watched.weaken.failTask.destroy

theorem handleConnect (watched : Watched none state) (heap : Realloc)
    (error : Option SystemError) :
    Watched none (state.handleConnect heap conn task error).1 := by
  cases error with
  | none => exact (watched.modifyConn.weaken.startCall (run _)).startRead heap conn
  | some error => exact watched.weaken.failTask.destroy

theorem handleReadHeader (watched : Watched none state) (heap : Realloc) (header : Header)
    (error : Option SystemError) :
    Watched none (state.handleReadHeader heap conn header error).1 := by
  cases error with
  | some error => exact watched.destroy
  | none =>
      unfold State.handleReadHeader
      simp only
      split
      · exact getStuck
      · next buf expanded grown =>
          split
          · exact watched.modifyConn.modifyConn.destroy
          · exact watched.modifyConn.modifyConn.startOnSocket _

theorem receivePayload (watched : Watched none state) (heap : Realloc) (data : List UInt8) :
    Watched none (state.receivePayload heap conn data).1 := by
  unfold State.receivePayload
  simp only
  split
  · exact watched.destroy
  · next rpcResp _ =>
      split
      · exact watched.startRead heap conn
      · next task _ =>
          have marked : Watched none (state.modifyTask task fun record =>
              { record with state := .done }) := watched.modifyTask fun _ due => due
          have learnt := (marked.applyStatus task rpcResp).parseResponse task
            ((data.drop (state.connections conn).header.rpcLen.toNat).take
              (state.connections conn).header.respLen.toNat)
          have read := learnt.startRead heap conn
          split
          · next started =>
              rw [started] at read
              exact read
          · next started =>
              rw [started] at read
              exact read.modifyConn.weaken.finishTask (run _)

theorem handleReadPayload (watched : Watched none state) (heap : Realloc) (data : List UInt8)
    (transferred : Nat) (error : Option SystemError) :
    Watched none (state.handleReadPayload heap conn data transferred error).1 := by
  cases error with
  | none => exact watched.receivePayload heap data
  | some error =>
      unfold State.handleReadPayload
      simp only
      split
      · exact watched.receivePayload heap data
      · exact watched.destroy

theorem handleWrite (watched : Watched none state) (error : Option SystemError) :
    Watched none (state.handleWrite conn task error).1 := by
  cases error with
  | none => exact watched.modifyTask fun _ due => due
  | some error => exact watched.weaken.failTask.destroy

end Watched

/-- The call is left alone; others may be made. -/
structure LeftAlone (task : TaskRef) (before after : State Msg) : Prop where
  same : after.tasks task = before.tasks task
  count : before.nextTask ≤ after.nextTask

section TimingOut

variable [Protobuf] {before middle after state : State Msg} {conn : ConnRef} {task : TaskRef}

omit [Protobuf] in
theorem LeftAlone.trans (first : LeftAlone task before middle)
    (second : LeftAlone task middle after) : LeftAlone task before after :=
  ⟨second.same.trans first.same, first.count.trans second.count⟩

end TimingOut

section Steps

variable [Protobuf] {state next : State Msg} {op : Op}

omit [Protobuf] in
/-- The handler of an expired timer takes the timer of its call away. -/
theorem Watched.dequeue_timer {task : TaskRef} (watched : Watched none state)
    (kind : op.kind = .timer task) : Watched (some task) (state.dequeue op) := by
  intro unstuck other bound ordinary due
  refine (watched unstuck other bound (by rintro ⟨⟩) due).dequeue ?_
  intro same
  cases kind.symm.trans same
  exact absurd rfl ordinary

omit [Protobuf] in
theorem Watched.dequeue (watched : Watched none state)
    (spent : op.kind.isTimer = true → ¬ op.status.Expires) :
    Watched none (state.dequeue op) := by
  intro unstuck other bound ordinary due
  refine (watched unstuck other bound ordinary due).dequeue ?_
  intro kind
  apply spent
  rw [kind]
  rfl

theorem Watched.invoke {error : Option SystemError} {input : Input}
    (watched : Watched none state) (queued : op.status = .queued error) :
    Watched none ((state.dequeue op).invoke op error input).1 := by
  have other : op.kind.isTimer = false → Watched none (state.dequeue op) := by
    intro plain
    apply watched.dequeue
    intro timer
    cases plain.symm.trans timer
  obtain ⟨conn, kind, status⟩ := op
  cases kind with
  | resolve task => exact (other rfl).handleResolve error
  | connect task => exact (other rfl).handleConnect input.heap error
  | readHeader => exact (other rfl).handleReadHeader input.heap input.header error
  | readPayload =>
      exact (other rfl).handleReadPayload input.heap input.data input.transferred error
  | write task packet sent => exact (other rfl).handleWrite error
  | timer task =>
      apply Watched.handleTimeout
      · exact fun _ => watched.dequeue_timer rfl
      · intro failed
        apply watched.dequeue
        rintro _ (pending | expired)
        · cases queued.symm.trans pending
        · have same : OpStatus.queued error = .queued none := queued.symm.trans expired
          exact failed (OpStatus.queued.inj same)

theorem Watched.step {label : Label Msg} (watched : Watched none state)
    (punctual : Punctual state label) (stepped : state.step label = some next) :
    Watched none next := by
  cases label with
  | callMethod call done =>
      obtain ⟨rfl, _⟩ := settle_eq_some stepped
      exact watched.callMethod (.run done) call done
  | complete op error =>
      obtain ⟨_, _, change, _, rfl⟩ := complete_eq_some stepped
      apply Watched.modifyConn
      refine watched.mono ?_ ?_ (fun _ _ _ due => due) ?_
      · rfl
      · rfl
      · intro task _ armed
        apply armed.replaceOp
        intro kind
        refine ⟨kind, .inr ?_⟩
        rw [punctual (by rw [kind]; rfl)]
  | writeSome op count =>
      obtain ⟨task, packet, sent, write, _, _, _, _, _, rfl⟩ := writeSome_eq_some stepped
      apply Watched.modifyConn
      refine watched.mono ?_ ?_ (fun _ _ _ due => due) ?_
      · rfl
      · rfl
      · intro other _ armed
        apply armed.replaceOp
        intro kind
        cases write.symm.trans kind
  | handle op input =>
      obtain ⟨error, queued, _, rfl, _⟩ := handle_eq_some stepped
      exact watched.invoke queued

variable [Inhabited Msg]

end Steps

end CarrotRpc.Client
