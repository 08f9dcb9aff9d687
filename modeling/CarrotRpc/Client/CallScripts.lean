import CarrotRpc.Client.HandlerSteps

/-! `CallMethod`, the closures that call it and the functions below it, as
sequences of steps. -/

set_option autoImplicit false

namespace CarrotRpc.Client

open Library Common Protob

variable {Msg : Type}

abbrev CallScript (careful : Prop) (before after : Duty × State Msg) : Prop :=
  Relation.ReflTransGen (CallStep careful) before after

theorem Base.callScript {careful : Prop} {before after : Duty × State Msg}
    (base : Base careful before) (script : CallScript careful before after) :
    Base careful after := by
  induction script with
  | refl => exact base
  | tail _ step ih => exact ih.callStep step

/-- The closure may run at any time. -/
def BodyScript (careful : Prop) (body : State Msg → State Msg) : Prop :=
  ∀ duty state, Base careful (duty, state) → CallScript careful (duty, state) (duty, body state)

namespace State

theorem setupTaskTimer_modifyConn (state : State Msg) (task : TaskRef) (conn : ConnRef)
    (change : RpcClientConnection → RpcClientConnection) :
    (state.modifyConn conn change).setupTaskTimer task =
      (state.setupTaskTimer task).modifyConn conn change := by
  unfold setupTaskTimer
  simp only
  split
  · next armed =>
      have same : ((state.borrow task).tasks task).controller.timeout ≠ timeoutNever := armed
      rw [if_pos same]
      rfl
  · next unarmed =>
      have same : ¬ ((state.borrow task).tasks task).controller.timeout ≠ timeoutNever := unarmed
      rw [if_neg same]
      rfl

theorem tasks_setupTaskTimer (state : State Msg) (task : TaskRef) :
    (state.setupTaskTimer task).tasks = (state.borrow task).tasks := by
  unfold setupTaskTimer
  simp only
  split <;> rfl

theorem connections_setupTaskTimer (state : State Msg) (task : TaskRef) :
    (state.setupTaskTimer task).connections = state.connections := by
  unfold setupTaskTimer
  simp only
  split <;> rfl

theorem nextTask_setupTaskTimer (state : State Msg) (task : TaskRef) :
    (state.setupTaskTimer task).nextTask = state.nextTask := by
  unfold setupTaskTimer
  simp only
  split <;> rfl

theorem unsent_setupTaskTimer {state : State Msg} {task other : TaskRef}
    (unsent : state.ledger.Unsent other) :
    (state.setupTaskTimer task).ledger.Unsent other := by
  unfold setupTaskTimer
  simp only
  split
  · rw [ledger_start, cancelTimer, ledger_cancel, ledger_borrow]
    refine ⟨?_, unsent.2⟩
    simpa [Ledger.attempts, Ledger.start, Role.attempts, OpKind.role] using unsent.1
  · rw [ledger_borrow]
    exact unsent

theorem listed_borrow {state : State Msg} {task : TaskRef}
    (listed : (state.borrow task).Listed task) : state.Listed task := by
  simpa [Listed, borrow] using listed

end State

/-! Facts that last while closures run. -/

section Lasting

variable {careful : Prop} {before after : Duty × State Msg}

/-- Facts about a task that running, ending and sending it keep. -/
structure Lasting (fact : TaskEntry → Prop) : Prop where
  begins : ∀ entry, fact entry → entry.runs = 0 → fact { entry with runs := entry.runs + 1 }
  ends : ∀ entry, fact entry → fact { entry with called := true }
  sends : ∀ entry, fact entry → fact { entry with writes := entry.writes + 1 }

def Holds (fact : TaskEntry → Prop) (task : TaskRef) (state : State Msg) : Prop :=
  task < state.nextTask ∧ fact (state.tasks task).entry

/-- The closure of the task was started. -/
abbrev Ran (task : TaskRef) (state : State Msg) : Prop :=
  Holds (fun entry => entry.runs = 1) task state

theorem lasting_ran : Lasting fun entry => entry.runs = 1 where
  begins entry ran fresh := by cases fresh.symm.trans ran
  ends _ ran := ran
  sends _ ran := ran

theorem lasting_identity (conn : ConnRef) (id : Nat) :
    Lasting fun entry => entry.conn = conn ∧ entry.id = id where
  begins _ same _ := same
  ends _ same := same
  sends _ same := same

/-- The connection is closed and has the given outgoing tasks. -/
structure Resting (conn : ConnRef) (outgoing : OrderedMap Nat TaskRef) (state : State Msg) :
    Prop where
  known : conn < state.nextConn
  closed : (state.connections conn).socket.isOpen = false
  outgoing : (state.connections conn).outgoingTasks = outgoing

theorem holds_modifyTask {fact : TaskEntry → Prop} {task other : TaskRef} {state : State Msg}
    {change : CallTask Msg → CallTask Msg} (holds : Holds fact other state)
    (keeps : fact (state.tasks task).entry → fact (change (state.tasks task)).entry) :
    Holds fact other (state.modifyTask task change) := by
  refine ⟨holds.1, ?_⟩
  rw [State.tasks_modifyTask]
  split
  · next same => exact keeps (same ▸ holds.2)
  · exact holds.2

theorem CallStep.holds {fact : TaskEntry → Prop} {task : TaskRef} (lasting : Lasting fact)
    (step : CallStep careful before after) (holds : Holds fact task before.2) :
    Holds fact task after.2 := by
  cases step with
  | noteConn | cancelTimer | startTimer | openConnection | startResolve | drop | hang =>
      exact holds
  | borrow => exact holds_modifyTask holds fun same => same
  | note keeps => exact holds_modifyTask holds fun same => State.entry_of_core keeps ▸ same
  | newTask known tame =>
      refine ⟨Nat.lt_succ_of_lt holds.1, ?_⟩
      rw [State.tasks_newTask_of_ne (Nat.ne_of_lt holds.1)]
      exact holds.2
  | send bound unsent fresh active sized =>
      refine ⟨holds.1, ?_⟩
      rw [State.tasks_sendPacket]
      split
      · next same => exact lasting.sends _ (same ▸ holds.2)
      · exact holds.2
  | beginDone bound fresh unlisted =>
      exact holds_modifyTask holds fun same => lasting.begins _ same fresh
  | endDone => exact holds_modifyTask holds fun same => lasting.ends _ same

theorem CallScript.holds {fact : TaskEntry → Prop} {task : TaskRef} (lasting : Lasting fact)
    (script : CallScript careful before after) (holds : Holds fact task before.2) :
    Holds fact task after.2 := by
  induction script with
  | refl => exact holds
  | tail _ step ih => exact step.holds lasting ih

theorem CallScript.nextConn_le (script : CallScript careful before after) :
    before.2.nextConn ≤ after.2.nextConn := by
  induction script with
  | refl => exact Nat.le_refl _
  | tail _ step ih =>
      cases step with
      | openConnection fresh => exact Nat.le_succ_of_le ih
      | borrow | note | noteConn | cancelTimer | startTimer | newTask | startResolve | send
      | beginDone | endDone | drop | hang => exact ih

theorem CallStep.doomed_eq (step : CallStep careful before after) :
    after.1.doomed = before.1.doomed := by
  cases step <;> rfl

theorem CallStep.resting {conn : ConnRef} {outgoing : OrderedMap Nat TaskRef}
    (step : CallStep careful before after) (doomed : conn ∈ before.1.doomed)
    (resting : Resting conn outgoing before.2) : Resting conn outgoing after.2 := by
  obtain ⟨known, closed, outgoing_eq⟩ := resting
  cases step with
  | borrow | note | cancelTimer | startTimer | startResolve | beginDone | endDone | drop
  | hang => exact ⟨known, closed, outgoing_eq⟩
  | @noteConn duty state other change keeps =>
      refine ⟨known, ?_, ?_⟩
      · rw [State.connections_modifyConn]
        split
        · next same =>
            exact (congrArg ConnEntry.isOpen (State.connEntry_of_core keeps)).trans
              (same ▸ closed)
        · exact closed
      · rw [State.connections_modifyConn]
        split
        · next same =>
            exact (congrArg ConnEntry.outgoingTasks (State.connEntry_of_core keeps)).trans
              (same ▸ outgoing_eq)
        · exact outgoing_eq
  | openConnection fresh =>
      have old : ∀ state : State Msg, ∀ host service, conn < state.nextConn →
          (state.openConnection host service).connections conn = state.connections conn :=
        fun state host service known => Function.update_of_ne (Nat.ne_of_lt known) _ _
      refine ⟨Nat.lt_succ_of_lt known, ?_, ?_⟩
      · rw [old _ _ _ known]
        exact closed
      · rw [old _ _ _ known]
        exact outgoing_eq
  | @newTask hand serving running others state other call done otherKnown tame =>
      have same : ((state.newTask other call done).connections conn).core =
          { (state.connections conn).core with
            id := ((state.newTask other call done).connections conn).id } := by
        simp only [State.newTask, State.connections_modifyConn]
        split
        · next equal => rw [equal]; rfl
        · rfl
      exact ⟨known, (congrArg (·.socket.isOpen) same).trans closed,
        (congrArg (·.outgoingTasks) same).trans outgoing_eq⟩
  | @send hand serving running others state task packet bound unsent fresh active sized =>
      -- the task belongs to another connection: this one is closed and doomed
      have different : conn ≠ (state.tasks task).conn := by
        rintro rfl
        rcases active with ⟨_, spared⟩ | isOpen
        · exact spared doomed
        · cases closed.symm.trans isOpen
      have same : (state.sendPacket task packet).connections conn = state.connections conn :=
        Function.update_of_ne different _ _
      refine ⟨known, ?_, ?_⟩
      · rw [same]
        exact closed
      · rw [same]
        exact outgoing_eq

theorem CallScript.resting {conn : ConnRef} {outgoing : OrderedMap Nat TaskRef}
    (script : CallScript careful before after) (doomed : conn ∈ before.1.doomed)
    (resting : Resting conn outgoing before.2) : Resting conn outgoing after.2 := by
  have both : after.1.doomed = before.1.doomed ∧ Resting conn outgoing after.2 := by
    induction script with
    | refl => exact ⟨rfl, resting⟩
    | tail _ step ih =>
        exact ⟨step.doomed_eq.trans ih.1, step.resting (ih.1 ▸ doomed) ih.2⟩
  exact both.2

end Lasting

section Scripts

variable {careful : Prop} {hand : List TaskRef} {serving : List ConnRef}
  {running : List TaskRef} {doomed : List ConnRef} {duty : Duty} {state : State Msg}
  {task : TaskRef} {body : State Msg → State Msg}

theorem callScript_setFailed (reason : String) (code : ErrorCode)
    (fresh : careful → (state.tasks task).runs = 0) :
    CallScript careful (duty, state) (duty, state.setFailed task reason code) :=
  .tail (.single (.borrow fresh)) (.note rfl)

theorem callScript_setupTaskTimer (bound : task < state.nextTask)
    (fresh : careful → (state.tasks task).runs = 0) :
    CallScript careful (duty, state) (duty, state.setupTaskTimer task) := by
  unfold State.setupTaskTimer
  simp only
  split
  · exact .tail (.tail (.single (.borrow fresh)) .cancelTimer) (.startTimer bound)
  · exact .single (.borrow fresh)

theorem callScript_runDone (runs : BodyScript careful body)
    (base : Base careful (⟨task :: hand, serving, running, doomed⟩, state))
    (bound : task < state.nextTask) (fresh : (state.tasks task).runs = 0)
    (unlisted : state.Listed task → (state.tasks task).conn ∈ doomed) :
    CallScript careful (⟨task :: hand, serving, running, doomed⟩, state)
        (⟨hand, serving, running, doomed⟩, state.runDone body task) ∧
      Ran task (state.runDone body task) := by
  have begun : CallScript careful (⟨task :: hand, serving, running, doomed⟩, state)
      (⟨hand, serving, task :: running, doomed⟩, (state.borrow task).beginDone task) := by
    refine .tail (.single (.borrow fun _ => fresh)) (.beginDone bound ?_ ?_)
    · simpa [State.borrow] using fresh
    · intro listed
      simpa [State.borrow] using unlisted (State.listed_borrow listed)
  have middle := base.callScript begun
  have ran := runs _ _ middle
  have after := middle.callScript ran
  have caught : CallScript careful
      (⟨hand, serving, task :: running, doomed⟩, body ((state.borrow task).beginDone task))
      (⟨hand, serving, running, doomed⟩, state.runDone body task) := by
    unfold State.runDone
    simp only
    split
    · exact .single .endDone
    · next what thrown =>
        refine (callScript_setFailed _ _ fun calm => ?_).tail .endDone
        have tame := after.tame calm task (after.sound.running task List.mem_cons_self).1
        cases (Closure.thrown_of_neverThrows tame).symm.trans thrown
  have rest := ran.trans caught
  exact ⟨begun.trans rest, CallScript.holds lasting_ran rest
    (middle.sound.running task List.mem_cons_self)⟩

theorem callScript_finishTask (runs : BodyScript careful body)
    (base : Base careful (⟨task :: hand, serving, running, doomed⟩, state))
    (bound : task < state.nextTask) (idle : task ∉ running)
    (unlisted : state.Listed task → (state.tasks task).conn ∈ doomed) :
    CallScript careful (⟨task :: hand, serving, running, doomed⟩, state)
      (⟨hand, serving, running, doomed⟩, state.finishTask body task) := by
  have cancelled : CallStep careful (⟨task :: hand, serving, running, doomed⟩, state)
      (⟨task :: hand, serving, running, doomed⟩, state.cancelTimer task) := .cancelTimer
  unfold State.finishTask
  simp only
  split
  · next called => exact .tail (.single cancelled) (.drop (base.sound.called_runs task bound called))
  · next uncalled =>
      have fresh := base.sound.runs_zero bound (eq_false_of_ne_true uncalled) idle
      exact .head cancelled
        (callScript_runDone runs (base.callStep cancelled) bound fresh unlisted).1

theorem unlisted_of_unsent (base : Base careful (duty, state))
    (unsent : state.ledger.Unsent task) : ¬ state.Listed task :=
  fun listed => base.once.unsent_not_listed unsent listed rfl

/-- The successful end of `start_call`. -/
theorem callScript_sendPacket {conn : ConnRef} {id : Nat} {packet : List UInt8}
    (bound : task < state.nextTask) (unsent : state.ledger.Unsent task)
    (fresh : careful → (state.tasks task).runs = 0)
    (active : conn ∈ serving ∧ conn ∉ doomed ∨
      (state.connections conn).socket.isOpen = true)
    (sized : sizeofPacket ≤ packet.length)
    (sameConn : (state.tasks task).conn = conn) (sameId : (state.tasks task).id = id) :
    CallScript careful (⟨task :: hand, serving, running, doomed⟩, state)
      (⟨hand, serving, running, doomed⟩,
        ((((state.modifyConn conn fun connection =>
            { connection with
              outgoingTasks := connection.outgoingTasks.insert id task }).setupTaskTimer
          task).modifyTask task fun record =>
            { record with
              state := .writeToServer
              writes := record.writes + 1
              packet := packet }).startOnSocket conn (.write task packet 0))) := by
  have armed : CallScript careful (⟨task :: hand, serving, running, doomed⟩, state)
      (⟨task :: hand, serving, running, doomed⟩, state.setupTaskTimer task) :=
    callScript_setupTaskTimer bound fresh
  have conn_eq : ((state.setupTaskTimer task).tasks task).conn = conn := by
    simp [State.tasks_setupTaskTimer, State.borrow, sameConn]
  have id_eq : ((state.setupTaskTimer task).tasks task).id = id := by
    simp [State.tasks_setupTaskTimer, State.borrow, sameId]
  have sent : CallStep careful
      (⟨task :: hand, serving, running, doomed⟩, state.setupTaskTimer task)
      (⟨hand, serving, running, doomed⟩,
        (state.setupTaskTimer task).sendPacket task packet) := by
    refine .send ?_ (State.unsent_setupTaskTimer unsent) ?_ ?_ sized
    · rw [State.nextTask_setupTaskTimer]
      exact bound
    · simpa [State.tasks_setupTaskTimer, State.borrow] using fresh
    · rw [conn_eq, State.connections_setupTaskTimer]
      exact active
  have same := armed.tail sent
  rw [State.sendPacket, conn_eq, id_eq] at same
  rw [State.setupTaskTimer_modifyConn]
  exact same

theorem callScript_startCall [Protobuf] (runs : BodyScript careful body)
    (base : Base careful (⟨task :: hand, serving, running, doomed⟩, state))
    (bound : task < state.nextTask) (idle : task ∉ running)
    (unsent : state.ledger.Unsent task) (fresh : careful → (state.tasks task).runs = 0)
    (active : (state.tasks task).conn ∈ serving ∧ (state.tasks task).conn ∉ doomed ∨
      (state.connections (state.tasks task).conn).socket.isOpen = true) :
    CallScript careful (⟨task :: hand, serving, running, doomed⟩, state)
      (⟨hand, serving, running, doomed⟩, state.startCall body task) := by
  have borrowed : CallStep careful (⟨task :: hand, serving, running, doomed⟩, state)
      (⟨task :: hand, serving, running, doomed⟩, state.borrow task) := .borrow fresh
  unfold State.startCall
  simp only
  split
  · exact .tail (.single borrowed) .hang
  · next buf expanded _ =>
      have buffered : CallScript careful (⟨task :: hand, serving, running, doomed⟩, state)
          (⟨task :: hand, serving, running, doomed⟩,
            (state.borrow task).modifyTask task fun record => { record with buf := buf }) :=
        .tail (.single borrowed) (.note rfl)
      have same : ((state.borrow task).modifyTask task
          fun record => { record with buf := buf }).ledger = state.ledger := by
        rw [State.ledger_modifyTask_same rfl, State.ledger_borrow]
      have stillFresh : careful → (((state.borrow task).modifyTask task
          fun record => { record with buf := buf }).tasks task).runs = 0 :=
        fun calm => by simpa [State.borrow] using fresh calm
      generalize (state.borrow task).modifyTask task
        (fun record => { record with buf := buf }) = ready at buffered same stillFresh ⊢
      have readyBase := base.callScript buffered
      have readyBound : task < ready.nextTask :=
        Nat.lt_of_lt_of_eq bound (congrArg Ledger.nextTask same).symm
      have failed : ∀ reason code,
          CallScript careful (⟨task :: hand, serving, running, doomed⟩, state)
            (⟨hand, serving, running, doomed⟩,
              (ready.setFailed task reason code).finishTask body task) := by
        intro reason code
        have noted : CallScript careful (⟨task :: hand, serving, running, doomed⟩, ready)
            (⟨task :: hand, serving, running, doomed⟩, ready.setFailed task reason code) :=
          callScript_setFailed reason code stillFresh
        have notedBase := readyBase.callScript noted
        have still : (ready.setFailed task reason code).ledger.Unsent task := by
          rw [State.setFailed, State.ledger_modifyTask_same rfl, State.ledger_borrow, same]
          exact unsent
        have finished := callScript_finishTask runs notedBase readyBound idle fun listed =>
          absurd listed (unlisted_of_unsent notedBase still)
        exact buffered.trans (noted.trans finished)
      split
      · exact failed _ _
      · split
        · exact failed _ _
        · split
          · exact failed _ _
          · have sameEntry : (ready.tasks task).entry = (state.tasks task).entry :=
              congrFun (congrArg Ledger.tasks same) task
            have sameConn : (ready.tasks task).conn = (state.tasks task).conn :=
              congrArg TaskEntry.conn sameEntry
            have sameId : (ready.tasks task).id = (state.tasks task).id :=
              congrArg TaskEntry.id sameEntry
            have borrowedConn : ((state.borrow task).tasks task).conn = (state.tasks task).conn := by
              simp [State.borrow]
            have borrowedId : ((state.borrow task).tasks task).id = (state.tasks task).id := by
              simp [State.borrow]
            have sameConnections : (ready.connections (state.tasks task).conn).entry =
                (state.connections (state.tasks task).conn).entry :=
              congrFun (congrArg Ledger.connections same) _
            rw [borrowedConn, borrowedId]
            refine buffered.trans (callScript_sendPacket readyBound ?_ stillFresh ?_ ?_
              sameConn sameId)
            · rw [same]
              exact unsent
            · exact active.imp_right (congrArg ConnEntry.isOpen sameConnections).trans
            · rw [length_layout]
              omega

theorem callScript_issue [Protobuf] {conn : ConnRef} (call : Call Msg) {done : Closure Msg}
    (runs : BodyScript careful body) (tame : careful → done.NeverThrows)
    (base : Base careful (duty, state)) (known : conn < state.nextConn) :
    CallScript careful (duty, state) (duty, state.issue body conn call done) := by
  obtain ⟨hand, serving, running, doomed⟩ := duty
  have added : CallStep careful (⟨hand, serving, running, doomed⟩, state)
      (⟨state.nextTask :: hand, serving, running, doomed⟩, state.newTask conn call done) :=
    .newTask known tame
  have addedBase := base.callStep added
  have record := State.tasks_newTask_self state conn call done
  have bound : state.nextTask < (state.newTask conn call done).nextTask := Nat.lt_succ_self _
  have fresh : ((state.newTask conn call done).tasks state.nextTask).runs = 0 := by
    rw [record]
  have sameConn : ((state.newTask conn call done).tasks state.nextTask).conn = conn := by
    rw [record]
  have unsent : (state.newTask conn call done).ledger.Unsent state.nextTask := by
    rw [State.ledger_newTask]
    exact Ledger.Once.unsent_addTask base.sound
  have idle : state.nextTask ∉ running := fun member =>
    absurd (base.sound.running _ member).1 (Nat.lt_irrefl _)
  refine .head added ?_
  unfold State.issue
  simp only
  generalize state.newTask conn call done = created at addedBase bound fresh sameConn unsent ⊢
  split
  · have resolved : CallStep careful (⟨state.nextTask :: hand, serving, running, doomed⟩, created)
        (⟨hand, serving, running, doomed⟩,
          created.start ⟨conn, .resolve state.nextTask, .pending⟩) := by
      have started : CallStep careful
          (⟨state.nextTask :: hand, serving, running, doomed⟩, created)
          (⟨hand, serving, running, doomed⟩, created.start
            ⟨(created.tasks state.nextTask).conn, .resolve state.nextTask, .pending⟩) :=
        .startResolve bound unsent
      rw [sameConn] at started
      exact started
    refine Relation.ReflTransGen.trans ?_ (callScript_setupTaskTimer bound fun _ => ?_)
    · exact .tail (.tail (.single resolved) (.noteConn rfl)) (.note rfl)
    · simpa using fresh
  · next isOpen =>
      have opened : (created.connections conn).socket.isOpen = true := by
        simpa using isOpen
      exact callScript_startCall runs addedBase bound idle unsent (fun _ => fresh)
        (.inr (sameConn.symm ▸ opened))

theorem callScript_callMethod [Protobuf] (call : Call Msg) {done : Closure Msg}
    (runs : BodyScript careful body) (tame : careful → done.NeverThrows)
    (base : Base careful (duty, state)) :
    CallScript careful (duty, state) (duty, state.callMethod body call done) := by
  unfold State.callMethod
  simp only
  split
  · next missing =>
      have opened : CallStep careful (duty, state)
          (duty, state.openConnection call.controller.host call.controller.service) :=
        .openConnection missing
      exact .head opened (callScript_issue call runs tame (base.callStep opened)
        (Nat.lt_succ_self _))
  · next conn found =>
      have known := base.sound.conns_lt _ (OrderedMap.find?_eq_some_iff.mp found)
      exact callScript_issue call runs tame base known

/-- Closures only call `CallMethod`. -/
theorem bodyScript_run [Protobuf] (done : Closure Msg) (tame : careful → done.NeverThrows) :
    BodyScript careful done.run := by
  induction done with
  | returns => exact fun _ _ _ => .refl
  | throws what => exact fun _ _ _ => .refl
  | callMethod call done next doneIh nextIh =>
      intro duty state base
      have tameDone : careful → done.NeverThrows := fun calm => (tame calm).1
      have called := callScript_callMethod call (doneIh tameDone) tameDone base
      exact called.trans (nextIh (fun calm => (tame calm).2) duty _ (base.callScript called))

end Scripts

end CarrotRpc.Client
