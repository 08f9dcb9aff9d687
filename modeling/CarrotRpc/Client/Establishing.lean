import CarrotRpc.Client.Completion
import CarrotRpc.Client.SetUpMoves

/-! Runs in which nothing fails. As long as no call is made while the name of its
connection is being resolved, every call goes out once on the only socket. -/

set_option autoImplicit false

namespace CarrotRpc.Client

open Library Common Protob

variable {Msg : Type}

section Calls

variable [Protobuf] {conn other : ConnRef} {task : TaskRef} {state : State Msg}
  {body : State Msg → State Msg}

/-- `start_call` of a nominal call sends its packet, unless it never ends. -/
theorem startCall_nominal (body : State Msg → State Msg)
    (nominal : (state.tasks task).call.Nominal) :
    ∃ ready, (∀ conn, Away conn state ready) ∧
      (state.startCall body task = ready.getStuck ∨
        ∃ packet, state.startCall body task =
          ready.dispatch (state.tasks task).conn task packet) := by
  have borrowedConn : ((state.borrow task).tasks task).conn = (state.tasks task).conn := by
    simp [State.borrow]
  have sameCall : ((state.borrow task).tasks task).call = (state.tasks task).call := by
    simp [State.borrow]
  unfold State.startCall
  simp only [sameCall, borrowedConn]
  split
  · exact ⟨state.borrow task, fun _ => .borrow, .inl rfl⟩
  · next buf expanded result =>
      have succeeded := expandPacket_succeeds nominal.heap result
      subst succeeded
      simp only [Bool.not_true, Bool.false_eq_true, ↓reduceIte, nominal.metadata, nominal.request]
      have buffered : ∀ conn, Away conn state
          ((state.borrow task).modifyTask task fun record => { record with buf := buf }) :=
        fun conn => Away.borrow.trans
          (.note (fun _ => rfl) (fun _ => rfl) (fun _ => rfl) (fun _ => rfl) fun _ => rfl)
      generalize (state.borrow task).modifyTask task (fun record => { record with buf := buf }) =
        ready at buffered ⊢
      have inserted : ∀ conn, Away conn state
          ((ready.modifyConn (state.tasks task).conn fun connection =>
            { connection with
              outgoingTasks := connection.outgoingTasks.insert
                ((state.borrow task).tasks task).id task }).setupTaskTimer task) :=
        fun conn => ((buffered conn).trans (.modifyConn fun _ => ⟨rfl, rfl, rfl, rfl⟩)).trans
          .setupTaskTimer
      exact ⟨_, inserted, .inr ⟨_, rfl⟩⟩

theorem grows_startCall (nominal : (state.tasks task).call.Nominal) :
    Grows state (state.startCall body task) := by
  obtain ⟨ready, away, stuck | ⟨packet, sent⟩⟩ := startCall_nominal body nominal
  · rw [stuck]
    exact (away 0).grows.trans State.getStuck_grows
  · rw [sent]
    exact (away 0).grows.trans .dispatch

omit [Protobuf] in
/-- A call of another connection. -/
theorem away_dispatch {packet : List UInt8} (different : other ≠ conn)
    (same : (state.tasks task).conn = other) :
    Away conn state (state.dispatch other task packet) := by
  refine Away.trans (.modifyTask ⟨rfl, rfl, rfl, Nat.le_succ _⟩ fun mine => ?_)
    (.startOnSocket different rfl)
  exact absurd (same.symm.trans mine) different

theorem fair_startCall {hand : List TaskRef} (body : State Msg → State Msg) (fair : Fair conn hand state)
    (bound : task < state.nextTask)
    (holds : (state.tasks task).conn = conn →
      hand = [task] ∧ (state.connections conn).socket.isOpen = true)
    (free : (state.tasks task).conn ≠ conn → hand = []) :
    Fair conn [] (state.startCall body task) := by
  obtain ⟨ready, away, stuck | ⟨packet, sent⟩⟩ := startCall_nominal body (fair.nominal task bound).1
  · rw [stuck]
    exact (fair.away (away conn)).getStuck
  · have sameConn := ((away conn).same task).conn
    rw [sent]
    by_cases mine : (state.tasks task).conn = conn
    · obtain ⟨rfl, isOpen⟩ := holds mine
      rw [mine]
      refine (fair.away (away conn)).dispatch ?_ (sameConn.trans mine) ?_
      · rw [(away conn).count]
        exact bound
      · rw [(away conn).socket]
        exact isOpen
    · rw [free mine] at fair
      exact (fair.away (away conn)).away (away_dispatch mine sameConn)

omit [Protobuf] in
theorem Grows.resolve : Grows state (state.resolve conn task) :=
  .of_tasks rfl rfl

omit [Protobuf] in
theorem away_resolve (different : other ≠ conn) : Away conn state (state.resolve other task) :=
  (Away.start (.inl different) (.inr rfl)).trans (.elsewhere different)

theorem course_issue {call : Call Msg} {done : Closure Msg} (nominal : call.Nominal ∧ done.Nominal)
    (mapped : Mapped other state) : Course conn state (state.issue body other call done) := by
  have record := State.tasks_newTask_self state other call done
  have created : Grows state (state.newTask other call done) := .newTask other call done
  have fairNew : Fair conn [] state → Fair conn [state.nextTask] (state.newTask other call done) :=
    fun fair => fair.newTask nominal mapped
  have bound : state.nextTask < (state.newTask other call done).nextTask := Nat.lt_succ_self _
  have sameConn : ((state.newTask other call done).tasks state.nextTask).conn = other := by
    rw [record]
  have nominalNew : ((state.newTask other call done).tasks state.nextTask).call.Nominal := by
    rw [record]
    exact nominal.1
  unfold State.issue
  simp only
  generalize state.nextTask = task at record fairNew bound sameConn nominalNew ⊢
  generalize state.newTask other call done = next at created fairNew bound sameConn nominalNew ⊢
  split
  · next isClosed =>
      simp only [Bool.not_eq_true'] at isClosed
      have noted : Away conn (next.resolve other task)
          (((next.resolve other task).modifyTask task fun record =>
            { record with state := .connectToServer }).setupTaskTimer task) :=
        (Away.mark .connectToServer).trans .setupTaskTimer
      refine ⟨created.trans (Grows.resolve.trans noted.grows), fun fair => ?_⟩
      refine Fair.away ?_ noted
      by_cases mine : other = conn
      · subst mine
        exact (fairNew fair).resolve bound sameConn isClosed
      · have free := (fairNew fair).drop (sameConn ▸ mine)
        exact free.away (away_resolve mine)
  · next isOpen =>
      simp only [Bool.not_eq_true, Bool.not_eq_false'] at isOpen
      refine ⟨created.trans (grows_startCall nominalNew), fun fair => ?_⟩
      by_cases mine : other = conn
      · subst mine
        exact fair_startCall body (fairNew fair) bound (fun _ => ⟨rfl, isOpen⟩)
          fun different => absurd sameConn different
      · have free := (fairNew fair).drop (sameConn ▸ mine)
        exact fair_startCall body free bound (fun same => absurd (sameConn.symm.trans same) mine)
          fun _ => rfl

omit [Protobuf] in
theorem course_openConnection (host service : String) :
    Course conn state (state.openConnection host service) where
  toGrows := .of_tasks rfl rfl
  fair := fun fair => fair.openConnection host service

theorem course_callMethod {call : Call Msg} {done : Closure Msg} (nominal : call.Nominal)
    (nominalDone : done.Nominal) : Course conn state (state.callMethod body call done) := by
  unfold State.callMethod
  simp only
  split
  · exact (course_openConnection _ _).trans
      (course_issue ⟨nominal, nominalDone⟩ (.inl (Nat.lt_succ_self _)))
  · next other found =>
      have listed := OrderedMap.find?_eq_some_iff.mp found
      exact course_issue ⟨nominal, nominalDone⟩ (.inr ⟨_, listed, rfl⟩)

/-- Closures only call `CallMethod`. -/
theorem course_run {done : Closure Msg} (nominal : done.Nominal) :
    ∀ state, Course conn state (done.run state) := by
  induction done with
  | returns | throws => exact fun state => .refl state
  | callMethod call done next _ ih =>
      obtain ⟨nominalCall, nominalDone, nominalNext⟩ := nominal
      exact fun state => (course_callMethod nominalCall nominalDone).trans (ih nominalNext _)

omit [Protobuf] in
theorem course_runDone (runs : ∀ state, Course conn state (body state))
    (bound : task < state.nextTask)
    (sent : (state.tasks task).conn = conn → 0 < (state.tasks task).writes) :
    Course conn state (state.runDone body task) := by
  have begun : Away conn state (((state.borrow task).modifyTask task fun record =>
      { record with runs := record.runs + 1 })) :=
    Away.borrow.trans (.note (fun _ => rfl) (fun _ => rfl) (fun _ => rfl) (fun _ => rfl)
      fun _ => rfl)
  have ran := begun.course.trans (runs _)
  have caught : ∀ next, Course conn state next →
      Course conn state (next.modifyTask task fun record => { record with called := true }) := by
    intro next course
    obtain ⟨same, _, _, writes⟩ := course.same task bound
    refine course.trans (Away.course (.modifyTask ⟨rfl, rfl, rfl, Nat.le_refl _⟩ fun mine => ?_))
    exact ⟨rfl, fun _ => .inr (Nat.lt_of_lt_of_le (sent (same.symm.trans mine)) writes)⟩
  unfold State.runDone
  simp only
  split
  · exact caught _ ran
  · exact caught _ (ran.trans Away.setFailed.course)

omit [Protobuf] in
theorem course_finishTask (runs : ∀ state, Course conn state (body state))
    (bound : task < state.nextTask)
    (sent : (state.tasks task).conn = conn → 0 < (state.tasks task).writes) :
    Course conn state (state.finishTask body task) := by
  have cancelled : Away conn state (state.cancelTimer task) := .cancelTimer
  unfold State.finishTask
  simp only
  split
  · exact cancelled.course
  · exact cancelled.course.trans (course_runDone runs bound sent)

theorem course_failTask {reason : String} {code : ErrorCode} (nominal : (state.tasks task).done.Nominal)
    (bound : task < state.nextTask) (different : (state.tasks task).conn ≠ conn) :
    Course conn state (state.failTask reason code task) := by
  have failed : Away conn state (state.setFailed task reason code) := .setFailed
  unfold State.failTask
  split
  · exact .refl state
  · refine failed.course.trans (course_runDone (course_run nominal) bound fun mine => ?_)
    exact absurd ((failed.same task).conn.symm.trans mine) different

/-- The loop of `destroy` over the calls of another connection. -/
theorem course_destroyLoop (reason : String) (entries : List (Nat × TaskRef)) :
    ∀ state : State Msg, (∀ entry ∈ entries, entry.2 < state.nextTask ∧
        (state.tasks entry.2).conn ≠ conn ∧ (state.tasks entry.2).done.Nominal) →
      Course conn state (entries.foldl
        (fun state entry => (state.cancelTimer entry.2).failTask reason .failed entry.2) state) := by
  induction entries with
  | nil => exact fun state _ => .refl state
  | cons entry rest ih =>
      intro state listed
      obtain ⟨bound, different, nominal⟩ := listed entry List.mem_cons_self
      have cancelled : Away conn state (state.cancelTimer entry.2) := .cancelTimer
      have round : Course conn state
          ((state.cancelTimer entry.2).failTask reason .failed entry.2) :=
        cancelled.course.trans (course_failTask nominal bound different)
      refine round.trans (ih _ fun other member => ?_)
      obtain ⟨bound, different, nominal⟩ := listed other (List.mem_cons_of_mem _ member)
      have same := round.same other.2 bound
      refine ⟨Nat.lt_of_lt_of_le bound round.count, ?_, ?_⟩
      · rw [same.conn]
        exact different
      · rw [same.done]
        exact nominal

end Calls

section Handlers

variable [Protobuf] {conn other : ConnRef} {task : TaskRef} {state : State Msg}

/-- The table of the connection lists calls of its own. -/
def Tabled (conn : ConnRef) (state : State Msg) : Prop :=
  ∀ entry ∈ (state.connections conn).outgoingTasks.entries,
    entry.2 < state.nextTask ∧ (state.tasks entry.2).conn = conn

omit [Protobuf] in
theorem Base.tabled {careful : Prop} {duty : Duty} (base : Base careful (duty, state)) :
    Tabled conn state := by
  intro entry member
  obtain ⟨bound, sameConn, _⟩ := base.sound.entry conn entry member
  exact ⟨bound, sameConn⟩

theorem fair_destroy {reason : SystemError} (fair : Fair conn [] state) (different : other ≠ conn)
    (tabled : Tabled other state) : Fair conn [] (state.destroy other reason) := by
  have closed : Away conn state ((state.cancelResolver other).closeSocket other) :=
    (Away.cancelResolver different).trans (.closeSocket different)
  have table : (((state.cancelResolver other).closeSocket other).connections other).outgoingTasks =
      (state.connections other).outgoingTasks := by
    simp [State.closeSocket, State.cancelResolver, State.cancel]
  have listed : ∀ entry ∈ (state.connections other).outgoingTasks.entries,
      entry.2 < ((state.cancelResolver other).closeSocket other).nextTask ∧
        (((state.cancelResolver other).closeSocket other).tasks entry.2).conn ≠ conn ∧
        (((state.cancelResolver other).closeSocket other).tasks entry.2).done.Nominal := by
    intro entry member
    obtain ⟨bound, mine⟩ := tabled entry member
    obtain ⟨sameConn, _, sameDone, _⟩ := closed.same entry.2
    refine ⟨bound, ?_, ?_⟩
    · rw [sameConn, mine]
      exact different
    · rw [sameDone]
      exact (fair.nominal entry.2 bound).2
  have loop := course_destroyLoop ("rpc failed: " ++ reason.message) _ _ listed
  unfold State.destroy
  simp only [table]
  exact (loop.fair (fair.away closed)).away (.elsewhere different)

/-- `destroy` after the failure of a task of another connection. -/
theorem fair_failAndDestroy {duty : Duty} (text : String) (code : ErrorCode)
    (reason : SystemError) (base : Base False (duty, state)) (idle : duty.running = [])
    (fair : Fair conn [] state) (bound : task < state.nextTask)
    (sameConn : (state.tasks task).conn = other) (different : other ≠ conn) :
    Fair conn [] ((state.failTask text code task).destroy other reason) := by
  obtain ⟨hand, serving, running, doomed⟩ := duty
  cases idle
  have assumed : HandlerStep False (⟨hand, serving, [], doomed⟩, state)
      (⟨task :: hand, serving, [], other :: doomed⟩, state) := .assume [task] [] [other]
  have ready := base.handlerStep assumed
  obtain ⟨script, _⟩ := callScript_failTask text code ready bound
    fun _ => sameConn.symm ▸ List.mem_cons_self
  have failed : Course conn state (state.failTask text code task) :=
    course_failTask (fair.nominal task bound).2 bound (sameConn ▸ different)
  exact fair_destroy (failed.fair fair) different (ready.callScript script).tabled

omit [Protobuf] in
theorem away_asyncConnect (different : other ≠ conn) :
    Away conn state (state.asyncConnect other task) :=
  ((Away.closeSocket different).trans (.openSocket different)).trans
    (.start (.inl different) (.inr rfl))

/-- Starting to read fails only if there is no memory. -/
theorem startRead_nominal {heap : Realloc} (other : ConnRef) (state : State Msg)
    (succeeds : heap.Succeeds) :
    state.startRead heap other = (state.getStuck, none) ∨
      ∃ buf, state.startRead heap other =
        ((state.modifyConn other fun connection =>
          { connection with buf := buf }).startOnSocket other .readHeader, none) := by
  unfold State.startRead
  split
  · exact .inl rfl
  · next buf expanded result =>
      have succeeded := expandPacket_succeeds succeeds result
      subst succeeded
      exact .inr ⟨buf, rfl⟩

/-- The next read was started, or the code is stuck. -/
def ReadsOn (conn other : ConnRef) (heap : Realloc) (state : State Msg) : Prop :=
  ∃ next, state.startRead heap other = (next, none) ∧ Grows state next ∧ Fair conn [] next

theorem readsOn_elsewhere {heap : Realloc} (succeeds : heap.Succeeds) (fair : Fair conn [] state)
    (different : other ≠ conn) : ReadsOn conn other heap state := by
  rcases startRead_nominal other state succeeds with stuck | ⟨buf, started⟩
  · exact ⟨_, stuck, State.getStuck_grows, fair.getStuck⟩
  · have away : Away conn state ((state.modifyConn other fun connection =>
        { connection with buf := buf }).startOnSocket other .readHeader) :=
      (Away.elsewhere different).trans (.startOnSocket different rfl)
    exact ⟨_, started, away.grows, fair.away away⟩

omit [Protobuf] in
/-- A read on the socket of the connection itself. -/
theorem fair_startOnSocket (part : Part) (fair : Fair conn [] state)
    (known : conn < state.nextConn) (linked : InStage conn .linked [] state) :
    Fair conn [] (state.startOnSocket conn part.kind) := by
  refine ⟨?_, fair.nominal, .settled _ known (linked.startRead part)⟩
  intro op member timer expired
  rcases List.mem_append.mp member with old | new
  · exact fair.held op old timer expired
  · rw [List.mem_singleton.mp new] at timer
    cases part <;> cases timer

theorem readsOn_linked {heap : Realloc} (succeeds : heap.Succeeds) (fair : Fair conn [] state)
    (known : conn < state.nextConn) (linked : InStage conn .linked [] state) :
    ReadsOn conn conn heap state := by
  rcases startRead_nominal conn state succeeds with stuck | ⟨buf, started⟩
  · exact ⟨_, stuck, State.getStuck_grows, fair.getStuck⟩
  · have away : Away conn state (state.modifyConn conn fun connection =>
        { connection with buf := buf }) := .modifyConn fun _ => ⟨rfl, rfl, rfl, rfl⟩
    exact ⟨_, started, away.grows.trans (.of_tasks rfl rfl),
      fair_startOnSocket .header (fair.away away) known (linked.away away)⟩

theorem fair_finishTask (fair : Fair conn [] state) (bound : task < state.nextTask)
    (sent : (state.tasks task).conn = conn → 0 < (state.tasks task).writes) :
    Fair conn [] (state.finishTask (state.tasks task).done.run task) :=
  (course_finishTask (course_run (fair.nominal task bound).2) bound sent).fair fair

omit [Protobuf] in
theorem away_applyStatus (task : TaskRef) (rpcResp : Response) :
    Away conn state (state.applyStatus task rpcResp) := by
  unfold State.applyStatus
  cases rpcResp.getStatus with
  | notFound | error | failed => exact .setFailed
  | success => exact .refl state

omit [Protobuf] in
theorem away_parseResponse (task : TaskRef) (bytes : List UInt8) :
    Away conn state (state.parseResponse task bytes) := by
  unfold State.parseResponse
  simp only
  split
  · exact Away.borrow.trans
      (.note (fun _ => rfl) (fun _ => rfl) (fun _ => rfl) (fun _ => rfl) fun _ => rfl)
  · exact Away.borrow.trans .setFailed

/-- A response completes a call whose packet was sent. -/
theorem fair_receivePayload {heap : Realloc} {data : List UInt8} (tabled : Tabled other state)
    (reads : ∀ ready, Away conn state ready → ReadsOn conn other heap ready)
    (destroys : Protobuf.response.parse
        (data.take (state.connections other).header.rpcLen.toNat) = none →
      Fair conn [] (state.destroy other .invalidArgument))
    (sent : other = conn → ∀ task < state.nextTask, (state.tasks task).conn = conn →
      0 < (state.tasks task).writes) :
    Fair conn [] (state.receivePayload heap other data).1 := by
  unfold State.receivePayload
  simp only
  split
  · next failed => exact destroys failed
  · next rpcResp _ =>
      split
      · obtain ⟨next, started, _, fairNext⟩ := reads state (.refl state)
        rw [started]
        exact fairNext
      · next task found =>
          obtain ⟨bound, mine⟩ := tabled _ (OrderedMap.find?_eq_some_iff.mp found)
          have marked : Away conn state (state.modifyTask task fun record =>
              { record with state := .done }) := .mark .done
          have parsed := (marked.trans (away_applyStatus task rpcResp)).trans
            (away_parseResponse task ((data.drop
              (state.connections other).header.rpcLen.toNat).take
                (state.connections other).header.respLen.toNat))
          obtain ⟨next, started, grows, fairNext⟩ := reads _ parsed
          rw [started]
          have same := (parsed.same task).trans
            (grows.same task (Nat.lt_of_lt_of_eq bound parsed.count.symm))
          have erased : Away conn next (next.modifyConn other fun connection =>
              { connection with
                outgoingTasks := connection.outgoingTasks.erase rpcResp.getId }) :=
            .modifyConn fun _ => ⟨rfl, rfl, rfl, rfl⟩
          refine fair_finishTask (fairNext.away erased) ?_ fun mineNow => ?_
          · exact Nat.lt_of_lt_of_le bound (Nat.le_trans parsed.grows.count grows.count)
          · have mineThen := same.conn.symm.trans mineNow
            exact Nat.lt_of_lt_of_le (sent (mine.symm.trans mineThen) task bound mineThen)
              same.writes

/-- The handlers of the operations of another connection. -/
theorem fair_invoke_elsewhere {duty : Duty} {op : Op} {input : Input}
    (error : Option SystemError) (base : Base False (duty, state)) (idle : duty.running = [])
    (fair : Fair conn [] state) (different : op.conn ≠ conn) (succeeds : input.heap.Succeeds)
    (untimed : op.kind.isTimer = false)
    (binds : ∀ task, op.kind.task? = some task →
      task < state.nextTask ∧ (state.tasks task).conn = op.conn) :
    Fair conn [] (state.invoke op error input).1 := by
  have destroyed : ∀ reason, Fair conn [] (state.destroy op.conn reason) :=
    fun reason => fair_destroy fair different base.tabled
  have failed : ∀ text code reason task, op.kind.task? = some task →
      Fair conn [] ((state.failTask text code task).destroy op.conn reason) := by
    intro text code reason task bound
    obtain ⟨bound, mine⟩ := binds task bound
    exact fair_failAndDestroy text code reason base idle fair bound mine different
  obtain ⟨other, kind, status⟩ := op
  cases kind with
  | timer task => cases untimed
  | resolve task =>
      cases error with
      | none => exact fair.away (away_asyncConnect different)
      | some error => exact failed _ _ _ task rfl
  | connect task =>
      cases error with
      | some error => exact failed _ _ _ task rfl
      | none =>
          obtain ⟨bound, mine⟩ := binds task rfl
          have noted : Away conn state (state.modifyConn other fun connection =>
              { connection with connecting := false }) := .elsewhere different
          have called := fair_startCall (state.tasks task).done.run (fair.away noted) bound
            (fun same => absurd (mine.symm.trans same) different) fun _ => rfl
          obtain ⟨next, started, _, fairNext⟩ := readsOn_elsewhere succeeds called different
          simp only [State.invoke, State.handleConnect]
          rw [State.tasks_modifyConn, started]
          exact fairNext
  | write task packet sent =>
      cases error with
      | none =>
          exact fair.away (.mark .readData)
      | some error => exact failed _ _ _ task rfl
  | readHeader =>
      cases error with
      | some error => exact destroyed error
      | none =>
          have noted : Away conn state (state.modifyConn other fun connection =>
              { connection with
                header := input.header
                n := input.header.rpcLen + input.header.reqLen + input.header.respLen }) :=
            .elsewhere different
          simp only [State.invoke, State.handleReadHeader]
          split
          · exact (fair.away noted).getStuck
          · next buf expanded result =>
              have succeeded := expandPacket_succeeds succeeds result
              subst succeeded
              exact fair.away ((noted.trans (.elsewhere different)).trans
                (.startOnSocket different rfl))
  | readPayload =>
      have received : Fair conn [] (state.receivePayload input.heap other input.data).1 :=
        fair_receivePayload base.tabled
          (fun ready away => readsOn_elsewhere succeeds (fair.away away) different)
          (fun _ => destroyed _) fun same => absurd same different
      cases error with
      | none => exact received
      | some error =>
          simp only [State.invoke, State.handleReadPayload]
          split
          · exact received
          · exact destroyed error

omit [Protobuf] in
theorem held_asyncConnect
    (held : ∀ op ∈ state.ops, op.kind.isTimer = true → op.status ≠ .queued none) :
    ∀ op ∈ (state.asyncConnect conn task).ops, op.kind.isTimer = true →
      op.status ≠ .queued none := by
  intro op member timer expired
  have away : Away (conn + 1) state (state.asyncConnect conn task) :=
    away_asyncConnect (Nat.ne_of_lt (Nat.lt_succ_self conn))
  exact held op (away.timers op member timer expired) timer expired

/-- The successful end of a resolution. -/
theorem fair_resolved {input : Input} (fair : Fair conn [task] state)
    (known : conn < state.nextConn) (inStage : InStage conn .fresh [task] state) :
    Fair conn [] (state.invoke ⟨conn, .resolve task, .queued none⟩ none input).1 where
  held := held_asyncConnect fair.held
  nominal := fair.nominal
  standing := .settled _ known inStage.asyncConnect

/-- The call that was waiting goes out, then the first read starts. -/
theorem fair_sendAndRead {heap : Realloc} {body : State Msg → State Msg}
    (fair : Fair conn [task] state) (known : conn < state.nextConn)
    (inStage : InStage conn .linked [task] state) (bound : task < state.nextTask)
    (mine : (state.tasks task).conn = conn) (succeeds : heap.Succeeds) :
    Fair conn [] ((state.startCall body task).startRead heap conn).1 := by
  obtain ⟨ready, away, stuck | ⟨packet, sent⟩⟩ :=
    startCall_nominal body (fair.nominal task bound).1
  · rw [stuck]
    have hangs := (fair.away (away conn)).getStuck
    rcases startRead_nominal conn ready.getStuck succeeds with again | ⟨buf, started⟩
    · rw [again]
      exact hangs.getStuck
    · rw [started]
      refine ⟨?_, hangs.nominal, .stuck rfl⟩
      intro op member timer expired
      rcases List.mem_append.mp member with old | new
      · exact hangs.held op old timer expired
      · rw [List.mem_singleton.mp new] at timer
        cases timer
  · have sameConn := ((away conn).same task).conn
    have readyBound : task < ready.nextTask := by
      rw [(away conn).count]
      exact bound
    have readyKnown : conn < ready.nextConn := by
      rw [(away conn).known]
      exact known
    have linked := inStage.away (away conn)
    have dispatched : Fair conn [] (ready.dispatch conn task packet) :=
      (fair.away (away conn)).dispatch readyBound (sameConn.trans mine) (linked.opened rfl).1
    have sentStage := linked.dispatch packet rfl readyBound (sameConn.trans mine)
    obtain ⟨next, started, _, fairNext⟩ := readsOn_linked succeeds dispatched readyKnown sentStage
    rw [sent, mine, started]
    exact fairNext

/-- The successful end of a connect. -/
theorem fair_connected {input : Input} (fair : Fair conn [task] state)
    (known : conn < state.nextConn) (inStage : InStage conn .linked [task] state)
    (bound : task < state.nextTask) (mine : (state.tasks task).conn = conn)
    (succeeds : input.heap.Succeeds) :
    Fair conn [] (state.invoke ⟨conn, .connect task, .queued none⟩ none input).1 := by
  have ended := inStage.endConnecting
  have fairEnded : Fair conn [task] (state.modifyConn conn fun connection =>
      { connection with connecting := false }) :=
    ⟨fair.held, fair.nominal, .settled _ known ended⟩
  exact fair_sendAndRead fairEnded known ended bound mine succeeds

/-- The successful end of a read of a header. -/
theorem fair_headerRead {input : Input} (fair : Fair conn [] state)
    (known : conn < state.nextConn) (inStage : InStage conn .linked [] state)
    (succeeds : input.heap.Succeeds) :
    Fair conn [] (state.invoke ⟨conn, .readHeader, .queued none⟩ none input).1 := by
  have noted : Away conn state (state.modifyConn conn fun connection =>
      { connection with
        header := input.header
        n := input.header.rpcLen + input.header.reqLen + input.header.respLen }) :=
    .modifyConn fun _ => ⟨rfl, rfl, rfl, rfl⟩
  simp only [State.invoke, State.handleReadHeader]
  split
  · exact (fair.away noted).getStuck
  · next buf expanded result =>
      have succeeded := expandPacket_succeeds succeeds result
      subst succeeded
      have buffered : ∀ before : State Msg, Away conn before (before.modifyConn conn
          fun connection => { connection with buf := buf }) :=
        fun _ => .modifyConn fun _ => ⟨rfl, rfl, rfl, rfl⟩
      have away := noted.trans (buffered _)
      exact fair_startOnSocket .payload (fair.away away) known (inStage.away away)

/-- The successful end of a read of a payload with a response the parser takes. -/
theorem fair_payloadRead {input : Input} (fair : Fair conn [] state) (tabled : Tabled conn state)
    (known : conn < state.nextConn) (inStage : InStage conn .linked [] state)
    (succeeds : input.heap.Succeeds)
    (parses : Protobuf.response.parse
      (input.data.take (state.connections conn).header.rpcLen.toNat) ≠ none) :
    Fair conn [] (state.invoke ⟨conn, .readPayload, .queued none⟩ none input).1 := by
  refine fair_receivePayload tabled (fun ready away => ?_) (fun failed => absurd failed parses) ?_
  · exact readsOn_linked succeeds (fair.away away) (away.known ▸ known) (inStage.away away)
  · intro _ task bound mine
    rw [inStage.writes task bound mine]
    exact Nat.one_pos

end Handlers

/-! Runs. -/

/-- Nothing fails and no timer expires: every completion is a success, and the
responses of the server parse. -/
def Nominal [Protobuf] (state : State Msg) : Label Msg → Prop
  | .callMethod call done => call.Nominal ∧ done.Nominal
  | .complete op error => error = none ∧ op.kind.isTimer = false
  | .writeSome _ _ => True
  | .handle op input =>
      input.heap.Succeeds ∧ (op.kind = .readPayload → op.status = .queued none →
        Protobuf.response.parse
          (input.data.take (state.connections op.conn).header.rpcLen.toNat) ≠ none)

section Runs

variable [Protobuf] {conn : ConnRef} {state next : State Msg}

theorem fair_handle {op : Op} {input : Input} (base : Base False (.none, state))
    (fair : Fair conn [] state) (unstuck : state.stuck = false)
    (calm : (state.connections conn).overlapped = false)
    (nominal : Nominal state (.handle op input)) (handled : state.handle op input = some next) :
    Fair conn [] next := by
  obtain ⟨error, queued, member, rfl, _⟩ := handle_eq_some handled
  obtain ⟨succeeds, parses⟩ := nominal
  have binds : ∀ task, op.kind.role.task? = some task →
      task < state.nextTask ∧ (state.tasks task).conn = op.conn :=
    base.sound.op_task op.bare (List.mem_map_of_mem member)
  have taken := base.dequeue member
  have held : ∀ other ∈ (state.dequeue op).ops, other.kind.isTimer = true →
      other.status ≠ .queued none := fun other present =>
    fair.held other (List.mem_of_mem_erase present)
  cases untimed : op.kind.isTimer with
  | true =>
      -- the timer was cancelled
      have left : Fair conn [] (state.dequeue op) := fair.away (.dequeue (.inr untimed))
      obtain ⟨opConn, kind, status⟩ := op
      cases queued
      cases error with
      | none => exact absurd rfl (fair.held _ member untimed)
      | some error =>
          cases kind with
          | timer task => exact left
          | resolve | connect | readHeader | readPayload | write => cases untimed
  | false =>
      by_cases mine : op.conn = conn
      · have listed := State.mem_opsOf member mine untimed
        cases fair.standing with
        | unknown later unmapped quiet unused => cases quiet ▸ listed
        | stuck hangs => cases unstuck.symm.trans hangs
        | overlapped known overlaps => cases calm.symm.trans overlaps
        | settled stage known inStage =>
            subst mine
            cases error with
            | some error => exact absurd queued (inStage.calm op listed error)
            | none =>
                cases setsUp : op.kind.setsUp with
                | false =>
                    have left := inStage.forget member rfl untimed setsUp (by simp [queued])
                    have fairLeft : Fair op.conn [] (state.dequeue op) :=
                      ⟨held, fair.nominal, .settled stage known left⟩
                    obtain ⟨opConn, kind, status⟩ := op
                    cases kind with
                    | write task packet sent => exact fairLeft.away (.mark .readData)
                    | resolve | connect | readHeader | readPayload => cases setsUp
                    | timer => cases untimed
                | true =>
                    obtain ⟨kinds, moved⟩ := inStage.dequeue member rfl setsUp queued
                    have fairMoved : Fair op.conn stage.waits (state.dequeue op) :=
                      ⟨held, fair.nominal, .settled _ known moved⟩
                    have tabled : Tabled op.conn (state.dequeue op) := taken.tabled
                    obtain ⟨opConn, kind, status⟩ := op
                    cases queued
                    cases stage with
                    | fresh | linked => cases kinds
                    | resolving task =>
                        cases kinds
                        exact fair_resolved fairMoved known moved
                    | connecting task =>
                        cases kinds
                        obtain ⟨bound, mine⟩ := binds task rfl
                        exact fair_connected fairMoved known moved bound mine succeeds
                    | reading part =>
                        cases part with
                        | header =>
                            cases kinds
                            exact fair_headerRead fairMoved known moved succeeds
                        | payload =>
                            cases kinds
                            exact fair_payloadRead fairMoved tabled known moved succeeds
                              (parses rfl rfl)
      · have left : Fair conn [] (state.dequeue op) := fair.away (.dequeue (.inl mine))
        refine fair_invoke_elsewhere error taken ?_ left mine succeeds untimed ?_
        · obtain ⟨opConn, kind, status⟩ := op
          cases kind <;> rfl
        · intro task binding
          refine binds task ?_
          obtain ⟨opConn, kind, status⟩ := op
          cases kind with
          | resolve | connect | write | timer => exact binding
          | readHeader | readPayload => cases binding

/-- Besides, no call was made so far while the connection's name was resolved. -/
def NominalUnoverlapped (conn : ConnRef) (state : State Msg) (label : Label Msg) : Prop :=
  Nominal state label ∧ (state.connections conn).overlapped = false

theorem fair_step {label : Label Msg} (base : Base False (.none, state))
    (fair : Fair conn [] state) (unstuck : state.stuck = false)
    (permitted : NominalUnoverlapped conn state label) (stepped : state.step label = some next) :
    Fair conn [] next := by
  obtain ⟨nominal, calm⟩ := permitted
  cases label with
  | callMethod call done =>
      obtain ⟨rfl, _⟩ := settle_eq_some stepped
      exact (course_callMethod nominal.1 nominal.2).fair fair
  | complete op error =>
      obtain ⟨rfl, untimed⟩ := nominal
      exact fair.complete untimed stepped
  | writeSome op count => exact fair.writeSome stepped
  | handle op input => exact fair_handle base fair unstuck calm nominal stepped

theorem Fair.initial [Inhabited Msg] : Fair conn [] (channel Msg).initial where
  held := nofun
  nominal := fun task bound => absurd bound (Nat.not_lt_zero task)
  standing := .unknown (Nat.zero_le conn) nofun rfl
    fun task bound => absurd bound (Nat.not_lt_zero task)

/-- At most one operation sets the connection up and at most one reads from it, it
was never destroyed, and only one socket was opened. Every call either waits for
the operation that sets the connection up or was sent once on that socket, where
its packet is in flight or was accepted whole; only such calls are completed. -/
structure GoesThrough (conn : ConnRef) (state : State Msg) : Prop where
  attempts : (state.opsOf conn).countP (fun op => op.kind.isAttempt) ≤ 1
  reads : (state.opsOf conn).countP (fun op => op.kind.isRead) ≤ 1
  intact : (state.connections conn).destroyedAt = none
  oneSocket : (state.connections conn).socket.session ≤ 1
  sent : ∀ task < state.nextTask, (state.tasks task).conn = conn →
    ((state.tasks task).writes = 0 ∧
        ∃ op ∈ state.opsOf conn, op.kind.role.attempts task = true ∧
          ∀ error, op.status ≠ .queued (some error)) ∨
      ((state.tasks task).writes = 1 ∧ (state.connections conn).socket.isOpen = true)
  written : ∀ task < state.nextTask, (state.tasks task).conn = conn →
    (state.connections conn).socket.finished.count task + state.inFlight conn task =
      (state.tasks task).writes
  completed : ∀ task < state.nextTask, (state.tasks task).conn = conn →
    (state.tasks task).called = true → (state.tasks task).writes = 1

omit [Protobuf] in
theorem Stage.length_kinds (stage : Stage) : stage.kinds.length ≤ 1 := by
  cases stage <;> simp [Stage.kinds]

omit [Protobuf] in
theorem InStage.goesThrough {stage : Stage} (inStage : InStage conn stage [] state) :
    GoesThrough conn state := by
  have setUps : (state.opsOf conn).countP (fun op => op.kind.setsUp) ≤ 1 := by
    have length := inStage.kinds.length_eq
    rw [← List.countP_eq_length_filter, List.countP_map] at length
    exact Nat.le_trans (Nat.le_of_eq length) stage.length_kinds
  have writes : ∀ task < state.nextTask, (state.tasks task).conn = conn →
      (state.tasks task).writes = if task ∈ stage.waits then 0 else 1 := by
    intro task bound mine
    rw [inStage.writes task bound mine, List.append_nil]
  refine ⟨?_, ?_, inStage.intact, ?_, ?_, inStage.counted, ?_⟩
  · refine Nat.le_trans (List.countP_mono_left fun op _ attempts => ?_) setUps
    simp [OpKind.setsUp, attempts]
  · refine Nat.le_trans (List.countP_mono_left fun op _ reads => ?_) setUps
    simp [OpKind.setsUp, reads]
  · cases closed : stage.closed with
    | true =>
        rw [(inStage.closed closed).1]
        exact Nat.zero_le 1
    | false => exact Nat.le_of_eq (inStage.opened closed).2
  · intro task bound mine
    by_cases waits : task ∈ stage.waits
    · refine .inl ⟨by rw [writes task bound mine, if_pos waits], ?_⟩
      have carried : ∃ kind ∈ stage.kinds, kind.role.attempts task = true := by
        cases stage with
        | resolving other | connecting other =>
            rw [List.mem_singleton.mp waits]
            exact ⟨_, List.mem_cons_self, decide_eq_true rfl⟩
        | fresh | linked | reading => cases waits
      obtain ⟨kind, member, attempts⟩ := carried
      have listed := (List.mem_filter.mp (inStage.kinds.symm.subset member)).1
      obtain ⟨op, present, rfl⟩ := List.mem_map.mp listed
      exact ⟨op, present, attempts, inStage.calm op present⟩
    · refine .inr ⟨by rw [writes task bound mine, if_neg waits], ?_⟩
      cases closed : stage.closed with
      | true =>
          have waiting := (inStage.closed closed).2 task bound mine
          rw [List.append_nil] at waiting
          exact absurd waiting waits
      | false => exact (inStage.opened closed).1
  · intro task bound mine called
    have positive := inStage.called task bound mine called
    rw [writes task bound mine] at positive ⊢
    split at positive
    · cases positive
    · next sent => exact if_neg sent

/-- While no call is made during the resolution of the connection's name, all calls
on the connection go through. -/
theorem calls_go_through [Inhabited Msg]
    (reached : (channel Msg).ReachableVia (NominalUnoverlapped conn) state)
    (known : conn < state.nextConn) (calm : (state.connections conn).overlapped = false) :
    GoesThrough conn state := by
  have bases : ∀ state, (channel Msg).ReachableVia (NominalUnoverlapped conn) state →
      Base False (.none, state) ∧ state.stuck = false := by
    intro state reached
    obtain ⟨base, _, unstuck⟩ := (kept_nothing (NominalUnoverlapped conn)).reachable reached
    exact ⟨base, unstuck⟩
  have fair : Fair conn [] state := reached.invariant_with (channel Msg) bases .initial
    fun _ _ _ base fair permitted stepped => fair_step base.1 fair base.2 permitted stepped
  cases fair.standing with
  | unknown later unmapped quiet unused => exact absurd known (Nat.not_lt.mpr later)
  | stuck hangs => cases (bases state reached).2.symm.trans hangs
  | overlapped known overlaps => cases calm.symm.trans overlaps
  | settled stage known inStage => exact inStage.goesThrough

end Runs

/-- A second call while the socket is being connected. -/
def connectingRun : List (Label (List UInt8)) :=
  [.callMethod (sampleCall timeoutNever [1]) .returns,
    .complete ⟨0, .resolve 0, .pending⟩ none,
    .handle ⟨0, .resolve 0, .queued none⟩ .silent,
    .callMethod (sampleCall timeoutNever [2]) .returns,
    .complete ⟨0, .connect 0, .pending⟩ none,
    .handle ⟨0, .connect 0, .queued none⟩ .silent]

/-- A second call while the name is being resolved: its connect displaces the first
one, whose handler then destroys the connection. -/
def overlappingRun : List (Label (List UInt8)) :=
  [.callMethod (sampleCall timeoutNever [1]) .returns,
    .callMethod (sampleCall timeoutNever [2]) .returns,
    .complete ⟨0, .resolve 0, .pending⟩ none,
    .handle ⟨0, .resolve 0, .queued none⟩ .silent,
    .complete ⟨0, .resolve 1, .pending⟩ none,
    .handle ⟨0, .resolve 1, .queued none⟩ .silent,
    .handle ⟨0, .connect 0, .queued (some .operationAborted)⟩ .silent,
    .handle ⟨0, .connect 1, .queued (some .operationAborted)⟩ .silent]

theorem sampleCall_nominal (request : List UInt8) :
    (sampleCall timeoutNever request).Nominal :=
  ⟨Realloc.zeroed_succeeds, rfl, rfl⟩

/-- Calls, completions and handlers of the sample runs. -/
theorem nominal_of_sample {state : State (List UInt8)} {label : Label (List UInt8)}
    (member : label ∈ connectingRun ∨ label ∈ overlappingRun) : Nominal state label := by
  simp only [connectingRun, overlappingRun, List.mem_cons, List.not_mem_nil, or_false] at member
  rcases member with member | member
  · rcases member with rfl | rfl | rfl | rfl | rfl | rfl
    · exact ⟨sampleCall_nominal _, trivial⟩
    · exact ⟨rfl, rfl⟩
    · exact ⟨Realloc.zeroed_succeeds, nofun⟩
    · exact ⟨sampleCall_nominal _, trivial⟩
    · exact ⟨rfl, rfl⟩
    · exact ⟨Realloc.zeroed_succeeds, nofun⟩
  · rcases member with rfl | rfl | rfl | rfl | rfl | rfl | rfl | rfl
    · exact ⟨sampleCall_nominal _, trivial⟩
    · exact ⟨sampleCall_nominal _, trivial⟩
    · exact ⟨rfl, rfl⟩
    · exact ⟨Realloc.zeroed_succeeds, nofun⟩
    · exact ⟨rfl, rfl⟩
    · exact ⟨Realloc.zeroed_succeeds, nofun⟩
    · exact ⟨Realloc.zeroed_succeeds, nofun⟩
    · exact ⟨Realloc.zeroed_succeeds, nofun⟩

/-- The second call went out before the first. -/
theorem calls_go_through_connecting :
    ∃ state, (channel (List UInt8)).ReachableVia (NominalUnoverlapped 0) state ∧
      state.nextTask = 2 ∧ GoesThrough 0 state := by
  have observed : ((channel (List UInt8)).runVia
      (fun state _ => (state.connections 0).overlapped = false) connectingRun
      (channel (List UInt8)).initial).map
      (fun state => (state.nextConn, (state.connections 0).overlapped, state.nextTask)) =
        some (1, false, 2) := by
    decide
  have implied : ∀ label ∈ connectingRun, ∀ state : State (List UInt8),
      (state.connections 0).overlapped = false → NominalUnoverlapped 0 state label :=
    fun label member state calm => ⟨nominal_of_sample (.inl member), calm⟩
  obtain ⟨state, reached, same⟩ :=
    (channel (List UInt8)).exists_reachableVia_of_implied implied observed
  simp only [Prod.mk.injEq] at same
  obtain ⟨conns, calm, count⟩ := same
  have known : 0 < state.nextConn := by
    rw [conns]
    exact Nat.one_pos
  exact ⟨state, reached, count, calls_go_through reached known calm⟩

/-- Both calls of a run in which nothing fails are completed as failed, and no packet
was sent. -/
theorem calls_fail_resolving :
    ∃ state, (channel (List UInt8)).ReachableVia Nominal state ∧ ¬ GoesThrough 0 state ∧
      state.nextTask = 2 ∧ ∀ task < state.nextTask, (state.tasks task).called = true ∧
        (state.tasks task).controller.errorText = "failed to connect, Operation canceled" ∧
        (state.tasks task).writes = 0 := by
  have observed : ((channel (List UInt8)).run overlappingRun
      (channel (List UInt8)).initial).map
      (fun state => ((state.connections 0).destroyedAt, state.nextTask,
        (List.range 2).map fun task => ((state.tasks task).called,
          (state.tasks task).controller.errorText, (state.tasks task).writes))) =
      some (some 2, 2, List.replicate 2 (true, "failed to connect, Operation canceled", 0)) := by
    decide
  have implied : ∀ label ∈ overlappingRun, ∀ state : State (List UInt8),
      True → Nominal state label := fun label member state _ => nominal_of_sample (.inr member)
  obtain ⟨state, reached, same⟩ :=
    (channel (List UInt8)).exists_reachableVia_of_implied implied observed
  simp only [Prod.mk.injEq] at same
  obtain ⟨destroyed, count, results⟩ := same
  refine ⟨state, reached, fun through => ?_, count, fun task bound => ?_⟩
  · cases through.intact.symm.trans destroyed
  · rw [count] at bound
    have listed : ((state.tasks task).called, (state.tasks task).controller.errorText,
        (state.tasks task).writes) ∈
          List.replicate 2 (true, "failed to connect, Operation canceled", 0) :=
      results ▸ List.mem_map_of_mem (List.mem_range.mpr bound)
    simpa using List.eq_of_mem_replicate listed

end CarrotRpc.Client
