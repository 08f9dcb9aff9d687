import CarrotRpc.Client.CallScripts

/-! The handlers as sequences of steps. -/

set_option autoImplicit false

namespace CarrotRpc.Client

open Library Common Protob

variable {Msg : Type}

abbrev Script (careful : Prop) (before after : Duty × State Msg) : Prop :=
  Relation.ReflTransGen (HandlerStep careful) before after

theorem Base.script {careful : Prop} {before after : Duty × State Msg}
    (base : Base careful before) (script : Script careful before after) :
    Base careful after := by
  induction script with
  | refl => exact base
  | tail _ step ih => exact ih.handlerStep step

theorem CallScript.script {careful : Prop} {before after : Duty × State Msg}
    (script : CallScript careful before after) : Script careful before after :=
  Relation.ReflTransGen.mono (fun _ _ => .call) _ _ script

/-- In careful runs no task in a table has been completed. -/
def Waiting (state : State Msg) : Prop :=
  ∀ conn, ∀ entry ∈ (state.connections conn).outgoingTasks.entries,
    (state.tasks entry.2).runs = 0

section Scripts

variable [Protobuf] {careful : Prop} {hand : List TaskRef} {serving : List ConnRef}
  {doomed : List ConnRef} {state : State Msg} {task : TaskRef} {conn : ConnRef}

theorem callScript_failTask (reason : String) (code : ErrorCode)
    (base : Base careful (⟨task :: hand, serving, [], doomed⟩, state))
    (bound : task < state.nextTask)
    (unlisted : state.Listed task → (state.tasks task).conn ∈ doomed) :
    CallScript careful (⟨task :: hand, serving, [], doomed⟩, state)
        (⟨hand, serving, [], doomed⟩, state.failTask reason code task) ∧
      Ran task (state.failTask reason code task) := by
  unfold State.failTask
  split
  · next called =>
      have ran := base.sound.called_runs task bound called
      exact ⟨.single (.drop ran), bound, ran⟩
  · next uncalled =>
      have fresh : (state.tasks task).runs = 0 :=
        base.sound.runs_zero bound (eq_false_of_ne_true uncalled) List.not_mem_nil
      have noted : CallScript careful (⟨task :: hand, serving, [], doomed⟩, state)
          (⟨task :: hand, serving, [], doomed⟩, state.setFailed task reason code) :=
        callScript_setFailed reason code fun _ => fresh
      have notedBase := base.callScript noted
      have body : BodyScript careful (state.tasks task).done.run :=
        bodyScript_run _ fun calm => base.tame calm task bound
      have run := callScript_runDone body notedBase bound
        (by simpa [State.setFailed, State.borrow] using fresh)
        (fun listed => by
          simpa [State.setFailed, State.borrow] using unlisted (by
            simpa [State.Listed, State.setFailed, State.borrow] using listed))
      exact ⟨noted.trans run.1, run.2⟩

/-- One round of the loop of `destroy`. -/
theorem script_destroyRound {outgoing : OrderedMap Nat TaskRef} {entry : Nat × TaskRef}
    (reason : String) (code : ErrorCode)
    (base : Base careful (⟨hand, serving, [], doomed⟩, state)) (member : conn ∈ doomed)
    (resting : Resting conn outgoing state) (listed : entry ∈ outgoing.entries) :
    Script careful (⟨hand, serving, [], doomed⟩, state)
        (⟨hand, serving, [], doomed⟩,
          (state.cancelTimer entry.2).failTask reason code entry.2) ∧
      Resting conn outgoing ((state.cancelTimer entry.2).failTask reason code entry.2) ∧
      Ran entry.2 ((state.cancelTimer entry.2).failTask reason code entry.2) ∧
      ∀ task, Ran task state →
        Ran task ((state.cancelTimer entry.2).failTask reason code entry.2) := by
  have assumed : HandlerStep careful (⟨hand, serving, [], doomed⟩, state)
      (⟨entry.2 :: hand, serving, [], doomed⟩, state) := .assume [entry.2] [] []
  have cancelled : CallStep careful (⟨entry.2 :: hand, serving, [], doomed⟩, state)
      (⟨entry.2 :: hand, serving, [], doomed⟩, state.cancelTimer entry.2) := .cancelTimer
  have present : entry ∈ (state.connections conn).outgoingTasks.entries :=
    resting.outgoing.symm ▸ listed
  obtain ⟨bound, sameConn, _⟩ := base.sound.entry conn entry present
  have same : (state.tasks entry.2).conn = conn := sameConn
  have ready := (base.handlerStep assumed).callStep cancelled
  obtain ⟨failed, ran⟩ := callScript_failTask reason code ready bound fun _ => same.symm ▸ member
  have script := Relation.ReflTransGen.head cancelled failed
  refine ⟨.head assumed (CallScript.script script), ?_, ran, fun task => ?_⟩
  · exact CallScript.resting script member resting
  · exact CallScript.holds lasting_ran script

/-- The loop of `destroy` over the entries that remain. -/
theorem script_destroyLoop {outgoing : OrderedMap Nat TaskRef} (reason : String)
    (code : ErrorCode) (remaining : List (Nat × TaskRef))
    (base : Base careful (⟨hand, serving, [], doomed⟩, state)) (member : conn ∈ doomed)
    (resting : Resting conn outgoing state) (listed : remaining ⊆ outgoing.entries)
    (ran : ∀ entry ∈ outgoing.entries, entry ∉ remaining → Ran entry.2 state) :
    let final := remaining.foldl
      (fun state entry => (state.cancelTimer entry.2).failTask reason code entry.2) state
    Script careful (⟨hand, serving, [], doomed⟩, state) (⟨hand, serving, [], doomed⟩, final) ∧
      Resting conn outgoing final ∧ ∀ entry ∈ outgoing.entries, Ran entry.2 final := by
  induction remaining generalizing state with
  | nil => exact ⟨.refl, resting, fun entry present => ran entry present List.not_mem_nil⟩
  | cons entry remaining ih =>
      obtain ⟨round, rests, completed, lasting⟩ :=
        script_destroyRound reason code base member resting (listed List.mem_cons_self)
      have rest := ih (base.script round) rests (fun _ later => listed (List.mem_cons_of_mem _ later))
        fun other present done => ?_
      · exact ⟨round.trans rest.1, rest.2⟩
      · by_cases same : other = entry
        · exact same ▸ completed
        · refine lasting _ (ran other present fun later => ?_)
          exact (List.mem_cons.mp later).elim same done

theorem script_destroy (reason : SystemError)
    (base : Base careful (⟨hand, conn :: serving, [], conn :: doomed⟩, state))
    (known : conn < state.nextConn) :
    Script careful (⟨hand, conn :: serving, [], conn :: doomed⟩, state)
      (⟨hand, serving, [], doomed⟩, state.destroy conn reason) := by
  unfold State.destroy
  simp only
  have closed : Script careful (⟨hand, conn :: serving, [], conn :: doomed⟩, state)
      (⟨hand, conn :: serving, [], conn :: doomed⟩,
        (state.cancelResolver conn).closeSocket conn) :=
    .tail (.single .cancelResolver) .close
  have rests : Resting conn (state.connections conn).outgoingTasks
      ((state.cancelResolver conn).closeSocket conn) := by
    refine ⟨known, ?_, ?_⟩ <;> simp [State.closeSocket, State.cancelResolver, State.cancel]
  have table : (((state.cancelResolver conn).closeSocket conn).connections conn).outgoingTasks =
      (state.connections conn).outgoingTasks := rests.outgoing
  rw [table]
  obtain ⟨loop, finalRests, ran⟩ := script_destroyLoop ("rpc failed: " ++ reason.message)
    .failed _ (base.script closed) List.mem_cons_self rests (List.Subset.refl _)
    fun entry present absent => absurd present absent
  refine closed.trans (loop.trans (.tail (.single (.clear ?_)) (.release ?_ ?_)))
  · intro entry present
    exact (ran entry (finalRests.outgoing ▸ present)).2
  · simpa [State.clearOutgoing] using finalRests.closed
  · simp [State.clearOutgoing]

theorem script_destroyIdle (reason : SystemError)
    (base : Base careful (⟨hand, serving, [], doomed⟩, state)) (known : conn < state.nextConn) :
    Script careful (⟨hand, serving, [], doomed⟩, state)
      (⟨hand, serving, [], doomed⟩, state.destroy conn reason) := by
  have assumed : HandlerStep careful (⟨hand, serving, [], doomed⟩, state)
      (⟨hand, conn :: serving, [], conn :: doomed⟩, state) := .assume [] [conn] [conn]
  exact .head assumed (script_destroy reason (base.handlerStep assumed) known)

/-- `destroy` after the failure of a task that the handler took over. -/
theorem script_failAndDestroy (text : String) (code : ErrorCode) (reason : SystemError)
    (base : Base careful (⟨task :: hand, conn :: serving, [], doomed⟩, state))
    (bound : task < state.nextTask) (sameConn : (state.tasks task).conn = conn) :
    Script careful (⟨task :: hand, conn :: serving, [], doomed⟩, state)
      (⟨hand, serving, [], doomed⟩, (state.failTask text code task).destroy conn reason) := by
  have assumed : HandlerStep careful (⟨task :: hand, conn :: serving, [], doomed⟩, state)
      (⟨task :: hand, conn :: serving, [], conn :: doomed⟩, state) := .assume [] [] [conn]
  have ready := base.handlerStep assumed
  obtain ⟨failed, _⟩ := callScript_failTask text code ready bound
    fun _ => sameConn.symm ▸ List.mem_cons_self
  have known : conn < (state.failTask text code task).nextConn :=
    Nat.lt_of_lt_of_le (sameConn ▸ base.sound.conn_lt task bound)
      (CallScript.nextConn_le failed)
  exact .head assumed (failed.script.trans (script_destroy reason (ready.callScript failed) known))

theorem script_handleTimeout (error : Option SystemError)
    (base : Base careful (⟨[], [], [], []⟩, state)) (bound : task < state.nextTask) :
    Script careful (⟨[], [], [], []⟩, state) (⟨[], [], [], []⟩, state.handleTimeout task error) := by
  cases error with
  | some error => exact .refl
  | none =>
      unfold State.handleTimeout
      simp only
      have erased : HandlerStep careful (⟨[], [], [], []⟩, state)
          (⟨[task], [], [], []⟩, state.eraseOutgoing task) := .erase bound
      have unlisted : ¬ (state.eraseOutgoing task).Listed task := by
        simp [State.Listed, State.eraseOutgoing]
      obtain ⟨failed, _⟩ := callScript_failTask
        ("rpc timed out at state " ++ (state.tasks task).state.str) .rpcTimeout
        (base.handlerStep erased) bound fun listed => absurd listed unlisted
      have script := Relation.ReflTransGen.head erased failed.script
      have started : (state.tasks task).conn < (state.eraseOutgoing task).nextConn :=
        base.sound.conn_lt task bound
      have known := Nat.lt_of_lt_of_le started (CallScript.nextConn_le failed)
      split
      · exact script.trans (script_destroyIdle .timedOut (base.script script) known)
      · exact script

theorem script_handleResolve (error : Option SystemError)
    (base : Base careful (⟨[task], [], [], []⟩, state)) (bound : task < state.nextTask)
    (sameConn : (state.tasks task).conn = conn) (unsent : state.ledger.Unsent task) :
    Script careful (⟨[task], [], [], []⟩, state)
      (⟨[], [], [], []⟩, (state.handleResolve conn task error).1) := by
  cases error with
  | none => exact sameConn ▸ .single (.connect bound unsent)
  | some error =>
      have assumed : HandlerStep careful (⟨[task], [], [], []⟩, state)
          (⟨[task], [conn], [], []⟩, state) := .assume [] [conn] []
      exact .head assumed
        (script_failAndDestroy _ _ error (base.handlerStep assumed) bound sameConn)

theorem script_startRead (heap : Realloc)
    (base : Base careful (⟨hand, conn :: serving, [], doomed⟩, state))
    (known : conn < state.nextConn) :
    Script careful (⟨hand, conn :: serving, [], doomed⟩, state)
      (⟨hand, serving, [], doomed⟩, (state.startRead heap conn).1) := by
  unfold State.startRead
  split
  · exact .single .hang
  · next buf expanded _ =>
      have noted : HandlerStep careful (⟨hand, conn :: serving, [], doomed⟩, state)
          (⟨hand, conn :: serving, [], doomed⟩,
            state.modifyConn conn fun connection => { connection with buf := buf }) :=
        .call (.noteConn rfl)
      simp only
      split
      · have assumed : HandlerStep careful
            (⟨hand, conn :: serving, [], doomed⟩,
              state.modifyConn conn fun connection => { connection with buf := buf })
            (⟨hand, conn :: serving, [], conn :: doomed⟩, _) := .assume [] [] [conn]
        have ready := (base.handlerStep noted).handlerStep assumed
        exact .head noted (.head assumed (script_destroy .notEnoughMemory ready known))
      · exact .head noted (.single (.read rfl known))

theorem script_handleConnect (heap : Realloc) (error : Option SystemError)
    (base : Base careful (⟨[task], [conn], [], []⟩, state)) (bound : task < state.nextTask)
    (sameConn : (state.tasks task).conn = conn) (unsent : state.ledger.Unsent task)
    (fresh : careful → error = none → (state.tasks task).runs = 0) :
    Script careful (⟨[task], [conn], [], []⟩, state)
      (⟨[], [], [], []⟩, (state.handleConnect heap conn task error).1) := by
  cases error with
  | some error => exact script_failAndDestroy _ _ error base bound sameConn
  | none =>
      have known : conn < state.nextConn := sameConn ▸ base.sound.conn_lt task bound
      have noted : CallStep careful (⟨[task], [conn], [], []⟩, state)
          (⟨[task], [conn], [], []⟩,
            state.modifyConn conn fun connection => { connection with connecting := false }) :=
        .noteConn rfl
      have body : BodyScript careful (state.tasks task).done.run :=
        bodyScript_run _ fun calm => base.tame calm task bound
      have stillUnsent : (state.modifyConn conn fun connection =>
          { connection with connecting := false }).ledger.Unsent task := by
        rw [State.ledger_modifyConn_same rfl]
        exact unsent
      have called := callScript_startCall body (base.callStep noted) bound List.not_mem_nil
        stillUnsent (fun calm => fresh calm rfl)
        (.inl ⟨sameConn ▸ List.mem_cons_self, List.not_mem_nil⟩)
      have script := Relation.ReflTransGen.head noted called
      have stillKnown := Nat.lt_of_lt_of_le known (CallScript.nextConn_le script)
      exact (CallScript.script script).trans
        (script_startRead heap (base.callScript script) stillKnown)

theorem script_handleReadHeader (heap : Realloc) (header : Header) (error : Option SystemError)
    (base : Base careful (⟨[], [conn], [], []⟩, state)) (known : conn < state.nextConn) :
    Script careful (⟨[], [conn], [], []⟩, state)
      (⟨[], [], [], []⟩, (state.handleReadHeader heap conn header error).1) := by
  have assumed : ∀ state : State Msg, HandlerStep careful (⟨[], [conn], [], []⟩, state)
      (⟨[], [conn], [], [conn]⟩, state) := fun _ => .assume [] [] [conn]
  cases error with
  | some error =>
      exact .head (assumed _) (script_destroy error (base.handlerStep (assumed _)) known)
  | none =>
      unfold State.handleReadHeader
      simp only
      have noted : HandlerStep careful (⟨[], [conn], [], []⟩, state)
          (⟨[], [conn], [], []⟩, state.modifyConn conn fun connection =>
            { connection with header, n := header.rpcLen + header.reqLen + header.respLen }) :=
        .call (.noteConn rfl)
      split
      · exact .head noted (.single .hang)
      · next buf expanded _ =>
          refine .head noted ?_
          have expandedStep : ∀ state : State Msg,
              HandlerStep careful (⟨[], [conn], [], []⟩, state)
                (⟨[], [conn], [], []⟩,
                  state.modifyConn conn fun connection => { connection with buf := buf }) :=
            fun _ => .call (.noteConn rfl)
          refine .head (expandedStep _) ?_
          have ready := (base.handlerStep noted).handlerStep (expandedStep _)
          split
          · exact .head (assumed _)
              (script_destroy .notEnoughMemory (ready.handlerStep (assumed _)) known)
          · exact .single (.read rfl known)

theorem script_handleWrite (error : Option SystemError)
    (base : Base careful (⟨[], [], [], []⟩, state)) (bound : task < state.nextTask)
    (sameConn : (state.tasks task).conn = conn) :
    Script careful (⟨[], [], [], []⟩, state)
      (⟨[], [], [], []⟩, (state.handleWrite conn task error).1) := by
  cases error with
  | none =>
      simp only [State.handleWrite]
      exact .single (.call (.note rfl))
  | some error =>
      have assumed : HandlerStep careful (⟨[], [], [], []⟩, state)
          (⟨[task], [conn], [], []⟩, state) := .assume [task] [conn] []
      exact .head assumed
        (script_failAndDestroy _ _ error (base.handlerStep assumed) bound sameConn)

omit [Protobuf] in
theorem callScript_applyStatus {duty : Duty} (rpcResp : Response)
    (fresh : careful → (state.tasks task).runs = 0) :
    CallScript careful (duty, state) (duty, state.applyStatus task rpcResp) := by
  unfold State.applyStatus
  cases rpcResp.getStatus with
  | notFound | error | failed => exact callScript_setFailed _ _ fresh
  | success => exact .refl

omit [Protobuf] in
theorem callScript_parseResponse {duty : Duty} (bytes : List UInt8)
    (fresh : careful → (state.tasks task).runs = 0) :
    CallScript careful (duty, state) (duty, state.parseResponse task bytes) := by
  have borrowed : CallStep careful (duty, state) (duty, state.borrow task) := .borrow fresh
  unfold State.parseResponse
  simp only
  split
  · exact .tail (.single borrowed) (.note rfl)
  · exact .head borrowed (callScript_setFailed _ _ (by simpa [State.borrow] using fresh))

omit [Protobuf] in
theorem runs_applyStatus (rpcResp : Response) :
    ((state.applyStatus task rpcResp).tasks task).runs = (state.tasks task).runs := by
  unfold State.applyStatus
  cases rpcResp.getStatus with
  | notFound | error | failed => simp [State.setFailed, State.borrow]
  | success => rfl

/-- A read that was started left the tasks alone. -/
theorem holds_startRead {fact : TaskEntry → Prop} {heap : Realloc} {next : State Msg}
    (started : state.startRead heap conn = (next, none)) (holds : Holds fact task state) :
    Holds fact task next := by
  unfold State.startRead at started
  split at started
  · cases started
    exact holds
  · simp only at started
    split at started
    · cases started
    · cases started
      exact holds

/-- The response was parsed and belongs to a task. -/
theorem script_receive (heap : Realloc) (rpcResp : Response) (bytes : List UInt8)
    (base : Base careful (⟨[], [conn], [], []⟩, state)) (known : conn < state.nextConn)
    (waiting : careful → Waiting state)
    (listed : (rpcResp.getId, task) ∈ (state.connections conn).outgoingTasks.entries) :
    Script careful (⟨[], [conn], [], []⟩, state)
      (⟨[], [], [], []⟩,
        (match (((state.modifyTask task fun record => { record with state := .done }).applyStatus
            task rpcResp).parseResponse task bytes).startRead heap conn with
          | (state, some thrown) => (state, some thrown)
          | (state, none) =>
              let state := state.modifyConn conn fun connection =>
                { connection with
                  outgoingTasks := connection.outgoingTasks.erase rpcResp.getId }
              (state.finishTask (state.tasks task).done.run task, none)).1) := by
  have fresh : careful → (state.tasks task).runs = 0 := fun calm => waiting calm conn _ listed
  obtain ⟨bound, sameConn, sameId⟩ := base.sound.entry conn _ listed
  have noted : CallStep careful (⟨[], [conn], [], []⟩, state) (⟨[], [conn], [], []⟩,
      state.modifyTask task fun record => { record with state := .done }) := .note rfl
  have markedFresh : careful → ((state.modifyTask task fun record =>
      { record with state := .done }).tasks task).runs = 0 := by
    simpa using fresh
  generalize state.modifyTask task (fun record => { record with state := .done }) = marked
    at noted markedFresh ⊢
  have applied : CallScript careful (⟨[], [conn], [], []⟩, marked)
      (⟨[], [conn], [], []⟩, marked.applyStatus task rpcResp) :=
    callScript_applyStatus rpcResp markedFresh
  have parsed : CallScript careful (⟨[], [conn], [], []⟩, marked.applyStatus task rpcResp)
      (⟨[], [conn], [], []⟩, (marked.applyStatus task rpcResp).parseResponse task bytes) :=
    callScript_parseResponse bytes (by rw [runs_applyStatus]; exact markedFresh)
  have script := Relation.ReflTransGen.head noted (applied.trans parsed)
  have identity := CallScript.holds (lasting_identity conn rpcResp.getId) script
    ⟨bound, sameConn, sameId⟩
  generalize (marked.applyStatus task rpcResp).parseResponse task bytes = ready
    at script identity ⊢
  have read := script_startRead heap (base.callScript script)
    (Nat.lt_of_lt_of_le known (CallScript.nextConn_le script))
  cases started : ready.startRead heap conn with
  | mk next thrown =>
      rw [started] at read
      have all := (CallScript.script script).trans read
      cases thrown with
      | some thrown => exact all
      | none =>
          obtain ⟨nextBound, nextConn, nextId⟩ := holds_startRead started identity
          have erased : HandlerStep careful (⟨[], [], [], []⟩, next)
              (⟨[task], [], [], []⟩, next.eraseOutgoing task) := .erase nextBound
          have erasedBase := (base.script all).handlerStep erased
          have unlisted : ¬ (next.eraseOutgoing task).Listed task := by
            simp [State.Listed, State.eraseOutgoing]
          have body : BodyScript careful (next.tasks task).done.run :=
            bodyScript_run _ fun calm => erasedBase.tame calm task nextBound
          have finished := callScript_finishTask body erasedBase nextBound List.not_mem_nil
            fun listed => absurd listed unlisted
          have sameErase : next.eraseOutgoing task = next.modifyConn conn fun connection =>
              { connection with
                outgoingTasks := connection.outgoingTasks.erase rpcResp.getId } := by
            have conn_eq : (next.tasks task).conn = conn := nextConn
            have id_eq : (next.tasks task).id = rpcResp.getId := nextId
            rw [State.eraseOutgoing, conn_eq, id_eq]
          rw [sameErase] at erased finished
          exact all.trans (.head erased (CallScript.script finished))

theorem script_failReading (reason : SystemError)
    (base : Base careful (⟨[], [conn], [], []⟩, state)) (known : conn < state.nextConn) :
    Script careful (⟨[], [conn], [], []⟩, state)
      (⟨[], [], [], []⟩, state.destroy conn reason) := by
  have assumed : HandlerStep careful (⟨[], [conn], [], []⟩, state)
      (⟨[], [conn], [], [conn]⟩, state) := .assume [] [] [conn]
  exact .head assumed (script_destroy reason (base.handlerStep assumed) known)

theorem script_receivePayload (heap : Realloc) (data : List UInt8)
    (base : Base careful (⟨[], [conn], [], []⟩, state)) (known : conn < state.nextConn)
    (waiting : careful → Waiting state) :
    Script careful (⟨[], [conn], [], []⟩, state)
      (⟨[], [], [], []⟩, (state.receivePayload heap conn data).1) := by
  unfold State.receivePayload
  simp only
  split
  · exact script_failReading _ base known
  · next rpcResp _ =>
      split
      · exact script_startRead heap base known
      · next task found =>
          exact script_receive heap rpcResp _ base known waiting
            (OrderedMap.find?_eq_some_iff.mp found)

theorem script_handleReadPayload (heap : Realloc) (data : List UInt8) (transferred : Nat)
    (error : Option SystemError) (base : Base careful (⟨[], [conn], [], []⟩, state))
    (known : conn < state.nextConn) (waiting : careful → Waiting state) :
    Script careful (⟨[], [conn], [], []⟩, state)
      (⟨[], [], [], []⟩, (state.handleReadPayload heap conn data transferred error).1) := by
  have received := script_receivePayload heap data base known waiting
  cases error with
  | none => exact received
  | some error =>
      simp only [State.handleReadPayload]
      split
      · exact received
      · exact script_failReading error base known

end Scripts

end CarrotRpc.Client
