import CarrotRpc.Client.Answered
import CarrotRpc.Client.Sessions

/-! What the steps of a channel do to a connection before its first `destroy`. All of them
leave it in its stage, apart from the successful ends of the operations that set it up and
read from it. -/

set_option autoImplicit false

namespace CarrotRpc.Client

open Library Common Protob

variable {Msg : Type}

section Handlers

variable [Protobuf] {conn other : ConnRef} {exempt : Option TaskRef} {state : State Msg}
  {task : TaskRef}

theorem passage_failAndDestroy {text : String} {code : ErrorCode} {reason : SystemError}
    (bound : task < state.nextTask) (known : other < state.nextConn) (numbered : Numbered state) :
    Passage conn exempt state ((state.failTask text code task).destroy other reason) := by
  have failed : Passage conn exempt state (state.failTask text code task) := passage_failTask bound
  apply failed.trans
  exact passage_destroy (known.trans_le failed.known) (failed.numbered numbered)

/-- Nothing but the end of a connection comes of a failure on it. -/
theorem beyond_failAndDestroy {text : String} {code : ErrorCode} {reason : SystemError}
    (bound : task < state.nextTask) (known : conn < state.nextConn) (numbered : Numbered state) :
    Beyond conn ((state.failTask text code task).destroy conn reason) := by
  have failed : Passage conn none state (state.failTask text code task) := passage_failTask bound
  exact beyond_destroy (known.trans_le failed.known) (failed.numbered numbered)

theorem passage_erase (other : ConnRef) (id : Nat) :
    Passage conn exempt state (state.modifyConn other fun connection =>
      { connection with outgoingTasks := connection.outgoingTasks.erase id }) := by
  apply Passage.modifyConn
  · exact fun _ => ⟨rfl, rfl, rfl, rfl, rfl, rfl⟩
  · exact fun entry member => .inl (OrderedMap.mem_erase_iff.mp member).1

theorem passage_handleTimeout (bound : task < state.nextTask)
    (known : (state.tasks task).conn < state.nextConn) (numbered : Numbered state)
    (error : Option SystemError) : Passage conn exempt state (state.handleTimeout task error) := by
  cases error with
  | some error => exact .refl state
  | none =>
      have erased : Passage conn exempt state (state.modifyConn (state.tasks task).conn
          fun connection =>
            { connection with
              outgoingTasks := connection.outgoingTasks.erase (state.tasks task).id }) :=
        passage_erase _ _
      unfold State.handleTimeout
      simp only
      split
      · apply erased.trans
        exact passage_failAndDestroy bound known (erased.numbered numbered)
      · exact erased.trans (passage_failTask bound)

theorem passage_startRead (different : other ≠ conn) (known : other < state.nextConn)
    (numbered : Numbered state) (heap : Realloc) :
    Passage conn exempt state (state.startRead heap other).1 := by
  unfold State.startRead
  split
  · exact .getStuck
  · next buf expanded grown =>
      have sized : Passage conn exempt state (state.modifyConn other fun connection =>
          { connection with buf := buf }) := .elsewhere different fun _ => rfl
      simp only
      split
      · exact sized.trans (passage_destroy known (sized.numbered numbered))
      · exact sized.trans (.start (fun same => absurd same different) nofun)

theorem passage_handleReadHeader (different : other ≠ conn) (known : other < state.nextConn)
    (numbered : Numbered state) (heap : Realloc) (header : Header) (error : Option SystemError) :
    Passage conn exempt state (state.handleReadHeader heap other header error).1 := by
  cases error with
  | some error => exact passage_destroy known numbered
  | none =>
      have noted : Passage conn exempt state (state.modifyConn other fun connection =>
          { connection with header, n := header.rpcLen + header.reqLen + header.respLen }) :=
        .elsewhere different fun _ => rfl
      unfold State.handleReadHeader
      simp only
      split
      · exact noted.trans .getStuck
      · next buf expanded grown =>
          have sized : Passage conn exempt state ((state.modifyConn other fun connection =>
              { connection with
                header, n := header.rpcLen + header.reqLen + header.respLen }).modifyConn other
                fun connection => { connection with buf := buf }) :=
            noted.trans (.elsewhere different fun _ => rfl)
          split
          · exact sized.trans (passage_destroy known (sized.numbered numbered))
          · exact sized.trans (.start (fun same => absurd same different) nofun)

theorem passage_applyStatus (task : TaskRef) (rpcResp : Response) :
    Passage conn exempt state (state.applyStatus task rpcResp) := by
  unfold State.applyStatus
  split
  · exact .setFailed
  · exact .setFailed
  · exact .setFailed
  · exact .refl state

theorem passage_parseResponse (task : TaskRef)
    (spared : exempt ≠ some task → (state.tasks task).conn ≠ conn) (bytes : List UInt8) :
    Passage conn exempt state (state.parseResponse task bytes) := by
  have lent : Passage conn exempt state (state.borrow task) := .borrow
  have own : ((state.borrow task).tasks task).conn = (state.tasks task).conn := by
    simp [State.borrow]
  unfold State.parseResponse
  simp only
  split
  · apply lent.trans
    apply Passage.modifyTask
    refine ⟨rfl, rfl, rfl, fun failed => failed, ?_⟩
    intro ordinary mine
    exact absurd (own.symm.trans mine) (spared ordinary)
  · exact lent.trans .setFailed

/-- What the response tells is noted for its own task. -/
theorem passage_learn (bound : task < state.nextTask)
    (spared : exempt ≠ some task → (state.tasks task).conn ≠ conn) (rpcResp : Response)
    (parameter : List UInt8) : Passage conn exempt state (state.learn task rpcResp parameter) := by
  have marked : Passage conn exempt state (state.modifyTask task fun record =>
      { record with state := .done }) := .note fun _ => ⟨rfl, rfl, rfl, rfl, rfl, rfl⟩
  have applied := marked.trans (passage_applyStatus task rpcResp)
  apply applied.trans
  apply passage_parseResponse
  intro ordinary mine
  exact spared ordinary ((applied.keeps task bound).own.symm.trans mine)

theorem passage_receivePayload (different : other ≠ conn) (known : other < state.nextConn)
    (numbered : Numbered state) (tabled : Tabled other state) (heap : Realloc)
    (data : List UInt8) :
    Passage conn exempt state (state.receivePayload heap other data).1 := by
  unfold State.receivePayload
  simp only
  split
  · exact passage_destroy known numbered
  · next rpcResp _ =>
      split
      · exact passage_startRead different known numbered heap
      · next task found =>
          obtain ⟨bound, own⟩ := tabled _ (OrderedMap.find?_eq_some_iff.mp found)
          have foreign : (state.tasks task).conn ≠ conn := by
            rw [own]
            exact different
          have learnt : Passage conn exempt state (state.learn task rpcResp
              ((data.drop (state.connections other).header.rpcLen.toNat).take
                (state.connections other).header.respLen.toNat)) :=
            passage_learn bound (fun _ => foreign) _ _
          have read := learnt.trans (passage_startRead different (known.trans_le learnt.known)
            (learnt.numbered numbered) heap)
          unfold State.learn at read
          split
          · next started =>
              rw [started] at read
              exact read
          · next started =>
              rw [started] at read
              have erased := read.trans (passage_erase other rpcResp.getId)
              apply erased.trans
              apply passage_finishTask (passage_run _) (bound.trans_le erased.count)
              intro _ mine
              exact absurd ((erased.keeps task bound).own.symm.trans mine) foreign

theorem passage_handleReadPayload (different : other ≠ conn) (known : other < state.nextConn)
    (numbered : Numbered state) (tabled : Tabled other state) (heap : Realloc)
    (data : List UInt8) (transferred : Nat) (error : Option SystemError) :
    Passage conn exempt state (state.handleReadPayload heap other data transferred error).1 := by
  cases error with
  | none => exact passage_receivePayload different known numbered tabled heap data
  | some error =>
      unfold State.handleReadPayload
      simp only
      split
      · exact passage_receivePayload different known numbered tabled heap data
      · exact passage_destroy known numbered

theorem passage_handleWrite (bound : task < state.nextTask) (known : other < state.nextConn)
    (numbered : Numbered state) (error : Option SystemError) :
    Passage conn exempt state (state.handleWrite other task error).1 := by
  cases error with
  | none =>
      have marked : Passage conn exempt state (state.modifyTask task fun record =>
          { record with state := .readData }) := .note fun _ => ⟨rfl, rfl, rfl, rfl, rfl, rfl⟩
      exact marked
  | some error => exact passage_failAndDestroy bound known numbered

theorem passage_handleConnect (different : other ≠ conn) (bound : task < state.nextTask)
    (known : other < state.nextConn) (numbered : Numbered state) (heap : Realloc)
    (error : Option SystemError) :
    Passage conn exempt state (state.handleConnect heap other task error).1 := by
  cases error with
  | some error => exact passage_failAndDestroy bound known numbered
  | none =>
      have connected : Passage conn exempt state (state.modifyConn other fun connection =>
          { connection with connecting := false }) := .elsewhere different fun _ => rfl
      have called : Passage conn exempt state ((state.modifyConn other fun connection =>
          { connection with connecting := false }).startCall (state.tasks task).done.run task) :=
        connected.trans (passage_startCall (passage_run _) bound)
      exact called.trans (passage_startRead different (known.trans_le called.known)
        (called.numbered numbered) heap)

end Handlers

section Operations

variable [Protobuf] {conn : ConnRef} {exempt : Option TaskRef} {state next : State Msg} {op : Op}
  {stage : Stage}

omit [Protobuf] in
/-- The set-up operations of the connection, apart from one of them. -/
theorem setUps_dequeue (member : op ∈ state.ops) (mine : op.conn = conn)
    (setsUp : op.kind.setsUp = true) :
    (op.kind :: (state.dequeue op).setUps conn).Perm (state.setUps conn) := by
  have perm := ((List.perm_cons_erase member).filter
    fun op => decide (op.conn = conn) && op.kind.setsUp).map Op.kind
  have chosen : (decide (op.conn = conn) && op.kind.setsUp) = true := by
    simp [mine, setsUp]
  rw [List.filter_cons, if_pos chosen] at perm
  exact perm.symm

theorem progress_dequeue (op : Op) : Progress conn exempt state (state.dequeue op) := by
  refine .of_tasks (Nat.le_refl _) rfl rfl ?_ (fun numbered => numbered) fun _ => ⟨rfl, rfl⟩
  intro packed other member
  exact packed other (List.mem_of_mem_erase member)

theorem passage_dequeue (routine : op.conn = conn → op.kind.setsUp = false) :
    Passage conn exempt state (state.dequeue op) := by
  apply Passage.withOps
  · have ignored : (decide (op.conn = conn) && op.kind.setsUp) = false := by
      by_cases mine : op.conn = conn
      · simp [routine mine]
      · simp [mine]
    apply List.Perm.of_eq
    simp only [State.setUps]
    rw [← List.erase_filter, List.erase_of_not_mem]
    intro member
    cases ignored.symm.trans (List.mem_filter.mp member).2
  · intro packed other member
    exact packed other (List.mem_of_mem_erase member)

omit [Protobuf] in
/-- The only set-up operation of a connection is handed to its handler. -/
theorem At.dequeue (stands : At conn stage state) (member : op ∈ state.ops) (mine : op.conn = conn)
    (setsUp : op.kind.setsUp = true) :
    stage.kinds = [op.kind] ∧ (state.dequeue op).setUps conn = [] := by
  have perm := (setUps_dequeue member mine setsUp).trans stands.kinds
  have bound := stage.length_kinds
  rw [← perm.length_eq, List.length_cons] at bound
  have none := List.eq_nil_of_length_eq_zero (Nat.le_zero.mp (Nat.le_of_succ_le_succ bound))
  rw [none] at perm
  exact ⟨(List.perm_singleton.mp perm.symm), none⟩

/-- An operation that completes is replaced by its queued handler. -/
theorem passage_replaceOp {replacement : Op} (member : op ∈ state.ops)
    (sameConn : replacement.conn = op.conn) (sameKind : replacement.kind.setsUp = op.kind.setsUp)
    (kept : op.kind.setsUp = true → replacement.kind = op.kind)
    (packed : ∀ task packet sent, replacement.kind = .write task packet sent →
      ∃ before, op.kind = .write task packet before) :
    Passage conn exempt state (state.replaceOp op replacement) := by
  apply Passage.withOps
  · have perm := ((List.perm_cons_erase member).filter
      fun op => decide (op.conn = conn) && op.kind.setsUp).map Op.kind
    simp only [State.setUps, List.filter_append, List.map_append]
    apply List.Perm.trans _ perm.symm
    cases chosen : (decide (op.conn = conn) && op.kind.setsUp) with
    | true =>
        have setsUp : op.kind.setsUp = true := (Bool.and_eq_true _ _ ▸ chosen).2
        simp only [List.filter_cons, sameConn, chosen, if_true, List.filter_nil,
          List.map_cons, List.map_nil, kept setsUp]
        exact List.perm_append_singleton _ _
    | false =>
        simp only [List.filter_cons, sameConn, sameKind, chosen, Bool.false_eq_true, if_false,
          List.filter_nil, List.map_nil, List.append_nil]
        exact .refl _
  · intro before other present mine task packet sent kind
    rcases List.mem_append.mp present with old | new
    · exact before other (List.mem_of_mem_erase old) mine task packet sent kind
    · rw [List.mem_singleton.mp new] at mine kind
      obtain ⟨earlier, same⟩ := packed task packet sent kind
      exact before op member (sameConn.symm.trans mine) task packet earlier same

theorem passage_complete {error : Option SystemError}
    (completed : state.complete op error = some next) : Passage conn exempt state next := by
  obtain ⟨member, _, change, changes, rfl⟩ := complete_eq_some completed
  have replaced : Passage conn exempt state
      (state.replaceOp op { op with status := .queued error }) :=
    passage_replaceOp member rfl rfl (fun _ => rfl) fun task packet sent kind => ⟨sent, kind⟩
  apply replaced.trans
  apply Passage.modifyConn
  · intro _
    rcases changes with rfl | ⟨_, _, rfl⟩
    · exact ⟨rfl, rfl, rfl, rfl, rfl, rfl⟩
    · exact ⟨rfl, rfl, rfl, rfl, rfl, rfl⟩
  · rcases changes with rfl | ⟨_, _, rfl⟩
    · exact fun _ => .inl
    · exact fun _ => .inl

theorem passage_writeSome {count : Nat} (written : state.writeSome op count = some next) :
    Passage conn exempt state next := by
  obtain ⟨task, packet, sent, kind, member, _, _, _, _, rfl⟩ := writeSome_eq_some written
  have replaced : Passage conn exempt state (state.replaceOp op
      { op with
        kind := .write task packet (sent + count)
        status := if sent + count = packet.length then .queued none else .pending }) := by
    apply passage_replaceOp member
    · rfl
    · rw [kind]
      rfl
    · rw [kind]
      nofun
    · intro other sending after same
      obtain ⟨rfl, rfl, rfl⟩ := OpKind.write.inj same
      exact ⟨sent, kind⟩
  apply replaced.trans
  apply Passage.modifyConn
  · exact fun _ => ⟨rfl, rfl, rfl, rfl, rfl, rfl⟩
  · exact fun _ => .inl

end Operations

section Stages

variable [Protobuf] {conn : ConnRef} {exempt : Option TaskRef} {state : State Msg} {task : TaskRef}

/-- A resolved connection is connected next, on a socket of its own. -/
theorem stands_asyncConnect (known : conn < state.nextConn) (idle : state.setUps conn = []) :
    At conn (.connecting task) (state.asyncConnect conn task) ∧
      Progress conn exempt state (state.asyncConnect conn task) := by
  have cancelled : Passage conn exempt state
      (state.cancel fun op => op.conn = conn && op.kind.usesSocket) := .cancel _
  have closed : Progress conn exempt state (state.closeSocket conn) :=
    cancelled.toProgress.trans (.modifyConn (fun _ => ⟨rfl, rfl⟩) fun _ => .inl)
  have opened : Progress conn exempt (state.closeSocket conn)
      ((state.closeSocket conn).openSocket conn) :=
    .modifyConn (fun _ => ⟨rfl, rfl⟩) fun _ => .inl
  constructor
  · have none : (((state.closeSocket conn).openSocket conn).ops.filter fun op =>
        op.conn = conn && op.kind.setsUp) = [] :=
      List.map_eq_nil_iff.mp ((State.setUps_cancel _).trans idle)
    refine ⟨known, ?_, ?_, by rintro ⟨⟩⟩
    · simp only [State.setUps, State.asyncConnect, State.start, List.filter_append, none]
      simp [OpKind.setsUp, OpKind.isAttempt, Stage.kinds]
    · simp [State.asyncConnect, State.openSocket, Stage.closed]
  · exact (closed.trans opened).trans (.start (by rintro writer packet sent ⟨⟩))

theorem progress_startOnSocket (part : Part) :
    Progress conn exempt state (state.startOnSocket conn part.kind) := by
  apply Progress.start
  cases part with
  | header | payload => nofun

omit [Protobuf] in
theorem stands_startOnSocket (part : Part) (stands : Stands conn .linked state) :
    Stands conn (.reading part) (state.startOnSocket conn part.kind) := by
  rcases stands with ended | linked
  · exact .inl ended
  · have none : (state.ops.filter fun op => op.conn = conn && op.kind.setsUp) = [] :=
      List.map_eq_nil_iff.mp linked.kinds.eq_nil
    have reads : part.kind.setsUp = true := by
      simp [OpKind.setsUp, part.kind_isRead]
    refine .inr ⟨linked.known, ?_, linked.isOpen, by rintro ⟨⟩⟩
    simp only [State.setUps, State.startOnSocket, State.start, List.filter_append, none]
    simp [reads, Stage.kinds]

/-- `startRead` starts its read, or the connection ends. -/
theorem startRead_cases (known : conn < state.nextConn) (numbered : Numbered state)
    (heap : Realloc) :
    Progress conn exempt state (state.startRead heap conn).1 ∧
      (Beyond conn (state.startRead heap conn).1 ∨ ∃ buf, state.startRead heap conn =
        ((state.modifyConn conn fun connection =>
          { connection with buf := buf }).startOnSocket conn .readHeader, none)) := by
  unfold State.startRead
  split
  · exact ⟨Passage.getStuck.toProgress, .inl (.inl rfl)⟩
  · next buf expanded grown =>
      have sized : Passage conn exempt state (state.modifyConn conn fun connection =>
          { connection with buf := buf }) :=
        .modifyConn (fun _ => ⟨rfl, rfl, rfl, rfl, rfl, rfl⟩) fun _ => .inl
      simp only
      split
      · have after := sized.numbered numbered
        exact ⟨sized.toProgress.trans (progress_destroy after), .inl (beyond_destroy known after)⟩
      · have started := sized.toProgress.trans (progress_startOnSocket .header)
        exact ⟨started, .inr ⟨buf, rfl⟩⟩

theorem stands_startRead (stands : Stands conn .linked state) (known : conn < state.nextConn)
    (numbered : Numbered state) (heap : Realloc) :
    Stands conn (.reading .header) (state.startRead heap conn).1 := by
  obtain ⟨_, ended | ⟨buf, started⟩⟩ :=
    (startRead_cases known numbered heap : Progress conn none state _ ∧ _)
  · exact .inl ended
  · have sized : Passage conn none state (state.modifyConn conn fun connection =>
        { connection with buf := buf }) :=
      .modifyConn (fun _ => ⟨rfl, rfl, rfl, rfl, rfl, rfl⟩) fun _ => .inl
    rw [started]
    exact stands_startOnSocket .header (stands.passage nofun sized)

/-- The end of the set-up: the call that waited for it goes out, and reading begins. -/
theorem stands_handleConnect (known : conn < state.nextConn) (idle : state.setUps conn = [])
    (isOpen : (state.connections conn).socket.isOpen = true) (bound : task < state.nextTask)
    (numbered : Numbered state) (heap : Realloc) :
    Progress conn exempt state (state.handleConnect heap conn task none).1 ∧
      Stands conn (.reading .header) (state.handleConnect heap conn task none).1 := by
  let connected := state.modifyConn conn fun connection => { connection with connecting := false }
  have ended : Progress conn exempt state connected :=
    .modifyConn (fun _ => ⟨rfl, rfl⟩) fun _ => .inl
  have linked : At conn .linked connected := by
    refine ⟨known, .of_eq idle, ?_, nofun⟩
    rw [State.connections_modifyConn, if_pos rfl]
    exact isOpen
  have called : Passage conn exempt connected
      (connected.startCall (state.tasks task).done.run task) :=
    passage_startCall (passage_run _) bound
  have progress := ended.trans called.toProgress
  have stands : Stands conn .linked (connected.startCall (state.tasks task).done.run task) :=
    called.standing .linked nofun linked
  have knownThen := known.trans_le progress.known
  have numberedThen := progress.numbered numbered
  exact ⟨progress.trans (startRead_cases knownThen numberedThen heap).1,
    stands_startRead stands knownThen numberedThen heap⟩

/-- The header of a response is noted, and its payload is read next. -/
theorem stands_handleReadHeader (linked : At conn .linked state) (numbered : Numbered state)
    (heap : Realloc) (header : Header) :
    Progress conn exempt
        (state.modifyConn conn fun connection =>
          { connection with header, n := header.rpcLen + header.reqLen + header.respLen })
        (state.handleReadHeader heap conn header none).1 ∧
      Stands conn (.reading .payload) (state.handleReadHeader heap conn header none).1 := by
  let noted := state.modifyConn conn fun connection =>
    { connection with header, n := header.rpcLen + header.reqLen + header.respLen }
  have stands : At conn .linked noted := by
    refine ⟨linked.known, linked.kinds, ?_, nofun⟩
    rw [State.connections_modifyConn, if_pos rfl]
    exact linked.isOpen
  have numberedThen : Numbered noted := by
    intro place entry member
    rw [State.connections_modifyConn] at member
    split at member
    · exact numbered conn entry member
    · exact numbered place entry member
  have sized : ∀ buf, Passage conn exempt noted (noted.modifyConn conn fun connection =>
      { connection with buf := buf }) :=
    fun buf => .modifyConn (fun _ => ⟨rfl, rfl, rfl, rfl, rfl, rfl⟩) fun _ => .inl
  unfold State.handleReadHeader
  simp only
  split
  · exact ⟨Passage.getStuck.toProgress, .inl (.inl rfl)⟩
  · next buf expanded grown =>
      have after := (sized buf).numbered numberedThen
      split
      · exact ⟨(sized buf).toProgress.trans (progress_destroy after),
          .inl (beyond_destroy linked.known after)⟩
      · exact ⟨(sized buf).toProgress.trans (progress_startOnSocket .payload),
          stands_startOnSocket .payload ((sized buf).standing .linked nofun stands)⟩

/-- The state in which a response was noted, its call taken from the table, and the next
response is read. -/
def State.acknowledge (conn : ConnRef) (task : TaskRef) (rpcResp : Response)
    (parameter : List UInt8) (buf : PacketBuf) (state : State Msg) : State Msg :=
  (((state.learn task rpcResp parameter).modifyConn conn fun connection =>
    { connection with buf := buf }).startOnSocket conn .readHeader).modifyConn conn
      fun connection =>
        { connection with outgoingTasks := connection.outgoingTasks.erase rpcResp.getId }

/-- The response to a call of the table. -/
theorem receivePayload_listed {heap : Realloc} {data : List UInt8} {rpcResp : Response}
    (linked : At conn .linked state) (numbered : Numbered state) (bound : task < state.nextTask)
    (parsed : Protobuf.response.parse
      (data.take (state.connections conn).header.rpcLen.toNat) = some rpcResp)
    (listed : (state.connections conn).outgoingTasks.find? rpcResp.getId = some task) :
    let parameter := (data.drop (state.connections conn).header.rpcLen.toNat).take
      (state.connections conn).header.respLen.toNat
    Progress conn (some task) state (state.receivePayload heap conn data).1 ∧
      Stands conn (.reading .header) (state.receivePayload heap conn data).1 ∧
      (Beyond conn (state.receivePayload heap conn data).1 ∨ ∃ buf,
        let before := state.acknowledge conn task rpcResp parameter buf
        (state.receivePayload heap conn data).1 =
          before.finishTask (before.tasks task).done.run task) := by
  intro parameter
  have learnt : Passage conn (some task) state (state.learn task rpcResp parameter) :=
    passage_learn bound (fun ordinary => absurd rfl ordinary) _ _
  have known := linked.known.trans_le learnt.known
  have numberedThen := learnt.numbered numbered
  obtain ⟨progress, outcome⟩ :=
    (startRead_cases known numberedThen heap : Progress conn (some task) _ _ ∧ _)
  have reading := stands_startRead (learnt.standing .linked nofun linked) known numberedThen heap
  have read := learnt.toProgress.trans progress
  have finishing : ∀ (next : State Msg) body, task < next.nextTask →
      (∀ state, Passage conn (some task) state (body state)) → Passage conn (some task) next
        ((next.modifyConn conn fun connection =>
          { connection with
            outgoingTasks := connection.outgoingTasks.erase rpcResp.getId }).finishTask body
              task) := by
    intro next body bound passes
    apply (passage_erase conn rpcResp.getId).trans
    exact passage_finishTask passes bound fun ordinary => absurd rfl ordinary
  have received : state.receivePayload heap conn data =
      State.concludeRead conn rpcResp.getId task
        ((state.learn task rpcResp parameter).startRead heap conn) :=
    State.receivePayload_eq parsed listed
  cases started : (state.learn task rpcResp parameter).startRead heap conn with
  | mk next thrown =>
      rw [started] at received read reading outcome
      cases thrown with
      | some thrown =>
          rw [received]
          refine ⟨read, reading, .inl ?_⟩
          rcases outcome with ended | ⟨buf, same⟩
          · exact ended
          · cases congrArg Prod.snd same
      | none =>
          have passage := finishing next (next.tasks task).done.run (bound.trans_le read.count)
            (passage_run _)
          rw [received]
          refine ⟨read.trans passage.toProgress, reading.passage nofun passage, ?_⟩
          rcases outcome with ended | ⟨buf, same⟩
          · exact .inl (passage.beyond ended)
          · refine .inr ⟨buf, ?_⟩
            cases congrArg Prod.fst same
            rfl

end Stages

section Steps

variable [Protobuf] {conn : ConnRef} {exempt : Option TaskRef} {state next : State Msg} {op : Op}

omit [Protobuf] in
theorem Base.numbered {careful : Prop} {duty : Duty} (base : Base careful (duty, state)) :
    Numbered state :=
  fun other entry member => (base.sound.entry other entry member).1

/-- The step runs the handler of an operation that sets the connection up or reads from
it, and the operation has not failed; the handler of a payload decides for itself. -/
def Advances (conn : ConnRef) : Label Msg → Prop
  | .handle op _ =>
      op.conn = conn ∧ op.kind.setsUp = true ∧ (op.status = .queued none ∨ op.kind = .readPayload)
  | .callMethod _ _ | .complete _ _ | .writeSome _ _ => False

theorem Passage.of_beyond (progress : Progress conn exempt state next) (ended : Beyond conn next)
    (known : conn < state.nextConn) : Passage conn exempt state next :=
  ⟨progress, fun _ => ended, fun _ _ _ => .inl ended,
    fun unknown => absurd known (Nat.not_lt.mpr unknown.later)⟩

/-- The handlers on another connection. -/
theorem passage_invoke_elsewhere {input : Input} (error : Option SystemError)
    (different : op.conn ≠ conn) (known : op.conn < state.nextConn) (numbered : Numbered state)
    (tabled : Tabled op.conn state)
    (binds : ∀ task, op.kind.role.task? = some task →
      task < state.nextTask ∧ (state.tasks task).conn = op.conn) :
    Passage conn none state (state.invoke op error input).1 := by
  obtain ⟨other, kind, status⟩ := op
  cases kind with
  | timer task =>
      obtain ⟨bound, own⟩ := binds task rfl
      exact passage_handleTimeout bound (own.symm ▸ known) numbered error
  | write task packet sent => exact passage_handleWrite (binds task rfl).1 known numbered error
  | resolve task =>
      cases error with
      | none => exact .asyncConnect different
      | some error => exact passage_failAndDestroy (binds task rfl).1 known numbered
  | connect task =>
      exact passage_handleConnect different (binds task rfl).1 known numbered input.heap error
  | readHeader =>
      exact passage_handleReadHeader different known numbered input.heap input.header error
  | readPayload =>
      exact passage_handleReadPayload different known numbered tabled input.heap input.data
        input.transferred error

/-- The handlers of timers and writes. -/
theorem passage_invoke_following {input : Input} (error : Option SystemError)
    (follows : op.kind.setsUp = false) (known : op.conn < state.nextConn)
    (numbered : Numbered state)
    (binds : ∀ task, op.kind.role.task? = some task →
      task < state.nextTask ∧ (state.tasks task).conn = op.conn) :
    Passage conn none state (state.invoke op error input).1 := by
  obtain ⟨other, kind, status⟩ := op
  cases kind with
  | timer task =>
      obtain ⟨bound, own⟩ := binds task rfl
      exact passage_handleTimeout bound (own.symm ▸ known) numbered error
  | write task packet sent => exact passage_handleWrite (binds task rfl).1 known numbered error
  | resolve | connect | readHeader | readPayload => cases follows

/-- The connection ends when its set-up or one of its reads fails. -/
theorem beyond_invoke_failed {input : Input} (error : SystemError) (setsUp : op.kind.setsUp = true)
    (noPayload : op.kind ≠ .readPayload) (known : op.conn < state.nextConn)
    (numbered : Numbered state)
    (binds : ∀ task, op.kind.role.task? = some task →
      task < state.nextTask ∧ (state.tasks task).conn = op.conn) :
    Progress op.conn none state (state.invoke op (some error) input).1 ∧
      Beyond op.conn (state.invoke op (some error) input).1 := by
  obtain ⟨other, kind, status⟩ := op
  cases kind with
  | resolve task =>
      have bound := (binds task rfl).1
      exact ⟨(passage_failAndDestroy bound known numbered).toProgress,
        beyond_failAndDestroy bound known numbered⟩
  | connect task =>
      have bound := (binds task rfl).1
      exact ⟨(passage_failAndDestroy bound known numbered).toProgress,
        beyond_failAndDestroy bound known numbered⟩
  | readHeader => exact ⟨progress_destroy numbered, beyond_destroy known numbered⟩
  | readPayload => exact absurd rfl noPayload
  | timer | write => cases setsUp

theorem passage_handle {input : Input} (base : Base False (.none, state))
    (routine : ¬ Advances conn (.handle op input : Label Msg))
    (handled : state.handle op input = some next) : Passage conn none state next := by
  obtain ⟨error, queued, member, rfl, _⟩ := handle_eq_some handled
  have known : op.conn < (state.dequeue op).nextConn :=
    base.sound.op_conn op.bare (List.mem_map_of_mem member)
  have binds : ∀ task, op.kind.role.task? = some task →
      task < (state.dequeue op).nextTask ∧ ((state.dequeue op).tasks task).conn = op.conn :=
    base.sound.op_task op.bare (List.mem_map_of_mem member)
  have numbered : Numbered (state.dequeue op) := base.numbered
  have tabled : Tabled op.conn (state.dequeue op) := base.tabled
  by_cases different : op.conn = conn
  · subst different
    cases setsUp : op.kind.setsUp with
    | false =>
        have taken : Passage op.conn none state (state.dequeue op) := passage_dequeue fun _ => setsUp
        exact taken.trans (passage_invoke_following error setsUp known numbered binds)
    | true =>
        have noPayload : op.kind ≠ .readPayload :=
          fun payload => routine ⟨rfl, setsUp, .inr payload⟩
        cases error with
        | none => exact absurd ⟨rfl, setsUp, .inl queued⟩ routine
        | some error =>
            obtain ⟨progress, ended⟩ :=
              beyond_invoke_failed error setsUp noPayload known numbered binds
            exact .of_beyond ((progress_dequeue op).trans progress) ended known
  · have taken : Passage conn none state (state.dequeue op) :=
      passage_dequeue fun same => absurd same different
    exact taken.trans (passage_invoke_elsewhere error different known numbered tabled binds)

theorem passage_step {label : Label Msg} (base : Base False (.none, state))
    (routine : ¬ Advances conn label) (stepped : state.step label = some next) :
    Passage conn none state next := by
  cases label with
  | callMethod call done =>
      obtain ⟨rfl, _⟩ := settle_eq_some stepped
      exact passage_callMethod (passage_run done) call done
  | complete op error => exact passage_complete stepped
  | writeSome op count => exact passage_writeSome stepped
  | handle op input => exact passage_handle base routine stepped

end Steps

end CarrotRpc.Client
