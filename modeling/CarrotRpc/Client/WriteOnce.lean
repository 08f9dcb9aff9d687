import CarrotRpc.Client.RunInvariants

/-! What the writes of a channel amount to: a packet that a socket has taken whole is
taken no second time, and only a socket that is open takes any. -/

set_option autoImplicit false

namespace CarrotRpc.Client

open Library Common Protob

variable {Msg : Type}

/-- The operation is a write of the packet of the task that waits for its socket. -/
def Op.waits (task : TaskRef) (op : Op) : Bool :=
  match op.kind with
  | .write other _ _ => other = task && op.status = .pending
  | _ => false

def State.waiting (task : TaskRef) (state : State Msg) : Nat :=
  state.ops.countP (Op.waits task)

/-- Every packet that waits for its socket or was spent already was written for its own
`start_call`. -/
structure Budget (spent : TaskRef → Nat) (state : State Msg) : Prop where
  made : ∀ task < state.nextTask, state.waiting task + spent task ≤ (state.tasks task).writes
  later : ∀ task, state.nextTask ≤ task → spent task = 0

/-- A socket that is connected, or that is being connected, is open. -/
def Plugged (state : State Msg) : Prop :=
  ∀ conn, ((state.connections conn).socket.connected = true ∨
    ∃ op ∈ state.ops, op.conn = conn ∧ (∃ task, op.kind = .connect task) ∧ op.status = .pending) →
    (state.connections conn).socket.isOpen = true

section Waiting

variable {state next : State Msg} {task : TaskRef}

theorem waits_of_abort {op : Op} (waits : (State.abort op).waits task = true) :
    op.waits task = true := by
  obtain ⟨conn, kind, status⟩ := op
  cases status with
  | pending =>
      cases kind with
      | write => simp only [State.abort, Op.waits, reduceCtorEq, decide_false, Bool.and_false,
          Bool.false_eq_true] at waits
      | resolve | connect | readHeader | readPayload | timer => cases waits
  | queued error => exact waits

theorem waiting_cancel (selected : Op → Bool) :
    (state.cancel selected).waiting task ≤ state.waiting task := by
  unfold State.waiting State.cancel
  rw [List.countP_map]
  apply List.countP_mono_left
  intro op _ waits
  simp only [Function.comp_apply] at waits
  split at waits
  · exact waits_of_abort waits
  · exact waits

theorem waiting_start (op : Op) :
    (state.start op).waiting task = state.waiting task + (op.waits task).toNat := by
  simp only [State.waiting, State.start, List.countP_append, List.countP_singleton]
  cases op.waits task with
  | false => rfl
  | true => rfl

theorem waiting_start_of_not {op : Op} (other : op.waits task = false) :
    (state.start op).waiting task = state.waiting task := by
  rw [waiting_start, other]
  rfl

theorem waiting_dequeue (op : Op) : (state.dequeue op).waiting task ≤ state.waiting task :=
  List.erase_sublist.countP_le

theorem waiting_replaceOp {op replacement : Op} (member : op ∈ state.ops) :
    (state.replaceOp op replacement).waiting task + (op.waits task).toNat =
      state.waiting task + (replacement.waits task).toNat := by
  have moved := (List.perm_cons_erase member).countP_eq (Op.waits task)
  rw [List.countP_cons] at moved
  simp only [State.waiting, State.replaceOp, List.countP_append, List.countP_singleton, moved]
  cases op.waits task with
  | false =>
      cases replacement.waits task with
      | false => rfl
      | true => rfl
  | true =>
      cases replacement.waits task with
      | false => rfl
      | true => rfl

theorem waiting_closeSocket (conn : ConnRef) :
    (state.closeSocket conn).waiting task ≤ state.waiting task :=
  waiting_cancel fun op => op.conn = conn && op.kind.usesSocket

theorem waiting_new {careful : Prop} {duty : Duty} (base : Base careful (duty, state))
    (unknown : state.nextTask ≤ task) : state.waiting task = 0 := by
  apply List.countP_eq_zero.mpr
  intro op member waits
  obtain ⟨conn, kind, status⟩ := op
  cases kind with
  | write other packet sent =>
      have same : other = task := of_decide_eq_true (Bool.and_eq_true_iff.mp waits).1
      have bound := (base.sound.op_task _ (List.mem_map_of_mem member) other rfl).1
      exact absurd (same ▸ bound) (Nat.not_lt.mpr unknown)
  | resolve | connect | readHeader | readPayload | timer => cases waits

end Waiting

section Budgets

variable {careful : Prop} {spent : TaskRef → Nat} {state next : State Msg}
  {before after : Duty × State Msg}

/-- Nothing that was promised changed, except that writes may have ended. -/
theorem Budget.same (budget : Budget spent state) (count : next.nextTask = state.nextTask)
    (writes : ∀ task, (next.tasks task).writes = (state.tasks task).writes)
    (waiting : ∀ task, next.waiting task ≤ state.waiting task) : Budget spent next where
  made := by
    intro task bound
    rw [writes]
    exact (Nat.add_le_add_right (waiting task) _).trans (budget.made task (count ▸ bound))
  later := fun task unknown => budget.later task (count ▸ unknown)

theorem Budget.modifyTask {task : TaskRef} {change : CallTask Msg → CallTask Msg}
    (budget : Budget spent state)
    (writes : (change (state.tasks task)).writes = (state.tasks task).writes) :
    Budget spent (state.modifyTask task change) := by
  apply Budget.same budget
  · rfl
  · intro other
    rw [State.tasks_modifyTask]
    split
    · next same =>
        rw [same]
        exact writes
    · rfl
  · exact fun _ => Nat.le_refl _

theorem Budget.start {op : Op} (budget : Budget spent state)
    (other : ∀ task, op.waits task = false) : Budget spent (state.start op) :=
  budget.same rfl (fun _ => rfl) fun _ => Nat.le_of_eq (waiting_start_of_not (other _))

/-- A packet that is sent is one more to wait for. -/
theorem Budget.send {task : TaskRef} {packet : List UInt8} (budget : Budget spent state) :
    Budget spent (state.sendPacket task packet) where
  made := by
    intro other bound
    have old := budget.made other bound
    have waiting : (state.sendPacket task packet).waiting other ≤
        state.waiting other + if other = task then 1 else 0 := by
      have started : (state.sendPacket task packet).waiting other = _ := waiting_start _
      rw [started]
      apply Nat.add_le_add_left
      by_cases same : other = task
      · rw [if_pos same]
        exact Bool.toNat_le _
      · have idle : ∀ status, Op.waits other
            ⟨(state.tasks task).conn, .write task packet 0, status⟩ = false := by
          intro status
          simp only [Op.waits, Ne.symm same, decide_false, Bool.false_and]
        rw [if_neg same, idle]
        exact Nat.le_refl _
    rw [State.tasks_sendPacket]
    split
    · next same =>
        subst same
        simp only [if_true] at waiting ⊢
        omega
    · next different =>
        rw [if_neg different] at waiting
        omega
  later := budget.later

theorem Budget.callStep (base : Base careful before) (budget : Budget spent before.2)
    (step : CallStep careful before after) : Budget spent after.2 := by
  cases step with
  | drop => exact budget
  | hang => exact budget.same rfl (fun _ => rfl) fun _ => Nat.le_refl _
  | borrow fresh =>
      simp only [State.borrow]
      exact budget.modifyTask rfl
  | beginDone bound fresh unlisted =>
      simp only [State.beginDone]
      exact budget.modifyTask rfl
  | endDone =>
      simp only [State.endDone]
      exact budget.modifyTask rfl
  | note keeps => exact budget.modifyTask (congrArg TaskEntry.writes (State.entry_of_core keeps))
  | noteConn keeps => exact budget.same rfl (fun _ => rfl) fun _ => Nat.le_refl _
  | cancelTimer => exact budget.same rfl (fun _ => rfl) fun _ => waiting_cancel _
  | startTimer bound => exact budget.start fun _ => rfl
  | startResolve bound unsent => exact budget.start fun _ => rfl
  | openConnection fresh => exact budget.same rfl (fun _ => rfl) fun _ => Nat.le_refl _
  | @newTask hand serving running doomed state conn call done known tame =>
      refine ⟨?_, fun task unknown => budget.later task ((Nat.le_succ _).trans unknown)⟩
      intro task bound
      by_cases older : task < state.nextTask
      · have same : (state.newTask conn call done).tasks task = state.tasks task :=
          State.tasks_newTask_of_ne (Nat.ne_of_lt older)
        simp only [same]
        exact budget.made task older
      · have unknown := Nat.not_lt.mp older
        have none : (state.newTask conn call done).waiting task = 0 :=
          (waiting_new base unknown : state.waiting task = 0)
        rw [none, budget.later task unknown]
        exact Nat.zero_le _
  | send bound unsent fresh active sized => exact budget.send

theorem Budget.handlerStep (base : Base careful before) (budget : Budget spent before.2)
    (step : HandlerStep careful before after) : Budget spent after.2 := by
  cases step with
  | call step => exact budget.callStep base step
  | assume | release => exact budget
  | hang => exact budget.same rfl (fun _ => rfl) fun _ => Nat.le_refl _
  | cancelResolver => exact budget.same rfl (fun _ => rfl) fun _ => waiting_cancel _
  | close => exact budget.same rfl (fun _ => rfl) fun _ => waiting_closeSocket _
  | @connect hand serving running doomed state task bound unsent =>
      have closed : Budget spent (state.closeSocket (state.tasks task).conn) :=
        budget.same rfl (fun _ => rfl) fun _ => waiting_closeSocket _
      have opened : Budget spent ((state.closeSocket (state.tasks task).conn).openSocket
          (state.tasks task).conn) :=
        closed.same rfl (fun _ => rfl) fun _ => Nat.le_refl _
      exact opened.start fun _ => rfl
  | @read hand serving running doomed state conn kind reads known =>
      apply budget.start
      intro task
      cases kind with
      | readHeader | readPayload => rfl
      | resolve | connect | write | timer => cases reads
  | erase bound => exact budget.same rfl (fun _ => rfl) fun _ => Nat.le_refl _
  | clear ran => exact budget.same rfl (fun _ => rfl) fun _ => Nat.le_refl _

theorem Budget.script (base : Base careful before) (budget : Budget spent before.2)
    (script : Script careful before after) : Budget spent after.2 := by
  have both : Base careful after ∧ Budget spent after.2 := by
    induction script with
    | refl => exact ⟨base, budget⟩
    | tail _ step ih => exact ⟨ih.1.handlerStep step, ih.2.handlerStep ih.1 step⟩
  exact both.2

theorem Budget.dequeue (budget : Budget spent state) (op : Op) :
    Budget spent (state.dequeue op) :=
  budget.same rfl (fun _ => rfl) fun _ => waiting_dequeue op

theorem Budget.replaceOp {op replacement : Op} (budget : Budget spent state)
    (member : op ∈ state.ops)
    (less : ∀ task, replacement.waits task = true → op.waits task = true) :
    Budget spent (state.replaceOp op replacement) := by
  have fewer : ∀ task, (state.replaceOp op replacement).waiting task ≤ state.waiting task := by
    intro task
    have moved : (state.replaceOp op replacement).waiting task + _ = _ := waiting_replaceOp member
    have subset := less task
    cases new : replacement.waits task with
    | false =>
        rw [new] at moved
        exact (Nat.le_add_right _ _).trans (Nat.le_of_eq moved)
    | true =>
        rw [new, subset new] at moved
        exact Nat.le_of_eq (Nat.add_right_cancel moved)
  exact budget.same rfl (fun _ => rfl) fewer

/-- A packet that is taken whole waits no more, and is spent. -/
theorem Budget.spend {task : TaskRef} {op replacement : Op} (budget : Budget spent state)
    (member : op ∈ state.ops) (waits : ∀ other, op.waits other = decide (task = other))
    (done : ∀ other, replacement.waits other = false) (bound : task < state.nextTask) :
    Budget (fun other => spent other + if other = task then 1 else 0)
      (state.replaceOp op replacement) where
  made := by
    intro other known
    have moved : (state.replaceOp op replacement).waiting other + _ = _ := waiting_replaceOp member
    have old := budget.made other known
    rw [waits, done] at moved
    by_cases same : other = task
    · subst same
      simp only [decide_true, Bool.toNat_true, Bool.toNat_false] at moved
      simp only [if_true]
      have writes : ((state.replaceOp op replacement).tasks other).writes =
        (state.tasks other).writes := rfl
      omega
    · have writes : ((state.replaceOp op replacement).tasks other).writes =
        (state.tasks other).writes := rfl
      simp only [Ne.symm same, decide_false, Bool.toNat_false] at moved
      simp only [if_neg same]
      omega
  later := by
    intro other unknown
    have different : other ≠ task := fun same => absurd bound (Nat.not_lt.mpr (same ▸ unknown))
    have unknown : state.nextTask ≤ other := unknown
    simp only [budget.later other unknown, if_neg different]

end Budgets

section Plugging

variable {careful : Prop} {state next : State Msg} {before after : Duty × State Msg}

theorem Plugged.same (plugged : Plugged state)
    (sockets : ∀ conn, (next.connections conn).socket = (state.connections conn).socket)
    (connects : ∀ op ∈ next.ops, (∃ task, op.kind = .connect task) → op.status = .pending →
      op ∈ state.ops) : Plugged next := by
  intro conn linked
  rw [sockets]
  apply plugged conn
  rcases linked with connected | ⟨op, member, mine, connect, pending⟩
  · rw [sockets] at connected
    exact .inl connected
  · exact .inr ⟨op, connects op member connect pending, mine, connect, pending⟩

theorem mem_of_pending_cancel {selected : Op → Bool} {op : Op}
    (member : op ∈ (state.cancel selected).ops) (pending : op.status = .pending) :
    op ∈ state.ops ∧ selected op = false := by
  obtain ⟨old, found, same⟩ := List.mem_map.mp member
  by_cases chosen : selected old = true
  · rw [if_pos chosen] at same
    obtain ⟨conn, kind, status⟩ := old
    subst same
    cases status with
    | pending => cases pending
    | queued error => cases pending
  · rw [if_neg chosen] at same
    subst same
    exact ⟨found, eq_false_of_ne_true chosen⟩

theorem Plugged.start {op : Op} (plugged : Plugged state)
    (other : ∀ task, op.kind ≠ .connect task) : Plugged (state.start op) := by
  have connects : ∀ old ∈ (state.start op).ops, (∃ task, old.kind = .connect task) →
      old.status = .pending → old ∈ state.ops := by
    intro old member connect _
    rcases List.mem_append.mp member with found | new
    · exact found
    · obtain ⟨task, kind⟩ := connect
      rw [List.mem_singleton.mp new] at kind
      exact absurd kind (other task)
  exact plugged.same (fun _ => rfl) connects

theorem Plugged.cancel (plugged : Plugged state) (selected : Op → Bool) :
    Plugged (state.cancel selected) :=
  plugged.same (fun _ => rfl) fun _ member _ pending => (mem_of_pending_cancel member pending).1

theorem Plugged.modifyConn {conn : ConnRef} {change : RpcClientConnection → RpcClientConnection}
    (plugged : Plugged state)
    (socket : (change (state.connections conn)).socket = (state.connections conn).socket) :
    Plugged (state.modifyConn conn change) := by
  apply Plugged.same plugged
  · intro other
    rw [State.connections_modifyConn]
    split
    · next same =>
        rw [same]
        exact socket
    · rfl
  · exact fun _ member _ _ => member

/-- The operation is replaced by one that connects nothing. -/
theorem Plugged.replaceOp {op replacement : Op} (plugged : Plugged state)
    (other : (∃ task, replacement.kind = .connect task) → replacement.status ≠ .pending) :
    Plugged (state.replaceOp op replacement) := by
  have connects : ∀ old ∈ (state.replaceOp op replacement).ops,
      (∃ task, old.kind = .connect task) → old.status = .pending → old ∈ state.ops := by
    intro old member connect pending
    rcases List.mem_append.mp member with found | new
    · exact List.mem_of_mem_erase found
    · rw [List.mem_singleton.mp new] at connect pending
      exact absurd pending (other connect)
  exact plugged.same (fun _ => rfl) connects

theorem Plugged.closeSocket (plugged : Plugged state) (conn : ConnRef) :
    Plugged (state.closeSocket conn) := by
  intro other linked
  have kept := plugged.cancel fun op => op.conn = conn && op.kind.usesSocket
  by_cases same : other = conn
  · subst same
    rcases linked with connected | ⟨op, member, mine, ⟨task, kind⟩, pending⟩
    · simp only [State.closeSocket, State.connections_modifyConn, if_true, Bool.false_eq_true]
        at connected
    · have member : op ∈ (state.cancel fun op => op.conn = other && op.kind.usesSocket).ops :=
        member
      have spared := (mem_of_pending_cancel member pending).2
      rw [mine, kind] at spared
      simp only [decide_true, OpKind.usesSocket, Bool.and_self, Bool.true_eq_false] at spared
  · have elsewhere : ((state.closeSocket conn).connections other).socket =
        ((state.cancel fun op => op.conn = conn && op.kind.usesSocket).connections other).socket := by
      simp only [State.closeSocket, State.connections_modifyConn, if_neg same]
    rw [elsewhere] at linked ⊢
    exact kept other linked

theorem Plugged.asyncConnect (plugged : Plugged state) (conn : ConnRef) (task : TaskRef) :
    Plugged (state.asyncConnect conn task) := by
  intro other linked
  have closed := plugged.closeSocket conn
  by_cases same : other = conn
  · subst same
    simp only [State.asyncConnect, State.openSocket, State.connections_start,
      State.connections_modifyConn, if_true]
  · have elsewhere : ((state.asyncConnect conn task).connections other).socket =
        ((state.closeSocket conn).connections other).socket := by
      simp only [State.asyncConnect, State.openSocket, State.connections_start,
        State.connections_modifyConn, if_neg same]
    rw [elsewhere] at linked ⊢
    apply closed other
    rcases linked with connected | ⟨op, member, mine, connect, pending⟩
    · exact .inl connected
    · rcases List.mem_append.mp member with found | new
      · exact .inr ⟨op, found, mine, connect, pending⟩
      · rw [List.mem_singleton.mp new] at mine
        exact absurd mine.symm same

theorem Plugged.callStep (base : Base careful before) (plugged : Plugged before.2)
    (step : CallStep careful before after) : Plugged after.2 := by
  have same : ∀ {state next : State Msg}, Plugged state → next.connections = state.connections →
      next.ops = state.ops → Plugged next := by
    intro state next plugged connections ops
    apply Plugged.same plugged
    · exact fun _ => by rw [connections]
    · exact fun _ member _ _ => ops ▸ member
  cases step with
  | drop => exact plugged
  | hang | borrow | note | beginDone | endDone => exact same plugged rfl rfl
  | @noteConn duty state conn change keeps =>
      apply Plugged.modifyConn plugged
      have socket : (change (state.connections conn)).core.socket =
          (state.connections conn).core.socket := congrArg RpcClientConnection.socket keeps
      exact socket
  | cancelTimer => exact plugged.cancel _
  | startTimer bound => exact plugged.start fun _ => by exact OpKind.noConfusion
  | startResolve bound unsent => exact plugged.start fun _ => by exact OpKind.noConfusion
  | @openConnection duty state host service fresh =>
      intro conn linked
      by_cases new : conn = state.nextConn
      · subst new
        have created : (state.openConnection host service).connections state.nextConn =
            { host, service } := Function.update_self _ _ _
        rcases linked with connected | ⟨op, member, mine, -⟩
        · simp only [created, Bool.false_eq_true] at connected
        · have bound := base.sound.op_conn op.bare (List.mem_map_of_mem member)
          exact absurd mine (Nat.ne_of_lt bound)
      · have old : (state.openConnection host service).connections conn =
            state.connections conn := Function.update_of_ne new _ _
        simp only [old] at linked ⊢
        exact plugged conn linked
  | @newTask hand serving running doomed state conn call done known tame =>
      have counted : Plugged (state.modifyConn conn fun connection =>
          { connection with id := (state.connections conn).id + 1 }) := plugged.modifyConn rfl
      exact same counted rfl rfl
  | @send hand serving running doomed state task packet bound unsent fresh active sized =>
      have listed : Plugged (state.modifyConn (state.tasks task).conn fun connection =>
          { connection with
            outgoingTasks := connection.outgoingTasks.insert (state.tasks task).id task }) :=
        plugged.modifyConn rfl
      have noted : Plugged ((state.modifyConn (state.tasks task).conn fun connection =>
          { connection with
            outgoingTasks := connection.outgoingTasks.insert (state.tasks task).id
              task }).modifyTask task fun record =>
                { record with state := .writeToServer, writes := record.writes + 1, packet }) :=
        same listed rfl rfl
      exact noted.start fun _ => by exact OpKind.noConfusion

theorem Plugged.handlerStep (base : Base careful before) (plugged : Plugged before.2)
    (step : HandlerStep careful before after) : Plugged after.2 := by
  cases step with
  | call step => exact plugged.callStep base step
  | assume | release => exact plugged
  | hang => exact plugged.same (fun _ => rfl) fun _ member _ _ => member
  | cancelResolver => exact plugged.cancel _
  | close => exact plugged.closeSocket _
  | connect bound unsent => exact plugged.asyncConnect _ _
  | @read hand serving running doomed state conn kind reads known =>
      apply Plugged.start plugged
      intro task same
      have same : kind = .connect task := same
      rw [same] at reads
      cases reads
  | erase bound =>
      simp only [State.eraseOutgoing]
      exact plugged.modifyConn rfl
  | clear ran =>
      simp only [State.clearOutgoing]
      exact plugged.modifyConn rfl

end Plugging

section Runs

variable [Protobuf] {spent : TaskRef → Nat} {state next : State Msg}

/-- Whatever the channel does but the end of a write spends nothing. -/
theorem Budget.step {label : Label Msg} (base : Base False (.none, state))
    (budget : Budget spent state) (stepped : state.step label = some next) :
    Budget spent next := by
  cases label with
  | callMethod call done =>
      obtain ⟨rfl, _⟩ := settle_eq_some stepped
      have tidy : False → done.NeverThrows := False.elim
      have script := callScript_callMethod call (bodyScript_run done tidy) tidy base
      exact budget.script base (CallScript.script script)
  | complete op error =>
      obtain ⟨member, _, change, _, rfl⟩ := complete_eq_some stepped
      have replaced : Budget spent (state.replaceOp op { op with status := .queued error }) := by
        apply budget.replaceOp member
        intro task waits
        obtain ⟨conn, kind, status⟩ := op
        cases kind with
        | write => simp only [Op.waits, reduceCtorEq, decide_false, Bool.and_false,
            Bool.false_eq_true] at waits
        | resolve | connect | readHeader | readPayload | timer => cases waits
      exact replaced.same rfl (fun _ => rfl) fun _ => Nat.le_refl _
  | writeSome op count =>
      obtain ⟨task, packet, sent, kind, member, pending, _, _, _, rfl⟩ := writeSome_eq_some stepped
      obtain ⟨conn, opKind, status⟩ := op
      cases kind
      cases pending
      have replaced : Budget spent (state.replaceOp ⟨conn, .write task packet sent, .pending⟩
          ⟨conn, .write task packet (sent + count),
            if sent + count = packet.length then .queued none else .pending⟩) := by
        apply budget.replaceOp member
        intro other waits
        have same := (Bool.and_eq_true_iff.mp waits).1
        exact Bool.and_eq_true_iff.mpr ⟨same, rfl⟩
      exact replaced.same rfl (fun _ => rfl) fun _ => Nat.le_refl _
  | handle op input =>
      obtain ⟨error, queued, member, rfl, _⟩ := handle_eq_some stepped
      have script := script_invoke error input base member queued False.elim False.elim
      exact (budget.dequeue op).script (base.dequeue member) script

omit [Protobuf] in
/-- A packet that the socket takes whole is spent. -/
theorem Budget.writeWhole {conn : ConnRef} {task : TaskRef} {packet : List UInt8}
    {status : OpStatus} (base : Base False (.none, state)) (budget : Budget spent state)
    (stepped : state.writeSome ⟨conn, .write task packet 0, status⟩ packet.length = some next) :
    Budget (fun other => spent other + if other = task then 1 else 0) next := by
  obtain ⟨same, bytes, sent, kind, member, pending, _, _, _, rfl⟩ := writeSome_eq_some stepped
  cases kind
  have pending : status = .pending := pending
  subst pending
  have bound := (base.sound.op_task _ (List.mem_map_of_mem member) task rfl).1
  have replaced : Budget (fun other => spent other + if other = task then 1 else 0)
      (state.replaceOp ⟨conn, .write task packet 0, .pending⟩
        ⟨conn, .write task packet (0 + packet.length),
          if 0 + packet.length = packet.length then .queued none else .pending⟩) := by
    apply budget.spend member
    · intro other
      simp only [Op.waits, decide_true, Bool.and_true]
    · intro other
      simp only [Op.waits, Nat.zero_add, if_true, reduceCtorEq, decide_false, Bool.and_false]
    · exact bound
  exact replaced.same rfl (fun _ => rfl) fun _ => Nat.le_refl _

theorem kept_plugged [Inhabited Msg] (allowed : State Msg → Label Msg → Prop) :
    Kept False allowed fun config : Duty × State Msg => Plugged config.2 where
  initial := by
    intro conn linked
    rcases linked with connected | ⟨op, member, -⟩
    · cases connected
    · cases member
  tidy := fun _ _ _ => False.elim
  waiting := fun _ _ => False.elim
  step := fun _ _ base plugged step => plugged.handlerStep base step
  dequeue := by
    intro state op _ plugged member
    exact plugged.same (fun _ => rfl) fun _ found _ _ => List.mem_of_mem_erase found
  complete := by
    intro state op error next _ plugged completed
    obtain ⟨member, pending, change, changes, rfl⟩ := complete_eq_some completed
    have replaced : Plugged (state.replaceOp op { op with status := .queued error }) :=
      plugged.replaceOp fun _ => by exact OpStatus.noConfusion
    rcases changes with rfl | ⟨connect, -, rfl⟩
    · rw [modifyConn_id]
      exact replaced
    · intro conn linked
      by_cases same : conn = op.conn
      · subst same
        rw [State.connections_modifyConn, if_pos rfl]
        exact plugged op.conn (.inr ⟨op, member, rfl, connect, pending⟩)
      · rw [State.connections_modifyConn, if_neg same] at linked ⊢
        exact replaced conn linked
  writeSome := by
    intro state op count next _ plugged _ written
    obtain ⟨task, packet, sent, kind, member, _, _, _, _, rfl⟩ := writeSome_eq_some written
    have replaced : Plugged (state.replaceOp op
        { op with
          kind := .write task packet (sent + count)
          status := if sent + count = packet.length then .queued none else .pending }) := by
      apply plugged.replaceOp
      intro connect
      obtain ⟨other, same⟩ := connect
      cases same
    intro conn linked
    by_cases same : conn = op.conn
    · subst same
      have earlier := replaced op.conn
      rw [State.connections_modifyConn, if_pos rfl] at linked ⊢
      exact earlier linked
    · rw [State.connections_modifyConn, if_neg same] at linked ⊢
      exact replaced conn linked

end Runs

end CarrotRpc.Client
