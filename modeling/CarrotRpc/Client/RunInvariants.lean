import CarrotRpc.Client.HandlerScripts

/-! Invariants of the runs of a channel: what the steps of the handlers keep, and
what the completions keep, holds in every state a run reaches. -/

set_option autoImplicit false

namespace CarrotRpc.Client

open Library Common Protob

variable {Msg : Type}

/-- What the handler of an operation takes over from it. -/
def Op.duty (op : Op) : Duty :=
  match op.kind.role with
  | .resolve task => ⟨[task], [], [], []⟩
  | .connect task => ⟨[task], [op.conn], [], []⟩
  | .read => ⟨[], [op.conn], [], []⟩
  | .follow _ => .none

/-- No closure throws, and no connection is made for a call that was completed. -/
def Tidy (state : State Msg) : Label Msg → Prop
  | .callMethod _ done => done.NeverThrows
  | .handle op _ =>
      ∀ task, op.kind = .connect task → op.status = .queued none →
        (state.tasks task).called = false
  | .complete _ _ | .writeSome _ _ => True

instance (state : State Msg) (label : Label Msg) : Decidable (Tidy state label) :=
  match label with
  | .callMethod _ done => inferInstanceAs (Decidable done.NeverThrows)
  | .complete _ _ | .writeSome _ _ => .isTrue trivial
  | .handle ⟨_, .connect task, status⟩ _ =>
      decidable_of_iff (status = .queued none → (state.tasks task).called = false)
        ⟨fun calm _ same succeeded => OpKind.connect.inj same ▸ calm succeeded,
          fun tidy => tidy task rfl⟩
  | .handle ⟨_, .resolve _, _⟩ _ | .handle ⟨_, .readHeader, _⟩ _
  | .handle ⟨_, .readPayload, _⟩ _ | .handle ⟨_, .write _ _ _, _⟩ _
  | .handle ⟨_, .timer _, _⟩ _ => .isTrue nofun

theorem Op.bare_perm {state : State Msg} {op : Op} (member : op ∈ state.ops) :
    (op.bare :: (state.dequeue op).ledger.ops).Perm state.ledger.ops :=
  ((List.perm_cons_erase member).map Op.bare).symm

namespace Base

variable {careful : Prop} {state : State Msg} {op : Op}

theorem dequeue (base : Base careful (.none, state)) (member : op ∈ state.ops) :
    Base careful (op.duty, state.dequeue op) := by
  have sound := base.sound.reorder (Op.bare_perm member)
  have once := base.once.reorder (Op.bare_perm member)
  refine ⟨?_, once.takeOver, base.tame⟩
  have takes := sound.takeOver (List.nil_subset op.duty.hand) (List.nil_subset op.duty.serving)
  obtain ⟨conn, kind, status⟩ := op
  cases kind with
  | resolve task =>
      exact takes (fun other attempts => of_decide_eq_true attempts ▸ List.mem_cons_self) nofun
  | connect task =>
      exact takes (fun other attempts => of_decide_eq_true attempts ▸ List.mem_cons_self)
        fun _ => List.mem_cons_self
  | readHeader => exact takes nofun fun _ => List.mem_cons_self
  | readPayload => exact takes nofun fun _ => List.mem_cons_self
  | write task packet sent => exact takes nofun nofun
  | timer task => exact takes nofun nofun

theorem unsent_dequeue {task : TaskRef} (base : Base careful (.none, state))
    (member : op ∈ state.ops) (attempts : op.kind.role.attempts task = true) :
    (state.dequeue op).ledger.Unsent task := by
  have once := base.once.reorder (Op.bare_perm member)
  have bound := (base.sound.op_task op.bare (List.mem_map_of_mem member) task
    (Role.task?_of_attempts attempts)).1
  exact once.unsent_of_attempt bound attempts

end Base

section Runs

variable [Protobuf] {careful : Prop} {state next : State Msg} {op : Op}

theorem script_invoke (error : Option SystemError) (input : Input)
    (base : Base careful (.none, state)) (member : op ∈ state.ops)
    (queued : op.status = .queued error) (tidy : careful → Tidy state (.handle op input))
    (waiting : careful → Waiting state) :
    Script careful (op.duty, state.dequeue op)
      (.none, ((state.dequeue op).invoke op error input).1) := by
  have taken := base.dequeue member
  have known : op.conn < state.nextConn :=
    base.sound.op_conn op.bare (List.mem_map_of_mem member)
  have binds : ∀ task, op.kind.role.task? = some task →
      task < state.nextTask ∧ (state.tasks task).conn = op.conn :=
    base.sound.op_task op.bare (List.mem_map_of_mem member)
  have unsent : ∀ task, op.kind.role.attempts task = true →
      (state.dequeue op).ledger.Unsent task := fun _ => base.unsent_dequeue member
  obtain ⟨conn, kind, status⟩ := op
  cases kind with
  | resolve task =>
      obtain ⟨bound, sameConn⟩ := binds task rfl
      exact script_handleResolve error taken bound sameConn (unsent task (decide_eq_true rfl))
  | connect task =>
      obtain ⟨bound, sameConn⟩ := binds task rfl
      refine script_handleConnect input.heap error taken bound sameConn
        (unsent task (decide_eq_true rfl)) fun calm succeeded => ?_
      have uncalled := tidy calm task rfl (succeeded ▸ queued)
      exact base.sound.runs_zero bound uncalled List.not_mem_nil
  | readHeader => exact script_handleReadHeader input.heap input.header error taken known
  | readPayload =>
      exact script_handleReadPayload input.heap input.data input.transferred error taken known
        waiting
  | write task packet sent =>
      obtain ⟨bound, sameConn⟩ := binds task rfl
      exact script_handleWrite error taken bound sameConn
  | timer task => exact script_handleTimeout error taken (binds task rfl).1

omit [Protobuf] in
theorem settle_eq_some (settled : state.settle = some next) :
    next = state ∧ next.stuck = false := by
  unfold State.settle at settled
  split at settled
  · cases settled
  · next unstuck =>
      cases settled
      exact ⟨rfl, eq_false_of_ne_true unstuck⟩

theorem handle_eq_some {input : Input} (handled : state.handle op input = some next) :
    ∃ error, op.status = .queued error ∧ op ∈ state.ops ∧
      next = ((state.dequeue op).invoke op error input).1 ∧ next.stuck = false := by
  unfold State.handle at handled
  cases status : op.status with
  | pending => simp [status] at handled
  | queued error =>
      simp only [status] at handled
      split at handled
      · next member =>
          obtain ⟨same, unstuck⟩ := settle_eq_some handled
          exact ⟨error, rfl, member, same, unstuck⟩
      · cases handled

omit [Protobuf] in
theorem modifyConn_id (conn : ConnRef) : state.modifyConn conn id = state := by
  simp [State.modifyConn]

/-- The socket is connected. -/
def RpcClientConnection.connected (connection : RpcClientConnection) : RpcClientConnection :=
  { connection with socket := { connection.socket with connected := true } }

omit [Protobuf] in
theorem complete_eq_some {error : Option SystemError}
    (completed : state.complete op error = some next) :
    op ∈ state.ops ∧ op.status = .pending ∧ ∃ change,
      (change = id ∨ (∃ task, op.kind = .connect task) ∧ error = none ∧
        change = RpcClientConnection.connected) ∧
      next = (state.replaceOp op { op with status := .queued error }).modifyConn op.conn
        change := by
  unfold State.complete at completed
  split at completed
  · next enabled =>
      refine ⟨enabled.1, enabled.2, ?_⟩
      simp only at completed
      split at completed
      · cases completed
      · next task kind =>
          cases completed
          exact ⟨_, .inr ⟨⟨task, kind⟩, rfl, rfl⟩, rfl⟩
      · cases completed
        exact ⟨id, .inl rfl, (modifyConn_id op.conn).symm⟩
  · cases completed

omit [Protobuf] in
theorem writeSome_eq_some {count : Nat} (written : state.writeSome op count = some next) :
    ∃ task packet sent, op.kind = .write task packet sent ∧ op ∈ state.ops ∧
      op.status = .pending ∧ (state.connections op.conn).socket.connected = true ∧
      0 < count ∧ sent + count ≤ packet.length ∧
      next = (state.replaceOp op
          { op with
            kind := .write task packet (sent + count)
            status := if sent + count = packet.length then .queued none else .pending }).modifyConn
        op.conn fun connection =>
          { connection with socket := State.accept task packet sent count connection.socket } := by
  unfold State.writeSome at written
  split at written
  · next task packet sent kind =>
      simp only at written
      split at written
      · next enabled =>
          obtain ⟨member, pending, connected, positive, fits⟩ := enabled
          cases written
          exact ⟨task, packet, sent, kind, member, pending, connected, positive, fits, rfl⟩
      · cases written
  · cases written

omit [Protobuf] in
theorem Base.replace {replacement : Op} {change : RpcClientConnection → RpcClientConnection}
    {conn : ConnRef} (base : Base careful (.none, state)) (member : op ∈ state.ops)
    (bare : replacement.bare = op.bare)
    (keeps : (change (state.connections conn)).entry = (state.connections conn).entry) :
    Base careful (.none, (state.replaceOp op replacement).modifyConn conn change) := by
  have perm : (state.replaceOp op replacement).ledger.ops.Perm state.ledger.ops := by
    have moved : (state.replaceOp op replacement).ledger.ops =
        (state.dequeue op).ledger.ops ++ [op.bare] := by
      simp [State.replaceOp, State.ledger, State.dequeue, bare]
    rw [moved]
    exact (List.perm_append_comm).trans (Op.bare_perm member)
  have same : ((state.replaceOp op replacement).modifyConn conn change).ledger =
      { state.ledger with ops := (state.replaceOp op replacement).ledger.ops } :=
    State.ledger_modifyConn_same keeps
  refine ⟨?_, ?_, base.tame⟩
  · rw [same]
    exact base.sound.reorder perm
  · rw [same]
    exact base.once.reorder perm

omit [Protobuf] in
theorem Base.complete {error : Option SystemError} (base : Base careful (.none, state))
    (completed : state.complete op error = some next) : Base careful (.none, next) := by
  obtain ⟨member, _, change, changes, rfl⟩ := complete_eq_some completed
  refine base.replace member rfl ?_
  rcases changes with rfl | ⟨_, _, rfl⟩ <;> rfl

omit [Protobuf] in
theorem Base.writeSome {count : Nat} (base : Base careful (.none, state))
    (written : state.writeSome op count = some next) : Base careful (.none, next) := by
  obtain ⟨task, packet, sent, kind, member, _, _, _, _, rfl⟩ := writeSome_eq_some written
  refine base.replace member ?_ rfl
  simp [Op.bare, kind, OpKind.role]

/-- What has to be shown of a property of the state and the duties of the running
code so that it holds in every state of the allowed runs. -/
structure Kept (careful : Prop) [Inhabited Msg] (allowed : State Msg → Label Msg → Prop)
    (fact : Duty × State Msg → Prop) : Prop where
  initial : fact (.none, (channel Msg).initial)
  tidy : ∀ state label, allowed state label → careful → Tidy state label
  waiting : ∀ state, fact (.none, state) → careful → Waiting state
  step : ∀ before after, Base careful before → fact before →
    HandlerStep careful before after → fact after
  dequeue : ∀ state op, Base careful (.none, state) → fact (.none, state) → op ∈ state.ops →
    fact (op.duty, state.dequeue op)
  complete : ∀ state op error next, Base careful (.none, state) → fact (.none, state) →
    state.complete op error = some next → fact (.none, next)
  writeSome : ∀ state op count next, Base careful (.none, state) → fact (.none, state) →
    allowed state (.writeSome op count) → state.writeSome op count = some next →
    fact (.none, next)

theorem Base.initial [Inhabited Msg] : Base careful (.none, (channel Msg).initial) where
  sound :=
    { conns_lt := nofun
      conn_lt := fun task bound => absurd bound (Nat.not_lt_zero task)
      op_conn := nofun
      op_task := nofun
      entry := nofun
      id_le := fun task bound => absurd bound (Nat.not_lt_zero task)
      id_unique := fun task bound => absurd bound (Nat.not_lt_zero task)
      runs_le := fun task bound => absurd bound (Nat.not_lt_zero task)
      called_runs := fun task bound => absurd bound (Nat.not_lt_zero task)
      settled := fun task bound => absurd bound (Nat.not_lt_zero task)
      running := nofun
      carried := fun task bound => absurd bound (Nat.not_lt_zero task)
      served := by
        rintro conn (isOpen | nonempty)
        · cases isOpen
        · exact absurd rfl nonempty }
  once :=
    { once := fun task bound => absurd bound (Nat.not_lt_zero task)
      entry_sent := nofun }
  tame := fun _ task bound => absurd bound (Nat.not_lt_zero task)

theorem Kept.script [Inhabited Msg] {allowed : State Msg → Label Msg → Prop}
    {fact : Duty × State Msg → Prop} (kept : Kept careful allowed fact)
    {before after : Duty × State Msg} (base : Base careful before) (holds : fact before)
    (script : Script careful before after) : fact after := by
  have both : Base careful after ∧ fact after := by
    induction script with
    | refl => exact ⟨base, holds⟩
    | tail _ step ih => exact ⟨ih.1.handlerStep step, kept.step _ _ ih.1 ih.2 step⟩
  exact both.2

theorem Kept.reachable [Inhabited Msg] {allowed : State Msg → Label Msg → Prop}
    {fact : Duty × State Msg → Prop} (kept : Kept careful allowed fact)
    (reached : (channel Msg).ReachableVia allowed state) :
    Base careful (.none, state) ∧ fact (.none, state) ∧ state.stuck = false := by
  let Inv := fun state : State Msg =>
    Base careful (.none, state) ∧ fact (.none, state) ∧ state.stuck = false
  have start : Inv (channel Msg).initial := ⟨.initial, kept.initial, rfl⟩
  refine reached.invariant (channel Msg) start ?_
  rintro state label next ⟨base, holds, unstuck⟩ permitted stepped
  have tidy := kept.tidy state label permitted
  cases label with
  | callMethod call done =>
      obtain ⟨rfl, calm⟩ := settle_eq_some stepped
      have script := callScript_callMethod call (bodyScript_run done tidy) tidy base
      exact ⟨base.callScript script, kept.script base holds (CallScript.script script), calm⟩
  | complete op error =>
      have same : next.stuck = state.stuck := by
        obtain ⟨_, _, change, _, rfl⟩ := complete_eq_some stepped
        rfl
      exact ⟨base.complete stepped, kept.complete state op error next base holds stepped,
        same.trans unstuck⟩
  | writeSome op count =>
      have same : next.stuck = state.stuck := by
        obtain ⟨task, packet, sent, _, _, _, _, _, _, rfl⟩ := writeSome_eq_some stepped
        rfl
      exact ⟨base.writeSome stepped,
        kept.writeSome state op count next base holds permitted stepped, same.trans unstuck⟩
  | handle op input =>
      obtain ⟨error, queued, member, rfl, calm⟩ := handle_eq_some stepped
      have script := script_invoke error input base member queued tidy
        (kept.waiting state holds)
      have taken := base.dequeue member
      exact ⟨taken.script script,
        kept.script taken (kept.dequeue state op base holds member) script, calm⟩

end Runs

end CarrotRpc.Client
