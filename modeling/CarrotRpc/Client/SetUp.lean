import CarrotRpc.Client.RunInvariants

/-! How a connection is set up while nothing fails: its name is resolved, then its
socket is connected, then it is read from. Each stage has one operation that leads
to the next, and every call waits for it or was sent on the only socket. -/

set_option autoImplicit false

namespace CarrotRpc.Client

open Library Common Protob

variable {Msg : Type}

/-- No allocation and no serialization for the call fails. -/
structure Call.Nominal (call : Call Msg) : Prop where
  heap : call.heap.Succeeds
  metadata : call.serializesMetadata = true
  request : call.serializesRequest = true

/-- Every call the closure makes is nominal. -/
def Closure.Nominal : Closure Msg → Prop
  | .returns | .throws _ => True
  | .callMethod call done next => call.Nominal ∧ done.Nominal ∧ next.Nominal

namespace OpKind

def isTimer : OpKind → Bool
  | .timer _ => true
  | .resolve _ | .connect _ | .readHeader | .readPayload | .write _ _ _ => false

def isAttempt : OpKind → Bool
  | .resolve _ | .connect _ => true
  | .readHeader | .readPayload | .write _ _ _ | .timer _ => false

def isRead : OpKind → Bool
  | .readHeader | .readPayload => true
  | .resolve _ | .connect _ | .write _ _ _ | .timer _ => false

def setsUp (kind : OpKind) : Bool :=
  kind.isAttempt || kind.isRead

def writesFor (task : TaskRef) : OpKind → Bool
  | .write other _ _ => other = task
  | .resolve _ | .connect _ | .readHeader | .readPayload | .timer _ => false

@[simp] theorem writesFor_write (other task : TaskRef) (packet : List UInt8) (sent : Nat) :
    writesFor other (.write task packet sent) = decide (task = other) := rfl

theorem of_setsUp {kind : OpKind} (setsUp : kind.setsUp = true) :
    kind.isTimer = false ∧ ∀ task, kind.writesFor task = false := by
  cases kind with
  | resolve | connect | readHeader | readPayload => exact ⟨rfl, fun _ => rfl⟩
  | write | timer => cases setsUp

end OpKind

namespace State

/-- The operations of a connection, timers apart. -/
def opsOf (conn : ConnRef) (state : State Msg) : List Op :=
  state.ops.filter fun op => op.conn = conn && !op.kind.isTimer

/-- How many writes of the task's packet the socket has not taken whole yet. -/
def inFlight (conn : ConnRef) (task : TaskRef) (state : State Msg) : Nat :=
  (state.opsOf conn).countP fun op => op.kind.writesFor task && op.status = .pending

theorem abort_same (op : Op) : (abort op).conn = op.conn ∧ (abort op).kind = op.kind := by
  obtain ⟨conn, kind, status⟩ := op
  cases status <;> exact ⟨rfl, rfl⟩

theorem opsOf_cancel {state : State Msg} {conn : ConnRef} (selected : Op → Bool) :
    (state.cancel selected).opsOf conn =
      (state.opsOf conn).map fun op => if selected op then abort op else op := by
  have same : ∀ op, (if selected op then abort op else op).conn = op.conn ∧
      (if selected op then abort op else op).kind = op.kind := by
    intro op
    split
    · exact abort_same op
    · exact ⟨rfl, rfl⟩
  have agree : ((fun op : Op => decide (op.conn = conn) && !op.kind.isTimer) ∘
      fun op => if selected op then abort op else op) =
      fun op : Op => decide (op.conn = conn) && !op.kind.isTimer := by
    funext op
    simp only [Function.comp_apply, (same op).1, (same op).2]
  rw [opsOf, cancel, List.filter_map, agree, opsOf]

end State

/-- The parts of a response packet, read one after the other. -/
inductive Part where
  | header
  | payload

def Part.kind : Part → OpKind
  | .header => .readHeader
  | .payload => .readPayload

theorem Part.kind_isRead (part : Part) : part.kind.isRead = true := by
  cases part <;> rfl

inductive Stage where
  | fresh
  | resolving (task : TaskRef)
  | connecting (task : TaskRef)
  | linked
  | reading (part : Part)

namespace Stage

/-- The calls that are sent when the connection is made. -/
def waits : Stage → List TaskRef
  | .resolving task | .connecting task => [task]
  | .fresh | .linked | .reading _ => []

/-- The operation that leads to the next stage. -/
def kinds : Stage → List OpKind
  | .fresh | .linked => []
  | .resolving task => [.resolve task]
  | .connecting task => [.connect task]
  | .reading part => [part.kind]

def closed : Stage → Bool
  | .fresh | .resolving _ => true
  | .connecting _ | .linked | .reading _ => false

def resolves : Stage → Bool
  | .resolving _ => true
  | .fresh | .connecting _ | .linked | .reading _ => false

def linkedUp : Stage → Bool
  | .linked | .reading _ => true
  | .fresh | .resolving _ | .connecting _ => false

end Stage

/-- The connection is in the given stage, and the running code has yet to send the
calls in `hand`. -/
structure InStage (conn : ConnRef) (stage : Stage) (hand : List TaskRef) (state : State Msg) :
    Prop where
  intact : (state.connections conn).destroyedAt = none
  nodup : (stage.waits ++ hand).Nodup
  waiting : ∀ task ∈ stage.waits ++ hand, task < state.nextTask
  kinds : (((state.opsOf conn).map Op.kind).filter OpKind.setsUp).Perm stage.kinds
  calm : ∀ op ∈ state.opsOf conn, ∀ error, op.status ≠ .queued (some error)
  writes : ∀ task < state.nextTask, (state.tasks task).conn = conn →
    (state.tasks task).writes = if task ∈ stage.waits ++ hand then 0 else 1
  called : ∀ task < state.nextTask, (state.tasks task).conn = conn →
    (state.tasks task).called = true → 0 < (state.tasks task).writes
  counted : ∀ task < state.nextTask, (state.tasks task).conn = conn →
    (state.connections conn).socket.finished.count task + state.inFlight conn task =
      (state.tasks task).writes
  strangers : ∀ task, (task < state.nextTask → (state.tasks task).conn ≠ conn) →
    (state.connections conn).socket.finished.count task + state.inFlight conn task = 0
  closed : stage.closed = true → (state.connections conn).socket = {} ∧
    ∀ task < state.nextTask, (state.tasks task).conn = conn → task ∈ stage.waits ++ hand
  opened : stage.closed = false → (state.connections conn).socket.isOpen = true ∧
    (state.connections conn).socket.session = 1
  resolves : stage.resolves = true → (state.connections conn).connecting = true
  connected : stage.linkedUp = true ∨
      (∃ task, ⟨conn, .connect task, .queued none⟩ ∈ state.opsOf conn) →
    (state.connections conn).socket.connected = true

/-- What is known of a connection while the running code does not work on it: it does
not exist yet, or it is in a stage of its set-up, unless a call was made during its
resolution. -/
inductive Standing (conn : ConnRef) (hand : List TaskRef) (state : State Msg) : Prop where
  | unknown (later : state.nextConn ≤ conn)
      (unmapped : ∀ entry ∈ state.conns.entries, entry.2 ≠ conn)
      (quiet : state.opsOf conn = [])
      (unused : ∀ task < state.nextTask, (state.tasks task).conn ≠ conn)
  | stuck (hangs : state.stuck = true)
  | overlapped (known : conn < state.nextConn)
      (overlaps : (state.connections conn).overlapped = true)
  | settled (stage : Stage) (known : conn < state.nextConn)
      (inStage : InStage conn stage hand state)

/-- Besides, no timer expired and every call is nominal. -/
structure Fair (conn : ConnRef) (hand : List TaskRef) (state : State Msg) : Prop where
  held : ∀ op ∈ state.ops, op.kind.isTimer = true → op.status ≠ .queued none
  nominal : ∀ task < state.nextTask,
    (state.tasks task).call.Nominal ∧ (state.tasks task).done.Nominal
  standing : Standing conn hand state

/-- The task is the same call, and was not sent less often. -/
structure SameCall (record next : CallTask Msg) : Prop where
  conn : next.conn = record.conn
  call : next.call = record.call
  done : next.done = record.done
  writes : record.writes ≤ next.writes

theorem SameCall.refl (record : CallTask Msg) : SameCall record record :=
  ⟨rfl, rfl, rfl, Nat.le_refl _⟩

theorem SameCall.trans {record middle next : CallTask Msg} (first : SameCall record middle)
    (second : SameCall middle next) : SameCall record next where
  conn := second.conn.trans first.conn
  call := second.call.trans first.call
  done := second.done.trans first.done
  writes := Nat.le_trans first.writes second.writes

/-- Nothing that concerns the set-up of the connection differs. -/
structure Away (conn : ConnRef) (before after : State Msg) : Prop where
  count : after.nextTask = before.nextTask
  known : after.nextConn = before.nextConn
  conns : after.conns = before.conns
  stuck : before.stuck = true → after.stuck = true
  ops : after.opsOf conn = before.opsOf conn
  timers : ∀ op ∈ after.ops, op.kind.isTimer = true → op.status = .queued none →
    op ∈ before.ops
  socket : (after.connections conn).socket = (before.connections conn).socket
  connecting : (after.connections conn).connecting = (before.connections conn).connecting
  overlapped : (after.connections conn).overlapped = (before.connections conn).overlapped
  destroyedAt : (after.connections conn).destroyedAt = (before.connections conn).destroyedAt
  same : ∀ task, SameCall (before.tasks task) (after.tasks task)
  here : ∀ task, (before.tasks task).conn = conn →
    (after.tasks task).writes = (before.tasks task).writes ∧
      ((after.tasks task).called = true →
        (before.tasks task).called = true ∨ 0 < (before.tasks task).writes)

/-- What any code does to the calls there are. -/
structure Grows (before after : State Msg) : Prop where
  count : before.nextTask ≤ after.nextTask
  same : ∀ task < before.nextTask, SameCall (before.tasks task) (after.tasks task)

/-- What code does that does not work on the connection itself. -/
structure Course (conn : ConnRef) (before after : State Msg) : Prop extends
    Grows before after where
  fair : Fair conn [] before → Fair conn [] after

section Away

variable {conn : ConnRef} {stage : Stage} {hand : List TaskRef} {before after : State Msg}

theorem InStage.away (inStage : InStage conn stage hand before) (away : Away conn before after) :
    InStage conn stage hand after := by
  have inFlight : ∀ task, after.inFlight conn task = before.inFlight conn task := by
    intro task
    simp only [State.inFlight, away.ops]
  have mine : ∀ task, (after.tasks task).conn = conn → (before.tasks task).conn = conn :=
    fun task sameConn => (away.same task).conn.symm.trans sameConn
  refine ⟨?_, inStage.nodup, ?_, ?_, ?_, ?_, ?_, ?_, ?_, ?_, ?_, ?_, ?_⟩
  · exact away.destroyedAt.trans inStage.intact
  · rw [away.count]
    exact inStage.waiting
  · rw [away.ops]
    exact inStage.kinds
  · rw [away.ops]
    exact inStage.calm
  · rw [away.count]
    intro task bound sameConn
    exact (away.here task (mine task sameConn)).1.trans
      (inStage.writes task bound (mine task sameConn))
  · rw [away.count]
    intro task bound sameConn
    obtain ⟨writes, called⟩ := away.here task (mine task sameConn)
    rw [writes]
    intro ended
    rcases called ended with called | sent
    · exact inStage.called task bound (mine task sameConn) called
    · exact sent
  · rw [away.count, away.socket]
    intro task bound sameConn
    rw [inFlight, (away.here task (mine task sameConn)).1]
    exact inStage.counted task bound (mine task sameConn)
  · rw [away.count, away.socket]
    intro task foreign
    rw [inFlight]
    exact inStage.strangers task fun bound => (away.same task).conn ▸ foreign bound
  · rw [away.count, away.socket]
    intro closed
    obtain ⟨socket, only⟩ := inStage.closed closed
    exact ⟨socket, fun task bound sameConn => only task bound (mine task sameConn)⟩
  · rw [away.socket]
    exact inStage.opened
  · rw [away.connecting]
    exact inStage.resolves
  · rw [away.socket, away.ops]
    exact inStage.connected

theorem Standing.away (standing : Standing conn hand before) (away : Away conn before after) :
    Standing conn hand after := by
  cases standing with
  | unknown later unmapped quiet unused =>
      refine .unknown ?_ ?_ (away.ops.trans quiet) ?_
      · rw [away.known]
        exact later
      · rw [away.conns]
        exact unmapped
      · rw [away.count]
        exact fun task bound sameConn =>
          unused task bound ((away.same task).conn.symm.trans sameConn)
  | stuck hangs => exact .stuck (away.stuck hangs)
  | overlapped known overlaps =>
      refine .overlapped ?_ (away.overlapped.trans overlaps)
      rw [away.known]
      exact known
  | settled stage known inStage =>
      refine .settled stage ?_ (inStage.away away)
      rw [away.known]
      exact known

theorem Fair.away (fair : Fair conn hand before) (away : Away conn before after) :
    Fair conn hand after where
  held := by
    intro op member timer expired
    exact fair.held op (away.timers op member timer expired) timer expired
  nominal := by
    rw [away.count]
    intro task bound
    rw [(away.same task).call, (away.same task).done]
    exact fair.nominal task bound
  standing := fair.standing.away away

theorem Away.grows (away : Away conn before after) : Grows before after where
  count := Nat.le_of_eq away.count.symm
  same := fun task _ => away.same task

theorem Away.course (away : Away conn before after) : Course conn before after where
  toGrows := away.grows
  fair := fun fair => fair.away away

theorem Away.refl (state : State Msg) : Away conn state state where
  count := rfl
  known := rfl
  conns := rfl
  stuck := id
  ops := rfl
  timers := fun _ member _ _ => member
  socket := rfl
  connecting := rfl
  overlapped := rfl
  destroyedAt := rfl
  same := fun _ => .refl _
  here := fun _ _ => ⟨rfl, .inl⟩

theorem Away.trans {middle : State Msg} (first : Away conn before middle)
    (second : Away conn middle after) : Away conn before after where
  count := second.count.trans first.count
  known := second.known.trans first.known
  conns := second.conns.trans first.conns
  stuck := fun hangs => second.stuck (first.stuck hangs)
  ops := second.ops.trans first.ops
  timers := fun op member timer expired =>
    first.timers op (second.timers op member timer expired) timer expired
  socket := second.socket.trans first.socket
  connecting := second.connecting.trans first.connecting
  overlapped := second.overlapped.trans first.overlapped
  destroyedAt := second.destroyedAt.trans first.destroyedAt
  same := fun task => (first.same task).trans (second.same task)
  here := by
    intro task sameConn
    obtain ⟨writes, called⟩ := first.here task sameConn
    obtain ⟨writes', called'⟩ := second.here task ((first.same task).conn.trans sameConn)
    refine ⟨writes'.trans writes, fun ended => ?_⟩
    rcases called' ended with ended | sent
    · exact called ended
    · exact .inr (writes ▸ sent)

theorem Grows.trans {middle : State Msg} (first : Grows before middle)
    (second : Grows middle after) : Grows before after where
  count := Nat.le_trans first.count second.count
  same := fun task bound =>
    (first.same task bound).trans (second.same task (Nat.lt_of_lt_of_le bound first.count))

theorem Course.refl (state : State Msg) : Course conn state state where
  count := Nat.le_refl _
  same := fun _ _ => .refl _
  fair := id

theorem Course.trans {middle : State Msg} (first : Course conn before middle)
    (second : Course conn middle after) : Course conn before after where
  toGrows := first.toGrows.trans second.toGrows
  fair := fun fair => second.fair (first.fair fair)

end Away

namespace Away

variable {conn : ConnRef} {state : State Msg}

theorem modifyTask {task : TaskRef} {change : CallTask Msg → CallTask Msg}
    (same : SameCall (state.tasks task) (change (state.tasks task)))
    (here : (state.tasks task).conn = conn →
      (change (state.tasks task)).writes = (state.tasks task).writes ∧
        ((change (state.tasks task)).called = true →
          (state.tasks task).called = true ∨ 0 < (state.tasks task).writes)) :
    Away conn state (state.modifyTask task change) where
  count := rfl
  known := rfl
  conns := rfl
  stuck := id
  ops := rfl
  timers := fun _ member _ _ => member
  socket := rfl
  connecting := rfl
  overlapped := rfl
  destroyedAt := rfl
  same := by
    intro other
    rw [State.tasks_modifyTask]
    split
    · next equal => exact equal ▸ same
    · exact .refl _
  here := by
    intro other sameConn
    rw [State.tasks_modifyTask]
    split
    · next equal => exact equal ▸ here (equal ▸ sameConn)
    · exact ⟨rfl, .inl⟩

/-- Changes of fields that the set-up does not depend on. -/
theorem note {task : TaskRef} {change : CallTask Msg → CallTask Msg}
    (conn_eq : ∀ record, (change record).conn = record.conn)
    (call : ∀ record, (change record).call = record.call)
    (done : ∀ record, (change record).done = record.done)
    (writes : ∀ record, (change record).writes = record.writes)
    (called : ∀ record, (change record).called = record.called) :
    Away conn state (state.modifyTask task change) :=
  modifyTask ⟨conn_eq _, call _, done _, Nat.le_of_eq (writes _).symm⟩
    fun _ => ⟨writes _, fun ended => .inl ((called _).symm.trans ended)⟩

theorem mark {task : TaskRef} (next : TaskState) :
    Away conn state (state.modifyTask task fun record => { record with state := next }) :=
  note (fun _ => rfl) (fun _ => rfl) (fun _ => rfl) (fun _ => rfl) fun _ => rfl

theorem modifyConn {other : ConnRef} {change : RpcClientConnection → RpcClientConnection}
    (keeps : other = conn →
      (change (state.connections conn)).socket = (state.connections conn).socket ∧
      (change (state.connections conn)).connecting = (state.connections conn).connecting ∧
      (change (state.connections conn)).overlapped = (state.connections conn).overlapped ∧
      (change (state.connections conn)).destroyedAt = (state.connections conn).destroyedAt) :
    Away conn state (state.modifyConn other change) := by
  have fields : ∀ {Field : Type} (field : RpcClientConnection → Field),
      (other = conn → field (change (state.connections conn)) = field (state.connections conn)) →
      field ((state.modifyConn other change).connections conn) =
        field (state.connections conn) := by
    intro Field field kept
    rw [State.connections_modifyConn]
    split
    · next same =>
        subst same
        exact kept rfl
    · rfl
  exact
    { count := rfl
      known := rfl
      conns := rfl
      stuck := id
      ops := rfl
      timers := fun _ member _ _ => member
      socket := fields _ fun same => (keeps same).1
      connecting := fields _ fun same => (keeps same).2.1
      overlapped := fields _ fun same => (keeps same).2.2.1
      destroyedAt := fields _ fun same => (keeps same).2.2.2
      same := fun _ => .refl _
      here := fun _ _ => ⟨rfl, .inl⟩ }

theorem elsewhere {other : ConnRef} {change : RpcClientConnection → RpcClientConnection}
    (different : other ≠ conn) : Away conn state (state.modifyConn other change) :=
  modifyConn fun same => absurd same different

theorem withOps {ops : List Op}
    (same : ops.filter (fun op => op.conn = conn && !op.kind.isTimer) = state.opsOf conn)
    (timers : ∀ op ∈ ops, op.kind.isTimer = true → op.status = .queued none →
      op ∈ state.ops) : Away conn state { state with ops := ops } where
  count := rfl
  known := rfl
  conns := rfl
  stuck := id
  ops := same
  timers := timers
  socket := rfl
  connecting := rfl
  overlapped := rfl
  destroyedAt := rfl
  same := fun _ => .refl _
  here := fun _ _ => ⟨rfl, .inl⟩

theorem start {op : Op} (other : op.conn ≠ conn ∨ op.kind.isTimer = true)
    (waits : op.status ≠ .queued none ∨ op.kind.isTimer = false) :
    Away conn state (state.start op) := by
  refine withOps ?_ ?_
  · rw [List.filter_append, State.opsOf]
    rcases other with different | timer
    · simp [different]
    · simp [timer]
  · intro added member timer expired
    rcases List.mem_append.mp member with old | new
    · exact old
    · rw [List.mem_singleton.mp new] at timer expired
      rcases waits with waits | untimed
      · exact absurd expired waits
      · cases untimed.symm.trans timer

theorem startOnSocket {other : ConnRef} {kind : OpKind} (different : other ≠ conn)
    (untimed : kind.isTimer = false) : Away conn state (state.startOnSocket other kind) := by
  unfold State.startOnSocket
  exact start (.inl different) (.inr untimed)

theorem mem_of_abort {op : Op} (queued : (State.abort op).status = .queued none) :
    State.abort op = op := by
  obtain ⟨opConn, kind, status⟩ := op
  cases status with
  | pending => cases queued
  | queued error => rfl

theorem cancel {selected : Op → Bool}
    (spares : ∀ op, selected op = true → op.conn = conn → op.kind.isTimer = true) :
    Away conn state (state.cancel selected) := by
  refine withOps ?_ ?_
  · refine (State.opsOf_cancel selected).trans ?_
    refine (List.map_congr_left fun op member => ?_).trans (List.map_id _)
    obtain ⟨_, mine⟩ := List.mem_filter.mp member
    simp only [Bool.and_eq_true, decide_eq_true_eq, Bool.not_eq_true'] at mine
    split
    · next chosen => cases mine.2.symm.trans (spares op chosen mine.1)
    · rfl
  · intro op member timer expired
    obtain ⟨old, present, rfl⟩ := List.mem_map.mp member
    split at expired
    · next chosen =>
        rw [if_pos chosen, mem_of_abort expired]
        exact present
    · next spared =>
        rw [if_neg spared]
        exact present

theorem cancelTimer {task : TaskRef} : Away conn state (state.cancelTimer task) := by
  refine cancel fun op chosen _ => ?_
  simp only [decide_eq_true_eq] at chosen
  rw [chosen]
  rfl

theorem cancelResolver {other : ConnRef} (different : other ≠ conn) :
    Away conn state (state.cancelResolver other) := by
  refine cancel fun op chosen sameConn => ?_
  simp only [Bool.and_eq_true, decide_eq_true_eq] at chosen
  exact absurd (chosen.1.symm.trans sameConn) different

theorem closeSocket {other : ConnRef} (different : other ≠ conn) :
    Away conn state (state.closeSocket other) := by
  unfold State.closeSocket
  refine Away.trans (cancel fun op chosen sameConn => ?_) (elsewhere different)
  simp only [Bool.and_eq_true, decide_eq_true_eq] at chosen
  exact absurd (chosen.1.symm.trans sameConn) different

theorem openSocket {other : ConnRef} (different : other ≠ conn) :
    Away conn state (state.openSocket other) :=
  elsewhere different

theorem borrow {task : TaskRef} : Away conn state (state.borrow task) :=
  note (fun _ => rfl) (fun _ => rfl) (fun _ => rfl) (fun _ => rfl) fun _ => rfl

theorem setFailed {task : TaskRef} {reason : String} {code : ErrorCode} :
    Away conn state (state.setFailed task reason code) :=
  borrow.trans (note (fun _ => rfl) (fun _ => rfl) (fun _ => rfl) (fun _ => rfl) fun _ => rfl)

theorem setupTaskTimer {task : TaskRef} : Away conn state (state.setupTaskTimer task) := by
  unfold State.setupTaskTimer
  simp only
  split
  · exact (borrow.trans cancelTimer).trans (start (.inr rfl) (.inl nofun))
  · exact borrow

end Away

end CarrotRpc.Client
