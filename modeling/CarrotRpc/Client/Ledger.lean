import CarrotRpc.Client.ChannelRuns

/-! The part of a channel that decides who completes a call: for every task
whether its closure ran and whether its packet was sent, for every connection its
outgoing tasks and whether its socket is open, and the outstanding operations
without their results. -/

set_option autoImplicit false

namespace CarrotRpc.Client

open Library Common Protob

structure TaskEntry where
  conn : ConnRef
  id : Nat
  called : Bool
  runs : Nat
  writes : Nat
  deriving DecidableEq

structure ConnEntry where
  id : Nat
  outgoingTasks : OrderedMap Nat TaskRef
  isOpen : Bool

/-- What an outstanding operation is for. -/
inductive Role where
  | resolve (task : TaskRef)
  | connect (task : TaskRef)
  | read
  | follow (task : TaskRef)
  deriving DecidableEq

namespace Role

def task? : Role → Option TaskRef
  | .resolve task | .connect task | .follow task => some task
  | .read => none

/-- The operation is a step towards the first write of the task's packet. -/
def attempts (task : TaskRef) : Role → Bool
  | .resolve other | .connect other => other = task
  | .read | .follow _ => false

/-- While the operation is outstanding the connection will be read or destroyed. -/
def serves : Role → Bool
  | .connect _ | .read => true
  | .resolve _ | .follow _ => false

theorem task?_of_attempts {task : TaskRef} {role : Role} (attempts : role.attempts task = true) :
    role.task? = some task := by
  cases role with
  | resolve other | connect other => simpa [Role.attempts, task?] using attempts
  | read | follow other => cases attempts

end Role

def OpKind.role : OpKind → Role
  | .resolve task => .resolve task
  | .connect task => .connect task
  | .readHeader | .readPayload => .read
  | .write task _ _ | .timer task => .follow task

structure Ledger where
  conns : OrderedMap String ConnRef
  connections : ConnRef → ConnEntry
  nextConn : ConnRef
  tasks : TaskRef → TaskEntry
  nextTask : TaskRef
  ops : List (ConnRef × Role)
  stuck : Bool

namespace Ledger

def modifyTask (task : TaskRef) (change : TaskEntry → TaskEntry) (ledger : Ledger) : Ledger :=
  { ledger with tasks := Function.update ledger.tasks task (change (ledger.tasks task)) }

def modifyConn (conn : ConnRef) (change : ConnEntry → ConnEntry) (ledger : Ledger) : Ledger :=
  { ledger with
    connections := Function.update ledger.connections conn (change (ledger.connections conn)) }

def start (conn : ConnRef) (role : Role) (ledger : Ledger) : Ledger :=
  { ledger with ops := ledger.ops ++ [(conn, role)] }

def beginDone (task : TaskRef) (ledger : Ledger) : Ledger :=
  ledger.modifyTask task fun entry => { entry with runs := entry.runs + 1 }

def endDone (task : TaskRef) (ledger : Ledger) : Ledger :=
  ledger.modifyTask task fun entry => { entry with called := true }

def recordWrite (task : TaskRef) (ledger : Ledger) : Ledger :=
  ledger.modifyTask task fun entry => { entry with writes := entry.writes + 1 }

def addTask (conn : ConnRef) (ledger : Ledger) : Ledger :=
  let id := (ledger.connections conn).id + 1
  { ledger with
    connections := (ledger.modifyConn conn fun entry => { entry with id := id }).connections
    tasks := Function.update ledger.tasks ledger.nextTask
      { conn, id, called := false, runs := 0, writes := 0 }
    nextTask := ledger.nextTask + 1 }

def openConnection (key : String) (ledger : Ledger) : Ledger :=
  { ledger with
    connections := Function.update ledger.connections ledger.nextConn ⟨0, .empty, false⟩
    nextConn := ledger.nextConn + 1
    conns := ledger.conns.insert key ledger.nextConn }

def setOutgoing (conn : ConnRef) (outgoing : OrderedMap Nat TaskRef) (ledger : Ledger) :
    Ledger :=
  ledger.modifyConn conn fun entry => { entry with outgoingTasks := outgoing }

def insertOutgoing (task : TaskRef) (ledger : Ledger) : Ledger :=
  let entry := ledger.tasks task
  ledger.setOutgoing entry.conn
    ((ledger.connections entry.conn).outgoingTasks.insert entry.id task)

def eraseOutgoing (task : TaskRef) (ledger : Ledger) : Ledger :=
  let entry := ledger.tasks task
  ledger.setOutgoing entry.conn ((ledger.connections entry.conn).outgoingTasks.erase entry.id)

def setOpen (conn : ConnRef) (isOpen : Bool) (ledger : Ledger) : Ledger :=
  ledger.modifyConn conn fun entry => { entry with isOpen := isOpen }

def getStuck (ledger : Ledger) : Ledger :=
  { ledger with stuck := true }

@[simp] theorem tasks_modifyTask (ledger : Ledger) (task : TaskRef)
    (change : TaskEntry → TaskEntry) (other : TaskRef) :
    (ledger.modifyTask task change).tasks other =
      if other = task then change (ledger.tasks task) else ledger.tasks other := by
  simp [modifyTask, Function.update_apply]

@[simp] theorem connections_modifyConn (ledger : Ledger) (conn : ConnRef)
    (change : ConnEntry → ConnEntry) (other : ConnRef) :
    (ledger.modifyConn conn change).connections other =
      if other = conn then change (ledger.connections conn) else ledger.connections other := by
  simp [modifyConn, Function.update_apply]

theorem tasks_addTask_of_lt {ledger : Ledger} {conn : ConnRef} {task : TaskRef}
    (bound : task < ledger.nextTask) : (ledger.addTask conn).tasks task = ledger.tasks task :=
  Function.update_of_ne (Nat.ne_of_lt bound) _ _

theorem tasks_addTask_new (ledger : Ledger) (conn : ConnRef) :
    (ledger.addTask conn).tasks ledger.nextTask =
      ⟨conn, (ledger.connections conn).id + 1, false, 0, 0⟩ :=
  Function.update_self _ _ _

theorem connections_addTask (ledger : Ledger) (conn other : ConnRef) :
    (ledger.addTask conn).connections other =
      if other = conn then
        { ledger.connections conn with id := (ledger.connections conn).id + 1 }
      else ledger.connections other :=
  connections_modifyConn ledger conn
    (fun entry => { entry with id := (ledger.connections conn).id + 1 }) other

end Ledger

/-- Operations as the ledger keeps them. -/
def Op.bare (op : Op) : ConnRef × Role := (op.conn, op.kind.role)

def CallTask.entry {Msg : Type} (record : CallTask Msg) : TaskEntry :=
  ⟨record.conn, record.id, record.called, record.runs, record.writes⟩

def RpcClientConnection.entry (connection : RpcClientConnection) : ConnEntry :=
  ⟨connection.id, connection.outgoingTasks, connection.socket.isOpen⟩

namespace State

variable {Msg : Type}

def ledger (state : State Msg) : Ledger where
  conns := state.conns
  connections conn := (state.connections conn).entry
  nextConn := state.nextConn
  tasks task := (state.tasks task).entry
  nextTask := state.nextTask
  ops := state.ops.map Op.bare
  stuck := state.stuck

/-! How the primitives of the handlers act on the ledger. -/

theorem ledger_modifyTask (state : State Msg) (task : TaskRef)
    (change : CallTask Msg → CallTask Msg) :
    (state.modifyTask task change).ledger =
      state.ledger.modifyTask task fun _ => (change (state.tasks task)).entry := by
  simp only [ledger, modifyTask, Ledger.modifyTask, Ledger.mk.injEq, true_and, and_true]
  funext other
  by_cases same : other = task
  · subst same
    simp
  · simp [same]

theorem ledger_modifyConn (state : State Msg) (conn : ConnRef)
    (change : RpcClientConnection → RpcClientConnection) :
    (state.modifyConn conn change).ledger =
      state.ledger.modifyConn conn fun _ => (change (state.connections conn)).entry := by
  simp only [ledger, modifyConn, Ledger.modifyConn, Ledger.mk.injEq, true_and, and_true]
  funext other
  by_cases same : other = conn
  · subst same
    simp
  · simp [same]

/-- A change of a task that keeps its entry. -/
theorem ledger_modifyTask_same {task : TaskRef} {change : CallTask Msg → CallTask Msg}
    {state : State Msg}
    (keeps : (change (state.tasks task)).entry = (state.tasks task).entry) :
    (state.modifyTask task change).ledger = state.ledger := by
  rw [ledger_modifyTask, keeps]
  simp [Ledger.modifyTask, ledger]

/-- A change of a connection that keeps its entry. -/
theorem ledger_modifyConn_same {conn : ConnRef}
    {change : RpcClientConnection → RpcClientConnection} {state : State Msg}
    (keeps : (change (state.connections conn)).entry = (state.connections conn).entry) :
    (state.modifyConn conn change).ledger = state.ledger := by
  rw [ledger_modifyConn, keeps]
  simp [Ledger.modifyConn, ledger]

@[simp] theorem ledger_borrow (state : State Msg) (task : TaskRef) :
    (state.borrow task).ledger = state.ledger :=
  ledger_modifyTask_same rfl

@[simp] theorem ledger_start (state : State Msg) (op : Op) :
    (state.start op).ledger = state.ledger.start op.conn op.kind.role := by
  simp [ledger, start, Ledger.start, Op.bare]

@[simp] theorem ledger_startOnSocket (state : State Msg) (conn : ConnRef) (kind : OpKind) :
    (state.startOnSocket conn kind).ledger = state.ledger.start conn kind.role := by
  simp [startOnSocket]

theorem bare_abort (op : Op) : (abort op).bare = op.bare := by
  cases op with
  | mk conn kind status => cases status <;> rfl

@[simp] theorem ledger_cancel (state : State Msg) (selected : Op → Bool) :
    (state.cancel selected).ledger = state.ledger := by
  have same : ∀ op : Op, (if selected op then abort op else op).bare = op.bare := by
    intro op
    split
    · exact bare_abort op
    · rfl
  simp [ledger, cancel, Function.comp_def, same]

@[simp] theorem ledger_closeSocket (state : State Msg) (conn : ConnRef) :
    (state.closeSocket conn).ledger = state.ledger.setOpen conn false := by
  rw [closeSocket, ledger_modifyConn, ledger_cancel]
  rfl

@[simp] theorem ledger_openSocket (state : State Msg) (conn : ConnRef) :
    (state.openSocket conn).ledger = state.ledger.setOpen conn true := by
  rw [openSocket, ledger_modifyConn]
  rfl

end State

end CarrotRpc.Client
