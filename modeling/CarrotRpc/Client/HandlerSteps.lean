import Mathlib.Logic.Relation
import CarrotRpc.Client.LedgerOnce

/-! The handlers of a channel as sequences of small steps. A step changes the
state together with the duties of the running code, and its premises say what the
code knows at that point; an invariant of a channel is shown one step at a time. -/

set_option autoImplicit false

namespace CarrotRpc.Client

open Library Common Protob

variable {Msg : Type}

/-- No run of the closure, or of a closure it hands to `CallMethod`, throws. -/
def Closure.NeverThrows : Closure Msg → Prop
  | .returns => True
  | .throws _ => False
  | .callMethod _ done next => done.NeverThrows ∧ next.NeverThrows

instance Closure.decidableNeverThrows : (done : Closure Msg) → Decidable done.NeverThrows
  | .returns => .isTrue trivial
  | .throws _ => .isFalse id
  | .callMethod _ done next =>
      have := decidableNeverThrows done
      have := decidableNeverThrows next
      inferInstanceAs (Decidable (done.NeverThrows ∧ next.NeverThrows))

theorem Closure.thrown_of_neverThrows {done : Closure Msg} (tame : done.NeverThrows) :
    done.thrown = none := by
  induction done with
  | returns => rfl
  | throws what => exact tame.elim
  | callMethod call done next _ ih => exact ih tame.2

/-- The task without the fields that take no part in the invariants. -/
def CallTask.core (record : CallTask Msg) : CallTask Msg :=
  { record with controller := { timeout := timeoutNever }, response := none, buf := {}, state := .connectToServer }

/-- The connection without the fields that take no part in the invariants. -/
def RpcClientConnection.core (connection : RpcClientConnection) : RpcClientConnection :=
  { connection with
    buf := {}, header := ⟨0, 0, 0⟩, n := 0, connecting := false, overlapped := false }

namespace State

/-- The end of `start_call`, with the timer set up before the insertion. -/
def sendPacket (task : TaskRef) (packet : List UInt8) (state : State Msg) : State Msg :=
  let record := state.tasks task
  let state := state.modifyConn record.conn fun connection =>
    { connection with outgoingTasks := connection.outgoingTasks.insert record.id task }
  let state := state.modifyTask task fun record =>
    { record with state := .writeToServer, writes := record.writes + 1, packet := packet }
  state.startOnSocket record.conn (.write task packet 0)

def beginDone (task : TaskRef) (state : State Msg) : State Msg :=
  state.modifyTask task fun record => { record with runs := record.runs + 1 }

def endDone (task : TaskRef) (state : State Msg) : State Msg :=
  state.modifyTask task fun record => { record with called := true }

def eraseOutgoing (task : TaskRef) (state : State Msg) : State Msg :=
  let record := state.tasks task
  state.modifyConn record.conn fun connection =>
    { connection with outgoingTasks := connection.outgoingTasks.erase record.id }

def clearOutgoing (conn : ConnRef) (state : State Msg) : State Msg :=
  state.modifyConn conn fun connection =>
    { connection with
      outgoingTasks := .empty
      destroyedAt := some (connection.destroyedAt.getD state.nextTask) }

def getStuck (state : State Msg) : State Msg :=
  { state with stuck := true }

/-- The task is in the table of its connection. -/
def Listed (state : State Msg) (task : TaskRef) : Prop :=
  ((state.tasks task).id, task) ∈
    (state.connections (state.tasks task).conn).outgoingTasks.entries

end State

/-- Steps of `CallMethod` and of the code it reaches, closures included. With
`careful` no closure throws and the pointers of a task are used only before its
closure ran. -/
inductive CallStep (careful : Prop) : Duty × State Msg → Duty × State Msg → Prop where
  | borrow {duty : Duty} {state : State Msg} {task : TaskRef}
      (fresh : careful → (state.tasks task).runs = 0) :
      CallStep careful (duty, state) (duty, state.borrow task)
  | note {duty : Duty} {state : State Msg} {task : TaskRef}
      {change : CallTask Msg → CallTask Msg}
      (keeps : (change (state.tasks task)).core = (state.tasks task).core) :
      CallStep careful (duty, state) (duty, state.modifyTask task change)
  | noteConn {duty : Duty} {state : State Msg} {conn : ConnRef}
      {change : RpcClientConnection → RpcClientConnection}
      (keeps : (change (state.connections conn)).core = (state.connections conn).core) :
      CallStep careful (duty, state) (duty, state.modifyConn conn change)
  | cancelTimer {duty : Duty} {state : State Msg} {task : TaskRef} :
      CallStep careful (duty, state) (duty, state.cancelTimer task)
  | startTimer {duty : Duty} {state : State Msg} {task : TaskRef}
      (bound : task < state.nextTask) :
      CallStep careful (duty, state)
        (duty, state.start ⟨(state.tasks task).conn, .timer task, .pending⟩)
  | openConnection {duty : Duty} {state : State Msg} {host service : String}
      (fresh : state.conns.find? (host ++ ":" ++ service) = none) :
      CallStep careful (duty, state) (duty, state.openConnection host service)
  | newTask {hand : List TaskRef} {serving : List ConnRef} {running : List TaskRef}
      {doomed : List ConnRef} {state : State Msg} {conn : ConnRef} {call : Call Msg}
      {done : Closure Msg} (known : conn < state.nextConn) (tame : careful → done.NeverThrows) :
      CallStep careful (⟨hand, serving, running, doomed⟩, state)
        (⟨state.nextTask :: hand, serving, running, doomed⟩, state.newTask conn call done)
  | startResolve {hand : List TaskRef} {serving : List ConnRef} {running : List TaskRef}
      {doomed : List ConnRef} {state : State Msg} {task : TaskRef}
      (bound : task < state.nextTask) (unsent : state.ledger.Unsent task) :
      CallStep careful (⟨task :: hand, serving, running, doomed⟩, state)
        (⟨hand, serving, running, doomed⟩,
          state.start ⟨(state.tasks task).conn, .resolve task, .pending⟩)
  | send {hand : List TaskRef} {serving : List ConnRef} {running : List TaskRef}
      {doomed : List ConnRef} {state : State Msg} {task : TaskRef} {packet : List UInt8}
      (bound : task < state.nextTask) (unsent : state.ledger.Unsent task)
      (fresh : careful → (state.tasks task).runs = 0)
      (active : (state.tasks task).conn ∈ serving ∧ (state.tasks task).conn ∉ doomed ∨
        (state.connections (state.tasks task).conn).socket.isOpen = true)
      (sized : sizeofPacket ≤ packet.length) :
      CallStep careful (⟨task :: hand, serving, running, doomed⟩, state)
        (⟨hand, serving, running, doomed⟩, state.sendPacket task packet)
  | beginDone {hand : List TaskRef} {serving : List ConnRef} {running : List TaskRef}
      {doomed : List ConnRef} {state : State Msg} {task : TaskRef}
      (bound : task < state.nextTask) (fresh : (state.tasks task).runs = 0)
      (unlisted : state.Listed task → (state.tasks task).conn ∈ doomed) :
      CallStep careful (⟨task :: hand, serving, running, doomed⟩, state)
        (⟨hand, serving, task :: running, doomed⟩, state.beginDone task)
  | endDone {hand : List TaskRef} {serving : List ConnRef} {running : List TaskRef}
      {doomed : List ConnRef} {state : State Msg} {task : TaskRef} :
      CallStep careful (⟨hand, serving, task :: running, doomed⟩, state)
        (⟨hand, serving, running, doomed⟩, state.endDone task)
  | drop {hand : List TaskRef} {serving : List ConnRef} {running : List TaskRef}
      {doomed : List ConnRef} {state : State Msg} {task : TaskRef}
      (ran : (state.tasks task).runs = 1) :
      CallStep careful (⟨task :: hand, serving, running, doomed⟩, state)
        (⟨hand, serving, running, doomed⟩, state)
  | hang {hand : List TaskRef} {serving : List ConnRef} {running : List TaskRef}
      {doomed : List ConnRef} {state : State Msg} {task : TaskRef} :
      CallStep careful (⟨task :: hand, serving, running, doomed⟩, state)
        (⟨hand, serving, running, doomed⟩, state.getStuck)

/-- Steps of the handlers. -/
inductive HandlerStep (careful : Prop) : Duty × State Msg → Duty × State Msg → Prop where
  | call {before after : Duty × State Msg} (step : CallStep careful before after) :
      HandlerStep careful before after
  | cancelResolver {duty : Duty} {state : State Msg} {conn : ConnRef} :
      HandlerStep careful (duty, state) (duty, state.cancelResolver conn)
  | close {duty : Duty} {state : State Msg} {conn : ConnRef} :
      HandlerStep careful (duty, state) (duty, state.closeSocket conn)
  | connect {hand : List TaskRef} {serving : List ConnRef} {running : List TaskRef}
      {doomed : List ConnRef} {state : State Msg} {task : TaskRef}
      (bound : task < state.nextTask) (unsent : state.ledger.Unsent task) :
      HandlerStep careful (⟨task :: hand, serving, running, doomed⟩, state)
        (⟨hand, serving, running, doomed⟩,
          state.asyncConnect (state.tasks task).conn task)
  | read {hand : List TaskRef} {serving : List ConnRef} {running : List TaskRef}
      {doomed : List ConnRef} {state : State Msg} {conn : ConnRef} {kind : OpKind}
      (reads : kind.role = .read) (known : conn < state.nextConn) :
      HandlerStep careful (⟨hand, conn :: serving, running, doomed⟩, state)
        (⟨hand, serving, running, doomed⟩, state.startOnSocket conn kind)
  | erase {hand : List TaskRef} {serving : List ConnRef} {running : List TaskRef}
      {doomed : List ConnRef} {state : State Msg} {task : TaskRef}
      (bound : task < state.nextTask) :
      HandlerStep careful (⟨hand, serving, running, doomed⟩, state)
        (⟨task :: hand, serving, running, doomed⟩, state.eraseOutgoing task)
  | clear {hand : List TaskRef} {serving : List ConnRef} {running : List TaskRef}
      {doomed : List ConnRef} {state : State Msg} {conn : ConnRef}
      (ran : ∀ entry ∈ (state.connections conn).outgoingTasks.entries,
        (state.tasks entry.2).runs = 1) :
      HandlerStep careful (⟨hand, serving, running, conn :: doomed⟩, state)
        (⟨hand, serving, running, doomed⟩, state.clearOutgoing conn)
  | assume {hand : List TaskRef} {serving : List ConnRef} {running : List TaskRef}
      {doomed : List ConnRef} {state : State Msg} (tasks : List TaskRef)
      (conns condemned : List ConnRef) :
      HandlerStep careful (⟨hand, serving, running, doomed⟩, state)
        (⟨tasks ++ hand, conns ++ serving, running, condemned ++ doomed⟩, state)
  | release {hand : List TaskRef} {serving : List ConnRef} {running : List TaskRef}
      {doomed : List ConnRef} {state : State Msg} {conn : ConnRef}
      (closed : (state.connections conn).socket.isOpen = false)
      (empty : (state.connections conn).outgoingTasks = .empty) :
      HandlerStep careful (⟨hand, conn :: serving, running, doomed⟩, state)
        (⟨hand, serving, running, doomed⟩, state)
  | hang {hand : List TaskRef} {serving : List ConnRef} {running : List TaskRef}
      {doomed : List ConnRef} {state : State Msg} {conn : ConnRef} :
      HandlerStep careful (⟨hand, conn :: serving, running, doomed⟩, state)
        (⟨hand, serving, running, doomed⟩, state.getStuck)

/-- What the code may rely on at every point. -/
structure Base (careful : Prop) (config : Duty × State Msg) : Prop where
  sound : config.2.ledger.Sound config.1
  once : config.2.ledger.Once
  tame : careful → ∀ task < config.2.nextTask, (config.2.tasks task).done.NeverThrows

namespace State

theorem entry_of_core {record other : CallTask Msg} (same : record.core = other.core) :
    record.entry = other.entry :=
  calc
    record.entry = record.core.entry := rfl
    _ = other.core.entry := congrArg CallTask.entry same
    _ = other.entry := rfl

theorem done_of_core {record other : CallTask Msg} (same : record.core = other.core) :
    record.done = other.done :=
  calc
    record.done = record.core.done := rfl
    _ = other.core.done := congrArg CallTask.done same
    _ = other.done := rfl

theorem connEntry_of_core {connection other : RpcClientConnection}
    (same : connection.core = other.core) : connection.entry = other.entry :=
  calc
    connection.entry = connection.core.entry := rfl
    _ = other.core.entry := congrArg RpcClientConnection.entry same
    _ = other.entry := rfl

theorem tasks_newTask_self (state : State Msg) (conn : ConnRef) (call : Call Msg)
    (done : Closure Msg) :
    (state.newTask conn call done).tasks state.nextTask =
      { conn, id := (state.connections conn).id + 1, call, controller := call.controller,
        done } :=
  Function.update_self _ _ _

theorem tasks_newTask_of_ne {state : State Msg} {conn : ConnRef} {call : Call Msg}
    {done : Closure Msg} {task : TaskRef} (old : task ≠ state.nextTask) :
    (state.newTask conn call done).tasks task = state.tasks task :=
  Function.update_of_ne old _ _

theorem tasks_sendPacket (state : State Msg) (task other : TaskRef) (packet : List UInt8) :
    (state.sendPacket task packet).tasks other =
      if other = task then
        { state.tasks task with
          state := .writeToServer
          writes := (state.tasks task).writes + 1
          packet := packet }
      else state.tasks other :=
  Function.update_apply _ _ _ _

theorem ledger_openConnection (state : State Msg) (host service : String) :
    (state.openConnection host service).ledger =
      state.ledger.openConnection (host ++ ":" ++ service) := by
  simp only [ledger, openConnection, Ledger.openConnection, Ledger.mk.injEq, true_and, and_true]
  funext conn
  by_cases new : conn = state.nextConn
  · subst new
    simp [RpcClientConnection.entry]
  · simp [new]

theorem ledger_newTask (state : State Msg) (conn : ConnRef) (call : Call Msg)
    (done : Closure Msg) : (state.newTask conn call done).ledger = state.ledger.addTask conn := by
  have tasks : (fun task => ((state.newTask conn call done).tasks task).entry) =
      (state.ledger.addTask conn).tasks := by
    funext task
    by_cases new : task = state.nextTask
    · subst new
      rw [tasks_newTask_self]
      exact (Ledger.tasks_addTask_new state.ledger conn).symm
    · rw [tasks_newTask_of_ne new]
      have old : (state.ledger.addTask conn).tasks task = state.ledger.tasks task :=
        Function.update_of_ne new _ _
      exact old.symm
  have connections := congrArg Ledger.connections (ledger_modifyConn state conn
    fun connection => { connection with id := (state.connections conn).id + 1 })
  simp only [ledger, Ledger.addTask, Ledger.mk.injEq] at tasks connections ⊢
  exact ⟨rfl, connections, rfl, tasks, rfl, rfl, rfl⟩

theorem ledger_sendPacket (state : State Msg) (task : TaskRef) (packet : List UInt8) :
    (state.sendPacket task packet).ledger = state.ledger.send task := by
  rw [sendPacket, ledger_startOnSocket, ledger_modifyTask, ledger_modifyConn]
  rfl

theorem ledger_beginDone (state : State Msg) (task : TaskRef) :
    (state.beginDone task).ledger = state.ledger.beginDone task := by
  rw [beginDone, ledger_modifyTask]
  rfl

theorem ledger_endDone (state : State Msg) (task : TaskRef) :
    (state.endDone task).ledger = state.ledger.endDone task := by
  rw [endDone, ledger_modifyTask]
  rfl

theorem ledger_eraseOutgoing (state : State Msg) (task : TaskRef) :
    (state.eraseOutgoing task).ledger = state.ledger.eraseOutgoing task := by
  rw [eraseOutgoing, ledger_modifyConn]
  rfl

theorem ledger_clearOutgoing (state : State Msg) (conn : ConnRef) :
    (state.clearOutgoing conn).ledger = state.ledger.setOutgoing conn .empty := by
  rw [clearOutgoing, ledger_modifyConn]
  rfl

theorem ledger_asyncConnect (state : State Msg) (task : TaskRef) (conn : ConnRef) :
    (state.asyncConnect conn task).ledger =
      ((state.ledger.setOpen conn false).setOpen conn true).start conn (.connect task) := by
  rw [asyncConnect, ledger_start, ledger_openSocket, ledger_closeSocket]
  rfl

end State

namespace Base

variable {careful : Prop} {before after : Duty × State Msg}

/-- A step that changes neither a closure nor the number of tasks. -/
theorem tame_modifyTask {state : State Msg} {task : TaskRef}
    {change : CallTask Msg → CallTask Msg}
    (tame : ∀ other < state.nextTask, (state.tasks other).done.NeverThrows)
    (keeps : (change (state.tasks task)).done = (state.tasks task).done) :
    ∀ other < (state.modifyTask task change).nextTask,
      ((state.modifyTask task change).tasks other).done.NeverThrows := by
  intro other bound
  by_cases same : other = task
  · subst same
    simp only [State.modifyTask, Function.update_self, keeps]
    exact tame other bound
  · simp only [State.modifyTask, Function.update_of_ne same]
    exact tame other bound

theorem callStep (base : Base careful before) (step : CallStep careful before after) :
    Base careful after := by
  obtain ⟨sound, once, tame⟩ := base
  cases step with
  | borrow fresh =>
      refine ⟨?_, ?_, fun calm => tame_modifyTask (tame calm) rfl⟩
      · rw [State.ledger_borrow]
        exact sound
      · rw [State.ledger_borrow]
        exact once
  | note keeps =>
      have same := State.ledger_modifyTask_same (State.entry_of_core keeps)
      refine ⟨?_, ?_, fun calm => tame_modifyTask (tame calm) (State.done_of_core keeps)⟩
      · rw [same]
        exact sound
      · rw [same]
        exact once
  | noteConn keeps =>
      have same := State.ledger_modifyConn_same (State.connEntry_of_core keeps)
      refine ⟨?_, ?_, tame⟩
      · rw [same]
        exact sound
      · rw [same]
        exact once
  | cancelTimer =>
      refine ⟨?_, ?_, tame⟩
      · rw [State.cancelTimer, State.ledger_cancel]
        exact sound
      · rw [State.cancelTimer, State.ledger_cancel]
        exact once
  | startTimer bound =>
      refine ⟨?_, ?_, tame⟩
      · rw [State.ledger_start]
        refine sound.start (sound.conn_lt _ bound) ?_ (fun _ => .inl) (fun _ => .inl)
        intro other binds
        cases binds
        exact ⟨bound, rfl⟩
      · rw [State.ledger_start]
        exact once.start fun _ attempted => nomatch attempted
  | openConnection fresh =>
      refine ⟨?_, ?_, tame⟩
      · rw [State.ledger_openConnection]
        exact sound.openConnection
      · rw [State.ledger_openConnection]
        exact once.openConnection
  | @newTask hand serving running doomed state conn call done known tameDone =>
      refine ⟨?_, ?_, fun calm task bound => ?_⟩
      · rw [State.ledger_newTask]
        exact sound.addTask known
      · rw [State.ledger_newTask]
        exact once.addTask sound
      · by_cases new : task = state.nextTask
        · subst new
          rw [State.tasks_newTask_self]
          exact tameDone calm
        · rw [State.tasks_newTask_of_ne new]
          exact tame calm task (Nat.lt_of_le_of_ne (Nat.lt_succ_iff.mp bound) new)
  | startResolve bound unsent =>
      refine ⟨?_, ?_, tame⟩
      · rw [State.ledger_start]
        refine sound.start (sound.conn_lt _ bound) ?_ ?_ (fun _ => .inl)
        · intro other binds
          cases binds
          exact ⟨bound, rfl⟩
        · intro other member
          rcases List.mem_cons.mp member with rfl | member
          · exact .inr (decide_eq_true rfl)
          · exact .inl member
      · rw [State.ledger_start]
        refine once.start fun other attempted => ?_
        cases of_decide_eq_true attempted
        exact unsent
  | send bound unsent fresh active sized =>
      refine ⟨?_, ?_, fun calm other otherBound => ?_⟩
      · rw [State.ledger_sendPacket]
        have sent := (sound.insertOutgoing bound (active.imp_left (·.1))).recordWrite bound
        refine sent.start (sound.conn_lt _ bound) ?_ (fun _ => .inl) (fun _ => .inl)
        intro other binds
        cases binds
        exact ⟨bound, by rw [Ledger.recordWrite, Ledger.tasks_modifyTask, if_pos rfl]; rfl⟩
      · rw [State.ledger_sendPacket]
        exact once.send unsent
      · rw [State.tasks_sendPacket]
        split
        · exact tame calm _ bound
        · exact tame calm other otherBound
  | beginDone bound fresh unlisted =>
      refine ⟨?_, ?_, fun calm => tame_modifyTask (tame calm) rfl⟩
      · rw [State.ledger_beginDone]
        exact sound.beginDone bound fresh
      · rw [State.ledger_beginDone]
        exact once.modifyTask rfl
  | endDone =>
      refine ⟨?_, ?_, fun calm => tame_modifyTask (tame calm) rfl⟩
      · rw [State.ledger_endDone]
        exact sound.endDone
      · rw [State.ledger_endDone]
        exact once.modifyTask rfl
  | drop ran => exact ⟨sound.drop ran, once, tame⟩
  | hang => exact ⟨sound.getStuck, ⟨once.once, once.entry_sent⟩, tame⟩

theorem handlerStep (base : Base careful before) (step : HandlerStep careful before after) :
    Base careful after := by
  cases step with
  | call step => exact base.callStep step
  | cancelResolver =>
      obtain ⟨sound, once, tame⟩ := base
      refine ⟨?_, ?_, tame⟩
      · rw [State.cancelResolver, State.ledger_cancel]
        exact sound
      · rw [State.cancelResolver, State.ledger_cancel]
        exact once
  | close =>
      obtain ⟨sound, once, tame⟩ := base
      refine ⟨?_, ?_, tame⟩
      · rw [State.ledger_closeSocket]
        exact sound.close
      · rw [State.ledger_closeSocket]
        exact once.setOpen
  | connect bound unsent =>
      obtain ⟨sound, once, tame⟩ := base
      refine ⟨?_, ?_, tame⟩
      · rw [State.ledger_asyncConnect]
        exact sound.close.connect bound
      · rw [State.ledger_asyncConnect]
        refine once.setOpen.setOpen.start fun other attempted => ?_
        cases of_decide_eq_true attempted
        exact unsent
  | read reads known =>
      obtain ⟨sound, once, tame⟩ := base
      refine ⟨?_, ?_, tame⟩
      · rw [State.ledger_startOnSocket, reads]
        refine sound.start known (fun _ binds => nomatch binds) (fun _ => .inl) ?_
        intro other member
        rcases List.mem_cons.mp member with rfl | member
        · exact .inr ⟨rfl, rfl⟩
        · exact .inl member
      · rw [State.ledger_startOnSocket, reads]
        exact once.start fun _ attempted => nomatch attempted
  | erase bound =>
      obtain ⟨sound, once, tame⟩ := base
      refine ⟨?_, ?_, tame⟩
      · rw [State.ledger_eraseOutgoing]
        exact sound.eraseOutgoing bound
      · rw [State.ledger_eraseOutgoing]
        exact once.eraseOutgoing
  | clear ran =>
      obtain ⟨sound, once, tame⟩ := base
      refine ⟨?_, ?_, tame⟩
      · rw [State.ledger_clearOutgoing]
        exact sound.clearOutgoing ran
      · rw [State.ledger_clearOutgoing]
        exact once.modifyConn nofun
  | assume tasks conns condemned =>
      obtain ⟨sound, once, tame⟩ := base
      exact ⟨sound.weaken (List.subset_append_right _ _) (List.subset_append_right _ _),
        once, tame⟩
  | release closed empty =>
      obtain ⟨sound, once, tame⟩ := base
      refine ⟨sound.release ?_, once, tame⟩
      rintro (isOpen | nonempty)
      · cases closed.symm.trans isOpen
      · exact nonempty (congrArg OrderedMap.entries empty)
  | hang =>
      obtain ⟨sound, once, tame⟩ := base
      exact ⟨sound.getStuck, ⟨once.once, once.entry_sent⟩, tame⟩

end Base

end CarrotRpc.Client
