import CarrotRpc.Client.RunInvariants
import CarrotRpc.Protob.WireFormat

/-! The pointers a caller lends to a call are used only until its closure runs,
unless a closure throws or a connection is made for a call that was completed. -/

set_option autoImplicit false

namespace CarrotRpc.Client

open Library Common Protob

variable {Msg : Type}

/-- No pointer of a task was used after its closure ran. -/
def NoneStale (state : State Msg) : Prop :=
  ∀ task < state.nextTask, (state.tasks task).stale = false

/-- Tasks in tables wait for their closures, except where the table is going to be
cleared. -/
def Ledger.Waiting (doomed : List ConnRef) (ledger : Ledger) : Prop :=
  ∀ conn, ∀ entry ∈ (ledger.connections conn).outgoingTasks.entries,
    (ledger.tasks entry.2).runs = 0 ∨ conn ∈ doomed

structure Untouched (config : Duty × State Msg) : Prop where
  noneStale : NoneStale config.2
  waiting : config.2.ledger.Waiting config.1.doomed

section Stale

variable {state : State Msg} {task : TaskRef} {before after : Duty × State Msg}

theorem NoneStale.modifyTask {change : CallTask Msg → CallTask Msg}
    (none : NoneStale state)
    (keeps : (state.tasks task).stale = false → (change (state.tasks task)).stale = false) :
    NoneStale (state.modifyTask task change) := by
  intro other bound
  rw [State.tasks_modifyTask]
  split
  · next same => exact keeps (same ▸ none other bound)
  · exact none other bound

theorem NoneStale.callStep (none : NoneStale before.2) (step : CallStep True before after) :
    NoneStale after.2 := by
  cases step with
  | noteConn | cancelTimer | startTimer | openConnection | startResolve | drop | hang =>
      exact none
  | beginDone | endDone => exact none.modifyTask fun same => same
  | borrow fresh =>
      refine none.modifyTask fun same => ?_
      simpa [fresh trivial] using same
  | note keeps =>
      refine none.modifyTask fun same => ?_
      calc
        _ = (CallTask.core _).stale := rfl
        _ = (CallTask.core _).stale := congrArg CallTask.stale keeps
        _ = false := same
  | @newTask hand serving running doomed state conn call done known tame =>
      intro task bound
      by_cases new : task = state.nextTask
      · subst new
        rw [State.tasks_newTask_self]
      · rw [State.tasks_newTask_of_ne new]
        exact none task (Nat.lt_of_le_of_ne (Nat.lt_succ_iff.mp bound) new)
  | @send hand serving running doomed state task packet bound unsent fresh active sized =>
      intro other otherBound
      rw [State.tasks_sendPacket]
      split
      · exact none task bound
      · exact none other otherBound

theorem NoneStale.handlerStep (none : NoneStale before.2)
    (step : HandlerStep True before after) : NoneStale after.2 := by
  cases step with
  | call step => exact none.callStep step
  | cancelResolver | close | connect | read | erase | clear | assume | release | hang =>
      exact none

end Stale

namespace Ledger.Waiting

variable {ledger : Ledger} {doomed : List ConnRef} {duty : Duty}

theorem modifyTask {task : TaskRef} {change : TaskEntry → TaskEntry}
    (waiting : ledger.Waiting doomed) (sound : ledger.Sound duty)
    (keeps : (ledger.tasks task).runs = 0 →
      ((ledger.tasks task).id, task) ∈
        (ledger.connections (ledger.tasks task).conn).outgoingTasks.entries →
      (change (ledger.tasks task)).runs = 0 ∨ (ledger.tasks task).conn ∈ doomed) :
    (ledger.modifyTask task change).Waiting doomed := by
  intro conn entry member
  obtain ⟨_, sameConn, sameId⟩ := sound.entry conn entry member
  rw [tasks_modifyTask]
  split
  · next same =>
      rcases waiting conn entry member with fresh | certain
      · rw [← sameConn, same]
        refine keeps (same ▸ fresh) ?_
        have listed : (entry.1, entry.2) ∈ (ledger.connections conn).outgoingTasks.entries :=
          member
        rw [← sameConn, ← sameId, same] at listed
        exact listed
      · exact .inr certain
  · exact waiting conn entry member

theorem modifyConn {conn : ConnRef} {change : ConnEntry → ConnEntry}
    (waiting : ledger.Waiting doomed)
    (entries : ∀ entry ∈ (change (ledger.connections conn)).outgoingTasks.entries,
      entry ∈ (ledger.connections conn).outgoingTasks.entries ∨
        (ledger.tasks entry.2).runs = 0) :
    (ledger.modifyConn conn change).Waiting doomed := by
  intro other entry member
  rw [connections_modifyConn] at member
  split at member
  · next same =>
      rcases entries entry member with old | fresh
      · exact same ▸ waiting conn entry old
      · exact .inl fresh
  · exact waiting other entry member

theorem setOpen {conn : ConnRef} {isOpen : Bool} (waiting : ledger.Waiting doomed) :
    (ledger.setOpen conn isOpen).Waiting doomed :=
  waiting.modifyConn fun _ => .inl

theorem addTask {conn : ConnRef} (waiting : ledger.Waiting doomed) (sound : ledger.Sound duty) :
    (ledger.addTask conn).Waiting doomed := by
  intro other entry member
  have listed : entry ∈ (ledger.connections other).outgoingTasks.entries := by
    rw [connections_addTask] at member
    split at member
    · next same => exact same ▸ member
    · exact member
  rw [tasks_addTask_of_lt (sound.entry other entry listed).1]
  exact waiting other entry listed

theorem openConnection {key : String} (waiting : ledger.Waiting doomed) :
    (ledger.openConnection key).Waiting doomed := by
  intro conn entry member
  by_cases new : conn = ledger.nextConn
  · simp [Ledger.openConnection, new] at member
  · simp only [Ledger.openConnection, Function.update_of_ne new] at member
    exact waiting conn entry member

theorem clear {conn : ConnRef} (waiting : ledger.Waiting (conn :: doomed)) :
    (ledger.setOutgoing conn .empty).Waiting doomed := by
  intro other entry member
  rw [setOutgoing, connections_modifyConn] at member
  split at member
  · cases member
  · next different =>
      refine (waiting other entry member).imp_right fun certain => ?_
      exact (List.mem_cons.mp certain).resolve_left different

theorem send {task : TaskRef} (waiting : ledger.Waiting doomed)
    (fresh : (ledger.tasks task).runs = 0) : (ledger.send task).Waiting doomed := by
  have inserted : (ledger.insertOutgoing task).Waiting doomed := by
    unfold Ledger.insertOutgoing Ledger.setOutgoing
    refine waiting.modifyConn fun entry member => ?_
    rcases OrderedMap.mem_of_mem_insert member with rfl | old
    · exact .inr fresh
    · exact .inl old
  intro conn entry member
  have same : (((ledger.insertOutgoing task).recordWrite task).tasks entry.2).runs =
      (ledger.tasks entry.2).runs := by
    rw [recordWrite, tasks_modifyTask]
    split
    · next same => rw [same]; rfl
    · rfl
  rw [Ledger.send]
  change (((ledger.insertOutgoing task).recordWrite task).tasks entry.2).runs = 0 ∨ _
  rw [same]
  exact inserted conn entry member

end Ledger.Waiting

namespace Untouched

variable {before after : Duty × State Msg}

theorem callStep (base : Base True before) (untouched : Untouched before)
    (step : CallStep True before after) : Untouched after := by
  have noneStale := untouched.noneStale.callStep step
  obtain ⟨_, waiting⟩ := untouched
  refine ⟨noneStale, ?_⟩
  cases step with
  | borrow fresh =>
      rw [State.ledger_borrow]
      exact waiting
  | note keeps =>
      rw [State.ledger_modifyTask_same (State.entry_of_core keeps)]
      exact waiting
  | noteConn keeps =>
      rw [State.ledger_modifyConn_same (State.connEntry_of_core keeps)]
      exact waiting
  | cancelTimer =>
      rw [State.cancelTimer, State.ledger_cancel]
      exact waiting
  | startTimer bound =>
      rw [State.ledger_start]
      exact waiting
  | openConnection fresh =>
      rw [State.ledger_openConnection]
      exact waiting.openConnection
  | newTask known tame =>
      rw [State.ledger_newTask]
      exact waiting.addTask base.sound
  | startResolve bound unsent =>
      rw [State.ledger_start]
      exact waiting
  | send bound unsent fresh active sized =>
      rw [State.ledger_sendPacket]
      exact waiting.send (fresh trivial)
  | beginDone bound fresh unlisted =>
      rw [State.ledger_beginDone]
      exact waiting.modifyTask base.sound fun _ listed => .inr (unlisted listed)
  | endDone =>
      rw [State.ledger_endDone]
      exact waiting.modifyTask base.sound fun fresh _ => .inl fresh
  | drop ran => exact waiting
  | hang => exact waiting

theorem handlerStep (base : Base True before) (untouched : Untouched before)
    (step : HandlerStep True before after) : Untouched after := by
  have noneStale := untouched.noneStale.handlerStep step
  cases step with
  | call step => exact untouched.callStep base step
  | cancelResolver =>
      refine ⟨noneStale, ?_⟩
      rw [State.cancelResolver, State.ledger_cancel]
      exact untouched.waiting
  | close =>
      refine ⟨noneStale, ?_⟩
      rw [State.ledger_closeSocket]
      exact untouched.waiting.setOpen
  | connect bound unsent =>
      refine ⟨noneStale, ?_⟩
      rw [State.ledger_asyncConnect]
      exact untouched.waiting.setOpen.setOpen
  | read reads known =>
      refine ⟨noneStale, ?_⟩
      rw [State.ledger_startOnSocket]
      exact untouched.waiting
  | erase bound =>
      refine ⟨noneStale, ?_⟩
      rw [State.ledger_eraseOutgoing]
      unfold Ledger.eraseOutgoing Ledger.setOutgoing
      exact untouched.waiting.modifyConn fun _ member => .inl (OrderedMap.mem_erase_iff.mp member).1
  | clear ran =>
      refine ⟨noneStale, ?_⟩
      rw [State.ledger_clearOutgoing]
      exact untouched.waiting.clear
  | assume tasks conns condemned =>
      refine ⟨noneStale, fun conn entry member => ?_⟩
      exact (untouched.waiting conn entry member).imp_right (List.mem_append_right _)
  | release closed empty => exact ⟨noneStale, untouched.waiting⟩
  | hang => exact ⟨noneStale, untouched.waiting⟩

end Untouched

/-- What neither a step nor a handler changes about tasks and tables. -/
theorem Untouched.same {state next : State Msg} {duty : Duty}
    (untouched : Untouched (.none, state)) (tasks : next.tasks = state.tasks)
    (count : next.nextTask = state.nextTask)
    (tables : ∀ conn, (next.connections conn).outgoingTasks =
      (state.connections conn).outgoingTasks) : Untouched (duty, next) := by
  refine ⟨?_, ?_⟩
  · intro task bound
    rw [tasks]
    exact untouched.noneStale task (count ▸ bound)
  · intro conn entry member
    have listed : entry ∈ (state.connections conn).outgoingTasks.entries := tables conn ▸ member
    rcases untouched.waiting conn entry listed with fresh | certain
    · have same : (next.tasks entry.2).runs = (state.tasks entry.2).runs := by rw [tasks]
      exact .inl (same.trans fresh)
    · cases certain

theorem outgoingTasks_modifyConn {state : State Msg} {conn other : ConnRef}
    {change : RpcClientConnection → RpcClientConnection}
    (keeps : (change (state.connections conn)).outgoingTasks =
      (state.connections conn).outgoingTasks) :
    ((state.modifyConn conn change).connections other).outgoingTasks =
      (state.connections other).outgoingTasks := by
  rw [State.connections_modifyConn]
  split
  · next same => exact same ▸ keeps
  · rfl

section Runs

variable [Protobuf] [Inhabited Msg]

theorem kept_untouched : Kept True (fun state : State Msg => Tidy state) Untouched where
  initial := ⟨fun task bound => absurd bound (Nat.not_lt_zero task), nofun⟩
  tidy := fun _ _ tidy _ => tidy
  waiting := fun _ untouched _ conn entry member =>
    (untouched.waiting conn entry member).resolve_right List.not_mem_nil
  step := fun _ _ base untouched step => untouched.handlerStep base step
  dequeue := fun _ _ _ untouched _ => untouched.same rfl rfl fun _ => rfl
  complete := by
    intro state op error next base untouched completed
    obtain ⟨_, _, change, changes, rfl⟩ := complete_eq_some completed
    refine untouched.same rfl rfl fun conn => outgoingTasks_modifyConn ?_
    rcases changes with rfl | ⟨_, _, rfl⟩ <;> rfl
  writeSome := by
    intro state op count next base untouched _ written
    obtain ⟨task, packet, sent, _, _, _, _, _, _, rfl⟩ := writeSome_eq_some written
    exact untouched.same rfl rfl fun conn => outgoingTasks_modifyConn rfl

theorem listed_uncalled {state : State Msg} (reached : (channel Msg).ReachableVia Tidy state)
    {conn : ConnRef} {entry : Nat × TaskRef}
    (member : entry ∈ (state.connections conn).outgoingTasks.entries) :
    (state.tasks entry.2).called = false := by
  obtain ⟨base, untouched, _⟩ := kept_untouched.reachable reached
  have fresh := (untouched.waiting conn entry member).resolve_right List.not_mem_nil
  exact base.sound.called_false (base.sound.entry conn entry member).1 fresh

end Runs

end CarrotRpc.Client
