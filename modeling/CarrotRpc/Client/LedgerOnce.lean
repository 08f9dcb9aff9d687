import CarrotRpc.Client.LedgerInvariants

/-! Every packet is sent by one operation: a call waits for one resolve or
connect operation at a time, and once its packet was sent for none. -/

set_option autoImplicit false

namespace CarrotRpc.Client

open Library

namespace Ledger

def attempts (ledger : Ledger) (task : TaskRef) : Nat :=
  ledger.ops.countP fun op => op.2.attempts task

def Unsent (ledger : Ledger) (task : TaskRef) : Prop :=
  ledger.attempts task = 0 ∧ (ledger.tasks task).writes = 0

structure Once (ledger : Ledger) : Prop where
  once : ∀ task < ledger.nextTask, ledger.attempts task + (ledger.tasks task).writes ≤ 1
  entry_sent : ∀ conn, ∀ entry ∈ (ledger.connections conn).outgoingTasks.entries,
    (ledger.tasks entry.2).writes = 1

/-- The packet is recorded in the table and its write is started. -/
def send (task : TaskRef) (ledger : Ledger) : Ledger :=
  ((ledger.insertOutgoing task).recordWrite task).start (ledger.tasks task).conn (.follow task)

namespace Once

variable {ledger : Ledger}

theorem modifyTask {task : TaskRef} {change : TaskEntry → TaskEntry} (once : ledger.Once)
    (writes : (change (ledger.tasks task)).writes = (ledger.tasks task).writes) :
    (ledger.modifyTask task change).Once := by
  have same : ∀ other, ((ledger.modifyTask task change).tasks other).writes =
      (ledger.tasks other).writes := by
    intro other
    rw [tasks_modifyTask]
    split
    · next equal => rw [writes, equal]
    · rfl
  constructor
  · intro other bound
    rw [same]
    exact once.once other bound
  · intro conn entry member
    rw [same]
    exact once.entry_sent conn entry member

theorem modifyConn {conn : ConnRef} {change : ConnEntry → ConnEntry} (once : ledger.Once)
    (entries : ∀ entry ∈ (change (ledger.connections conn)).outgoingTasks.entries,
      entry ∈ (ledger.connections conn).outgoingTasks.entries) :
    (ledger.modifyConn conn change).Once := by
  constructor
  · exact once.once
  · intro other entry member
    rw [connections_modifyConn] at member
    split at member
    · next same => exact once.entry_sent conn entry (entries entry member)
    · exact once.entry_sent other entry member

theorem setOpen {conn : ConnRef} {isOpen : Bool} (once : ledger.Once) :
    (ledger.setOpen conn isOpen).Once :=
  once.modifyConn fun _ member => member

theorem eraseOutgoing {task : TaskRef} (once : ledger.Once) :
    (ledger.eraseOutgoing task).Once := by
  unfold Ledger.eraseOutgoing setOutgoing
  exact once.modifyConn fun _ member => (OrderedMap.mem_erase_iff.mp member).1

theorem start {conn : ConnRef} {role : Role} (once : ledger.Once)
    (unsent : ∀ task, role.attempts task = true → ledger.Unsent task) :
    (ledger.start conn role).Once := by
  constructor
  · intro task bound
    have count : (ledger.start conn role).attempts task =
        ledger.attempts task + if role.attempts task = true then 1 else 0 := by
      simp [attempts, Ledger.start, List.countP_cons]
    rw [count]
    split
    · next attempted =>
        obtain ⟨none, unwritten⟩ := unsent task attempted
        change _ + (ledger.tasks task).writes ≤ 1
        rw [none, unwritten]
    · exact once.once task bound
  · exact once.entry_sent

theorem unsent_not_listed {task : TaskRef} {conn : ConnRef} {entry : Nat × TaskRef}
    (once : ledger.Once) (unsent : ledger.Unsent task)
    (member : entry ∈ (ledger.connections conn).outgoingTasks.entries) : entry.2 ≠ task := by
  intro same
  have sent := once.entry_sent conn entry member
  rw [same, unsent.2] at sent
  cases sent

theorem send {task : TaskRef} (once : ledger.Once) (unsent : ledger.Unsent task) :
    (ledger.send task).Once := by
  have follows : ∀ other, (Role.follow task).attempts other = true →
      ((ledger.insertOutgoing task).recordWrite task).Unsent other :=
    fun _ attempted => nomatch attempted
  refine start ?_ follows
  have writes : ∀ other, (((ledger.insertOutgoing task).recordWrite task).tasks other).writes =
      if other = task then 1 else (ledger.tasks other).writes := by
    intro other
    rw [recordWrite, tasks_modifyTask]
    split
    · exact congrArg (· + 1) unsent.2
    · rfl
  constructor
  · intro other bound
    rw [writes]
    split
    · next same =>
        change ledger.attempts other + 1 ≤ 1
        rw [same, unsent.1]
    · exact once.once other bound
  · intro conn entry member
    rw [writes]
    split
    · rfl
    · next different =>
        have listed : entry ∈ ((ledger.setOutgoing (ledger.tasks task).conn
            ((ledger.connections (ledger.tasks task).conn).outgoingTasks.insert
              (ledger.tasks task).id task)).connections conn).outgoingTasks.entries := member
        rw [setOutgoing, connections_modifyConn] at listed
        split at listed
        · rcases OrderedMap.mem_of_mem_insert listed with rfl | listed
          · exact absurd rfl different
          · exact once.entry_sent _ entry listed
        · exact once.entry_sent conn entry listed

theorem reorder {ops : List (ConnRef × Role)} (once : ledger.Once)
    (perm : ops.Perm ledger.ops) : ({ ledger with ops := ops } : Ledger).Once where
  once := by
    intro task bound
    change ops.countP _ + _ ≤ 1
    rw [perm.countP_eq]
    exact once.once task bound
  entry_sent := once.entry_sent

theorem takeOver {op : ConnRef × Role} {ops : List (ConnRef × Role)}
    (once : ({ ledger with ops := op :: ops } : Ledger).Once) :
    ({ ledger with ops := ops } : Ledger).Once where
  once := by
    intro task bound
    have before := once.once task bound
    simp only [attempts, List.countP_cons] at before ⊢
    omega
  entry_sent := once.entry_sent

/-- A task whose attempt is under way has not been sent otherwise. -/
theorem unsent_of_attempt {op : ConnRef × Role} {ops : List (ConnRef × Role)} {task : TaskRef}
    (once : ({ ledger with ops := op :: ops } : Ledger).Once) (bound : task < ledger.nextTask)
    (attempted : op.2.attempts task = true) :
    ({ ledger with ops := ops } : Ledger).Unsent task := by
  have before := once.once task bound
  simp only [attempts, List.countP_cons, attempted, if_true] at before
  constructor
  · change ops.countP _ = 0
    omega
  · change (ledger.tasks task).writes = 0
    omega

variable {duty : Duty}

theorem attempts_new (sound : ledger.Sound duty) : ledger.attempts ledger.nextTask = 0 := by
  refine List.countP_eq_zero.mpr fun op member attempted => ?_
  have bound := (sound.op_task op member _ (Role.task?_of_attempts attempted)).1
  exact Nat.lt_irrefl _ bound

theorem unsent_addTask {conn : ConnRef} (sound : ledger.Sound duty) :
    (ledger.addTask conn).Unsent ledger.nextTask :=
  ⟨attempts_new sound, by rw [tasks_addTask_new]⟩

theorem addTask {conn : ConnRef} (once : ledger.Once) (sound : ledger.Sound duty) :
    (ledger.addTask conn).Once := by
  constructor
  · intro task bound
    rcases Nat.lt_or_eq_of_le (Nat.lt_succ_iff.mp bound) with bound | rfl
    · rw [tasks_addTask_of_lt bound]
      exact once.once task bound
    · have unsent : (ledger.addTask conn).Unsent ledger.nextTask := unsent_addTask sound
      rw [unsent.1, unsent.2]
      exact Nat.zero_le 1
  · intro other entry member
    have listed : entry ∈ (ledger.connections other).outgoingTasks.entries := by
      rw [connections_addTask] at member
      split at member
      · next same => exact same ▸ member
      · exact member
    rw [tasks_addTask_of_lt (sound.entry other entry listed).1]
    exact once.entry_sent other entry listed

theorem openConnection {key : String} (once : ledger.Once) :
    (ledger.openConnection key).Once := by
  constructor
  · exact once.once
  · intro conn entry member
    by_cases new : conn = ledger.nextConn
    · simp [Ledger.openConnection, new] at member
    · simp only [Ledger.openConnection, Function.update_of_ne new] at member
      exact once.entry_sent conn entry member

end Once

end Ledger

end CarrotRpc.Client
