import CarrotRpc.Client.Ledger

/-! The bookkeeping invariant of a channel and what the steps of its code do to
it. While a handler runs it has duties that no operation or table shows: they
are listed beside the ledger. -/

set_option autoImplicit false

namespace CarrotRpc.Client

open Library Common Protob

/-- Tasks the running code still has to complete or to pass on, connections it
still has to read from or to close, tasks whose closures are running, and
connections whose tables it is going to clear. -/
structure Duty where
  hand : List TaskRef
  serving : List ConnRef
  running : List TaskRef
  doomed : List ConnRef

def Duty.none : Duty := ⟨[], [], [], []⟩

namespace Ledger

/-- An operation or the table of its connection will still complete the task. -/
def Carried (ledger : Ledger) (task : TaskRef) : Prop :=
  (∃ op ∈ ledger.ops, op.2.attempts task = true) ∨
    ((ledger.tasks task).id, task) ∈
      (ledger.connections (ledger.tasks task).conn).outgoingTasks.entries

def Served (ledger : Ledger) (conn : ConnRef) : Prop :=
  ∃ op ∈ ledger.ops, op.1 = conn ∧ op.2.serves = true

def Active (ledger : Ledger) (conn : ConnRef) : Prop :=
  (ledger.connections conn).isOpen = true ∨
    (ledger.connections conn).outgoingTasks.entries ≠ []

structure Sound (duty : Duty) (ledger : Ledger) : Prop where
  conns_lt : ∀ entry ∈ ledger.conns.entries, entry.2 < ledger.nextConn
  conn_lt : ∀ task < ledger.nextTask, (ledger.tasks task).conn < ledger.nextConn
  op_conn : ∀ op ∈ ledger.ops, op.1 < ledger.nextConn
  op_task : ∀ op ∈ ledger.ops, ∀ task, op.2.task? = some task →
    task < ledger.nextTask ∧ (ledger.tasks task).conn = op.1
  entry : ∀ conn, ∀ entry ∈ (ledger.connections conn).outgoingTasks.entries,
    entry.2 < ledger.nextTask ∧ (ledger.tasks entry.2).conn = conn ∧
      (ledger.tasks entry.2).id = entry.1
  id_le : ∀ task < ledger.nextTask,
    (ledger.tasks task).id ≤ (ledger.connections (ledger.tasks task).conn).id
  id_unique : ∀ left < ledger.nextTask, ∀ right < ledger.nextTask,
    (ledger.tasks left).conn = (ledger.tasks right).conn →
      (ledger.tasks left).id = (ledger.tasks right).id → left = right
  runs_le : ∀ task < ledger.nextTask, (ledger.tasks task).runs ≤ 1
  called_runs : ∀ task < ledger.nextTask,
    (ledger.tasks task).called = true → (ledger.tasks task).runs = 1
  settled : ∀ task < ledger.nextTask, (ledger.tasks task).runs = 1 →
    (ledger.tasks task).called = true ∨ task ∈ duty.running
  running : ∀ task ∈ duty.running,
    task < ledger.nextTask ∧ (ledger.tasks task).runs = 1
  carried : ∀ task < ledger.nextTask, (ledger.tasks task).runs = 0 →
    ledger.stuck = true ∨ task ∈ duty.hand ∨ ledger.Carried task
  served : ∀ conn, ledger.Active conn →
    ledger.stuck = true ∨ conn ∈ duty.serving ∨ ledger.Served conn

namespace Sound

variable {hand : List TaskRef} {serving : List ConnRef} {running : List TaskRef}
  {doomed : List ConnRef} {duty : Duty} {ledger : Ledger}

theorem runs_zero {task : TaskRef} (sound : ledger.Sound duty) (bound : task < ledger.nextTask)
    (uncalled : (ledger.tasks task).called = false) (idle : task ∉ duty.running) :
    (ledger.tasks task).runs = 0 := by
  rcases Nat.le_one_iff_eq_zero_or_eq_one.mp (sound.runs_le task bound) with fresh | ran
  · exact fresh
  · rcases sound.settled task bound ran with called | member
    · rw [uncalled] at called
      cases called
    · exact absurd member idle

theorem called_false {task : TaskRef} (sound : ledger.Sound duty)
    (bound : task < ledger.nextTask) (fresh : (ledger.tasks task).runs = 0) :
    (ledger.tasks task).called = false := by
  cases called : (ledger.tasks task).called with
  | false => rfl
  | true =>
      have ran := sound.called_runs task bound called
      rw [fresh] at ran
      cases ran

theorem weaken {more : List TaskRef} {moreServing moreDoomed : List ConnRef}
    (sound : ledger.Sound ⟨hand, serving, running, doomed⟩) (hands : hand ⊆ more)
    (servings : serving ⊆ moreServing) :
    ledger.Sound ⟨more, moreServing, running, moreDoomed⟩ :=
  { sound with
    carried := fun task bound fresh =>
      (sound.carried task bound fresh).imp_right (Or.imp_left fun member => hands member)
    served := fun conn active =>
      (sound.served conn active).imp_right (Or.imp_left fun member => servings member) }

/-- A task whose closure ran needs no carrier. -/
theorem drop {task : TaskRef} (sound : ledger.Sound ⟨task :: hand, serving, running, doomed⟩)
    (ran : (ledger.tasks task).runs = 1) : ledger.Sound ⟨hand, serving, running, doomed⟩ :=
  { sound with
    carried := by
      intro other bound fresh
      rcases sound.carried other bound fresh with stuck | member | carried
      · exact .inl stuck
      · rcases List.mem_cons.mp member with rfl | member
        · rw [ran] at fresh
          cases fresh
        · exact .inr (.inl member)
      · exact .inr (.inr carried) }

/-- A closed connection without outgoing tasks needs no reader. -/
theorem release {conn : ConnRef}
    (sound : ledger.Sound ⟨hand, conn :: serving, running, doomed⟩)
    (idle : ¬ ledger.Active conn) : ledger.Sound ⟨hand, serving, running, doomed⟩ :=
  { sound with
    served := by
      intro other active
      rcases sound.served other active with stuck | member | served
      · exact .inl stuck
      · rcases List.mem_cons.mp member with rfl | member
        · exact absurd active idle
        · exact .inr (.inl member)
      · exact .inr (.inr served) }

/-- Nothing is promised of code that does not end. -/
theorem getStuck {more : List TaskRef} {moreServing : List ConnRef}
    (sound : ledger.Sound ⟨hand, serving, running, doomed⟩) :
    ledger.getStuck.Sound ⟨more, moreServing, running, doomed⟩ where
  conns_lt := sound.conns_lt
  conn_lt := sound.conn_lt
  op_conn := sound.op_conn
  op_task := sound.op_task
  entry := sound.entry
  id_le := sound.id_le
  id_unique := sound.id_unique
  runs_le := sound.runs_le
  called_runs := sound.called_runs
  settled := sound.settled
  running := sound.running
  carried := fun _ _ _ => .inl rfl
  served := fun _ _ => .inl rfl

/-- The order of the operations does not matter. -/
theorem reorder {ops : List (ConnRef × Role)} (sound : ledger.Sound duty)
    (perm : ops.Perm ledger.ops) : ({ ledger with ops := ops } : Ledger).Sound duty :=
  { sound with
    op_conn := fun op member => sound.op_conn op (perm.mem_iff.mp member)
    op_task := fun op member => sound.op_task op (perm.mem_iff.mp member)
    carried := fun task bound fresh =>
      (sound.carried task bound fresh).imp_right (Or.imp_right (Or.imp_left
        fun ⟨op, member, attempts⟩ => ⟨op, perm.mem_iff.mpr member, attempts⟩))
    served := fun conn active =>
      (sound.served conn active).imp_right (Or.imp_right
        fun ⟨op, member, serves⟩ => ⟨op, perm.mem_iff.mpr member, serves⟩) }

/-- The handler of an operation takes over what the operation was there for. -/
theorem takeOver {op : ConnRef × Role} {ops : List (ConnRef × Role)} {more : List TaskRef}
    {moreServing : List ConnRef}
    (sound : ({ ledger with ops := op :: ops } : Ledger).Sound
      ⟨hand, serving, running, doomed⟩)
    (hands : hand ⊆ more) (servings : serving ⊆ moreServing)
    (attempted : ∀ task, op.2.attempts task = true → task ∈ more)
    (served : op.2.serves = true → op.1 ∈ moreServing) :
    ({ ledger with ops := ops } : Ledger).Sound ⟨more, moreServing, running, doomed⟩ :=
  { sound with
    op_conn := fun other member => sound.op_conn other (List.mem_cons_of_mem _ member)
    op_task := fun other member => sound.op_task other (List.mem_cons_of_mem _ member)
    carried := by
      intro task bound fresh
      rcases sound.carried task bound fresh with stuck | member | ⟨other, member, attempts⟩ | entry
      · exact .inl stuck
      · exact .inr (.inl (hands member))
      · rcases List.mem_cons.mp member with rfl | member
        · exact .inr (.inl (attempted task attempts))
        · exact .inr (.inr (.inl ⟨other, member, attempts⟩))
      · exact .inr (.inr (.inr entry))
    served := by
      intro conn active
      rcases sound.served conn active with stuck | member | ⟨other, member, rfl, serves⟩
      · exact .inl stuck
      · exact .inr (.inl (servings member))
      · rcases List.mem_cons.mp member with rfl | member
        · exact .inr (.inl (served serves))
        · exact .inr (.inr ⟨other, member, rfl, serves⟩) }

/-- A new operation takes over what it is there for. -/
theorem start {conn : ConnRef} {role : Role} {more : List TaskRef}
    {moreServing : List ConnRef}
    (sound : ledger.Sound ⟨more, moreServing, running, doomed⟩) (known : conn < ledger.nextConn)
    (binds : ∀ task, role.task? = some task →
      task < ledger.nextTask ∧ (ledger.tasks task).conn = conn)
    (hands : ∀ task ∈ more, task ∈ hand ∨ role.attempts task = true)
    (servings : ∀ other ∈ moreServing, other ∈ serving ∨ conn = other ∧ role.serves = true) :
    (ledger.start conn role).Sound ⟨hand, serving, running, doomed⟩ where
  conns_lt := sound.conns_lt
  conn_lt := sound.conn_lt
  op_conn := by
    intro op member
    rcases List.mem_append.mp member with member | member
    · exact sound.op_conn op member
    · rw [List.mem_singleton.mp member]
      exact known
  op_task := by
    intro op member
    rcases List.mem_append.mp member with member | member
    · exact sound.op_task op member
    · rw [List.mem_singleton.mp member]
      exact binds
  entry := sound.entry
  id_le := sound.id_le
  id_unique := sound.id_unique
  runs_le := sound.runs_le
  called_runs := sound.called_runs
  settled := sound.settled
  running := sound.running
  carried := by
    intro task bound fresh
    rcases sound.carried task bound fresh with stuck | member | ⟨op, member, attempts⟩ | entry
    · exact .inl stuck
    · rcases hands task member with member | attempts
      · exact .inr (.inl member)
      · exact .inr (.inr (.inl
          ⟨(conn, role), List.mem_append_right _ List.mem_cons_self, attempts⟩))
    · exact .inr (.inr (.inl ⟨op, List.mem_append_left _ member, attempts⟩))
    · exact .inr (.inr (.inr entry))
  served := by
    intro other active
    rcases sound.served other active with stuck | member | ⟨op, member, served⟩
    · exact .inl stuck
    · rcases servings other member with member | ⟨same, serves⟩
      · exact .inr (.inl member)
      · exact .inr (.inr
          ⟨(conn, role), List.mem_append_right _ List.mem_cons_self, same, serves⟩)
    · exact .inr (.inr ⟨op, List.mem_append_left _ member, served⟩)

/-- A change of one task that keeps its connection, its id and its runs. -/
theorem modifyTask {task : TaskRef} {change : TaskEntry → TaskEntry} {more : List TaskRef}
    (sound : ledger.Sound ⟨hand, serving, running, doomed⟩)
    (conn : (change (ledger.tasks task)).conn = (ledger.tasks task).conn)
    (id : (change (ledger.tasks task)).id = (ledger.tasks task).id)
    (runs_le : (change (ledger.tasks task)).runs ≤ 1)
    (called_runs : (change (ledger.tasks task)).called = true →
      (change (ledger.tasks task)).runs = 1)
    (unrun : (change (ledger.tasks task)).runs = 0 → (ledger.tasks task).runs = 0)
    (settled : (change (ledger.tasks task)).runs = 1 →
      (change (ledger.tasks task)).called = true ∨ task ∈ more)
    (kept : ∀ other ∈ running, other = task ∨ other ∈ more)
    (added : ∀ other ∈ more, other < ledger.nextTask ∧
      if other = task then (change (ledger.tasks task)).runs = 1
      else (ledger.tasks other).runs = 1) :
    (ledger.modifyTask task change).Sound ⟨hand, serving, more, doomed⟩ := by
  have sameConn : ∀ other, ((ledger.modifyTask task change).tasks other).conn =
      (ledger.tasks other).conn := by
    intro other
    rw [tasks_modifyTask]
    split
    · next same => rw [conn, same]
    · rfl
  have sameId : ∀ other, ((ledger.modifyTask task change).tasks other).id =
      (ledger.tasks other).id := by
    intro other
    rw [tasks_modifyTask]
    split
    · next same => rw [id, same]
    · rfl
  constructor
  · exact sound.conns_lt
  · intro other bound
    rw [sameConn]
    exact sound.conn_lt other bound
  · exact sound.op_conn
  · intro op member other binds
    rw [sameConn]
    exact sound.op_task op member other binds
  · intro other entry member
    rw [sameConn, sameId]
    exact sound.entry other entry member
  · intro other bound
    rw [sameConn, sameId]
    exact sound.id_le other bound
  · intro left leftBound right rightBound
    rw [sameConn, sameConn, sameId, sameId]
    exact sound.id_unique left leftBound right rightBound
  · intro other bound
    rw [tasks_modifyTask]
    split
    · exact runs_le
    · exact sound.runs_le other bound
  · intro other bound
    rw [tasks_modifyTask]
    split
    · exact called_runs
    · exact sound.called_runs other bound
  · intro other bound ran
    rw [tasks_modifyTask] at ran ⊢
    split at ran
    · next same =>
        rw [if_pos same, same]
        exact settled ran
    · next different =>
        rw [if_neg different]
        refine (sound.settled other bound ran).imp_right fun member => ?_
        exact (kept other member).resolve_left different
  · intro other member
    rw [tasks_modifyTask]
    refine ⟨(added other member).1, ?_⟩
    have ran := (added other member).2
    split at ran
    · next same => rwa [if_pos same]
    · next different => rwa [if_neg different]
  · intro other bound fresh
    have wasFresh : (ledger.tasks other).runs = 0 := by
      rw [tasks_modifyTask] at fresh
      split at fresh
      · next same => rw [same, unrun fresh]
      · exact fresh
    rw [Carried, sameConn, sameId]
    exact sound.carried other bound wasFresh
  · exact sound.served

theorem beginDone {task : TaskRef}
    (sound : ledger.Sound ⟨task :: hand, serving, running, doomed⟩)
    (bound : task < ledger.nextTask) (fresh : (ledger.tasks task).runs = 0) :
    (ledger.beginDone task).Sound ⟨hand, serving, task :: running, doomed⟩ := by
  have uncalled := sound.called_false bound fresh
  have begun : (ledger.beginDone task).Sound
      ⟨task :: hand, serving, task :: running, doomed⟩ := by
    refine sound.modifyTask rfl rfl ?_ ?_ ?_ ?_ ?_ ?_
    · simp [fresh]
    · simp [uncalled]
    · simp
    · exact fun _ => .inr List.mem_cons_self
    · exact fun other member => .inr (List.mem_cons_of_mem _ member)
    · intro other member
      rcases List.mem_cons.mp member with rfl | member
      · exact ⟨bound, by simp [fresh]⟩
      · refine ⟨(sound.running other member).1, ?_⟩
        split
        · simp [fresh]
        · exact (sound.running other member).2
  exact begun.drop (by simp [Ledger.beginDone, fresh])

theorem endDone {task : TaskRef}
    (sound : ledger.Sound ⟨hand, serving, task :: running, doomed⟩) :
    (ledger.endDone task).Sound ⟨hand, serving, running, doomed⟩ := by
  have ran := (sound.running task List.mem_cons_self).2
  refine sound.modifyTask rfl rfl (Nat.le_of_eq ran) (fun _ => ran) (fun fresh => fresh)
    (fun _ => .inl rfl) ?_ ?_
  · intro other member
    exact List.mem_cons.mp member
  · intro other member
    obtain ⟨bound, otherRan⟩ := sound.running other (List.mem_cons_of_mem _ member)
    refine ⟨bound, ?_⟩
    split
    · exact ran
    · exact otherRan

theorem recordWrite {task : TaskRef}
    (sound : ledger.Sound ⟨hand, serving, running, doomed⟩) (bound : task < ledger.nextTask) :
    (ledger.recordWrite task).Sound ⟨hand, serving, running, doomed⟩ := by
  refine sound.modifyTask rfl rfl (sound.runs_le task bound) (sound.called_runs task bound)
    (fun fresh => fresh) (sound.settled task bound) (fun other member => .inr member) ?_
  intro other member
  obtain ⟨otherBound, ran⟩ := sound.running other member
  refine ⟨otherBound, ?_⟩
  split
  · next same => exact same ▸ ran
  · exact ran

/-- A change of one connection that keeps its call counter. -/
theorem modifyConn {conn : ConnRef} {change : ConnEntry → ConnEntry} {more : List TaskRef}
    {moreDoomed : List ConnRef}
    (sound : ledger.Sound ⟨hand, serving, running, doomed⟩) (hands : hand ⊆ more)
    (id : (change (ledger.connections conn)).id = (ledger.connections conn).id)
    (entries : ∀ entry ∈ (change (ledger.connections conn)).outgoingTasks.entries,
      entry.2 < ledger.nextTask ∧ (ledger.tasks entry.2).conn = conn ∧
        (ledger.tasks entry.2).id = entry.1)
    (kept : ∀ entry ∈ (ledger.connections conn).outgoingTasks.entries,
      entry ∈ (change (ledger.connections conn)).outgoingTasks.entries ∨
        entry.2 ∈ more ∨ (ledger.tasks entry.2).runs = 1)
    (served : (change (ledger.connections conn)).isOpen = true ∨
        (change (ledger.connections conn)).outgoingTasks.entries ≠ [] →
      ledger.stuck = true ∨ conn ∈ serving ∨ ledger.Served conn) :
    (ledger.modifyConn conn change).Sound ⟨more, serving, running, moreDoomed⟩ := by
  constructor
  · exact sound.conns_lt
  · exact sound.conn_lt
  · exact sound.op_conn
  · exact sound.op_task
  · intro other entry member
    rw [connections_modifyConn] at member
    split at member
    · next same => exact same ▸ entries entry member
    · exact sound.entry other entry member
  · intro task bound
    rw [connections_modifyConn]
    split
    · next same =>
        rw [id, ← same]
        exact sound.id_le task bound
    · exact sound.id_le task bound
  · exact sound.id_unique
  · exact sound.runs_le
  · exact sound.called_runs
  · exact sound.settled
  · exact sound.running
  · intro task bound fresh
    rcases sound.carried task bound fresh with stuck | member | op | entry
    · exact .inl stuck
    · exact .inr (.inl (hands member))
    · exact .inr (.inr (.inl op))
    · by_cases same : (ledger.tasks task).conn = conn
      · rw [same] at entry
        rcases kept _ entry with stays | member | ran
        · refine .inr (.inr (.inr ?_))
          change _ ∈ ((ledger.modifyConn conn change).connections
            (ledger.tasks task).conn).outgoingTasks.entries
          rw [connections_modifyConn, if_pos same]
          exact stays
        · exact .inr (.inl member)
        · rw [show (ledger.tasks task).runs = 0 from fresh] at ran
          cases ran
      · refine .inr (.inr (.inr ?_))
        change _ ∈ ((ledger.modifyConn conn change).connections
          (ledger.tasks task).conn).outgoingTasks.entries
        rw [connections_modifyConn, if_neg same]
        exact entry
  · intro other active
    rw [Active, connections_modifyConn] at active
    split at active
    · next same => exact same ▸ served active
    · exact sound.served other active

/-- A task in hand is handed over to the table of its connection, which is being
read from or will be. -/
theorem insertOutgoing {task : TaskRef}
    (sound : ledger.Sound ⟨task :: hand, serving, running, doomed⟩)
    (bound : task < ledger.nextTask)
    (active : (ledger.tasks task).conn ∈ serving ∨
      (ledger.connections (ledger.tasks task).conn).isOpen = true) :
    (ledger.insertOutgoing task).Sound ⟨hand, serving, running, doomed⟩ := by
  have inserted :
      (ledger.insertOutgoing task).Sound ⟨task :: hand, serving, running, doomed⟩ := by
    unfold Ledger.insertOutgoing Ledger.setOutgoing
    refine sound.modifyConn (List.Subset.refl _) rfl ?_ ?_ fun _ => ?_
    · intro entry member
      rcases OrderedMap.mem_of_mem_insert member with rfl | member
      · exact ⟨bound, rfl, rfl⟩
      · exact sound.entry _ entry member
    · intro entry member
      exact .inl (OrderedMap.mem_insert_of_mem member)
    · rcases active with member | isOpen
      · exact .inr (.inl member)
      · exact sound.served _ (.inl isOpen)
  have present : ((ledger.tasks task).id, task) ∈
      ((ledger.connections (ledger.tasks task).conn).outgoingTasks.insert
        (ledger.tasks task).id task).entries := by
    cases found : (ledger.connections (ledger.tasks task).conn).outgoingTasks.find?
        (ledger.tasks task).id with
    | none => exact (OrderedMap.mem_insert_iff found).mpr (.inl rfl)
    | some other =>
        -- an entry under the same id belongs to the same task
        have member := OrderedMap.find?_eq_some_iff.mp found
        obtain ⟨otherBound, conn, id⟩ := sound.entry _ _ member
        have same : other = task := sound.id_unique other otherBound task bound conn id
        exact OrderedMap.mem_insert_of_mem (same ▸ member)
  exact { inserted with
    carried := by
      intro other otherBound fresh
      rcases inserted.carried other otherBound fresh with stuck | member | carried
      · exact .inl stuck
      · rcases List.mem_cons.mp member with rfl | member
        · refine .inr (.inr (.inr ?_))
          change _ ∈ ((ledger.setOutgoing (ledger.tasks other).conn _).connections
            (ledger.tasks other).conn).outgoingTasks.entries
          rw [setOutgoing, connections_modifyConn, if_pos rfl]
          exact present
        · exact .inr (.inl member)
      · exact .inr (.inr carried) }

/-- A task whose entry is erased is in hand. -/
theorem eraseOutgoing {task : TaskRef}
    (sound : ledger.Sound ⟨hand, serving, running, doomed⟩) (bound : task < ledger.nextTask) :
    (ledger.eraseOutgoing task).Sound ⟨task :: hand, serving, running, doomed⟩ := by
  unfold Ledger.eraseOutgoing Ledger.setOutgoing
  refine sound.modifyConn (List.subset_cons_self _ _) rfl ?_ ?_ ?_
  · intro entry member
    exact sound.entry _ entry (OrderedMap.mem_erase_iff.mp member).1
  · intro entry member
    by_cases same : entry.1 = (ledger.tasks task).id
    · obtain ⟨entryBound, conn, id⟩ := sound.entry _ entry member
      have equal : entry.2 = task :=
        sound.id_unique entry.2 entryBound task bound conn (id.trans same)
      exact .inr (.inl (equal ▸ List.mem_cons_self))
    · exact .inl (OrderedMap.mem_erase_iff.mpr ⟨member, same⟩)
  · intro active
    refine sound.served _ (active.imp_right fun nonempty empty => nonempty ?_)
    simp [OrderedMap.erase, empty]

theorem close {conn : ConnRef} (sound : ledger.Sound ⟨hand, serving, running, doomed⟩) :
    (ledger.setOpen conn false).Sound ⟨hand, serving, running, doomed⟩ := by
  refine sound.modifyConn (List.Subset.refl _) rfl (sound.entry conn)
    (fun entry member => .inl member) fun active => sound.served conn ?_
  rcases active with impossible | nonempty
  · cases impossible
  · exact .inr nonempty

/-- Once its closures have run, the table of a connection may be cleared. -/
theorem clearOutgoing {conn : ConnRef} {moreDoomed : List ConnRef}
    (sound : ledger.Sound ⟨hand, serving, running, doomed⟩)
    (ran : ∀ entry ∈ (ledger.connections conn).outgoingTasks.entries,
      (ledger.tasks entry.2).runs = 1) :
    (ledger.setOutgoing conn .empty).Sound ⟨hand, serving, running, moreDoomed⟩ := by
  refine sound.modifyConn (List.Subset.refl _) rfl nofun
    (fun entry member => .inr (.inr (ran entry member))) fun active => sound.served conn ?_
  rcases active with isOpen | nonempty
  · exact .inl isOpen
  · exact absurd rfl nonempty

/-- A connection is opened for the connect operation of a task in hand. -/
theorem connect {task : TaskRef}
    (sound : ledger.Sound ⟨task :: hand, serving, running, doomed⟩)
    (bound : task < ledger.nextTask) :
    ((ledger.setOpen (ledger.tasks task).conn true).start (ledger.tasks task).conn
      (.connect task)).Sound ⟨hand, serving, running, doomed⟩ := by
  have known := sound.conn_lt task bound
  have opened : (ledger.setOpen (ledger.tasks task).conn true).Sound
      ⟨task :: hand, (ledger.tasks task).conn :: serving, running, doomed⟩ := by
    have ready : ledger.Sound
        ⟨task :: hand, (ledger.tasks task).conn :: serving, running, doomed⟩ :=
      sound.weaken (List.Subset.refl _) (List.subset_cons_self _ _)
    exact ready.modifyConn (List.Subset.refl _) rfl (ready.entry _)
      (fun entry member => .inl member) fun _ => .inr (.inl List.mem_cons_self)
  refine opened.start known ?_ ?_ ?_
  · intro other binds
    cases binds
    exact ⟨bound, rfl⟩
  · intro other member
    rcases List.mem_cons.mp member with rfl | member
    · exact .inr (decide_eq_true rfl)
    · exact .inl member
  · intro other member
    rcases List.mem_cons.mp member with rfl | member
    · exact .inr ⟨rfl, rfl⟩
    · exact .inl member

/-- A new task is in hand. -/
theorem addTask {conn : ConnRef} (sound : ledger.Sound ⟨hand, serving, running, doomed⟩)
    (known : conn < ledger.nextConn) :
    (ledger.addTask conn).Sound ⟨ledger.nextTask :: hand, serving, running, doomed⟩ := by
  have old : ∀ task, task < ledger.nextTask →
      (ledger.addTask conn).tasks task = ledger.tasks task :=
    fun _ bound => tasks_addTask_of_lt bound
  have new := tasks_addTask_new ledger conn
  have table : ∀ other, ((ledger.addTask conn).connections other).outgoingTasks =
      (ledger.connections other).outgoingTasks := by
    intro other
    rw [connections_addTask]
    split
    · next same => rw [same]
    · rfl
  have isOpen : ∀ other, ((ledger.addTask conn).connections other).isOpen =
      (ledger.connections other).isOpen := by
    intro other
    rw [connections_addTask]
    split
    · next same => rw [same]
    · rfl
  have ids : ∀ other, (ledger.connections other).id ≤
      ((ledger.addTask conn).connections other).id := by
    intro other
    rw [connections_addTask]
    split
    · next same => simp [same]
    · exact Nat.le_refl _
  have newId : ((ledger.addTask conn).connections conn).id =
      (ledger.connections conn).id + 1 := by
    rw [connections_addTask, if_pos rfl]
  -- ids of earlier tasks are at most the old counter, the new one is above it
  have distinct : ∀ task < ledger.nextTask, (ledger.tasks task).conn = conn →
      (ledger.tasks task).id ≠ (ledger.connections conn).id + 1 := by
    intro task bound same equal
    have small := sound.id_le task bound
    rw [same, equal] at small
    exact absurd small (Nat.not_succ_le_self _)
  have cases_lt : ∀ task, task < (ledger.addTask conn).nextTask →
      task < ledger.nextTask ∨ task = ledger.nextTask :=
    fun task bound => Nat.lt_or_eq_of_le (Nat.lt_succ_iff.mp bound)
  constructor
  · exact sound.conns_lt
  · intro task bound
    rcases cases_lt task bound with bound | rfl
    · rw [old task bound]
      exact sound.conn_lt task bound
    · rw [new]
      exact known
  · exact sound.op_conn
  · intro op member task binds
    obtain ⟨bound, same⟩ := sound.op_task op member task binds
    rw [old task bound]
    exact ⟨Nat.lt_succ_of_lt bound, same⟩
  · intro other entry member
    rw [table] at member
    obtain ⟨bound, same⟩ := sound.entry other entry member
    rw [old entry.2 bound]
    exact ⟨Nat.lt_succ_of_lt bound, same⟩
  · intro task bound
    rcases cases_lt task bound with bound | rfl
    · rw [old task bound]
      exact (sound.id_le task bound).trans (ids _)
    · rw [new]
      exact Nat.le_of_eq newId.symm
  · intro left leftBound right rightBound
    rcases cases_lt left leftBound with leftBound | rfl <;>
      rcases cases_lt right rightBound with rightBound | rfl
    · rw [old left leftBound, old right rightBound]
      exact sound.id_unique left leftBound right rightBound
    · rw [old left leftBound, new]
      exact fun same equal => absurd equal (distinct left leftBound same)
    · rw [old right rightBound, new]
      exact fun same equal => absurd equal.symm (distinct right rightBound same.symm)
    · exact fun _ _ => rfl
  · intro task bound
    rcases cases_lt task bound with bound | rfl
    · rw [old task bound]
      exact sound.runs_le task bound
    · simp [new]
  · intro task bound
    rcases cases_lt task bound with bound | rfl
    · rw [old task bound]
      exact sound.called_runs task bound
    · simp [new]
  · intro task bound
    rcases cases_lt task bound with bound | rfl
    · rw [old task bound]
      exact sound.settled task bound
    · simp [new]
  · intro task member
    obtain ⟨bound, ran⟩ := sound.running task member
    rw [old task bound]
    exact ⟨Nat.lt_succ_of_lt bound, ran⟩
  · intro task bound fresh
    rcases cases_lt task bound with bound | rfl
    · rw [old task bound] at fresh
      rw [Carried, old task bound, table]
      exact (sound.carried task bound fresh).imp_right
        (Or.imp_left (List.mem_cons_of_mem _))
    · exact .inr (.inl List.mem_cons_self)
  · intro other active
    rw [Active, isOpen, table] at active
    exact sound.served other active

/-- A new connection has no task, no operation and no table entry. -/
theorem openConnection {key : String}
    (sound : ledger.Sound ⟨hand, serving, running, doomed⟩) :
    (ledger.openConnection key).Sound ⟨hand, serving, running, doomed⟩ := by
  have old : ∀ conn, conn < ledger.nextConn →
      (ledger.openConnection key).connections conn = ledger.connections conn := by
    intro conn known
    simp [Ledger.openConnection, Nat.ne_of_lt known]
  have carried : ∀ task < ledger.nextTask, ledger.Carried task →
      (ledger.openConnection key).Carried task := by
    intro task bound carried
    refine carried.imp_right fun entry => ?_
    change _ ∈ ((ledger.openConnection key).connections
      (ledger.tasks task).conn).outgoingTasks.entries
    rw [old _ (sound.conn_lt task bound)]
    exact entry
  have idle : ¬ (ledger.openConnection key).Active ledger.nextConn := by
    simp [Ledger.openConnection, Active]
  constructor
  · intro entry member
    rcases OrderedMap.mem_of_mem_insert member with rfl | member
    · exact Nat.lt_succ_self _
    · exact Nat.lt_succ_of_lt (sound.conns_lt entry member)
  · exact fun task bound => Nat.lt_succ_of_lt (sound.conn_lt task bound)
  · exact fun op member => Nat.lt_succ_of_lt (sound.op_conn op member)
  · exact sound.op_task
  · intro conn entry member
    by_cases new : conn = ledger.nextConn
    · simp [Ledger.openConnection, new] at member
    · simp only [Ledger.openConnection, Function.update_of_ne new] at member
      exact sound.entry conn entry member
  · intro task bound
    change _ ≤ ((ledger.openConnection key).connections (ledger.tasks task).conn).id
    rw [old _ (sound.conn_lt task bound)]
    exact sound.id_le task bound
  · exact sound.id_unique
  · exact sound.runs_le
  · exact sound.called_runs
  · exact sound.settled
  · exact sound.running
  · intro task bound fresh
    exact (sound.carried task bound fresh).imp_right (Or.imp_right (carried task bound))
  · intro conn active
    by_cases new : conn = ledger.nextConn
    · exact absurd (new ▸ active) idle
    · simp only [Active, Ledger.openConnection, Function.update_of_ne new] at active
      exact sound.served conn active

end Sound

end Ledger

end CarrotRpc.Client
