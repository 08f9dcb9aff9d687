import CarrotRpc.Client.RunInvariants
import CarrotRpc.Protob.WireFormat

/-! Every call is completed once: no closure runs twice, and when nothing is
outstanding on a connection all its calls have been completed. -/

set_option autoImplicit false

namespace CarrotRpc.Client

open Library Common Protob

variable {Msg : Type}

/-- No operation is outstanding on the connection, waits on cancelled timers apart. -/
def Idle (state : State Msg) (conn : ConnRef) : Prop :=
  ∀ op ∈ state.ops, op.conn = conn →
    ∃ task error, op.kind = .timer task ∧ op.status = .queued (some error)

theorem OpKind.not_timer_of_attempts {kind : OpKind} {task other : TaskRef}
    (attempts : kind.role.attempts task = true) : kind ≠ .timer other := by
  rintro rfl
  cases attempts

theorem OpKind.not_timer_of_serves {kind : OpKind} {other : TaskRef}
    (serves : kind.role.serves = true) : kind ≠ .timer other := by
  rintro rfl
  cases serves

variable {state : State Msg} {conn : ConnRef} {task : TaskRef}

theorem not_served_of_idle (idle : Idle state conn) : ¬ state.ledger.Served conn := by
  rintro ⟨_, member, sameConn, serves⟩
  obtain ⟨op, present, rfl⟩ := List.mem_map.mp member
  obtain ⟨other, error, timer, _⟩ := idle op present sameConn
  exact OpKind.not_timer_of_serves serves timer

/-- An open call is carried by an operation of its connection or by its table. -/
theorem runs_of_idle (sound : state.ledger.Sound .none) (unstuck : state.stuck = false)
    (idle : Idle state conn) (bound : task < state.nextTask)
    (sameConn : (state.tasks task).conn = conn) : (state.tasks task).runs = 1 := by
  rcases Nat.le_one_iff_eq_zero_or_eq_one.mp (sound.runs_le task bound) with fresh | ran
  · rcases sound.carried task bound fresh with stuck | held | carried
    · cases unstuck.symm.trans stuck
    · cases held
    · rcases carried with ⟨_, member, attempts⟩ | listed
      · obtain ⟨op, present, rfl⟩ := List.mem_map.mp member
        have binds := sound.op_task op.bare member task (Role.task?_of_attempts attempts)
        have opConn : (state.tasks task).conn = op.conn := binds.2
        obtain ⟨other, error, timer, _⟩ := idle op present (opConn.symm.trans sameConn)
        exact absurd timer (OpKind.not_timer_of_attempts attempts)
      · -- a table with entries needs somebody to read the responses
        have active : state.ledger.Active conn := by
          refine .inr fun empty => ?_
          have entry : ((state.tasks task).id, task) ∈
              (state.connections (state.tasks task).conn).outgoingTasks.entries := listed
          have none : (state.connections conn).outgoingTasks.entries = [] := empty
          rw [sameConn, none] at entry
          cases entry
        rcases sound.served conn active with stuck | serving | served
        · cases unstuck.symm.trans stuck
        · cases serving
        · exact absurd served (not_served_of_idle idle)
  · exact ran

section Runs

variable [Protobuf] [Inhabited Msg]

theorem kept_nothing (allowed : State Msg → Label Msg → Prop) :
    Kept False allowed fun _ => True where
  initial := trivial
  tidy := fun _ _ _ impossible => impossible.elim
  waiting := fun _ _ impossible => impossible.elim
  step := fun _ _ _ _ _ => trivial
  dequeue := fun _ _ _ _ _ => trivial
  complete := fun _ _ _ _ _ _ _ => trivial
  writeSome := fun _ _ _ _ _ _ _ _ => trivial

/-- In every reachable state no closure has been run twice, and where nothing is
outstanding on a connection every call issued on it has had its closure run. -/
theorem done_runs_exactly_once (reached : (channel Msg).Reachable state) :
    (∀ task < state.nextTask, (state.tasks task).runs ≤ 1) ∧
      ∀ conn, Idle state conn → ∀ task < state.nextTask,
        (state.tasks task).conn = conn → (state.tasks task).runs = 1 := by
  obtain ⟨base, _, unstuck⟩ := (kept_nothing fun _ _ => True).reachable reached
  refine ⟨base.sound.runs_le, fun conn idle task bound sameConn => ?_⟩
  exact runs_of_idle base.sound unstuck idle bound sameConn

end Runs

/-- A call whose name is not resolved fails once. -/
theorem done_runs_exactly_once_unresolved :
    ∃ state, (channel (List UInt8)).Reachable state ∧ state.nextTask = 1 ∧
      (state.tasks 0).runs = 1 := by
  have observed : ((channel (List UInt8)).run
      [.callMethod (sampleCall timeoutNever [1]) .returns,
        .complete ⟨0, .resolve 0, .pending⟩ (some .timedOut),
        .handle ⟨0, .resolve 0, .queued (some .timedOut)⟩ .silent]
      (channel (List UInt8)).initial).map
      (fun state => (state.nextTask, state.ops, (state.tasks 0).conn)) = some (1, [], 0) := by
    decide
  obtain ⟨state, reached, same⟩ := (channel (List UInt8)).exists_reachable_of_run observed
  simp only [Prod.mk.injEq] at same
  obtain ⟨count, ops, conn⟩ := same
  have idle : Idle state 0 := by
    intro op member
    rw [ops] at member
    cases member
  have bound : 0 < state.nextTask := by
    rw [count]
    exact Nat.one_pos
  exact ⟨state, reached, count, (done_runs_exactly_once reached).2 0 idle 0 bound conn⟩

end CarrotRpc.Client
