import CarrotRpc.Client.RunInvariants
import CarrotRpc.Protob.WireFormat

/-! A channel never forgets a connection: `destroy` erases from a copy of the map of
connections, so the connection stays in use. -/

set_option autoImplicit false

namespace CarrotRpc.Client

open Library Common Protob

variable {Msg : Type}

def RpcClientConnection.key (connection : RpcClientConnection) : String :=
  connection.host ++ ":" ++ connection.service

/-- Every connection is found under its host and service. -/
def Remembered (state : State Msg) : Prop :=
  ∀ conn < state.nextConn, ((state.connections conn).key, conn) ∈ state.conns.entries

/-- What `destroy` is for, where it ran on a connection when `count` calls had been
issued: the channel has no entry for the connection, entries for others stay, also
when it runs again, and no call issued since uses the connection. -/
structure Forgotten [Protobuf] (conn : ConnRef) (count : TaskRef) (state : State Msg) :
    Prop where
  removed : ∀ entry ∈ state.conns.entries, entry.2 ≠ conn
  others : ∀ reason, ∀ entry ∈ state.conns.entries, entry.2 ≠ conn →
    entry ∈ (state.destroy conn reason).conns.entries
  replaced : ∀ task < state.nextTask, count ≤ task → (state.tasks task).conn ≠ conn

def ForgottenOnceDestroyed [Protobuf] (conn : ConnRef) (state : State Msg) : Prop :=
  ∀ count, (state.connections conn).destroyedAt = some count → Forgotten conn count state

section Steps

variable {careful : Prop} {state : State Msg} {before after : Duty × State Msg}

theorem Remembered.modifyConn {conn : ConnRef}
    {change : RpcClientConnection → RpcClientConnection} (remembered : Remembered state)
    (keeps : (change (state.connections conn)).key = (state.connections conn).key) :
    Remembered (state.modifyConn conn change) := by
  intro other known
  rw [State.connections_modifyConn]
  split
  · next same =>
      rw [keeps, ← same]
      exact remembered other known
  · exact remembered other known

theorem Remembered.closeSocket {conn : ConnRef} (remembered : Remembered state) :
    Remembered (state.closeSocket conn) := by
  unfold State.closeSocket
  refine Remembered.modifyConn ?_ rfl
  exact remembered

theorem Remembered.asyncConnect {conn : ConnRef} {task : TaskRef}
    (remembered : Remembered state) : Remembered (state.asyncConnect conn task) := by
  have opened : Remembered ((state.closeSocket conn).openSocket conn) := by
    unfold State.openSocket
    refine Remembered.modifyConn ?_ rfl
    exact remembered.closeSocket
  exact opened

theorem Remembered.openConnection {host service : String} (remembered : Remembered state)
    (fresh : state.conns.find? (host ++ ":" ++ service) = none) :
    Remembered (state.openConnection host service) := by
  intro conn known
  by_cases new : conn = state.nextConn
  · subst new
    simp only [State.openConnection, Function.update_self]
    exact (OrderedMap.mem_insert_iff fresh).mpr (.inl rfl)
  · simp only [State.openConnection, Function.update_of_ne new]
    refine OrderedMap.mem_insert_of_mem (remembered conn ?_)
    exact Nat.lt_of_le_of_ne (Nat.lt_succ_iff.mp known) new

theorem Remembered.callStep (remembered : Remembered before.2)
    (step : CallStep careful before after) : Remembered after.2 := by
  cases step with
  | borrow | note | cancelTimer | startTimer | startResolve | beginDone | endDone | drop
  | hang => exact remembered
  | noteConn keeps =>
      refine remembered.modifyConn ?_
      calc
        _ = (RpcClientConnection.core _).key := rfl
        _ = (RpcClientConnection.core _).key := congrArg RpcClientConnection.key keeps
        _ = _ := rfl
  | openConnection fresh => exact remembered.openConnection fresh
  | @newTask hand serving running doomed state conn call done known tame =>
      have counted : Remembered (state.modifyConn conn fun connection =>
          { connection with id := (state.connections conn).id + 1 }) := by
        refine Remembered.modifyConn ?_ rfl
        exact remembered
      exact counted
  | @send hand serving running doomed state task packet bound unsent fresh active sized =>
      have inserted : Remembered (state.modifyConn (state.tasks task).conn fun connection =>
          { connection with
            outgoingTasks :=
              connection.outgoingTasks.insert (state.tasks task).id task }) := by
        refine Remembered.modifyConn ?_ rfl
        exact remembered
      exact inserted

theorem Remembered.handlerStep (remembered : Remembered before.2)
    (step : HandlerStep careful before after) : Remembered after.2 := by
  cases step with
  | call step => exact remembered.callStep step
  | cancelResolver | read | assume | release | hang => exact remembered
  | close => exact remembered.closeSocket
  | connect bound unsent => exact remembered.asyncConnect
  | erase bound =>
      unfold State.eraseOutgoing
      refine Remembered.modifyConn ?_ rfl
      exact remembered
  | clear ran =>
      unfold State.clearOutgoing
      refine Remembered.modifyConn ?_ rfl
      exact remembered

end Steps

section Runs

variable [Protobuf] [Inhabited Msg] {state : State Msg} {conn : ConnRef}

theorem kept_remembered :
    Kept False (fun (_ : State Msg) _ => True) fun config => Remembered config.2 where
  initial := fun conn known => absurd known (Nat.not_lt_zero conn)
  tidy := fun _ _ _ impossible => impossible.elim
  waiting := fun _ _ impossible => impossible.elim
  step := fun _ _ _ remembered step => remembered.handlerStep step
  dequeue := fun _ _ _ remembered _ => remembered
  complete := by
    intro state op error next _ remembered completed
    obtain ⟨_, _, change, changes, rfl⟩ := complete_eq_some completed
    refine Remembered.modifyConn remembered ?_
    rcases changes with rfl | ⟨_, _, rfl⟩ <;> rfl
  writeSome := by
    intro state op count next _ remembered _ written
    obtain ⟨task, packet, sent, _, _, _, _, _, _, rfl⟩ := writeSome_eq_some written
    exact Remembered.modifyConn remembered rfl

/-- The channel forgets a connection once it is destroyed only if it never is. -/
theorem forgotten_once_destroyed_iff (reached : (channel Msg).Reachable state)
    (known : conn < state.nextConn) :
    ForgottenOnceDestroyed conn state ↔ (state.connections conn).destroyedAt = none := by
  obtain ⟨_, remembered, _⟩ := kept_remembered.reachable reached
  constructor
  · intro forgotten
    cases destroyed : (state.connections conn).destroyedAt with
    | none => rfl
    | some count =>
        exact absurd rfl ((forgotten count destroyed).removed _ (remembered conn known))
  · intro untouched count destroyed
    cases untouched.symm.trans destroyed

end Runs

/-- A connection that was not destroyed yet. -/
theorem forgotten_once_destroyed_iff_resolving :
    ∃ state, (channel (List UInt8)).Reachable state ∧ 0 < state.nextConn ∧
      ForgottenOnceDestroyed 0 state := by
  have observed : ((channel (List UInt8)).run [.callMethod (sampleCall timeoutNever [1]) .returns]
      (channel (List UInt8)).initial).map
      (fun state => (state.nextConn, (state.connections 0).destroyedAt)) = some (1, none) := by
    decide
  obtain ⟨state, reached, same⟩ := (channel (List UInt8)).exists_reachable_of_run observed
  simp only [Prod.mk.injEq] at same
  obtain ⟨count, untouched⟩ := same
  have known : 0 < state.nextConn := by
    rw [count]
    exact Nat.one_pos
  exact ⟨state, reached, known, (forgotten_once_destroyed_iff reached known).mpr untouched⟩

/-- The server closes the connection, which is destroyed; a second call uses it
again, and the handler of the first call's aborted write destroys it once more and
completes the second call. -/
theorem destroyed_connection_reused :
    ∃ state, (channel (List UInt8)).Reachable state ∧
      (state.connections 0).destroyedAt = some 1 ∧
      ¬ ForgottenOnceDestroyed 0 state ∧ (state.tasks 1).conn = 0 ∧
      (state.tasks 1).called = true ∧
      (state.tasks 1).controller.errorText = "rpc failed: Operation canceled" := by
  have observed : ((channel (List UInt8)).run
      [.callMethod (sampleCall timeoutNever [1]) .returns,
        .complete ⟨0, .resolve 0, .pending⟩ none,
        .handle ⟨0, .resolve 0, .queued none⟩ .silent,
        .complete ⟨0, .connect 0, .pending⟩ none,
        .handle ⟨0, .connect 0, .queued none⟩ .silent,
        .complete ⟨0, .readHeader, .pending⟩ (some .eof),
        .handle ⟨0, .readHeader, .queued (some .eof)⟩ .silent,
        .callMethod (sampleCall timeoutNever [2]) .returns,
        .complete ⟨0, .resolve 1, .pending⟩ none,
        .handle ⟨0, .resolve 1, .queued none⟩ .silent,
        .complete ⟨0, .connect 1, .pending⟩ none,
        .handle ⟨0, .connect 1, .queued none⟩ .silent,
        .handle ⟨0, .write 0 (samplePacket 1 [1]) 0, .queued (some .operationAborted)⟩ .silent]
      (channel (List UInt8)).initial).map
      (fun state => ((state.connections 0).destroyedAt, state.conns.entries,
        (state.tasks 1).conn, (state.tasks 1).called, (state.tasks 1).controller.errorText)) =
      some (some 1, [("localhost:8080", 0)], 0, true, "rpc failed: Operation canceled") := by
    decide
  obtain ⟨state, reached, same⟩ := (channel (List UInt8)).exists_reachable_of_run observed
  simp only [Prod.mk.injEq] at same
  obtain ⟨destroyed, entries, conn, called, text⟩ := same
  refine ⟨state, reached, destroyed, fun forgotten => ?_, conn, called, text⟩
  have listed : ("localhost:8080", 0) ∈ state.conns.entries := by
    rw [entries]
    exact List.mem_cons_self
  exact (forgotten 1 destroyed).removed _ listed rfl

end CarrotRpc.Client
