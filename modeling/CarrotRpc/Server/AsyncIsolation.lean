import CarrotRpc.Library.Projection
import CarrotRpc.Server.BackPointers

/-! The connections of the async server are independent of each other: what becomes of
one depends on its own completions and handlers and on the destruction of the server, and
on no other client. -/

set_option autoImplicit false

namespace CarrotRpc.Server.Async

open Library Library.Faulting Common Protob

/-- One connection in the server: the object, its operations, and whether the map has it. -/
structure View where
  record : RpcServerConnection
  ops : List (OpKind × OpStatus)
  mapped : Bool
  alive : Bool

/-- What happens to one connection. -/
inductive Event (Msg : Type) where
  | complete (kind : OpKind) (status : OpStatus) (completion : Completion)
  | handle (kind : OpKind) (status : OpStatus) (input : Input Msg)
  | destroyServer

def Label.event {Msg : Type} (conn : ConnRef) : Label Msg → Option (Event Msg)
  | .complete op completion =>
      if op.conn = conn then some (.complete op.kind op.status completion) else none
  | .handle op input => if op.conn = conn then some (.handle op.kind op.status input) else none
  | .destroyServer => some .destroyServer

/-- The event of a label with an operation tells the operation. -/
theorem event_eq_some {Msg : Type} {conn : ConnRef} {label : Label Msg} {event : Event Msg}
    (happens : label.event conn = some event) :
    match event with
    | .complete kind status completion => label = .complete ⟨conn, kind, status⟩ completion
    | .handle kind status input => label = .handle ⟨conn, kind, status⟩ input
    | .destroyServer => label = .destroyServer := by
  cases label with
  | complete op completion =>
      simp only [Label.event] at happens
      split at happens
      · next same =>
          cases happens
          subst same
          rfl
      · cases happens
  | handle op input =>
      simp only [Label.event] at happens
      split at happens
      · next same =>
          cases happens
          subst same
          rfl
      · cases happens
  | destroyServer =>
      cases happens
      rfl

namespace State

def view (conn : ConnRef) (state : State) : View where
  record := state.connections conn
  ops := (state.outstanding conn).map fun op => (op.kind, op.status)
  mapped := decide ((conn, conn) ∈ state.conns.entries)
  alive := state.alive

/-- The connection object was constructed. -/
def Created (conn : ConnRef) (state : State) : Prop := conn < state.nextConn

instance (conn : ConnRef) (state : State) : Decidable (Created conn state) :=
  inferInstanceAs (Decidable (conn < state.nextConn))

def projection {Msg : Type} (conn : ConnRef) :
    Projection State (Label Msg) View (Event Msg) where
  view := view conn
  event := Label.event conn

/-- An entry of the map has the key of its connection. -/
def OwnKeys (state : State) : Prop := ∀ entry ∈ state.conns.entries, entry.1 = entry.2

section Frames

variable {state next : State} {conn other : ConnRef}

theorem view_modifyConn_of_ne (different : conn ≠ other)
    (change : RpcServerConnection → RpcServerConnection) :
    (state.modifyConn other change).view conn = state.view conn := by
  simp only [view, connections_modifyConn, if_neg different]
  rfl

theorem view_modifyConn (change : RpcServerConnection → RpcServerConnection) :
    (state.modifyConn conn change).view conn =
      { state.view conn with record := change (state.connections conn) } := by
  simp only [view, connections_modifyConn, if_pos]
  rfl

theorem outstanding_start (op : Op) :
    (state.start op).outstanding conn =
      state.outstanding conn ++ if op.conn = conn then [op] else [] := by
  unfold outstanding State.start
  rw [List.filter_append, List.filter_cons, List.filter_nil]
  by_cases same : op.conn = conn
  · simp only [same, decide_true, if_true]
  · simp only [same, decide_false, Bool.false_eq_true, if_false]

theorem view_start_of_ne {op : Op} (different : op.conn ≠ conn) :
    (state.start op).view conn = state.view conn := by
  rw [view, outstanding_start, if_neg different, List.append_nil]
  rfl

theorem view_start (kind : OpKind) (status : OpStatus) :
    (state.start ⟨conn, kind, status⟩).view conn =
      { state.view conn with ops := (state.view conn).ops ++ [(kind, status)] } := by
  rw [view, outstanding_start, if_pos rfl, List.map_append]
  rfl

/-- The outcome of `abort` for an operation that is selected or not. -/
def aborted (selected : Bool) (op : OpKind × OpStatus) : OpKind × OpStatus :=
  if selected ∧ op.2 = .pending then (op.1, .queued (.failed "Operation canceled" [])) else op

theorem outstanding_abort (selected : Op → Bool) :
    ((state.abort selected).outstanding conn).map (fun op => (op.kind, op.status)) =
      (state.outstanding conn).map fun op => aborted (selected op) (op.kind, op.status) := by
  unfold outstanding State.abort
  simp only
  generalize state.ops = ops
  induction ops with
  | nil => rfl
  | cons op ops ih =>
      rw [List.map_cons, List.filter_cons, List.filter_cons]
      by_cases hit : selected op = true ∧ op.status = .pending
      · by_cases same : op.conn = conn
        · simp only [if_pos hit, same, decide_true, if_true, List.map_cons, ih, aborted]
        · simp only [if_pos hit, same, decide_false, Bool.false_eq_true, if_false, ih]
      · by_cases same : op.conn = conn
        · simp only [if_neg hit, same, decide_true, if_true, List.map_cons, ih, aborted]
        · simp only [if_neg hit, same, decide_false, Bool.false_eq_true, if_false, ih]

/-- Operations are selected by their connection and their kind. -/
theorem view_abort (selected : Op → Bool) (picks : OpKind → Bool)
    (picked : ∀ op, op.conn = conn → selected op = picks op.kind) :
    (state.abort selected).view conn =
      { state.view conn with
        ops := (state.view conn).ops.map fun op => aborted (picks op.1) op } := by
  have ops : ((state.abort selected).outstanding conn).map (fun op => (op.kind, op.status)) =
      ((state.outstanding conn).map fun op => (op.kind, op.status)).map
        fun op => aborted (picks op.1) op := by
    rw [outstanding_abort, List.map_map]
    apply List.map_congr_left
    intro op member
    have same : op.conn = conn := of_decide_eq_true (List.mem_filter.mp member).2
    rw [picked op same]
    rfl
  simp only [view, ops]
  rfl

theorem view_abort_of_none (selected : Op → Bool)
    (spared : ∀ op, op.conn = conn → selected op = false) :
    (state.abort selected).view conn = state.view conn := by
  rw [view_abort selected (fun _ => false) spared]
  have same : (fun op : OpKind × OpStatus => aborted false op) = id := by
    funext op
    simp only [aborted, Bool.false_eq_true, false_and, if_false, id_eq]
  rw [same, List.map_id]

theorem view_erase_of_ne {op : Op} (different : op.conn ≠ conn) :
    view conn { state with ops := state.ops.erase op } = state.view conn := by
  have kept : (state.ops.erase op).filter (fun old => decide (old.conn = conn)) =
      state.ops.filter fun old => decide (old.conn = conn) := by
    rw [← List.erase_filter]
    apply List.erase_of_not_mem
    intro member
    exact different (of_decide_eq_true (List.mem_filter.mp member).2)
  simp only [view, outstanding, kept]

theorem view_erase {op : Op} (seated : state.Seated) (member : op ∈ state.ops) :
    view op.conn { state with ops := state.ops.erase op } =
      { state.view op.conn with ops := [] } := by
  have none : (state.ops.erase op).filter (fun old => decide (old.conn = op.conn)) = [] := by
    apply List.filter_eq_nil_iff.mpr
    intro old left same
    exact seated.free member old left (of_decide_eq_true same)
  simp only [view, outstanding, none, List.map_nil]

theorem view_startAccept (created : Created conn state) :
    state.startAccept.view conn = state.view conn := by
  have different : conn ≠ state.nextConn := Nat.ne_of_lt created
  have mapped : (conn, conn) ∈ state.startAccept.conns.entries ↔
      (conn, conn) ∈ state.conns.entries := by
    constructor
    · intro member
      rcases OrderedMap.mem_of_mem_insert member with same | old
      · cases same
        exact absurd rfl different
      · exact old
    · exact OrderedMap.mem_insert_of_mem
  have ops : state.startAccept.outstanding conn = state.outstanding conn := by
    have started : state.startAccept.outstanding conn = _ :=
      outstanding_start ⟨state.nextConn, .accept, .pending⟩
    rw [if_neg different.symm, List.append_nil] at started
    exact started
  have record : state.startAccept.connections conn = state.connections conn := by
    have modified : state.startAccept.connections conn = _ :=
      connections_modifyConn conn fun _ => {}
    rw [if_neg different] at modified
    exact modified
  simp only [view, ops, record, mapped]
  rfl

theorem view_destroy_of_ne (different : conn ≠ other) :
    (state.destroy other).view conn = state.view conn := by
  have closed : ∀ state : State,
      ((state.abort fun op => op.conn = other && op.kind ≠ .accept).modifyConn other fun record =>
        { record with isOpen := false }).view conn = state.view conn := by
    intro state
    rw [view_modifyConn_of_ne different]
    apply view_abort_of_none
    intro op same
    simp only [same, different, decide_false, Bool.false_and]
  unfold State.destroy
  simp only
  split
  · rw [closed]
    have mapped : (conn, conn) ∈ (state.conns.erase other).entries ↔
        (conn, conn) ∈ state.conns.entries := by
      rw [OrderedMap.mem_erase_iff]
      exact and_iff_left different
    simp only [view, mapped]
    rfl
  · exact closed state

theorem view_destroy :
    (state.destroy conn).view conn =
      { record := { state.connections conn with isOpen := false }
        ops := (state.view conn).ops.map fun op => aborted (decide (op.1 ≠ .accept)) op
        mapped := (state.view conn).mapped && !(state.connections conn).server
        alive := state.alive } := by
  have closed : ∀ state : State,
      ((state.abort fun op => op.conn = conn && op.kind ≠ .accept).modifyConn conn fun record =>
        { record with isOpen := false }).view conn =
      { state.view conn with
        record := { state.connections conn with isOpen := false }
        ops := (state.view conn).ops.map fun op => aborted (decide (op.1 ≠ .accept)) op } := by
    intro state
    rw [view_modifyConn, view_abort _ fun kind => decide (kind ≠ .accept)]
    · rfl
    · intro op same
      simp only [same, decide_true, Bool.true_and]
  unfold State.destroy
  simp only
  split
  · next server =>
      have mapped : ¬ (conn, conn) ∈ (state.conns.erase conn).entries := by
        rw [OrderedMap.mem_erase_iff]
        exact fun entry => entry.2 rfl
      have unmapped : ((state.view conn).mapped && !(state.connections conn).server) = false := by
        rw [server, Bool.not_true, Bool.and_false]
      rw [closed, unmapped]
      simp only [view, mapped, decide_false]
      rfl
  · next lost =>
      have kept : ((state.view conn).mapped && !(state.connections conn).server) =
          (state.view conn).mapped := by
        rw [Bool.not_eq_true] at lost
        rw [lost, Bool.not_false, Bool.and_true]
      rw [closed, kept]
      rfl

/-- How a handler ends depends on its connection only. -/
theorem Ended.agree {peer : ConnRef} {reference after : State} {record : RpcServerConnection}
    {result : Except Fault Operation} (first : Ended conn record state result next)
    (second : Ended peer record reference result after)
    (same : state.view conn = reference.view peer) : next.view conn = after.view peer := by
  have modified : (state.modifyConn conn fun _ => record).view conn =
      (reference.modifyConn peer fun _ => record).view peer := by
    rw [view_modifyConn, view_modifyConn, same]
  cases first with
  | started operation =>
      cases second
      rw [view_start, view_start, modified]
  | destroyed mild memory =>
      cases second with
      | destroyed =>
          have ops := congrArg View.ops modified
          have mapped := congrArg View.mapped modified
          have alive := congrArg View.alive modified
          have records := congrArg View.record modified
          rw [view_destroy, view_destroy, ops, mapped]
          simp only [view] at alive records
          rw [alive, records]
      | abandoned => exact absurd rfl memory
  | abandoned =>
      cases second with
      | destroyed mild memory => exact absurd rfl memory
      | abandoned => exact modified

theorem Ended.frame {record : RpcServerConnection} {result : Except Fault Operation}
    (different : conn ≠ other) (ended : Ended other record state result next) :
    next.view conn = state.view conn := by
  have modified : (state.modifyConn other fun _ => record).view conn = state.view conn :=
    view_modifyConn_of_ne different _
  cases ended with
  | started operation =>
      rw [view_start_of_ne (Ne.symm different)]
      exact modified
  | destroyed =>
      rw [view_destroy_of_ne different]
      exact modified
  | abandoned => exact modified

theorem nextConn_ended {record : RpcServerConnection} {result : Except Fault Operation}
    (ended : Ended other record state result next) : next.nextConn = state.nextConn := by
  cases ended with
  | started operation => rfl
  | destroyed =>
      unfold State.destroy
      simp only
      split
      · rfl
      · rfl
  | abandoned => rfl

/-- A completed accept opens the socket. -/
def opened (kind : OpKind) (completion : Completion) (record : RpcServerConnection) :
    RpcServerConnection :=
  match kind, completion with
  | .accept, .done _ => { record with isOpen := true }
  | _, _ => record

theorem ite_eq_some {condition : Prop} [Decidable condition]
    (completed : (if condition then some state else none) = some next) : next = state := by
  split at completed
  · exact (Option.some.inj completed).symm
  · cases completed

theorem view_complete {op : Op} {completion : Completion} (seated : state.Seated)
    (completed : state.complete op completion = some next) :
    next.view op.conn =
      { state.view op.conn with
        record := opened op.kind completion (state.connections op.conn)
        ops := [(op.kind, .queued completion)] } := by
  have queued : op ∈ state.ops →
      view op.conn { state with
        ops := state.ops.erase op ++ [{ op with status := .queued completion }] } =
      { state.view op.conn with ops := [(op.kind, .queued completion)] } := by
    intro member
    have erased := view_erase seated member
    let taken : State := { state with ops := state.ops.erase op }
    have started : view op.conn (taken.start ⟨op.conn, op.kind, .queued completion⟩) = _ :=
      view_start op.kind (.queued completion)
    rw [erased] at started
    exact started
  obtain ⟨conn, kind, status⟩ := op
  simp only [State.complete] at completed queued
  split at completed
  · next enabled =>
      have queued := queued enabled.1
      cases kind with
      | accept =>
          cases completion with
          | failed message bytes =>
              cases completed
              exact queued
          | done bytes =>
              cases completed
              rw [view_modifyConn, queued]
              rfl
      | readHeader =>
          cases completion with
          | failed message bytes =>
              cases completed
              exact queued
          | done bytes =>
              cases ite_eq_some completed
              exact queued
      | readPayload size =>
          cases completion with
          | failed message bytes =>
              cases completed
              exact queued
          | done bytes =>
              cases ite_eq_some completed
              exact queued
      | write packet =>
          cases completion with
          | failed message bytes =>
              cases completed
              exact queued
          | done bytes =>
              cases ite_eq_some completed
              exact queued
  · cases completed

theorem view_complete_of_ne {op : Op} {completion : Completion} (different : op.conn ≠ conn)
    (completed : state.complete op completion = some next) :
    next.view conn = state.view conn := by
  obtain ⟨member, -, -, change, -, rfl⟩ := complete_eq_some completed
  let taken : State := { state with ops := state.ops.erase op }
  let queued : Op := { op with status := .queued completion }
  have started : (taken.start queued).view conn = taken.view conn := view_start_of_ne different
  rw [view_modifyConn_of_ne (Ne.symm different)]
  exact started.trans (view_erase_of_ne different)

theorem keyed_destroy (keyed : state.OwnKeys) : (state.destroy conn).OwnKeys := by
  unfold State.destroy
  simp only
  split
  · intro entry member
    exact keyed entry (OrderedMap.mem_erase_iff.mp member).1
  · exact keyed

theorem keyed_startAccept (keyed : state.OwnKeys) : state.startAccept.OwnKeys := by
  intro entry member
  rcases OrderedMap.mem_of_mem_insert member with rfl | old
  · rfl
  · exact keyed entry old

theorem keyed_ended {record : RpcServerConnection} {result : Except Fault Operation}
    (ended : Ended conn record state result next) (keyed : state.OwnKeys) : next.OwnKeys := by
  cases ended with
  | started operation => exact keyed
  | destroyed =>
      apply keyed_destroy
      exact keyed
  | abandoned => exact keyed

/-- The loop of `~CarrotAsyncServer` for one connection. -/
theorem connections_foldl (entries : List (Nat × ConnRef)) (state : State) :
    (entries.foldl (fun state entry =>
        state.modifyConn entry.2 fun record => { record with server := false })
      state).connections conn =
      if conn ∈ entries.map Prod.snd then { state.connections conn with server := false }
      else state.connections conn := by
  induction entries generalizing state with
  | nil => rfl
  | cons entry entries ih =>
      rw [List.foldl_cons, ih, connections_modifyConn]
      simp only [List.map_cons, List.mem_cons]
      by_cases same : conn = entry.2
      · subst same
        simp only [if_true, true_or, ite_self]
      · simp only [same, false_or, if_false]

theorem mapped_iff (keyed : state.OwnKeys) :
    conn ∈ state.conns.entries.map Prod.snd ↔ (state.view conn).mapped = true := by
  simp only [view, decide_eq_true_eq]
  constructor
  · intro member
    obtain ⟨entry, found, rfl⟩ := List.mem_map.mp member
    have same := keyed entry found
    obtain ⟨key, value⟩ := entry
    cases same
    exact found
  · exact List.mem_map_of_mem (f := Prod.snd)

theorem view_destroyServer (keyed : state.OwnKeys) (destroyed : state.destroyServer = some next) :
    next.view conn =
      { record := if (state.view conn).mapped then { state.connections conn with server := false }
          else state.connections conn
        ops := (state.view conn).ops.map fun op => aborted (decide (op.1 = .accept)) op
        mapped := false
        alive := false } := by
  have record : ((state.conns.entries.foldl _ state).connections conn) = _ :=
    connections_foldl state.conns.entries state
  obtain ⟨connections, -, folded⟩ := foldl_frame state.conns.entries state
  simp only [mapped_iff keyed] at record
  simp only [State.destroyServer] at destroyed
  split at destroyed
  · cases destroyed
    rw [folded] at record ⊢
    let released : State := { state with connections }
    have stopped : (released.abort fun op => op.kind = .accept).view conn = _ :=
      view_abort (fun op => op.kind = .accept) (fun kind => kind = .accept) fun _ _ => rfl
    rw [← record]
    exact congrArg (fun stopped : View => { stopped with mapped := false, alive := false }) stopped
  · cases destroyed

end Frames

section Handlers

variable {Msg : Type} [Protobuf] {services : Services Msg} {state next : State}

/-- The connection of a handler that is invoked: an accept that failed leaves it alone,
and otherwise it depends on how the handler ends. -/
theorem Invoked.ends {op : Op} {completion : Completion} {input : Input Msg}
    (invoked : Invoked services op completion input state next)
    (created : Created op.conn state) :
    ((op.kind = .accept ∧ ∀ bytes, completion ≠ .done bytes) ∧
        next.view op.conn = state.view op.conn) ∨
      ¬ (op.kind = .accept ∧ ∀ bytes, completion ≠ .done bytes) ∧
        ∃ used middle, Ended op.conn (ran services op completion input state).1
          (state.useServer used) (ran services op completion input state).2 middle ∧
        next.view op.conn = middle.view op.conn := by
  cases invoked with
  | refused accept failed =>
      left
      refine ⟨⟨accept, ?_⟩, view_startAccept created⟩
      intro bytes same
      cases failed.symm.trans same
  | @accepted bytes record operation middle accept done ran ended =>
      right
      subst done
      refine ⟨fun refused => refused.2 bytes rfl, true, middle, ?_, view_startAccept ?_⟩
      · simp only [State.ran, accept, body, ran]
        exact ended
      · rw [Created, nextConn_ended ended]
        exact created
  | @unserved bytes record fault _ accept done ran ended =>
      right
      subst done
      refine ⟨fun refused => refused.2 bytes rfl, true, next, ?_, rfl⟩
      simp only [State.ran, accept, body, ran]
      exact ended
  | failed other failed ran ended =>
      right
      subst failed
      refine ⟨fun refused => other refused.1, false, next, ?_, rfl⟩
      simp only [State.ran, ran, useServer_false]
      exact ended
  | @done bytes record result used _ other done looks ran ended =>
      right
      subst done
      refine ⟨fun refused => other refused.1, used, next, ?_, rfl⟩
      simp only [State.ran, ran]
      exact ended

theorem keyed_invoked {op : Op} {completion : Completion} {input : Input Msg}
    (invoked : Invoked services op completion input state next) (keyed : state.OwnKeys) :
    next.OwnKeys := by
  cases invoked with
  | refused =>
      apply keyed_startAccept
      exact keyed
  | accepted accept done ran ended =>
      apply keyed_startAccept
      exact keyed_ended ended keyed
  | unserved accept done ran ended => exact keyed_ended ended keyed
  | failed other failed ran ended => exact keyed_ended ended keyed
  | done other done looks ran ended => exact keyed_ended ended keyed

theorem keyed_reachable (reached : (asyncServer services).Reachable state) : state.OwnKeys := by
  apply TransitionSystem.ReachableVia.invariant _ _ _ reached
  · apply keyed_startAccept
    intro entry member
    cases member
  · intro state label next keyed _ stepped
    cases label with
    | complete op completion =>
        obtain ⟨-, -, -, change, -, rfl⟩ := complete_eq_some stepped
        exact keyed
    | handle op input =>
        obtain ⟨completion, -, -, invoked⟩ := handle_eq_some stepped
        exact keyed_invoked invoked keyed
    | destroyServer =>
        simp only [asyncServer, State.step, State.destroyServer] at stepped
        split at stepped
        · cases stepped
          intro entry member
          cases member
        · cases stepped

theorem Created.invoked {conn : ConnRef} {op : Op} {completion : Completion} {input : Input Msg}
    (created : Created conn state)
    (invoked : Invoked services op completion input state next) : Created conn next := by
  have kept : ∀ {other : ConnRef} {record : RpcServerConnection}
      {result : Except Fault Operation} {before after : State},
      Ended other record before result after → before.nextConn = state.nextConn →
      Created conn after := by
    intro other record result before after ended same
    rw [Created, nextConn_ended ended, same]
    exact created
  cases invoked with
  | refused => exact Nat.lt_succ_of_lt created
  | accepted accept done ran ended => exact Nat.lt_succ_of_lt (kept ended rfl)
  | unserved accept done ran ended => exact kept ended rfl
  | failed other failed ran ended => exact kept ended rfl
  | done other done looks ran ended => exact kept ended rfl

theorem view_invoked_of_ne {conn : ConnRef} {op : Op} {completion : Completion}
    {input : Input Msg} (created : Created conn state) (different : op.conn ≠ conn)
    (invoked : Invoked services op completion input state next) :
    next.view conn = state.view conn := by
  cases invoked with
  | refused =>
      have kept : (state.useServer true).startAccept.view conn = (state.useServer true).view conn :=
        view_startAccept created
      exact kept
  | @accepted bytes record operation middle accept done ran ended =>
      have kept : Created conn middle := by
        rw [Created, nextConn_ended ended]
        exact created
      rw [view_startAccept kept]
      have framed := ended.frame different.symm
      exact framed
  | unserved accept done ran ended =>
      have framed := ended.frame different.symm
      exact framed
  | failed other failed ran ended => exact ended.frame different.symm
  | done other done looks ran ended =>
      have framed := ended.frame different.symm
      exact framed

/-- What is done for others leaves a connection alone. -/
theorem local_projection (conn : ConnRef) :
    (projection conn).Local (asyncServer services) (Created conn) where
  stays := by
    intro state label next reached created stepped
    cases label with
    | complete op completion =>
        obtain ⟨-, -, -, change, -, rfl⟩ := complete_eq_some stepped
        exact created
    | handle op input =>
        obtain ⟨completion, -, -, invoked⟩ := handle_eq_some stepped
        have known : Created conn { state with ops := state.ops.erase op } := created
        exact known.invoked invoked
    | destroyServer =>
        obtain ⟨connections, -, folded⟩ := foldl_frame state.conns.entries state
        simp only [asyncServer, State.step, State.destroyServer, folded] at stepped
        split at stepped
        · cases stepped
          exact created
        · cases stepped
  frame := by
    intro state label next reached created foreign stepped
    cases label with
    | complete op completion =>
        have different : op.conn ≠ conn := by
          intro same
          simp only [projection, Label.event, if_pos same] at foreign
          cases foreign
        exact view_complete_of_ne different stepped
    | handle op input =>
        have different : op.conn ≠ conn := by
          intro same
          simp only [projection, Label.event, if_pos same] at foreign
          cases foreign
        obtain ⟨completion, -, -, invoked⟩ := handle_eq_some stepped
        have known : Created conn { state with ops := state.ops.erase op } := created
        have kept := view_invoked_of_ne known different invoked
        exact kept.trans (view_erase_of_ne different)
    | destroyServer => cases foreign

theorem view_handle_agree {conn peer : ConnRef} {reference after : State} {kind : OpKind}
    {status : OpStatus} {input : Input Msg} (seated : state.Seated) (other : reference.Seated)
    (same : state.view conn = reference.view peer)
    (handled : state.handle services ⟨conn, kind, status⟩ input = some next)
    (mirrored : reference.handle services ⟨peer, kind, status⟩ input = some after) :
    next.view conn = after.view peer := by
  obtain ⟨completion, queued, member, invoked⟩ := handle_eq_some handled
  obtain ⟨again, requeued, found, mirroring⟩ := handle_eq_some mirrored
  cases queued.symm.trans requeued
  have erased := (view_erase seated member).trans
    ((congrArg (fun view : View => { view with ops := [] }) same).trans
      (view_erase other found).symm)
  have record := congrArg View.record same
  simp only [view] at record
  have equal : ran services ⟨conn, kind, status⟩ completion input
        { state with ops := state.ops.erase ⟨conn, kind, status⟩ } =
      ran services ⟨peer, kind, status⟩ completion input
        { reference with ops := reference.ops.erase ⟨peer, kind, status⟩ } := by
    simp only [ran, record]
  rcases invoked.ends (seated.bounded _ member) with ⟨refused, kept⟩ | ⟨served, used, middle, ended, kept⟩
  · rcases mirroring.ends (other.bounded _ found) with ⟨-, stayed⟩ | ⟨served, -⟩
    · exact kept.trans (erased.trans stayed.symm)
    · exact absurd refused served
  · rcases mirroring.ends (other.bounded _ found) with ⟨refused, -⟩ | ⟨-, reused, last, closed, stayed⟩
    · exact absurd refused served
    · rw [← equal] at closed
      exact kept.trans ((ended.agree closed erased).trans stayed.symm)

/-- One event does the same to two connections with the same view. -/
theorem agree_projection (conn peer : ConnRef) :
    Projection.Agree (asyncServer services) (projection conn) (projection peer) (Created conn)
      (Created peer) := by
  intro state reference label move event next after reached mirrored _ _ same happens told stepped
    moved
  have labelled := event_eq_some happens
  have moving := event_eq_some told
  have record : state.connections conn = reference.connections peer := congrArg View.record same
  cases event with
  | complete kind status completion =>
      simp only at labelled moving
      subst labelled moving
      have first := view_complete (seated_reachable reached) stepped
      have second := view_complete (seated_reachable mirrored) moved
      simp only at first second
      simp only [projection] at same ⊢
      rw [first, second, same, record]
  | handle kind status input =>
      simp only at labelled moving
      subst labelled moving
      exact view_handle_agree (seated_reachable reached) (seated_reachable mirrored) same stepped
        moved
  | destroyServer =>
      simp only at labelled moving
      subst labelled moving
      have first : next.view conn = _ := view_destroyServer (keyed_reachable reached) stepped
      have second : after.view peer = _ := view_destroyServer (keyed_reachable mirrored) moved
      simp only [projection] at same ⊢
      rw [first, second, same, record]

/-- In two runs with two clients for whom the same completions arrive, the same handlers
run and the server is destroyed at the same point, the connections end the same, whatever
the other clients do. -/
theorem clients_isolated {conn peer : ConnRef} {state reference final last : State}
    {labels moves : List (Label Msg)} (reached : (asyncServer services).Reachable state)
    (mirrored : (asyncServer services).Reachable reference) (created : Created conn state)
    (present : Created peer reference) (same : state.view conn = reference.view peer)
    (ran : (asyncServer services).run labels state = some final)
    (moved : (asyncServer services).run moves reference = some last)
    (history : labels.filterMap (Label.event conn) = moves.filterMap (Label.event peer)) :
    final.view conn = last.view peer :=
  Projection.views_of_history (local_projection conn) (local_projection peer)
    (agree_projection conn peer) reached mirrored created present same ran moved history

end Handlers

/-- A second client connects while the first one is served, and sends the same request. -/
def sampleSecond : List (Label (List UInt8)) :=
  let header := samplePacket.take sizeofPacket
  [.complete ⟨1, .accept, .pending⟩ (.done []),
    .complete ⟨0, .readHeader, .pending⟩ (.failed "End of file" []),
    .handle ⟨1, .accept, .queued (.done [])⟩ sampleInput,
    .handle ⟨0, .readHeader, .queued (.failed "End of file" [])⟩ sampleInput,
    .complete ⟨1, .readHeader, .pending⟩ (.done header),
    .handle ⟨1, .readHeader, .queued (.done header)⟩ sampleInput,
    .complete ⟨1, .readPayload 14, .pending⟩ (.done samplePayload),
    .handle ⟨1, .readPayload 14, .queued (.done samplePayload)⟩ sampleInput]

/-- The second client is answered as the first one would have been, although the
connection of the first one is destroyed meanwhile. -/
theorem clients_isolated_second :
    ∃ first second : State, (asyncServer sampleServices).Reachable first ∧
      (asyncServer sampleServices).Reachable second ∧ (0, 0) ∈ first.conns.entries ∧
      (0, 0) ∉ second.conns.entries ∧ first.view 0 = second.view 1 := by
  have began : ((asyncServer sampleServices).run (sampleRequest.take 2)
      (asyncServer sampleServices).initial).map (view 1) =
        some ((asyncServer sampleServices).initial.view 0) := by
    rfl
  have alone : ((asyncServer sampleServices).run sampleRequest
      (asyncServer sampleServices).initial).map
      (fun state => decide ((0, 0) ∈ state.conns.entries)) = some true := by
    decide
  have together : (((asyncServer sampleServices).run (sampleRequest.take 2)
      (asyncServer sampleServices).initial).bind
        ((asyncServer sampleServices).run sampleSecond)).map
      (fun state => decide ((0, 0) ∉ state.conns.entries)) = some true := by
    decide
  obtain ⟨reference, reached, same⟩ := Option.map_eq_some_iff.mp began
  obtain ⟨first, ran, listed⟩ := Option.map_eq_some_iff.mp alone
  rw [reached, Option.bind_some] at together
  obtain ⟨second, moved, erased⟩ := Option.map_eq_some_iff.mp together
  have mirrored : (asyncServer sampleServices).Reachable reference :=
    .append _ (fun _ _ _ => id) .initial reached
  have present : Created 1 reference := by
    have counted : ((asyncServer sampleServices).run (sampleRequest.take 2)
        (asyncServer sampleServices).initial).map
        (fun state => decide (Created 1 state)) = some true := by
      decide
    rw [reached] at counted
    exact of_decide_eq_true (Option.some.inj counted)
  have created : Created 0 (asyncServer sampleServices).initial := Nat.zero_lt_one
  exact ⟨first, second, .append _ (fun _ _ _ => id) .initial ran,
    .append _ (fun _ _ _ => id) mirrored moved, of_decide_eq_true listed, of_decide_eq_true erased,
    clients_isolated .initial mirrored created present same.symm ran moved
      rfl⟩

end State

end CarrotRpc.Server.Async
