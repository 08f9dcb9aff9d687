import Mathlib.Data.List.Basic
import CarrotRpc.Client.Forgetting

/-! Calls go to their own endpoint. A connection is found under its host and service
joined by `':'`, which tells two endpoints apart as long as no service has a `':'`. -/

set_option autoImplicit false

namespace CarrotRpc.Client

open Library Common Protob

variable {Msg : Type}

/-- The service is a port or a service name. Hosts are arbitrary. -/
def Call.PlainService (call : Call Msg) : Prop :=
  ':' ∉ call.controller.service.toList

instance (call : Call Msg) : Decidable call.PlainService :=
  inferInstanceAs (Decidable (':' ∉ call.controller.service.toList))

/-- So is that of every call the closure makes. -/
def Closure.PlainServices : Closure Msg → Prop
  | .returns | .throws _ => True
  | .callMethod call done next => call.PlainService ∧ done.PlainServices ∧ next.PlainServices

instance Closure.decidablePlainServices :
    (done : Closure Msg) → Decidable done.PlainServices
  | .returns | .throws _ => .isTrue trivial
  | .callMethod call done next =>
      have := decidablePlainServices done
      have := decidablePlainServices next
      inferInstanceAs (Decidable (call.PlainService ∧ done.PlainServices ∧ next.PlainServices))

/-- Every call of the application is to a port or a service name. -/
def PlainServices (_ : State Msg) : Label Msg → Prop
  | .callMethod call done => call.PlainService ∧ done.PlainServices
  | .complete _ _ | .writeSome _ _ | .handle _ _ => True

instance (state : State Msg) (label : Label Msg) : Decidable (PlainServices state label) :=
  match label with
  | .callMethod call done =>
      inferInstanceAs (Decidable (call.PlainService ∧ done.PlainServices))
  | .complete _ _ | .writeSome _ _ | .handle _ _ => .isTrue trivial

/-- Where the caller wants a call to go. -/
def Call.endpoint (call : Call Msg) : String × String :=
  (call.controller.host, call.controller.service)

def RpcClientConnection.endpoint (connection : RpcClientConnection) : String × String :=
  (connection.host, connection.service)

/-- Every entry of the map has the key of its connection, and every call is issued on
a connection to its own endpoint. -/
structure Routed (state : State Msg) : Prop where
  keyed : ∀ entry ∈ state.conns.entries,
    entry.2 < state.nextConn ∧ entry.1 = (state.connections entry.2).key
  plain : ∀ conn < state.nextConn, ':' ∉ (state.connections conn).service.toList
  known : ∀ task < state.nextTask, (state.tasks task).conn < state.nextConn
  issued : ∀ task < state.nextTask,
    (state.connections (state.tasks task).conn).endpoint = (state.tasks task).call.endpoint
  dones : ∀ task, (state.tasks task).done.PlainServices

section Keys

/-- The last separator splits the key, so hosts may have separators of their own. -/
theorem append_cons_inj_of_not_mem_right {Item : Type} {separator : Item}
    {left left' right right' : List Item} (plain : separator ∉ right)
    (plain' : separator ∉ right')
    (same : left ++ separator :: right = left' ++ separator :: right') :
    left = left' ∧ right = right' := by
  rcases List.append_eq_append_iff.mp same with ⟨rest, longer, split⟩ | ⟨rest, longer, split⟩
  · cases rest with
    | nil => simp_all
    | cons first rest =>
        have inside := (List.cons.inj split).2
        exact absurd (inside ▸ by simp) plain
  · cases rest with
    | nil => simp_all
    | cons first rest =>
        have inside := (List.cons.inj split).2
        exact absurd (inside ▸ by simp) plain'

theorem key_inj {host host' service service' : String} (plain : ':' ∉ service.toList)
    (plain' : ':' ∉ service'.toList)
    (same : host ++ ":" ++ service = host' ++ ":" ++ service') :
    host = host' ∧ service = service' := by
  have lists : host.toList ++ ':' :: service.toList = host'.toList ++ ':' :: service'.toList := by
    simpa using congrArg String.toList same
  obtain ⟨hosts, services⟩ := append_cons_inj_of_not_mem_right plain plain' lists
  exact ⟨String.toList_injective hosts, String.toList_injective services⟩

end Keys

/-- Nothing that routing depends on differs. -/
structure SameRoutes (before after : State Msg) : Prop where
  conns : after.conns = before.conns
  nextConn : after.nextConn = before.nextConn
  nextTask : after.nextTask = before.nextTask
  host : ∀ conn, (after.connections conn).host = (before.connections conn).host
  service : ∀ conn, (after.connections conn).service = (before.connections conn).service
  conn : ∀ task, (after.tasks task).conn = (before.tasks task).conn
  call : ∀ task, (after.tasks task).call = (before.tasks task).call
  done : ∀ task, (after.tasks task).done = (before.tasks task).done

namespace SameRoutes

variable {before after state : State Msg}

theorem trans {middle : State Msg} (first : SameRoutes before middle)
    (second : SameRoutes middle after) : SameRoutes before after where
  conns := second.conns.trans first.conns
  nextConn := second.nextConn.trans first.nextConn
  nextTask := second.nextTask.trans first.nextTask
  host := fun conn => (second.host conn).trans (first.host conn)
  service := fun conn => (second.service conn).trans (first.service conn)
  conn := fun task => (second.conn task).trans (first.conn task)
  call := fun task => (second.call task).trans (first.call task)
  done := fun task => (second.done task).trans (first.done task)

theorem endpoint (same : SameRoutes before after) (conn : ConnRef) :
    (after.connections conn).endpoint = (before.connections conn).endpoint :=
  Prod.ext (same.host conn) (same.service conn)

theorem key (same : SameRoutes before after) (conn : ConnRef) :
    (after.connections conn).key = (before.connections conn).key := by
  simp only [RpcClientConnection.key, same.host, same.service]

theorem routed (same : SameRoutes before after) (routed : Routed before) : Routed after where
  keyed := by
    intro entry member
    rw [same.conns] at member
    obtain ⟨known, key⟩ := routed.keyed entry member
    exact ⟨same.nextConn.symm ▸ known, key.trans (same.key entry.2).symm⟩
  plain := by
    intro conn known
    rw [same.service]
    exact routed.plain conn (same.nextConn ▸ known)
  known := by
    intro task bound
    rw [same.conn, same.nextConn]
    exact routed.known task (same.nextTask ▸ bound)
  issued := by
    intro task bound
    rw [same.conn, same.endpoint, same.call]
    exact routed.issued task (same.nextTask ▸ bound)
  dones := by
    intro task
    rw [same.done]
    exact routed.dones task

theorem modifyTask {task : TaskRef} {change : CallTask Msg → CallTask Msg}
    (conn : (change (state.tasks task)).conn = (state.tasks task).conn)
    (call : (change (state.tasks task)).call = (state.tasks task).call)
    (done : (change (state.tasks task)).done = (state.tasks task).done) :
    SameRoutes state (state.modifyTask task change) := by
  have fields : ∀ {Field : Type} (field : CallTask Msg → Field),
      field (change (state.tasks task)) = field (state.tasks task) →
      ∀ other, field ((state.modifyTask task change).tasks other) =
        field (state.tasks other) := by
    intro Field field kept other
    rw [State.tasks_modifyTask]
    split
    · next same => rw [same, kept]
    · rfl
  exact ⟨rfl, rfl, rfl, fun _ => rfl, fun _ => rfl, fields _ conn, fields _ call, fields _ done⟩

theorem modifyConn {conn : ConnRef} {change : RpcClientConnection → RpcClientConnection}
    (host : (change (state.connections conn)).host = (state.connections conn).host)
    (service : (change (state.connections conn)).service = (state.connections conn).service) :
    SameRoutes state (state.modifyConn conn change) := by
  have fields : ∀ {Field : Type} (field : RpcClientConnection → Field),
      field (change (state.connections conn)) = field (state.connections conn) →
      ∀ other, field ((state.modifyConn conn change).connections other) =
        field (state.connections other) := by
    intro Field field kept other
    rw [State.connections_modifyConn]
    split
    · next same => rw [same, kept]
    · rfl
  exact ⟨rfl, rfl, rfl, fields _ host, fields _ service, fun _ => rfl, fun _ => rfl, fun _ => rfl⟩

theorem withOps (ops : List Op) (stuck : Bool) :
    SameRoutes state { state with ops := ops, stuck := stuck } :=
  ⟨rfl, rfl, rfl, fun _ => rfl, fun _ => rfl, fun _ => rfl, fun _ => rfl, fun _ => rfl⟩

theorem closeSocket {conn : ConnRef} : SameRoutes state (state.closeSocket conn) := by
  unfold State.closeSocket
  exact (withOps _ state.stuck).trans (modifyConn rfl rfl)

theorem borrow {task : TaskRef} : SameRoutes state (state.borrow task) :=
  modifyTask rfl rfl rfl

theorem setFailed {task : TaskRef} {reason : String} {code : ErrorCode} :
    SameRoutes state (state.setFailed task reason code) :=
  borrow.trans (modifyTask rfl rfl rfl)

theorem setupTaskTimer {task : TaskRef} : SameRoutes state (state.setupTaskTimer task) := by
  unfold State.setupTaskTimer
  simp only
  split
  · exact borrow.trans (withOps _ _)
  · exact borrow

theorem asyncConnect {conn : ConnRef} {task : TaskRef} :
    SameRoutes state (state.asyncConnect conn task) := by
  have opened : SameRoutes (state.closeSocket conn) ((state.closeSocket conn).openSocket conn) :=
    modifyConn rfl rfl
  exact (closeSocket.trans opened).trans (withOps _ _)

end SameRoutes

theorem connections_openConnection_self (state : State Msg) (host service : String) :
    (state.openConnection host service).connections state.nextConn = { host, service } :=
  Function.update_self _ _ _

/-- Code that only makes calls to ports and service names keeps the routes. -/
def KeepsRoutes (body : State Msg → State Msg) : Prop :=
  ∀ state, Routed state → Routed (body state)

namespace Routed

variable {state : State Msg} {body : State Msg → State Msg} {task : TaskRef} {conn : ConnRef}

theorem runDone (routed : Routed state) (keeps : KeepsRoutes body) :
    Routed (state.runDone body task) := by
  unfold State.runDone
  have begun : Routed ((state.borrow task).modifyTask task fun record =>
      { record with runs := record.runs + 1 }) := by
    apply (SameRoutes.modifyTask rfl rfl rfl).routed
    exact SameRoutes.borrow.routed routed
  have ran := keeps _ begun
  apply (SameRoutes.modifyTask rfl rfl rfl).routed
  split
  · exact ran
  · exact SameRoutes.setFailed.routed ran

theorem finishTask (routed : Routed state) (keeps : KeepsRoutes body) :
    Routed (state.finishTask body task) := by
  have cancelled : Routed (state.cancelTimer task) := (SameRoutes.withOps _ _).routed routed
  unfold State.finishTask
  simp only
  split
  · exact cancelled
  · exact cancelled.runDone keeps

theorem startCall (routed : Routed state) (keeps : KeepsRoutes body) :
    Routed (state.startCall body task) := by
  have lent : Routed (state.borrow task) := SameRoutes.borrow.routed routed
  unfold State.startCall
  simp only
  split
  · exact (SameRoutes.withOps _ true).routed lent
  · next buf expanded grown =>
      have sized : Routed ((state.borrow task).modifyTask task fun record =>
          { record with buf := buf }) := (SameRoutes.modifyTask rfl rfl rfl).routed lent
      split
      · exact (SameRoutes.setFailed.routed sized).finishTask keeps
      split
      · exact (SameRoutes.setFailed.routed sized).finishTask keeps
      split
      · exact (SameRoutes.setFailed.routed sized).finishTask keeps
      · apply (SameRoutes.withOps _ _).routed
        apply (SameRoutes.modifyTask rfl rfl rfl).routed
        apply SameRoutes.setupTaskTimer.routed
        exact (SameRoutes.modifyConn rfl rfl).routed sized

theorem newTask (routed : Routed state) (call : Call Msg) (done : Closure Msg)
    (known : conn < state.nextConn)
    (target : (state.connections conn).endpoint = call.endpoint) (plain : done.PlainServices) :
    Routed (state.newTask conn call done) := by
  have counted : SameRoutes state (state.modifyConn conn fun connection =>
      { connection with id := (state.connections conn).id + 1 }) := SameRoutes.modifyConn rfl rfl
  have kept := counted.routed routed
  refine ⟨kept.keyed, kept.plain, ?_, ?_, ?_⟩
  · intro task bound
    by_cases new : task = state.nextTask
    · subst new
      rw [State.tasks_newTask_self]
      exact known
    · rw [State.tasks_newTask_of_ne new]
      exact kept.known task (Nat.lt_of_le_of_ne (Nat.lt_succ_iff.mp bound) new)
  · intro task bound
    by_cases new : task = state.nextTask
    · subst new
      rw [State.tasks_newTask_self]
      exact (counted.endpoint conn).trans target
    · rw [State.tasks_newTask_of_ne new]
      exact kept.issued task (Nat.lt_of_le_of_ne (Nat.lt_succ_iff.mp bound) new)
  · intro task
    by_cases new : task = state.nextTask
    · subst new
      rw [State.tasks_newTask_self]
      exact plain
    · rw [State.tasks_newTask_of_ne new]
      exact kept.dones task

theorem issue (routed : Routed state) (keeps : KeepsRoutes body) (call : Call Msg)
    (done : Closure Msg) (known : conn < state.nextConn)
    (target : (state.connections conn).endpoint = call.endpoint) (plain : done.PlainServices) :
    Routed (state.issue body conn call done) := by
  have added := routed.newTask call done known target plain
  unfold State.issue
  simp only
  split
  · apply SameRoutes.setupTaskTimer.routed
    apply (SameRoutes.modifyTask rfl rfl rfl).routed
    apply (SameRoutes.modifyConn rfl rfl).routed
    exact (SameRoutes.withOps _ _).routed added
  · exact added.startCall keeps

theorem openConnection (routed : Routed state) {host service : String}
    (fresh : state.conns.find? (host ++ ":" ++ service) = none)
    (plain : ':' ∉ service.toList) : Routed (state.openConnection host service) := by
  have older : ∀ conn < state.nextConn,
      (state.openConnection host service).connections conn = state.connections conn :=
    fun conn known => Function.update_of_ne (Nat.ne_of_lt known) _ _
  have newer := connections_openConnection_self state host service
  refine ⟨?_, ?_, ?_, ?_, routed.dones⟩
  · intro entry member
    rcases (OrderedMap.mem_insert_iff fresh).mp member with rfl | old
    · exact ⟨Nat.lt_succ_self _, congrArg RpcClientConnection.key newer.symm⟩
    · obtain ⟨known, key⟩ := routed.keyed entry old
      refine ⟨Nat.lt_succ_of_lt known, ?_⟩
      rw [older entry.2 known]
      exact key
  · intro conn known
    by_cases new : conn = state.nextConn
    · rw [new, newer]
      exact plain
    · have old := Nat.lt_of_le_of_ne (Nat.lt_succ_iff.mp known) new
      rw [older conn old]
      exact routed.plain conn old
  · intro task bound
    exact Nat.lt_succ_of_lt (routed.known task bound)
  · intro task bound
    have known := routed.known task bound
    have issued := routed.issued task bound
    rw [← older _ known] at issued
    exact issued

theorem callMethod (routed : Routed state) (keeps : KeepsRoutes body) (call : Call Msg)
    (done : Closure Msg) (service : call.PlainService) (plain : done.PlainServices) :
    Routed (state.callMethod body call done) := by
  unfold State.callMethod
  simp only
  split
  · next fresh =>
      apply (routed.openConnection fresh service).issue keeps call done
      · exact Nat.lt_succ_self _
      · rw [connections_openConnection_self]
        rfl
      · exact plain
  · next conn found =>
      obtain ⟨known, key⟩ := routed.keyed _ (OrderedMap.find?_eq_some_iff.mp found)
      obtain ⟨host, target⟩ := key_inj service (routed.plain conn known) key
      exact routed.issue keeps call done known (Prod.ext host.symm target.symm) plain

theorem run {done : Closure Msg} (plain : done.PlainServices) : KeepsRoutes done.run := by
  intro state routed
  induction done generalizing state with
  | returns => exact routed
  | throws what => exact routed
  | callMethod call done next inner outer =>
      obtain ⟨service, called, later⟩ := plain
      exact outer later _ (routed.callMethod (inner called) call done service called)

theorem failTask (routed : Routed state) (reason : String) (code : ErrorCode) (task : TaskRef) :
    Routed (state.failTask reason code task) := by
  unfold State.failTask
  split
  · exact routed
  · exact (SameRoutes.setFailed.routed routed).runDone (run (routed.dones task))

theorem destroy (routed : Routed state) (conn : ConnRef) (reason : SystemError) :
    Routed (state.destroy conn reason) := by
  have closed : Routed ((state.cancelResolver conn).closeSocket conn) :=
    SameRoutes.closeSocket.routed ((SameRoutes.withOps _ _).routed routed)
  unfold State.destroy
  apply (SameRoutes.modifyConn rfl rfl).routed
  apply List.foldlRecOn (motive := Routed) _ _ closed
  intro state routed entry _
  have cancelled : Routed (state.cancelTimer entry.2) := (SameRoutes.withOps _ _).routed routed
  exact cancelled.failTask _ _ _

theorem handleTimeout (routed : Routed state) (task : TaskRef) (error : Option SystemError) :
    Routed (state.handleTimeout task error) := by
  cases error with
  | some error => exact routed
  | none =>
      have erased : Routed (state.modifyConn (state.tasks task).conn fun connection =>
          { connection with
            outgoingTasks := connection.outgoingTasks.erase (state.tasks task).id }) :=
        (SameRoutes.modifyConn rfl rfl).routed routed
      have failed := erased.failTask ("rpc timed out at state " ++ (state.tasks task).state.str)
        .rpcTimeout task
      unfold State.handleTimeout
      simp only
      split
      · exact failed.destroy _ _
      · exact failed

theorem handleResolve (routed : Routed state) (conn : ConnRef) (task : TaskRef)
    (error : Option SystemError) : Routed (state.handleResolve conn task error).1 := by
  cases error with
  | none => exact SameRoutes.asyncConnect.routed routed
  | some error => exact (routed.failTask _ _ task).destroy conn error

theorem startRead (routed : Routed state) (heap : Realloc) (conn : ConnRef) :
    Routed (state.startRead heap conn).1 := by
  unfold State.startRead
  split
  · exact (SameRoutes.withOps _ true).routed routed
  · next buf expanded grown =>
      have sized : Routed (state.modifyConn conn fun connection =>
          { connection with buf := buf }) := (SameRoutes.modifyConn rfl rfl).routed routed
      simp only
      split
      · exact sized.destroy conn _
      · exact (SameRoutes.withOps _ _).routed sized

theorem handleConnect (routed : Routed state) (heap : Realloc) (conn : ConnRef)
    (task : TaskRef) (error : Option SystemError) :
    Routed (state.handleConnect heap conn task error).1 := by
  cases error with
  | none =>
      have connected : Routed (state.modifyConn conn fun connection =>
          { connection with connecting := false }) := (SameRoutes.modifyConn rfl rfl).routed routed
      exact (connected.startCall (run (connected.dones task))).startRead heap conn
  | some error => exact (routed.failTask _ _ task).destroy conn error

theorem handleReadHeader (routed : Routed state) (heap : Realloc) (conn : ConnRef)
    (header : Header) (error : Option SystemError) :
    Routed (state.handleReadHeader heap conn header error).1 := by
  cases error with
  | some error => exact routed.destroy conn error
  | none =>
      have noted : Routed (state.modifyConn conn fun connection =>
          { connection with header, n := header.rpcLen + header.reqLen + header.respLen }) :=
        (SameRoutes.modifyConn rfl rfl).routed routed
      unfold State.handleReadHeader
      simp only
      split
      · exact (SameRoutes.withOps _ true).routed noted
      · next buf expanded grown =>
          split
          · apply Routed.destroy
            exact (SameRoutes.modifyConn rfl rfl).routed noted
          · apply (SameRoutes.withOps _ _).routed
            exact (SameRoutes.modifyConn rfl rfl).routed noted

theorem applyStatus (routed : Routed state) (task : TaskRef) (rpcResp : Response) :
    Routed (state.applyStatus task rpcResp) := by
  unfold State.applyStatus
  split
  · exact SameRoutes.setFailed.routed routed
  · exact SameRoutes.setFailed.routed routed
  · exact SameRoutes.setFailed.routed routed
  · exact routed

theorem parseResponse (routed : Routed state) (task : TaskRef) (bytes : List UInt8) :
    Routed (state.parseResponse task bytes) := by
  have lent : Routed (state.borrow task) := SameRoutes.borrow.routed routed
  unfold State.parseResponse
  simp only
  split
  · exact (SameRoutes.modifyTask rfl rfl rfl).routed lent
  · exact SameRoutes.setFailed.routed lent

theorem receivePayload (routed : Routed state) (heap : Realloc) (conn : ConnRef)
    (data : List UInt8) : Routed (state.receivePayload heap conn data).1 := by
  unfold State.receivePayload
  simp only
  split
  · exact routed.destroy conn _
  · next rpcResp _ =>
      split
      · exact routed.startRead heap conn
      · next task _ =>
          have marked : Routed (state.modifyTask task fun record =>
              { record with state := .done }) := (SameRoutes.modifyTask rfl rfl rfl).routed routed
          have read := ((marked.applyStatus task rpcResp).parseResponse task
            ((data.drop (state.connections conn).header.rpcLen.toNat).take
              (state.connections conn).header.respLen.toNat)).startRead heap conn
          split
          · next started =>
              rw [started] at read
              exact read
          · next state started =>
              rw [started] at read
              have erased : Routed (state.modifyConn conn fun connection =>
                  { connection with
                    outgoingTasks := connection.outgoingTasks.erase rpcResp.getId }) :=
                (SameRoutes.modifyConn rfl rfl).routed read
              exact erased.finishTask (run (read.dones task))

theorem handleReadPayload (routed : Routed state) (heap : Realloc) (conn : ConnRef)
    (data : List UInt8) (transferred : Nat) (error : Option SystemError) :
    Routed (state.handleReadPayload heap conn data transferred error).1 := by
  cases error with
  | none => exact routed.receivePayload heap conn data
  | some error =>
      unfold State.handleReadPayload
      simp only
      split
      · exact routed.receivePayload heap conn data
      · exact routed.destroy conn error

theorem handleWrite (routed : Routed state) (conn : ConnRef) (task : TaskRef)
    (error : Option SystemError) : Routed (state.handleWrite conn task error).1 := by
  cases error with
  | none =>
      have marked : SameRoutes state (state.modifyTask task fun record =>
          { record with state := .readData }) := SameRoutes.modifyTask rfl rfl rfl
      exact marked.routed routed
  | some error => exact (routed.failTask _ _ task).destroy conn error

theorem invoke (routed : Routed state) (op : Op) (error : Option SystemError) (input : Input) :
    Routed (state.invoke op error input).1 := by
  obtain ⟨conn, kind, status⟩ := op
  cases kind with
  | resolve task => exact routed.handleResolve conn task error
  | connect task => exact routed.handleConnect input.heap conn task error
  | readHeader => exact routed.handleReadHeader input.heap conn input.header error
  | readPayload =>
      exact routed.handleReadPayload input.heap conn input.data input.transferred error
  | write task packet sent => exact routed.handleWrite conn task error
  | timer task => exact routed.handleTimeout task error

theorem step {next : State Msg} {label : Label Msg} (routed : Routed state)
    (plain : PlainServices state label) (stepped : state.step label = some next) :
    Routed next := by
  cases label with
  | callMethod call done =>
      obtain ⟨rfl, _⟩ := settle_eq_some stepped
      exact routed.callMethod (run plain.2) call done plain.1 plain.2
  | complete op error =>
      obtain ⟨_, _, change, changes, rfl⟩ := complete_eq_some stepped
      have replaced : Routed (state.replaceOp op { op with status := .queued error }) :=
        (SameRoutes.withOps _ _).routed routed
      apply SameRoutes.routed _ replaced
      rcases changes with rfl | ⟨_, _, rfl⟩
      · exact SameRoutes.modifyConn rfl rfl
      · exact SameRoutes.modifyConn rfl rfl
  | writeSome op count =>
      obtain ⟨task, packet, sent, _, _, _, _, _, _, rfl⟩ := writeSome_eq_some stepped
      apply (SameRoutes.modifyConn rfl rfl).routed
      exact (SameRoutes.withOps _ _).routed routed
  | handle op input =>
      obtain ⟨error, _, _, rfl, _⟩ := handle_eq_some stepped
      have taken : Routed (state.dequeue op) := (SameRoutes.withOps _ _).routed routed
      exact taken.invoke op error input

end Routed

section Runs

variable [Inhabited Msg] {state : State Msg}

theorem routed_reachable (reached : (channel Msg).ReachableVia PlainServices state) :
    Routed state := by
  apply reached.invariant (channel Msg)
  · exact
      { keyed := nofun
        plain := fun conn known => absurd known (Nat.not_lt_zero conn)
        known := fun task bound => absurd bound (Nat.not_lt_zero task)
        issued := fun task bound => absurd bound (Nat.not_lt_zero task)
        dones := fun _ => trivial }
  · intro state label next routed plain stepped
    exact routed.step plain stepped

/-- What a caller relies on: the map has the entries it should have, a call is issued on
a connection to its host and service, which are also the ones that are resolved for it,
and calls with different ones do not share a connection. -/
structure WellRouted (state : State Msg) : Prop where
  keyed : ∀ entry ∈ state.conns.entries,
    entry.2 < state.nextConn ∧ entry.1 = (state.connections entry.2).key
  issued : ∀ task < state.nextTask,
    (state.connections (state.tasks task).conn).endpoint = (state.tasks task).call.endpoint
  resolved : ∀ op ∈ state.ops, ∀ task, op.kind = .resolve task →
    task < state.nextTask ∧ (state.connections op.conn).endpoint = (state.tasks task).call.endpoint
  apart : ∀ task < state.nextTask, ∀ other < state.nextTask,
    (state.tasks task).call.endpoint ≠ (state.tasks other).call.endpoint →
    (state.tasks task).conn ≠ (state.tasks other).conn

/-- Calls go to their own endpoint and only there. -/
theorem calls_wellRouted (reached : (channel Msg).ReachableVia PlainServices state) :
    WellRouted state := by
  have routed := routed_reachable reached
  obtain ⟨base, _, _⟩ := kept_remembered.reachable (reached.reachable (channel Msg))
  refine ⟨routed.keyed, routed.issued, ?_, ?_⟩
  · intro op member task kind
    have binds : op.kind.role.task? = some task := by
      rw [kind]
      rfl
    obtain ⟨bound, mine⟩ := base.sound.op_task op.bare (List.mem_map_of_mem member) task binds
    refine ⟨bound, ?_⟩
    have issued := routed.issued task bound
    rw [show (state.tasks task).conn = op.conn from mine] at issued
    exact issued
  · intro task bound other otherBound different shared
    have issued := routed.issued task bound
    rw [shared, routed.issued other otherBound] at issued
    exact different issued.symm

end Runs

/-- A call to an endpoint. -/
def endpointCall (host service : String) : Call (List UInt8) :=
  { sampleCall timeoutNever [1] with controller := { host, service, timeout := timeoutNever } }

/-- Two calls to the loopback address, whose host has separators, and one to a host
that is like the end of it. -/
theorem calls_wellRouted_loopback :
    ∃ state : State (List UInt8), state.nextTask = 3 ∧ WellRouted state ∧
      (state.tasks 0).conn = (state.tasks 1).conn ∧
      (state.tasks 0).conn ≠ (state.tasks 2).conn := by
  have observed : ((channel (List UInt8)).runVia PlainServices
      [.callMethod (endpointCall "::1" "80") .returns,
        .callMethod (endpointCall "::1" "80") .returns,
        .callMethod (endpointCall ":1" "80") .returns]
      (channel (List UInt8)).initial).map
      (fun state => (state.nextTask, (state.tasks 0).conn, (state.tasks 1).conn,
        (state.tasks 2).conn)) = some (3, 0, 0, 1) := by
    decide
  obtain ⟨state, reached, same⟩ := (channel (List UInt8)).exists_reachableVia_of_run observed
  simp only [Prod.mk.injEq] at same
  obtain ⟨count, first, second, third⟩ := same
  have routed := calls_wellRouted reached
  refine ⟨state, count, routed, first.trans second.symm, ?_⟩
  rw [first, third]
  decide

end CarrotRpc.Client
