import Mathlib.Data.Finset.Insert
import CarrotRpc.Server.RequestProperties
import CarrotRpc.Server.SimpleServer

/-! The simple server's buffers: in every run the size kept beside a packet pointer is
the size of the block behind it. -/

set_option autoImplicit false

namespace CarrotRpc.Server.Simple

open Library Library.Faulting Common Protob

section Buffers

variable {heap : Realloc} {size : UInt32} {buf : PacketBuf}

theorem expandConnectionPacket_exact (exact : buf.Exact) :
    (expandConnectionPacket heap size buf).1.Exact := by
  unfold expandConnectionPacket
  split
  · split
    · exact nofun
    · next block given =>
        rintro other ⟨rfl⟩
        exact heap.length_eq given
  · exact exact

theorem keeps_grow :
    Keeps PacketBuf.Exact (grow fun buf => some (expandConnectionPacket heap size buf)) :=
  .of_state fun _ exact => expandConnectionPacket_exact exact

/-- After a successful call there is a block that holds the packet. -/
theorem expandConnectionPacket_holds (exact : buf.Exact) {expanded : PacketBuf}
    (result : expandConnectionPacket heap size buf = (expanded, true)) :
    ∃ block, expanded.p = some block ∧ size.toNat ≤ block.length := by
  unfold expandConnectionPacket at result
  split at result
  · split at result
    · cases result
    · next block given =>
        cases result
        exact ⟨block, rfl, (heap.length_eq given).ge⟩
  · next enough =>
      cases result
      obtain ⟨large, present⟩ := not_or.mp enough
      obtain ⟨block, present⟩ := Option.ne_none_iff_exists'.mp present
      refine ⟨block, present, ?_⟩
      rw [exact block present]
      exact UInt32.le_iff_toNat_le.mp (UInt32.not_lt.mp large)

theorem expandConnectionPacket_succeeds (size : UInt32)
    (succeeds : heap.Succeeds) (exact : buf.Exact) :
    ∃ grown block, expandConnectionPacket heap size buf = (grown, true) ∧
      grown.p = some block ∧ size.toNat ≤ block.length := by
  obtain ⟨grown, expanded⟩ : ∃ grown, expandConnectionPacket heap size buf = (grown, true) := by
    unfold expandConnectionPacket
    split
    · obtain ⟨block, given⟩ := Option.isSome_iff_exists.mp (succeeds buf.p size.toNat)
      rw [given]
      exact ⟨_, rfl⟩
    · exact ⟨buf, rfl⟩
  obtain ⟨block, present, room⟩ := expandConnectionPacket_holds exact expanded
  exact ⟨grown, block, expanded, present, room⟩

end Buffers

theorem keeps_receive {heap : Realloc} :
    Keeps (fun endpoint => endpoint.buf.Exact) (receive heap) :=
  keeps_receivePacket shaped_exact fun _ => keeps_grow

section Requests

variable {Msg : Type} [Protobuf]

theorem keeps_handleClient {services : Services Msg} {turn : Turn Msg} :
    Keeps (fun endpoint => endpoint.buf.Exact) (handleClient services turn) := by
  refine keeps_receive.bind fun header => ?_
  refine (keeps_onBuffer (keeps_dispatch fun _ => keeps_lookUp)).bind fun response => ?_
  refine (keeps_onBuffer (keeps_preparePacket shaped_exact keeps_grow)).bind fun packet => ?_
  exact .of_state fun _ holds => holds

end Requests

namespace State

variable {state next : State}

@[simp] theorem connections_modifyConn (state : State) (conn other : ConnRef)
    (change : RpcConnection → RpcConnection) :
    (state.modifyConn conn change).connections other =
      if other = conn then change (state.connections conn) else state.connections other :=
  Function.update_apply _ _ _ _

theorem endpoint_destroyRpcConnection (conn other : ConnRef) :
    ((state.destroyRpcConnection conn).connections other).endpoint =
      (state.connections other).endpoint := by
  simp only [destroyRpcConnection]
  split
  · simp only [connections_modifyConn]
    split
    · next same => rw [same]
    · rfl
  · rfl

/-- The buffer of every object is well kept. -/
def Buffered (state : State) : Prop :=
  ∀ conn, (state.connections conn).endpoint.buf.Exact

theorem Buffered.takeConnection (buffered : state.Buffered) : state.takeConnection.2.Buffered := by
  unfold State.takeConnection
  split
  · exact buffered
  · intro conn
    simp only [connections_modifyConn]
    split
    · exact nofun
    · exact buffered conn

theorem Buffered.modifyConn (buffered : state.Buffered) (conn : ConnRef)
    (change : RpcConnection → RpcConnection)
    (exact : (change (state.connections conn)).endpoint.buf.Exact) :
    (state.modifyConn conn change).Buffered := by
  intro other
  rw [connections_modifyConn]
  split
  · exact exact
  · exact buffered other

theorem Buffered.addClient {fd : Nat} {incoming : Incoming} {allocates registers : Bool}
    (buffered : state.Buffered) : (state.addClient fd incoming allocates registers).Buffered := by
  unfold State.addClient
  simp only
  split
  · exact buffered
  · have opened : Buffered { state with openFds := insert fd state.openFds } := buffered
    have taken := opened.takeConnection
    generalize State.takeConnection { state with openFds := insert fd state.openFds } = pair
      at taken ⊢
    obtain ⟨conn, taker⟩ := pair
    have filled := taken.modifyConn conn
      (fun record =>
        { record with
          clientFd := fd
          alive := true
          endpoint := { buf := record.endpoint.buf, incoming, sent := [] } }) (taken conn)
    split
    · intro other
      have kept := filled.modifyConn conn
        (fun record => { record with allocated := false }) (filled conn)
      exact kept other
    · exact filled

variable {Msg : Type} [Protobuf] {services : Services Msg}

theorem Buffered.step {label : Label Msg} (buffered : state.Buffered)
    (stepped : state.step services label = some next) : next.Buffered := by
  cases label with
  | accept accepted allocates registers =>
      simp only [State.step, handleListenSock] at stepped
      split at stepped
      · cases stepped
        exact buffered
      · split at stepped
        · cases stepped
        · cases stepped
          exact buffered.addClient
  | readable conn turn =>
      simp only [State.step, readable] at stepped
      split at stepped
      · have keeps : Keeps (fun endpoint => endpoint.buf.Exact) (handleClient services turn) :=
          keeps_handleClient
        have handled := keeps.state (buffered conn)
        generalize handleClient services turn (state.connections conn).endpoint = ended
          at handled stepped
        obtain ⟨endpoint, result⟩ := ended
        have updated := buffered.modifyConn conn
          (fun record => { record with endpoint }) handled
        simp only [conclude] at stepped
        split at stepped
        · cases stepped
          exact updated
        · cases stepped
          exact updated
        · split at stepped
          · cases stepped
          · cases stepped
            intro other
            rw [endpoint_destroyRpcConnection]
            exact updated other
      · cases stepped

theorem buffered_reachable (reached : (simpleServer services).Reachable state) :
    state.Buffered := by
  refine TransitionSystem.ReachableVia.invariant _ ?_ ?_ reached
  · exact fun _ => nofun
  · exact fun _ _ _ buffered _ stepped => buffered.step stepped

end State

end CarrotRpc.Server.Simple
