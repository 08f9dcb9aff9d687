import CarrotRpc.Protob.WireFormat
import CarrotRpc.Server.AsyncServerProperties
import CarrotRpc.Server.SimpleServerProperties
import CarrotRpc.Server.ThreadedServerProperties

/-! The room a response finds in the packet buffer its request was received in. -/

set_option autoImplicit false

namespace CarrotRpc.Server

open Library Library.Faulting Common Protob

section Preparing

variable {delivery : Delivery} {expand : PacketBuf → Option (PacketBuf × Bool)}
  {rpc resp : List UInt8} {buf grown : PacketBuf} {block : Block}

/-- A buffer that was made ready is large enough exactly when its block is. -/
theorem fits_preparePacket (expanded : expand buf = some (grown, true))
    (present : grown.p = some block) :
    Fits (sizeofPacket + rpc.length + resp.length)
      (preparePacket delivery expand (sizeofPacket + rpc.length + resp.length) rpc (some resp) buf) ↔
      sizeofPacket + rpc.length + resp.length ≤ block.length := by
  have grew : grow expand buf = (grown, .ok ()) := by simp only [grow, expanded, if_true]
  have prepared : preparePacket delivery expand (sizeofPacket + rpc.length + resp.length) rpc
      (some resp) buf =
      fillPacket delivery (sizeofPacket + rpc.length + resp.length) rpc resp grown :=
    bind_of_ok _ grew
  have keeps : Keeps (fun buf => buf.shape = grown.shape)
      (fillPacket delivery (sizeofPacket + rpc.length + resp.length) rpc resp) :=
    keepsShape_fillPacket
  have shape := keeps.state rfl
  have sameBlock : ∀ other, (fillPacket delivery (sizeofPacket + rpc.length + resp.length) rpc resp
      grown).1.p = some other → other.length = block.length := by
    intro other after
    have lengths := PacketBuf.length_of_shape shape after
    rw [PacketBuf.length_of_shape rfl present] at lengths
    exact (Option.some.inj lengths).symm
  rw [prepared]
  constructor
  · intro fits
    have lengths := congrArg Prod.snd shape
    rw [PacketBuf.shape, PacketBuf.shape, present, Option.map_some, Option.map_eq_some_iff]
      at lengths
    obtain ⟨other, after, same⟩ := lengths
    rw [← same]
    exact fits.2 other after
  · intro room
    refine ⟨?_, fun other after => ?_⟩
    · rw [fillPacket_ends present room]
      split
      · rintro ⟨⟩
      · split <;> rintro ⟨⟩
    · rw [sameBlock other after]
      exact room

/-- When no memory is found there is no block left. -/
theorem fits_unprepared {total sent : Nat} (expanded : expand buf = some (grown, false))
    (absent : grown.p = none) :
    Fits total (preparePacket delivery expand sent rpc (some resp) buf) := by
  have grew : grow expand buf = (grown, .error .noMemory) := by
    simp only [grow, expanded, Bool.false_eq_true, if_false]
  have prepared : preparePacket delivery expand sent rpc (some resp) buf =
      (grown, .error .noMemory) := bind_of_error _ grew
  rw [prepared]
  refine ⟨by rintro ⟨⟩, fun block present => ?_⟩
  rw [absent] at present
  cases present

end Preparing

theorem toNat_ofNat_of_le {n : Nat} (bound : n ≤ maxSize) : (UInt32.ofNat n).toNat = n := by
  rw [UInt32.toNat_ofNat']
  exact Nat.mod_eq_of_lt (bound.trans_lt (by decide))

section Answering

variable {Msg : Type} [Protobuf] {services : Services Msg} {turn : Turn Msg}
  {rpcResp : Response} {resp : List UInt8}

namespace Simple

/-- `handle_client` up to the call of `respond_to_client`. -/
def answer (services : Services Msg) (turn : Turn Msg) :
    Serving (Response × Option (List UInt8)) := do
  let header ← receive turn.heap
  onBuffer (dispatch dialect (lookUp services) turn.perform header)

theorem handleClient_eq : handleClient services turn =
    answer services turn >>= fun ended => respondToClient turn.delivery ended.1 ended.2 :=
  (bind_assoc _ _ _).symm

theorem fits_of_exact {delivery : Delivery} {buf : PacketBuf} (exact : buf.Exact)
    (bound : responseSize rpcResp resp ≤ maxSize) :
    Fits (responseSize rpcResp resp) (preparePacket delivery rpcResp (some resp) buf) := by
  have size := toNat_ofNat_of_le bound
  rcases expanded : expandConnectionPacket delivery.heap (.ofNat (responseSize rpcResp resp)) buf
    with ⟨grown, flag⟩
  cases flag with
  | true =>
      obtain ⟨block, present, room⟩ := expandConnectionPacket_holds exact expanded
      rw [size] at room
      exact (fits_preparePacket (congrArg some expanded) present).mpr room
  | false =>
      refine fits_unprepared (congrArg some expanded) ?_
      unfold expandConnectionPacket at expanded
      split at expanded
      · split at expanded
        · cases expanded
          rfl
        · cases expanded
      · cases expanded

end Simple

namespace Threaded

/-- `handle_client` from the arrival of the payload up to the call of
`respond_to_client`. -/
def answer (services : Services Msg) (turn : Turn Msg) (header : Header) (size : Nat)
    (bytes : List UInt8) : Handling (Response × Option (List UInt8)) := do
  storePayload size bytes
  dispatch dialect (lookUp services) turn.perform header

/-- The step of a thread whose payload has arrived. -/
theorem advance_eq {handler : Handler} {header : Header} {size : Nat} {bytes : List UInt8}
    {stopped : Bool} (arrived : handler.point = .readPayload header size)
    (whole : bytes.length = size) :
    advance services stopped handler (.transfers bytes turn) =
      proceed true .write handler ((answer services turn header size bytes >>= fun ended =>
        preparePacket turn.delivery ended.1 ended.2) handler.buf) := by
  simp only [advance, arrived, answer, bind_assoc]
  rcases stored : storePayload size bytes handler.buf with ⟨buf, fault | _⟩
  · rw [bind_of_error _ stored]
    unfold storePayload at stored
    rcases ran : store sizeofPacket bytes handler.buf with ⟨next, missed | _⟩
    · rw [bind_of_error _ ran] at stored
      cases stored
      cases store_fault ran
      rfl
    · simp [bind_of_ok _ ran, whole, ensure_true] at stored
  · rw [bind_of_ok _ stored]

theorem fits_of_expanded {delivery : Delivery} {buf : PacketBuf} (grown : Expanded buf)
    (bound : responseSize rpcResp resp ≤ maxSize) :
    Fits (responseSize rpcResp resp) (preparePacket delivery rpcResp (some resp) buf) := by
  have size := toNat_ofNat_of_le bound
  obtain ⟨largest, grown⟩ := grown
  have prepared : preparePacket delivery rpcResp (some resp) buf =
      Server.preparePacket delivery
        (fun buf => expandPacket delivery.heap buf (.ofNat (responseSize rpcResp resp)))
        (UInt32.ofNat (responseSize rpcResp resp)).toNat (Protobuf.response.serialize rpcResp)
        (some resp) buf := rfl
  rw [prepared, size]
  rcases expanded : expandPacket delivery.heap buf (.ofNat (responseSize rpcResp resp))
    with _ | ⟨after, flag⟩
  · have beyond := (expandPacket_eq_none_iff grown).mp expanded
    rw [size] at beyond
    exact absurd bound (Nat.not_le_of_lt beyond)
  · cases flag with
    | true =>
        obtain ⟨block, present, room⟩ := expandPacket_holds grown expanded
        refine (fits_preparePacket expanded present).mpr ?_
        rw [room, size]
        exact (Nat.le_max_right _ _).trans (le_roundUp _)
    | false =>
        refine fits_unprepared expanded ?_
        rw [expandPacket_eq grown (by rw [size]; exact bound)] at expanded
        split at expanded
        · split at expanded
          · cases expanded
            rfl
          · cases expanded
        · cases expanded

end Threaded

namespace Async

/-- `handle_read_payload` up to the call of `respond_to_client`. -/
def RpcServerConnection.answer (services : Services Msg) (server : Bool) (turn : Turn Msg)
    (size : Nat) (bytes : List UInt8) : Handler (Response × Option (List UInt8)) := do
  onBuffer (storePayload size bytes)
  let header ← onBuffer readFields
  onBuffer (dispatch dialect (find services server) turn.perform header)

theorem RpcServerConnection.answer_eq (services : Services Msg) (server : Bool) (turn : Turn Msg)
    (size : Nat) (bytes : List UInt8) :
    answer services server turn size bytes =
      onBuffer (answering (find services server) turn.perform size bytes) := by
  unfold answering
  simp only [onBuffer_bind]
  rfl

theorem RpcServerConnection.answerPayload_eq_answer (services : Services Msg) (server : Bool)
    (turn : Turn Msg) (size : Nat) (bytes : List UInt8) :
    answerPayload services server turn size bytes =
      answer services server turn size bytes >>= fun ended =>
        respondToClient turn.delivery ended.1 ended.2 := by
  rw [answer_eq]
  exact answerPayload_eq services server turn size bytes

omit [Protobuf] in
/-- The buffer has the size that `respond_to_client` expands it to. -/
theorem RpcServerConnection.n_le_size {conn : RpcServerConnection} (sound : conn.Sized)
    (ready : conn.Ready) : conn.n ≤ conn.buf.size := by
  obtain ⟨block, present, _, length⟩ := ready
  rw [UInt32.le_iff_toNat_le, ← sound.grown.exact block present, length]
  exact (UInt32.le_iff_toNat_le.mp sound.bound).trans (le_roundUp _)

theorem RpcServerConnection.fits_iff {delivery : Delivery} {conn : RpcServerConnection}
    (sound : conn.Sized) (ready : conn.Ready) :
    Fits (responseSize rpcResp resp)
        ((preparePacket delivery rpcResp (some resp) conn).1.buf,
          (preparePacket delivery rpcResp (some resp) conn).2) ↔
      responseSize rpcResp resp ≤ roundUp conn.largest.toNat := by
  have enough := n_le_size sound ready
  obtain ⟨block, present, _, length⟩ := ready
  rw [← length]
  exact fits_preparePacket (expandPacket_of_le present enough) present

/-- From the arrival of the payload to the call of `respond_to_client` the block and
the sizes stay as they are. -/
theorem RpcServerConnection.answer_ready {conn ready : RpcServerConnection} {server : Bool}
    {size : Nat} {bytes : List UInt8} {value : Response × Option (List UInt8)}
    (sound : conn.Sized) (prepared : conn.Ready)
    (ended : answer services server turn size bytes conn = (ready, .ok value)) :
    ready.Sized ∧ ready.Ready ∧ ready.largest = conn.largest := by
  have keeps : Keeps (fun next : RpcServerConnection => next.buf.shape = conn.buf.shape ∧
      next.n = conn.n ∧ next.largest = conn.largest) (answer services server turn size bytes) := by
    have shaped : ∀ {Value : Type} {handling : Handling Value},
        (∀ shape, Keeps (fun buf => buf.shape = shape) handling) →
        Keeps (fun next : RpcServerConnection => next.buf.shape = conn.buf.shape ∧
          next.n = conn.n ∧ next.largest = conn.largest) (onBuffer handling) :=
      fun keeps => .of_state fun next holds => ⟨(keeps _).state holds.1, holds.2⟩
    refine (shaped fun _ => keepsShape_storePayload).bind fun _ => ?_
    refine (shaped fun _ => keepsShape_load.bind fun _ => .pure).bind fun header => ?_
    exact shaped fun _ => keeps_dispatch fun _ => keeps_find
  have kept := keeps.state ⟨rfl, rfl, rfl⟩
  rw [ended] at kept
  obtain ⟨shape, n, largest⟩ := kept
  obtain ⟨block, present, room, length⟩ := prepared
  have lengths := congrArg Prod.snd shape
  rw [PacketBuf.shape, PacketBuf.shape, present, Option.map_some, Option.map_eq_some_iff]
    at lengths
  obtain ⟨other, after, same⟩ := lengths
  refine ⟨⟨?_, ?_⟩, ⟨other, after, ?_, ?_⟩, largest⟩
  · rw [largest]
    exact sound.grown.of_shape shape
  · rw [n, largest]
    exact sound.bound
  · rw [largest]
    exact room
  · rw [same, length, largest]

end Async

end Answering

section Room

variable {Msg : Type} [Protobuf]

/-- In the simple and the threaded server a response always finds room. In the async
server it does when it is no larger than the largest packet of its connection so far,
rounded up to a power of two. -/
theorem responses_fit (services : Services Msg) :
    (∀ state, (Simple.simpleServer services).Reachable state →
      ∀ conn turn endpoint rpcResp resp,
        Simple.answer services turn (state.connections conn).endpoint =
          (endpoint, .ok (rpcResp, some resp)) →
        responseSize rpcResp resp ≤ maxSize →
        Fits (responseSize rpcResp resp)
          (Simple.preparePacket turn.delivery rpcResp (some resp) endpoint.buf)) ∧
    (∀ state, (Threaded.threadedServer services).Reachable state →
      ∀ ref header size bytes turn buf rpcResp resp,
        (state.handlers ref).point = .readPayload header size →
        Threaded.answer services turn header size bytes (state.handlers ref).buf =
          (buf, .ok (rpcResp, some resp)) →
        responseSize rpcResp resp ≤ maxSize →
        Fits (responseSize rpcResp resp)
          (Threaded.preparePacket turn.delivery rpcResp (some resp) buf)) ∧
    ∀ state, (Async.asyncServer services).Reachable state →
      ∀ conn size bytes turn record rpcResp resp,
        ⟨conn, .readPayload size, .queued (.done bytes)⟩ ∈ state.ops →
        Async.RpcServerConnection.answer services (state.connections conn).server turn size bytes
          (state.connections conn) = (record, .ok (rpcResp, some resp)) →
        (Fits (responseSize rpcResp resp)
            ((record.preparePacket turn.delivery rpcResp (some resp)).1.buf,
              (record.preparePacket turn.delivery rpcResp (some resp)).2) ↔
          responseSize rpcResp resp ≤ roundUp (state.connections conn).largest.toNat) := by
  refine ⟨?_, ?_, ?_⟩
  · intro state reached conn turn endpoint rpcResp resp answered bound
    have buffered := Simple.State.buffered_reachable reached conn
    have keeps : Keeps (fun endpoint => endpoint.buf.Exact) (Simple.answer services turn) :=
      Simple.keeps_receive.bind fun header =>
        keeps_onBuffer (keeps_dispatch fun _ => keeps_lookUp)
    have exact := keeps.state buffered
    rw [answered] at exact
    exact Simple.fits_of_exact exact bound
  · intro state reached ref header size bytes turn buf rpcResp resp _ answered bound
    have buffered := Threaded.State.buffered_reachable reached ref
    have keeps : Keeps Threaded.Expanded (Threaded.answer services turn header size bytes) :=
      (keeps_storePayload Threaded.shaped_expanded).bind fun _ =>
        keeps_dispatch fun _ => keeps_lookUp
    have grown := keeps.state buffered
    rw [answered] at grown
    exact Threaded.fits_of_expanded grown bound
  · intro state reached conn size bytes turn record rpcResp resp queued answered
    have seated := Async.State.seated_reachable reached
    obtain ⟨sound, ready, largest⟩ := Async.RpcServerConnection.answer_ready
      (seated.sound conn) (seated.ready _ queued rfl) answered
    rw [← largest]
    exact Async.RpcServerConnection.fits_iff sound ready

end Room

/-- One request answered by each server. -/
theorem responses_fit_ping :
    (∃ state endpoint, (Simple.simpleServer sampleServices).Reachable state ∧
      Simple.answer sampleServices (sampleTurn 0) (state.connections 0).endpoint =
        (endpoint, .ok (⟨none, some .success, none⟩, some [7])) ∧
      Fits 15 (Simple.preparePacket (sampleTurn 0).delivery ⟨none, some .success, none⟩
        (some [7]) endpoint.buf)) ∧
    (∃ state buf, (Threaded.threadedServer sampleServices).Reachable state ∧
      Threaded.answer sampleServices (sampleTurn 0) ⟨13, 1, 0⟩ 14 samplePayload
        (state.handlers 0).buf = (buf, .ok (⟨none, some .success, none⟩, some [7])) ∧
      Fits 15 (Threaded.preparePacket (sampleTurn 0).delivery ⟨none, some .success, none⟩
        (some [7]) buf)) ∧
    ∃ state record, (Async.asyncServer sampleServices).Reachable state ∧
      Async.RpcServerConnection.answer sampleServices (state.connections 0).server
        (sampleTurn 0) 14 samplePayload (state.connections 0) =
          (record, .ok (⟨some 1, some .success, none⟩, some [7])) ∧
      Fits 17 ((record.preparePacket (sampleTurn 0).delivery ⟨some 1, some .success, none⟩
        (some [7])).1.buf,
        (record.preparePacket (sampleTurn 0).delivery ⟨some 1, some .success, none⟩
          (some [7])).2) := by
  refine ⟨?_, ?_, ?_⟩
  · have observed : ((Simple.simpleServer sampleServices).run
        [.accept (.client 5 [samplePacket]) true true]
        (Simple.simpleServer sampleServices).initial).map
        (fun state => (Simple.answer sampleServices (sampleTurn 0)
          (state.connections 0).endpoint).2) =
        some (.ok (⟨none, some .success, none⟩, some [7])) := by
      decide
    obtain ⟨state, reached, result⟩ :=
      (Simple.simpleServer sampleServices).exists_reachable_of_run observed
    have answered := apply_eq result
    exact ⟨state, _, reached, answered, (responses_fit sampleServices).1 state reached 0
      (sampleTurn 0) _ _ _ answered (by decide)⟩
  · have observed : ((Threaded.threadedServer sampleServices).run
        [.run, .accept (some 5), .handle 0 .proceeds,
          .handle 0 (.transfers [0, 0, 0, 13] (sampleTurn 0)),
          .handle 0 (.transfers [0, 0, 0, 1] (sampleTurn 0)),
          .handle 0 (.transfers [0, 0, 0, 0] (sampleTurn 0))]
        (Threaded.threadedServer sampleServices).initial).map
        (fun state => ((state.handlers 0).point, (Threaded.answer sampleServices (sampleTurn 0)
          ⟨13, 1, 0⟩ 14 samplePayload (state.handlers 0).buf).2)) =
        some (.readPayload ⟨13, 1, 0⟩ 14, .ok (⟨none, some .success, none⟩, some [7])) := by
      decide
    obtain ⟨state, reached, result⟩ :=
      (Threaded.threadedServer sampleServices).exists_reachable_of_run observed
    obtain ⟨point, result⟩ := Prod.mk.inj result
    have answered := apply_eq result
    exact ⟨state, _, reached, answered, (responses_fit sampleServices).2.1 state reached 0
      _ _ _ (sampleTurn 0) _ _ _ point answered (by decide)⟩
  · have observed : ((Async.asyncServer sampleServices).run (Async.State.sampleRequest.take 5)
        (Async.asyncServer sampleServices).initial).map
        (fun state => decide
          (⟨0, .readPayload 14, .queued (.done samplePayload)⟩ ∈ state.ops ∧
            (state.connections 0).largest = 26 ∧
            (Async.RpcServerConnection.answer sampleServices (state.connections 0).server
              (sampleTurn 0) 14 samplePayload (state.connections 0)).2 =
                .ok (⟨some 1, some .success, none⟩, some [7]))) = some true := by
      decide
    obtain ⟨state, reached, result⟩ :=
      (Async.asyncServer sampleServices).exists_reachable_of_run observed
    obtain ⟨queued, largest, result⟩ := of_decide_eq_true result
    have answered := apply_eq result
    refine ⟨state, _, reached, answered, ((responses_fit sampleServices).2.2 state reached 0
      14 samplePayload (sampleTurn 0) _ _ _ queued answered).mpr ?_⟩
    rw [largest]
    decide

/-- A method answers a request of 26 bytes with a message of 40 bytes. The buffer of the
connection has 32 bytes, and the response is written beyond its end. -/
theorem response_overruns :
    ∃ state record, (Async.asyncServer sampleServices).Reachable state ∧
      ⟨0, .readPayload 14, .queued (.done samplePayload)⟩ ∈ state.ops ∧
      Async.RpcServerConnection.answer sampleServices (state.connections 0).server
        { sampleTurn 0 with perform := fun _ _ => .returns (List.replicate 40 7) } 14
        samplePayload (state.connections 0) =
          (record, .ok (⟨some 1, some .success, none⟩, some (List.replicate 40 7))) ∧
      responseSize ⟨some 1, some .success, none⟩ (List.replicate 40 7) = 56 ∧
      (record.preparePacket (sampleTurn 0).delivery ⟨some 1, some .success, none⟩
        (some (List.replicate 40 7))).2 = .error .overruns := by
  have observed : ((Async.asyncServer sampleServices).run (Async.State.sampleRequest.take 5)
      (Async.asyncServer sampleServices).initial).map
      (fun state =>
        let answered := Async.RpcServerConnection.answer sampleServices
          (state.connections 0).server
          { sampleTurn 0 with perform := fun _ _ => .returns (List.replicate 40 7) } 14
          samplePayload (state.connections 0)
        decide (⟨0, .readPayload 14, .queued (.done samplePayload)⟩ ∈ state.ops ∧
          answered.2 = .ok (⟨some 1, some .success, none⟩, some (List.replicate 40 7)) ∧
          (answered.1.preparePacket (sampleTurn 0).delivery ⟨some 1, some .success, none⟩
            (some (List.replicate 40 7))).2 = .error .overruns)) = some true := by
    decide
  obtain ⟨state, reached, result⟩ :=
    (Async.asyncServer sampleServices).exists_reachable_of_run observed
  obtain ⟨queued, result, overrun⟩ := of_decide_eq_true result
  exact ⟨state, _, reached, queued, apply_eq result, by decide, overrun⟩

end CarrotRpc.Server
