import CarrotRpc.Server.ResponseRoom

/-! What a connection of the async server writes: the response to a request it could
parse, laid out as a packet. -/

set_option autoImplicit false

namespace CarrotRpc.Server

open Library Library.Faulting Common Protob

/-- What a dispatcher makes of a request whose metadata it could parse. -/
inductive Answers {Msg : Type} (dialect : Dialect) (services : Services Msg)
    (perform : Method Msg → Msg → Outcome Msg) (rpcReq : Request) :
    Response → Option (List UInt8) → Prop where
  | unknown {text : String}
      (missing : findTarget services rpcReq.getMethodIdentity = .error text) :
      Answers dialect services perform rpcReq
        (dialect.stamp rpcReq { status := some .notFound, message := some text }) none
  | called {method : Method Msg} {request response : Msg} {controller : CarrotController}
      (found : findTarget services rpcReq.getMethodIdentity = .ok method)
      (settled : dialect.settle (perform method request) = .ok (controller, response)) :
      Answers dialect services perform rpcReq
        (dialect.stamp rpcReq (dialect.verdict controller))
        (some (method.response.serialize response))

/-- The async server sets both required fields of every response. -/
theorem Answers.initialized {Msg : Type} {services : Services Msg}
    {perform : Method Msg → Msg → Outcome Msg} {rpcReq : Request} {rpcResp : Response}
    {resp : Option (List UInt8)}
    (answers : Answers Async.dialect services perform rpcReq rpcResp resp) :
    rpcResp.isInitialized = true := by
  cases answers with
  | unknown missing => rfl
  | called found settled =>
      simp only [Dialect.verdict]
      split <;> rfl

theorem Answers.id {Msg : Type} {services : Services Msg} {perform : Method Msg → Msg → Outcome Msg}
    {rpcReq : Request} {rpcResp : Response} {resp : Option (List UInt8)}
    (answers : Answers Async.dialect services perform rpcReq rpcResp resp) :
    rpcResp.id = some rpcReq.getId := by
  cases answers with
  | unknown missing => rfl
  | called found settled => rfl

section Dispatching

variable {Msg : Type} [Protobuf] {services : Services Msg} {header : Header}
  {perform : Method Msg → Msg → Outcome Msg} {buf next : PacketBuf} {rpcReq : Request}
  {rpcResp : Response} {resp : Option (List UInt8)} {dialect : Dialect}
  {find : String → Handling (Except String (Method Msg))}

/-- What a dispatcher does with a request whose metadata it could parse. -/
def answerParsed (dialect : Dialect) (find : String → Handling (Except String (Method Msg)))
    (perform : Method Msg → Msg → Outcome Msg) (header : Header) (rpcReq : Request) :
    Handling (Response × Option (List UInt8)) := do
  match ← find rpcReq.getMethodIdentity with
  | .error text =>
      pure (dialect.stamp rpcReq { status := some .notFound, message := some text }, none)
  | .ok method => do
      let parameter ← parseRange header.rpcLen.toNat header.reqLen
      match method.request.parse parameter with
      | none => fail .parameterUnparsed
      | some request => callTarget dialect perform rpcReq method request

omit [Protobuf] in
theorem answers_of_answerParsed
    (finds : ∀ identity buf next target, find identity buf = (next, .ok target) →
      target = findTarget services identity)
    (answered : answerParsed dialect find perform header rpcReq buf =
      (next, .ok (rpcResp, resp))) :
    Answers dialect services perform rpcReq rpcResp resp := by
  unfold answerParsed at answered
  obtain ⟨target, _, found, answered⟩ := bind_eq_ok answered
  have target_eq := finds _ _ _ _ found
  cases target with
  | error text =>
      cases answered
      exact .unknown target_eq.symm
  | ok method =>
      obtain ⟨parameter, _, -, answered⟩ := bind_eq_ok answered
      cases read : method.request.parse parameter with
      | none =>
          rw [read] at answered
          cases answered
      | some request =>
          simp only [read, callTarget] at answered
          cases settled : dialect.settle (perform method request) with
          | error fault =>
              rw [settled] at answered
              cases answered
          | ok ended =>
              obtain ⟨controller, response⟩ := ended
              rw [settled] at answered
              cases answered
              exact .called target_eq.symm settled

theorem answers_of_dispatch
    (finds : ∀ identity buf next target, find identity buf = (next, .ok target) →
      target = findTarget services identity)
    (dispatched : dispatch dialect find perform header buf = (next, .ok (rpcResp, resp))) :
    ∃ rpcReq, Answers dialect services perform rpcReq rpcResp resp := by
  unfold dispatch at dispatched
  obtain ⟨metadata, _, -, dispatched⟩ := bind_eq_ok dispatched
  cases parsed : Protobuf.request.parse metadata with
  | none =>
      rw [parsed] at dispatched
      cases dispatched
  | some rpcReq =>
      rw [parsed] at dispatched
      exact ⟨rpcReq, answers_of_answerParsed finds dispatched⟩

end Dispatching

section Filling

variable {delivery : Delivery} {rpc resp packet : List UInt8} {buf next : PacketBuf}

theorem load_eq_ok {offset length : Nat} {bytes : List UInt8}
    (loaded : load offset length buf = (next, .ok bytes)) :
    next = buf ∧ ∃ block, buf.p = some block ∧ offset + length ≤ block.length := by
  simp only [load] at loaded
  split at loaded
  · cases loaded
  · next block present =>
      simp only [Block.read] at loaded
      by_cases inside : offset + length ≤ block.length
      · rw [if_pos inside] at loaded
        cases loaded
        exact ⟨rfl, block, present, inside⟩
      · rw [if_neg inside] at loaded
        cases loaded

/-- A packet that went out was filled in a block with room for it. -/
theorem fillPacket_eq_ok
    (filled : fillPacket delivery (sizeofPacket + rpc.length + resp.length) rpc resp buf =
      (next, .ok packet)) :
    packet = layout rpc [] resp ∧
      ∃ block, next.p = some block ∧ packet.length ≤ block.length := by
  have keeps : Keeps (fun other => other.shape = buf.shape)
      (fillPacket delivery (sizeofPacket + rpc.length + resp.length) rpc resp) :=
    keepsShape_fillPacket
  have shape := keeps.state rfl
  rw [filled] at shape
  have ran := filled
  unfold fillPacket at ran
  obtain ⟨_, _, stored, ran⟩ := bind_eq_ok ran
  obtain ⟨_, _, -, ran⟩ := bind_eq_ok ran
  obtain ⟨_, _, -, ran⟩ := bind_eq_ok ran
  obtain ⟨_, _, -, ran⟩ := bind_eq_ok ran
  obtain ⟨_, _, -, loaded⟩ := bind_eq_ok ran
  obtain ⟨rfl, after, present, room⟩ := load_eq_ok loaded
  obtain ⟨block, _, holds, -⟩ := store_eq_ok stored
  have lengths := PacketBuf.length_of_shape shape present
  rw [PacketBuf.length_of_shape rfl holds] at lengths
  have same := Option.some.inj lengths
  have ends : (fillPacket delivery (sizeofPacket + rpc.length + resp.length) rpc resp buf).2 = _ :=
    fillPacket_ends holds (by omega)
  rw [filled] at ends
  dsimp only at ends
  have laid : packet = layout rpc [] resp := by
    cases metadata : delivery.serializesMetadata with
    | false =>
        rw [metadata] at ends
        cases ends
    | true =>
        cases response : delivery.serializesResponse with
        | false =>
            rw [metadata, response] at ends
            cases ends
        | true =>
            rw [metadata, response] at ends
            exact Except.ok.inj ends
  refine ⟨laid, after, present, ?_⟩
  rw [laid, length_layout, List.length_nil]
  omega

end Filling

namespace Async.RpcServerConnection

variable {Msg : Type} [Protobuf] {services : Services Msg} {turn : Turn Msg} {size : Nat}
  {bytes packet : List UInt8} {conn next : RpcServerConnection}

omit [Protobuf] in
theorem find_eq_ok {server : Bool} {identity : String} {buf after : PacketBuf}
    {target : Except String (Method Msg)}
    (found : find services server identity buf = (after, .ok target)) :
    target = findTarget services identity := by
  unfold find at found
  split at found
  · cases found
    rfl
  · cases found

omit [Protobuf] in
theorem metadata_eq {buf stored loaded : PacketBuf} {header : Header}
    (storing : storePayload size bytes buf = (stored, .ok ()))
    (loading : readFields stored = (loaded, .ok header)) :
    metadata size bytes buf = parseRange 0 header.rpcLen loaded := by
  rw [metadata, bind_of_ok _ storing, bind_of_ok _ loading]

/-- Without a request nothing is looked up. -/
theorem answering_of_none (perform : Method Msg → Msg → Outcome Msg) {buf : PacketBuf}
    (parsed : parsedRequest size bytes buf = none) :
    ∃ next fault, ∀ find, answering find perform size bytes buf = (next, .error fault) := by
  unfold answering
  rcases storing : storePayload size bytes buf with ⟨stored, fault | _⟩
  · exact ⟨stored, fault, fun find => bind_of_error _ storing⟩
  rcases loading : readFields stored with ⟨loaded, fault | header⟩
  · refine ⟨loaded, fault, fun find => ?_⟩
    rw [bind_of_ok _ storing, bind_of_error _ loading]
  simp only [bind_of_ok _ storing, bind_of_ok _ loading]
  rw [parsedRequest, metadata_eq storing loading] at parsed
  unfold dispatch
  rcases ranged : parseRange 0 header.rpcLen loaded with ⟨last, fault | metadata⟩
  · exact ⟨last, fault, fun find => bind_of_error _ ranged⟩
  · rw [ranged] at parsed
    refine ⟨last, .metadataUnparsed, fun find => ?_⟩
    rw [bind_of_ok _ ranged]
    simp only at parsed
    rw [parsed]
    rfl

theorem answering_of_some (perform : Method Msg → Msg → Outcome Msg) {buf : PacketBuf}
    {rpcReq : Request} (parsed : parsedRequest size bytes buf = some rpcReq) :
    ∃ header next, ∀ find, answering find perform size bytes buf =
      answerParsed dialect find perform header rpcReq next := by
  unfold answering
  rcases storing : storePayload size bytes buf with ⟨stored, fault | _⟩
  · rw [parsedRequest, metadata, bind_of_error _ storing] at parsed
    cases parsed
  rcases loading : readFields stored with ⟨loaded, fault | header⟩
  · rw [parsedRequest, metadata, bind_of_ok _ storing, bind_of_error _ loading] at parsed
    cases parsed
  refine ⟨header, loaded, fun find => ?_⟩
  rw [bind_of_ok _ storing, bind_of_ok _ loading]
  rw [parsedRequest, metadata_eq storing loading] at parsed
  unfold dispatch
  rcases ranged : parseRange 0 header.rpcLen loaded with ⟨last, fault | metadata⟩
  · rw [ranged] at parsed
    cases parsed
  · have same : last = loaded := (congrArg Prod.fst ranged).symm.trans parseRange_fst
    rw [ranged] at parsed
    rw [bind_of_ok _ ranged, same]
    simp only at parsed
    rw [parsed]
    rfl

/-- Every packet a connection writes is the response to the request it has found in its
buffer, and it is no larger than the buffer can be. -/
theorem answers_of_write (sound : conn.Sized)
    (wrote : handleReadPayload services turn size bytes conn = (next, .ok (.write packet))) :
    ∃ rpcReq rpcResp resp, parsedRequest size bytes conn.buf = some rpcReq ∧
      Answers dialect services turn.perform rpcReq rpcResp (some resp) ∧
      packet = layout (Protobuf.response.serialize rpcResp) [] resp ∧
      packet.length ≤ next.buf.size.toNat ∧ next.buf.size.toNat ≤ maxSize := by
  have kept : Keeps Sized (handleReadPayload services turn size bytes) :=
    keepsSound_handleReadPayload
  have after := kept.state sound
  rw [wrote] at after
  rw [handleReadPayload, answerPayload_eq] at wrote
  obtain ⟨⟨rpcResp, resp⟩, middle, answered, wrote⟩ := bind_eq_ok wrote
  obtain ⟨written, last, prepared, wrote⟩ := bind_eq_ok wrote
  cases wrote
  simp only [onBuffer, zoom, Prod.mk.injEq] at answered
  obtain ⟨-, answered⟩ := answered
  have found : ∃ rpcReq, parsedRequest size bytes conn.buf = some rpcReq ∧
      Answers dialect services turn.perform rpcReq rpcResp resp := by
    cases parsed : parsedRequest size bytes conn.buf with
    | none =>
        obtain ⟨next, fault, ended⟩ := answering_of_none turn.perform parsed
        rw [ended] at answered
        cases answered
    | some rpcReq =>
        obtain ⟨header, next, ended⟩ := answering_of_some turn.perform parsed
        rw [ended] at answered
        exact ⟨rpcReq, rfl,
          answers_of_answerParsed (fun _ _ _ _ => find_eq_ok) (apply_eq answered)⟩
  obtain ⟨rpcReq, parsed, answers⟩ := found
  simp only [preparePacket, onBuffer, zoom, Prod.mk.injEq] at prepared
  obtain ⟨same, prepared⟩ := prepared
  cases resp with
  | none => cases prepared
  | some resp =>
      obtain ⟨_, grown, -, filled⟩ := bind_eq_ok (apply_eq prepared)
      obtain ⟨laid, block, present, room⟩ := fillPacket_eq_ok filled
      have holds : next.buf.p = some block := by
        rw [← same]
        exact present
      rw [after.grown.exact block holds] at room
      exact ⟨rpcReq, rpcResp, resp, parsed, answers, laid, room, after.grown.size_le⟩

end Async.RpcServerConnection

end CarrotRpc.Server
