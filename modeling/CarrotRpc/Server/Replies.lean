import CarrotRpc.Common.HeaderBounds
import CarrotRpc.Common.Receiving
import CarrotRpc.Server.RequestProperties

/-! What the servers make of a request, as functions of the bytes they receive. No
buffer is involved; the computations on a buffer come to the same. -/

set_option autoImplicit false

namespace CarrotRpc.Server

open Library Library.Faulting Common Protob

/-- The response to a payload: its metadata, and its parameter when a method was called. -/
def reply {Msg : Type} [Protobuf] (dialect : Dialect)
    (target : String → Except String (Method Msg)) (perform : Method Msg → Msg → Outcome Msg)
    (header : Header) (payload : List UInt8) :
    Except Fault (Response × Option (List UInt8)) := do
  let metadata ← slice 0 header.rpcLen payload
  match Protobuf.request.parse metadata with
  | none => .error .metadataUnparsed
  | some rpcReq =>
      match target rpcReq.getMethodIdentity with
      | .error text =>
          pure (dialect.stamp rpcReq { status := some .notFound, message := some text }, none)
      | .ok method => do
          let parameter ← slice header.rpcLen.toNat header.reqLen payload
          match method.request.parse parameter with
          | none => .error .parameterUnparsed
          | some request => do
              let (controller, response) ← dialect.settle (perform method request)
              pure (dialect.stamp rpcReq (dialect.verdict controller),
                some (method.response.serialize response))

/-- The lookup of the servers that do not go through a pointer. -/
theorem lookUp_eq {Msg : Type} (services : Services Msg) (identity : String) (buf : PacketBuf) :
    lookUp services identity buf = (buf, .ok (findTarget services identity)) := rfl

section Dispatching

variable {Msg : Type} [Protobuf]

/-- A whole payload in the buffer is dispatched as its bytes are. -/
theorem dispatch_eq (dialect : Dialect) {find : String → Handling (Except String (Method Msg))}
    {target : String → Except String (Method Msg)} (perform : Method Msg → Msg → Outcome Msg)
    {header : Header} {payload : List UInt8} {buf : PacketBuf}
    (carries : Carries header payload buf) (whole : payload.length = header.payload)
    (found : ∀ identity, find identity buf = (buf, .ok (target identity))) :
    dispatch dialect find perform header buf =
      (buf, reply dialect target perform header payload) := by
  have covered : header.rpcLen.toNat + header.reqLen.toNat ≤ payload.length := by
    rw [whole]
    exact reqLen_covered header
  have metadata := carries.parseRange 0 header.rpcLen (by omega)
  have parameter := carries.parseRange header.rpcLen.toNat header.reqLen covered
  unfold dispatch reply
  cases first : slice 0 header.rpcLen payload with
  | error fault =>
      rw [first] at metadata
      exact bind_of_error _ metadata
  | ok bytes =>
      rw [first] at metadata
      rw [bind_of_ok _ metadata]
      simp only [bind, Except.bind]
      cases parsed : Protobuf.request.parse bytes with
      | none => rfl
      | some rpcReq =>
          simp only [found]
          cases selected : target rpcReq.getMethodIdentity with
          | error text => rfl
          | ok method =>
              cases second : slice header.rpcLen.toNat header.reqLen payload with
              | error fault =>
                  rw [second] at parameter
                  simp only [parameter]
              | ok bytes =>
                  rw [second] at parameter
                  simp only [parameter]
                  cases read : method.request.parse bytes with
                  | none => rfl
                  | some request =>
                      simp only [callTarget]
                      cases settled : dialect.settle (perform method request) <;> rfl

end Dispatching

/-- The computation depends on what the peer sends, and takes from it. -/
def Inbound {Value : Type} (action : Serving Value) : Prop :=
  ∀ endpoint, action endpoint =
    ({ endpoint with incoming := (action { incoming := endpoint.incoming }).1.incoming },
      (action { incoming := endpoint.incoming }).2)

theorem Inbound.bind {Value Result : Type} {first : Serving Value}
    {rest : Value → Serving Result} (inbound : Inbound first)
    (others : ∀ value, Inbound (rest value)) : Inbound (first >>= rest) := by
  intro endpoint
  have started := inbound endpoint
  rcases ran : first { incoming := endpoint.incoming } with ⟨next, fault | value⟩
  · rw [ran] at started
    rw [bind_of_error _ started, bind_of_error _ ran]
  · rw [ran] at started
    rw [bind_of_ok _ started, bind_of_ok _ ran, others value next, others value]

theorem inbound_recvField : Inbound recvField := by
  intro endpoint
  by_cases whole : (readN 4 endpoint.incoming).1.length = 4 <;>
    simp [recvField, recv, bind, whole, ensure, fail, pure_apply]

theorem inbound_recvHeader : Inbound recvHeader :=
  inbound_recvField.bind fun _ => inbound_recvField.bind fun _ =>
    inbound_recvField.bind fun _ _ => rfl

section Receiving

variable {endpoint after : Endpoint} {header : Header} {grown : PacketBuf} {block : Block}

/-- The loop that reads the fields one by one leaves the packet in the buffer, and
takes exactly its bytes. -/
theorem receivePacket_ends (expand : UInt32 → PacketBuf → Option (PacketBuf × Bool))
    (received : recvHeader endpoint = (after, .ok header))
    (small : sizeofPacket + header.payload < 2 ^ 32)
    (expanded : expand (packetSize header) after.buf = some (grown, true))
    (present : grown.p = some block) (room : (packetSize header).toNat ≤ block.length) :
    ∃ buf, buf.shape = grown.shape ∧
      Carries header (readN header.payload after.incoming).1 buf ∧
      receivePacket expand endpoint =
        ({ after with buf, incoming := (readN header.payload after.incoming).2 },
          if (readN header.payload after.incoming).1.length = header.payload then .ok header
          else .error .unread) := by
  rw [packetSize_of_lt small] at room
  obtain ⟨opened, written, shape, holds, length, started, ran⟩ :=
    openPayload_ends header expanded present (by omega)
  have within := length_readN_le header.payload after.incoming
  obtain ⟨stored, kept, carries, storing⟩ := storePayload_ends header.payload
    (readN header.payload after.incoming).1 holds started (by omega)
  refine ⟨stored, kept.trans shape, carries, ?_⟩
  have opening : onBuffer (openPayload (expand (packetSize header)) header) after =
      ({ after with buf := opened }, .ok header.payload) :=
    onBuffer_eq (by rw [ran, payloadSize_of_lt small])
  have reading : recv header.payload { after with buf := opened } =
      ({ after with buf := opened, incoming := (readN header.payload after.incoming).2 },
        .ok (readN header.payload after.incoming).1) := rfl
  rw [receivePacket, bind_of_ok _ received, bind_of_ok _ opening, bind_of_ok _ reading]
  by_cases whole : (readN header.payload after.incoming).1.length = header.payload
  · rw [if_pos whole] at storing ⊢
    exact bind_of_ok _ (onBuffer_eq storing)
  · rw [if_neg whole] at storing ⊢
    exact bind_of_error _ (onBuffer_eq storing)

end Receiving

end CarrotRpc.Server
