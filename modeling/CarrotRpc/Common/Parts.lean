import CarrotRpc.Common.HeaderBounds
import CarrotRpc.Common.Receiving

/-! Packets as their three parts, and what a receiver finds of them in a stream. -/

set_option autoImplicit false

namespace CarrotRpc.Common

open Library Library.Faulting

structure Parts where
  rpc : List UInt8
  req : List UInt8
  resp : List UInt8
  deriving DecidableEq

namespace Parts

def header (parts : Parts) : Header :=
  ⟨.ofNat parts.rpc.length, .ofNat parts.req.length, .ofNat parts.resp.length⟩

def payload (parts : Parts) : List UInt8 := parts.rpc ++ parts.req ++ parts.resp

/-- The packet as every writer lays it out. -/
def packet (parts : Parts) : List UInt8 := layout parts.rpc parts.req parts.resp

/-- The size is one that `expand_packet` can reach. -/
def Small (parts : Parts) : Prop := sizeofPacket + parts.payload.length ≤ maxSize

instance (parts : Parts) : Decidable parts.Small :=
  inferInstanceAs (Decidable (_ ≤ _))

/-- Every length fits its field. -/
structure Narrow (parts : Parts) : Prop where
  rpc : parts.rpc.length < 2 ^ 32
  req : parts.req.length < 2 ^ 32
  resp : parts.resp.length < 2 ^ 32

instance (parts : Parts) : Decidable parts.Narrow :=
  decidable_of_iff (parts.rpc.length < 2 ^ 32 ∧ parts.req.length < 2 ^ 32 ∧
      parts.resp.length < 2 ^ 32)
    ⟨fun ⟨rpc, req, resp⟩ => ⟨rpc, req, resp⟩,
      fun ⟨rpc, req, resp⟩ => ⟨rpc, req, resp⟩⟩

variable {parts : Parts}

theorem packet_eq : parts.packet = parts.header.toNetwork ++ parts.payload := by
  simp only [packet, layout, header, payload, List.append_assoc]

theorem length_payload :
    parts.payload.length = parts.rpc.length + parts.req.length + parts.resp.length := by
  simp only [payload, List.length_append]

theorem length_packet : parts.packet.length = sizeofPacket + parts.payload.length := by
  rw [packet_eq, List.length_append, Header.length_toNetwork]

theorem Narrow.lengths (narrow : parts.Narrow) :
    parts.header.rpcLen.toNat = parts.rpc.length ∧
      parts.header.reqLen.toNat = parts.req.length ∧
      parts.header.respLen.toNat = parts.resp.length := by
  simp only [header, UInt32.toNat_ofNat']
  exact ⟨Nat.mod_eq_of_lt narrow.rpc, Nat.mod_eq_of_lt narrow.req, Nat.mod_eq_of_lt narrow.resp⟩

theorem Narrow.payload_eq (narrow : parts.Narrow) :
    parts.header.payload = parts.payload.length := by
  obtain ⟨rpc, req, resp⟩ := narrow.lengths
  rw [Header.payload, rpc, req, resp, length_payload]

theorem Small.narrow (small : parts.Small) : parts.Narrow := by
  have limit : maxSize = 2 ^ 31 := rfl
  simp only [Small, length_payload] at small
  constructor <;> omega

theorem Small.lengths (small : parts.Small) :
    parts.header.rpcLen.toNat = parts.rpc.length ∧
      parts.header.reqLen.toNat = parts.req.length ∧
      parts.header.respLen.toNat = parts.resp.length :=
  small.narrow.lengths

theorem Small.payload_eq (small : parts.Small) : parts.header.payload = parts.payload.length :=
  small.narrow.payload_eq

theorem Small.size (small : parts.Small) : sizeofPacket + parts.header.payload ≤ maxSize := by
  rw [small.payload_eq]
  exact small

theorem Small.sum (small : parts.Small) : (lengthSum parts.header).toNat = parts.payload.length := by
  have twelve : sizeofPacket = 12 := rfl
  have limit : maxSize = 2 ^ 31 := rfl
  have bound := small.size
  rw [← small.payload_eq]
  simp only [Header.payload] at bound ⊢
  simp only [lengthSum, UInt32.toNat_add]
  omega

/-- A range of the payload whose length is not negative as an `int`. -/
theorem slice_eq {offset : Nat} {length : UInt32} {payload : List UInt8}
    (small : length.toNat < 2 ^ 31) :
    slice offset length payload = .ok ((payload.drop offset).take length.toNat) := by
  rw [slice, if_neg (Int.not_lt.mpr (parseSize_nonneg_iff.mpr small))]

theorem Small.slice_rpc (small : parts.Small) :
    slice 0 parts.header.rpcLen parts.payload = .ok parts.rpc := by
  obtain ⟨rpc, -, -⟩ := small.lengths
  have twelve : sizeofPacket = 12 := rfl
  have limit : maxSize = 2 ^ 31 := rfl
  have bound := small
  rw [Small, length_payload] at bound
  rw [slice_eq (by omega), rpc, List.drop_zero, payload, List.append_assoc, List.take_left]

theorem Small.slice_req (small : parts.Small) :
    slice parts.header.rpcLen.toNat parts.header.reqLen parts.payload = .ok parts.req := by
  obtain ⟨rpc, req, -⟩ := small.lengths
  have twelve : sizeofPacket = 12 := rfl
  have limit : maxSize = 2 ^ 31 := rfl
  have bound := small
  rw [Small, length_payload] at bound
  rw [slice_eq (by omega), rpc, req, payload, List.append_assoc, List.drop_left, List.take_left]

/-- Behind the metadata there is the request parameter, not the response parameter. -/
theorem Small.slice_resp (small : parts.Small) :
    slice parts.header.rpcLen.toNat parts.header.respLen parts.payload =
      .ok ((parts.req ++ parts.resp).take parts.resp.length) := by
  obtain ⟨rpc, -, resp⟩ := small.lengths
  have twelve : sizeofPacket = 12 := rfl
  have limit : maxSize = 2 ^ 31 := rfl
  have bound := small
  rw [Small, length_payload] at bound
  rw [slice_eq (by omega), rpc, resp, payload, List.append_assoc, List.drop_left]

end Parts

section Reading

variable {bytes rest : List UInt8}

/-- However the bytes arrive, a read takes the first of them. -/
theorem readN_of_flatten {incoming : Incoming} (arrives : incoming.flatten = bytes ++ rest) :
    (readN bytes.length incoming).1 = bytes ∧
      (readN bytes.length incoming).2.flatten = rest := by
  obtain ⟨taken, left⟩ := readN_flatten bytes.length incoming
  rw [taken, left, arrives, List.take_left, List.drop_left]
  exact ⟨rfl, rfl⟩

theorem recv_of_flatten (endpoint : Endpoint) (arrives : endpoint.incoming.flatten = bytes ++ rest) :
    ∃ incoming, incoming.flatten = rest ∧
      recv bytes.length endpoint = ({ endpoint with incoming }, .ok bytes) := by
  obtain ⟨taken, left⟩ := readN_of_flatten arrives
  refine ⟨(readN bytes.length endpoint.incoming).2, left, ?_⟩
  simp only [recv, taken]

theorem recvField_of_flatten (endpoint : Endpoint) (word : UInt32)
    (arrives : endpoint.incoming.flatten = ByteOrder.bigEndian32 word ++ rest) :
    ∃ incoming, incoming.flatten = rest ∧
      recvField endpoint = ({ endpoint with incoming }, .ok word) := by
  obtain ⟨incoming, left, ran⟩ := recv_of_flatten endpoint arrives
  refine ⟨incoming, left, ?_⟩
  rw [ByteOrder.length_bigEndian32] at ran
  rw [recvField, bind_of_ok _ ran]
  simp only [ByteOrder.length_bigEndian32, decide_true]
  rw [bind_of_ok _ (ensure_true _ _), pure_apply, ByteOrder.ofBigEndian32_bigEndian32]

/-- A field is read when its four bytes are there. -/
theorem recvField_of_le (endpoint : Endpoint) (enough : 4 ≤ endpoint.incoming.flatten.length) :
    ∃ word incoming, incoming.flatten = endpoint.incoming.flatten.drop 4 ∧
      recvField endpoint = ({ endpoint with incoming }, .ok word) := by
  obtain ⟨taken, left⟩ := readN_flatten 4 endpoint.incoming
  have length : (readN 4 endpoint.incoming).1.length = 4 := by
    rw [taken, List.length_take, Nat.min_eq_left enough]
  have received : recv 4 endpoint = ({ endpoint with incoming := (readN 4 endpoint.incoming).2 },
      .ok (readN 4 endpoint.incoming).1) := rfl
  refine ⟨ByteOrder.ofBigEndian32 (readN 4 endpoint.incoming).1, _, left, ?_⟩
  rw [recvField, bind_of_ok _ received, decide_eq_true length, bind_of_ok _ (ensure_true _ _),
    pure_apply]

theorem recvField_of_lt (endpoint : Endpoint) (short : endpoint.incoming.flatten.length < 4) :
    ∃ incoming, recvField endpoint = ({ endpoint with incoming }, .error .unread) := by
  have length : ¬ (readN 4 endpoint.incoming).1.length = 4 := by
    rw [(readN_flatten 4 endpoint.incoming).1, List.length_take]
    omega
  have received : recv 4 endpoint = ({ endpoint with incoming := (readN 4 endpoint.incoming).2 },
      .ok (readN 4 endpoint.incoming).1) := rfl
  refine ⟨(readN 4 endpoint.incoming).2, ?_⟩
  rw [recvField, bind_of_ok _ received, decide_eq_false length,
    bind_of_error _ (ensure_false _ _)]

/-- The three fields of a header, in their order. -/
theorem recvHeader_of_flatten (endpoint : Endpoint) (header : Header)
    (arrives : endpoint.incoming.flatten = header.toNetwork ++ rest) :
    ∃ incoming, incoming.flatten = rest ∧
      recvHeader endpoint = ({ endpoint with incoming }, .ok header) := by
  rw [Header.toNetwork, List.append_assoc, List.append_assoc] at arrives
  obtain ⟨first, afterRpc, rpcLen⟩ := recvField_of_flatten endpoint header.rpcLen arrives
  obtain ⟨second, afterReq, reqLen⟩ :=
    recvField_of_flatten { endpoint with incoming := first } header.reqLen afterRpc
  obtain ⟨third, afterResp, respLen⟩ :=
    recvField_of_flatten { endpoint with incoming := second } header.respLen afterReq
  refine ⟨third, afterResp, ?_⟩
  rw [recvHeader, bind_of_ok _ rpcLen, bind_of_ok _ reqLen, bind_of_ok _ respLen]
  rfl

end Reading

end CarrotRpc.Common
