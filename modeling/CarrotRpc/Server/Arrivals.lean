import CarrotRpc.Common.Parts
import CarrotRpc.Server.AsyncReplies

/-! The ids of requests and responses as they appear on the wire, and what the async
server makes of a packet that has arrived whole. -/

set_option autoImplicit false

namespace CarrotRpc.Server.Async

open Library Library.Faulting Common Protob

/-- The metadata of a packet, as its header delimits it. -/
def metadataOf (packet : List UInt8) : List UInt8 :=
  (packet.drop sizeofPacket).take (Header.ofNetwork packet).rpcLen.toNat

section Ids

variable [Protobuf]

def requestId (packet : List UInt8) : Option Nat :=
  (Protobuf.request.parse (metadataOf packet)).map Request.getId

def responseId (packet : List UInt8) : Option Nat :=
  (Protobuf.response.parse (metadataOf packet)).map Response.getId

end Ids

theorem ofNetwork_append {header : List UInt8} (length : header.length = sizeofPacket)
    (payload : List UInt8) : Header.ofNetwork (header ++ payload) = Header.ofNetwork header := by
  have twelve : sizeofPacket = 12 := rfl
  have first : (header ++ payload).take 4 = header.take 4 :=
    List.take_append_of_le_length (by omega)
  have second : ((header ++ payload).drop 4).take 4 = (header.drop 4).take 4 := by
    rw [List.drop_append_of_le_length (by omega),
      List.take_append_of_le_length (by rw [List.length_drop]; omega)]
  have third : ((header ++ payload).drop 8).take 4 = (header.drop 8).take 4 := by
    rw [List.drop_append_of_le_length (by omega),
      List.take_append_of_le_length (by rw [List.length_drop]; omega)]
  simp only [Header.ofNetwork, first, second, third]

theorem metadataOf_append {header : List UInt8} (length : header.length = sizeofPacket)
    (payload : List UInt8) :
    metadataOf (header ++ payload) = payload.take (Header.ofNetwork header).rpcLen.toNat := by
  rw [metadataOf, ofNetwork_append length, List.drop_left' length]

theorem metadataOf_layout {rpc req resp : List UInt8}
    (bound : (layout rpc req resp).length ≤ maxSize) : metadataOf (layout rpc req resp) = rpc := by
  have limit : maxSize = 2 ^ 31 := rfl
  rw [length_layout] at bound
  have fits : rpc.length < 2 ^ 32 := by omega
  rw [layout, List.append_assoc, List.append_assoc, metadataOf_append (Header.length_toNetwork _),
    Header.ofNetwork_toNetwork, UInt32.toNat_ofNat', Nat.mod_eq_of_lt fits, List.take_left]

namespace RpcServerConnection

/-- The length fields of a packet were read, and room was made for its payload. -/
structure Framed (conn : RpcServerConnection) (header : List UInt8) (size : Nat) : Prop where
  length : header.length = sizeofPacket
  size : size = payloadSize (packetSize (Header.ofNetwork header))
  n : conn.n = packetSize (Header.ofNetwork header)
  content : ∃ block, conn.buf.p = some block ∧
    block.take sizeofPacket = (Header.ofNetwork header).toHost

variable {conn next : RpcServerConnection} {heap : Realloc} {header bytes : List UInt8}
  {size : Nat} {operation : Operation}

theorem handleReadHeader_framed (sound : conn.Sized) (ready : conn.Ready)
    (length : bytes.length = sizeofPacket)
    (ended : handleReadHeader heap bytes conn = (next, .ok operation)) :
    ∃ size, operation = .readPayload size ∧ Framed next bytes size := by
  obtain ⟨buf, start, shape, present, started, converted⟩ := convertHeader_eq ready length
  obtain ⟨size, middle, opened, ended⟩ := bind_eq_ok ended
  rw [openPayload_eq heap converted] at opened
  obtain ⟨_, last, expanding, opened⟩ := bind_eq_ok opened
  cases opened
  cases ended
  have resized : buf.Grown conn.largest.toNat := sound.grown.of_shape shape
  refine ⟨_, rfl, length, rfl, ?_, ?_⟩
  · obtain ⟨-, -, n, -⟩ := expand_eq_ok resized expanding
    exact n
  · simp only [expand, onBuffer, zoom, Prod.mk.injEq] at expanding
    obtain ⟨rfl, result⟩ := expanding
    have grew : grow (fun buf => expandPacket heap buf (packetSize (Header.ofNetwork bytes))) buf =
        ((grow (fun buf => expandPacket heap buf (packetSize (Header.ofNetwork bytes))) buf).1,
          .ok ()) := Prod.ext rfl result
    have expanded := grow_eq_ok grew
    obtain ⟨block, behind, -⟩ := expandPacket_holds resized expanded
    have kept := expandPacket_kept resized expanded present behind
    have lengths := congrArg List.length started
    rw [List.length_take, Header.length_toHost] at lengths
    refine ⟨block, behind, ?_⟩
    calc block.take sizeofPacket
        = (block.take start.length).take sizeofPacket := by
          rw [List.take_take, Nat.min_eq_left (by omega)]
      _ = start.take sizeofPacket := by rw [kept]
      _ = (Header.ofNetwork bytes).toHost := started

variable [Protobuf]

/-- Where the lengths do not wrap, the id of a request is the one on the wire. -/
theorem parsedRequest_of_framed (framed : conn.Framed header size) (sound : conn.Sized)
    (ready : conn.Ready) (whole : bytes.length = size)
    (small : sizeofPacket + (Header.ofNetwork header).payload < 2 ^ 32) :
    (parsedRequest size bytes conn.buf).map Request.getId = requestId (header ++ bytes) := by
  obtain ⟨block, present, content⟩ := framed.content
  obtain ⟨other, same, -, length⟩ := ready
  obtain rfl := Option.some.inj (same.symm.trans present)
  have within : conn.n.toNat ≤ conn.largest.toNat := UInt32.le_iff_toNat_le.mp sound.bound
  rw [framed.n, packetSize_of_lt small] at within
  have limit : maxSize = 2 ^ 31 := rfl
  have twelve : sizeofPacket = 12 := rfl
  have bound := sound.grown.bound
  have payload : bytes.length = (Header.ofNetwork header).payload := by
    rw [whole, framed.size, payloadSize_of_lt small]
  have room : sizeofPacket + bytes.length ≤ other.length := by
    rw [payload, length]
    exact within.trans (le_roundUp _)
  obtain ⟨stored, -, carries, storing⟩ := storePayload_ends size bytes present content room
  rw [if_pos whole] at storing
  have loading : readFields stored = (stored, .ok (Header.ofNetwork header)) := by
    rw [readFields, bind_of_ok _ carries.readHeader, Header.ofHost_toHost]
    rfl
  have covered : 0 + (Header.ofNetwork header).rpcLen.toNat ≤ bytes.length := by
    rw [payload, Header.payload]
    omega
  have ranged := carries.parseRange 0 (Header.ofNetwork header).rpcLen covered
  rw [Parts.slice_eq (by rw [payload] at covered; omega), List.drop_zero] at ranged
  rw [parsedRequest, metadata_eq storing loading, ranged, requestId,
    metadataOf_append framed.length]

/-- A response that is written has the id of the request it answers. -/
theorem responseId_of_write [LawfulProtobuf] {Msg : Type} {services : Services Msg}
    {turn : Turn Msg} {packet : List UInt8} (sound : conn.Sized)
    (wrote : handleReadPayload services turn size bytes conn = (next, .ok (.write packet))) :
    responseId packet = (parsedRequest size bytes conn.buf).map Request.getId := by
  obtain ⟨rpcReq, rpcResp, resp, parsed, answers, laid, room, limit⟩ := answers_of_write sound wrote
  have bound := room.trans limit
  rw [laid] at bound
  rw [responseId, laid, metadataOf_layout bound,
    LawfulProtobuf.response.parse_serialize rpcResp answers.initialized, parsed]
  simp only [Option.map_some, Response.getId, answers.id, Option.getD_some]

end RpcServerConnection

end CarrotRpc.Server.Async
