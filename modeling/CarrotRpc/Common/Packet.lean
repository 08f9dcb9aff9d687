import CarrotRpc.Library.ByteOrder

/-! The packet header and the layout every writer of a packet produces. -/

set_option autoImplicit false

namespace CarrotRpc.Common

open Library.ByteOrder

/-- `sizeof(packet)`: three `uint32_t` fields, `data[]` takes no space. -/
def sizeofPacket : Nat := 12

structure Header where
  rpcLen : UInt32
  reqLen : UInt32
  respLen : UInt32
  deriving DecidableEq, Repr

namespace Header

/-- The payload length the three fields announce, as a natural number. -/
def payload (header : Header) : Nat :=
  header.rpcLen.toNat + header.reqLen.toNat + header.respLen.toNat

/-- The three fields in network order. -/
def toNetwork (header : Header) : List UInt8 :=
  bigEndian32 header.rpcLen ++ bigEndian32 header.reqLen ++ bigEndian32 header.respLen

/-- The three fields read from their twelve bytes in network order. -/
def ofNetwork (bytes : List UInt8) : Header where
  rpcLen := ofBigEndian32 (bytes.take 4)
  reqLen := ofBigEndian32 ((bytes.drop 4).take 4)
  respLen := ofBigEndian32 ((bytes.drop 8).take 4)

/-- The three fields as `CONVERT_TO_HOST_ORDER` leaves them in memory. -/
def toHost (header : Header) : List UInt8 :=
  littleEndian32 header.rpcLen ++ littleEndian32 header.reqLen ++ littleEndian32 header.respLen

/-- The three fields read from a packet in memory. -/
def ofHost (bytes : List UInt8) : Header where
  rpcLen := ofLittleEndian32 (bytes.take 4)
  reqLen := ofLittleEndian32 ((bytes.drop 4).take 4)
  respLen := ofLittleEndian32 ((bytes.drop 8).take 4)

@[simp] theorem length_toNetwork (header : Header) :
    header.toNetwork.length = sizeofPacket := rfl

@[simp] theorem ofNetwork_toNetwork (header : Header) :
    ofNetwork header.toNetwork = header := by
  obtain ⟨rpcLen, reqLen, respLen⟩ := header
  simp only [ofNetwork, mk.injEq]
  exact ⟨ofBigEndian32_bigEndian32 rpcLen, ofBigEndian32_bigEndian32 reqLen,
    ofBigEndian32_bigEndian32 respLen⟩

@[simp] theorem length_toHost (header : Header) : header.toHost.length = sizeofPacket := rfl

@[simp] theorem ofHost_toHost (header : Header) : ofHost header.toHost = header := by
  obtain ⟨rpcLen, reqLen, respLen⟩ := header
  simp only [ofHost, mk.injEq]
  exact ⟨ofLittleEndian32_littleEndian32 rpcLen, ofLittleEndian32_littleEndian32 reqLen,
    ofLittleEndian32_littleEndian32 respLen⟩

end Header

/-- The bytes of a packet with the given parts: the header, then the parts back
to back. The lengths are narrowed to their `uint32_t` fields. -/
def layout (rpc req resp : List UInt8) : List UInt8 :=
  Header.toNetwork ⟨.ofNat rpc.length, .ofNat req.length, .ofNat resp.length⟩ ++
    rpc ++ req ++ resp

@[simp] theorem length_layout (rpc req resp : List UInt8) :
    (layout rpc req resp).length = sizeofPacket + rpc.length + req.length + resp.length := by
  simp only [layout, List.length_append, Header.length_toNetwork]

end CarrotRpc.Common
