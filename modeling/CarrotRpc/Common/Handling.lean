import CarrotRpc.Library.Faulting
import CarrotRpc.Common.Sockets
import CarrotRpc.Common.Utils

/-! Work on packet buffers and blocking sockets, step by step: every access to a
block is checked, and a step that fails ends the work with a fault. -/

set_option autoImplicit false

namespace CarrotRpc.Common

open Library Library.Faulting

/-- Why the handling of a packet ends early. After the first three there is no
program to go on: a loop without end, a NULL that is dereferenced, and an access
outside a block. -/
inductive Fault where
  | hangs
  | crashes
  | overruns
  | noMemory
  | unread
  | metadataUnparsed
  | parameterUnparsed
  | escapes (what : String)
  | metadataUnserialized
  | responseUnserialized
  | unsent
  deriving DecidableEq, Repr

/-- No step of the program follows it. -/
def Fault.isFatal : Fault → Bool
  | .hangs | .crashes | .overruns => true
  | .noMemory | .unread | .metadataUnparsed | .parameterUnparsed | .escapes _
  | .metadataUnserialized | .responseUnserialized | .unsent => false

/-- A computation on a packet buffer. -/
abbrev Handling (Value : Type) := Faulting PacketBuf Fault Value

def grow (expand : PacketBuf → Option (PacketBuf × Bool)) : Handling Unit := fun buf =>
  match expand buf with
  | none => (buf, .error .hangs)
  | some (buf, expanded) => (buf, if expanded then .ok () else .error .noMemory)

def store (offset : Nat) (bytes : List UInt8) : Handling Unit := fun buf =>
  match buf.p with
  | none => (buf, .error .overruns)
  | some block =>
      match block.write offset bytes with
      | none => (buf, .error .overruns)
      | some block => ({ buf with p := some block }, .ok ())

def load (offset length : Nat) : Handling (List UInt8) := fun buf =>
  match buf.p with
  | none => (buf, .error .overruns)
  | some block =>
      match block.read offset length with
      | none => (buf, .error .overruns)
      | some bytes => (buf, .ok bytes)

/-- `sizeof(packet) + rpc_len + req_len + resp_len` in `size_t`, kept in a `uint32_t`. -/
def packetSize (header : Header) : UInt32 := .ofNat (sizeofPacket + header.payload)

/-- `n - sizeof(packet)` in `size_t`. -/
def payloadSize (n : UInt32) : Nat := (n.toUInt64 - UInt64.ofNat sizeofPacket).toNat

/-- `rpc_len + req_len + resp_len` in `uint32_t`. -/
def lengthSum (header : Header) : UInt32 := header.rpcLen + header.reqLen + header.respLen

/-- The size argument of `ParseFromArray` is an `int`. -/
def parseSize (length : UInt32) : Int := length.toInt32.toInt

/-- What `ParseFromArray(p->data + offset, length)` is given to parse. -/
def parseRange (offset : Nat) (length : UInt32) : Handling (List UInt8) :=
  if parseSize length < 0 then fail .overruns else load (sizeofPacket + offset) length.toNat

/-- From the length fields to the read of the payload: the number of bytes that is
then asked for. -/
def openPayload (expand : PacketBuf → Option (PacketBuf × Bool)) (header : Header) :
    Handling Nat := do
  grow expand
  store 0 header.toHost
  pure (payloadSize (packetSize header))

/-- The payload bytes that arrive are stored also when they are too few. -/
def storePayload (size : Nat) (bytes : List UInt8) : Handling Unit := do
  store sizeofPacket bytes
  ensure (bytes.length = size) .unread

/-- A connection with a blocking socket: its packet buffer, what the client still
sends, and what was sent to it. -/
structure Endpoint where
  buf : PacketBuf := {}
  incoming : Incoming := []
  sent : List UInt8 := []

/-- A computation on a connection. -/
abbrev Serving (Value : Type) := Faulting Endpoint Fault Value

def onBuffer {Value : Type} (handling : Handling Value) : Serving Value :=
  zoom Endpoint.buf (fun endpoint buf => { endpoint with buf }) handling

def recv (n : Nat) : Serving (List UInt8) := fun endpoint =>
  ({ endpoint with incoming := (readN n endpoint.incoming).2 },
    .ok (readN n endpoint.incoming).1)

/-- `read_n` into a `uint32_t`, which `ntohl` then converts. -/
def recvField : Serving UInt32 := do
  let bytes ← recv 4
  ensure (bytes.length = 4) .unread
  pure (ByteOrder.ofBigEndian32 bytes)

def recvHeader : Serving Header := do
  let rpcLen ← recvField
  let reqLen ← recvField
  let respLen ← recvField
  pure ⟨rpcLen, reqLen, respLen⟩

/-- Receive one packet field by field; its payload is then in the buffer. -/
def receivePacket (expand : UInt32 → PacketBuf → Option (PacketBuf × Bool)) :
    Serving Header := do
  let header ← recvHeader
  let size ← onBuffer (openPayload (expand (packetSize header)) header)
  let bytes ← recv size
  onBuffer (storePayload size bytes)
  pure header

/-- `write_n`: the socket takes a part of the bytes also when it fails. -/
def send (accepted : Nat) (bytes : List UInt8) : Serving Unit := fun endpoint =>
  ({ endpoint with sent := endpoint.sent ++ bytes.take accepted },
    if bytes.length ≤ accepted then .ok () else .error .unsent)

end CarrotRpc.Common
