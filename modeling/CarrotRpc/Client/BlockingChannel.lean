import CarrotRpc.Client.ChannelState
import CarrotRpc.Common.Handling

/-! `carrot_blocking_channel.cpp`: one call on a socket that is read and written with
`read_n` and `write_n`. The closure `done` runs when all of this is over. -/

set_option autoImplicit false

namespace CarrotRpc.Client.Blocking

open Library Library.Faulting Common Protob

/-- Where `CallMethod` leaves for `run_callback` early, and an access outside the packet. -/
inductive Failure where
  | outgoingMemory
  | metadataUnserialized
  | parameterUnserialized
  | unsent
  | rpcLenUnread
  | reqLenUnread
  | respLenUnread
  | incomingMemory
  | payloadUnread
  | metadataUnparsed
  | overruns
  deriving DecidableEq, Repr

/-- The arguments of `SetFailed`; `strerror` is the text for `errno`. -/
def Failure.report (strerror : String) : Failure → Option (String × ErrorCode)
  | .outgoingMemory => some ("failed to malloc for outgoing packet", .oom)
  | .metadataUnserialized =>
      some ("failed to serialize Request metadata into byte array", .serializationError)
  | .parameterUnserialized =>
      some ("failed to serialize request paramerter into byte array", .serializationError)
  | .unsent => some ("failed to send packet to server:" ++ strerror, .transportError)
  | .rpcLenUnread =>
      some ("failed to read request metadata size from server:" ++ strerror, .transportError)
  | .reqLenUnread =>
      some ("failed to read request parameter size from server:" ++ strerror, .transportError)
  | .respLenUnread =>
      some ("failed to read response parameter size from server:" ++ strerror, .transportError)
  | .incomingMemory => some ("failed to malloc for incoming packet", .oom)
  | .payloadUnread =>
      some ("failed to read incoming packet from server:" ++ strerror, .transportError)
  | .metadataUnparsed =>
      some ("failed to read Response metadata from server", .serializationError)
  | .overruns => none

/-- What the environment decides about a call beside what its caller hands over: the
`realloc` for the response, how many bytes of the request the socket takes, and the text
for `errno`. -/
structure Transfer where
  heap : Realloc
  accepted : Nat
  strerror : String

/-- The endpoint's buffer is the packet `p` of the call. -/
abbrev Calling (Value : Type) := Faulting Endpoint Failure Value

/-- An access to the packet. -/
def access {Value : Type} (handling : Handling Value) : Calling Value :=
  relabel (fun _ => .overruns) (onBuffer handling)

/-- `malloc` or `realloc` of the packet. -/
def allocate (heap : Realloc) (n : Nat) : Handling Unit := fun buf =>
  match heap.apply buf.p n with
  | none => ({}, .error .noMemory)
  | some block => ({ p := some block }, .ok ())

section Calls

variable {Msg : Type}

/-- The metadata of a request has no id. -/
def metadata (call : Call Msg) : Request :=
  { methodIdentity := some call.methodIdentity }

variable [Protobuf]

/-- The header of a request, in host order. -/
def requestHeader (call : Call Msg) : Header where
  rpcLen := .ofNat (Protobuf.request.serialize (metadata call)).length
  reqLen := .ofNat (call.requestFormat.serialize call.request).length
  respLen := 0

/-- `n`, a `size_t` -/
def requestSize (call : Call Msg) : Nat :=
  sizeofPacket + (requestHeader call).rpcLen.toNat + (requestHeader call).reqLen.toNat

/-- `CallMethod` up to its write. -/
def preparePacket (call : Call Msg) : Calling (List UInt8) := do
  let header := requestHeader call
  relabel (fun _ => .outgoingMemory) (onBuffer (allocate call.heap (requestSize call)))
  access (store 0 header.toHost)
  ensure call.serializesMetadata .metadataUnserialized
  access (store sizeofPacket (Protobuf.request.serialize (metadata call)))
  ensure call.serializesRequest .parameterUnserialized
  access (store (sizeofPacket + header.rpcLen.toNat) (call.requestFormat.serialize call.request))
  -- `CONVERT_TO_NETWORK_ORDER`
  access (store 0 header.toNetwork)
  access (load 0 (requestSize call))

end Calls

def recvLengths : Calling Header := do
  let rpcLen ← relabel (fun _ => .rpcLenUnread) recvField
  let reqLen ← relabel (fun _ => .reqLenUnread) recvField
  let respLen ← relabel (fun _ => .respLenUnread) recvField
  pure ⟨rpcLen, reqLen, respLen⟩

/-- From the comparison of the sum with `n - sizeof(packet)` to the read of the payload:
the number of bytes that is then asked for. -/
def openPayload (heap : Realloc) (n : Nat) (header : Header) : Handling Nat := do
  let size := (lengthSum header).toNat
  if n - sizeofPacket < size then allocate heap (size + sizeofPacket)
  store 0 header.toHost
  pure size

/-- How receiving a response fails. -/
def incoming : Fault → Failure
  | .noMemory => .incomingMemory
  | .unread => .payloadUnread
  | _ => .overruns

/-- Receive the response into the packet of the request, which has `n` bytes. -/
def receive (heap : Realloc) (n : Nat) : Calling Header := do
  let header ← recvLengths
  let size ← relabel incoming (onBuffer (openPayload heap n header))
  let bytes ← relabel incoming (recv size)
  relabel incoming (onBuffer (storePayload size bytes))
  pure header

section Calls

variable {Msg : Type} [Protobuf]

/-- The response of the server: its metadata, and the bytes of its parameter. -/
def interpret (header : Header) : Calling (Response × List UInt8) := do
  let metadata ← access (parseRange 0 header.rpcLen)
  match Protobuf.response.parse metadata with
  | none => fail .metadataUnparsed
  | some rpcResp => do
      let parameter ← access (parseRange header.rpcLen.toNat header.respLen)
      pure (rpcResp, parameter)

/-- The work of `CallMethod` on the socket. -/
def transact (call : Call Msg) (transfer : Transfer) : Calling (Response × List UInt8) := do
  let packet ← preparePacket call
  relabel (fun _ => .unsent) (send transfer.accepted packet)
  let header ← receive transfer.heap (requestSize call)
  interpret header

/-- The `switch` on the status of a response. -/
def applyStatus (rpcResp : Response) (controller : CarrotController) : CarrotController :=
  match rpcResp.getStatus with
  | .notFound =>
      controller.setFailedWith
        ("The remote method called not found on the server side: " ++ rpcResp.getMessage)
        .methodNotFound
  | .error =>
      controller.setFailedWith
        ("Some errors occurred during the rpc: " ++ rpcResp.getMessage) .error
  | .failed =>
      controller.setFailedWith ("Failed to call rpc: " ++ rpcResp.getMessage) .failed
  | .success => controller

/-- `response->ParseFromArray` on the response parameter. -/
def parseResponse (format : MessageFormat Msg) (parameter : List UInt8)
    (controller : CarrotController) : CarrotController × Option Msg :=
  match format.parse parameter with
  | some message => (controller, some message)
  | none =>
      (controller.setFailedWith "failed to read response parameter from server"
        .serializationError, none)

/-- The controller and the response when `done` runs. -/
def conclude (call : Call Msg) (strerror : String) :
    Except Failure (Response × List UInt8) → Option (CarrotController × Option Msg)
  | .error failure =>
      (failure.report strerror).map fun (reason, code) =>
        (call.controller.setFailedWith reason code, none)
  | .ok (rpcResp, parameter) =>
      some (parseResponse call.responseFormat parameter (applyStatus rpcResp call.controller))

/-- `CallMethod`; the packet is freed at its end. After an access outside the packet there
is no result. -/
def callMethod (call : Call Msg) (transfer : Transfer) (endpoint : Endpoint) :
    Endpoint × Option (CarrotController × Option Msg) :=
  let (endpoint, result) := transact call transfer { endpoint with buf := {} }
  ({ endpoint with buf := {} }, conclude call transfer.strerror result)

end Calls

end CarrotRpc.Client.Blocking
