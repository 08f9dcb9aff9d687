import CarrotRpc.Common.Handling
import CarrotRpc.Server.Services

/-! What the three servers share of receiving a request and answering it. -/

set_option autoImplicit false

namespace CarrotRpc.Server

open Library Library.Faulting Common Protob

/-- In what the dispatchers of the servers differ. -/
structure Dialect where
  setsId : Bool
  failureMessage : CarrotController → String
  catches : Bool

namespace Dialect

variable {Msg : Type}

def stamp (dialect : Dialect) (rpcReq : Request) (rpcResp : Response) : Response :=
  if dialect.setsId then { rpcResp with id := some rpcReq.getId } else rpcResp

/-- The controller and the response message after `CallMethod`. -/
def settle (dialect : Dialect) : Outcome Msg → Except Fault (CarrotController × Msg)
  | .returns response => .ok (.unaddressed, response)
  | .fails reason response => .ok (CarrotController.unaddressed.setFailed reason, response)
  | .throws what response =>
      if dialect.catches then
        .ok (CarrotController.unaddressed.setFailed ("Server Internal Error " ++ what), response)
      else .error (.escapes what)

/-- The metadata of the response to a call that was made. -/
def verdict (dialect : Dialect) (controller : CarrotController) : Response :=
  if controller.failed then
    { status := some .failed, message := some (dialect.failureMessage controller) }
  else { status := some .success }

end Dialect

section Dispatch

variable {Msg : Type} [Protobuf]

/-- The call a request asks for, made and turned into a response. -/
def callTarget (dialect : Dialect) (perform : Method Msg → Msg → Outcome Msg)
    (rpcReq : Request) (method : Method Msg) (request : Msg) :
    Handling (Response × Option (List UInt8)) :=
  match dialect.settle (perform method request) with
  | .error fault => fail fault
  | .ok (controller, response) =>
      pure (dialect.stamp rpcReq (dialect.verdict controller),
        some (method.response.serialize response))

/-- The lookup in the table of services. -/
def lookUp (services : Services Msg) (identity : String) : Handling (Except String (Method Msg)) :=
  pure (findTarget services identity)

/-- From the parsing of the metadata to the call of `respond_to_client`: the metadata
of the response and its parameter, which is NULL when there is no method to call. The
argument `find` is the lookup. -/
def dispatch (dialect : Dialect) (find : String → Handling (Except String (Method Msg)))
    (perform : Method Msg → Msg → Outcome Msg) (header : Header) :
    Handling (Response × Option (List UInt8)) := do
  let metadata ← parseRange 0 header.rpcLen
  match Protobuf.request.parse metadata with
  | none => fail .metadataUnparsed
  | some rpcReq => do
      match ← find rpcReq.getMethodIdentity with
      | .error text =>
          pure (dialect.stamp rpcReq { status := some .notFound, message := some text }, none)
      | .ok method => do
          let parameter ← parseRange header.rpcLen.toNat header.reqLen
          match method.request.parse parameter with
          | none => fail .parameterUnparsed
          | some request => callTarget dialect perform rpcReq method request

end Dispatch

/-- What the environment decides about a response: the allocator, the results of the
two `SerializeToArray` calls, and how many bytes the socket takes. -/
structure Delivery where
  heap : Realloc
  serializesMetadata : Bool
  serializesResponse : Bool
  accepted : Nat

/-- Fill a packet that has been made large enough; `sent` of its bytes go out. -/
def fillPacket (delivery : Delivery) (sent : Nat) (rpc resp : List UInt8) :
    Handling (List UInt8) := do
  store 0 (Header.toNetwork ⟨.ofNat rpc.length, 0, .ofNat resp.length⟩)
  ensure delivery.serializesMetadata .metadataUnserialized
  store sizeofPacket rpc
  ensure delivery.serializesResponse .responseUnserialized
  store (sizeofPacket + rpc.length) resp
  load 0 sent

/-- `respond_to_client` up to the write. The arguments of `CARROT_LOG` are evaluated
whether or not logging is on, and one of them is `resp->DebugString()`. -/
def preparePacket (delivery : Delivery) (expand : PacketBuf → Option (PacketBuf × Bool))
    (sent : Nat) (rpc : List UInt8) (resp : Option (List UInt8)) : Handling (List UInt8) :=
  match resp with
  | none => fail .crashes
  | some resp => do
      grow expand
      fillPacket delivery sent rpc resp

/-- `ByteSize` of a response parameter that may be NULL. -/
def byteSize (resp : Option (List UInt8)) : Nat := (resp.getD []).length

/-- What the environment decides while a request is received and answered. -/
structure Turn (Msg : Type) where
  heap : Realloc
  perform : Method Msg → Msg → Outcome Msg
  delivery : Delivery

/-- A method that returns its request, with memory for every packet and a socket that
takes `accepted` bytes. -/
def sampleTurn (accepted : Nat) : Turn (List UInt8) where
  heap := .zeroed
  perform _ request := .returns request
  delivery :=
    { heap := .zeroed
      serializesMetadata := true
      serializesResponse := true
      accepted }

/-- The payload of a request for `Echo.ping`, and the whole packet. -/
def samplePayload : List UInt8 := [8, 1, 18, 9, 69, 99, 104, 111, 46, 112, 105, 110, 103, 7]

def samplePacket : List UInt8 := [0, 0, 0, 13, 0, 0, 0, 1, 0, 0, 0, 0] ++ samplePayload

end CarrotRpc.Server
