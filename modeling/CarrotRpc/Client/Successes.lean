import CarrotRpc.Client.SessionSteps
import CarrotRpc.Client.Sparing

/-! Where the successes of a channel come from. Whatever fails and whoever is called, a
call that ends without a failure was answered: a response with its id and status success
was read from its connection, and the call has the message in it. -/

set_option autoImplicit false

namespace CarrotRpc.Client

open Library Common Protob

variable {Msg : Type}

/-- A response that was read whole: the connection it was read from, its header in host
order, and the bytes found behind the header. -/
structure Heard where
  conn : ConnRef
  header : Header
  data : List UInt8

namespace Heard

def metadata (delivery : Heard) : List UInt8 :=
  delivery.data.take delivery.header.rpcLen.toNat

/-- Where the client looks for the parameter: directly behind the metadata. -/
def parameter (delivery : Heard) : List UInt8 :=
  (delivery.data.drop delivery.header.rpcLen.toNat).take delivery.header.respLen.toNat

/-- The delivery is what the call succeeded with. -/
structure Answers [Protobuf] (delivery : Heard) (record : CallTask Msg) : Prop where
  conn : delivery.conn = record.conn
  metadata : ∃ rpcResp, Protobuf.response.parse delivery.metadata = some rpcResp ∧
    rpcResp.getId = record.id ∧ rpcResp.getStatus = .success
  parameter : ∃ message, record.call.responseFormat.parse delivery.parameter = some message ∧
    record.response = some message

end Heard

/-- The response that a step takes from a connection. -/
def State.delivery (state : State Msg) : Label Msg → Option Heard
  | .handle ⟨conn, .readPayload, .queued error⟩ input =>
      let connection := state.connections conn
      if error = none ∨ connection.n.toNat = input.transferred ∧ error = some .eof then
        some ⟨conn, connection.header, input.data⟩
      else none
  | _ => none

section Relations

variable [Protobuf] {conn : ConnRef} {delivery : Option Heard} {state before after : State Msg}
  {task : TaskRef}

end Relations

section Steps

variable [Protobuf] {conn : ConnRef} {state next : State Msg} {op : Op}

variable [Inhabited Msg]

end Steps

end CarrotRpc.Client
