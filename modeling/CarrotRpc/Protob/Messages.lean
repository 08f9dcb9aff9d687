import Mathlib.Logic.Basic

/-! The metadata messages of `rpc.proto` and what the rest of the program uses
of the protobuf runtime. A field that was never set is `none`. -/

set_option autoImplicit false

namespace CarrotRpc.Protob

inductive Status where
  | success
  | error
  | notFound
  | failed
  deriving DecidableEq, Repr

structure Request where
  id : Option Nat := none
  methodIdentity : Option String := none
  deriving DecidableEq, Repr

structure Response where
  id : Option Nat := none
  status : Option Status := none
  message : Option String := none
  deriving DecidableEq, Repr

namespace Request

/-- Both fields of a request are required. -/
def isInitialized (request : Request) : Bool :=
  request.id.isSome && request.methodIdentity.isSome

def getId (request : Request) : Nat := request.id.getD 0

def getMethodIdentity (request : Request) : String := request.methodIdentity.getD ""

end Request

namespace Response

/-- The message text of a response is optional. -/
def isInitialized (response : Response) : Bool :=
  response.id.isSome && response.status.isSome

def getId (response : Response) : Nat := response.id.getD 0

def getStatus (response : Response) : Status := response.status.getD .success

def getMessage (response : Response) : String := response.message.getD ""

end Response

/-- The bytes `SerializeToArray` writes, whose number is `ByteSize`, and the
result of `ParseFromArray`. -/
structure MessageFormat (Msg : Type) where
  serialize : Msg → List UInt8
  parse : List UInt8 → Option Msg

/-- Parsing inverts serialization exactly when every required field is set. -/
structure MessageFormat.Lawful {Msg : Type} (format : MessageFormat Msg)
    (initialized : Msg → Bool) : Prop where
  parse_serialize : ∀ message, initialized message = true →
    format.parse (format.serialize message) = some message
  parse_incomplete : ∀ message, initialized message = false →
    format.parse (format.serialize message) = none

/-- The runtime's formats of the two metadata messages. -/
class Protobuf where
  request : MessageFormat Request
  response : MessageFormat Response

class LawfulProtobuf [Protobuf] : Prop where
  request : Protobuf.request.Lawful Request.isInitialized
  response : Protobuf.response.Lawful Response.isInitialized

end CarrotRpc.Protob
