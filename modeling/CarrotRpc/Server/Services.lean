import Mathlib.Data.String.Basic
import CarrotRpc.Library.OrderedMap
import CarrotRpc.Common.Controller
import CarrotRpc.Protob.Messages

/-! The services registered with a server and the lookup of the method a request
names. -/

set_option autoImplicit false

namespace CarrotRpc.Server

open Library Common Protob

/-- What a server uses of a method descriptor: its name and the formats of the two
message types. -/
structure Method (Msg : Type) where
  name : String
  request : MessageFormat Msg
  response : MessageFormat Msg

/-- A service descriptor; its name is an identifier. -/
structure Service (Msg : Type) where
  name : String
  methods : List (Method Msg)
  undotted : '.' ∉ name.toList

def Service.findMethodByName {Msg : Type} (service : Service Msg) (name : String) :
    Option (Method Msg) :=
  service.methods.find? fun method => method.name = name

abbrev Services (Msg : Type) := OrderedMap String (Service Msg)

/-- `RegisterService` -/
def registerService {Msg : Type} (service : Service Msg) (services : Services Msg) :
    Services Msg × Bool :=
  match services.find? service.name with
  | some _ => (services, false)
  | none => (services.insert service.name service, true)

/-- What one run of a service method does: the message it leaves in `response`, and
whether it called `SetFailed` or threw a `std::exception`. -/
inductive Outcome (Msg : Type) where
  | returns (response : Msg)
  | fails (reason : String) (response : Msg)
  | throws (what : String) (response : Msg)

/-- The service name and the method name around the first dot. -/
def splitIdentity (identity : String) : Option (String × String) :=
  match identity.toList.dropWhile (· ≠ '.') with
  | [] => none
  | _ :: method => some (.ofList (identity.toList.takeWhile (· ≠ '.')), .ofList method)

/-- The method an identity names, or the message of the response when there is none. -/
def findTarget {Msg : Type} (services : Services Msg) (identity : String) :
    Except String (Method Msg) :=
  match splitIdentity identity with
  | none => .error "invalid method method identity"
  | some (serviceName, methodName) =>
      match services.find? serviceName with
      | none => .error "service not found"
      | some service =>
          match service.findMethodByName methodName with
          | none => .error "method not found"
          | some method => .ok method

theorem splitIdentity_dotted {service method : String} (undotted : '.' ∉ service.toList) :
    splitIdentity (service ++ "." ++ method) = some (service, method) := by
  have plain : ∀ char ∈ service.toList, decide (char ≠ '.') = true := by
    intro char member
    exact decide_eq_true fun same => undotted (same ▸ member)
  have chars : (service ++ "." ++ method).toList = service.toList ++ '.' :: method.toList := by
    simp
  have leading : (service.toList ++ '.' :: method.toList).takeWhile (· ≠ '.') =
      service.toList := by
    rw [List.takeWhile_append_of_pos plain]
    simp
  have trailing : (service.toList ++ '.' :: method.toList).dropWhile (· ≠ '.') =
      '.' :: method.toList := by
    rw [List.dropWhile_append_of_pos plain]
    simp
  simp only [splitIdentity, chars, leading, trailing, String.ofList_toList]

theorem findTarget_registered {Msg : Type} {services : Services Msg} {service : Service Msg}
    {method : Method Msg} (registered : services.find? service.name = some service)
    (found : service.findMethodByName method.name = some method) :
    findTarget services (service.name ++ "." ++ method.name) = .ok method := by
  simp only [findTarget, splitIdentity_dotted service.undotted, registered, found]

theorem echo_undotted : '.' ∉ "Echo".toList := by decide

/-- A service whose messages are byte strings, for runs on concrete inputs. -/
def sampleService : Service (List UInt8) where
  name := "Echo"
  methods := [{ name := "ping", request := ⟨id, some⟩, response := ⟨id, some⟩ }]
  undotted := echo_undotted

def sampleServices : Services (List UInt8) := (registerService sampleService .empty).1

end CarrotRpc.Server
