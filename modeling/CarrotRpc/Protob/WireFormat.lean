import CarrotRpc.Library.WireFields
import CarrotRpc.Protob.Messages

/-! The wire format of the two metadata messages, as far as messages written by this
program need it. -/

set_option autoImplicit false

namespace CarrotRpc.Protob.WireFormat

open Library.WireFields

def encodeText (text : String) : List UInt8 :=
  text.toList.flatMap String.utf8EncodeChar

/-- Decode at most `fuel` characters. -/
def decodeChars : Nat → List UInt8 → Option (List Char)
  | _, [] => some []
  | 0, _ :: _ => none
  | fuel + 1, bytes =>
      match bytes.toByteArray.utf8DecodeChar? 0 with
      | none => none
      | some char => (decodeChars fuel (bytes.drop char.utf8Size)).map (char :: ·)

def decodeText (bytes : List UInt8) : Option String :=
  (decodeChars bytes.length bytes).map String.ofList

def Status.number : Status → Nat
  | .success => 1
  | .error => 2
  | .notFound => 3
  | .failed => 4

/-- Numbers outside the enumeration are kept as unknown fields. -/
def Status.ofNumber : Nat → Option Status
  | 1 => some .success
  | 2 => some .error
  | 3 => some .notFound
  | 4 => some .failed
  | _ => none

def requestFields (request : Request) : List (Nat × Value) :=
  (request.id.map fun id => (1, .number id)).toList ++
    (request.methodIdentity.map fun text => (2, .bytes (encodeText text))).toList

def responseFields (response : Response) : List (Nat × Value) :=
  (response.id.map fun id => (1, .number id)).toList ++
    (response.status.map fun status => (2, .number (Status.number status))).toList ++
    (response.message.map fun text => (3, .bytes (encodeText text))).toList

/-- Fields with an unknown number or wire type are skipped. -/
def mergeRequest (request : Request) : Nat × Value → Request
  | (1, .number id) => { request with id := some id }
  | (2, .bytes text) => { request with methodIdentity := decodeText text }
  | _ => request

def mergeResponse (response : Response) : Nat × Value → Response
  | (1, .number id) => { response with id := some id }
  | (2, .number number) =>
      { response with status := (Status.ofNumber number).orElse fun _ => response.status }
  | (3, .bytes text) => { response with message := decodeText text }
  | _ => response

def parseRequest (bytes : List UInt8) : Option Request :=
  ((read bytes.length bytes).map fun fields => fields.foldl mergeRequest {}).filter
    Request.isInitialized

def parseResponse (bytes : List UInt8) : Option Response :=
  ((read bytes.length bytes).map fun fields => fields.foldl mergeResponse {}).filter
    Response.isInitialized

instance wireFormat : Protobuf where
  request := ⟨fun request => write (requestFields request), parseRequest⟩
  response := ⟨fun response => write (responseFields response), parseResponse⟩

theorem decodeChars_encode {fuel : Nat} {chars : List Char} (enough : chars.length ≤ fuel) :
    decodeChars fuel (chars.flatMap String.utf8EncodeChar) = some chars := by
  induction chars generalizing fuel with
  | nil => cases fuel <;> rfl
  | cons char chars ih =>
      cases fuel with
      | zero => cases enough
      | succ fuel =>
          have first : ((String.utf8EncodeChar char ++
              chars.flatMap String.utf8EncodeChar).toByteArray).utf8DecodeChar? 0 = some char := by
            rw [List.toByteArray_append]
            exact ByteArray.utf8DecodeChar?_utf8EncodeChar_append
          have length : (String.utf8EncodeChar char).length = char.utf8Size :=
            String.length_utf8EncodeChar char
          have rest : (String.utf8EncodeChar char ++
              chars.flatMap String.utf8EncodeChar).drop char.utf8Size =
              chars.flatMap String.utf8EncodeChar := by
            rw [← length, List.drop_left]
          cases shape : String.utf8EncodeChar char ++ chars.flatMap String.utf8EncodeChar with
          | nil =>
              have empty := congrArg List.length (List.append_eq_nil_iff.mp shape).1
              rw [length] at empty
              exact absurd empty (Nat.ne_of_gt char.utf8Size_pos)
          | cons byte bytes =>
              rw [List.flatMap_cons, shape, decodeChars, ← shape, first]
              · simp only [rest, ih (Nat.succ_le_succ_iff.mp enough), Option.map_some]
              · nofun

theorem length_le_encode (chars : List Char) :
    chars.length ≤ (chars.flatMap String.utf8EncodeChar).length := by
  induction chars with
  | nil => exact Nat.le_refl 0
  | cons char chars ih =>
      have positive := char.utf8Size_pos
      simp only [List.flatMap_cons, List.length_append, List.length_cons,
        String.length_utf8EncodeChar]
      omega

@[simp] theorem decodeText_encodeText (text : String) :
    decodeText (encodeText text) = some text := by
  rw [decodeText, encodeText, decodeChars_encode (length_le_encode _)]
  simp

@[simp] theorem ofNumber_number (status : Status) :
    Status.ofNumber (Status.number status) = some status := by
  cases status <;> rfl

theorem length_le_write (fields : List (Nat × Value)) :
    fields.length ≤ (write fields).length := by
  induction fields with
  | nil => exact Nat.le_refl 0
  | cons head fields ih =>
      obtain ⟨field, value⟩ := head
      have positive := List.length_pos_iff.mpr (writeNumber_ne_nil (8 * field + value.wireType))
      simp only [write, List.length_append, List.length_cons]
      omega

theorem foldl_requestFields (request : Request) :
    (requestFields request).foldl mergeRequest {} = request := by
  obtain ⟨id, methodIdentity⟩ := request
  cases id <;> cases methodIdentity <;> simp [requestFields, mergeRequest]

theorem foldl_responseFields (response : Response) :
    (responseFields response).foldl mergeResponse {} = response := by
  obtain ⟨id, status, message⟩ := response
  cases id <;> cases status <;> cases message <;> simp [responseFields, mergeResponse]

theorem parseRequest_write (request : Request) :
    parseRequest (write (requestFields request)) =
      if request.isInitialized then some request else none := by
  simp [parseRequest, read_write (length_le_write _), foldl_requestFields, Option.filter]

theorem parseResponse_write (response : Response) :
    parseResponse (write (responseFields response)) =
      if response.isInitialized then some response else none := by
  simp [parseResponse, read_write (length_le_write _), foldl_responseFields, Option.filter]

instance lawfulWireFormat : LawfulProtobuf where
  request :=
    { parse_serialize := fun request initialized => by
        rw [show Protobuf.request.parse (Protobuf.request.serialize request) = _ from
          parseRequest_write request, if_pos initialized]
      parse_incomplete := fun request incomplete => by
        rw [show Protobuf.request.parse (Protobuf.request.serialize request) = _ from
          parseRequest_write request, incomplete]
        rfl }
  response :=
    { parse_serialize := fun response initialized => by
        rw [show Protobuf.response.parse (Protobuf.response.serialize response) = _ from
          parseResponse_write response, if_pos initialized]
      parse_incomplete := fun response incomplete => by
        rw [show Protobuf.response.parse (Protobuf.response.serialize response) = _ from
          parseResponse_write response, incomplete]
        rfl }

example : Protobuf.request.parse (Protobuf.request.serialize ⟨some 300, some "Svc.Echo"⟩) =
    some ⟨some 300, some "Svc.Echo"⟩ := by
  decide

end CarrotRpc.Protob.WireFormat
