import CarrotRpc.Client.Deliveries
import CarrotRpc.Protocol.Pairings

/-! A connection of the async client and the connection of an async server at its other
end, with the bytes on their way between the two. The client makes calls and handles
completions in any order, on this connection and on others; the server takes the requests
one by one. -/

set_option autoImplicit false

namespace CarrotRpc.Protocol.Conversing

open Library Library.Faulting Common Protob
open Server Serving Pairings
open Client (ConnRef TaskRef Part)
open Streams (Link)
open Verdicts (responseParts)

variable {Msg : Type}

/-- The channel of the client, the connection of the server while there is one, and the
bytes of its responses that the client has not read. -/
structure Conversation (Msg : Type) where
  client : Client.State Msg
  server : Option Link := none
  arriving : List UInt8 := []

/-- For a turn of the server: the heaps of its handlers, and what the environment decides
about its response. -/
inductive Event (Msg : Type) where
  | client (label : Client.Label Msg)
  | serve (heaps : Realloc × Realloc) (delivery : Delivery)

/-- What the socket of the connection accepts in a step of the client. -/
def written (conn : ConnRef) : Client.Label Msg → Option (List UInt8)
  | .writeSome ⟨other, .write _ packet sent, _⟩ count =>
      if other = conn then some ((packet.drop sent).take count) else none
  | _ => none

/-- The step opens the socket of the connection, at whose other end there is a new
connection of the server. -/
def reopens (conn : ConnRef) : Client.Label Msg → Bool
  | .handle ⟨other, .resolve _, .queued none⟩ _ => other = conn
  | _ => false

/-- The read whose handler goes on with the bytes it was asked for: a payload also when the
stream ends behind it. -/
def readOf (conn : ConnRef) (state : Client.State Msg) :
    Client.Label Msg → Option (Part × Nat × Client.Input)
  | .handle ⟨other, .readHeader, .queued none⟩ input =>
      if other = conn then some (.header, sizeofPacket, input) else none
  | .handle ⟨other, .readPayload, .queued error⟩ input =>
      let n := (state.connections conn).n.toNat
      if other = conn ∧ (error = none ∨ error = some .eof ∧ n = input.transferred) then
        some (.payload, n, input)
      else none
  | _ => none

/-- The handler finds the bytes of the read in the packet buffer. -/
def Finds (bytes : List UInt8) (input : Client.Input) : Part → Prop
  | .header => input.header = Header.ofNetwork bytes
  | .payload => bytes <+: input.data

instance (bytes : List UInt8) (input : Client.Input) (part : Part) :
    Decidable (Finds bytes input part) :=
  match part with
  | .header => inferInstanceAs (Decidable (_ = _))
  | .payload => inferInstanceAs (Decidable (_ <+: _))

namespace Conversation

def deliver (bytes : List UInt8) (link : Link) : Link :=
  { link with incoming := link.incoming ++ [bytes] }

variable [Protobuf]

/-- The bytes of a read leave the stream when its handler runs; until then no other read
is under way. -/
def stepClient (conn : ConnRef) (label : Client.Label Msg) (talk : Conversation Msg) :
    Option (Conversation Msg) :=
  match readOf conn talk.client label with
  | some (part, n, input) =>
      if n ≤ talk.arriving.length ∧ Finds (talk.arriving.take n) input part then
        (talk.client.step label).map fun client =>
          { talk with client, arriving := talk.arriving.drop n }
      else none
  | none =>
      (talk.client.step label).map fun client =>
        if reopens conn label then { client, server := some ⟨{ isOpen := true }, []⟩, arriving := [] }
        else
          { talk with
            client
            server := (written conn label).elim talk.server fun bytes =>
              talk.server.map (deliver bytes) }

/-- The server handles the next request and writes its response. It waits for a request
that has not arrived whole, and gives up the connection when it cannot answer. -/
def stepServer (services : Services Msg) (perform : Method Msg → Msg → Outcome Msg)
    (heaps : Realloc × Realloc) (delivery : Delivery) (talk : Conversation Msg) :
    Option (Conversation Msg) :=
  match talk.server with
  | none => none
  | some link =>
      match Serving.async services (heaps.1, ⟨heaps.2, perform, delivery⟩) link with
      | (next, .ok reply) =>
          some { talk with server := some next, arriving := talk.arriving ++ reply.packet }
      | (_, .error .unread) => none
      | (_, .error _) => some { talk with server := none }

end Conversation

def conversation [Protobuf] [Inhabited Msg] (services : Services Msg)
    (perform : Method Msg → Msg → Outcome Msg) (conn : ConnRef) :
    TransitionSystem (Conversation Msg) (Event Msg) where
  initial := { client := (Client.channel Msg).initial }
  step talk
    | .client label => talk.stepClient conn label
    | .serve heaps delivery => talk.stepServer services perform heaps delivery

/-- A packet is written whole, and a packet buffer can hold it. -/
def Whole (conn : ConnRef) : Client.Label Msg → Prop
  | .writeSome ⟨other, .write _ packet sent, _⟩ count =>
      other = conn → sent = 0 ∧ count = packet.length ∧ packet.length ≤ maxSize
  | _ => True

/-- The connection was not destroyed, packets travel whole, and memory is found for them. -/
def Assumed (conn : ConnRef) (talk : Conversation Msg) : Event Msg → Prop
  | .client label => (talk.client.connections conn).destroyedAt = none ∧ Whole conn label
  | .serve heaps _ => heaps.1.Succeeds ∧ heaps.2.Succeeds

/-- Besides, no call was made while the name was being resolved for another. -/
def AssumedUnoverlapped (conn : ConnRef) (talk : Conversation Msg) (event : Event Msg) : Prop :=
  Assumed conn talk event ∧ (talk.client.connections conn).overlapped = false

/-- The response is what the service made of the request of this call. -/
def Produced (services : Services Msg) (perform : Method Msg → Msg → Outcome Msg)
    (call : Client.Call Msg) (response : Option Msg) : Prop :=
  ∃ method request result message,
    findTarget services call.methodIdentity = .ok method ∧
    method.request.parse (call.requestFormat.serialize call.request) = some request ∧
    perform method request = .returns result ∧
    call.responseFormat.parse (method.response.serialize result) = some message ∧
    response = some message

/-- With one descriptor on both sides the message itself comes back. -/
theorem Produced.eq {services : Services Msg} {perform : Method Msg → Msg → Outcome Msg}
    {call : Client.Call Msg} {response : Option Msg} {service : Service Msg} {method : Method Msg}
    {isSetRequest isSetResponse : Msg → Bool} (produced : Produced services perform call response)
    (matched : Matches services service method call)
    (request : method.request.Lawful isSetRequest) (answer : method.response.Lawful isSetResponse) :
    ∃ result, perform method call.request = .returns result ∧ response = some result := by
  obtain ⟨other, asked, result, message, found, read, returned, parsed, rfl⟩ := produced
  rw [matched.findTarget] at found
  cases found
  have requested : asked = call.request := by
    rw [matched.requestFormat] at read
    cases set : isSetRequest call.request with
    | true => exact Option.some.inj (read.symm.trans (request.parse_serialize _ set))
    | false => cases read.symm.trans (request.parse_incomplete _ set)
  have answered : message = result := by
    rw [matched.responseFormat] at parsed
    cases set : isSetResponse result with
    | true => exact Option.some.inj (parsed.symm.trans (answer.parse_serialize _ set))
    | false => cases parsed.symm.trans (answer.parse_incomplete _ set)
  rw [requested] at returned
  exact ⟨result, returned, congrArg some answered⟩

section Answers

variable [Protobuf] [LawfulProtobuf] {services : Services Msg}
  {perform : Method Msg → Msg → Outcome Msg} {call : Client.Call Msg} {id : Nat} {ended : Reply}

/-- A response has the id of its request, and one with success has the message of the
service. -/
structure Responds (services : Services Msg) (perform : Method Msg → Msg → Outcome Msg)
    (call : Client.Call Msg) (id : Nat) (ended : Reply) : Prop where
  initialized : ended.rpcResp.isInitialized = true
  id : ended.rpcResp.getId = id
  packet : ended.packet = (responseParts ended.rpcResp ended.resp).packet
  produced : ended.rpcResp.getStatus = .success → ∃ method request result,
    findTarget services call.methodIdentity = .ok method ∧
    method.request.parse (call.requestFormat.serialize call.request) = some request ∧
    perform method request = .returns result ∧ ended.resp = method.response.serialize result

theorem responds_of_answer (small : (requestOf (some id) call).Small)
    (answered : answer Async.dialect services perform (requestOf (some id) call) = .ok ended) :
    Responds services perform call id ended := by
  have metadata := small.slice_rpc
  have parameter := small.slice_req
  have parsed : Protobuf.request.parse (requestOf (some id) call).rpc =
      some ⟨some id, some call.methodIdentity⟩ :=
    LawfulProtobuf.request.parse_serialize _ rfl
  have identity : Request.getMethodIdentity
      ⟨some id, some call.methodIdentity⟩ =
      call.methodIdentity := rfl
  rw [answer, reply, metadata] at answered
  simp only [bind, Except.bind, parsed, identity] at answered
  cases found : findTarget services call.methodIdentity with
  | error text =>
      rw [found] at answered
      cases answered
  | ok method =>
      simp only [found, parameter] at answered
      have asked : (requestOf (some id) call).req = call.requestFormat.serialize call.request := rfl
      rw [asked] at answered
      cases read : method.request.parse (call.requestFormat.serialize call.request) with
      | none =>
          rw [read] at answered
          cases answered
      | some request =>
          simp only [read] at answered
          cases outcome : perform method request with
          | returns result =>
              rw [outcome] at answered
              cases answered
              exact ⟨rfl, rfl, rfl, fun _ => ⟨method, request, result, found, read, outcome, rfl⟩⟩
          | fails reason result =>
              rw [outcome] at answered
              cases answered
              exact ⟨rfl, rfl, rfl, by rintro ⟨⟩⟩
          | throws what result =>
              rw [outcome] at answered
              cases answered
              exact ⟨rfl, rfl, rfl, by rintro ⟨⟩⟩

end Answers

end CarrotRpc.Protocol.Conversing
