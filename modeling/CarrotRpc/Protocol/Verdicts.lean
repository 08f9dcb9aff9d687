import CarrotRpc.Client.Answered
import CarrotRpc.Client.BlockingProperties
import CarrotRpc.Client.ChannelRuns
import CarrotRpc.Protob.WireFormat
import CarrotRpc.Server.AsyncReplies

/-! What the callers of both clients learn of how a call ended on an async server. -/

set_option autoImplicit false

namespace CarrotRpc.Protocol.Verdicts

open Library Library.Faulting Common Protob
open Server (Services)
open Server.Async (asyncServer)
open Server.Async.RpcServerConnection (handleReadPayload)

/-- The error code a status is mapped to. -/
def errorCode : Status → ErrorCode
  | .success => .success
  | .error => .error
  | .notFound => .methodNotFound
  | .failed => .failed

/-- The controller tells whether the call failed, and of a failure on the server its code
and its text. -/
structure Learns (rpcResp : Response) (parsed : Bool) (controller : CarrotController) : Prop where
  failed : controller.failed = true ↔ rpcResp.getStatus ≠ .success ∨ parsed = false
  told : rpcResp.getStatus ≠ .success → controller.code = errorCode rpcResp.getStatus ∧
    rpcResp.getMessage.toList <:+: controller.errorText.toList

section Controllers

variable {Msg : Type} {rpcResp : Response} {controller : CarrotController}

/-- The switch alone gets it right. -/
theorem learns_applyStatus (fresh : controller.failed = false) :
    Learns rpcResp true (Client.Blocking.applyStatus rpcResp controller) := by
  have told : ∀ before : String, rpcResp.getMessage.toList <:+:
      (before ++ rpcResp.getMessage).toList := by
    intro before
    rw [String.toList_append]
    exact (List.suffix_append _ _).isInfix
  cases status : rpcResp.getStatus with
  | success =>
      simp only [Client.Blocking.applyStatus, status]
      constructor
      · simp [fresh, status]
      · intro wrong
        exact absurd status wrong
  | error | notFound | failed =>
      simp only [Client.Blocking.applyStatus, status]
      constructor
      · simp [status]
      · intro _
        rw [status]
        exact ⟨rfl, told _⟩

/-- A parameter that does not parse overwrites what the switch has set. -/
theorem learns_iff {format : MessageFormat Msg} {parameter : List UInt8}
    (fresh : controller.failed = false) :
    Learns rpcResp (format.parse parameter).isSome
        (Client.Blocking.parseResponse format parameter
          (Client.Blocking.applyStatus rpcResp controller)).1 ↔
      rpcResp.getStatus = .success ∨ (format.parse parameter).isSome = true := by
  have switched : Learns rpcResp _ _ := learns_applyStatus fresh
  cases parsed : format.parse parameter with
  | some message =>
      simp only [Client.Blocking.parseResponse, parsed, Option.isSome_some, or_true, iff_true]
      exact switched
  | none =>
      simp only [Client.Blocking.parseResponse, parsed, Option.isSome_none, Bool.false_eq_true,
        or_false]
      constructor
      · intro learns
        by_contra failure
        have code := (learns.told failure).1
        cases status : rpcResp.getStatus with
        | success => exact failure status
        | error | notFound | failed =>
            rw [status] at code
            cases code
      · intro success
        constructor
        · simp [CarrotController.setFailedWith]
        · intro failure
          exact absurd success failure

end Controllers

section Clients

variable {Msg : Type} [Protobuf] {rpcResp : Response} {resp : List UInt8}

/-- The parts of a response packet. -/
def responseParts (rpcResp : Response) (resp : List UInt8) : Parts :=
  ⟨Protobuf.response.serialize rpcResp, [], resp⟩

/-- A response packet reaches the blocking client: the request goes out, memory for the
response is found, and the packet is the next to arrive. -/
structure ReachesBlocking (parts : Parts) (call : Client.Call Msg)
    (transfer : Client.Blocking.Transfer) (endpoint : Endpoint) : Prop where
  narrow : (Client.Blocking.requestParts call).Narrow
  ready : Client.Blocking.prepared call = .ok (Client.Blocking.requestParts call).packet
  whole : (Client.Blocking.requestParts call).packet.length ≤ transfer.accepted
  finds : Client.Blocking.FindsMemory transfer.heap (Client.Blocking.requestParts call).packet.length
    (Client.Blocking.requestParts call).packet parts.payload.length
  arrives : parts.packet <+: endpoint.incoming.flatten

/-- A response packet reaches the async client: it is in the packet buffer, and it has the
id of a call that was not completed. -/
structure ReachesAsync (parts : Parts) (id : Nat) (state : Client.State Msg)
    (conn : Client.ConnRef) (data : List UInt8) (task : Client.TaskRef) : Prop where
  header : (state.connections conn).header = parts.header
  payload : parts.payload <+: data
  present : (state.connections conn).buf.p.isSome = true
  enough : .ofNat sizeofPacket ≤ (state.connections conn).buf.size
  listed : (state.connections conn).outgoingTasks.find? id = some task
  uncalled : (state.tasks task).called = false

theorem callMethod_learns [LawfulProtobuf] {call : Client.Call Msg}
    {transfer : Client.Blocking.Transfer} {endpoint : Endpoint}
    (initialized : rpcResp.isInitialized = true) (small : (responseParts rpcResp resp).Small)
    (reaches : ReachesBlocking (responseParts rpcResp resp) call transfer endpoint) :
    (Client.Blocking.callMethod call transfer endpoint).2 =
      some (Client.Blocking.parseResponse call.responseFormat resp
        (Client.Blocking.applyStatus rpcResp call.controller)) := by
  obtain ⟨rest, arrives⟩ := reaches.arrives
  let start : Endpoint := { endpoint with buf := {} }
  obtain ⟨next, ran, -⟩ : ∃ next, Client.Blocking.transact call transfer start =
      (next, Client.Blocking.interpreted (responseParts rpcResp resp)) ∧
      next.incoming.flatten = rest ∧
      next.sent = endpoint.sent ++ (Client.Blocking.requestParts call).packet :=
    Client.Blocking.transact_ends reaches.narrow rfl reaches.ready reaches.whole small
      reaches.finds arrives.symm
  have parsed := LawfulProtobuf.response.parse_serialize rpcResp initialized
  simp only [Client.Blocking.callMethod, start] at ran ⊢
  rw [ran]
  simp only [Client.Blocking.interpreted, responseParts, parsed, List.nil_append, List.take_length,
    Client.Blocking.conclude]

theorem receivePayload_learns [LawfulProtobuf] {state : Client.State Msg} {conn : Client.ConnRef}
    {data : List UInt8} {task : Client.TaskRef} (heap : Realloc)
    (initialized : rpcResp.isInitialized = true) (small : (responseParts rpcResp resp).Small)
    (reaches : ReachesAsync (responseParts rpcResp resp) rpcResp.getId state conn data task) :
    let before := state.answered conn task rpcResp resp
    state.receivePayload heap conn data =
      (before.runDone (before.tasks task).done.run task, none) := by
  obtain ⟨rest, rfl⟩ := reaches.payload
  obtain ⟨block, present⟩ := Option.isSome_iff_exists.mp reaches.present
  obtain ⟨rpcLen, -, respLen⟩ := small.lengths
  have parsed := LawfulProtobuf.response.parse_serialize rpcResp initialized
  have metadata : ((responseParts rpcResp resp).payload ++ rest).take
      (state.connections conn).header.rpcLen.toNat = Protobuf.response.serialize rpcResp := by
    rw [reaches.header, rpcLen, Parts.payload, List.append_assoc, List.append_assoc]
    exact List.take_left
  have parameter : (((responseParts rpcResp resp).payload ++ rest).drop
      (state.connections conn).header.rpcLen.toNat).take
        (state.connections conn).header.respLen.toNat = resp := by
    rw [reaches.header, rpcLen, respLen, Parts.payload, List.append_assoc, List.append_assoc,
      List.drop_left]
    exact List.take_left
  have ended : state.receivePayload heap conn ((responseParts rpcResp resp).payload ++ rest) = _ :=
    Client.State.receivePayload_found (metadata.symm ▸ parsed) reaches.listed reaches.uncalled
      present reaches.enough
  rw [parameter] at ended
  exact ended

end Clients

/-- Every packet that an async server writes is the response to some call, or to a
request for an unknown method. When it reaches the blocking or the async client and the
controller is fresh, the caller learns how the call ended exactly when the call succeeded
on the server or the response parameter parses. -/
theorem verdicts_learned_iff {Msg : Type} [Protobuf] [LawfulProtobuf] {services : Services Msg}
    {server : Server.Async.State} {ref : Server.Async.ConnRef} {turn : Server.Turn Msg} {size : Nat}
    {bytes packet : List UInt8} {next : Server.Async.RpcServerConnection}
    (reached : (asyncServer services).Reachable server)
    (wrote : handleReadPayload services turn size bytes (server.connections ref) =
      (next, .ok (.write packet))) :
    ∃ rpcReq rpcResp resp,
      Server.Answers Server.Async.dialect services turn.perform rpcReq rpcResp (some resp) ∧
      packet = (responseParts rpcResp resp).packet ∧
      (∀ (call : Client.Call Msg) transfer endpoint, call.controller.failed = false →
        ReachesBlocking (responseParts rpcResp resp) call transfer endpoint →
        ∃ controller response,
          (Client.Blocking.callMethod call transfer endpoint).2 = some (controller, response) ∧
          (Learns rpcResp (call.responseFormat.parse resp).isSome controller ↔
            rpcResp.getStatus = .success ∨ (call.responseFormat.parse resp).isSome = true)) ∧
      ∀ (state : Client.State Msg) conn task data heap,
        (state.tasks task).controller.failed = false →
        ReachesAsync (responseParts rpcResp resp) rpcResp.getId state conn data task →
        let before := state.answered conn task rpcResp resp
        state.receivePayload heap conn data =
            (before.runDone (before.tasks task).done.run task, none) ∧
          (Learns rpcResp ((state.tasks task).call.responseFormat.parse resp).isSome
              (before.tasks task).controller ↔
            rpcResp.getStatus = .success ∨
              ((state.tasks task).call.responseFormat.parse resp).isSome = true) := by
  have sound := (Server.Async.State.seated_reachable reached).sound ref
  obtain ⟨rpcReq, rpcResp, resp, -, answers, laid, room, limit⟩ :=
    Server.Async.RpcServerConnection.answers_of_write sound wrote
  have bound := room.trans limit
  have laid : packet = (responseParts rpcResp resp).packet := laid
  have initialized := answers.initialized
  have small : (responseParts rpcResp resp).Small := by
    rw [laid, Parts.length_packet] at bound
    exact bound
  refine ⟨rpcReq, rpcResp, resp, answers, laid, ?_, ?_⟩
  · intro call transfer endpoint fresh reaches
    exact ⟨_, _, callMethod_learns initialized small reaches, learns_iff fresh⟩
  · intro state conn task data heap fresh reaches
    refine ⟨receivePayload_learns heap initialized small reaches, ?_⟩
    have told : ((state.answered conn task rpcResp resp).tasks task).controller = _ :=
      Client.State.controller_learn
    rw [told]
    exact learns_iff fresh

/-- Messages with one field, which is required: an unset one is written as no bytes. -/
def strictFormat : MessageFormat (List UInt8) where
  serialize := id
  parse bytes := if bytes = [] then none else some bytes

def strictServices : Services (List UInt8) :=
  (Server.registerService
    { name := "Echo"
      methods := [{ name := "ping", request := ⟨id, some⟩, response := strictFormat }]
      undotted := Server.echo_undotted } .empty).1

/-- The method calls `SetFailed` after it has set the field of its response, or before. -/
def failingTurn (response : List UInt8) : Server.Turn (List UInt8) :=
  { Server.sampleTurn 100 with perform := fun _ _ => .fails "no such user" response }

def strictCall : Client.Call (List UInt8) :=
  { Client.sampleCall 0 [7] with responseFormat := strictFormat }

def sampleTransfer : Client.Blocking.Transfer :=
  { heap := .zeroed, accepted := 100, strerror := "" }

/-- The response to a call that failed on the server. -/
def failedParts (response : List UInt8) : Parts :=
  responseParts ⟨some 1, some .failed, some "no such user"⟩ response

theorem reachesBlocking_strictCall (parts : Parts) :
    ReachesBlocking parts strictCall sampleTransfer { incoming := [parts.packet] } where
  narrow := by decide
  ready := by decide
  whole := by decide
  finds := fun _ => rfl
  arrives := by
    rw [List.flatten_cons, List.flatten_nil, List.append_nil]

theorem writes_failed (response : List UInt8)
    (observed : ((asyncServer strictServices).run (Server.Async.State.sampleRequest.take 5)
        (asyncServer strictServices).initial).map
      (fun server => (handleReadPayload strictServices (failingTurn response) 14
        Server.samplePayload (server.connections 0)).2) =
      some (.ok (.write (failedParts response).packet))) :
    ∃ server next, (asyncServer strictServices).Reachable server ∧
      handleReadPayload strictServices (failingTurn response) 14 Server.samplePayload
        (server.connections 0) = (next, .ok (.write (failedParts response).packet)) := by
  obtain ⟨server, reached, wrote⟩ :=
    (asyncServer strictServices).exists_reachable_of_run observed
  exact ⟨server, _, reached, apply_eq wrote⟩

/-- The method sets its response before it fails. -/
theorem verdicts_learned_iff_failed :
    ∃ rpcResp resp, (failedParts [5]).packet = (responseParts rpcResp resp).packet ∧
      ∃ controller response,
        (Client.Blocking.callMethod strictCall sampleTransfer
          { incoming := [(failedParts [5]).packet] }).2 = some (controller, response) ∧
        (Learns rpcResp (strictFormat.parse resp).isSome controller ↔
          rpcResp.getStatus = .success ∨ (strictFormat.parse resp).isSome = true) := by
  obtain ⟨server, next, reached, wrote⟩ := writes_failed [5] (by decide)
  obtain ⟨-, rpcResp, resp, -, laid, blocking, -⟩ := verdicts_learned_iff reached wrote
  refine ⟨rpcResp, resp, laid, ?_⟩
  rw [laid]
  exact blocking strictCall sampleTransfer { incoming := [(responseParts rpcResp resp).packet] } rfl
    (reachesBlocking_strictCall _)

/-- The method fails before it sets its response: the caller is told of a response that
could not be read. -/
theorem verdict_lost :
    ∃ server next, (asyncServer strictServices).Reachable server ∧
      handleReadPayload strictServices (failingTurn []) 14 Server.samplePayload
        (server.connections 0) = (next, .ok (.write (failedParts []).packet)) ∧
      ReachesBlocking (failedParts []) strictCall sampleTransfer
        { incoming := [(failedParts []).packet] } ∧
      ∀ controller response,
        (Client.Blocking.callMethod strictCall sampleTransfer
          { incoming := [(failedParts []).packet] }).2 = some (controller, response) →
        ¬ Learns ⟨some 1, some .failed, some "no such user"⟩ (strictFormat.parse []).isSome
          controller := by
  obtain ⟨server, next, reached, wrote⟩ := writes_failed [] (by decide)
  refine ⟨server, next, reached, wrote, reachesBlocking_strictCall _, ?_⟩
  intro controller response concluded learns
  have code : ((Client.Blocking.callMethod strictCall sampleTransfer
      { incoming := [(failedParts []).packet] }).2.map fun ended => ended.1.code) =
      some .serializationError := by
    decide
  rw [concluded] at code
  have told := (learns.told (by decide)).1
  rw [Option.map_some, told] at code
  cases code

end CarrotRpc.Protocol.Verdicts
