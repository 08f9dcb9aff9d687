import CarrotRpc.Client.SetUp
import CarrotRpc.Protocol.Serving
import CarrotRpc.Protocol.Verdicts
import CarrotRpc.Server.Arrivals

/-! One call from end to end, for each client and each server: what the client writes is
what the server receives, and what the server sends back is what the client reads. -/

set_option autoImplicit false

namespace CarrotRpc.Protocol.Pairings

open Library Library.Faulting Common Protob
open Server Serving
open Streams (Link)
open Verdicts (responseParts)

inductive ServerSide (Msg : Type) where
  | simple (turn : Turn Msg) (endpoint : Endpoint)
  | threaded (turn : Turn Msg) (endpoint : Endpoint)
  | async (turn : Realloc × Turn Msg) (link : Link)

/-- A blocking client with its socket, or a task of the async client that is about to be
started; the heaps are those of the two read handlers. -/
inductive ClientSide (Msg : Type) where
  | blocking (transfer : Client.Blocking.Transfer) (endpoint : Endpoint)
  | async (state : Client.State Msg) (conn : Client.ConnRef) (task : Client.TaskRef)
      (heaps : Realloc × Realloc)

section Parties

variable {Msg : Type} [Protobuf]

/-- The packet of a call; only the async client gives its request an id. -/
def requestOf (id : Option Nat) (call : Client.Call Msg) : Parts :=
  ⟨Protobuf.request.serialize
    { id, methodIdentity := some call.methodIdentity },
    call.requestFormat.serialize call.request, []⟩

namespace ServerSide

omit [Protobuf] in
def turn : ServerSide Msg → Turn Msg
  | .simple turn _ | .threaded turn _ => turn
  | .async turn _ => turn.2

/-- The handling of a request that arrives in the given portions. -/
def serve (services : Services Msg) (portions : Incoming) : ServerSide Msg → Except Fault Reply
  | .simple turn endpoint => (Serving.simple services turn { endpoint with incoming := portions }).2
  | .threaded turn endpoint => (Serving.threaded services turn { endpoint with incoming := portions }).2
  | .async turn link => (Serving.async services turn { link with incoming := portions }).2

/-- The buffer is one the server can have, and the environment is kind. Nothing is said of
how much room the async server has for a response. -/
def Ready (services : Services Msg) (parts : Parts) : ServerSide Msg → Prop
  | .simple turn endpoint => endpoint.buf.Exact ∧ Kind Simple.dialect services parts maxSize turn
  | .threaded turn endpoint =>
      Threaded.Expanded endpoint.buf ∧ Kind Threaded.dialect services parts maxSize turn
  | .async turn link => link.Grown ∧ link.conn.server = true ∧ turn.1.Succeeds ∧
      Kind Async.dialect services parts maxSize turn.2

end ServerSide

/-- What a server sends before it closes the connection or waits for another request. -/
def back : Except Fault Reply → List UInt8
  | .ok reply => reply.packet
  | .error _ => []

/-- The handlers of the async client that run when the response arrives, or the end of
the stream. -/
def receive (heaps : Realloc × Realloc) (conn : Client.ConnRef) (state : Client.State Msg) :
    Except Fault Reply → Client.State Msg × Option Client.Thrown
  | .error _ => state.handleReadHeader heaps.1 conn ⟨0, 0, 0⟩ (some .eof)
  | .ok reply =>
      match state.handleReadHeader heaps.1 conn (Header.ofNetwork reply.packet) none with
      | (state, some thrown) => (state, some thrown)
      | (state, none) =>
          let payload := reply.packet.drop sizeofPacket
          state.handleReadPayload heaps.2 conn payload payload.length none

/-- The task is started: it is new, its id is not in use, and nothing fails. -/
structure Starts (call : Client.Call Msg) (conn : Client.ConnRef) (task : Client.TaskRef)
    (state : Client.State Msg) : Prop where
  call : (state.tasks task).call = call
  mine : (state.tasks task).conn = conn
  fresh : (state.tasks task).controller.failed = false
  uncalled : (state.tasks task).called = false
  empty : (state.tasks task).buf = {}
  unlisted : (state.connections conn).outgoingTasks.find? (state.tasks task).id = none
  sized : ∃ largest, (state.connections conn).buf.Grown largest

namespace ClientSide

def parts (call : Client.Call Msg) : ClientSide Msg → Parts
  | .blocking _ _ => requestOf none call
  | .async state _ task _ => requestOf (some (state.tasks task).id) call

/-- What the client writes. -/
def request (call : Client.Call Msg) : ClientSide Msg → List UInt8
  | .blocking transfer _ => (Client.Blocking.transact call transfer {}).1.sent
  | .async state _ task _ =>
      ((state.startCall (state.tasks task).done.run task).tasks task).packet

def Ready (call : Client.Call Msg) : ClientSide Msg → Prop
  | .blocking transfer _ => (requestOf none call).packet.length ≤ transfer.accepted
  | .async state conn task heaps =>
      Starts call conn task state ∧ heaps.1.Succeeds ∧ heaps.2.Succeeds

/-- The call ends with a controller that did not fail and the given response: so
`CallMethod` returns, or so the closure of the task finds them. -/
def Completes (call : Client.Call Msg) (reply : Except Fault Reply) (portions : Incoming)
    (response : Msg) : ClientSide Msg → Prop
  | .blocking transfer endpoint => ∃ controller,
      (Client.Blocking.callMethod call transfer { endpoint with incoming := portions }).2 =
        some (controller, some response) ∧ controller.failed = false
  | .async state conn task heaps =>
      let sent := state.startCall (state.tasks task).done.run task
      let written := (sent.handleWrite conn task none).1
      ∃ before : Client.State Msg,
        receive heaps conn written reply =
          (before.runDone (before.tasks task).done.run task, none) ∧
        (before.tasks task).called = false ∧ (before.tasks task).controller.failed = false ∧
        (before.tasks task).response = some response

end ClientSide

/-- Both sides have one descriptor of a registered method. -/
structure Matches (services : Services Msg) (service : Service Msg) (method : Method Msg)
    (call : Client.Call Msg) : Prop where
  registered : services.find? service.name = some service
  found : service.findMethodByName method.name = some method
  serviceName : call.serviceName = service.name
  methodName : call.methodName = method.name
  requestFormat : call.requestFormat = method.request
  responseFormat : call.responseFormat = method.response

omit [Protobuf] in
theorem Matches.findTarget {services : Services Msg} {service : Service Msg} {method : Method Msg}
    {call : Client.Call Msg} (matched : Matches services service method call) :
    findTarget services call.methodIdentity = .ok method := by
  rw [Client.Call.methodIdentity, matched.serviceName, matched.methodName]
  exact findTarget_registered matched.registered matched.found

omit [Protobuf] in
/-- The required fields of the two messages are set. -/
structure Initialized (method : Method Msg) (request response : Msg) : Prop where
  request : ∃ isSet, method.request.Lawful isSet ∧ isSet request = true
  response : ∃ isSet, method.response.Lawful isSet ∧ isSet response = true

/-- Both sides set the ids, and the response fits the packet its request came in, or the
largest one before, rounded up to a power of two. -/
def ResponseFits (call : Client.Call Msg) (method : Method Msg) (response : Msg) :
    ClientSide Msg → ServerSide Msg → Prop
  | .async state _ task _, .async _ link =>
      responseSize ⟨some (state.tasks task).id, some .success, none⟩
          (method.response.serialize response) ≤
        roundUp (max link.conn.largest.toNat
          (requestOf (some (state.tasks task).id) call).packet.length)
  | .blocking _ _, _ | .async _ _ _ _, .simple _ _ | .async _ _ _ _, .threaded _ _ => False

end Parties

section Answers

variable {Msg : Type} [Protobuf] [LawfulProtobuf] {services : Services Msg}
  {service : Service Msg} {method : Method Msg} {call : Client.Call Msg} {response : Msg}
  {perform : Method Msg → Msg → Outcome Msg} {dialect : Dialect}

/-- Without an id a request is refused by every server. -/
theorem answer_unidentified (small : (requestOf none call).Small) :
    answer dialect services perform (requestOf none call) = .error .metadataUnparsed := by
  have metadata := small.slice_rpc
  have parsed : Protobuf.request.parse (requestOf none call).rpc = none :=
    LawfulProtobuf.request.parse_incomplete _ rfl
  rw [answer, reply, metadata]
  simp only [bind, Except.bind, parsed]

theorem answer_identified {id : Nat} (small : (requestOf (some id) call).Small)
    (matched : Matches services service method call)
    (initialized : Initialized method call.request response)
    (produces : perform method call.request = .returns response) :
    answer dialect services perform (requestOf (some id) call) =
      .ok (.of ⟨if dialect.setsId then some id else none, some .success, none⟩
        (method.response.serialize response)) := by
  obtain ⟨isSet, lawful, set⟩ := initialized.request
  have metadata := small.slice_rpc
  have parameter := small.slice_req
  have parsed : Protobuf.request.parse (requestOf (some id) call).rpc =
      some ⟨some id, some call.methodIdentity⟩ :=
    LawfulProtobuf.request.parse_serialize _ rfl
  have named := matched.findTarget
  have read : method.request.parse (requestOf (some id) call).req = some call.request := by
    simp only [requestOf, matched.requestFormat]
    exact lawful.parse_serialize _ set
  have identity : Request.getMethodIdentity
      ⟨some id, some call.methodIdentity⟩ =
      call.methodIdentity := rfl
  rw [answer, reply, metadata]
  simp only [bind, Except.bind, parsed, identity, named, parameter, read, produces, Dialect.settle]
  cases sets : dialect.setsId <;> simp only [Dialect.stamp, sets] <;> rfl

end Answers

section Clients

variable {Msg : Type} [Protobuf] {call : Client.Call Msg} {conn : Client.ConnRef}
  {task : Client.TaskRef} {state : Client.State Msg} {parts : Parts}

/-- The packet of the task was sent, and its response is awaited. -/
structure Awaits (id : Nat) (call : Client.Call Msg) (conn : Client.ConnRef)
    (task : Client.TaskRef) (state : Client.State Msg) : Prop where
  call : (state.tasks task).call = call
  fresh : (state.tasks task).controller.failed = false
  uncalled : (state.tasks task).called = false
  listed : (state.connections conn).outgoingTasks.find? id = some task
  sized : ∃ largest, (state.connections conn).buf.Grown largest

theorem startCall_sends {body : Client.State Msg → Client.State Msg}
    (starts : Starts call conn task state) (nominal : call.Nominal)
    (small : (requestOf (some (state.tasks task).id) call).Small) :
    ((state.startCall body task).tasks task).packet =
        (requestOf (some (state.tasks task).id) call).packet ∧
      Awaits (state.tasks task).id call conn task (state.startCall body task) := by
  let lent := state.borrow task
  have record : (lent.tasks task).call = call ∧ (lent.tasks task).conn = conn ∧
      (lent.tasks task).id = (state.tasks task).id ∧ (lent.tasks task).buf = {} ∧
      (lent.tasks task).controller = (state.tasks task).controller ∧
      (lent.tasks task).called = (state.tasks task).called := by
    simp [lent, Client.State.borrow, starts.call, starts.mine, starts.empty]
  obtain ⟨sameCall, mine, sameId, empty, controller, called⟩ := record
  have limit : maxSize = 2 ^ 31 := rfl
  have length := small
  rw [Parts.Small, Parts.length_payload] at length
  simp only [requestOf, List.length_nil, Nat.add_zero, ← Nat.add_assoc] at length
  let total : Nat := sizeofPacket +
    (Protobuf.request.serialize ⟨some (state.tasks task).id,
      some call.methodIdentity⟩).length +
    (call.requestFormat.serialize call.request).length
  have size : (UInt32.ofNat total).toNat = total := toNat_ofNat_of_le length
  obtain ⟨grown, block, expanded, -, -, -⟩ := expandPacket_total (.ofNat total)
    PacketBuf.Grown.initial (by rw [size]; exact length) nominal.heap
  simp only [total] at expanded
  simp only [Client.State.startCall, lent] at sameCall mine sameId empty controller called ⊢
  simp only [sameCall, mine, sameId, empty, expanded, Bool.not_true, Bool.false_eq_true,
    if_false, nominal.metadata, nominal.request]
  constructor
  · simp only [Client.State.startOnSocket, Client.State.tasks_start, Client.State.tasks_modifyTask,
      if_true]
    rfl
  · obtain ⟨largest, sound⟩ := starts.sized
    constructor
    · simp [Client.State.startOnSocket, Client.State.tasks_setupTaskTimer, Client.State.borrow,
        starts.call]
    · simp [Client.State.startOnSocket, Client.State.tasks_setupTaskTimer, Client.State.borrow,
        starts.fresh]
    · simp [Client.State.startOnSocket, Client.State.tasks_setupTaskTimer, Client.State.borrow,
        starts.uncalled]
    · have unlisted : ((state.borrow task).connections conn).outgoingTasks.find?
          (state.tasks task).id = none := starts.unlisted
      simp only [Client.State.startOnSocket, Client.State.connections_start,
        Client.State.connections_modifyTask, Client.State.connections_setupTaskTimer,
        Client.State.connections_modifyConn, if_true, OrderedMap.find?_insert unlisted]
    · refine ⟨largest, ?_⟩
      simp only [Client.State.startOnSocket, Client.State.connections_start,
        Client.State.connections_modifyTask, Client.State.connections_setupTaskTimer,
        Client.State.connections_modifyConn, if_true]
      exact sound

theorem Awaits.handleWrite {id : Nat} (awaits : Awaits id call conn task state) :
    Awaits id call conn task (state.handleWrite conn task none).1 := by
  constructor
  · simp [Client.State.handleWrite, awaits.call]
  · simp [Client.State.handleWrite, awaits.fresh]
  · simp [Client.State.handleWrite, awaits.uncalled]
  · exact awaits.listed
  · exact awaits.sized

/-- After its header a packet finds the buffer large enough and the call still waiting. -/
theorem handleReadHeader_reads {id : Nat} {heap : Realloc} (awaits : Awaits id call conn task state)
    (small : parts.Small) (succeeds : heap.Succeeds) :
    ∃ next, state.handleReadHeader heap conn parts.header none = (next, none) ∧
      next.tasks = state.tasks ∧
      Verdicts.ReachesAsync parts id next conn parts.payload task := by
  obtain ⟨largest, sound⟩ := awaits.sized
  obtain ⟨grown, block, expanded, kept, present, length⟩ :=
    expandPacket_total (packetSize parts.header) sound (packetSize_le small.size) succeeds
  let counted := state.modifyConn conn fun connection =>
    { connection with header := parts.header, n := lengthSum parts.header }
  have buffered : (counted.connections conn).buf = (state.connections conn).buf := by
    simp [counted]
  have grew : (grow fun buf => expandPacket heap buf (clientSize parts.header))
      (counted.connections conn).buf = (grown, .ok ()) := by
    rw [clientSize_eq, buffered]
    simp only [grow, expanded, if_true]
  let next := (counted.modifyConn conn fun connection =>
    { connection with buf := grown }).startOnSocket conn .readPayload
  have ran : state.handleReadHeader heap conn parts.header none = (next, none) := by
    rw [AsyncClient.handleReadHeader_eq]
    simp only [counted] at grew
    simp only [grew]
    rfl
  have connection : next.connections conn =
      { state.connections conn with
        header := parts.header, n := lengthSum parts.header, buf := grown } := by
    simp [next, counted, Client.State.startOnSocket]
  have size : sizeofPacket ≤ (packetSize parts.header).toNat := by
    rw [packetSize_of_lt (small.size.trans_lt (by decide))]
    exact Nat.le_add_right _ _
  refine ⟨next, ran, rfl, ?_⟩
  constructor
  · rw [connection]
  · exact List.prefix_refl _
  · rw [connection, present]
    rfl
  · have twelve : (UInt32.ofNat sizeofPacket).toNat = sizeofPacket := rfl
    rw [connection, UInt32.le_iff_toNat_le, twelve, ← kept.exact block present, length]
    exact size.trans ((Nat.le_max_right _ _).trans (le_roundUp _))
  · rw [connection]
    exact awaits.listed
  · exact awaits.uncalled

theorem receive_ok {heaps : Realloc × Realloc} {reply : Reply} {header : Header}
    {payload : List UInt8} {next : Client.State Msg}
    (laid : reply.packet = header.toNetwork ++ payload)
    (ran : state.handleReadHeader heaps.1 conn header none = (next, none)) :
    receive heaps conn state (.ok reply) = next.receivePayload heaps.2 conn payload := by
  have found : Header.ofNetwork reply.packet = header := by
    rw [laid, Async.ofNetwork_append (Header.length_toNetwork _), Header.ofNetwork_toNetwork]
  have behind : reply.packet.drop sizeofPacket = payload := by
    rw [laid, List.drop_left' (Header.length_toNetwork _)]
  rw [receive, found, ran]
  simp only [behind, Client.State.handleReadPayload]

/-- Both read handlers of the async client have run. -/
theorem receive_reads {id : Nat} {heaps : Realloc × Realloc} {rpcResp : Response}
    {resp : List UInt8} (awaits : Awaits id call conn task state)
    (small : (responseParts rpcResp resp).Small) (succeeds : heaps.1.Succeeds) :
    ∃ next, receive heaps conn state (.ok (.of rpcResp resp)) =
        next.receivePayload heaps.2 conn (responseParts rpcResp resp).payload ∧
      next.tasks = state.tasks ∧
      Verdicts.ReachesAsync (responseParts rpcResp resp) id next conn
        (responseParts rpcResp resp).payload task := by
  obtain ⟨next, ran, same, reaches⟩ := handleReadHeader_reads awaits small succeeds
  have laid : (Reply.of rpcResp resp).packet = (responseParts rpcResp resp).header.toNetwork ++
      (responseParts rpcResp resp).payload := by
    rw [← Parts.packet_eq, Reply.of, Parts.packet]
    simp only [responseParts]
  exact ⟨next, receive_ok laid ran, same, reaches⟩

theorem receive_completes [LawfulProtobuf] {heaps : Realloc × Realloc} {rpcResp : Response}
    {resp : List UInt8} {response : Msg} (awaits : Awaits rpcResp.getId call conn task state)
    (small : (responseParts rpcResp resp).Small) (succeeds : heaps.1.Succeeds)
    (initialized : rpcResp.isInitialized = true) (success : rpcResp.getStatus = .success)
    (parses : call.responseFormat.parse resp = some response) :
    ∃ before : Client.State Msg, receive heaps conn state (.ok (.of rpcResp resp)) =
        (before.runDone (before.tasks task).done.run task, none) ∧
      (before.tasks task).called = false ∧ (before.tasks task).controller.failed = false ∧
      (before.tasks task).response = some response := by
  obtain ⟨next, read, same, reaches⟩ := receive_reads awaits small succeeds
  have learned := Verdicts.receivePayload_learns heaps.2 initialized small reaches
  have parsed : (state.tasks task).call.responseFormat.parse resp = some response := by
    rw [awaits.call]
    exact parses
  refine ⟨next.answered conn task rpcResp resp, read.trans learned, ?_, ?_, ?_⟩
  · change ((next.learn task rpcResp resp).tasks task).called = false
    rw [Client.State.called_learn, same]
    exact awaits.uncalled
  · change ((next.learn task rpcResp resp).tasks task).controller.failed = false
    rw [Client.State.controller_learn]
    simp only [Client.Blocking.parseResponse, Client.Blocking.applyStatus, success, same, parsed]
    exact awaits.fresh
  · rw [← same] at parsed
    exact Client.State.response_learn parsed

/-- A response without an id makes the client give up the connection. -/
theorem receive_unidentified [LawfulProtobuf] {id : Nat} {heaps : Realloc × Realloc}
    {rpcResp : Response} {resp : List UInt8} (awaits : Awaits id call conn task state)
    (small : (responseParts rpcResp resp).Small) (succeeds : heaps.1.Succeeds)
    (incomplete : rpcResp.isInitialized = false) :
    (receive heaps conn state (.ok (.of rpcResp resp))).2 ≠ none := by
  obtain ⟨next, read, -, reaches⟩ := receive_reads awaits small succeeds
  obtain ⟨rpcLen, -, -⟩ := small.lengths
  have metadata : (responseParts rpcResp resp).payload.take
      (next.connections conn).header.rpcLen.toNat = Protobuf.response.serialize rpcResp := by
    rw [reaches.header, rpcLen, Parts.payload, List.append_assoc]
    exact List.take_left
  have parsed := LawfulProtobuf.response.parse_incomplete rpcResp incomplete
  rw [read, Client.State.receivePayload]
  simp only [metadata, parsed]
  rintro ⟨⟩

theorem small_of_packet {rpcResp : Response} {resp : List UInt8}
    (fits : (Reply.of rpcResp resp).packet.length ≤ maxSize) :
    (responseParts rpcResp resp).Small := by
  rw [Parts.Small, ← Parts.length_packet]
  exact fits

/-- The simple and the threaded server give their response no id. -/
theorem not_completes_unidentified [LawfulProtobuf] {id : Nat} {heaps : Realloc × Realloc}
    {here : Incoming} {resp : List UInt8} {response : Msg} {served : Except Fault Reply}
    (awaits : Awaits id call conn task (state.startCall (state.tasks task).done.run task))
    (succeeds : heaps.1.Succeeds)
    (replied : served = .ok (.of ⟨none, some .success, none⟩ resp))
    (fits : (Reply.of ⟨none, some .success, none⟩ resp).packet.length ≤ maxSize) :
    ¬ (ClientSide.async state conn task heaps).Completes call served here response := by
  intro completes
  obtain ⟨before, received, -⟩ := completes
  rw [replied] at received
  exact receive_unidentified awaits.handleWrite (small_of_packet fits) succeeds rfl
    (congrArg Prod.snd received)

/-- A blocking client that reads nothing fails, wherever it stops. -/
theorem transact_unanswered {transfer : Client.Blocking.Transfer} {start : Endpoint}
    (narrow : (requestOf none call).Narrow) (fresh : start.buf.p = none)
    (nothing : start.incoming.flatten = []) :
    ∃ failure, (Client.Blocking.transact call transfer start).2 = .error failure := by
  cases ready : Client.Blocking.prepared call with
  | error failure =>
      obtain ⟨buf, ran⟩ : ∃ buf, Client.Blocking.transact call transfer start =
          ({ start with buf }, .error failure) :=
        Client.Blocking.transact_unprepared narrow fresh ready
      exact ⟨failure, congrArg Prod.snd ran⟩
  | ok packet =>
      by_cases whole : packet.length ≤ transfer.accepted
      · obtain ⟨sent, -, incoming, -, -, same⟩ :=
          Client.Blocking.transact_sent narrow fresh ready whole
        have short : sent.incoming.flatten.length < sizeofPacket := by
          rw [incoming, nothing]
          decide
        obtain ⟨left, failure, failed, -⟩ := Client.Blocking.recvLengths_short sent short
        have stopped : Client.Blocking.receive transfer.heap packet.length sent =
            ({ sent with incoming := left }, .error failure) := bind_of_error _ failed
        refine ⟨failure, ?_⟩
        rw [same, bind_of_error _ stopped]
      · obtain ⟨buf, ran⟩ : ∃ buf, Client.Blocking.transact call transfer start =
            ({ start with buf, sent := start.sent ++ packet.take transfer.accepted },
              .error .unsent) :=
          Client.Blocking.transact_unsent narrow fresh ready (Nat.lt_of_not_le whole)
        exact ⟨.unsent, congrArg Prod.snd ran⟩

theorem callMethod_unanswered {transfer : Client.Blocking.Transfer} {endpoint : Endpoint}
    {controller : CarrotController} {response : Msg} (narrow : (requestOf none call).Narrow)
    (nothing : endpoint.incoming.flatten = []) :
    (Client.Blocking.callMethod call transfer endpoint).2 ≠ some (controller, some response) := by
  have failed : ∃ failure, (Client.Blocking.transact call transfer
      { endpoint with buf := {} }).2 = .error failure := transact_unanswered narrow rfl nothing
  obtain ⟨failure, failed⟩ := failed
  simp only [Client.Blocking.callMethod, failed, Client.Blocking.conclude]
  intro concluded
  obtain ⟨_, -, same⟩ := Option.map_eq_some_iff.mp concluded
  cases same

end Clients

section Servers

variable {Msg : Type} [Protobuf] {services : Services Msg} {parts : Parts} {there : Incoming}

/-- A server that refuses a request sends nothing. -/
theorem serve_error {server : ServerSide Msg} {fault : Fault} (small : parts.Small)
    (ready : server.Ready services parts) (arrives : there.flatten = parts.packet)
    (refused : ∀ dialect, answer dialect services server.turn.perform parts = .error fault) :
    server.serve services there = .error fault := by
  rw [← List.append_nil parts.packet] at arrives
  cases server with
  | simple turn endpoint =>
      obtain ⟨exact, well⟩ := ready
      obtain ⟨next, ran, -⟩ : ∃ next, Serving.simple services turn
          { endpoint with incoming := there } = (next, _) ∧ _ :=
        simple_serves small exact arrives well
      exact (congrArg Prod.snd ran).trans (refused _)
  | threaded turn endpoint =>
      obtain ⟨expanded, well⟩ := ready
      obtain ⟨next, ran, -⟩ : ∃ next, Serving.threaded services turn
          { endpoint with incoming := there } = (next, _) ∧ _ :=
        threaded_serves small expanded arrives well
      exact (congrArg Prod.snd ran).trans (refused _)
  | async turn link =>
      obtain ⟨sound, alive, succeeds, well⟩ := ready
      have refusing := refused Async.dialect
      have roomy : Kind Async.dialect services parts
          (roundUp (max link.conn.largest.toNat parts.packet.length)) turn.2 :=
        { well with
          fits := fun reply answered => by cases answered.symm.trans refusing }
      obtain ⟨next, ran, -⟩ : ∃ next, Serving.async services turn
          { link with incoming := there } = (next, _) ∧ _ :=
        async_serves small sound alive succeeds arrives roomy
      exact (congrArg Prod.snd ran).trans refusing

end Servers

/-- For every client, server, registered method and pair of messages, in any portions: the
call completes with the response of the method exactly when client and server are the
async ones and the response fits the packet buffer of the server. -/
theorem pairings_complete_iff {Msg : Type} [Protobuf] [LawfulProtobuf] {services : Services Msg}
    {service : Service Msg} {method : Method Msg} {call : Client.Call Msg} {response : Msg}
    (client : ClientSide Msg) (server : ServerSide Msg) (there here : Incoming)
    (matched : Matches services service method call)
    (initialized : Initialized method call.request response)
    (produces : server.turn.perform method call.request = .returns response)
    (nominal : call.Nominal) (small : (client.parts call).Small) (clientReady : client.Ready call)
    (serverReady : server.Ready services (client.parts call))
    (arrives : there.flatten = client.request call)
    (returns : here.flatten = back (server.serve services there)) :
    client.Completes call (server.serve services there) here response ↔
      ResponseFits call method response client server := by
  cases client with
  | blocking transfer endpoint =>
      have written : (ClientSide.blocking transfer endpoint).request call =
          (requestOf none call).packet := by
        obtain ⟨block, given⟩ := Option.isSome_iff_exists.mp
          (nominal.heap none (Client.Blocking.requestSize call))
        have prepared : Client.Blocking.prepared call = .ok (requestOf none call).packet := by
          rw [Client.Blocking.prepared, given]
          simp only [nominal.metadata, nominal.request, Bool.not_true, Bool.false_eq_true, if_false]
          rfl
        have sent : (Client.Blocking.transact call transfer {}).1.sent =
            [] ++ Client.Blocking.taken call transfer :=
          Client.Blocking.transact_writes small.narrow rfl
        rw [ClientSide.request, sent, Client.Blocking.taken, prepared, List.nil_append]
        exact List.take_of_length_le clientReady
      have refused := serve_error small serverReady (arrives.trans written)
        fun dialect => answer_unidentified small
      rw [refused] at returns ⊢
      constructor
      · intro completes
        obtain ⟨controller, ended, -⟩ := completes
        exact absurd ended (callMethod_unanswered small.narrow returns)
      · exact False.elim
  | async state conn task heaps =>
      obtain ⟨starts, memory, -⟩ := clientReady
      obtain ⟨written, sent⟩ : _ ∧ Awaits (state.tasks task).id call conn task
          (state.startCall (state.tasks task).done.run task) :=
        startCall_sends starts nominal small
      have awaits := sent.handleWrite
      have arrived : there.flatten = (requestOf (some (state.tasks task).id) call).packet :=
        arrives.trans written
      rw [← List.append_nil (requestOf _ call).packet] at arrived
      have answered (dialect : Dialect) :
          answer dialect services server.turn.perform
            (requestOf (some (state.tasks task).id) call) = _ :=
        answer_identified small matched initialized produces
      cases server with
      | simple turn endpoint =>
          obtain ⟨exact, well⟩ := serverReady
          obtain ⟨next, ran, -⟩ : ∃ next, Serving.simple services turn
              { endpoint with incoming := there } = (next, _) ∧ _ :=
            simple_serves small exact arrived well
          have served := (congrArg Prod.snd ran).trans (answered Simple.dialect)
          constructor
          · intro completes
            exact absurd completes (not_completes_unidentified sent memory served
              (well.fits _ (answered Simple.dialect)))
          · exact False.elim
      | threaded turn endpoint =>
          obtain ⟨expanded, well⟩ := serverReady
          obtain ⟨next, ran, -⟩ : ∃ next, Serving.threaded services turn
              { endpoint with incoming := there } = (next, _) ∧ _ :=
            threaded_serves small expanded arrived well
          have served := (congrArg Prod.snd ran).trans (answered Threaded.dialect)
          constructor
          · intro completes
            exact absurd completes (not_completes_unidentified sent memory served
              (well.fits _ (answered Threaded.dialect)))
          · exact False.elim
      | async turn link =>
          obtain ⟨sound, alive, succeeds, well⟩ := serverReady
          have replied := answered Async.dialect
          have size : (Reply.of ⟨some (state.tasks task).id, some .success, none⟩
              (method.response.serialize response)).packet.length =
              responseSize ⟨some (state.tasks task).id, some .success, none⟩
                (method.response.serialize response) := by
            rw [Reply.of, length_layout, responseSize, List.length_nil, Nat.add_zero]
          constructor
          · intro completes
            obtain ⟨before, received, -⟩ := completes
            cases served : (ServerSide.async turn link).serve services there with
            | error fault =>
                rw [served] at received
                cases congrArg Prod.snd received
            | ok ended =>
                let fed : Link := { link with incoming := there }
                have sound : fed.Grown := sound
                have arrived : fed.incoming.flatten = _ := arrived
                obtain ⟨same, room⟩ :=
                  async_replies small sound alive ⟨succeeds, well.receives⟩ arrived served
                cases replied.symm.trans same
                exact size.ge.trans room
          · intro fits
            have fitting : (Reply.of ⟨some (state.tasks task).id, some .success, none⟩
                (method.response.serialize response)).packet.length ≤
                roundUp (max link.conn.largest.toNat
                  (requestOf (some (state.tasks task).id) call).packet.length) := size.trans_le fits
            have roomy : Kind Async.dialect services (requestOf (some (state.tasks task).id) call)
                (roundUp (max link.conn.largest.toNat
                  (requestOf (some (state.tasks task).id) call).packet.length)) turn.2 :=
              { well with
                fits := fun reply answered => by
                  cases replied.symm.trans answered
                  exact fitting }
            obtain ⟨next, ran, -⟩ : ∃ next, Serving.async services turn
                { link with incoming := there } = (next, _) ∧ _ :=
              async_serves small sound alive succeeds arrived roomy
            have served : (ServerSide.async turn link).serve services there = _ :=
              (congrArg Prod.snd ran).trans replied
            have parses : call.responseFormat.parse (method.response.serialize response) =
                some response := by
              obtain ⟨isSet, lawful, set⟩ := initialized.response
              rw [matched.responseFormat]
              exact lawful.parse_serialize _ set
            rw [served]
            exact receive_completes awaits (small_of_packet (well.fits _ replied)) memory rfl rfl
              parses

/-- A byte string is a message without required fields. -/
def bytesMethod : Method (List UInt8) := { name := "ping", request := ⟨id, some⟩, response := ⟨id, some⟩ }

theorem lawful_bytes : MessageFormat.Lawful ⟨id, some⟩ fun _ : List UInt8 => true :=
  ⟨fun _ _ => rfl, nofun⟩

def sampleCall : Client.Call (List UInt8) := Client.sampleCall timeoutNever [7]

/-- The first call of a channel, before it is started. -/
def calling : Client.State (List UInt8) :=
  (Client.channel (List UInt8)).initial.callMethod id sampleCall .returns

def sampleClient : ClientSide (List UInt8) :=
  .async calling 0 0 (.zeroed, .zeroed)

theorem starts_calling : Starts sampleCall 0 0 calling :=
  ⟨rfl, rfl, rfl, rfl, rfl, rfl, 0, .initial⟩

theorem matches_sampleCall : Matches sampleServices sampleService bytesMethod sampleCall :=
  ⟨rfl, rfl, rfl, rfl, rfl, rfl⟩

theorem initialized_bytes (request response : List UInt8) :
    Initialized bytesMethod request response :=
  ⟨⟨_, lawful_bytes, rfl⟩, ⟨_, lawful_bytes, rfl⟩⟩

theorem answer_sampleCall (dialect : Dialect) :
    answer dialect sampleServices (sampleTurn 100).perform (requestOf (some 1) sampleCall) =
      .ok (.of ⟨if dialect.setsId then some 1 else none, some .success, none⟩ [7]) :=
  answer_identified (by decide) matches_sampleCall (initialized_bytes [7] [7]) rfl

theorem kind_sampleTurn {dialect : Dialect}
    (fits : (Reply.of ⟨if dialect.setsId then some 1 else none, some .success, none⟩
      [7]).packet.length ≤ 100) :
    Kind dialect sampleServices (requestOf (some 1) sampleCall) maxSize (sampleTurn 100) := by
  refine ⟨Realloc.zeroed_succeeds, Realloc.zeroed_succeeds, rfl, rfl, ?_, ?_⟩
  · intro reply answered
    cases (answer_sampleCall dialect).symm.trans answered
    exact fits.trans (by decide)
  · intro reply answered
    cases (answer_sampleCall dialect).symm.trans answered
    exact fits

/-- An async client and an async server. -/
theorem pairings_complete_iff_async :
    ∃ here, sampleClient.Completes sampleCall
      ((ServerSide.async (.zeroed, sampleTurn 100) ⟨{}, []⟩).serve sampleServices
        [(requestOf (some 1) sampleCall).packet]) here [7] := by
  refine ⟨[back ((ServerSide.async (.zeroed, sampleTurn 100) ⟨{}, []⟩).serve sampleServices
    [(requestOf (some 1) sampleCall).packet])], ?_⟩
  refine (pairings_complete_iff sampleClient (.async (.zeroed, sampleTurn 100) ⟨{}, []⟩) _ _
    matches_sampleCall (initialized_bytes [7] [7]) rfl ⟨Realloc.zeroed_succeeds, rfl, rfl⟩
    (by decide) ⟨starts_calling, Realloc.zeroed_succeeds, Realloc.zeroed_succeeds⟩
    ⟨.initial, rfl, Realloc.zeroed_succeeds, kind_sampleTurn (by decide)⟩ (by decide)
    (List.append_nil _)).mpr ?_
  have packet : responseSize ⟨some 1, some .success, none⟩ [7] ≤
      (requestOf (some 1) sampleCall).packet.length := by decide
  exact (packet.trans (Nat.le_max_right _ _)).trans (le_roundUp _)

/-- Every server refuses the request of the blocking client, which has no id, and the async
client gives up on the response of the simple server, which has none. -/
theorem pairings_fail :
    (∀ server ∈ [ServerSide.simple (sampleTurn 100) {}, .threaded (sampleTurn 100) {},
        .async (.zeroed, sampleTurn 100) ⟨{}, []⟩],
      server.serve sampleServices
        [(ClientSide.blocking Verdicts.sampleTransfer {}).request sampleCall] =
          .error .metadataUnparsed) ∧
      (∀ response, ¬ (ClientSide.blocking Verdicts.sampleTransfer {}).Completes sampleCall
        (.error .metadataUnparsed) [] response) ∧
      (ServerSide.simple (sampleTurn 100) {}).serve sampleServices
        [sampleClient.request sampleCall] = .ok (.of ⟨none, some .success, none⟩ [7]) ∧
      ∀ here response, ¬ sampleClient.Completes sampleCall
        (.ok (.of ⟨none, some .success, none⟩ [7])) here response := by
  refine ⟨?_, ?_, by decide, ?_⟩
  · simp only [List.forall_mem_cons]
    exact ⟨by decide, by decide, by decide, nofun⟩
  · intro response completes
    obtain ⟨controller, ended, -⟩ := completes
    have unread : ((Client.Blocking.callMethod sampleCall Verdicts.sampleTransfer {}).2.map
        Prod.snd) = some none := by
      decide
    rw [ended] at unread
    cases unread
  · intro here response completes
    obtain ⟨before, received, -⟩ := completes
    cases congrArg Prod.snd received

end CarrotRpc.Protocol.Pairings
