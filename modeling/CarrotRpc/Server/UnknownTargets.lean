import CarrotRpc.Protob.WireFormat
import CarrotRpc.Server.AsyncServerProperties
import CarrotRpc.Server.SimpleServer
import CarrotRpc.Server.ThreadedServer

/-! Requests for a method that is not there. -/

set_option autoImplicit false

namespace CarrotRpc.Server

open Library Library.Faulting Common Protob

section Targets

variable {Msg : Type} {services : Services Msg}

/-- The identity has no dot, names no registered service, or names a method its service
does not have. -/
def Unknown (services : Services Msg) (identity : String) : Prop :=
  match splitIdentity identity with
  | none => True
  | some (serviceName, methodName) =>
      ∀ service, services.find? serviceName = some service →
        service.findMethodByName methodName = none

instance (services : Services Msg) (identity : String) : Decidable (Unknown services identity) :=
  match split : splitIdentity identity with
  | none => isTrue (by simp only [Unknown, split])
  | some (serviceName, methodName) =>
      match found : services.find? serviceName with
      | none => isTrue (by simp only [Unknown, split, found]; nofun)
      | some service =>
          decidable_of_iff (service.findMethodByName methodName = none)
            (by simp only [Unknown, split, found, Option.some.injEq, forall_eq'])

theorem findTarget_of_unknown {identity : String} (unknown : Unknown services identity) :
    ∃ text, findTarget services identity = .error text := by
  unfold Unknown at unknown
  unfold findTarget
  cases split : splitIdentity identity with
  | none => exact ⟨_, rfl⟩
  | some names =>
      obtain ⟨serviceName, methodName⟩ := names
      simp only [split] at unknown
      cases found : services.find? serviceName with
      | none => exact ⟨"service not found", by simp only [found]⟩
      | some service =>
          exact ⟨"method not found", by simp only [found, unknown service found]⟩

theorem lookUp_unknown {identity : String} {buf : PacketBuf}
    (unknown : Unknown services identity) :
    ∃ text, lookUp services identity buf = (buf, .ok (.error text)) := by
  obtain ⟨text, missing⟩ := findTarget_of_unknown unknown
  exact ⟨text, by rw [lookUp, missing, pure_apply]⟩

variable [Protobuf]

section Dispatching

variable {turn : Turn Msg} {header : Header} {rpcReq : Request} {buf : PacketBuf}

/-- The dispatcher answers it with NOT_FOUND and no parameter. -/
theorem dispatch_unknown (dialect : Dialect)
    (find : String → Handling (Except String (Method Msg)))
    (perform : Method Msg → Msg → Outcome Msg) {text : String} (asks : Asks header rpcReq buf)
    (found : find rpcReq.getMethodIdentity buf = (buf, .ok (.error text))) :
    dispatch dialect find perform header buf =
      (buf, .ok (dialect.stamp rpcReq { status := some .notFound, message := some text }, none)) := by
  obtain ⟨metadata, ranged, parsed⟩ := asks
  rw [dispatch, bind_of_ok _ ranged]
  simp only [parsed]
  rw [bind_of_ok _ found]
  rfl

theorem Simple.handleClient_unknown {endpoint ready : Endpoint}
    (received : Simple.receive turn.heap endpoint = (ready, .ok header))
    (asks : Asks header rpcReq ready.buf) (unknown : Unknown services rpcReq.getMethodIdentity) :
    Simple.handleClient services turn endpoint = (ready, .error .crashes) := by
  obtain ⟨text, missing⟩ := lookUp_unknown unknown
  have dispatched := onBuffer_eq
    (dispatch_unknown Simple.dialect (lookUp services) turn.perform asks missing)
  rw [Simple.handleClient, bind_of_ok _ received, bind_of_ok _ dispatched]
  -- the arguments of `CARROT_LOG` dereference the NULL response
  exact bind_of_error _ rfl

/-- What the threaded server does once the payload is there. -/
theorem Threaded.dispatch_unknown (turn : Turn Msg) (asks : Asks header rpcReq buf)
    (unknown : Unknown services rpcReq.getMethodIdentity) :
    (do
      let (rpcResp, resp) ← dispatch Threaded.dialect (lookUp services) turn.perform header
      Threaded.preparePacket turn.delivery rpcResp resp : Handling (List UInt8)) buf =
      (buf, .error .crashes) := by
  obtain ⟨text, missing⟩ := lookUp_unknown unknown
  rw [bind_of_ok _ (Server.dispatch_unknown Threaded.dialect _ turn.perform asks missing)]
  rfl

/-- In the async server the lookup itself may go through a NULL server. -/
theorem Async.handleReadPayload_unknown (turn : Turn Msg) {conn : Async.RpcServerConnection} {size : Nat}
    {bytes : List UInt8} (stored : storePayload size bytes conn.buf = (buf, .ok ()))
    (fields : Async.RpcServerConnection.readFields buf = (buf, .ok header))
    (asks : Asks header rpcReq buf) (unknown : Unknown services rpcReq.getMethodIdentity) :
    Async.RpcServerConnection.handleReadPayload services turn size bytes conn =
      ({ conn with buf }, .error .crashes) := by
  have storing : Async.RpcServerConnection.onBuffer (storePayload size bytes) conn =
      ({ conn with buf }, .ok ()) := by
    simp only [Async.RpcServerConnection.onBuffer, zoom, stored]
  have reading : Async.RpcServerConnection.onBuffer Async.RpcServerConnection.readFields
      { conn with buf } = ({ conn with buf }, .ok header) := by
    simp only [Async.RpcServerConnection.onBuffer, zoom, fields]
  unfold Async.RpcServerConnection.handleReadPayload Async.RpcServerConnection.answerPayload
  rw [bind_of_ok _ storing, bind_of_ok _ reading]
  obtain ⟨text, missing⟩ := findTarget_of_unknown unknown
  by_cases reachable : conn.server = true ∨ splitIdentity rpcReq.getMethodIdentity = none
  · have found : Async.RpcServerConnection.find services conn.server rpcReq.getMethodIdentity buf =
        (buf, .ok (.error text)) := by
      rw [Async.RpcServerConnection.find, if_pos reachable, missing, pure_apply]
    have dispatched : Async.RpcServerConnection.onBuffer
        (dispatch Async.dialect (Async.RpcServerConnection.find services conn.server)
          turn.perform header) { conn with buf } =
        ({ conn with buf }, .ok (Async.dialect.stamp rpcReq
          { status := some .notFound, message := some text }, none)) := by
      simp only [Async.RpcServerConnection.onBuffer, zoom,
        Server.dispatch_unknown Async.dialect _ turn.perform asks found]
    rw [bind_of_ok _ dispatched]
    rfl
  · refine bind_of_error _ ?_
    obtain ⟨metadata, ranged, parsed⟩ := asks
    have crashed : dispatch Async.dialect (Async.RpcServerConnection.find services conn.server)
        turn.perform header buf = (buf, .error .crashes) := by
      rw [dispatch, bind_of_ok _ ranged]
      simp only [parsed]
      refine bind_of_error _ ?_
      rw [Async.RpcServerConnection.find, if_neg reachable]
      rfl
    simp only [Async.RpcServerConnection.onBuffer, zoom, crashed]

end Dispatching

/-- Every request for an unknown target ends the server in `respond_to_client`, before
anything is sent. -/
theorem unknown_targets_crash (services : Services Msg) :
    (∀ (state : Simple.State) conn turn ready header rpcReq,
      Simple.receive turn.heap (state.connections conn).endpoint = (ready, .ok header) →
      Asks header rpcReq ready.buf → Unknown services rpcReq.getMethodIdentity →
      Simple.handleClient services turn (state.connections conn).endpoint =
          (ready, .error .crashes) ∧
        state.step services (.readable conn turn) = none) ∧
    (∀ (state : Threaded.State) ref header size bytes turn stored rpcReq,
      (state.handlers ref).point = .readPayload header size →
      storePayload size bytes (state.handlers ref).buf = (stored, .ok ()) →
      Asks header rpcReq stored → Unknown services rpcReq.getMethodIdentity →
      (do
        let (rpcResp, resp) ← dispatch Threaded.dialect (lookUp services) turn.perform header
        Threaded.preparePacket turn.delivery rpcResp resp : Handling (List UInt8)) stored =
          (stored, .error .crashes) ∧
        state.step services (.handle ref (.transfers bytes turn)) = none) ∧
    ∀ (state : Async.State) conn size bytes (input : Async.Input Msg) stored header rpcReq,
      storePayload size bytes (state.connections conn).buf = (stored, .ok ()) →
      Async.RpcServerConnection.readFields stored = (stored, .ok header) →
      Asks header rpcReq stored → Unknown services rpcReq.getMethodIdentity →
      Async.RpcServerConnection.handleReadPayload services input.turn size bytes
          (state.connections conn) =
          ({ state.connections conn with buf := stored }, .error .crashes) ∧
        state.step services (.handle ⟨conn, .readPayload size, .queued (.done bytes)⟩ input) =
          none := by
  refine ⟨?_, ?_, ?_⟩
  · intro state conn turn ready header rpcReq received asks unknown
    have handled := Simple.handleClient_unknown received asks unknown
    refine ⟨handled, ?_⟩
    simp only [Simple.State.step, Simple.State.readable, handled, Simple.State.conclude]
    split <;> rfl
  · intro state ref header size bytes turn stored rpcReq point storing asks unknown
    have ended := Threaded.dispatch_unknown turn asks unknown
    refine ⟨ended, ?_⟩
    simp only [Threaded.State.step, Threaded.State.handle, Threaded.advance, point, storing, ended,
      Threaded.proceed]
    split <;> rfl
  · intro state conn size bytes input stored header rpcReq storing fields asks unknown
    have handled :=
      Async.handleReadPayload_unknown input.turn storing fields asks unknown
    refine ⟨handled, ?_⟩
    simp only [Async.State.step, Async.State.handle]
    split
    · simp only [Async.State.invoke, Async.State.body, Async.State.useServer, handled,
        Async.State.conclude, Fault.isFatal, if_true, Option.map_none]
    · rfl

end Targets

/-- A request for `Nope.ping`. -/
def unknownPayload : List UInt8 := [8, 1, 18, 9, 78, 111, 112, 101, 46, 112, 105, 110, 103, 7]

/-- Each server is sent a request for `Nope.ping`. -/
theorem unknown_targets_crash_nope :
    (∃ state : Simple.State, (Simple.simpleServer sampleServices).Reachable state ∧
      state.inUse.find? 0 = some 0 ∧
      state.step sampleServices (.readable 0 (sampleTurn 15)) = none) ∧
    (∃ state : Threaded.State, (Threaded.threadedServer sampleServices).Reachable state ∧
      (state.handlers 0).point = .readPayload ⟨13, 1, 0⟩ 14 ∧
      state.step sampleServices (.handle 0 (.transfers unknownPayload (sampleTurn 15))) = none) ∧
    ∃ state : Async.State, (Async.asyncServer sampleServices).Reachable state ∧
      ⟨0, .readPayload 14, .queued (.done unknownPayload)⟩ ∈ state.ops ∧
      state.step sampleServices (.handle ⟨0, .readPayload 14, .queued (.done unknownPayload)⟩
        Async.State.sampleInput) = none := by
  have asks : ∀ {buf : PacketBuf},
      (parseRange 0 13 buf).2 = .ok (unknownPayload.take 13) →
      Asks ⟨13, 1, 0⟩ ⟨some 1, some "Nope.ping"⟩ buf := fun ranged =>
    ⟨_, Prod.ext parseRange_fst ranged, by decide⟩
  have unknown : Unknown sampleServices "Nope.ping" := by decide
  refine ⟨?_, ?_, ?_⟩
  · have observed : ((Simple.simpleServer sampleServices).run
        [.accept (.client 5 [samplePacket.take sizeofPacket ++ unknownPayload]) true true]
        (Simple.simpleServer sampleServices).initial).map
        (fun state =>
          let received := Simple.receive .zeroed (state.connections 0).endpoint
          decide (state.inUse.find? 0 = some 0 ∧ received.2 = .ok ⟨13, 1, 0⟩ ∧
            (parseRange 0 13 received.1.buf).2 = .ok (unknownPayload.take 13))) = some true := by
      decide
    obtain ⟨state, reached, result⟩ :=
      (Simple.simpleServer sampleServices).exists_reachable_of_run observed
    obtain ⟨inUse, received, ranged⟩ := of_decide_eq_true result
    exact ⟨state, reached, inUse, ((unknown_targets_crash sampleServices).1 state 0 (sampleTurn 15)
      _ _ _ (apply_eq received) (asks ranged) unknown).2⟩
  · have observed : ((Threaded.threadedServer sampleServices).run
        [.run, .accept (some 5), .handle 0 .proceeds,
          .handle 0 (.transfers [0, 0, 0, 13] (sampleTurn 0)),
          .handle 0 (.transfers [0, 0, 0, 1] (sampleTurn 0)),
          .handle 0 (.transfers [0, 0, 0, 0] (sampleTurn 0))]
        (Threaded.threadedServer sampleServices).initial).map
        (fun state =>
          let stored := storePayload 14 unknownPayload (state.handlers 0).buf
          decide ((state.handlers 0).point = .readPayload ⟨13, 1, 0⟩ 14 ∧ stored.2 = .ok () ∧
            (parseRange 0 13 stored.1).2 = .ok (unknownPayload.take 13))) = some true := by
      decide
    obtain ⟨state, reached, result⟩ :=
      (Threaded.threadedServer sampleServices).exists_reachable_of_run observed
    obtain ⟨point, stored, ranged⟩ := of_decide_eq_true result
    exact ⟨state, reached, point, ((unknown_targets_crash sampleServices).2.1 state 0 _ _ _
      (sampleTurn 15) _ _ point (apply_eq stored) (asks ranged) unknown).2⟩
  · have observed : ((Async.asyncServer sampleServices).run
        (Async.State.sampleRequest.take 4 ++
          [.complete ⟨0, .readPayload 14, .pending⟩ (.done unknownPayload)])
        (Async.asyncServer sampleServices).initial).map
        (fun state =>
          let stored := storePayload 14 unknownPayload (state.connections 0).buf
          decide (⟨0, .readPayload 14, .queued (.done unknownPayload)⟩ ∈ state.ops ∧
            stored.2 = .ok () ∧
            (Async.RpcServerConnection.readFields stored.1).2 = .ok ⟨13, 1, 0⟩ ∧
            (parseRange 0 13 stored.1).2 = .ok (unknownPayload.take 13))) = some true := by
      decide
    obtain ⟨state, reached, result⟩ :=
      (Async.asyncServer sampleServices).exists_reachable_of_run observed
    obtain ⟨queued, stored, fields, ranged⟩ := of_decide_eq_true result
    have read : Async.RpcServerConnection.readFields
        (storePayload 14 unknownPayload (state.connections 0).buf).1 =
        ((storePayload 14 unknownPayload (state.connections 0).buf).1, .ok ⟨13, 1, 0⟩) :=
      Prod.ext Async.RpcServerConnection.readFields_fst fields
    exact ⟨state, reached, queued, ((unknown_targets_crash sampleServices).2.2 state 0 _ _
      Async.State.sampleInput _ _ _ (apply_eq stored) read (asks ranged) unknown).2⟩

/-- The simple server dereferences a NULL response, and nothing was sent. -/
theorem unknown_target_unanswered :
    ∃ state : Simple.State, (Simple.simpleServer sampleServices).Reachable state ∧
      let ended := Simple.handleClient sampleServices (sampleTurn 15) (state.connections 0).endpoint
      ended.2 = .error .crashes ∧ ended.1.sent = [] := by
  have observed : ((Simple.simpleServer sampleServices).run
      [.accept (.client 5 [samplePacket.take sizeofPacket ++ unknownPayload]) true true]
      (Simple.simpleServer sampleServices).initial).map
      (fun state =>
        let ended := Simple.handleClient sampleServices (sampleTurn 15)
          (state.connections 0).endpoint
        decide (ended.2 = .error .crashes ∧ ended.1.sent = [])) = some true := by
    decide
  obtain ⟨state, reached, result⟩ :=
    (Simple.simpleServer sampleServices).exists_reachable_of_run observed
  exact ⟨state, reached, of_decide_eq_true result⟩

end CarrotRpc.Server
