import CarrotRpc.Server.Pool
import CarrotRpc.Server.Replies

/-! What one client of the simple server sees, and that it does not depend on the other
clients, although the packet buffers are passed from one to the next. -/

set_option autoImplicit false

namespace CarrotRpc.Server.Simple

open Library Library.Faulting Common Protob

section Exchange

variable {Msg : Type} [Protobuf]

/-- The answer to a payload: what is sent after `sent`, and how the answer ends. -/
def deliver (delivery : Delivery) (sent : List UInt8) :
    Except Fault (Response × Option (List UInt8)) → List UInt8 × Except Fault Unit
  | .error fault => (sent, .error fault)
  | .ok (_, none) => (sent, .error .crashes)
  | .ok (rpcResp, some resp) =>
      let packet := layout (Protobuf.response.serialize rpcResp) [] resp
      if !delivery.serializesMetadata then (sent, .error .metadataUnserialized)
      else if !delivery.serializesResponse then (sent, .error .responseUnserialized)
      else (sent ++ packet.take delivery.accepted,
        if packet.length ≤ delivery.accepted then .ok () else .error .unsent)

/-- The handling of a request without a packet buffer: a function of the bytes of the
client. -/
def exchange (services : Services Msg) (turn : Turn Msg) (incoming : Incoming)
    (sent : List UInt8) : Incoming × List UInt8 × Except Fault Unit :=
  match recvHeader { incoming } with
  | (after, .error fault) => (after.incoming, sent, .error fault)
  | (after, .ok header) =>
      let (payload, rest) := readN header.payload after.incoming
      if payload.length = header.payload then
        (rest, deliver turn.delivery sent
          (reply dialect (findTarget services) turn.perform header payload))
      else (rest, sent, .error .unread)

/-- Memory is found for every packet, and no packet, neither the request nor the response
the method leads to, has a size that exceeds 32 bits. -/
structure Plain (services : Services Msg) (turn : Turn Msg) (incoming : Incoming) : Prop where
  receives : turn.heap.Succeeds
  responds : turn.delivery.heap.Succeeds
  request : ∀ after header, recvHeader { incoming } = (after, .ok header) →
    sizeofPacket + header.payload < 2 ^ 32
  response : ∀ after header rpcResp resp, recvHeader { incoming } = (after, .ok header) →
    reply dialect (findTarget services) turn.perform header
        (readN header.payload after.incoming).1 = .ok (rpcResp, some resp) →
    responseSize rpcResp resp < 2 ^ 32

theorem respondToClient_eq {delivery : Delivery} {rpcResp : Response}
    {resp : Option (List UInt8)} (endpoint : Endpoint) (succeeds : delivery.heap.Succeeds)
    (exact : endpoint.buf.Exact)
    (small : ∀ bytes, resp = some bytes → responseSize rpcResp bytes < 2 ^ 32) :
    ∃ buf, respondToClient delivery rpcResp resp endpoint =
      ({ endpoint with buf, sent := (deliver delivery endpoint.sent (.ok (rpcResp, resp))).1 },
        (deliver delivery endpoint.sent (.ok (rpcResp, resp))).2) := by
  cases resp with
  | none => exact ⟨endpoint.buf, rfl⟩
  | some resp =>
      have small := small resp rfl
      have size : (UInt32.ofNat (responseSize rpcResp resp)).toNat = responseSize rpcResp resp := by
        rw [UInt32.toNat_ofNat']
        exact Nat.mod_eq_of_lt small
      obtain ⟨grown, block, expanded, present, room⟩ := expandConnectionPacket_succeeds
        (.ofNat (responseSize rpcResp resp)) succeeds exact
      rw [size] at room
      have grew : grow (fun buf => some (expandConnectionPacket delivery.heap
          (.ofNat (responseSize rpcResp resp)) buf)) endpoint.buf = (grown, .ok ()) := by
        simp only [grow, expanded, if_true]
      have filled : (fillPacket delivery (responseSize rpcResp resp)
          (Protobuf.response.serialize rpcResp) resp grown).2 = _ :=
        fillPacket_ends present room
      have prepared : preparePacket delivery rpcResp (some resp) endpoint.buf =
          fillPacket delivery (responseSize rpcResp resp)
            (Protobuf.response.serialize rpcResp) resp grown := bind_of_ok _ grew
      refine ⟨(fillPacket delivery (responseSize rpcResp resp)
        (Protobuf.response.serialize rpcResp) resp grown).1, ?_⟩
      rw [respondToClient, deliver]
      cases metadata : delivery.serializesMetadata with
      | false =>
          rw [metadata] at filled
          exact bind_of_error _ (onBuffer_eq (prepared.trans (apply_eq filled)))
      | true =>
          cases response : delivery.serializesResponse with
          | false =>
              rw [metadata, response] at filled
              exact bind_of_error _ (onBuffer_eq (prepared.trans (apply_eq filled)))
          | true =>
              rw [metadata, response] at filled
              exact bind_of_ok _ (onBuffer_eq (prepared.trans (apply_eq filled)))

/-- In a plain turn the buffer and its old contents do not matter. -/
theorem handleClient_eq_exchange {services : Services Msg} {turn : Turn Msg} {endpoint : Endpoint}
    (exact : endpoint.buf.Exact) (plain : Plain services turn endpoint.incoming) :
    ∃ buf, handleClient services turn endpoint =
      ({ buf
         incoming := (exchange services turn endpoint.incoming endpoint.sent).1
         sent := (exchange services turn endpoint.incoming endpoint.sent).2.1 },
        (exchange services turn endpoint.incoming endpoint.sent).2.2) := by
  have frame := inbound_recvHeader endpoint
  unfold exchange
  rcases received : recvHeader { incoming := endpoint.incoming } with ⟨after, fault | header⟩
  · rw [received] at frame
    exact ⟨_, bind_of_error _ (bind_of_error _ frame)⟩
  · rw [received] at frame
    have small := plain.request after header received
    obtain ⟨grown, block, expanded, present, room⟩ :=
      expandConnectionPacket_succeeds (packetSize header) plain.receives exact
    obtain ⟨buf, shape, carries, ran⟩ :=
      receivePacket_ends (fun size buf => some (expandConnectionPacket turn.heap size buf)) frame
        small (congrArg some expanded) present room
    have grownExact : grown.Exact := by
      have kept : (expandConnectionPacket turn.heap (packetSize header) endpoint.buf).1.Exact :=
        expandConnectionPacket_exact exact
      rwa [expanded] at kept
    simp only
    rcases arrived : readN header.payload after.incoming with ⟨payload, rest⟩
    simp only [arrived] at ran carries
    by_cases whole : payload.length = header.payload
    · rw [if_pos whole] at ran ⊢
      have dispatched := dispatch_eq dialect turn.perform carries whole
        fun identity => lookUp_eq services identity buf
      have ready : receive turn.heap endpoint = _ := ran
      rw [handleClient, bind_of_ok _ ready]
      have dispatching : onBuffer (dispatch dialect (lookUp services) turn.perform header)
          ⟨buf, rest, endpoint.sent⟩ = (⟨buf, rest, endpoint.sent⟩,
            reply dialect (findTarget services) turn.perform header payload) :=
        onBuffer_eq dispatched
      cases replied : reply dialect (findTarget services) turn.perform header payload with
      | error fault =>
          rw [replied] at dispatching
          exact ⟨_, bind_of_error _ dispatching⟩
      | ok answered =>
          obtain ⟨rpcResp, resp⟩ := answered
          rw [replied] at dispatching
          have fits : ∀ bytes, resp = some bytes → responseSize rpcResp bytes < 2 ^ 32 := by
            rintro bytes rfl
            refine plain.response after header rpcResp bytes received ?_
            rw [arrived]
            exact replied
          obtain ⟨last, sent⟩ := respondToClient_eq ⟨buf, rest, endpoint.sent⟩ plain.responds
            (grownExact.of_shape shape) fits
          rw [bind_of_ok _ dispatching]
          exact ⟨last, sent⟩
    · rw [if_neg whole] at ran ⊢
      exact ⟨_, bind_of_error _ ran⟩

end Exchange

/-- What a client has received, and whether its connection is still there. -/
structure Sight where
  sent : List UInt8
  isOpen : Bool
  deriving DecidableEq

/-- What is left to see of a request; nothing when the server did not survive it. -/
def sight (sent : List UInt8) : Except Fault Unit → Option Sight
  | .ok () | .error (.escapes _) => some ⟨sent, true⟩
  | .error fault => if fault.isFatal then none else some ⟨sent, false⟩

section Views

variable {Msg : Type}

/-- The request of a connection that a label handles. -/
def Label.turn? (conn : ConnRef) : Label Msg → Option (Turn Msg)
  | .accept .. => none
  | .readable other turn => if other = conn then some turn else none

variable [Protobuf]

/-- What a client sees that has the server for itself. -/
def alone (services : Services Msg) :
    List (Turn Msg) → Incoming → List UInt8 → List (Option Sight)
  | [], _, _ => []
  | turn :: turns, incoming, sent =>
      let (incoming, sent, result) := exchange services turn incoming sent
      match sight sent result with
      | none => [none]
      | some seen => some seen :: if seen.isOpen then alone services turns incoming sent else []

/-- What the client of a connection sees while labels are executed, with the requests
that are handled for it, up to the close of the connection. -/
def view (services : Services Msg) (conn : ConnRef) :
    List (Label Msg) → State → List (Turn Msg × Option Sight)
  | [], _ => []
  | label :: labels, state =>
      match label.turn? conn, state.step services label with
      | none, none => []
      | none, some next => view services conn labels next
      | some turn, none => [(turn, none)]
      | some turn, some next =>
          let isOpen := decide (next.inUse.find? conn = some conn)
          (turn, some ⟨(next.connections conn).endpoint.sent, isOpen⟩) ::
            if isOpen then view services conn labels next else []

/-- The requests of one client are plain. -/
def PlainFor (services : Services Msg) (conn : ConnRef) (state : State) (label : Label Msg) :
    Prop :=
  ∀ turn, label.turn? conn = some turn →
    Plain services turn (state.connections conn).endpoint.incoming

end Views

namespace State

section Frames

variable {state next : State} {conn : ConnRef}

/-- The object that is taken for a new client is not one in use. -/
theorem takeConnection_frame (apart : state.Apart none) (used : state.InUse conn) :
    state.takeConnection.2.InUse conn ∧ state.takeConnection.1 ≠ conn ∧
      (state.takeConnection.2.connections conn).endpoint = (state.connections conn).endpoint := by
  rcases takeConnection_cases with ⟨rest, taken, same, equal⟩ | ⟨-, equal⟩
  · rw [equal]
    refine ⟨used, ?_, rfl⟩
    rintro rfl
    refine apart.separate taken ?_ used
    rw [same]
    exact List.mem_append_right rest (List.mem_singleton_self taken)
  · rw [equal]
    have older : state.nextConn ≠ conn := by
      rintro rfl
      exact Nat.lt_irrefl _ (apart.numbered _ (.inr (.inl used)))
    refine ⟨used, older, ?_⟩
    simp only [connections_modifyConn, if_neg older.symm]

theorem addClient_frame {fd : Nat} {incoming : Incoming} {allocates registers : Bool}
    (apart : state.Apart none) (used : state.InUse conn) :
    (state.addClient fd incoming allocates registers).InUse conn ∧
      ((state.addClient fd incoming allocates registers).connections conn).endpoint =
        (state.connections conn).endpoint := by
  obtain ⟨kept, other, same⟩ := takeConnection_frame apart used
  unfold State.addClient
  simp only [takeConnection_openFds]
  split
  · exact ⟨used, rfl⟩
  · split
    · refine ⟨kept, ?_⟩
      simp only [connections_modifyConn, if_neg other.symm]
      exact same
    · refine ⟨OrderedMap.mem_insert_of_mem kept, ?_⟩
      simp only [connections_modifyConn, if_neg other.symm]
      exact same

theorem conclude_frame {other : ConnRef} {ended : Endpoint × Except Fault Unit}
    (different : other ≠ conn) (used : state.InUse conn)
    (concluded : state.conclude other ended = some next) :
    next.InUse conn ∧ (next.connections conn).endpoint = (state.connections conn).endpoint := by
  obtain ⟨endpoint, result⟩ := ended
  have same : ((state.modifyConn other fun record => { record with endpoint }).connections
      conn).endpoint = (state.connections conn).endpoint := by
    rw [connections_modifyConn, if_neg different.symm]
  simp only [State.conclude] at concluded
  split at concluded
  · cases concluded
    exact ⟨used, same⟩
  · cases concluded
    exact ⟨used, same⟩
  · split at concluded
    · cases concluded
    · cases concluded
      refine ⟨(inUse_destroyRpcConnection conn).mpr ⟨used, different.symm⟩, ?_⟩
      rw [endpoint_destroyRpcConnection]
      exact same

/-- How a request ends tells what its client sees. -/
theorem conclude_sight (used : state.inUse.find? conn = some conn) (endpoint : Endpoint)
    (result : Except Fault Unit) :
    (sight endpoint.sent result = none ∧ state.conclude conn (endpoint, result) = none) ∨
    ∃ next, state.conclude conn (endpoint, result) = some next ∧
      (next.connections conn).endpoint = endpoint ∧
      sight endpoint.sent result =
        some ⟨endpoint.sent, decide (next.inUse.find? conn = some conn)⟩ := by
  have updated : ((state.modifyConn conn fun record => { record with endpoint }).connections
      conn).endpoint = endpoint := by
    rw [connections_modifyConn, if_pos rfl]
  have stays : decide ((state.modifyConn conn fun record =>
      { record with endpoint }).inUse.find? conn = some conn) = true := decide_eq_true used
  have closed : decide ((destroyRpcConnection conn (state.modifyConn conn fun record =>
      { record with endpoint })).inUse.find? conn = some conn) = false := by
    refine decide_eq_false fun found => ?_
    have member := OrderedMap.find?_eq_some_iff.mp found
    exact ((inUse_destroyRpcConnection conn).mp member).2 rfl
  cases result with
  | ok =>
      refine .inr ⟨_, rfl, updated, ?_⟩
      rw [stays]
      rfl
  | error fault =>
      by_cases fatal : fault.isFatal = true
      · left
        cases fault <;> first | exact ⟨rfl, rfl⟩ | cases fatal
      · by_cases escapes : ∃ what, fault = .escapes what
        · obtain ⟨what, rfl⟩ := escapes
          refine .inr ⟨_, rfl, updated, ?_⟩
          rw [stays]
          rfl
        · refine .inr ⟨destroyRpcConnection conn (state.modifyConn conn fun record =>
            { record with endpoint }), ?_, ?_, ?_⟩
          · cases fault <;> first | rfl | exact absurd rfl fatal | exact absurd ⟨_, rfl⟩ escapes
          · rw [endpoint_destroyRpcConnection, updated]
          · rw [closed]
            cases fault <;> first | rfl | exact absurd rfl fatal | exact absurd ⟨_, rfl⟩ escapes

end Frames

section Views

variable {Msg : Type} [Protobuf] {services : Services Msg} {state next : State} {conn : ConnRef}

/-- What is done for others leaves the connection of a client alone. -/
theorem step_frame {label : Label Msg} (apart : state.Apart none) (used : state.InUse conn)
    (foreign : label.turn? conn = none) (stepped : state.step services label = some next) :
    next.InUse conn ∧
      (next.connections conn).endpoint = (state.connections conn).endpoint := by
  cases label with
  | accept accepted allocates registers =>
      simp only [State.step, handleListenSock] at stepped
      split at stepped
      · cases stepped
        exact ⟨used, rfl⟩
      · split at stepped
        · cases stepped
        · cases stepped
          exact addClient_frame apart used
  | readable other turn =>
      have different : other ≠ conn := by
        rintro rfl
        simp only [Label.turn?, if_true] at foreign
        cases foreign
      simp only [State.step, readable] at stepped
      split at stepped
      · exact conclude_frame different used stepped
      · cases stepped

theorem view_eq_alone {labels : List (Label Msg)} {incoming : Incoming} {sent : List UInt8}
    (apart : state.Apart none) (buffered : state.Buffered)
    (used : state.InUse conn) (arriving : (state.connections conn).endpoint.incoming = incoming)
    (received : (state.connections conn).endpoint.sent = sent)
    (plain : (simpleServer services).Along (PlainFor services conn) labels state) :
    (view services conn labels state).map Prod.snd =
      alone services ((view services conn labels state).map Prod.fst) incoming sent := by
  induction labels generalizing state incoming sent with
  | nil => rfl
  | cons label labels ih =>
      obtain ⟨plainly, rest⟩ := plain
      cases turned : label.turn? conn with
      | none =>
          cases stepped : state.step services label with
          | none => simp only [view, turned, stepped, List.map_nil, alone]
          | some next =>
              obtain ⟨kept, same⟩ := step_frame apart used turned stepped
              simp only [view, turned, stepped]
              exact ih (apart.step stepped) (buffered.step stepped) kept (by rw [same, arriving])
                (by rw [same, received]) (rest next stepped)
      | some turn =>
          obtain rfl : label = .readable conn turn := by
            cases label with
            | accept => cases turned
            | readable other otherTurn =>
                simp only [Label.turn?, Option.ite_none_right_eq_some, Option.some.injEq] at turned
                rw [turned.1, turned.2]
          have found := OrderedMap.find?_eq_some_iff.mpr used
          obtain ⟨buf, ran⟩ := handleClient_eq_exchange (buffered conn) (plainly turn turned)
          rw [arriving, received] at ran
          have steps : state.step services (.readable conn turn) = state.conclude conn
              ({ buf
                 incoming := (exchange services turn incoming sent).1
                 sent := (exchange services turn incoming sent).2.1 },
                (exchange services turn incoming sent).2.2) := by
            rw [← ran]
            exact if_pos found
          rcases exchanged : exchange services turn incoming sent with ⟨left, out, result⟩
          rw [exchanged] at steps
          rcases conclude_sight found ⟨buf, left, out⟩ result with
            ⟨blind, stuck⟩ | ⟨next, stepped, same, seen⟩
          · simp only [view, turned, steps.trans stuck, List.map_cons, List.map_nil, alone,
              exchanged, blind]
          · simp only [view, turned, steps.trans stepped, List.map_cons, alone, exchanged, seen,
              same]
            by_cases stays : next.inUse.find? conn = some conn
            · simp only [stays, decide_true, if_true]
              refine congrArg _ (ih (apart.step (steps.trans stepped))
                (buffered.step (steps.trans stepped))
                (OrderedMap.find?_eq_some_iff.mp stays) ?_ ?_
                (rest next (steps.trans stepped)))
              · rw [same]
              · rw [same]
            · simp only [stays, decide_false, Bool.false_eq_true, if_false, List.map_nil]

/-- In two runs, whatever the clients before have done, a client that sends the same bytes
sees the same, if its requests are plain. -/
theorem views_agree {first second : State} {firstConn secondConn : ConnRef}
    {firstLabels secondLabels : List (Label Msg)}
    (firstReached : (simpleServer services).Reachable first)
    (secondReached : (simpleServer services).Reachable second)
    (firstUsed : first.InUse firstConn) (secondUsed : second.InUse secondConn)
    (incoming : (first.connections firstConn).endpoint.incoming =
      (second.connections secondConn).endpoint.incoming)
    (sent : (first.connections firstConn).endpoint.sent =
      (second.connections secondConn).endpoint.sent)
    (firstPlain : (simpleServer services).Along (PlainFor services firstConn) firstLabels first)
    (secondPlain :
      (simpleServer services).Along (PlainFor services secondConn) secondLabels second)
    (turns : (view services firstConn firstLabels first).map Prod.fst =
      (view services secondConn secondLabels second).map Prod.fst) :
    (view services firstConn firstLabels first).map Prod.snd =
      (view services secondConn secondLabels second).map Prod.snd := by
  rw [view_eq_alone (apart_reachable firstReached) (buffered_reachable firstReached) firstUsed
      rfl rfl firstPlain,
    view_eq_alone (apart_reachable secondReached) (buffered_reachable secondReached) secondUsed
      rfl rfl secondPlain, incoming, sent, turns]

theorem view_once {turn : Turn Msg} :
    (view services conn [.readable conn turn] state).map Prod.fst = [turn] := by
  simp only [view, Label.turn?, if_true]
  split
  · next absent _ => cases absent
  · next absent _ => cases absent
  · next present _ =>
      cases present
      rfl
  · next present _ =>
      cases present
      simp only [List.map_cons, ite_self, List.map_nil]

end Views

/-- A client that sends `request`, is served, and goes; then one that sends `later`
and gets the same object. -/
def handedOver (request later : List UInt8) : List (Label (List UInt8)) :=
  [.accept (.client 5 [request]) true true, .readable 0 (sampleTurn 100),
    .readable 0 (sampleTurn 100), .accept (.client 6 [later]) true true]

theorem plain_samplePacket : Plain sampleServices (sampleTurn 100) [samplePacket] := by
  have received : recvHeader { incoming := [samplePacket] } =
      ({ incoming := [samplePayload] }, .ok ⟨13, 1, 0⟩) := rfl
  refine ⟨Realloc.zeroed_succeeds, Realloc.zeroed_succeeds, ?_, ?_⟩
  · intro after header same
    rw [received] at same
    cases same
    decide
  · intro after header rpcResp resp same replied
    rw [received] at same
    cases same
    have answered : reply dialect (findTarget sampleServices) (sampleTurn 100).perform ⟨13, 1, 0⟩
        samplePayload = .ok (⟨none, some .success, none⟩, some [7]) := by decide
    have same := answered.symm.trans replied
    cases same
    decide

/-- A request after another client's, and the same one to a new server. -/
theorem views_agree_ping :
    ∃ first second, (simpleServer sampleServices).Reachable first ∧
      (simpleServer sampleServices).Reachable second ∧ first.InUse 0 ∧ second.InUse 0 ∧
      (first.connections 0).endpoint.buf.p ≠ none ∧
      (second.connections 0).endpoint.buf.p = none ∧
      (view sampleServices 0 [.readable 0 (sampleTurn 100)] first).map Prod.snd =
        (view sampleServices 0 [.readable 0 (sampleTurn 100)] second).map Prod.snd := by
  have firstObserved : ((simpleServer sampleServices).run (handedOver samplePacket samplePacket)
      (simpleServer sampleServices).initial).map (fun state =>
        decide (state.InUse 0 ∧ (state.connections 0).endpoint.incoming = [samplePacket] ∧
          (state.connections 0).endpoint.sent = [] ∧
          (state.connections 0).endpoint.buf.p ≠ none)) = some true := by
    decide
  have secondObserved : ((simpleServer sampleServices).run
      [.accept (.client 6 [samplePacket]) true true]
      (simpleServer sampleServices).initial).map (fun state =>
        decide (state.InUse 0 ∧ (state.connections 0).endpoint.incoming = [samplePacket] ∧
          (state.connections 0).endpoint.sent = [] ∧
          (state.connections 0).endpoint.buf.p = none)) = some true := by
    decide
  obtain ⟨first, firstReached, firstSame⟩ :=
    (simpleServer sampleServices).exists_reachable_of_run firstObserved
  obtain ⟨second, secondReached, secondSame⟩ :=
    (simpleServer sampleServices).exists_reachable_of_run secondObserved
  obtain ⟨firstUsed, firstIncoming, firstSent, firstBlock⟩ := of_decide_eq_true firstSame
  obtain ⟨secondUsed, secondIncoming, secondSent, secondBlock⟩ := of_decide_eq_true secondSame
  have plain : ∀ state : State, (state.connections 0).endpoint.incoming = [samplePacket] →
      (simpleServer sampleServices).Along (PlainFor sampleServices 0)
        [.readable 0 (sampleTurn 100)] state := by
    intro state incoming
    refine ⟨?_, fun _ _ => trivial⟩
    rintro turn ⟨rfl⟩
    rw [incoming]
    exact plain_samplePacket
  exact ⟨first, second, firstReached, secondReached, firstUsed, secondUsed, firstBlock, secondBlock,
    views_agree firstReached secondReached firstUsed secondUsed
      (firstIncoming.trans secondIncoming.symm) (firstSent.trans secondSent.symm)
      (plain first firstIncoming) (plain second secondIncoming) (view_once.trans view_once.symm)⟩

/-- The sum of these lengths wraps to 15: three bytes are received for a payload of more
than 2^32, and what is parsed behind them is of the client before. -/
def stalePacket : List UInt8 := Header.toNetwork ⟨13, 1, 4294967285⟩ ++ [8, 1, 18]

/-- A client learns a byte that another one has sent. -/
theorem views_differ :
    ∃ first second, (simpleServer sampleServices).Reachable first ∧
      (simpleServer sampleServices).Reachable second ∧ first.InUse 0 ∧ second.InUse 0 ∧
      (first.connections 0).endpoint.incoming = [stalePacket] ∧
      (second.connections 0).endpoint.incoming = [stalePacket] ∧
      (first.connections 0).endpoint.sent = [] ∧ (second.connections 0).endpoint.sent = [] ∧
      (view sampleServices 0 [.readable 0 (sampleTurn 100)] first).map Prod.snd =
        [some ⟨[0, 0, 0, 2, 0, 0, 0, 0, 0, 0, 0, 1, 16, 1, 7], true⟩] ∧
      (view sampleServices 0 [.readable 0 (sampleTurn 100)] second).map Prod.snd =
        [some ⟨[0, 0, 0, 2, 0, 0, 0, 0, 0, 0, 0, 1, 16, 1, 8], true⟩] := by
  have observed : ∀ byte ∈ ([7, 8] : List UInt8), ((simpleServer sampleServices).run
      (handedOver (samplePacket.dropLast ++ [byte]) stalePacket)
      (simpleServer sampleServices).initial).map (fun state =>
        decide (state.InUse 0 ∧ (state.connections 0).endpoint.incoming = [stalePacket] ∧
          (state.connections 0).endpoint.sent = [] ∧
          (view sampleServices 0 [.readable 0 (sampleTurn 100)] state).map Prod.snd =
            [some ⟨[0, 0, 0, 2, 0, 0, 0, 0, 0, 0, 0, 1, 16, 1, byte], true⟩])) = some true := by
    decide +kernel
  obtain ⟨first, firstReached, firstSame⟩ :=
    (simpleServer sampleServices).exists_reachable_of_run (observed 7 (by decide))
  obtain ⟨second, secondReached, secondSame⟩ :=
    (simpleServer sampleServices).exists_reachable_of_run (observed 8 (by decide))
  obtain ⟨firstUsed, firstIncoming, firstSent, firstSeen⟩ := of_decide_eq_true firstSame
  obtain ⟨secondUsed, secondIncoming, secondSent, secondSeen⟩ := of_decide_eq_true secondSame
  exact ⟨first, second, firstReached, secondReached, firstUsed, secondUsed, firstIncoming,
    secondIncoming, firstSent, secondSent, firstSeen, secondSeen⟩

end State

end CarrotRpc.Server.Simple
