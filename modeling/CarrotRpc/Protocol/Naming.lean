import CarrotRpc.Client.ChannelRuns
import CarrotRpc.Protob.WireFormat
import CarrotRpc.Server.AsyncReplies
import CarrotRpc.Server.UnknownTargets

/-! Which service runs a call. A client names a method by the short name of its service,
under which the server has registered services of any package. -/

set_option autoImplicit false

namespace CarrotRpc.Protocol.Naming

open Library Library.Faulting Common Protob
open Server

/-- A service descriptor with its package. -/
structure Descriptor (Msg : Type) extends Service Msg where
  package : String

/-- The map `services` with the descriptors of what is registered. -/
abbrev Registry (Msg : Type) := OrderedMap String (Descriptor Msg)

section Registering

variable {Msg : Type} {registry : Registry Msg} {services : Services Msg}

def register (descriptor : Descriptor Msg) (registry : Registry Msg) : Registry Msg × Bool :=
  match registry.find? descriptor.name with
  | some _ => (registry, false)
  | none => (registry.insert descriptor.name descriptor, true)

/-- A sequence of calls of `RegisterService`, whatever they return. -/
def registerAll (descriptors : List (Descriptor Msg)) (registry : Registry Msg) : Registry Msg :=
  descriptors.foldl (fun registry descriptor => (register descriptor registry).1) registry

/-- What the server keeps of it. -/
def registerServices (descriptors : List (Descriptor Msg)) (services : Services Msg) :
    Services Msg :=
  descriptors.foldl
    (fun services descriptor => (registerService descriptor.toService services).1) services

/-- `it` and `md`: the service an identity is dispatched to, and its method. -/
def target (registry : Registry Msg) (identity : String) :
    Except String (Descriptor Msg × Method Msg) :=
  match splitIdentity identity with
  | none => .error "invalid method method identity"
  | some (serviceName, methodName) =>
      match registry.find? serviceName with
      | none => .error "service not found"
      | some descriptor =>
          match descriptor.findMethodByName methodName with
          | none => .error "method not found"
          | some method => .ok (descriptor, method)

/-- The table of a server is that of the descriptors without their packages. -/
def Represents (registry : Registry Msg) (services : Services Msg) : Prop :=
  ∀ name, services.find? name = (registry.find? name).map Descriptor.toService

theorem Represents.register (represents : Represents registry services)
    (descriptor : Descriptor Msg) :
    Represents (register descriptor registry).1
      (registerService descriptor.toService services).1 := by
  have same := represents descriptor.name
  rw [Naming.register, registerService]
  cases found : registry.find? descriptor.name with
  | some other =>
      rw [found, Option.map_some] at same
      rw [same]
      exact represents
  | none =>
      rw [found, Option.map_none] at same
      rw [same]
      intro name
      rw [OrderedMap.find?_insert found, OrderedMap.find?_insert same]
      split
      · rfl
      · exact represents name

theorem Represents.registerAll {descriptors : List (Descriptor Msg)}
    (represents : Represents registry services) :
    Represents (registerAll descriptors registry) (registerServices descriptors services) := by
  induction descriptors generalizing registry services with
  | nil => exact represents
  | cons descriptor descriptors ih => exact ih (represents.register descriptor)

/-- The lookup of the dispatchers, without the service. -/
theorem Represents.findTarget_eq (represents : Represents registry services) (identity : String) :
    findTarget services identity = (target registry identity).map Prod.snd := by
  rw [findTarget, target]
  cases splitIdentity identity with
  | none => rfl
  | some names =>
      obtain ⟨serviceName, methodName⟩ := names
      simp only [represents serviceName]
      cases registry.find? serviceName with
      | none => rfl
      | some descriptor =>
          simp only [Option.map_some]
          cases descriptor.findMethodByName methodName <;> rfl

/-- Of the services with one name the first stays. -/
theorem find?_registerAll (descriptors : List (Descriptor Msg)) (name : String) :
    (registerAll descriptors registry).find? name =
      ((registry.find? name).or (descriptors.find? fun descriptor => descriptor.name = name)) := by
  induction descriptors generalizing registry with
  | nil =>
      rw [List.find?_nil, Option.or_none]
      rfl
  | cons descriptor descriptors ih =>
      have step : registerAll (descriptor :: descriptors) registry =
          registerAll descriptors (register descriptor registry).1 := rfl
      rw [step, ih, register]
      by_cases same : descriptor.name = name
      · rw [List.find?_cons_of_pos (by exact decide_eq_true same)]
        cases found : registry.find? descriptor.name with
        | some other =>
            rw [← same, found]
            rfl
        | none =>
            rw [← same]
            simp only [OrderedMap.find?_insert found, if_true, found]
            rfl
      · rw [List.find?_cons_of_neg (by simpa using same)]
        cases found : registry.find? descriptor.name with
        | some other => rfl
        | none => rw [OrderedMap.find?_insert found, if_neg (Ne.symm same)]

end Registering

/-- The dispatchers; the one of the async server keeps the size `n_` of the request. -/
inductive ServerKind where
  | simple
  | threaded
  | async (n : UInt32)

section Dispatching

variable {Msg : Type} [Protobuf]

def dialectOf : ServerKind → Dialect
  | .simple => Simple.dialect
  | .threaded => Threaded.dialect
  | .async _ => Async.dialect

/-- From the parsing of a request's metadata to the call of `respond_to_client`, in a
server that was not destroyed. -/
def dispatchOf (kind : ServerKind) (services : Services Msg)
    (perform : Method Msg → Msg → Outcome Msg) (header : Header) :
    Handling (Response × Option (List UInt8)) :=
  match kind with
  | .simple | .threaded => dispatch (dialectOf kind) (lookUp services) perform header
  | .async _ =>
      dispatch (dialectOf kind) (Async.RpcServerConnection.find services true) perform header

/-- `respond_to_client` up to its write. -/
def prepareOf (kind : ServerKind) (delivery : Delivery) (rpcResp : Response)
    (resp : Option (List UInt8)) : Handling (List UInt8) :=
  match kind with
  | .simple => Simple.preparePacket delivery rpcResp resp
  | .threaded => Threaded.preparePacket delivery rpcResp resp
  | .async n =>
      let rpc := Protobuf.response.serialize rpcResp
      preparePacket delivery (fun buf => expandPacket delivery.heap buf n)
        (sizeofPacket + rpc.length + byteSize resp) rpc resp

/-- What the servers do with a payload that has arrived. -/
def answerOf (kind : ServerKind) (services : Services Msg) (turn : Turn Msg) (header : Header) :
    Handling (List UInt8) := do
  let (rpcResp, resp) ← dispatchOf kind services turn.perform header
  prepareOf kind turn.delivery rpcResp resp

/-- The size `n_` stays as it is until the response is prepared. -/
theorem connBuffer_prepare {Value : Type} (handling : Handling Value) (delivery : Delivery)
    (response : Value → Response × Option (List UInt8)) (conn : Async.RpcServerConnection) :
    (Async.RpcServerConnection.onBuffer handling >>= fun value =>
        Async.RpcServerConnection.preparePacket delivery (response value).1 (response value).2)
          conn =
      Async.RpcServerConnection.onBuffer (handling >>= fun value =>
        prepareOf (.async conn.n) delivery (response value).1 (response value).2) conn := by
  rcases ran : handling conn.buf with ⟨buf, fault | value⟩
  · have ended : Async.RpcServerConnection.onBuffer handling conn =
        ({ conn with buf }, .error fault) := by
      simp only [Async.RpcServerConnection.onBuffer, zoom, ran]
    rw [bind_of_error _ ended]
    simp only [Async.RpcServerConnection.onBuffer, zoom, bind_of_error _ ran]
  · have ended : Async.RpcServerConnection.onBuffer handling conn =
        ({ conn with buf }, .ok value) := by
      simp only [Async.RpcServerConnection.onBuffer, zoom, ran]
    rw [bind_of_ok _ ended]
    simp only [Async.RpcServerConnection.onBuffer, zoom, bind_of_ok _ ran]
    rfl

theorem handleClient_eq_answerOf (services : Services Msg) (turn : Turn Msg) :
    Simple.handleClient services turn = (do
      let header ← Simple.receive turn.heap
      let packet ← onBuffer (answerOf .simple services turn header)
      send turn.delivery.accepted packet) := by
  rw [Simple.handleClient_eq]
  unfold Simple.answer answerOf
  simp only [onBuffer_bind, bind_assoc]
  rfl

theorem handleRequest_eq_answerOf (services : Services Msg) (turn : Turn Msg) :
    Threaded.handleRequest services turn = (do
      let header ← Threaded.receive turn.heap
      let packet ← onBuffer (answerOf .threaded services turn header)
      send turn.delivery.accepted packet) := by
  unfold answerOf
  simp only [onBuffer_bind, bind_assoc]
  rfl

theorem answerPayload_eq_answerOf (services : Services Msg) (turn : Turn Msg) (size : Nat)
    (bytes : List UInt8) (conn : Async.RpcServerConnection) :
    Async.RpcServerConnection.answerPayload services true turn size bytes conn =
      (Async.RpcServerConnection.onBuffer (do
        storePayload size bytes
        let header ← Async.RpcServerConnection.readFields
        answerOf (.async conn.n) services turn header) >>= fun packet =>
          pure (.write packet)) conn := by
  let dispatched : Handling (Response × Option (List UInt8)) := do
    storePayload size bytes
    let header ← Async.RpcServerConnection.readFields
    dispatchOf (.async conn.n) services turn.perform header
  have answered : Async.RpcServerConnection.answerPayload services true turn size bytes =
      (Async.RpcServerConnection.onBuffer dispatched >>= fun response =>
        Async.RpcServerConnection.preparePacket turn.delivery response.1 response.2) >>=
          fun packet => pure (.write packet) := by
    rw [Async.RpcServerConnection.answerPayload_eq, bind_assoc]
    rfl
  have whole : (do
      storePayload size bytes
      let header ← Async.RpcServerConnection.readFields
      answerOf (.async conn.n) services turn header) =
      dispatched >>= fun response =>
        prepareOf (.async conn.n) turn.delivery response.1 response.2 := by
    simp only [dispatched, bind_assoc]
    rfl
  have prepared := connBuffer_prepare dispatched turn.delivery id conn
  rw [answered, whole]
  simp only [bind, id_eq] at prepared ⊢
  rw [prepared]

end Dispatching

section Naming

variable {Msg : Type} [Protobuf] {registry : Registry Msg} {services : Services Msg}
  {kind : ServerKind} {turn : Turn Msg} {header : Header} {rpcReq : Request} {buf : PacketBuf}

/-- What a dispatcher does once it has found the method. -/
def callOf (kind : ServerKind) (perform : Method Msg → Msg → Outcome Msg) (header : Header)
    (rpcReq : Request) (method : Method Msg) : Handling (Response × Option (List UInt8)) := do
  let parameter ← parseRange header.rpcLen.toNat header.reqLen
  match method.request.parse parameter with
  | none => fail .parameterUnparsed
  | some request => callTarget (dialectOf kind) perform rpcReq method request

/-- The write of a response with the status NOT_FOUND is started. -/
def AnswersNotFound (kind : ServerKind) (services : Services Msg) (turn : Turn Msg)
    (header : Header) (buf : PacketBuf) : Prop :=
  ∃ middle next rpcResp resp packet,
    dispatchOf kind services turn.perform header buf = (middle, .ok (rpcResp, resp)) ∧
      rpcResp.status = some .notFound ∧
      prepareOf kind turn.delivery rpcResp resp middle = (next, .ok packet)

/-- The request in the buffer is run by the method it is meant for, or refused. -/
inductive Obeyed (registry : Registry Msg) (services : Services Msg) (kind : ServerKind)
    (turn : Turn Msg) (header : Header) (rpcReq : Request) (buf : PacketBuf)
    (descriptor : Descriptor Msg) (method : Method Msg) : Prop where
  | run (found : target registry rpcReq.getMethodIdentity = .ok (descriptor, method))
      (called : dispatchOf kind services turn.perform header buf =
        callOf kind turn.perform header rpcReq method buf) :
      Obeyed registry services kind turn header rpcReq buf descriptor method
  | refused (unregistered : ∀ name, registry.find? name ≠ some descriptor)
      (answered : AnswersNotFound kind services turn header buf) :
      Obeyed registry services kind turn header rpcReq buf descriptor method

/-- It is run by a service with another descriptor. -/
def Misdirected (registry : Registry Msg) (identity : String) (descriptor : Descriptor Msg) :
    Prop :=
  ∃ other called, target registry identity = .ok (other, called) ∧ other ≠ descriptor

theorem dispatchOf_found {method : Method Msg} (asks : Asks header rpcReq buf)
    (found : findTarget services rpcReq.getMethodIdentity = .ok method) :
    dispatchOf kind services turn.perform header buf =
      callOf kind turn.perform header rpcReq method buf := by
  obtain ⟨metadata, ranged, parsed⟩ := asks
  have handed : ∀ find : String → Handling (Except String (Method Msg)),
      find rpcReq.getMethodIdentity buf = (buf, .ok (.ok method)) →
      dispatch (dialectOf kind) find turn.perform header buf =
        callOf kind turn.perform header rpcReq method buf := by
    intro find looked
    rw [dispatch, bind_of_ok _ ranged]
    simp only [parsed]
    rw [bind_of_ok _ looked]
    rfl
  cases kind with
  | simple | threaded =>
      apply handed
      rw [lookUp, found, pure_apply]
  | async n =>
      apply handed
      rw [Async.RpcServerConnection.find, if_pos (.inl rfl), found, pure_apply]

/-- A NOT_FOUND comes with a NULL response, which `respond_to_client` dereferences. -/
theorem not_answersNotFound : ¬ AnswersNotFound kind services turn header buf := by
  intro answered
  obtain ⟨middle, next, rpcResp, resp, packet, dispatched, status, prepared⟩ := answered
  obtain ⟨rpcReq, answers⟩ : ∃ rpcReq,
      Answers (dialectOf kind) services turn.perform rpcReq rpcResp resp := by
    cases kind with
    | simple | threaded =>
        apply answers_of_dispatch _ dispatched
        intro identity buf next target found
        cases found
        rfl
    | async n =>
        apply answers_of_dispatch _ dispatched
        intro identity buf next target found
        exact Async.RpcServerConnection.find_eq_ok found
  cases answers with
  | unknown missing => cases kind <;> cases prepared
  | called found settled =>
      simp only [Dialect.stamp, Dialect.verdict] at status
      split at status <;> split at status <;> cases status

omit [Protobuf] in
theorem target_dotted {descriptor : Descriptor Msg} {name : String} :
    target registry (descriptor.name ++ "." ++ name) =
      match registry.find? descriptor.name with
      | none => .error "service not found"
      | some other =>
          match other.findMethodByName name with
          | none => .error "method not found"
          | some method => .ok (other, method) := by
  rw [target, splitIdentity_dotted descriptor.undotted]

end Naming

/-- For every sequence of registrations, every method of a service descriptor, and a request
with the identity both clients build from it: the servers run that method, or refuse the
request, exactly when the first service registered under the short name has that
descriptor. The method of another service runs when that one is first and has a method
of the same name. -/
theorem calls_obeyed_iff {Msg : Type} [Protobuf] (registrations : List (Descriptor Msg))
    (descriptor : Descriptor Msg) (method : Method Msg)
    (known : descriptor.findMethodByName method.name = some method) (call : Client.Call Msg)
    (service : call.serviceName = descriptor.name) (name : call.methodName = method.name)
    (rpcReq : Request)
    (named : rpcReq.methodIdentity = some call.methodIdentity)
    (kind : ServerKind) (turn : Turn Msg) (header : Header) (buf : PacketBuf)
    (asks : Asks header rpcReq buf) :
    let registry := registerAll registrations .empty
    let services := registerServices registrations .empty
    let first := registrations.find? fun other => other.name = descriptor.name
    (Obeyed registry services kind turn header rpcReq buf descriptor method ↔
      first = some descriptor) ∧
    (Misdirected registry rpcReq.getMethodIdentity descriptor ↔
      ∃ other, first = some other ∧ other ≠ descriptor ∧
        (other.findMethodByName method.name).isSome = true) := by
  intro registry services first
  have represents : Represents registry services := Represents.registerAll fun _ => rfl
  have selected : registry.find? descriptor.name = first := by
    rw [find?_registerAll]
    rfl
  have identity : rpcReq.getMethodIdentity = descriptor.name ++ "." ++ method.name := by
    rw [Request.getMethodIdentity, named, Client.Call.methodIdentity, service, name]
    rfl
  have dotted : target registry rpcReq.getMethodIdentity = _ := identity ▸ target_dotted
  rw [selected] at dotted
  constructor
  · constructor
    · intro obeyed
      cases obeyed with
      | run found called =>
          rw [dotted] at found
          cases chosen : first with
          | none =>
              rw [chosen] at found
              cases found
          | some other =>
              rw [chosen] at found
              dsimp only at found
              split at found
              · cases found
              · cases found
                rfl
      | refused unregistered answered => exact absurd answered not_answersNotFound
    · intro chosen
      have found : target registry rpcReq.getMethodIdentity = .ok (descriptor, method) := by
        rw [dotted, chosen]
        simp only [known]
      have located : findTarget services rpcReq.getMethodIdentity = .ok method := by
        rw [represents.findTarget_eq, found]
        rfl
      exact .run found (dispatchOf_found asks located)
  · constructor
    · intro misdirected
      obtain ⟨other, called, found, different⟩ := misdirected
      rw [dotted] at found
      cases chosen : first with
      | none =>
          rw [chosen] at found
          cases found
      | some candidate =>
          rw [chosen] at found
          dsimp only at found
          split at found
          · cases found
          · next present =>
              cases found
              exact ⟨other, rfl, different, by rw [present]; rfl⟩
    · intro beaten
      obtain ⟨other, chosen, different, has⟩ := beaten
      obtain ⟨called, present⟩ := Option.isSome_iff_exists.mp has
      refine ⟨other, called, ?_, different⟩
      rw [dotted, chosen]
      simp only [present]

/-- Two packages with a service `Echo`. -/
def echo (package : String) : Descriptor (List UInt8) := { sampleService with package }

def sampleMethod : Method (List UInt8) := ⟨"ping", ⟨id, some⟩, ⟨id, some⟩⟩

/-- A request for `Echo.ping` in the buffer of a server. -/
def sampleBuf : PacketBuf :=
  { p := some (Header.toHost ⟨13, 1, 0⟩ ++ samplePayload), size := 26 }

theorem asks_sampleBuf : Asks ⟨13, 1, 0⟩ ⟨some 1, some "Echo.ping"⟩ sampleBuf :=
  ⟨samplePayload.take 13, Prod.ext parseRange_fst (by decide), by decide⟩

theorem echo_ne : echo "a" ≠ echo "b" := by
  intro same
  exact absurd (congrArg Descriptor.package same) (by decide)

/-- The service of the package that the client uses is registered first. -/
theorem calls_obeyed_iff_echo :
    Obeyed (registerAll [echo "a", echo "b"] .empty)
      (registerServices [echo "a", echo "b"] .empty) .simple (sampleTurn 0) ⟨13, 1, 0⟩
      ⟨some 1, some "Echo.ping"⟩ sampleBuf (echo "a") sampleMethod := by
  apply (calls_obeyed_iff [echo "a", echo "b"] (echo "a") sampleMethod rfl (Client.sampleCall 0 [7]) rfl rfl
    ⟨some 1, some "Echo.ping"⟩ rfl .simple (sampleTurn 0) ⟨13, 1, 0⟩ sampleBuf
    asks_sampleBuf).1.mpr
  rfl

/-- A client of `b.Echo` is served by `a.Echo`, and the registration of `b.Echo` was
rejected. -/
theorem call_misdirected :
    (register (echo "b") (registerAll [echo "a"] .empty)).2 = false ∧
      target (registerAll [echo "a", echo "b"] .empty) "Echo.ping" =
        .ok (echo "a", sampleMethod) ∧
      Misdirected (registerAll [echo "a", echo "b"] .empty) "Echo.ping" (echo "b") ∧
      ¬ Obeyed (registerAll [echo "a", echo "b"] .empty)
        (registerServices [echo "a", echo "b"] .empty) .simple (sampleTurn 0) ⟨13, 1, 0⟩
        ⟨some 1, some "Echo.ping"⟩ sampleBuf (echo "b") sampleMethod := by
  have found : target (registerAll [echo "a", echo "b"] .empty) "Echo.ping" =
      .ok (echo "a", sampleMethod) := rfl
  refine ⟨rfl, found, ⟨_, _, found, echo_ne⟩, ?_⟩
  intro obeyed
  cases obeyed with
  | run chosen called =>
      have same := Except.ok.inj (found.symm.trans chosen)
      exact echo_ne (congrArg Prod.fst same)
  | refused unregistered answered => exact absurd answered not_answersNotFound

end CarrotRpc.Protocol.Naming
