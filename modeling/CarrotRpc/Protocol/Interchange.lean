import CarrotRpc.Protocol.Serving

/-! The three servers under one list of requests: the responses a client gets, when its
connection is closed, and what becomes of the connections of others. -/

set_option autoImplicit false

namespace CarrotRpc.Protocol.Interchange

open Library Library.Faulting Common Protob
open Server Serving
open Streams (Link)

/-- A request for a registered method, and what service methods do with it. -/
structure Asked {Msg : Type} [Protobuf] (services : Services Msg) where
  parts : Parts
  small : parts.Small
  rpcReq : Request
  parsed : Protobuf.request.parse parts.rpc = some rpcReq
  method : Method Msg
  named : findTarget services rpcReq.getMethodIdentity = .ok method
  perform : Method Msg → Msg → Outcome Msg

def throws {Msg : Type} : Outcome Msg → Bool
  | .throws _ _ => true
  | .returns _ | .fails _ _ => false

namespace Asked

variable {Msg : Type} [Protobuf] {services : Services Msg}

/-- What the method does, if the parameter parses. -/
def outcome (request : Asked services) : Option (Outcome Msg) :=
  (request.method.request.parse request.parts.req).map (request.perform request.method)

def answered (dialect : Dialect) (request : Asked services) : Except Fault Reply :=
  answer dialect services request.perform request.parts

/-- The parameter parses, and the method does not throw. -/
def Calm (request : Asked services) : Prop :=
  ∃ outcome, request.outcome = some outcome ∧ throws outcome = false

theorem answered_eq (dialect : Dialect) (request : Asked services) :
    request.answered dialect =
      match request.outcome with
      | none => .error .parameterUnparsed
      | some outcome =>
          match dialect.settle outcome with
          | .error fault => .error fault
          | .ok (controller, response) =>
              .ok (.of (dialect.stamp request.rpcReq (dialect.verdict controller))
                (request.method.response.serialize response)) := by
  have metadata := request.small.slice_rpc
  have parameter := request.small.slice_req
  rw [answered, answer, reply, metadata, outcome]
  simp only [bind, Except.bind, request.parsed, request.named, parameter]
  cases request.method.request.parse request.parts.req with
  | none => rfl
  | some message =>
      simp only [Option.map_some]
      cases settled : dialect.settle (request.perform request.method message) with
      | error fault => rfl
      | ok ended => rfl

end Asked

/-- How a server leaves a connection. It waits for a request, or has closed it; when it has
closed it, it may go on with its number. An exception leaves `Run` with the connection
open, or the program ends. -/
inductive Ending where
  | waits
  | closes
  | goesOn
  | unwinds
  | terminates
  deriving DecidableEq

namespace Ending

def closed : Ending → Bool
  | .closes | .goesOn => true
  | .waits | .unwinds | .terminates => false

/-- A fault in `handle_client` is followed by `destroy_rpc_connection` and a return. -/
def simple : Option Fault → Ending
  | none => .waits
  | some (.escapes _) => .unwinds
  | some fault => if fault.isFatal then .terminates else .closes

/-- A fault is followed by `destroy_connection`, which is called once more behind the loop;
an exception leaves the function of a thread. -/
def threaded : Option Fault → Ending
  | none => .waits
  | some (.escapes _) => .terminates
  | some fault => if fault.isFatal then .terminates else .goesOn

/-- A fault is an exception that leaves `io_service::run`, mostly after `destroy`. -/
def async : Option Fault → Ending
  | none => .waits
  | some fault =>
      if fault.isFatal then .terminates
      else if (Async.thrown "" fault).destroys then .closes
      else .unwinds

end Ending

/-- The status and the parameter of a response. -/
def view (reply : Reply) : Option Status × List UInt8 := (reply.rpcResp.status, reply.resp)

/-- The responses to the requests of a connection, and how it ends. -/
structure Seen where
  responses : List (Option Status × List UInt8)
  ending : Ending
  deriving DecidableEq

def seen (ending : Option Fault → Ending) (ended : List Reply × Option Fault) : Seen :=
  ⟨ended.1.map view, ending ended.2⟩

section Sessions

variable {Msg : Type} [Protobuf]

def simpleSession (services : Services Msg) (turns : List (Turn Msg)) (endpoint : Endpoint) :
    Seen :=
  seen Ending.simple (trace (simple services) turns endpoint)

def threadedSession (services : Services Msg) (turns : List (Turn Msg)) (endpoint : Endpoint) :
    Seen :=
  seen Ending.threaded (trace (threaded services) turns endpoint)

def asyncSession (services : Services Msg) (turns : List (Realloc × Turn Msg)) (link : Link) :
    Seen :=
  seen Ending.async (trace (async services) turns link)

/-- What becomes of the connection of another client that has the number by then. -/
def onwards (services : Services Msg) (turn : Turn Msg) (other : Endpoint) : Ending → Endpoint
  | .goesOn => (Threaded.handleRequest services turn other).1
  | .waits | .closes | .unwinds | .terminates => other

/-- The program goes on and leaves the connections of other clients alone. After an
exception the application calls `Run` again. -/
def ServesOthers (services : Services Msg) (ending : Ending) : Prop :=
  ending ≠ .terminates ∧ ∀ turn other, onwards services turn other ending = other

/-- The same responses, and the connection is closed after the same request. -/
def Agree (first second : Seen) : Prop :=
  first.responses = second.responses ∧ first.ending.closed = second.ending.closed

structure Interchangeable (services : Services Msg) (simple threaded async : Seen) : Prop where
  fieldwise : Agree simple threaded
  handlers : Agree simple async
  serving : ∀ seen ∈ [simple, threaded, async], ServesOthers services seen.ending

end Sessions

section Comparing

variable {Msg : Type} [Protobuf] {services : Services Msg}

/-- What a request comes to in the first two servers, and in the async one. -/
inductive Compared (request : Asked services) : Except Fault Reply → Except Fault Reply → Prop where
  | unparsed (missing : request.outcome = none) :
      Compared request (.error .parameterUnparsed) (.error .parameterUnparsed)
  | threw {outcome : Outcome Msg} {what : String} {reply : Reply}
      (found : request.outcome = some outcome) (thrown : throws outcome = true) :
      Compared request (.error (.escapes what)) (.ok reply)
  | agreed {outcome : Outcome Msg} {plain guarded : Reply}
      (found : request.outcome = some outcome) (calm : throws outcome = false)
      (same : view plain = view guarded) : Compared request (.ok plain) (.ok guarded)

theorem compared (request : Asked services) :
    Compared request (request.answered Simple.dialect) (request.answered Async.dialect) := by
  rw [request.answered_eq, request.answered_eq]
  cases found : request.outcome with
  | none => exact .unparsed found
  | some outcome =>
      cases outcome with
      | returns response => exact .agreed found rfl rfl
      | fails reason response => exact .agreed found rfl rfl
      | throws what response => exact .threw found rfl

/-- No method throws before a parameter that does not parse. -/
def Unthrown (requests : List (Asked services)) : Prop :=
  ∀ request ∈ requests.takeWhile (fun request => request.outcome.isSome),
    ∀ outcome, request.outcome = some outcome → throws outcome = false

theorem unthrown_cons {request : Asked services} {requests : List (Asked services)} :
    Unthrown (request :: requests) ↔
      ∀ outcome, request.outcome = some outcome → throws outcome = false ∧ Unthrown requests := by
  cases found : request.outcome with
  | none =>
      simp only [Unthrown, List.takeWhile_cons, found, Option.isSome_none, Bool.false_eq_true,
        if_false, List.not_mem_nil, false_imp_iff, implies_true, reduceCtorEq]
  | some outcome =>
      simp only [Unthrown, List.takeWhile_cons, found, Option.isSome_some, if_true,
        List.forall_mem_cons, Option.some.injEq, forall_eq']

theorem agree_of_unthrown {requests : List (Asked services)} (unthrown : Unthrown requests) :
    ((results (Asked.answered Simple.dialect) requests).1.map view =
        (results (Asked.answered Async.dialect) requests).1.map view) ∧
      (results (Asked.answered Simple.dialect) requests).2 =
        (results (Asked.answered Async.dialect) requests).2 ∧
      ∀ fault, (results (Asked.answered Simple.dialect) requests).2 = some fault →
        fault = .parameterUnparsed := by
  induction requests with
  | nil => exact ⟨rfl, rfl, nofun⟩
  | cons request requests ih =>
      have first := unthrown_cons.mp unthrown
      have step := compared request
      unfold results
      generalize request.answered Simple.dialect = plain at step
      generalize request.answered Async.dialect = guarded at step
      cases step with
      | unparsed missing =>
          refine ⟨rfl, rfl, ?_⟩
          rintro fault ⟨rfl⟩
          rfl
      | threw found thrown =>
          rw [(first _ found).1] at thrown
          cases thrown
      | agreed found calm same =>
          obtain ⟨views, faults, unparsed⟩ := ih (first _ found).2
          refine ⟨?_, faults, unparsed⟩
          simp only [Prod.map_fst, List.map_cons, same, views]

/-- Behind a method that throws there is a response of the async server only. -/
theorem shorter_of_thrown {requests : List (Asked services)} (thrown : ¬ Unthrown requests) :
    (results (Asked.answered Simple.dialect) requests).1.length <
      (results (Asked.answered Async.dialect) requests).1.length := by
  induction requests with
  | nil => exact absurd nofun thrown
  | cons request requests ih =>
      rw [unthrown_cons] at thrown
      have step := compared request
      unfold results
      generalize request.answered Simple.dialect = plain at step
      generalize request.answered Async.dialect = guarded at step
      cases step with
      | unparsed missing =>
          refine absurd (fun outcome found => ?_) thrown
          rw [missing] at found
          cases found
      | threw found threw => exact Nat.succ_pos _
      | agreed found calm same =>
          refine Nat.succ_lt_succ (ih fun unthrown => thrown fun outcome other => ?_)
          cases found.symm.trans other
          exact ⟨calm, unthrown⟩

/-- Nothing stops the servers exactly when every request is answered. -/
theorem results_eq_none_iff {requests : List (Asked services)} :
    (results (Asked.answered Simple.dialect) requests).2 = none ↔
      ∀ request ∈ requests, request.Calm := by
  induction requests with
  | nil =>
      apply iff_of_true rfl
      simp
  | cons request requests ih =>
      have step := compared request
      rw [List.forall_mem_cons, ← ih, results]
      generalize request.answered Simple.dialect = plain at step
      generalize request.answered Async.dialect = guarded at step
      cases step with
      | unparsed missing =>
          refine ⟨by rintro ⟨⟩, ?_⟩
          rintro ⟨⟨outcome, found, -⟩, -⟩
          cases missing.symm.trans found
      | threw found thrown =>
          refine ⟨by rintro ⟨⟩, ?_⟩
          rintro ⟨⟨outcome, other, calm⟩, -⟩
          cases found.symm.trans other
          cases thrown.symm.trans calm
      | agreed found calm same =>
          constructor
          · intro unstopped
            exact ⟨⟨_, found, calm⟩, unstopped⟩
          · intro both
            exact both.2

theorem unthrown_of_calm {requests : List (Asked services)}
    (calm : ∀ request ∈ requests, request.Calm) : Unthrown requests := by
  intro request member outcome found
  obtain ⟨other, same, calm⟩ := calm request ((List.takeWhile_sublist _).subset member)
  cases found.symm.trans same
  exact calm

end Comparing

section Sending

variable {Msg : Type} [Protobuf] {services : Services Msg}

/-- What a client sends, in any portions. -/
def sent (requests : List (Asked services)) : List UInt8 :=
  (requests.map fun request => request.parts.packet).flatten

/-- A turn in which nothing goes wrong but what the method does. -/
structure Calmly (dialect : Dialect) (room : Asked services → Nat) (request : Asked services)
    (turn : Turn Msg) : Prop where
  perform : turn.perform = request.perform
  well : Kind dialect services request.parts (room request) turn

theorem kind_mono {dialect : Dialect} {parts : Parts} {room larger : Nat} {turn : Turn Msg}
    (well : Kind dialect services parts room turn) (le : room ≤ larger) :
    Kind dialect services parts larger turn :=
  { well with fits := fun reply answered => (well.fits reply answered).trans le }

variable {requests : List (Asked services)}

theorem simple_trace {turns : List (Turn Msg)} {endpoint : Endpoint}
    (exact : endpoint.buf.Exact) (arrives : endpoint.incoming.flatten = sent requests)
    (calm : List.Forall₂ (Calmly Simple.dialect fun _ => maxSize) requests turns) :
    trace (simple services) turns endpoint = results (Asked.answered Simple.dialect) requests := by
  apply trace_of_step (fun requests (endpoint : Endpoint) =>
    endpoint.buf.Exact ∧ endpoint.incoming.flatten = sent requests) _ calm ⟨exact, arrives⟩
  intro request requests turn endpoint calmly facing
  obtain ⟨exact, arrives⟩ := facing
  obtain ⟨next, ran, kept, left, -⟩ := simple_serves request.small exact arrives calmly.well
  rw [calmly.perform] at ran
  exact ⟨next, ran, kept, left⟩

theorem threaded_trace {turns : List (Turn Msg)} {endpoint : Endpoint}
    (holds : Threaded.Expanded endpoint.buf)
    (arrives : endpoint.incoming.flatten = sent requests)
    (calm : List.Forall₂ (Calmly Threaded.dialect fun _ => maxSize) requests turns) :
    trace (threaded services) turns endpoint =
      results (Asked.answered Simple.dialect) requests := by
  apply trace_of_step (fun requests (endpoint : Endpoint) =>
    Threaded.Expanded endpoint.buf ∧ endpoint.incoming.flatten = sent requests) _ calm
    ⟨holds, arrives⟩
  intro request requests turn endpoint calmly facing
  obtain ⟨holds, arrives⟩ := facing
  obtain ⟨next, ran, kept, left, -⟩ := threaded_serves request.small holds arrives calmly.well
  rw [calmly.perform] at ran
  exact ⟨next, ran, kept, left⟩

/-- The room for a response: what the largest packet so far needed, or the request. -/
def asyncRoom (largest : UInt32) (request : Asked services) : Nat :=
  roundUp (max largest.toNat request.parts.packet.length)

theorem async_trace {turns : List (Realloc × Turn Msg)} {link : Link} (sound : link.Grown)
    (alive : link.conn.server = true) (arrives : link.incoming.flatten = sent requests)
    (calm : List.Forall₂ (fun request turn => turn.1.Succeeds ∧
      Calmly Async.dialect (asyncRoom link.conn.largest) request turn.2) requests turns) :
    trace (async services) turns link = results (Asked.answered Async.dialect) requests := by
  let facing (requests : List (Asked services)) (next : Link) : Prop :=
    next.Grown ∧ next.conn.server = true ∧ link.conn.largest ≤ next.conn.largest ∧
      next.incoming.flatten = sent requests
  apply trace_of_step facing _ calm ⟨sound, alive, UInt32.le_refl _, arrives⟩
  intro request requests turn link calmly faced
  obtain ⟨sound, alive, grown, arrives⟩ := faced
  obtain ⟨succeeds, calmly⟩ := calmly
  have enlarged := max_le_max (UInt32.le_iff_toNat_le.mp grown)
    (Nat.le_refl request.parts.packet.length)
  have well := kind_mono calmly.well (roundUp_mono enlarged)
  obtain ⟨next, ran, kept, server, larger, left⟩ :=
    async_serves request.small sound alive succeeds arrives well
  rw [calmly.perform] at ran
  exact ⟨next, ran, kept, server, UInt32.le_trans grown larger, left⟩

end Sending

section Others

variable {Msg : Type} [Protobuf] {services : Services Msg}

/-- The loop takes bytes of whoever has the number. -/
theorem not_servesOthers_goesOn : ¬ ServesOthers services .goesOn := by
  intro serves
  let turn : Turn Msg :=
    ⟨.zeroed, fun _ message => .returns message, ⟨.zeroed, true, true, 0⟩⟩
  have left := congrArg Endpoint.incoming (serves.2 turn { incoming := [[0]] })
  have taken : (Threaded.handleRequest services turn { incoming := [[0]] }).1.incoming = [] := rfl
  cases left.symm.trans taken

theorem servesOthers_of_ne {ending : Ending} (runs : ending ≠ .terminates)
    (done : ending ≠ .goesOn) : ServesOthers services ending := by
  refine ⟨runs, fun turn other => ?_⟩
  cases ending with
  | goesOn => exact absurd rfl done
  | waits | closes | unwinds | terminates => rfl

end Others

/-- For every table of services, every list of requests for registered methods, and any
portions they arrive in: the servers give the same responses and close the connection
after the same request exactly when no method throws before a parameter that does not
parse. They are interchangeable exactly when every parameter parses and no method
throws. -/
theorem servers_interchangeable_iff {Msg : Type} [Protobuf] (services : Services Msg)
    (requests : List (Asked services)) (simpleTurns threadedTurns : List (Turn Msg))
    (asyncTurns : List (Realloc × Turn Msg)) (first second : Endpoint) (link : Link)
    (exact : first.buf.Exact) (holds : Threaded.Expanded second.buf) (sound : link.Grown)
    (alive : link.conn.server = true) (firstArrives : first.incoming.flatten = sent requests)
    (secondArrives : second.incoming.flatten = sent requests)
    (linkArrives : link.incoming.flatten = sent requests)
    (simpleCalm : List.Forall₂ (Calmly Simple.dialect fun _ => maxSize) requests simpleTurns)
    (threadedCalm :
      List.Forall₂ (Calmly Threaded.dialect fun _ => maxSize) requests threadedTurns)
    (asyncCalm : List.Forall₂ (fun request turn => turn.1.Succeeds ∧
      Calmly Async.dialect (asyncRoom link.conn.largest) request turn.2) requests asyncTurns) :
    let simple := simpleSession services simpleTurns first
    let threaded := threadedSession services threadedTurns second
    let async := asyncSession services asyncTurns link
    (Agree simple threaded ∧ Agree simple async ↔ Unthrown requests) ∧
      (Interchangeable services simple threaded async ↔ ∀ request ∈ requests, request.Calm) := by
  intro simple threaded async
  have simpleSeen : simple = seen Ending.simple
      (results (Asked.answered Simple.dialect) requests) :=
    congrArg (seen _) (simple_trace exact firstArrives simpleCalm)
  have threadedSeen : threaded = seen Ending.threaded
      (results (Asked.answered Simple.dialect) requests) :=
    congrArg (seen _) (threaded_trace holds secondArrives threadedCalm)
  have asyncSeen : async = seen Ending.async
      (results (Asked.answered Async.dialect) requests) :=
    congrArg (seen _) (async_trace sound alive linkArrives asyncCalm)
  have agreement : Agree simple threaded ∧ Agree simple async ↔ Unthrown requests := by
    constructor
    · intro agree
      by_contra thrown
      have shorter := shorter_of_thrown thrown
      have same := congrArg List.length agree.2.1
      rw [simpleSeen, asyncSeen] at same
      simp only [seen, List.length_map] at same
      omega
    · intro unthrown
      obtain ⟨views, faults, unparsed⟩ := agree_of_unthrown unthrown
      rw [simpleSeen, threadedSeen, asyncSeen]
      simp only [Agree, seen, views, ← faults, true_and]
      cases stopped : (results (Asked.answered Simple.dialect) requests).2 with
      | none => exact ⟨rfl, rfl⟩
      | some fault =>
          rw [unparsed fault stopped]
          exact ⟨rfl, rfl⟩
  refine ⟨agreement, ?_⟩
  rw [← results_eq_none_iff]
  constructor
  · intro interchangeable
    have unthrown := agreement.mp ⟨interchangeable.fieldwise, interchangeable.handlers⟩
    obtain ⟨-, -, unparsed⟩ := agree_of_unthrown unthrown
    cases stopped : (results (Asked.answered Simple.dialect) requests).2 with
    | none => rfl
    | some fault =>
        have serves := interchangeable.serving threaded (by simp)
        rw [threadedSeen, seen, stopped, unparsed fault stopped] at serves
        exact absurd serves not_servesOthers_goesOn
  · intro unstopped
    have unthrown := unthrown_of_calm (results_eq_none_iff.mp unstopped)
    obtain ⟨-, faults, -⟩ := agree_of_unthrown unthrown
    obtain ⟨fieldwise, handlers⟩ := agreement.mpr unthrown
    refine ⟨fieldwise, handlers, ?_⟩
    have waiting : simple.ending = .waits ∧ threaded.ending = .waits ∧ async.ending = .waits := by
      rw [simpleSeen, threadedSeen, asyncSeen]
      simp only [seen, ← faults, unstopped]
      exact ⟨rfl, rfl, rfl⟩
    obtain ⟨simpleWaits, threadedWaits, asyncWaits⟩ := waiting
    have waits : ServesOthers services .waits := servesOthers_of_ne nofun nofun
    simp only [List.forall_mem_cons, simpleWaits, threadedWaits, asyncWaits]
    exact ⟨waits, waits, waits, nofun⟩

/-- A service whose method takes no empty request. -/
def strictMethod : Method (List UInt8) :=
  { name := "ping", request := ⟨id, fun bytes => if bytes = [] then none else some bytes⟩,
    response := ⟨id, some⟩ }

def strictService : Service (List UInt8) where
  name := "Echo"
  methods := [strictMethod]
  undotted := echo_undotted

def strictServices : Services (List UInt8) := (registerService strictService .empty).1

theorem strictParts_small {req : List UInt8} (small : req.length ≤ 1) :
    Parts.Small ⟨samplePayload.take 13, req, []⟩ := by
  have header : (samplePayload.take 13).length = 13 := rfl
  have limit : maxSize = 2 ^ 31 := rfl
  have twelve : sizeofPacket = 12 := rfl
  rw [Parts.Small, Parts.length_payload]
  simp only [header, List.length_nil]
  omega

/-- A request for it, with the parameter `req`. -/
def strictRequest (req : List UInt8) (small : req.length ≤ 1)
    (perform : Method (List UInt8) → List UInt8 → Outcome (List UInt8)) :
    Asked strictServices where
  parts := ⟨samplePayload.take 13, req, []⟩
  small := strictParts_small small
  rpcReq := ⟨some 1, some "Echo.ping"⟩
  parsed := by
    have parsed : Protobuf.request.parse (samplePayload.take 13) =
      some ⟨some 1, some "Echo.ping"⟩ := by decide
    exact parsed
  method := strictMethod
  named := by
    have dotted : "Echo.ping" = strictService.name ++ "." ++ strictMethod.name := by decide
    have found : strictService.findMethodByName strictMethod.name = some strictMethod := rfl
    exact dotted ▸ findTarget_registered rfl found
  perform

def strictTurn (perform : Method (List UInt8) → List UInt8 → Outcome (List UInt8)) :
    Turn (List UInt8) :=
  { sampleTurn 100 with perform }

def echo (_ : Method (List UInt8)) (request : List UInt8) : Outcome (List UInt8) :=
  .returns request

def throwing (_ : Method (List UInt8)) (request : List UInt8) : Outcome (List UInt8) :=
  .throws "" request

def echoRequest (value : UInt8) : Asked strictServices :=
  strictRequest [value] (Nat.le_refl 1) echo

theorem answered_echo (dialect : Dialect) (value : UInt8) :
    (echoRequest value).answered dialect =
      .ok (.of (dialect.stamp ⟨some 1, some "Echo.ping"⟩ { status := some .success })
        [value]) := by
  rw [Asked.answered_eq]
  rfl

theorem calmly_echo {dialect : Dialect} {room : Asked strictServices → Nat} {value : UInt8}
    (fits : (Reply.of (dialect.stamp ⟨some 1, some "Echo.ping"⟩ { status := some .success })
      [value]).packet.length ≤ min 100 (room (echoRequest value))) :
    Calmly dialect room (echoRequest value) (strictTurn echo) := by
  obtain ⟨taken, fits⟩ := Nat.le_min.mp fits
  refine ⟨rfl, Realloc.zeroed_succeeds, Realloc.zeroed_succeeds, rfl, rfl, ?_, ?_⟩
  · intro reply answered
    cases (answered_echo dialect value).symm.trans answered
    exact fits
  · intro reply answered
    cases (answered_echo dialect value).symm.trans answered
    exact taken

/-- Two requests on one connection, in portions that do not fall together with them. -/
def echoIncoming : Incoming :=
  [samplePacket.take 20, samplePacket.drop 20 ++ (echoRequest 9).parts.packet]

/-- Two requests that are answered. -/
theorem servers_interchangeable_echo :
    Interchangeable strictServices
      (simpleSession strictServices [strictTurn echo, strictTurn echo]
        { incoming := echoIncoming })
      (threadedSession strictServices [strictTurn echo, strictTurn echo]
        { incoming := echoIncoming })
      (asyncSession strictServices [(.zeroed, strictTurn echo), (.zeroed, strictTurn echo)]
        ⟨{}, echoIncoming⟩) := by
  have asyncFits : ∀ value, (17 : Nat) ≤ min 100 (asyncRoom 0 (echoRequest value)) := by
    intro value
    have packet : (17 : Nat) ≤ (echoRequest value).parts.packet.length := by
      have length : (echoRequest value).parts.packet.length = 26 := rfl
      omega
    exact Nat.le_min.mpr ⟨by decide,
      (packet.trans (Nat.le_max_right _ _)).trans (le_roundUp _)⟩
  have calm : ∀ value, Realloc.zeroed.Succeeds ∧
      Calmly Async.dialect (asyncRoom 0) (echoRequest value) (strictTurn echo) :=
    fun value => ⟨Realloc.zeroed_succeeds, calmly_echo (asyncFits value)⟩
  refine ((servers_interchangeable_iff strictServices [echoRequest 7, echoRequest 9]
    [strictTurn echo, strictTurn echo] [strictTurn echo, strictTurn echo]
    [(.zeroed, strictTurn echo), (.zeroed, strictTurn echo)]
    { incoming := echoIncoming } { incoming := echoIncoming } ⟨{}, echoIncoming⟩
    nofun ⟨0, .initial⟩ .initial rfl (by decide) (by decide) (by decide)
    (.cons (calmly_echo (by decide)) (.cons (calmly_echo (by decide)) .nil))
    (.cons (calmly_echo (by decide)) (.cons (calmly_echo (by decide)) .nil))
    (.cons (calm 7) (.cons (calm 9) .nil))).2).mpr ?_
  intro request member
  rcases List.mem_pair.mp member with rfl | rfl
  · exact ⟨_, rfl, rfl⟩
  · exact ⟨_, rfl, rfl⟩

/-- A connection whose buffer has held a packet of 128 bytes. -/
def used : Async.RpcServerConnection :=
  { buf := { p := some (List.replicate 128 0), size := 128 }, largest := 128 }

/-- A method that throws is answered by one server only, and the other two stop. Behind a
parameter that does not parse the threaded server reads from another client. -/
theorem servers_differ :
    simpleSession strictServices [strictTurn throwing] { incoming := [samplePacket] } =
        ⟨[], .unwinds⟩ ∧
      threadedSession strictServices [strictTurn throwing] { incoming := [samplePacket] } =
        ⟨[], .terminates⟩ ∧
      asyncSession strictServices [(.zeroed, strictTurn throwing)] ⟨used, [samplePacket]⟩ =
        ⟨[(some .failed, [7])], .waits⟩ ∧
      ¬ Interchangeable strictServices
        (simpleSession strictServices [strictTurn throwing] { incoming := [samplePacket] })
        (threadedSession strictServices [strictTurn throwing] { incoming := [samplePacket] })
        (asyncSession strictServices [(.zeroed, strictTurn throwing)] ⟨used, [samplePacket]⟩) ∧
      simpleSession strictServices [strictTurn echo]
          { incoming := [(strictRequest [] (by decide) echo).parts.packet] } = ⟨[], .closes⟩ ∧
      threadedSession strictServices [strictTurn echo]
          { incoming := [(strictRequest [] (by decide) echo).parts.packet] } = ⟨[], .goesOn⟩ ∧
      (onwards strictServices (strictTurn echo) { incoming := [samplePacket] }
        .goesOn).incoming.flatten = [] := by
  have simple : simpleSession strictServices [strictTurn throwing]
      { incoming := [samplePacket] } = ⟨[], .unwinds⟩ := by decide
  have threaded : threadedSession strictServices [strictTurn throwing]
      { incoming := [samplePacket] } = ⟨[], .terminates⟩ := by decide
  have async : asyncSession strictServices [(.zeroed, strictTurn throwing)]
      ⟨used, [samplePacket]⟩ = ⟨[(some .failed, [7])], .waits⟩ := by decide
  refine ⟨simple, threaded, async, ?_, by decide, by decide, by decide⟩
  intro interchangeable
  have same := interchangeable.handlers.1
  rw [simple, async] at same
  cases same

end CarrotRpc.Protocol.Interchange
