import CarrotRpc.Protob.WireFormat
import CarrotRpc.Server.ThreadedServerProperties

/-! How the threads of the threaded server use their descriptors. A thread that fails
closes its descriptor in the branch of the failure and again behind the loop. -/

set_option autoImplicit false

namespace CarrotRpc.Server.Threaded

open Library Library.Faulting Common Protob

namespace State

/-- The thread has closed its number at most once, and once when it is gone. It used
the number neither after that nor when it was another client's. -/
structure Owns (state : State) (ref : HandlerRef) : Prop where
  atMostOnce : (state.handlers ref).closes ≤ 1
  exited : (state.handlers ref).point = .exited → (state.handlers ref).closes = 1
  notAfterwards : (state.handlers ref).usedClosed = false
  notAnothers : (state.handlers ref).trespassed = false

section Condition

variable {Msg : Type} [Protobuf]

/-- The step takes none of the branches that call `destroy_connection`. -/
def Unfailing (services : Services Msg) (state : State) : Label Msg → Prop
  | .handle ref event =>
      match advance services state.stopped (state.handlers ref) event with
      | some advanced => advanced.point.destroys = false
      | none => True
  | .run | .stop | .accept _ => True

instance (services : Services Msg) (state : State) (label : Label Msg) :
    Decidable (Unfailing services state label) := by
  unfold Unfailing
  split
  · split <;> infer_instance
  all_goals infer_instance

end Condition

end State

section Causes

variable {Msg : Type} [Protobuf]

/-- The request is understood and its method returns, memory is found for the response,
and it serializes. -/
def Answerable (services : Services Msg) (turn : Turn Msg) (header : Header) (buf : PacketBuf) :
    Prop :=
  ∃ rpcReq method request controller response,
    Understood services header buf rpcReq method request ∧
    dialect.settle (turn.perform method request) = .ok (controller, response) ∧
    ¬ buf.Denied turn.delivery.heap
      (.ofNat (responseSize (dialect.verdict controller) (method.response.serialize response))) ∧
    turn.delivery.serializesMetadata = true ∧ turn.delivery.serializesResponse = true

/-- No read or write fails, memory is found for a request, and it can be answered. -/
def Event.Succeeds (services : Services Msg) (handler : Handler) : Event Msg → Prop
  | .proceeds | .progresses => True
  | .fails _ => False
  | .transfers bytes turn =>
      match handler.point with
      | .readRespLen rpcLen reqLen =>
          ¬ handler.buf.Denied turn.heap
            (packetSize ⟨rpcLen, reqLen, ByteOrder.ofBigEndian32 bytes⟩)
      | .readPayload header size =>
          Answerable services turn header (storePayload size bytes handler.buf).1
      | _ => True

def State.Succeeding (services : Services Msg) (state : State) : Label Msg → Prop
  | .handle ref event => event.Succeeds services (state.handlers ref)
  | .run | .stop | .accept _ => True

variable {services : Services Msg} {handler advanced : Handler} {turn : Turn Msg}
  {header : Header} {buf next : PacketBuf}

omit [Protobuf] in
theorem proceed_eq_some {Value : Type} {again : Bool} {point : Value → Point}
    {result : PacketBuf × Except Fault Value}
    (ended : proceed again point handler result = some advanced) :
    (∃ value, result.2 = .ok value ∧ advanced.point = point value) ∨
      ∃ fault, result.2 = .error fault ∧ fault.isFatal = false ∧
        advanced.point = .destroy again := by
  obtain ⟨buf, fault | value⟩ := result
  · right
    cases fault <;> simp only [proceed, Fault.isFatal, reduceCtorEq, ↓reduceIte,
      Bool.false_eq_true] at ended
    all_goals
      cases ended
      exact ⟨_, rfl, rfl, rfl⟩
  · cases ended
    exact .inl ⟨value, rfl, rfl⟩

/-- What a thread sends is the response to a request it could answer. -/
theorem answerable_of_answered {packet : List UInt8}
    (answered : (dispatch dialect (lookUp services) turn.perform header >>= fun response =>
      preparePacket turn.delivery response.1 response.2) buf = (next, .ok packet)) :
    Answerable services turn header buf := by
  obtain ⟨response, after, dispatched, prepared⟩ := bind_eq_ok answered
  obtain ⟨rpcResp, resp⟩ := response
  obtain ⟨parameter, fed, serializes⟩ := preparePacket_eq_ok prepared
  obtain ⟨resp, rfl⟩ := parameter
  obtain ⟨rfl, rpcReq, method, request, controller, response, understood, settled, rfl, rfl⟩ :=
    understood_of_dispatch dispatched
  exact ⟨rpcReq, method, request, controller, response, understood, settled, fed, serializes⟩

theorem Answerable.fatal {fault : Fault} (answerable : Answerable services turn header buf)
    (answered : (dispatch dialect (lookUp services) turn.perform header >>= fun response =>
      preparePacket turn.delivery response.1 response.2) buf = (next, .error fault)) :
    fault.isFatal = true := by
  obtain ⟨rpcReq, method, request, controller, response, understood, settled, fed, serializes⟩ :=
    answerable
  obtain ⟨metadata, parameter⟩ := serializes
  have dispatched : dispatch dialect (lookUp services) turn.perform header buf =
      (buf, .ok (dialect.stamp rpcReq (dialect.verdict controller),
        some (method.response.serialize response))) := by
    rw [understood.dispatch, callTarget, settled]
    rfl
  rw [bind_of_ok _ dispatched] at answered
  exact preparePacket_fatal fed metadata parameter answered

/-- A step of a thread comes to one of the failing branches exactly when something fails. -/
theorem destroys_advance_iff {stopped : Bool} {event : Event Msg}
    (ended : advance services stopped handler event = some advanced) :
    advanced.point.destroys = false ↔ event.Succeeds services handler := by
  obtain ⟨fd, point, buf, closes, usedClosed, trespassed, failed⟩ := handler
  cases event with
  | proceeds =>
      refine iff_of_true ?_ trivial
      cases point <;> simp only [advance, reduceCtorEq] at ended
      case top =>
        cases ended
        cases stopped <;> rfl
      case destroy again =>
        cases ended
        cases again <;> rfl
      case leave =>
        cases ended
        rfl
  | progresses =>
      refine iff_of_true ?_ trivial
      cases point <;> simp only [advance, reduceCtorEq] at ended
      all_goals
        cases ended
        rfl
  | fails bytes =>
      refine iff_of_false ?_ id
      cases point <;> simp only [advance, reduceCtorEq] at ended
      case readPayload header size =>
        split at ended
        · cases ended
          exact ne_false_of_eq_true rfl
        · cases ended
      all_goals
        cases ended
        exact ne_false_of_eq_true rfl
  | transfers bytes turn =>
      cases point <;> simp only [advance, reduceCtorEq] at ended
      case readRpcLen =>
        split at ended
        · cases ended
          exact iff_of_true rfl trivial
        · cases ended
      case readReqLen rpcLen =>
        split at ended
        · cases ended
          exact iff_of_true rfl trivial
        · cases ended
      case readRespLen rpcLen reqLen =>
        split at ended
        · rcases proceed_eq_some ended with ⟨size, opened, point⟩ | ⟨fault, opened, mild, point⟩
          · rw [point]
            exact iff_of_true rfl (openPayload_eq_ok (apply_eq opened))
          · rw [point]
            refine iff_of_false (ne_false_of_eq_true rfl) fun fed => ?_
            cases mild.symm.trans (openPayload_fatal fed (apply_eq opened))
        · cases ended
      case readPayload header size =>
        split at ended
        · next stored storing =>
            have begun : (storePayload size bytes buf).1 = stored := congrArg Prod.fst storing
            rcases proceed_eq_some ended with ⟨packet, answered, point⟩ | ⟨fault, answered, mild, point⟩
            · rw [point]
              refine iff_of_true rfl ?_
              simp only [Event.Succeeds, begun]
              exact answerable_of_answered (apply_eq answered)
            · rw [point]
              refine iff_of_false (ne_false_of_eq_true rfl) fun answerable => ?_
              simp only [Event.Succeeds, begun] at answerable
              cases mild.symm.trans (answerable.fatal (apply_eq answered))
        · cases ended
      case write packet =>
        cases ended
        exact iff_of_true rfl trivial

end Causes

namespace State

section Causes

variable {Msg : Type} [Protobuf] {services : Services Msg} {state next : State}

theorem unfailing_iff {label : Label Msg} (stepped : state.step services label = some next) :
    Unfailing services state label ↔ Succeeding services state label := by
  cases label with
  | run | stop | accept => exact Iff.rfl
  | handle ref event =>
      simp only [State.step, handle] at stepped
      split at stepped
      · obtain ⟨advanced, ended, _⟩ := Option.map_eq_some_iff.mp stepped
        simp only [Unfailing, Succeeding, ended]
        exact destroys_advance_iff ended
      · cases stepped

/-- The runs in which no thread takes a failing branch are those in which nothing that a
thread asks of its client, of the allocator and of protobuf fails. -/
theorem reachableVia_unfailing_iff :
    (threadedServer services).ReachableVia (Unfailing services) state ↔
      (threadedServer services).ReachableVia (Succeeding services) state := by
  constructor
  · intro reached
    exact reached.weaken_with (threadedServer services)
      fun _ _ _ _ _ unfailing stepped => (unfailing_iff stepped).mp unfailing
  · intro reached
    exact reached.weaken_with (threadedServer services)
      fun _ _ _ _ _ succeeding stepped => (unfailing_iff stepped).mpr succeeding

end Causes

/-- How often a thread at a point has closed its number, from whether a step of it
failed. -/
structure Count (point : Point) (failed usedClosed : Bool) (closes : Nat) : Prop where
  clean : failed = false → point.destroys = false ∧ usedClosed = false ∧
    closes = if point = .exited then 1 else 0
  failed : failed = true → 1 + (if point = .exited then 1 else 0) ≤
    closes + if point.destroys then 1 else 0

theorem Count.move {before after : Point} {failed failedAfter usedClosed : Bool} {closes : Nat}
    (count : Count before failed usedClosed closes)
    (move : Move before failed after failedAfter) :
    Count after failedAfter (usedClosed || (before.uses && 0 < closes))
      (if before.closes then closes + 1 else closes) := by
  cases move with
  | goes open_ running well stays =>
      rw [open_, if_neg Bool.false_ne_true]
      constructor
      · intro clean
        obtain ⟨-, unused, none⟩ := count.clean clean
        rw [if_neg running] at none
        rw [if_neg stays]
        exact ⟨well, by simp [unused, none], none⟩
      · intro broken
        have closed := count.failed broken
        have here : before.destroys = false := by
          cases before <;> simp_all [Point.destroys, Point.closes]
        rw [if_neg running, here] at closed
        rw [if_neg stays, well]
        exact closed
  | fails open_ running =>
      rw [open_, if_neg Bool.false_ne_true]
      constructor
      · rintro ⟨⟩
      · intro _
        simp only [reduceCtorEq, ↓reduceIte, Point.destroys]
        omega
  | @closes _ again =>
      constructor
      · intro clean
        cases (count.clean clean).1
      · intro broken
        have closed := count.failed broken
        simp only [reduceCtorEq, ↓reduceIte, Point.destroys, Point.closes] at closed ⊢
        cases again <;> simp
  | leaves =>
      constructor
      · intro clean
        obtain ⟨-, unused, none⟩ := count.clean clean
        rw [if_neg (by rintro ⟨⟩)] at none
        exact ⟨rfl, by simp [unused, none], by simp [Point.closes, none]⟩
      · intro broken
        have closed := count.failed broken
        simp only [reduceCtorEq, ↓reduceIte, Point.destroys, Point.closes, Bool.false_eq_true]
          at closed ⊢
        omega

def Counted (state : State) : Prop :=
  ∀ ref < state.nextHandler, Count (state.handlers ref).point (state.handlers ref).failed
    (state.handlers ref).usedClosed (state.handlers ref).closes

theorem Counted.turned {state next : State} (counted : state.Counted)
    (turned : Turned state next) : next.Counted := by
  intro ref bound
  cases turned with
  | same handlers count =>
      rw [handlers]
      exact counted ref (count ▸ bound)
  | spawned closed =>
      simp only [Function.update_apply]
      split
      · exact ⟨fun _ => ⟨rfl, rfl, rfl⟩, nofun⟩
      · next other => exact counted ref (Nat.lt_of_le_of_ne (Nat.le_of_lt_succ bound) other)
  | @stepped stepping advanced within step =>
      simp only [Function.update_apply]
      split
      · have count := (counted stepping within).move step.move
        exact count
      · exact counted ref bound

/-- No thread has failed, and a thread that is not gone holds its number. -/
structure Held (state : State) : Prop where
  clean : ∀ ref < state.nextHandler, (state.handlers ref).failed = false
  opened : ∀ ref < state.nextHandler, (state.handlers ref).point ≠ .exited →
    (state.handlers ref).fd ∈ state.openFds ∧ state.owner (state.handlers ref).fd = ref
  notAnothers : ∀ ref < state.nextHandler, (state.handlers ref).trespassed = false

theorem Held.turned {state next : State} (held : state.Held) (counted : state.Counted)
    (clean : ∀ ref < next.nextHandler, (next.handlers ref).failed = false)
    (turned : Turned state next) : next.Held := by
  refine ⟨clean, ?_, ?_⟩
  · intro ref bound running
    cases turned with
    | same handlers count fds owner =>
        rw [handlers] at running
        rw [handlers, fds, owner]
        exact held.opened ref (count ▸ bound) running
    | @spawned fd _ closed =>
        simp only [Function.update_apply] at running ⊢
        split
        · next new =>
            rw [if_pos rfl]
            exact ⟨Finset.mem_insert_self _ _, new.symm⟩
        · next old =>
            rw [if_neg old] at running
            have before : ref < state.nextHandler :=
              Nat.lt_of_le_of_ne (Nat.le_of_lt_succ bound) old
            obtain ⟨opened, owned⟩ := held.opened ref before running
            have other : (state.handlers ref).fd ≠ fd := fun same => closed (same ▸ opened)
            rw [if_neg other]
            exact ⟨Finset.mem_insert_of_mem opened, owned⟩
    | @stepped stepping advanced within step =>
        have start := step.move.running
        obtain ⟨opened, owned⟩ := held.opened stepping within start
        have well := ((counted stepping within).clean (held.clean stepping within)).1
        by_cases same : ref = stepping
        · subst same
          simp only [Function.update_self] at running ⊢
          have kept : (state.handlers ref).point.closes = false := by
            cases closing : (state.handlers ref).point.closes with
            | false => rfl
            | true => exact absurd (step.move.exits closing well) running
          rw [if_neg (kept ▸ Bool.false_ne_true)]
          exact (step.fd ▸ ⟨opened, owned⟩ :
            advanced.fd ∈ state.openFds ∧ state.owner advanced.fd = ref)
        · simp only [Function.update_of_ne same] at running ⊢
          obtain ⟨otherOpened, otherOwned⟩ := held.opened ref bound running
          refine ⟨?_, otherOwned⟩
          split
          · refine Finset.mem_erase.mpr ⟨fun equal => ?_, otherOpened⟩
            rw [equal, owned] at otherOwned
            exact same otherOwned.symm
          · exact otherOpened
  · intro ref bound
    cases turned with
    | same handlers count =>
        rw [handlers]
        exact held.notAnothers ref (count ▸ bound)
    | spawned closed =>
        simp only [Function.update_apply]
        split
        · rfl
        · next old =>
            exact held.notAnothers ref (Nat.lt_of_le_of_ne (Nat.le_of_lt_succ bound) old)
    | @stepped stepping advanced within step =>
        simp only [Function.update_apply]
        split
        · have owned := (held.opened stepping within step.move.running).2
          simp [State.record, held.notAnothers stepping within, owned]
        · exact held.notAnothers ref bound

section Runs

variable {Msg : Type} [Protobuf] {services : Services Msg} {state next : State}

/-- A step that takes none of the failing branches leaves every thread clean. -/
theorem clean_step {label : Label Msg}
    (clean : ∀ ref < state.nextHandler, (state.handlers ref).failed = false)
    (unfailing : Unfailing services state label)
    (stepped : state.step services label = some next) :
    ∀ ref < next.nextHandler, (next.handlers ref).failed = false := by
  cases label with
  | handle stepping event =>
      simp only [State.step, handle] at stepped
      split at stepped
      · next enabled =>
          obtain ⟨advanced, ended, rfl⟩ := Option.map_eq_some_iff.mp stepped
          simp only [Unfailing, ended] at unfailing
          have before := clean stepping enabled.1
          have move := (stepped_advance ended).move
          intro ref bound
          simp only [Function.update_apply]
          split
          · change advanced.failed = false
            generalize (state.handlers stepping).point = start at move
            generalize (state.handlers stepping).failed = failed at move before
            generalize advanced.point = after at move unfailing
            generalize advanced.failed = failedAfter at move ⊢
            cases move with
            | goes => exact before
            | fails => cases unfailing
            | closes => exact before
            | leaves => exact before
          · exact clean ref bound
      · cases stepped
  | run =>
      simp only [State.step] at stepped
      split at stepped
      · cases stepped
      · cases stepped
        exact clean
  | stop =>
      cases stepped
      exact clean
  | accept accepted =>
      simp only [State.step, accept] at stepped
      split at stepped
      · split at stepped
        · cases stepped
          exact clean
        · split at stepped
          · cases stepped
          · cases stepped
            intro ref bound
            simp only [Function.update_apply]
            split
            · rfl
            · next old => exact clean ref (Nat.lt_of_le_of_ne (Nat.le_of_lt_succ bound) old)
      · cases stepped

theorem counted_reachable (reached : (threadedServer services).Reachable state) :
    state.Counted := by
  refine TransitionSystem.ReachableVia.invariant _ ?_ ?_ reached
  · exact fun _ => nofun
  · exact fun _ _ _ counted _ stepped => counted.turned (turned_step stepped)

theorem held_reachable
    (reached : (threadedServer services).ReachableVia (Unfailing services) state) :
    state.Held := by
  refine TransitionSystem.ReachableVia.invariant_with _
    (fun _ before => counted_reachable (before.reachable _)) ?_ ?_ reached
  · exact ⟨fun _ => nofun, fun _ => nofun, fun _ => nofun⟩
  · intro state label next counted held unfailing stepped
    exact held.turned counted (clean_step held.clean unfailing stepped) (turned_step stepped)

/-- In a run in which no thread takes a failing branch, every thread closes its own
number once and uses no other. In any run a thread that is gone has done so exactly
when no step of it failed. -/
theorem descriptors_owned :
    (∀ state, (threadedServer services).ReachableVia (Unfailing services) state →
      ∀ ref < state.nextHandler, state.Owns ref) ∧
    ∀ state, (threadedServer services).Reachable state →
      ∀ ref < state.nextHandler, (state.handlers ref).point = .exited →
        ((state.handlers ref).closes = 1 ∧ (state.handlers ref).usedClosed = false ↔
          (state.handlers ref).failed = false) := by
  constructor
  · intro state reached ref bound
    have held := held_reachable reached
    have count := counted_reachable (reached.reachable _) ref bound
    obtain ⟨-, unused, closes⟩ := count.clean (held.clean ref bound)
    refine ⟨?_, fun gone => ?_, unused, held.notAnothers ref bound⟩
    · rw [closes]
      split <;> decide
    · rw [closes, if_pos gone]
  · intro state reached ref bound gone
    have count := counted_reachable reached ref bound
    constructor
    · rintro ⟨once, -⟩
      cases failure : (state.handlers ref).failed with
      | false => rfl
      | true =>
          have twice := count.failed failure
          rw [gone, once] at twice
          simp [Point.destroys] at twice
    · intro clean
      obtain ⟨-, unused, closes⟩ := count.clean clean
      exact ⟨by rw [closes, if_pos gone], unused⟩

end Runs

/-- A thread serves a request for `Echo.ping`. -/
def sampleSteps (ref : HandlerRef) : List (Label (List UInt8)) :=
  [.handle ref .proceeds,
    .handle ref (.transfers [0, 0, 0, 13] (sampleTurn 0)),
    .handle ref .progresses,
    .handle ref (.transfers [0, 0, 0, 1] (sampleTurn 0)),
    .handle ref (.transfers [0, 0, 0, 0] (sampleTurn 0)),
    .handle ref (.transfers samplePayload (sampleTurn 0)),
    .handle ref (.transfers [] (sampleTurn 0))]

/-- A request is served before the server is stopped. The client that `accept` still waits
for is given the same number, and is served when the server runs again. -/
theorem descriptors_owned_stopped :
    (∃ state, (threadedServer sampleServices).ReachableVia (Unfailing sampleServices) state ∧
      state.nextHandler = 2 ∧ (state.handlers 0).fd = (state.handlers 1).fd ∧
      (state.handlers 0).point = .exited ∧ state.Owns 0 ∧
      (state.handlers 1).point = .exited ∧ state.Owns 1) ∧
    ∃ state, (threadedServer sampleServices).Reachable state ∧
      (state.handlers 1).point = .exited ∧
      ((state.handlers 1).closes = 1 ∧ (state.handlers 1).usedClosed = false ↔
        (state.handlers 1).failed = false) := by
  have observed : ((threadedServer sampleServices).runVia (Unfailing sampleServices)
      ([.run, .accept (some 5)] ++ sampleSteps 0 ++
        [.stop, .handle 0 .proceeds, .handle 0 .proceeds, .accept (some 5), .run] ++
        sampleSteps 1 ++ [.stop, .handle 1 .proceeds, .handle 1 .proceeds])
      (threadedServer sampleServices).initial).map
      (fun state => (state.nextHandler, (state.handlers 0).fd, (state.handlers 1).fd,
        (state.handlers 0).point, (state.handlers 1).point)) =
        some (2, 5, 5, .exited, .exited) := by
    decide +kernel
  obtain ⟨state, reached, same⟩ :=
    (threadedServer sampleServices).exists_reachableVia_of_run observed
  simp only [Prod.mk.injEq] at same
  obtain ⟨count, first, second, gone, goneThen⟩ := same
  have zero : 0 < state.nextHandler := by
    rw [count]
    decide
  have one : 1 < state.nextHandler := by
    rw [count]
    decide
  have owns := descriptors_owned.1 state reached
  exact ⟨⟨state, reached, count, first.trans second.symm, gone, owns 0 zero, goneThen, owns 1 one⟩,
    state, reached.reachable, goneThen,
    descriptors_owned.2 state (reached.reachable _) 1 one goneThen⟩

/-- A client disconnects. Its thread closes the number in the branch of the failed read,
the next client is given the number, and the thread closes it again. -/
theorem descriptors_not_owned :
    ∃ state, (threadedServer sampleServices).Reachable state ∧ state.nextHandler = 2 ∧
      ¬ state.Owns 0 ∧ (state.handlers 0).trespassed = true ∧
      (state.handlers 1).closes = 0 ∧ (state.handlers 1).fd ∉ state.openFds := by
  have observed : ((threadedServer sampleServices).run
      [.run, .accept (some 5), .handle 0 .proceeds, .handle 0 (.fails []),
        .handle 0 .proceeds, .accept (some 5), .handle 0 .proceeds]
      (threadedServer sampleServices).initial).map
      (fun state => (state.nextHandler, (state.handlers 0).closes,
        (state.handlers 0).trespassed, (state.handlers 1).closes,
        decide ((state.handlers 1).fd ∈ state.openFds))) = some (2, 2, true, 0, false) := by
    decide
  obtain ⟨state, reached, same⟩ :=
    (threadedServer sampleServices).exists_reachable_of_run observed
  simp only [Prod.mk.injEq, decide_eq_false_iff_not] at same
  obtain ⟨count, closes, trespassed, unclosed, lost⟩ := same
  refine ⟨state, reached, count, fun owns => ?_, trespassed, unclosed, lost⟩
  have once := owns.atMostOnce
  rw [closes] at once
  exact absurd once (by decide)

end State

end CarrotRpc.Server.Threaded
