import Mathlib.Data.Finset.Insert
import CarrotRpc.Server.RequestProperties
import CarrotRpc.Server.ThreadedServer

/-! The threaded server's threads: what one step does to the point and the buffer of a
thread, and how often a thread closes its descriptor. -/

set_option autoImplicit false

namespace CarrotRpc.Server.Threaded

open Library Library.Faulting Common Protob

/-- Somebody has asked for packets of some size, and only `expand_packet` has answered. -/
def Expanded (buf : PacketBuf) : Prop := ∃ largest, buf.Grown largest

theorem shaped_expanded : Shaped Expanded :=
  fun _ _ same ⟨largest, grown⟩ => ⟨largest, grown.of_shape same⟩

theorem keeps_grow {heap : Realloc} {size : UInt32} :
    Keeps Expanded (grow fun buf => expandPacket heap buf size) := by
  refine .of_state fun buf holds => ?_
  obtain ⟨largest, grown⟩ := holds
  simp only [grow]
  split
  · exact ⟨largest, grown⟩
  · next result => exact ⟨_, expandPacket_grown grown result⟩

/-- A branch that calls `destroy_connection`. -/
def Point.destroys : Point → Bool
  | .destroy _ => true
  | .top | .readRpcLen | .readReqLen _ | .readRespLen _ _ | .readPayload _ _ | .write _ | .leave
  | .exited => false

/-- What a step does to the point of a thread and to the record of a failure. -/
inductive Move : Point → Bool → Point → Bool → Prop where
  | goes {before after : Point} {failed : Bool} (open_ : before.closes = false)
      (running : before ≠ .exited) (well : after.destroys = false) (stays : after ≠ .exited) :
      Move before failed after failed
  | fails {before : Point} {failed again : Bool} (open_ : before.closes = false)
      (running : before ≠ .exited) : Move before failed (.destroy again) true
  | closes {failed again : Bool} :
      Move (.destroy again) failed (if again then .top else .leave) failed
  | leaves {failed : Bool} : Move .leave failed .exited failed

/-- The point a step starts from is the one of a thread that is not gone. -/
theorem Move.running {before after : Point} {failed failedAfter : Bool}
    (move : Move before failed after failedAfter) : before ≠ .exited := by
  cases move with
  | goes _ running => exact running
  | fails _ running => exact running
  | closes => exact nofun
  | leaves => exact nofun

/-- A thread that has closed its number without a failure is gone. -/
theorem Move.exits {before after : Point} {failed failedAfter : Bool}
    (move : Move before failed after failedAfter) (closes : before.closes = true)
    (well : before.destroys = false) : after = .exited := by
  cases move with
  | goes open_ => rw [open_] at closes; cases closes
  | fails open_ => rw [open_] at closes; cases closes
  | closes => cases well
  | leaves => rfl

/-- The step of a thread, apart from what happens to its number. -/
structure Stepped (before after : Handler) : Prop where
  fd : after.fd = before.fd
  closes : after.closes = before.closes
  usedClosed : after.usedClosed = before.usedClosed
  trespassed : after.trespassed = before.trespassed
  move : Move before.point before.failed after.point after.failed
  buf : Expanded before.buf → Expanded after.buf

section Steps

variable {handler advanced : Handler}

theorem stepped_proceed {Value : Type} {again : Bool} {next : Value → Point}
    {result : PacketBuf × Except Fault Value}
    (ended : proceed again next handler result = some advanced)
    (open_ : handler.point.closes = false) (running : handler.point ≠ .exited)
    (well : ∀ value, (next value).destroys = false ∧ next value ≠ .exited)
    (kept : Expanded handler.buf → Expanded result.1) : Stepped handler advanced := by
  obtain ⟨buf, fault | value⟩ := result
  · cases fault <;> simp only [proceed, Fault.isFatal, reduceCtorEq, ↓reduceIte,
      Bool.false_eq_true] at ended
    all_goals
      cases ended
      exact ⟨rfl, rfl, rfl, rfl, .fails open_ running, kept⟩
  · cases ended
    exact ⟨rfl, rfl, rfl, rfl, .goes open_ running (well value).1 (well value).2, kept⟩

variable {Msg : Type} [Protobuf] {services : Services Msg} {stopped : Bool} {event : Event Msg}

theorem keeps_preparePacket {delivery : Delivery} {rpcResp : Response}
    {resp : Option (List UInt8)} : Keeps Expanded (preparePacket delivery rpcResp resp) :=
  Server.keeps_preparePacket shaped_expanded keeps_grow

theorem stepped_advance (ended : advance services stopped handler event = some advanced) :
    Stepped handler advanced := by
  obtain ⟨fd, point, buf, closes, usedClosed, trespassed, failed⟩ := handler
  cases event with
  | proceeds =>
      cases point <;> simp only [advance, reduceCtorEq] at ended
      case top =>
        cases ended
        refine ⟨rfl, rfl, rfl, rfl, .goes rfl nofun ?_ ?_, id⟩ <;> cases stopped <;> simp [Point.destroys]
      case destroy again =>
        cases ended
        exact ⟨rfl, rfl, rfl, rfl, .closes, id⟩
      case leave =>
        cases ended
        exact ⟨rfl, rfl, rfl, rfl, .leaves, id⟩
  | progresses =>
      cases point <;> simp only [advance, reduceCtorEq] at ended
      all_goals
        cases ended
        exact ⟨rfl, rfl, rfl, rfl, .goes rfl nofun rfl nofun, id⟩
  | transfers bytes turn =>
      cases point <;> simp only [advance, reduceCtorEq] at ended
      case readRpcLen =>
        split at ended
        · cases ended
          exact ⟨rfl, rfl, rfl, rfl, .goes rfl nofun rfl nofun, id⟩
        · cases ended
      case readReqLen rpcLen =>
        split at ended
        · cases ended
          exact ⟨rfl, rfl, rfl, rfl, .goes rfl nofun rfl nofun, id⟩
        · cases ended
      case readRespLen rpcLen reqLen =>
        split at ended
        · exact stepped_proceed ended rfl nofun (fun _ => ⟨rfl, nofun⟩)
            fun holds => (keeps_openPayload shaped_expanded keeps_grow).state holds
        · cases ended
      case readPayload header size =>
        split at ended
        · next stored storing =>
            refine stepped_proceed ended rfl nofun (fun _ => ⟨rfl, nofun⟩) fun holds => ?_
            have keeps : Keeps Expanded (storePayload size bytes) := keeps_storePayload shaped_expanded
            have kept := keeps.state holds
            rw [storing] at kept
            exact ((keeps_dispatch fun _ => keeps_lookUp).bind fun _ => keeps_preparePacket).state
              kept
        · cases ended
      case write packet =>
        cases ended
        exact ⟨rfl, rfl, rfl, rfl, .goes rfl nofun rfl nofun, id⟩
  | fails bytes =>
      cases point <;> simp only [advance, reduceCtorEq] at ended
      case readPayload header size =>
        split at ended
        · next stored storing =>
            cases ended
            refine ⟨rfl, rfl, rfl, rfl, .fails rfl nofun, fun holds => ?_⟩
            have keeps : Keeps Expanded (storePayload size bytes) := keeps_storePayload shaped_expanded
            have kept := keeps.state holds
            rw [storing] at kept
            exact kept
        · cases ended
      all_goals
        cases ended
        exact ⟨rfl, rfl, rfl, rfl, .fails rfl nofun, id⟩

end Steps

namespace State

variable {state next : State}

/-- What one step of the server does to its threads. -/
inductive Turned (state : State) : State → Prop where
  | same {next : State} (handlers : next.handlers = state.handlers)
      (count : next.nextHandler = state.nextHandler) (fds : next.openFds = state.openFds)
      (owner : next.owner = state.owner) : Turned state next
  | spawned {fd : Nat} {accepting : Bool} (closed : fd ∉ state.openFds) :
      Turned state
        { state with
          accepting := accepting
          openFds := insert fd state.openFds
          handlers := Function.update state.handlers state.nextHandler { fd, point := .top }
          nextHandler := state.nextHandler + 1
          owner := Function.update state.owner fd state.nextHandler }
  | stepped {ref : HandlerRef} {advanced : Handler} (bound : ref < state.nextHandler)
      (step : Stepped (state.handlers ref) advanced) :
      Turned state
        { state with
          handlers := Function.update state.handlers ref
            (state.record ref (state.handlers ref) advanced)
          openFds :=
            if (state.handlers ref).point.closes then
              state.openFds.erase (state.handlers ref).fd
            else state.openFds }

/-- The buffer of every thread was resized by `expand_packet` only. -/
def Buffered (state : State) : Prop := ∀ ref, Expanded (state.handlers ref).buf

theorem Buffered.turned (buffered : state.Buffered) (turned : Turned state next) :
    next.Buffered := by
  intro ref
  cases turned with
  | same handlers =>
      rw [handlers]
      exact buffered ref
  | spawned closed =>
      simp only [Function.update_apply]
      split
      · exact ⟨0, .initial⟩
      · exact buffered ref
  | @stepped other advanced bound step =>
      simp only [Function.update_apply]
      split
      · exact step.buf (buffered other)
      · exact buffered ref

variable {Msg : Type} [Protobuf] {services : Services Msg}

theorem turned_step {label : Label Msg} (stepped : state.step services label = some next) :
    Turned state next := by
  cases label with
  | run =>
      simp only [State.step] at stepped
      split at stepped
      · cases stepped
      · cases stepped
        exact .same rfl rfl rfl rfl
  | stop =>
      cases stepped
      exact .same rfl rfl rfl rfl
  | accept accepted =>
      simp only [State.step, accept] at stepped
      split at stepped
      · split at stepped
        · cases stepped
          exact .same rfl rfl rfl rfl
        · split at stepped
          · cases stepped
          · next closed =>
              cases stepped
              exact .spawned closed
      · cases stepped
  | handle ref event =>
      simp only [State.step, handle] at stepped
      split at stepped
      · next enabled =>
          obtain ⟨advanced, ended, rfl⟩ := Option.map_eq_some_iff.mp stepped
          exact .stepped enabled.1 (stepped_advance ended)
      · cases stepped

theorem buffered_reachable (reached : (threadedServer services).Reachable state) :
    state.Buffered := by
  refine TransitionSystem.ReachableVia.invariant _ ?_ ?_ reached
  · exact fun _ => ⟨0, .initial⟩
  · exact fun _ _ _ buffered _ stepped => buffered.turned (turned_step stepped)

end State

end CarrotRpc.Server.Threaded
