import CarrotRpc.Protob.WireFormat
import CarrotRpc.Server.ResponseRoom

/-! The async server's map of connections against the operations that are
outstanding. -/

set_option autoImplicit false

namespace CarrotRpc.Server.Async

open Library Library.Faulting Common Protob

namespace State

def isAccept (op : Op) : Bool := op.kind = .accept

def outstanding (state : State) (conn : ConnRef) : List Op :=
  state.ops.filter fun op => op.conn = conn

/-- Exactly one accept is outstanding. The map has the connection it is for, and the
connections with an open socket and exactly one read or write outstanding. A
connection without an operation is closed. -/
structure Booked (state : State) : Prop where
  accepts : (state.ops.filter isAccept).length = 1
  keyed : ∀ entry ∈ state.conns.entries, entry.1 = entry.2
  listed : ∀ conn, (∃ value, (conn, value) ∈ state.conns.entries) ↔
    ∃ op, state.outstanding conn = [op] ∧
      (op.kind = .accept ∨ (state.connections conn).isOpen = true)
  finished : ∀ conn, state.outstanding conn = [] → (state.connections conn).isOpen = false

section Condition

variable {Msg : Type} [Protobuf]

/-- The step does not handle an accept that failed, and it finds memory for the packet. -/
def Careful (services : Services Msg) (state : State) : Label Msg → Prop
  | .handle op input =>
      match op.status with
      | .queued (.failed _ _) => op.kind ≠ .accept
      | .queued (.done bytes) =>
          (body services op.kind bytes input (state.connections op.conn)).2 ≠ .error .noMemory
      | .pending => True
  | .complete _ _ | .destroyServer => True

instance (services : Services Msg) (state : State) (label : Label Msg) :
    Decidable (Careful services state label) := by
  unfold Careful
  split
  · split <;> infer_instance
  all_goals infer_instance

/-- A handler is not refused memory for the packet it reads next, and no accept failed.
For a response no memory is asked. -/
def Provided (state : State) : Label Msg → Prop
  | .handle op input =>
      let buf := (state.connections op.conn).buf
      match op.status, op.kind with
      | .queued (.failed _ _), kind => kind ≠ .accept
      | .queued (.done _), .accept | .queued (.done _), .write _ =>
          ¬ buf.Denied input.turn.heap (.ofNat sizeofPacket)
      | .queued (.done bytes), .readHeader =>
          ¬ ((do store 0 bytes; RpcServerConnection.convertHeader) buf).1.Denied input.turn.heap
            (packetSize (Header.ofNetwork bytes))
      | .queued (.done _), .readPayload _ | .pending, _ => True
  | .complete _ _ | .destroyServer => True

variable {services : Services Msg} {heap : Realloc} {conn : RpcServerConnection}

omit [Protobuf] in
theorem serve_noMemory_iff :
    (RpcServerConnection.serve heap conn).2 = .error .noMemory ↔
      conn.buf.Denied heap (.ofNat sizeofPacket) :=
  (snd_bind_pure_eq_error_iff _ _ _ _).trans grow_noMemory_iff

omit [Protobuf] in
theorem handleReadHeader_noMemory_iff {bytes : List UInt8} (ready : conn.Ready)
    (whole : bytes.length = sizeofPacket) :
    (RpcServerConnection.handleReadHeader heap bytes conn).2 = .error .noMemory ↔
      ((do store 0 bytes; RpcServerConnection.convertHeader) conn.buf).1.Denied heap
        (packetSize (Header.ofNetwork bytes)) := by
  obtain ⟨buf, _, _, _, _, converted⟩ := RpcServerConnection.convertHeader_eq ready whole
  rw [RpcServerConnection.handleReadHeader, snd_bind_pure_eq_error_iff,
    RpcServerConnection.openPayload_eq heap converted, snd_bind_pure_eq_error_iff, converted]
  exact grow_noMemory_iff

omit [Protobuf] in
theorem raises_find {server : Bool} {identity : String} :
    RaisesOnly (· ≠ .noMemory) (RpcServerConnection.find services server identity) := by
  unfold RpcServerConnection.find
  split
  · exact .pure
  · apply RaisesOnly.fail
    rintro ⟨⟩

theorem raises_answer {server : Bool} {turn : Turn Msg} {size : Nat} {bytes : List UInt8} :
    RaisesOnly (· ≠ .noMemory)
      (RpcServerConnection.answer services server turn size bytes) := by
  rw [RpcServerConnection.answer_eq]
  apply RaisesOnly.zoom
  refine (raises_storePayload (by rintro ⟨⟩) (by rintro ⟨⟩)).bind fun _ => ?_
  refine ((raises_load (by rintro ⟨⟩)).bind fun _ => .pure).bind fun header => ?_
  exact raises_dispatch fun _ => raises_find

/-- `respond_to_client` asks for `n_` bytes, the size of the request, and the buffer has them. -/
theorem handleReadPayload_fed {turn : Turn Msg} {size : Nat} {bytes : List UInt8}
    (sound : conn.Sized) (ready : conn.Ready) :
    (RpcServerConnection.handleReadPayload services turn size bytes conn).2 ≠
      .error .noMemory := by
  intro refused
  rw [RpcServerConnection.handleReadPayload, RpcServerConnection.answerPayload_eq_answer] at refused
  rcases ran : RpcServerConnection.answer services conn.server turn size bytes conn with
    ⟨next, fault | response⟩
  · rw [bind_of_error _ ran] at refused
    exact raises_answer.fault ran (Except.error.inj refused)
  · rw [bind_of_ok _ ran] at refused
    obtain ⟨sound, ready, _⟩ := RpcServerConnection.answer_ready sound ready ran
    have enough := RpcServerConnection.n_le_size sound ready
    obtain ⟨block, present, _⟩ := ready
    have unprepared := (snd_bind_pure_eq_error_iff _ _ _ _).mp refused
    obtain ⟨short, _⟩ := preparePacket_noMemory unprepared
    rcases short with small | absent
    · exact absurd enough (UInt32.not_le.mpr small)
    · cases present.symm.trans absent

variable {state next : State}

theorem careful_iff {label : Label Msg} (seated : state.Seated)
    (stepped : state.step services label = some next) :
    Careful services state label ↔ Provided state label := by
  cases label with
  | complete | destroyServer => exact Iff.rfl
  | handle op input =>
      obtain ⟨completion, queued, member, _⟩ := handle_eq_some stepped
      have ready := seated.ready op member
      have whole := seated.whole op member
      have sound := seated.sound op.conn
      obtain ⟨conn, kind, status⟩ := op
      cases queued
      cases completion with
      | failed message bytes => exact Iff.rfl
      | done bytes =>
          cases kind with
          | accept => exact not_congr serve_noMemory_iff
          | write packet => exact not_congr serve_noMemory_iff
          | readHeader =>
              exact not_congr (handleReadHeader_noMemory_iff (ready rfl) (whole bytes rfl rfl))
          | readPayload size =>
              exact iff_of_true (handleReadPayload_fed sound (ready rfl)) trivial

/-- The condition on the outcome of the handlers is one on `accept` and the allocator. -/
theorem reachableVia_careful_iff :
    (asyncServer services).ReachableVia (Careful services) state ↔
      (asyncServer services).ReachableVia Provided state := by
  constructor
  · intro reached
    exact reached.weaken_with (asyncServer services) fun _ _ _ _ provided careful stepped =>
      (careful_iff (seated_reachable (provided.reachable (asyncServer services))) stepped).mp
        careful
  · intro reached
    exact reached.weaken_with (asyncServer services) fun _ _ _ _ careful provided stepped =>
      (careful_iff (seated_reachable (careful.reachable (asyncServer services))) stepped).mpr
        provided

end Condition

/-- The map against the operations, while the handler of `busy` is running. -/
structure Reconciled (busy : Option ConnRef) (accepting : Nat) (state : State) : Prop where
  accepts : state.ops.countP isAccept = accepting
  listed : ∀ conn value, (conn, value) ∈ state.conns.entries ↔
    value = conn ∧ (busy = some conn ∨ ∃ op ∈ state.ops, op.conn = conn)
  opened : ∀ op ∈ state.ops,
    op.kind ≠ .accept ∨ (∃ bytes, op.status = .queued (.done bytes)) →
      (state.connections op.conn).isOpen = true
  closed : ∀ conn, busy ≠ some conn → Free conn state → (state.connections conn).isOpen = false
  servers : ∀ conn, (state.connections conn).server = true

section Operations

variable {state : State} {conn : ConnRef} {op : Op} {accepting : Nat}

theorem Reconciled.useServer {busy : Option ConnRef} (balanced : state.Reconciled busy accepting)
    (used : Bool) : (state.useServer used).Reconciled busy accepting :=
  ⟨balanced.accepts, balanced.listed, balanced.opened, balanced.closed, balanced.servers⟩

theorem Reconciled.erase (balanced : state.Reconciled none accepting) (member : op ∈ state.ops) :
    Reconciled (some op.conn) (accepting - if op.kind = .accept then 1 else 0)
      { state with ops := state.ops.erase op } where
  accepts := by
    have permuted := (List.perm_cons_erase member).countP_eq isAccept
    rw [List.countP_cons, balanced.accepts] at permuted
    simp only [isAccept, decide_eq_true_eq] at permuted ⊢
    omega
  listed := fun other value => by
    rw [balanced.listed]
    refine and_congr_right fun _ => ?_
    constructor
    · rintro (busy | ⟨old, found, same⟩)
      · cases busy
      · rcases List.mem_cons.mp ((List.perm_cons_erase member).mem_iff.mp found) with rfl | left
        · exact .inl (congrArg some same)
        · exact .inr ⟨old, left, same⟩
    · rintro (busy | ⟨old, found, same⟩)
      · exact .inr ⟨op, member, Option.some.inj busy⟩
      · exact .inr ⟨old, List.mem_of_mem_erase found, same⟩
  opened := fun other found => balanced.opened other (List.mem_of_mem_erase found)
  closed := fun other idle free => by
    refine balanced.closed other nofun fun old found same => ?_
    rcases List.mem_cons.mp ((List.perm_cons_erase member).mem_iff.mp found) with rfl | left
    · exact idle (congrArg some same)
    · exact free old left same
  servers := balanced.servers

theorem Reconciled.modifyConn {record : RpcServerConnection}
    (balanced : state.Reconciled (some conn) accepting) (free : Free conn state)
    (server : record.server = true) :
    (state.modifyConn conn fun _ => record).Reconciled (some conn) accepting where
  accepts := balanced.accepts
  listed := balanced.listed
  opened := fun op member live => by
    rw [connections_modifyConn, if_neg (free op member)]
    exact balanced.opened op member live
  closed := fun other idle unused => by
    rw [connections_modifyConn, if_neg fun same => idle (congrArg some same.symm)]
    exact balanced.closed other idle unused
  servers := fun other => by
    rw [connections_modifyConn]
    split
    · exact server
    · exact balanced.servers other

theorem Reconciled.start (balanced : state.Reconciled (some op.conn) accepting)
    (other : op.kind ≠ .accept) (opened : (state.connections op.conn).isOpen = true) :
    (state.start op).Reconciled none accepting where
  accepts := by
    have unaccepting : isAccept op = false := decide_eq_false other
    simp only [State.start, List.countP_append, List.countP_singleton, unaccepting,
      Bool.false_eq_true, ↓reduceIte, Nat.add_zero]
    exact balanced.accepts
  listed := fun conn value => by
    change (conn, value) ∈ state.conns.entries ↔ _
    rw [balanced.listed]
    refine and_congr_right fun _ => ?_
    simp only [State.start, List.mem_append, List.mem_singleton, reduceCtorEq, false_or]
    constructor
    · rintro (busy | ⟨old, found, same⟩)
      · exact ⟨op, .inr rfl, Option.some.inj busy⟩
      · exact ⟨old, .inl found, same⟩
    · rintro ⟨old, found | rfl, same⟩
      · exact .inr ⟨old, found, same⟩
      · exact .inl (congrArg some same)
  opened := fun old found live => by
    rcases List.mem_append.mp found with found | found
    · exact balanced.opened old found live
    · rw [List.mem_singleton.mp found]
      exact opened
  closed := fun conn _ unused => by
    refine balanced.closed conn (fun busy => ?_) fun old found => unused old (List.mem_append_left _ found)
    exact unused op (List.mem_append_right _ (List.mem_singleton_self op)) (Option.some.inj busy)
  servers := balanced.servers

theorem Reconciled.destroy (balanced : state.Reconciled (some conn) accepting)
    (free : Free conn state) : (state.destroy conn).Reconciled none accepting := by
  have untouched : (state.ops.map fun op =>
      if (op.conn = conn && op.kind ≠ .accept) ∧ op.status = .pending then
        { op with status := .queued (.failed "Operation canceled" []) }
      else op) = state.ops := by
    refine (List.map_congr_left fun op found => ?_).trans (List.map_id' _)
    rw [if_neg]
    intro selected
    simp [free op found] at selected
  unfold State.destroy
  simp only [balanced.servers conn, if_true]
  refine ⟨?_, fun other value => ?_, fun op found live => ?_, fun other _ unused => ?_,
    fun other => ?_⟩
  all_goals simp only [State.abort, State.useServer, State.modifyConn] at *
  · rw [untouched]
    exact balanced.accepts
  · rw [untouched, OrderedMap.mem_erase_iff, balanced.listed]
    simp only [reduceCtorEq, false_or]
    constructor
    · rintro ⟨⟨rfl, busy | outstanding⟩, remaining⟩
      · exact absurd (Option.some.inj busy).symm remaining
      · exact ⟨rfl, outstanding⟩
    · rintro ⟨rfl, old, found, rfl⟩
      exact ⟨⟨rfl, .inr ⟨old, found, rfl⟩⟩, free old found⟩
  · rw [untouched] at found
    rw [Function.update_of_ne (free op found)]
    exact balanced.opened op found live
  · rw [Free, untouched] at unused
    by_cases same : other = conn
    · subst same
      simp only [Function.update_self]
    · rw [Function.update_of_ne same]
      exact balanced.closed other (fun busy => same (Option.some.inj busy).symm) unused
  · by_cases same : other = conn
    · subst same
      simp only [Function.update_self]
      exact balanced.servers other
    · rw [Function.update_of_ne same]
      exact balanced.servers other

theorem Reconciled.startAccept (balanced : state.Reconciled none accepting) (seated : state.Seated) :
    state.startAccept.Reconciled none (accepting + 1) := by
  have fresh : Free state.nextConn state :=
    fun op found => Nat.ne_of_lt (seated.bounded op found)
  have absent : state.conns.find? state.nextConn = none := by
    refine OrderedMap.find?_eq_none_iff.mpr fun value member => ?_
    obtain ⟨-, busy | ⟨op, found, same⟩⟩ := (balanced.listed _ _).mp member
    · cases busy
    · exact fresh op found same
  refine ⟨?_, fun other value => ?_, fun op found live => ?_, fun other _ unused => ?_,
    fun other => ?_⟩
  all_goals simp only [State.startAccept, State.useServer, State.modifyConn] at *
  · simp only [List.countP_append, balanced.accepts, List.countP_singleton, isAccept,
      decide_true, if_true]
  · rw [OrderedMap.mem_insert_iff absent, balanced.listed]
    simp only [Prod.mk.injEq, reduceCtorEq, false_or, List.mem_append, List.mem_singleton]
    constructor
    · rintro (⟨rfl, rfl⟩ | ⟨rfl, old, found, same⟩)
      · exact ⟨rfl, _, .inr rfl, rfl⟩
      · exact ⟨rfl, old, .inl found, same⟩
    · rintro ⟨rfl, old, found | rfl, same⟩
      · exact .inr ⟨rfl, old, found, same⟩
      · exact .inl ⟨same.symm, same.symm⟩
  · rcases List.mem_append.mp found with found | found
    · rw [Function.update_of_ne (fresh op found)]
      exact balanced.opened op found live
    · rw [List.mem_singleton.mp found] at live
      rcases live with other | ⟨bytes, done⟩
      · exact absurd rfl other
      · cases done
  · by_cases same : other = state.nextConn
    · subst same
      simp only [Function.update_self]
    · rw [Function.update_of_ne same]
      exact balanced.closed other (by rintro ⟨⟩) fun op found =>
        unused op (List.mem_append_left _ found)
  · by_cases same : other = state.nextConn
    · subst same
      simp only [Function.update_self]
    · rw [Function.update_of_ne same]
      exact balanced.servers other

end Operations

/-- `serve` fails only for want of memory, if it returns. -/
theorem serve_fault {heap : Realloc} {conn record : RpcServerConnection} {fault : Fault}
    (ran : RpcServerConnection.serve heap conn = (record, .error fault))
    (mild : fault.isFatal = false) : fault = .noMemory := by
  rcases ended : RpcServerConnection.expand heap (.ofNat sizeofPacket) conn with ⟨next, other | _⟩
  · rw [RpcServerConnection.serve, bind_of_error _ ended] at ran
    cases ran
    simp only [RpcServerConnection.expand, RpcServerConnection.onBuffer, zoom, grow,
      Prod.mk.injEq] at ended
    obtain ⟨-, result⟩ := ended
    cases expanded : expandPacket heap conn.buf (.ofNat sizeofPacket) with
    | none =>
        simp only [expanded, Except.error.injEq] at result
        rw [← result] at mild
        cases mild
    | some pair =>
        obtain ⟨buf, flag⟩ := pair
        cases flag with
        | true => simp [expanded] at result
        | false => simpa [expanded] using result.symm
  · rw [RpcServerConnection.serve, bind_of_ok _ ended] at ran
    cases ran

/-- The handler of an operation that failed destroys the connection. -/
theorem stored_fault {kind : OpKind} {bytes : List UInt8} {conn record : RpcServerConnection}
    {result : Except Fault Operation} (ran : stored kind bytes conn = (record, result)) :
    result = .error .unread ∨ result = .error .overruns := by
  rcases ended : arrive kind bytes conn with ⟨next, fault | _⟩
  · rw [stored, bind_of_error _ ended] at ran
    cases ran
    right
    cases kind with
    | readHeader =>
        simp only [arrive, RpcServerConnection.onBuffer, zoom, Prod.mk.injEq] at ended
        exact congrArg _ (store_fault (Prod.ext rfl ended.2))
    | readPayload size =>
        simp only [arrive, RpcServerConnection.onBuffer, zoom, Prod.mk.injEq] at ended
        exact congrArg _ (store_fault (Prod.ext rfl ended.2))
    | accept => cases ended
    | write packet => cases ended
  · rw [stored, bind_of_ok _ ended] at ran
    cases ran
    exact .inl rfl

section Steps

variable {state next : State}

/-- The map is balanced again when a handler that found memory has ended. -/
theorem Reconciled.ended {conn : ConnRef} {accepting : Nat} {record : RpcServerConnection}
    {result : Except Fault Operation} (balanced : state.Reconciled (some conn) accepting)
    (free : Free conn state) (server : record.server = true) (opened : record.isOpen = true)
    (memory : result ≠ .error .noMemory) (ended : Ended conn record state result next) :
    next.Reconciled none accepting := by
  have modified := balanced.modifyConn free server
  cases ended with
  | started operation =>
      refine modified.start ?_ ?_
      · cases operation <;> exact nofun
      · rw [connections_modifyConn, if_pos rfl]
        exact opened
  | destroyed => exact modified.destroy free
  | abandoned => exact absurd rfl memory

theorem same_stored {op : Op} {bytes : List UInt8} {server isOpen : Bool} :
    Keeps (RpcServerConnection.same server isOpen) (stored op.kind bytes) := by
  have arrives : Keeps (RpcServerConnection.same server isOpen) (arrive op.kind bytes) := by
    obtain ⟨conn, kind, status⟩ := op
    cases kind with
    | readHeader => exact RpcServerConnection.keepsSame_onBuffer
    | readPayload size => exact RpcServerConnection.keepsSame_onBuffer
    | accept => exact Keeps.pure
    | write packet => exact Keeps.pure
  exact arrives.bind fun _ => .fail

theorem Reconciled.complete {op : Op} {completion : Completion} {accepting : Nat}
    (balanced : state.Reconciled none accepting)
    (completed : state.complete op completion = some next) : next.Reconciled none accepting := by
  obtain ⟨member, pending, -, change, changed, rfl⟩ := complete_eq_some completed
  have moved : ∀ other, (∃ old ∈ state.ops.erase op ++ [{ op with status := .queued completion }],
      old.conn = other) ↔ ∃ old ∈ state.ops, old.conn = other := by
    intro other
    simp only [List.mem_append, List.mem_singleton]
    constructor
    · rintro ⟨old, found | rfl, same⟩
      · exact ⟨old, List.mem_of_mem_erase found, same⟩
      · exact ⟨op, member, same⟩
    · rintro ⟨old, found, same⟩
      rcases List.mem_cons.mp ((List.perm_cons_erase member).mem_iff.mp found) with rfl | left
      · exact ⟨_, .inr rfl, same⟩
      · exact ⟨old, .inl left, same⟩
  have keepsOpen : ∀ record : RpcServerConnection, record.isOpen = true →
      (change record).isOpen = true := by
    intro record opened
    rcases changed with ⟨rfl, -⟩ | ⟨-, rfl⟩
    · exact opened
    · rfl
  have keepsServer : ∀ record : RpcServerConnection, (change record).server = record.server := by
    intro record
    rcases changed with ⟨rfl, -⟩ | ⟨-, rfl⟩ <;> rfl
  refine ⟨?_, fun other value => ?_, fun old found live => ?_, fun other _ unused => ?_,
    fun other => ?_⟩
  · have permuted := (List.perm_cons_erase member).countP_eq isAccept
    rw [List.countP_cons, balanced.accepts] at permuted
    simp only [State.modifyConn, List.countP_append, List.countP_singleton]
    exact permuted.symm
  · refine (balanced.listed other value).trans (and_congr_right fun _ => ?_)
    simp only [reduceCtorEq, false_or]
    exact (moved other).symm
  · rw [connections_modifyConn]
    rcases List.mem_append.mp found with left | added
    · have opened := balanced.opened old (List.mem_of_mem_erase left) live
      split
      · next same => exact keepsOpen _ (same ▸ opened)
      · exact opened
    · rw [List.mem_singleton.mp added] at live ⊢
      rw [if_pos rfl]
      rcases changed with ⟨rfl, unaccepted⟩ | ⟨-, rfl⟩
      · refine balanced.opened op member (.inl fun accept => ?_)
        rcases live with other | ⟨bytes, done⟩
        · exact other accept
        · exact unaccepted accept bytes (OpStatus.queued.inj done)
      · rfl
  · have idle : Free other state := by
      intro old found same
      obtain ⟨late, there, conn⟩ := (moved other).mpr ⟨old, found, same⟩
      exact unused late there conn
    rw [connections_modifyConn, if_neg (Ne.symm (idle op member))]
    exact balanced.closed other (by rintro ⟨⟩) idle
  · rw [connections_modifyConn]
    split
    · rw [keepsServer]
      exact balanced.servers op.conn
    · exact balanced.servers other

/-- The operations of a connection that has one. -/
theorem outstanding_eq (unique : (state.ops.map Op.conn).Nodup) {op : Op} (member : op ∈ state.ops) :
    state.outstanding op.conn = [op] := by
  unfold outstanding
  generalize state.ops = ops at unique member
  induction ops with
  | nil => cases member
  | cons head rest ih =>
      obtain ⟨fresh, unique⟩ := List.nodup_cons.mp unique
      rcases List.mem_cons.mp member with rfl | later
      · have others : rest.filter (fun other => decide (other.conn = op.conn)) = [] := by
          refine List.filter_eq_nil_iff.mpr fun other found => ?_
          intro same
          exact fresh (List.mem_map.mpr ⟨other, found, of_decide_eq_true same⟩)
        rw [List.filter_cons, if_pos (decide_eq_true rfl), others]
      · have distinct : head.conn ≠ op.conn := fun same =>
          fresh (List.mem_map.mpr ⟨op, later, same.symm⟩)
        rw [List.filter_cons_of_neg (by simpa using distinct)]
        exact ih unique later

theorem Reconciled.booked (balanced : state.Reconciled none 1) (seated : state.Seated) :
    state.Booked where
  accepts := by
    rw [← List.countP_eq_length_filter]
    exact balanced.accepts
  keyed := fun entry member => ((balanced.listed _ _).mp member).1.symm
  listed := fun conn => by
    constructor
    · rintro ⟨value, member⟩
      obtain ⟨-, busy | ⟨op, found, rfl⟩⟩ := (balanced.listed _ _).mp member
      · cases busy
      · refine ⟨op, outstanding_eq seated.unique found, ?_⟩
        by_cases accept : op.kind = .accept
        · exact .inl accept
        · exact .inr (balanced.opened op found (.inl accept))
    · rintro ⟨op, alone, -⟩
      have found : op ∈ state.outstanding conn := by
        rw [alone]
        exact List.mem_singleton_self op
      obtain ⟨member, same⟩ := List.mem_filter.mp found
      exact ⟨conn, (balanced.listed _ _).mpr ⟨rfl, .inr ⟨op, member, of_decide_eq_true same⟩⟩⟩
  finished := fun conn none => by
    refine balanced.closed conn nofun fun op found same => ?_
    exact List.filter_eq_nil_iff.mp none op found (decide_eq_true same)

theorem alive_ended {conn : ConnRef} {record : RpcServerConnection}
    {result : Except Fault Operation} (ended : Ended conn record state result next) :
    next.alive = state.alive := by
  cases ended with
  | started operation => rfl
  | destroyed =>
      unfold State.destroy
      simp only
      split <;> rfl
  | abandoned => rfl

variable {Msg : Type} [Protobuf] {services : Services Msg}

theorem same_body {op : Op} {bytes : List UInt8} {input : Input Msg} {server isOpen : Bool} :
    Keeps (RpcServerConnection.same server isOpen) (body services op.kind bytes input) := by
  obtain ⟨conn, kind, status⟩ := op
  cases kind with
  | accept => exact RpcServerConnection.keepsSame_serve
  | readHeader => exact RpcServerConnection.keepsSame_handleReadHeader
  | readPayload size => exact RpcServerConnection.keepsSame_handleReadPayload
  | write packet => exact RpcServerConnection.keepsSame_serve

theorem Reconciled.handle {op : Op} {input : Input Msg} (balanced : state.Reconciled none 1)
    (seated : state.Seated) (careful : Careful services state (.handle op input))
    (handled : state.handle services op input = some next) : next.Reconciled none 1 := by
  obtain ⟨completion, status, member, invoked⟩ := handle_eq_some handled
  have free := seated.free member
  have erased := balanced.erase member
  simp only [Careful, status] at careful
  have kept : ∀ {record : RpcServerConnection} {result : Except Fault Operation}
      {handler : Handler Operation},
      (∀ server isOpen, Keeps (RpcServerConnection.same server isOpen) handler) →
      handler (state.connections op.conn) = (record, result) →
      record.server = true ∧ record.isOpen = (state.connections op.conn).isOpen := by
    intro record result handler keeps ran
    have after := (keeps true (state.connections op.conn).isOpen).state
      (⟨balanced.servers op.conn, rfl⟩ : RpcServerConnection.same _ _ _)
    rwa [ran] at after
  cases invoked with
  | refused accept failed =>
      subst failed
      exact absurd accept careful
  | @accepted bytes record operation next accept done ran ended =>
      have opened := balanced.opened op member (.inr ⟨bytes, done ▸ status⟩)
      obtain ⟨server, same⟩ := kept
        (fun _ _ => RpcServerConnection.keepsSame_serve) ran
      rw [accept, if_pos rfl] at erased
      have memory : (Except.ok operation : Except Fault Operation) ≠ .error .noMemory := nofun
      have after := (erased.useServer true).ended free server (same.trans opened) memory ended
      have seatedAfter := (seated.erase.useServer true).ended free (seated.bounded op member)
        (ran ▸ RpcServerConnection.serve_leaves (seated.sound op.conn)) ended
      exact after.startAccept seatedAfter
  | @unserved bytes record fault next accept done ran ended =>
      subst done
      have memory : fault = .noMemory := by
        cases ended with
        | destroyed mild => exact serve_fault ran mild
        | abandoned => rfl
      simp only [accept, body, ran, memory] at careful
      exact absurd rfl careful
  | failed other failed ran ended =>
      have opened := balanced.opened op member (.inl other)
      obtain ⟨server, same⟩ := kept
        (fun _ _ => same_stored) ran
      rw [if_neg other] at erased
      refine erased.ended free server (same.trans opened) ?_ ended
      rcases stored_fault ran with rfl | rfl <;> exact nofun
  | @done bytes record result used next other done looks ran ended =>
      subst done
      have opened := balanced.opened op member (.inl other)
      obtain ⟨server, same⟩ := kept (fun _ _ => same_body) ran
      rw [if_neg other] at erased
      simp only [ran] at careful
      exact (erased.useServer used).ended free server (same.trans opened) careful ended

theorem alive_invoked {op : Op} {completion : Completion} {input : Input Msg}
    (invoked : Invoked services op completion input state next) : next.alive = state.alive := by
  cases invoked with
  | refused => rfl
  | @accepted bytes record operation served accept done ran ended =>
      have kept : served.alive = (state.useServer true).alive := alive_ended ended
      exact kept
  | unserved accept done ran ended =>
      have kept := alive_ended ended
      exact kept
  | failed other failed ran ended => exact alive_ended ended
  | done other done looks ran ended =>
      have kept := alive_ended ended
      exact kept

/-- While the server lives its map is balanced. -/
theorem balanced_reachable
    (reached : (asyncServer services).ReachableVia (Careful services) state) :
    state.alive = true → state.Reconciled none 1 := by
  induction reached with
  | initial =>
      intro _
      refine Reconciled.startAccept ⟨rfl, fun conn value => ?_, nofun, fun _ _ _ => rfl, fun _ => rfl⟩
        ⟨List.nodup_nil, nofun, fun _ => sound_new, nofun, nofun⟩
      constructor
      · exact nofun
      · rintro ⟨-, busy | ⟨op, found, -⟩⟩
        · cases busy
        · cases found
  | @step before after label reached careful stepped balanced =>
      intro alive
      cases label with
      | complete op completion =>
          obtain ⟨-, -, -, change, -, same⟩ := complete_eq_some stepped
          rw [same] at alive
          exact (balanced alive).complete stepped
      | handle op input =>
          obtain ⟨completion, -, -, invoked⟩ := handle_eq_some stepped
          have earlier := balanced ((alive_invoked invoked).symm.trans alive)
          exact earlier.handle (seated_reachable reached.reachable) careful stepped
      | destroyServer =>
          simp only [asyncServer, State.step, State.destroyServer] at stepped
          split at stepped
          · cases stepped
            cases alive
          · cases stepped

/-- In every run in which no accept fails and memory is found for every packet, the map
is the bookkeeping of the operations as long as the server lives. -/
theorem booked_reachable :
    ∀ state, (asyncServer services).ReachableVia (Careful services) state →
      state.alive = true → state.Booked :=
  fun _ reached alive =>
    (balanced_reachable reached alive).booked (seated_reachable reached.reachable)

end Steps

/-- A request is answered, while the next client is waited for. -/
theorem booked_reachable_answered :
    ∃ state, (asyncServer sampleServices).ReachableVia (Careful sampleServices) state ∧
      state.alive = true ∧ state.conns.entries = [(0, 0), (1, 1)] ∧ state.Booked := by
  have observed : ((asyncServer sampleServices).runVia (Careful sampleServices) sampleRequest
      (asyncServer sampleServices).initial).map
      (fun state => (state.alive, state.conns.entries)) = some (true, [(0, 0), (1, 1)]) := by
    decide
  obtain ⟨state, reached, same⟩ :=
    (asyncServer sampleServices).exists_reachableVia_of_run observed
  simp only [Prod.mk.injEq] at same
  exact ⟨state, reached, same.1, same.2, booked_reachable state reached same.1⟩

/-- An accept fails, and its connection stays in the map. On the next connection the
buffer cannot be grown for a packet; its handler throws, and the connection stays in the
map with an open socket. -/
theorem not_booked_unaccepted :
    ∃ state, (asyncServer sampleServices).Reachable state ∧ state.alive = true ∧
      (0, 0) ∈ state.conns.entries ∧ state.outstanding 0 = [] ∧
      (1, 1) ∈ state.conns.entries ∧ state.outstanding 1 = [] ∧
      (state.connections 1).isOpen = true ∧ ¬ state.Booked := by
  have observed : ((asyncServer sampleServices).run
      [.complete ⟨0, .accept, .pending⟩ (.failed "Too many open files" []),
        .handle ⟨0, .accept, .queued (.failed "Too many open files" [])⟩ sampleInput,
        .complete ⟨1, .accept, .pending⟩ (.done []),
        .handle ⟨1, .accept, .queued (.done [])⟩
          { sampleInput with turn := { sampleTurn 0 with heap := .exhausted } }]
      (asyncServer sampleServices).initial).map
      (fun state => (state.alive, state.conns.entries, state.ops,
        (state.connections 1).isOpen)) = some (true, [(0, 0), (1, 1)], [], true) := by
    decide
  obtain ⟨state, reached, same⟩ :=
    (asyncServer sampleServices).exists_reachable_of_run observed
  simp only [Prod.mk.injEq] at same
  obtain ⟨alive, entries, none, opened⟩ := same
  have idle : ∀ conn, state.outstanding conn = [] := fun conn => by
    rw [outstanding, none, List.filter_nil]
  refine ⟨state, reached, alive, ?_, idle 0, ?_, idle 1, opened, fun booked => ?_⟩
  · rw [entries]
    exact List.mem_cons_self
  · rw [entries]
    exact List.mem_cons_of_mem _ List.mem_cons_self
  · have closed := booked.finished 1 (idle 1)
    rw [opened] at closed
    cases closed

end State

end CarrotRpc.Server.Async
