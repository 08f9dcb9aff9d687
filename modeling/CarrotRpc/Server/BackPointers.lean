import CarrotRpc.Server.AsyncReplies
import CarrotRpc.Server.Bookkeeping

/-! Connections outlive the server through their handlers. What a handler does with
the server, and why `server_` is cleared wherever it is tested. -/

set_option autoImplicit false

namespace CarrotRpc.Server.Async

open Library Library.Faulting Common Protob

namespace RpcServerConnection

variable {Msg : Type} [Protobuf] {conn : RpcServerConnection} {size : Nat} {bytes : List UInt8}

/-- A handler that does not get to the lookup does the same with any table of services,
and with none. -/
theorem answerPayload_of_not_looksUp (services other : Services Msg) (server known : Bool)
    (turn : Turn Msg) (quiet : looksUp size bytes conn = false) :
    answerPayload services server turn size bytes conn =
      answerPayload other known turn size bytes conn := by
  have same : answering (find services server) turn.perform size bytes conn.buf =
      answering (find other known) turn.perform size bytes conn.buf := by
    unfold looksUp at quiet
    cases parsed : parsedRequest size bytes conn.buf with
    | none =>
        obtain ⟨next, fault, ended⟩ := answering_of_none turn.perform parsed
        rw [ended, ended]
    | some rpcReq =>
        obtain ⟨header, next, ended⟩ := answering_of_some turn.perform parsed
        rw [parsed] at quiet
        simp only [Option.isSome_eq_false_iff, Option.isNone_iff_eq_none] at quiet
        have finds : ∀ (services : Services Msg) (server : Bool),
            find services server rpcReq.getMethodIdentity =
              pure (.error "invalid method method identity") := by
          intro services server
          simp only [find, quiet, findTarget, or_true, if_true]
        rw [ended, ended]
        simp only [answerParsed, finds]
  simp only [answerPayload_eq, bind, onBuffer, zoom, same]

/-- One that gets there dereferences `server_`. -/
theorem answerPayload_of_looksUp (services : Services Msg) (turn : Turn Msg)
    (looks : looksUp size bytes conn = true) :
    (answerPayload services false turn size bytes conn).2 = .error .crashes := by
  unfold looksUp at looks
  cases parsed : parsedRequest size bytes conn.buf with
  | none =>
      rw [parsed] at looks
      cases looks
  | some rpcReq =>
      obtain ⟨header, next, ended⟩ := answering_of_some turn.perform parsed
      rw [parsed] at looks
      simp only [Option.isSome_iff_ne_none] at looks
      have lost : find services false rpcReq.getMethodIdentity = fail .crashes := by
        simp only [find, looks, Bool.false_eq_true, or_self, if_false]
      have crashes : answering (find services false) turn.perform size bytes conn.buf =
          (next, .error .crashes) := by
        rw [ended]
        simp only [answerParsed, lost]
        rfl
      rw [answerPayload_eq, bind_of_error _ (onBuffer_eq crashes)]

end RpcServerConnection

namespace State

section Uses

variable {Msg : Type} [Protobuf]

/-- The lookup in `server_->services()`. -/
def LooksUp (op : Op) (completion : Completion) (state : State) : Prop :=
  match op.kind, completion with
  | .readPayload size, .done bytes =>
      RpcServerConnection.looksUp size bytes (state.connections op.conn) = true
  | _, _ => False

instance (op : Op) (completion : Completion) (state : State) :
    Decidable (LooksUp op completion state) := by
  unfold LooksUp
  split <;> infer_instance

/-- What the handler of a read or a write comes to. -/
def ran (services : Services Msg) (op : Op) (completion : Completion) (input : Input Msg)
    (state : State) : RpcServerConnection × Except Fault Operation :=
  match completion with
  | .failed _ bytes => stored op.kind bytes (state.connections op.conn)
  | .done bytes => body services op.kind bytes input (state.connections op.conn)

/-- The handler calls `destroy` before it throws. -/
def Destroys (result : Except Fault Operation) : Prop :=
  ∃ fault, result = .error fault ∧ fault.isFatal = false ∧ fault ≠ .noMemory

/-- The handler goes through a pointer to the server: the `this` bound into
`handle_accept`, `server_->services()`, or `server_->conns()` in `destroy`. -/
inductive Uses (services : Services Msg) (op : Op) (completion : Completion)
    (input : Input Msg) (state : State) : Prop where
  | this (accept : op.kind = .accept)
  | services (looks : LooksUp op completion state)
  | conns (destroys : Destroys (ran services op completion input state).2)
      (server : (state.connections op.conn).server = true)

/-- Once the server is destroyed, neither the accept is handled nor a request that names
a service. -/
def Detached (state : State) : Label Msg → Prop
  | .handle op _ =>
      state.alive = true ∨
        op.kind ≠ .accept ∧ ∀ completion, op.status = .queued completion →
          ¬ LooksUp op completion state
  | .complete _ _ | .destroyServer => True

instance (state : State) (label : Label Msg) : Decidable (Detached state label) :=
  match label with
  | .complete _ _ | .destroyServer => .isTrue trivial
  | .handle ⟨_, kind, .pending⟩ _ =>
      decidable_of_iff (state.alive = true ∨ kind ≠ .accept)
        ⟨fun spared => spared.imp_right fun other => ⟨other, nofun⟩,
          fun spared => spared.imp_right And.left⟩
  | .handle ⟨conn, kind, .queued completion⟩ _ =>
      decidable_of_iff (state.alive = true ∨
          kind ≠ .accept ∧ ¬ LooksUp ⟨conn, kind, .queued completion⟩ completion state)
        ⟨fun spared => spared.imp_right fun other =>
            ⟨other.1, fun _ same => OpStatus.queued.inj same ▸ other.2⟩,
          fun spared => spared.imp_right fun other => ⟨other.1, other.2 completion rfl⟩⟩

end Uses

/-- The map has the connections with an operation while the server lives. After that
none of them knows it. -/
structure Linked (state : State) : Prop where
  keyed : ∀ entry ∈ state.conns.entries, entry.1 = entry.2
  listed : state.alive = true → ∀ op ∈ state.ops, (op.conn, op.conn) ∈ state.conns.entries
  cleared : state.alive = false → ∀ op ∈ state.ops,
    (state.connections op.conn).server = false

section Operations

variable {state next : State} {conn : ConnRef} {op : Op}

theorem Linked.useServer (linked : state.Linked) (used : Bool) :
    (state.useServer used).Linked :=
  ⟨linked.keyed, linked.listed, linked.cleared⟩

theorem Linked.erase (linked : state.Linked) :
    Linked { state with ops := state.ops.erase op } where
  keyed := linked.keyed
  listed := fun alive other member => linked.listed alive other (List.mem_of_mem_erase member)
  cleared := fun dead other member => linked.cleared dead other (List.mem_of_mem_erase member)

theorem Linked.modifyConn {record : RpcServerConnection} (linked : state.Linked)
    (free : Free conn state) : (state.modifyConn conn fun _ => record).Linked where
  keyed := linked.keyed
  listed := linked.listed
  cleared := fun dead op member => by
    rw [connections_modifyConn, if_neg (free op member)]
    exact linked.cleared dead op member

theorem Linked.start (linked : state.Linked)
    (listed : state.alive = true → (op.conn, op.conn) ∈ state.conns.entries)
    (cleared : state.alive = false → (state.connections op.conn).server = false) :
    (state.start op).Linked where
  keyed := linked.keyed
  listed := fun alive other member => by
    rcases List.mem_append.mp member with old | new
    · exact linked.listed alive other old
    · rw [List.mem_singleton.mp new]
      exact listed alive
  cleared := fun dead other member => by
    rcases List.mem_append.mp member with old | new
    · exact linked.cleared dead other old
    · rw [List.mem_singleton.mp new]
      exact cleared dead

theorem Linked.abort (linked : state.Linked) (selected : Op → Bool) :
    (state.abort selected).Linked where
  keyed := linked.keyed
  listed := fun alive op member => by
    obtain ⟨old, outstanding, same, -⟩ := mem_abort member
    rw [same]
    exact linked.listed alive old outstanding
  cleared := fun dead op member => by
    obtain ⟨old, outstanding, same, -⟩ := mem_abort member
    rw [same]
    exact linked.cleared dead old outstanding

theorem free_abort {selected : Op → Bool} (free : Free conn state) :
    Free conn (state.abort selected) := by
  intro op member
  obtain ⟨old, outstanding, same, -⟩ := mem_abort member
  rw [same]
  exact free old outstanding

/-- A connection that is destroyed has no operation any more. -/
theorem Linked.destroy (linked : state.Linked) (free : Free conn state) :
    (state.destroy conn).Linked := by
  have aborted : ∀ state : State, state.Linked → Free conn state →
      ((state.abort fun op => op.conn = conn && op.kind ≠ .accept).modifyConn conn fun record =>
        { record with isOpen := false }).Linked := by
    intro state linked free
    exact (linked.abort _).modifyConn (free_abort free)
  unfold State.destroy
  simp only
  split
  · apply aborted
    · refine ⟨?_, ?_, linked.cleared⟩
      · intro entry member
        exact linked.keyed entry (OrderedMap.mem_erase_iff.mp member).1
      · intro alive op member
        exact OrderedMap.mem_erase_iff.mpr ⟨linked.listed alive op member, free op member⟩
    · exact free
  · exact aborted state linked free

theorem Linked.startAccept (linked : state.Linked) (alive : state.alive = true) :
    state.startAccept.Linked := by
  have present : (state.nextConn, state.nextConn) ∈
      (state.conns.insert state.nextConn state.nextConn).entries := by
    cases found : state.conns.find? state.nextConn with
    | none => exact (OrderedMap.mem_insert_iff found).mpr (.inl rfl)
    | some other =>
        have member := OrderedMap.find?_eq_some_iff.mp found
        have same : state.nextConn = other := linked.keyed _ member
        rw [← same] at member
        exact OrderedMap.mem_insert_of_mem member
  refine ⟨?_, ?_, ?_⟩
  · intro entry member
    rcases OrderedMap.mem_of_mem_insert member with rfl | old
    · rfl
    · exact linked.keyed entry old
  · intro _ op member
    rcases List.mem_append.mp member with old | new
    · exact OrderedMap.mem_insert_of_mem (linked.listed alive op old)
    · rw [List.mem_singleton.mp new]
      exact present
  · intro dead
    cases alive.symm.trans dead

theorem Linked.ended {record : RpcServerConnection} {result : Except Fault Operation}
    (linked : state.Linked) (free : Free conn state)
    (listed : state.alive = true → (conn, conn) ∈ state.conns.entries)
    (cleared : state.alive = false → record.server = false)
    (ended : Ended conn record state result next) : next.Linked := by
  have modified : (state.modifyConn conn fun _ => record).Linked := linked.modifyConn free
  cases ended with
  | started operation =>
      apply modified.start
      · exact listed
      · intro dead
        rw [connections_modifyConn, if_pos rfl]
        exact cleared dead
  | destroyed => exact modified.destroy free
  | abandoned => exact modified

theorem Linked.complete {completion : Completion} (linked : state.Linked)
    (completed : state.complete op completion = some next) : next.Linked := by
  obtain ⟨member, -, -, change, changed, rfl⟩ := complete_eq_some completed
  have keepsServer : ∀ record : RpcServerConnection, (change record).server = record.server := by
    intro record
    rcases changed with ⟨rfl, -⟩ | ⟨-, rfl⟩
    · rfl
    · rfl
  have before : ∀ other ∈ state.ops.erase op ++ [{ op with status := .queued completion }],
      ∃ old ∈ state.ops, old.conn = other.conn := by
    intro other found
    rcases List.mem_append.mp found with left | added
    · exact ⟨other, List.mem_of_mem_erase left, rfl⟩
    · exact ⟨op, member, by rw [List.mem_singleton.mp added]⟩
  refine ⟨linked.keyed, ?_, ?_⟩
  · intro alive other found
    obtain ⟨old, there, same⟩ := before other found
    rw [← same]
    exact linked.listed alive old there
  · intro dead other found
    obtain ⟨old, there, same⟩ := before other found
    have server := linked.cleared dead old there
    rw [same] at server
    rw [connections_modifyConn]
    split
    · next same =>
        rw [keepsServer, ← same]
        exact server
    · exact server

/-- The loop of `~CarrotAsyncServer`. -/
theorem server_foldl (entries : List (Nat × ConnRef)) (state : State) :
    ((entries.foldl (fun state entry =>
        state.modifyConn entry.2 fun record => { record with server := false })
      state).connections conn).server =
      ((state.connections conn).server && !(entries.map Prod.snd).contains conn) := by
  induction entries generalizing state with
  | nil => simp
  | cons entry entries ih =>
      rw [List.foldl_cons, ih, connections_modifyConn]
      by_cases same : conn = entry.2
      · simp [same]
      · have different : (conn == entry.2) = false := beq_eq_false_iff_ne.mpr same
        simp [same, different]

theorem foldl_frame (entries : List (Nat × ConnRef)) (state : State) :
    ∃ connections : ConnRef → RpcServerConnection,
      (∀ conn, (connections conn).buf = (state.connections conn).buf ∧
        (connections conn).n = (state.connections conn).n) ∧
      entries.foldl (fun state entry =>
        state.modifyConn entry.2 fun record => { record with server := false })
        state = { state with connections } := by
  induction entries generalizing state with
  | nil => exact ⟨state.connections, fun _ => ⟨rfl, rfl⟩, rfl⟩
  | cons entry entries ih =>
      obtain ⟨connections, same, folded⟩ := ih
        (state.modifyConn entry.2 fun record => { record with server := false })
      refine ⟨connections, fun conn => ?_, folded⟩
      obtain ⟨buf, n⟩ := same conn
      rw [buf, n, connections_modifyConn]
      split
      · next equal => exact equal ▸ ⟨rfl, rfl⟩
      · exact ⟨rfl, rfl⟩

theorem Linked.destroyServer (linked : state.Linked)
    (destroyed : state.destroyServer = some next) : next.Linked := by
  simp only [State.destroyServer] at destroyed
  split at destroyed
  · next alive =>
      cases destroyed
      refine ⟨by rintro entry ⟨⟩, by rintro ⟨⟩, ?_⟩
      intro _ op member
      obtain ⟨old, outstanding, same, -⟩ := mem_abort member
      obtain ⟨connections, -, cleared⟩ := foldl_frame state.conns.entries state
      rw [cleared] at outstanding
      have listed := List.mem_map_of_mem (f := Prod.snd) (linked.listed alive old outstanding)
      rw [same]
      refine (server_foldl _ _).trans ?_
      simp [listed]
  · cases destroyed

end Operations

section Steps

variable {Msg : Type} [Protobuf] {services : Services Msg} {state next : State} {op : Op}
  {input : Input Msg}

omit [Protobuf] in
theorem server_of_keeps {handler : Handler Operation} {conn record : RpcServerConnection}
    {result : Except Fault Operation}
    (keeps : ∀ server isOpen, Keeps (RpcServerConnection.same server isOpen) handler)
    (ended : handler conn = (record, result)) : record.server = conn.server := by
  have holds : RpcServerConnection.same conn.server conn.isOpen conn := ⟨rfl, rfl⟩
  have kept := (keeps conn.server conn.isOpen).state holds
  rw [ended] at kept
  exact kept.1

theorem Linked.handle (linked : state.Linked) (seated : state.Seated)
    (detached : Detached state (.handle op input))
    (handled : state.handle services op input = some next) : next.Linked := by
  obtain ⟨completion, status, member, invoked⟩ := handle_eq_some handled
  have free := seated.free member
  have erased : Linked { state with ops := state.ops.erase op } := linked.erase
  have listed := fun alive => linked.listed alive op member
  have cleared := fun dead => linked.cleared dead op member
  have lives : op.kind = .accept → state.alive = true := by
    intro accept
    rcases detached with alive | ⟨other, -⟩
    · exact alive
    · exact absurd accept other
  cases invoked with
  | refused accept failed => exact (erased.useServer true).startAccept (lives accept)
  | @accepted bytes record operation next accept done ran ended =>
      have server := server_of_keeps (fun _ _ => RpcServerConnection.keepsSame_serve) ran
      apply Linked.startAccept
      · exact (erased.useServer true).ended free listed (fun dead => server.trans (cleared dead))
          ended
      · exact (alive_ended ended).trans (lives accept)
  | unserved accept done ran ended =>
      have server := server_of_keeps (fun _ _ => RpcServerConnection.keepsSame_serve) ran
      exact (erased.useServer true).ended free listed (fun dead => server.trans (cleared dead))
        ended
  | failed other failed ran ended =>
      have server := server_of_keeps (fun _ _ => same_stored) ran
      exact erased.ended free listed (fun dead => server.trans (cleared dead)) ended
  | @done bytes record result used next other done looks ran ended =>
      have server := server_of_keeps (fun _ _ => same_body) ran
      exact (erased.useServer used).ended free listed (fun dead => server.trans (cleared dead))
        ended

/-- In the runs that meet the condition only connections that are not used any more keep a
pointer to a destroyed server. -/
theorem linked_reachable (reached : (asyncServer services).ReachableVia Detached state) :
    state.Linked := by
  have known : ∀ state, (asyncServer services).ReachableVia Detached state → state.Seated :=
    fun state reached => seated_reachable (reached.reachable (asyncServer services))
  apply reached.invariant_with (asyncServer services) known
  · have empty : Linked
        { alive := true
          dangling := false
          conns := .empty
          connections := fun _ => {}
          nextConn := 0
          ops := [] } := ⟨nofun, fun _ => nofun, nofun⟩
    exact empty.startAccept rfl
  · intro state label next seated linked detached stepped
    cases label with
    | complete op completion => exact linked.complete stepped
    | handle op input => exact linked.handle seated detached stepped
    | destroyServer => exact linked.destroyServer stepped

omit [Protobuf] in
theorem dangling_ended {conn : ConnRef} {record : RpcServerConnection}
    {result : Except Fault Operation} (ended : Ended conn record state result next)
    (dangles : next.dangling = true) :
    state.dangling = true ∨ state.alive = false ∧ Destroys result ∧ record.server = true := by
  cases ended with
  | started operation => exact .inl dangles
  | abandoned => exact .inl dangles
  | @destroyed fault mild other =>
      unfold State.destroy at dangles
      simp only [connections_modifyConn, if_pos] at dangles
      split at dangles
      · next server =>
          simp only [State.modifyConn, State.abort, State.useServer, Bool.or_eq_true,
            Bool.and_eq_true, Bool.not_eq_true', true_and] at dangles
          rcases dangles with before | dead
          · exact .inl before
          · exact .inr ⟨dead, ⟨fault, rfl, mild, other⟩, server⟩
      · exact .inl dangles

omit [Protobuf] in
theorem dangling_startAccept (state : State) :
    state.startAccept.dangling = (state.dangling || !state.alive) := by
  simp only [State.startAccept, State.modifyConn, State.useServer, Bool.true_and]

/-- Only the uses of a dead server are recorded. -/
theorem dangling_handle (handled : state.handle services op input = some next)
    (dangles : next.dangling = true) :
    state.dangling = true ∨ state.alive = false ∧
      ∃ completion, op.status = .queued completion ∧
        Uses services op completion input state := by
  obtain ⟨completion, status, member, invoked⟩ := handle_eq_some handled
  have marked : ∀ {used : Bool}, (state.useServer used).dangling = true →
      state.dangling = true ∨ used = true ∧ state.alive = false := by
    intro used marks
    simpa only [State.useServer, Bool.or_eq_true, Bool.and_eq_true, Bool.not_eq_true'] using marks
  have bound : op.kind = .accept → state.dangling = true ∨ state.alive = false →
      state.dangling = true ∨ state.alive = false ∧
        ∃ completion, op.status = .queued completion ∧
          Uses services op completion input state := by
    intro accept marks
    exact marks.imp_right fun dead => ⟨dead, completion, status, .this accept⟩
  cases invoked with
  | refused accept failed =>
      apply bound accept
      rw [dangling_startAccept, Bool.or_eq_true, Bool.not_eq_true'] at dangles
      rcases dangles with before | dead
      · exact (marked before).imp_right And.right
      · exact .inr dead
  | @accepted bytes record operation served accept done ran ended =>
      apply bound accept
      have lives := alive_ended ended
      rw [dangling_startAccept, Bool.or_eq_true, Bool.not_eq_true'] at dangles
      rcases dangles with before | dead
      · rcases dangling_ended ended before with before | ⟨dead, -⟩
        · exact (marked before).imp_right And.right
        · exact .inr dead
      · exact .inr (lives.symm.trans dead)
  | unserved accept done ran ended =>
      apply bound accept
      rcases dangling_ended ended dangles with before | ⟨dead, -⟩
      · exact (marked before).imp_right And.right
      · exact .inr dead
  | @failed message bytes record result next other failed ran ended =>
      rcases dangling_ended ended dangles with before | ⟨dead, destroys, server⟩
      · exact .inl before
      · refine .inr ⟨dead, completion, status, .conns ?_ ?_⟩
        · subst failed
          have ended : (State.ran services op (.failed message bytes) input state).2 = result :=
            congrArg Prod.snd ran
          rw [ended]
          exact destroys
        · exact (server_of_keeps (fun _ _ => same_stored) ran).symm.trans server
  | @done bytes record result used next other done looks ran ended =>
      rcases dangling_ended ended dangles with before | ⟨dead, destroys, server⟩
      · refine (marked before).imp_right ?_
        rintro ⟨looked, dead⟩
        refine ⟨dead, completion, status, ?_⟩
        obtain ⟨size, kind, found⟩ := looks looked
        apply Uses.services
        simp only [LooksUp, kind, done]
        exact found
      · refine .inr ⟨dead, completion, status, .conns ?_ ?_⟩
        · subst done
          have ended : (State.ran services op (.done bytes) input state).2 = result :=
            congrArg Prod.snd ran
          rw [ended]
          exact destroys
        · exact (server_of_keeps (fun _ _ => same_body) ran).symm.trans server

/-- A handler of a connection uses a dead server exactly if it handles the accept or
looks up a service. -/
theorem uses_iff (linked : state.Linked) (dead : state.alive = false) (member : op ∈ state.ops)
    (completion : Completion) (input : Input Msg) :
    Uses services op completion input state ↔
      op.kind = .accept ∨ LooksUp op completion state := by
  constructor
  · intro uses
    cases uses with
    | this accept => exact .inl accept
    | services looks => exact .inr looks
    | conns destroys server =>
        have cleared := linked.cleared dead op member
        cases server.symm.trans cleared
  · rintro (accept | looks)
    · exact .this accept
    · exact .services looks

theorem unused_reachable (reached : (asyncServer services).ReachableVia Detached state) :
    state.dangling = false := by
  have known : ∀ state, (asyncServer services).ReachableVia Detached state → state.Linked :=
    fun state reached => linked_reachable reached
  apply reached.invariant_with (asyncServer services) known
  · rfl
  · intro state label next linked unused detached stepped
    cases label with
    | complete op completion =>
        obtain ⟨-, -, -, change, -, rfl⟩ := complete_eq_some stepped
        exact unused
    | handle op input =>
        apply eq_false_of_ne_true
        intro dangles
        rcases dangling_handle stepped dangles with before | ⟨dead, completion, status, uses⟩
        · cases unused.symm.trans before
        · obtain ⟨_, _, member, _⟩ := handle_eq_some stepped
          rcases detached with alive | ⟨other, spared⟩
          · cases alive.symm.trans dead
          · rcases (uses_iff linked dead member completion input).mp uses with accept | looks
            · exact other accept
            · exact spared completion status looks
    | destroyServer =>
        simp only [asyncServer, State.step, State.destroyServer] at stepped
        split at stepped
        · cases stepped
          obtain ⟨connections, -, cleared⟩ := foldl_frame state.conns.entries state
          rw [cleared]
          exact unused
        · cases stepped

/-- In every run whose steps meet the condition no dead server was used, and the next
handler uses none exactly if it meets the condition too. -/
theorem dead_server_unused_iff
    (reached : (asyncServer services).ReachableVia Detached state) (member : op ∈ state.ops)
    (completion : Completion) (queued : op.status = .queued completion) (input : Input Msg) :
    state.dangling = false ∧
      ((Uses services op completion input state → state.alive = true) ↔
        Detached state (.handle op input)) := by
  refine ⟨unused_reachable reached, ?_⟩
  have linked := linked_reachable reached
  cases alive : state.alive with
  | true => exact ⟨fun _ => .inl alive, fun _ _ => rfl⟩
  | false =>
      have uses : Uses services op completion input state ↔
          op.kind = .accept ∨ LooksUp op completion state :=
        uses_iff linked alive member completion input
      constructor
      · intro lives
        refine .inr ⟨fun accept => ?_, fun other status looks => ?_⟩
        · cases lives (uses.mpr (.inl accept))
        · have same := OpStatus.queued.inj (queued.symm.trans status)
          cases lives (uses.mpr (.inr (same ▸ looks)))
      · rintro (lives | ⟨other, spared⟩) used
        · exact alive.symm.trans lives
        · rcases uses.mp used with accept | looks
          · exact absurd accept other
          · exact absurd looks (spared completion queued)

end Steps

/-- A client is disconnected after the server was destroyed. -/
theorem dead_server_unused_iff_disconnected :
    ∃ (state : State) (op : Op), op ∈ state.ops ∧ state.alive = false ∧
      state.dangling = false ∧
      ¬ Uses sampleServices op (.failed "End of file" []) sampleInput state := by
  let op : Op := ⟨0, .readHeader, .queued (.failed "End of file" [])⟩
  have observed : ((asyncServer sampleServices).runVia Detached
      [.complete ⟨0, .accept, .pending⟩ (.done []),
        .handle ⟨0, .accept, .queued (.done [])⟩ sampleInput,
        .destroyServer,
        .complete ⟨0, .readHeader, .pending⟩ (.failed "End of file" [])]
      (asyncServer sampleServices).initial).map
      (fun state => (state.alive, decide (op ∈ state.ops))) = some (false, true) := by
    decide
  obtain ⟨state, reached, same⟩ :=
    (asyncServer sampleServices).exists_reachableVia_of_run observed
  simp only [Prod.mk.injEq, decide_eq_true_eq] at same
  obtain ⟨dead, member⟩ := same
  obtain ⟨unused, spared⟩ := dead_server_unused_iff reached member _ rfl sampleInput
  refine ⟨state, op, member, dead, unused, fun uses => ?_⟩
  have lives := spared.mpr (.inr ⟨nofun, fun completion status => ?_⟩) uses
  · cases dead.symm.trans lives
  · exact id

/-- The server is destroyed. The pending accept is aborted, and its handler is called on
the dead server; a request that arrives whole is looked up in its services. -/
theorem dead_server_used :
    ∃ (state : State) (accept payload : Op), (asyncServer sampleServices).Reachable state ∧
      state.alive = false ∧ accept ∈ state.ops ∧ payload ∈ state.ops ∧
      accept.status = .queued (.failed "Operation canceled" []) ∧
      payload.status = .queued (.done samplePayload) ∧
      Uses sampleServices accept (.failed "Operation canceled" []) sampleInput state ∧
      Uses sampleServices payload (.done samplePayload) sampleInput state := by
  let accept : Op := ⟨1, .accept, .queued (.failed "Operation canceled" [])⟩
  let payload : Op := ⟨0, .readPayload 14, .queued (.done samplePayload)⟩
  have observed : ((asyncServer sampleServices).run
      (sampleRequest.take 4 ++
        [.complete ⟨0, .readPayload 14, .pending⟩ (.done samplePayload), .destroyServer])
      (asyncServer sampleServices).initial).map
      (fun state => (state.alive, decide (accept ∈ state.ops), decide (payload ∈ state.ops),
        decide (LooksUp payload (.done samplePayload) state))) = some (false, true, true, true) := by
    decide
  obtain ⟨state, reached, same⟩ :=
    (asyncServer sampleServices).exists_reachable_of_run observed
  simp only [Prod.mk.injEq, decide_eq_true_eq] at same
  obtain ⟨dead, pending, received, looks⟩ := same
  exact ⟨state, accept, payload, reached, dead, pending, received, rfl, rfl, .this rfl,
    .services looks⟩

end State

end CarrotRpc.Server.Async
