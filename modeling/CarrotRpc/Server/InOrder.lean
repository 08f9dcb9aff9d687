import CarrotRpc.Server.Arrivals
import CarrotRpc.Server.BackPointers

/-! The async server answers the requests of a connection one at a time and in order.
Beside the server there is a record of the packets every connection received and of the
ids of the responses whose write was started on it. -/

set_option autoImplicit false

namespace CarrotRpc.Server.Async

open Library Library.Faulting Common Protob

/-- A packet that arrived whole, and the id `handle_read_payload` finds in its buffer. -/
structure Arrival where
  packet : List UInt8
  id : Option Nat

/-- What was seen of a connection; `header` holds the length fields that were read last. -/
structure Talk where
  header : List UInt8 := []
  received : List Arrival := []
  answered : List (Option Nat) := []

abbrev Record := ConnRef → Talk

namespace State

section Recording

variable {Msg : Type} [Protobuf]

def written : Except Fault Operation → Option (List UInt8)
  | .ok (.write packet) => some packet
  | .ok .readHeader | .ok (.readPayload _) | .error _ => none

/-- The packet whose write the handler of an operation starts. -/
def writes (services : Services Msg) (op : Op) (input : Input Msg) (state : State) :
    Option (List UInt8) :=
  match op.status with
  | .pending => none
  | .queued completion => written (ran services op completion input state).2

def noteCompletion (op : Op) (completion : Completion) (state : State) (talk : Talk) : Talk :=
  match op.kind, completion with
  | .readHeader, .done bytes => { talk with header := bytes }
  | .readPayload size, .done bytes =>
      let rpcReq :=
        RpcServerConnection.parsedRequest size bytes (state.connections op.conn).buf
      { talk with
        received := talk.received ++ [⟨talk.header ++ bytes, rpcReq.map Request.getId⟩] }
  | _, _ => talk

def noteWrite (packet : Option (List UInt8)) (talk : Talk) : Talk :=
  match packet with
  | none => talk
  | some packet => { talk with answered := talk.answered ++ [responseId packet] }

/-- What a step adds to the record. -/
def note (services : Services Msg) (state : State) : Label Msg → Record → Record
  | .complete op completion, record =>
      Function.update record op.conn (noteCompletion op completion state (record op.conn))
  | .handle op input, record =>
      Function.update record op.conn
        (noteWrite (writes services op input state) (record op.conn))
  | .destroyServer, record => record

end Recording

end State

/-- The server and the record of its connections. -/
def recordedServer {Msg : Type} [Protobuf] (services : Services Msg) :
    TransitionSystem (State × Record) (Label Msg) where
  initial := ((asyncServer services).initial, fun _ => {})
  step config label :=
    (config.1.step services label).map fun next =>
      (next, State.note services config.1 label config.2)

/-- The record leaves out no run of the server. -/
theorem recorded_of_reachable {Msg : Type} [Protobuf] {services : Services Msg} {state : State}
    (reached : (asyncServer services).Reachable state) :
    ∃ record, (recordedServer services).Reachable (state, record) := by
  induction reached with
  | initial => exact ⟨_, .initial⟩
  | @step before after label _ _ stepped ih =>
      obtain ⟨record, recorded⟩ := ih
      have extended : (recordedServer services).step (before, record) label =
          some (after, State.note services before label record) := by
        have stepped : before.step services label = some after := stepped
        simp only [recordedServer, stepped, Option.map_some]
      exact ⟨_, .step recorded trivial extended⟩

namespace State

/-- A payload was read whole, and its handler has not run yet. -/
def Unanswered (op : Op) : Prop :=
  ∃ size bytes, op.kind = .readPayload size ∧ op.status = .queued (.done bytes)

section Telling

variable [Protobuf]

/-- An operation against what was seen of its connection: every packet that arrived has
been answered, apart from the one whose handler is queued. -/
structure Told (talk : Talk) (conn : RpcServerConnection) (op : Op) : Prop where
  opened : ∀ bytes, op.kind = .readHeader → op.status = .queued (.done bytes) →
    talk.header = bytes
  framed : ∀ size, op.kind = .readPayload size → conn.Framed talk.header size
  behind : ∀ size bytes, op.kind = .readPayload size → op.status = .queued (.done bytes) →
    ∃ earlier packet, talk.received = earlier ++ [⟨packet,
        (RpcServerConnection.parsedRequest size bytes conn.buf).map Request.getId⟩] ∧
      talk.answered = earlier.map Arrival.id
  caughtUp : ¬ Unanswered op → talk.answered = talk.received.map Arrival.id

/-- What holds of the record between two steps. -/
structure RecordKept (state : State) (record : Record) : Prop where
  told : ∀ op ∈ state.ops, Told (record op.conn) (state.connections op.conn) op
  unborn : ∀ conn, state.nextConn ≤ conn → record conn = {}
  ordered : ∀ conn, (record conn).answered <+: (record conn).received.map Arrival.id
  genuine : ∀ conn, ∀ arrival ∈ (record conn).received,
    sizeofPacket + (Header.ofNetwork arrival.packet).payload < 2 ^ 32 →
      arrival.id = requestId arrival.packet

variable {talk : Talk} {conn other : RpcServerConnection} {op moved : Op}

/-- An operation that is cancelled while it is pending has not brought a packet. -/
theorem Told.of_same (told : Told talk conn op) (buf : other.buf = conn.buf)
    (n : other.n = conn.n) (kind : moved.kind = op.kind)
    (status : moved.status = op.status ∨
      ∃ message, op.status = .pending ∧ moved.status = .queued (.failed message [])) :
    Told talk other moved := by
  have done : ∀ bytes, moved.status = .queued (.done bytes) → op.status = .queued (.done bytes) := by
    intro bytes ended
    rcases status with same | ⟨message, -, failed⟩
    · exact same.symm.trans ended
    · cases failed.symm.trans ended
  refine ⟨?_, ?_, ?_, ?_⟩
  · intro bytes header ended
    exact told.opened bytes (kind.symm.trans header) (done bytes ended)
  · intro size payload
    obtain ⟨length, sized, narrowed, content⟩ := told.framed size (kind.symm.trans payload)
    exact ⟨length, sized, n.trans narrowed, buf ▸ content⟩
  · intro size bytes payload ended
    rw [buf]
    exact told.behind size bytes (kind.symm.trans payload) (done bytes ended)
  · intro answered
    apply told.caughtUp
    rintro ⟨size, bytes, payload, ended⟩
    rcases status with same | ⟨message, waits, -⟩
    · exact answered ⟨size, bytes, kind.trans payload, same.trans ended⟩
    · cases waits.symm.trans ended

end Telling

section Operations

variable {state next : State} {conn : ConnRef} {op : Op} {record : RpcServerConnection}
  {result : Except Fault Operation}

/-- The operations after a handler of a connection: those of other connections, and the
one it has started. -/
theorem ops_ended (free : Free conn state) (ended : Ended conn record state result next)
    (member : op ∈ next.ops) :
    op ∈ state.ops ∨ op.conn = conn ∧ ∃ operation, result = .ok operation ∧
      op.kind = operation.kind ∧ ∀ bytes, op.status ≠ .queued (.done bytes) := by
  cases ended with
  | started operation =>
      rcases List.mem_append.mp member with old | new
      · exact .inl old
      · rw [List.mem_singleton.mp new]
        refine .inr ⟨rfl, operation, rfl, rfl, fun bytes => ?_⟩
        simp only
        split
        · nofun
        · nofun
  | destroyed =>
      have aborted : ∃ before : State, before.ops = state.ops ∧
          op ∈ (before.abort fun op => op.conn = conn && op.kind ≠ .accept).ops := by
        unfold State.destroy at member
        simp only at member
        split at member
        · exact ⟨_, rfl, member⟩
        · exact ⟨_, rfl, member⟩
      obtain ⟨before, same, member⟩ := aborted
      obtain ⟨old, outstanding, listed⟩ := List.mem_map.mp member
      rw [same] at outstanding
      rw [if_neg] at listed
      · exact .inl (listed ▸ outstanding)
      · simp only [Bool.and_eq_true, decide_eq_true_eq, not_and]
        intro mine
        exact absurd mine.1 (free old outstanding)
  | abandoned => exact .inl member

theorem destroy_frame (state : State) (conn other : ConnRef) :
    ((state.destroy conn).connections other).buf = (state.connections other).buf ∧
      ((state.destroy conn).connections other).n = (state.connections other).n ∧
      (state.destroy conn).nextConn = state.nextConn := by
  have closed : ∀ (before : State) (selected : Op → Bool),
      (((before.abort selected).modifyConn conn fun record =>
        { record with isOpen := false }).connections other).buf = (before.connections other).buf ∧
      (((before.abort selected).modifyConn conn fun record =>
        { record with isOpen := false }).connections other).n = (before.connections other).n := by
    intro before selected
    rw [connections_modifyConn]
    split
    · next same => exact same ▸ ⟨rfl, rfl⟩
    · exact ⟨rfl, rfl⟩
  unfold State.destroy
  simp only
  split
  · exact ⟨(closed _ _).1, (closed _ _).2, rfl⟩
  · exact ⟨(closed _ _).1, (closed _ _).2, rfl⟩

/-- A handler works on the buffer of its own connection. -/
theorem ended_frame (ended : Ended conn record state result next) (other : ConnRef) :
    (next.connections other).buf = (if other = conn then record else state.connections other).buf ∧
      (next.connections other).n = (if other = conn then record else state.connections other).n ∧
      next.nextConn = state.nextConn := by
  have modified : (state.modifyConn conn fun _ => record).connections other =
      if other = conn then record else state.connections other :=
    connections_modifyConn other fun _ => record
  rw [← modified]
  cases ended with
  | started operation => exact ⟨rfl, rfl, rfl⟩
  | destroyed => exact destroy_frame _ conn other
  | abandoned => exact ⟨rfl, rfl, rfl⟩

end Operations

section Steps

variable [Protobuf] {state next : State} {record : Record} {conn : ConnRef} {op : Op}
  {talk : Talk}

theorem RecordKept.erase (kept : RecordKept state record) :
    RecordKept { state with ops := state.ops.erase op } record :=
  ⟨fun other member => kept.told other (List.mem_of_mem_erase member), kept.unborn,
    kept.ordered, kept.genuine⟩

theorem RecordKept.useServer (kept : RecordKept state record) (used : Bool) :
    RecordKept (state.useServer used) record :=
  ⟨kept.told, kept.unborn, kept.ordered, kept.genuine⟩

/-- The record of a connection without an operation. -/
theorem RecordKept.update (kept : RecordKept state record) (free : Free conn state)
    (bound : conn < state.nextConn) (ordered : talk.answered <+: talk.received.map Arrival.id)
    (genuine : ∀ arrival ∈ talk.received,
      sizeofPacket + (Header.ofNetwork arrival.packet).payload < 2 ^ 32 →
        arrival.id = requestId arrival.packet) :
    RecordKept state (Function.update record conn talk) where
  told := by
    intro op member
    rw [Function.update_of_ne (free op member)]
    exact kept.told op member
  unborn := by
    intro other later
    rw [Function.update_of_ne (Nat.ne_of_gt (Nat.lt_of_lt_of_le bound later))]
    exact kept.unborn other later
  ordered := by
    intro other
    by_cases same : other = conn
    · rw [same, Function.update_self]
      exact ordered
    · rw [Function.update_of_ne same]
      exact kept.ordered other
  genuine := by
    intro other
    by_cases same : other = conn
    · rw [same, Function.update_self]
      exact genuine
    · rw [Function.update_of_ne same]
      exact kept.genuine other

theorem RecordKept.ended {changed : RpcServerConnection} {result : Except Fault Operation}
    (kept : RecordKept state record) (free : Free conn state)
    (ended : Ended conn changed state result next)
    (told : ∀ operation status, result = .ok operation →
      (∀ bytes, status ≠ .queued (.done bytes)) →
      Told (record conn) changed ⟨conn, operation.kind, status⟩) : RecordKept next record where
  told := by
    intro op member
    obtain ⟨buf, n, -⟩ := ended_frame ended op.conn
    rcases ops_ended free ended member with old | ⟨mine, operation, same, kind, fresh⟩
    · rw [if_neg (free op old)] at buf n
      exact (kept.told op old).of_same buf n rfl (.inl rfl)
    · rw [if_pos mine] at buf n
      have started := told operation op.status same fresh
      rw [mine]
      rw [mine] at buf n
      exact started.of_same buf n kind (.inl rfl)
  unborn := by
    obtain ⟨-, -, count⟩ := ended_frame ended conn
    rw [count]
    exact kept.unborn
  ordered := kept.ordered
  genuine := kept.genuine

theorem RecordKept.startAccept (kept : RecordKept state record) (seated : state.Seated) :
    RecordKept state.startAccept record where
  told := by
    intro op member
    rcases List.mem_append.mp member with old | new
    · have different : op.conn ≠ state.nextConn := Nat.ne_of_lt (seated.bounded op old)
      have same : state.startAccept.connections op.conn = state.connections op.conn :=
        Function.update_of_ne different _ _
      rw [same]
      exact kept.told op old
    · rw [List.mem_singleton.mp new]
      refine ⟨nofun, nofun, nofun, fun _ => ?_⟩
      simp only [kept.unborn state.nextConn (Nat.le_refl _), List.map_nil]
  unborn := fun other later => kept.unborn other (Nat.le_of_succ_le later)
  ordered := kept.ordered
  genuine := kept.genuine

theorem RecordKept.add (kept : RecordKept state record)
    (told : Told (record op.conn) (state.connections op.conn) op) :
    RecordKept { state with ops := state.ops ++ [op] } record where
  told := by
    intro other member
    rcases List.mem_append.mp member with old | new
    · exact kept.told other old
    · rw [List.mem_singleton.mp new]
      exact told
  unborn := kept.unborn
  ordered := kept.ordered
  genuine := kept.genuine

theorem RecordKept.modifyConn {change : RpcServerConnection → RpcServerConnection}
    (kept : RecordKept state record)
    (buf : (change (state.connections conn)).buf = (state.connections conn).buf)
    (n : (change (state.connections conn)).n = (state.connections conn).n) :
    RecordKept (state.modifyConn conn change) record where
  told := by
    intro op member
    rw [connections_modifyConn]
    split
    · next same =>
        have told := kept.told op member
        rw [same] at told ⊢
        exact told.of_same buf n rfl (.inl rfl)
    · exact kept.told op member
  unborn := kept.unborn
  ordered := kept.ordered
  genuine := kept.genuine

theorem RecordKept.abort (kept : RecordKept state record) (selected : Op → Bool) :
    RecordKept (state.abort selected) record where
  told := by
    intro op member
    obtain ⟨old, outstanding, conn, kind, status⟩ := mem_abort member
    rw [conn]
    exact (kept.told old outstanding).of_same rfl rfl kind
      (status.imp_right fun aborted => ⟨_, aborted⟩)
  unborn := kept.unborn
  ordered := kept.ordered
  genuine := kept.genuine

/-- A packet that has arrived whole is the last one received. -/
theorem Told.complete {completion : Completion}
    (told : Told talk (state.connections op.conn) op) (pending : op.status = .pending) :
    Told (noteCompletion op completion state talk) (state.connections op.conn)
      { op with status := .queued completion } := by
  have caughtUp := told.caughtUp fun ⟨_, _, _, ended⟩ => by cases pending.symm.trans ended
  obtain ⟨conn, kind, status⟩ := op
  cases kind with
  | accept => exact ⟨nofun, nofun, nofun, fun _ => caughtUp⟩
  | write packet => exact ⟨nofun, nofun, nofun, fun _ => caughtUp⟩
  | readHeader =>
      cases completion with
      | failed message bytes => exact ⟨nofun, nofun, nofun, fun _ => caughtUp⟩
      | done bytes =>
          refine ⟨?_, nofun, nofun, fun _ => caughtUp⟩
          intro other _ ended
          exact Completion.done.inj (OpStatus.queued.inj ended)
  | readPayload size =>
      cases completion with
      | failed message bytes => exact ⟨nofun, told.framed, nofun, fun _ => caughtUp⟩
      | done bytes =>
          refine ⟨nofun, told.framed, ?_, ?_⟩
          · intro other payload kind ended
            obtain rfl := OpKind.readPayload.inj kind
            obtain rfl := Completion.done.inj (OpStatus.queued.inj ended)
            exact ⟨talk.received, _, rfl, caughtUp⟩
          · intro answered
            exact absurd ⟨size, bytes, rfl, rfl⟩ answered

theorem noteCompletion_cases (op : Op) (completion : Completion) (state : State) (talk : Talk) :
    (noteCompletion op completion state talk).answered = talk.answered ∧
      ((noteCompletion op completion state talk).received = talk.received ∨
        ∃ size bytes, op.kind = .readPayload size ∧ completion = .done bytes ∧
          (noteCompletion op completion state talk).received =
            talk.received ++ [⟨talk.header ++ bytes, (RpcServerConnection.parsedRequest size bytes
              (state.connections op.conn).buf).map Request.getId⟩]) := by
  obtain ⟨conn, kind, status⟩ := op
  cases completion with
  | failed message bytes =>
      cases kind with
      | accept | write | readHeader | readPayload => exact ⟨rfl, .inl rfl⟩
  | done bytes =>
      cases kind with
      | accept | write | readHeader => exact ⟨rfl, .inl rfl⟩
      | readPayload size => exact ⟨rfl, .inr ⟨size, bytes, rfl, rfl, rfl⟩⟩

/-- What was seen of a connection when the handler of its operation has run. -/
theorem RecordKept.write {packet : Option (List UInt8)} (kept : RecordKept state record)
    (free : Free conn state) (bound : conn < state.nextConn)
    (ordered : (noteWrite packet (record conn)).answered <+:
      (record conn).received.map Arrival.id) :
    RecordKept state (Function.update record conn (noteWrite packet (record conn))) := by
  have received : (noteWrite packet (record conn)).received = (record conn).received := by
    cases packet with
    | none => rfl
    | some packet => rfl
  apply kept.update free bound
  · rw [received]
    exact ordered
  · rw [received]
    exact kept.genuine conn

theorem RecordKept.complete {completion : Completion} (kept : RecordKept state record)
    (seated : state.Seated) (completed : state.complete op completion = some next) :
    RecordKept next (Function.update record op.conn
      (noteCompletion op completion state (record op.conn))) := by
  obtain ⟨member, pending, whole, change, changed, rfl⟩ := complete_eq_some completed
  have told := kept.told op member
  obtain ⟨answered, received⟩ := noteCompletion_cases op completion state (record op.conn)
  have updated : RecordKept { state with ops := state.ops.erase op } (Function.update record op.conn
      (noteCompletion op completion state (record op.conn))) := by
    apply kept.erase.update (seated.free member) (seated.bounded op member)
    · rw [answered]
      apply (kept.ordered op.conn).trans
      rcases received with same | ⟨size, bytes, -, -, more⟩
      · rw [same]
      · rw [more, List.map_append]
        exact List.prefix_append _ _
    · rcases received with same | ⟨size, bytes, kind, done, more⟩
      · rw [same]
        exact kept.genuine op.conn
      · intro arrival arrived small
        rw [more] at arrived
        rcases List.mem_append.mp arrived with old | new
        · exact kept.genuine op.conn arrival old small
        · rw [List.mem_singleton.mp new] at small ⊢
          have framed := told.framed size kind
          have reads : op.kind.reads = true := by
            rw [kind]
            rfl
          have length := whole bytes done (by rw [kind]; nofun)
          rw [kind] at length
          rw [ofNetwork_append framed.length] at small
          exact RpcServerConnection.parsedRequest_of_framed framed (seated.sound op.conn)
            (seated.ready op member reads) length small
  have added : RecordKept { state with ops := state.ops.erase op ++ [{ op with status := .queued completion }] }
      (Function.update record op.conn (noteCompletion op completion state (record op.conn))) := by
    apply updated.add
    rw [Function.update_self]
    exact told.complete pending
  apply added.modifyConn
  · rcases changed with ⟨rfl, -⟩ | ⟨-, rfl⟩
    · rfl
    · rfl
  · rcases changed with ⟨rfl, -⟩ | ⟨-, rfl⟩
    · rfl
    · rfl

variable {Msg : Type} {services : Services Msg} {input : Input Msg} {completion : Completion}
  {changed : RpcServerConnection} {operation : Operation} {bytes : List UInt8}

omit [Protobuf] in
theorem serve_eq_ok {heap : Realloc} {before : RpcServerConnection}
    (served : RpcServerConnection.serve heap before = (changed, .ok operation)) :
    operation = .readHeader := by
  obtain ⟨_, _, -, ended⟩ := bind_eq_ok served
  cases ended
  rfl

theorem writes_eq (status : op.status = .queued completion) {result : Except Fault Operation}
    (ended : (ran services op completion input state).2 = result) :
    writes services op input state = written result := by
  simp only [writes, status, ended]

/-- The next header is read when every packet was answered. -/
theorem told_readHeader {status : OpStatus}
    (caughtUp : talk.answered = talk.received.map Arrival.id)
    (fresh : ∀ bytes, status ≠ .queued (.done bytes)) :
    Told talk changed ⟨conn, .readHeader, status⟩ :=
  ⟨fun bytes _ ended => absurd ended (fresh bytes), nofun, nofun, fun _ => caughtUp⟩

/-- What the handler of a completed operation leaves to be noted, and what it starts. -/
theorem Told.body [LawfulProtobuf] (told : Told talk (state.connections op.conn) op)
    (seated : state.Seated) (member : op ∈ state.ops) (done : op.status = .queued (.done bytes))
    (ended : body services op.kind bytes input (state.connections op.conn) =
      (changed, .ok operation)) :
    let noted := noteWrite (writes services op input state) talk
    noted.answered = talk.received.map Arrival.id ∧
      ∀ status, (∀ bytes, status ≠ .queued (.done bytes)) →
        Told noted changed ⟨op.conn, operation.kind, status⟩ := by
  have written := writes_eq done (show (ran services op (.done bytes) input state).2 =
    .ok operation from congrArg Prod.snd ended)
  have sound := seated.sound op.conn
  have ready := seated.ready op member
  have whole := seated.whole op member bytes
  obtain ⟨conn, kind, status⟩ := op
  simp only at done
  subst done
  cases kind with
  | accept =>
      obtain rfl := serve_eq_ok ended
      have caughtUp := told.caughtUp fun ⟨_, _, kind, _⟩ => by cases kind
      rw [written]
      exact ⟨caughtUp, fun status fresh => told_readHeader caughtUp fresh⟩
  | write packet =>
      obtain rfl := serve_eq_ok ended
      have caughtUp := told.caughtUp fun ⟨_, _, kind, _⟩ => by cases kind
      rw [written]
      exact ⟨caughtUp, fun status fresh => told_readHeader caughtUp fresh⟩
  | readHeader =>
      obtain ⟨size, rfl, framed⟩ :=
        RpcServerConnection.handleReadHeader_framed sound (ready rfl) (whole rfl rfl) ended
      have caughtUp := told.caughtUp fun ⟨_, _, kind, _⟩ => by cases kind
      have header := told.opened bytes rfl rfl
      rw [written]
      refine ⟨caughtUp, fun status fresh => ⟨nofun, ?_, ?_, fun _ => caughtUp⟩⟩
      · intro other kind
        obtain rfl := OpKind.readPayload.inj kind
        exact header ▸ framed
      · intro other payload _ ended
        exact absurd ended (fresh payload)
  | readPayload size =>
      obtain ⟨packet, rfl⟩ := RpcServerConnection.writes_handleReadPayload ended
      obtain ⟨earlier, last, received, answered⟩ := told.behind size bytes rfl rfl
      have id := RpcServerConnection.responseId_of_write sound ended
      have caughtUp : (noteWrite (some packet) talk).answered =
          talk.received.map Arrival.id := by
        simp only [noteWrite, received, answered, id, List.map_append, List.map_cons,
          List.map_nil]
      rw [written]
      exact ⟨caughtUp, fun status fresh => ⟨nofun, nofun, nofun, fun _ => caughtUp⟩⟩

theorem RecordKept.handle [LawfulProtobuf] (kept : RecordKept state record) (seated : state.Seated)
    (handled : state.handle services op input = some next) :
    RecordKept next (Function.update record op.conn
      (noteWrite (writes services op input state) (record op.conn))) := by
  obtain ⟨completion, status, member, invoked⟩ := handle_eq_some handled
  have free := seated.free member
  have bound := seated.bounded op member
  have told := kept.told op member
  have silent : ∀ fault, (ran services op completion input state).2 = .error fault →
      Function.update record op.conn
        (noteWrite (writes services op input state) (record op.conn)) = record := by
    intro fault ended
    rw [writes_eq status ended]
    exact Function.update_eq_self _ _
  have noted : ∀ {bytes changed operation}, completion = .done bytes →
      body services op.kind bytes input (state.connections op.conn) = (changed, .ok operation) →
      RecordKept { state with ops := state.ops.erase op } (Function.update record op.conn
          (noteWrite (writes services op input state) (record op.conn))) ∧
        ∀ other status, Except.ok operation = (.ok other : Except Fault Operation) →
          (∀ bytes, status ≠ .queued (.done bytes)) →
          Told (Function.update record op.conn
              (noteWrite (writes services op input state) (record op.conn)) op.conn)
            changed ⟨op.conn, other.kind, status⟩ := by
    intro bytes changed operation done ended
    obtain ⟨caughtUp, started⟩ := told.body seated member (done ▸ status) ended
    constructor
    · apply kept.erase.write free bound
      rw [caughtUp]
    · intro other status same fresh
      cases same
      rw [Function.update_self]
      exact started status fresh
  have failing : ∀ {message bytes}, completion = .failed message bytes →
      Function.update record op.conn
        (noteWrite (writes services op input state) (record op.conn)) = record := by
    intro message bytes failed
    rcases stopped : stored op.kind bytes (state.connections op.conn) with ⟨changed, result⟩
    have ended : (ran services op completion input state).2 = result := by
      subst failed
      exact congrArg Prod.snd stopped
    rcases stored_fault stopped with rfl | rfl
    · exact silent _ ended
    · exact silent _ ended
  cases invoked with
  | refused accept failed =>
      rw [failing failed]
      exact (kept.erase.useServer true).startAccept (seated.erase.useServer true)
  | @accepted bytes changed operation served accept done ran ended =>
      obtain ⟨updated, told⟩ := noted done (by rw [accept]; exact ran)
      have leaves : RpcServerConnection.Leaves
          (RpcServerConnection.serve input.turn.heap (state.connections op.conn)) :=
        RpcServerConnection.serve_leaves (seated.sound op.conn)
      apply RecordKept.startAccept
      · exact (updated.useServer true).ended free ended told
      · exact (seated.erase.useServer true).ended free bound (ran ▸ leaves) ended
  | @unserved bytes changed fault next accept done ran ended =>
      have stopped : (State.ran services op completion input state).2 = .error fault := by
        subst done
        rw [State.ran, accept]
        exact congrArg Prod.snd ran
      rw [silent fault stopped]
      exact (kept.erase.useServer true).ended free ended nofun
  | @failed message bytes changed result next other failed ran ended =>
      rw [failing failed]
      refine kept.erase.ended free ended ?_
      rcases stored_fault ran with rfl | rfl
      · exact nofun
      · exact nofun
  | @done bytes changed result used next other done looks ran ended =>
      cases result with
      | ok operation =>
          obtain ⟨updated, told⟩ := noted done ran
          exact (updated.useServer used).ended free ended told
      | error fault =>
          have stopped : (State.ran services op completion input state).2 = .error fault := by
            subst done
            exact congrArg Prod.snd ran
          rw [silent fault stopped]
          exact (kept.erase.useServer used).ended free ended nofun

theorem RecordKept.destroyServer (kept : RecordKept state record)
    (destroyed : state.destroyServer = some next) : RecordKept next record := by
  simp only [State.destroyServer] at destroyed
  split at destroyed
  · cases destroyed
    obtain ⟨connections, same, folded⟩ := foldl_frame state.conns.entries state
    have cleared : RecordKept { state with connections } record :=
      { told := fun op member =>
          (kept.told op member).of_same (same op.conn).1 (same op.conn).2 rfl (.inl rfl)
        unborn := kept.unborn
        ordered := kept.ordered
        genuine := kept.genuine }
    rw [folded]
    have aborted := cleared.abort fun op => op.kind = .accept
    exact ⟨aborted.told, aborted.unborn, aborted.ordered, aborted.genuine⟩
  · cases destroyed

end Steps

end State

end CarrotRpc.Server.Async
