import CarrotRpc.Client.RunInvariants
import CarrotRpc.Protob.WireFormat

/-! The bytes a server receives. As long as the socket takes the packets one after
the other it receives whole packets in some order and a part of one more. -/

set_option autoImplicit false

namespace CarrotRpc.Client

open Library Common Protob

variable {Msg : Type}

/-- An outstanding write of a request packet. -/
structure Writing where
  conn : ConnRef
  task : TaskRef
  packet : List UInt8
  sent : Nat
  pending : Bool

def Op.writing? (op : Op) : Option Writing :=
  match op.kind with
  | .write task packet sent => some ⟨op.conn, task, packet, sent, op.status = .pending⟩
  | _ => none

namespace State

def writings (state : State Msg) : List Writing :=
  state.ops.filterMap Op.writing?

def packet (state : State Msg) (task : TaskRef) : List UInt8 :=
  (state.tasks task).packet

/-- The bytes of a packet that was accepted only in part. -/
def partly (state : State Msg) (conn : ConnRef) (count : Nat) : List UInt8 :=
  ((state.connections conn).socket.inside.elim [] state.packet).take count

/-- The packet of the task was sent on the connection. -/
structure SentOn (state : State Msg) (conn : ConnRef) (task : TaskRef) : Prop where
  bound : task < state.nextTask
  conn_eq : (state.tasks task).conn = conn
  writes : (state.tasks task).writes = 1

end State

/-- The socket of a connection accepted the packets of its finished calls and the
first `count` bytes of the one it is inside of. -/
structure Stream (state : State Msg) (conn : ConnRef) (count : Nat) : Prop where
  nodup : (state.connections conn).socket.finished.Nodup
  finished : ∀ task ∈ (state.connections conn).socket.finished, state.SentOn conn task
  inside : ∀ task, (state.connections conn).socket.inside = some task →
    state.SentOn conn task ∧ task ∉ (state.connections conn).socket.finished
  delivered : (state.connections conn).socket.delivered =
    (state.connections conn).socket.finished.flatMap state.packet ++ state.partly conn count
  writing : ∀ writing ∈ state.writings, writing.conn = conn → writing.pending = true →
    writing.task ∉ (state.connections conn).socket.finished ∧
      writing.sent =
        if (state.connections conn).socket.inside = some writing.task then count else 0

structure Streams (state : State Msg) : Prop where
  sent : ∀ writing ∈ state.writings,
    state.SentOn writing.conn writing.task ∧ state.packet writing.task = writing.packet
  unique : (state.writings.map Writing.task).Nodup
  streams : ∀ conn, ∃ count, Stream state conn count

/-- What is delivered is always a prefix of whole packets of different calls. -/
def WellFramed (state : State Msg) (conn : ConnRef) : Prop :=
  ∃ order : List TaskRef, order.Nodup ∧ (∀ task ∈ order, state.SentOn conn task) ∧
    (state.connections conn).socket.delivered <+: order.flatMap state.packet

/-- Bytes are accepted only of the packet the socket is inside of, if it is inside
of one. -/
def FinishesPackets (state : State Msg) : Label Msg → Prop
  | .writeSome op _ =>
      ∀ task ∈ (state.connections op.conn).socket.inside, op.kind.role.task? = some task
  | .callMethod _ _ | .complete _ _ | .handle _ _ => True

instance (state : State Msg) (label : Label Msg) : Decidable (FinishesPackets state label) :=
  match label with
  | .callMethod _ _ | .complete _ _ | .handle _ _ => .isTrue trivial
  | .writeSome op _ =>
      match inside : (state.connections op.conn).socket.inside with
      | none => .isTrue fun task member => by rw [inside] at member; cases member
      | some task =>
          decidable_of_iff (op.kind.role.task? = some task)
            ⟨fun same other member => by rw [inside] at member; cases member; exact same,
              fun order => order task inside⟩

theorem Stream.wellFramed {state : State Msg} {conn : ConnRef} {count : Nat}
    (stream : Stream state conn count) : WellFramed state conn := by
  cases inside : (state.connections conn).socket.inside with
  | none =>
      refine ⟨_, stream.nodup, stream.finished, ?_⟩
      rw [stream.delivered]
      simp [State.partly, inside]
  | some task =>
      obtain ⟨sent, fresh⟩ := stream.inside task inside
      refine ⟨(state.connections conn).socket.finished ++ [task], ?_, ?_, ?_⟩
      · refine List.nodup_append.mpr ⟨stream.nodup, List.nodup_singleton task, ?_⟩
        rintro other member last single rfl
        exact fresh (List.mem_singleton.mp single ▸ member)
      · intro other member
        rcases List.mem_append.mp member with member | member
        · exact stream.finished other member
        · rw [List.mem_singleton.mp member]
          exact sent
      · rw [stream.delivered, List.flatMap_append]
        refine (List.prefix_append_right_inj _).mpr ?_
        simpa [State.partly, inside] using List.take_prefix count (state.packet task)

/-- The socket is the same, or one that accepted nothing and is not written to. -/
def SocketKept (state next : State Msg) (conn : ConnRef) : Prop :=
  ((next.connections conn).socket.delivered = (state.connections conn).socket.delivered ∧
      (next.connections conn).socket.finished = (state.connections conn).socket.finished ∧
      (next.connections conn).socket.inside = (state.connections conn).socket.inside) ∨
    ((next.connections conn).socket.delivered = [] ∧
      (next.connections conn).socket.finished = [] ∧
      (next.connections conn).socket.inside = none ∧
      ∀ writing ∈ next.writings, writing.conn = conn → writing.pending = false)

theorem SocketKept.of_same {state next : State Msg} {conn : ConnRef}
    (same : (next.connections conn).socket = (state.connections conn).socket) :
    SocketKept state next conn := by
  rw [SocketKept, same]
  exact .inl ⟨rfl, rfl, rfl⟩

/-- Outstanding writes are earlier ones, some of which may have ended. -/
structure WritingsKept (state next : State Msg) : Prop where
  earlier : ∀ writing ∈ next.writings, ∃ old ∈ state.writings, old.conn = writing.conn ∧
    old.task = writing.task ∧ old.packet = writing.packet ∧ old.sent = writing.sent ∧
    (writing.pending = true → old.pending = true)
  unique : (state.writings.map Writing.task).Nodup → (next.writings.map Writing.task).Nodup

theorem WritingsKept.of_sublist {state next : State Msg}
    (sublist : next.writings.Sublist state.writings) : WritingsKept state next where
  earlier := fun writing member => ⟨writing, sublist.subset member, rfl, rfl, rfl, rfl, id⟩
  unique := fun nodup => nodup.sublist (sublist.map _)

theorem WritingsKept.of_ended {state next : State Msg} {ended : Writing → Bool}
    (writings : next.writings = state.writings.map fun writing =>
      { writing with pending := writing.pending && !ended writing }) :
    WritingsKept state next where
  earlier := by
    intro writing member
    rw [writings] at member
    obtain ⟨old, present, rfl⟩ := List.mem_map.mp member
    exact ⟨old, present, rfl, rfl, rfl, rfl, fun pending => (Bool.and_eq_true_iff.mp pending).1⟩
  unique := by
    intro nodup
    rw [writings, List.map_map]
    exact nodup

/-- Nothing that streams are about changed, except that writes may have ended and
sockets may have been replaced. -/
theorem Streams.same {state next : State Msg} (streams : Streams state)
    (count : state.nextTask ≤ next.nextTask)
    (tasks : ∀ task < state.nextTask, (next.tasks task).conn = (state.tasks task).conn ∧
      (next.tasks task).writes = (state.tasks task).writes ∧
      (next.tasks task).packet = (state.tasks task).packet)
    (sockets : ∀ conn, SocketKept state next conn)
    (writings : WritingsKept state next) : Streams next := by
  have sentOn : ∀ {conn task}, state.SentOn conn task → next.SentOn conn task := by
    intro conn task sent
    obtain ⟨sameConn, sameWrites, _⟩ := tasks task sent.bound
    exact ⟨Nat.lt_of_lt_of_le sent.bound count, sameConn.trans sent.conn_eq,
      sameWrites.trans sent.writes⟩
  have packet : ∀ {conn task}, state.SentOn conn task →
      next.packet task = state.packet task :=
    fun sent => (tasks _ sent.bound).2.2
  refine ⟨?_, ?_, fun conn => ?_⟩
  · intro writing member
    obtain ⟨old, present, sameConn, sameTask, samePacket, _⟩ := writings.earlier writing member
    obtain ⟨sent, same⟩ := streams.sent old present
    rw [← sameConn, ← sameTask, ← samePacket]
    exact ⟨sentOn sent, (packet sent).trans same⟩
  · exact writings.unique streams.unique
  · rcases sockets conn with
      ⟨sameDelivered, sameFinished, sameInside⟩ | ⟨delivered, finished, inside, quiet⟩
    · obtain ⟨accepted, stream⟩ := streams.streams conn
      refine ⟨accepted, ?_, ?_, ?_, ?_, ?_⟩
      · rw [sameFinished]
        exact stream.nodup
      · rw [sameFinished]
        exact fun task member => sentOn (stream.finished task member)
      · rw [sameFinished, sameInside]
        exact fun task inside => (stream.inside task inside).imp_left sentOn
      · have finished : (state.connections conn).socket.finished.flatMap next.packet =
            (state.connections conn).socket.finished.flatMap state.packet :=
          List.flatMap_congr fun task member => packet (stream.finished task member)
        have partly : next.partly conn accepted = state.partly conn accepted := by
          simp only [State.partly, sameInside]
          cases inside : (state.connections conn).socket.inside with
          | none => rfl
          | some task => simp [packet (stream.inside task inside).1]
        rw [sameDelivered, sameFinished, finished, partly]
        exact stream.delivered
      · intro writing member sameConn pending
        obtain ⟨old, present, oldConn, sameTask, _, sameSent, waits⟩ :=
          writings.earlier writing member
        rw [sameFinished, sameInside, ← sameTask, ← sameSent]
        exact stream.writing old present (oldConn.trans sameConn) (waits pending)
    · refine ⟨0, ?_, ?_, ?_, ?_, ?_⟩
      · simp [finished]
      · simp [finished]
      · simp [inside]
      · simp [State.partly, delivered, finished, inside]
      · intro writing member sameConn pending
        cases (quiet writing member sameConn).symm.trans pending

namespace State

variable (state : State Msg)

theorem writing_abort (op : Op) :
    (abort op).writing? = op.writing?.map fun writing => { writing with pending := false } := by
  obtain ⟨conn, kind, status⟩ := op
  cases status with
  | pending => cases kind <;> rfl
  | queued error => cases kind <;> simp [abort, Op.writing?]

theorem writings_cancel {selected : Op → Bool} {ended : Writing → Bool}
    (agree : ∀ op writing, op.writing? = some writing → selected op = ended writing) :
    (state.cancel selected).writings = state.writings.map fun writing =>
      { writing with pending := writing.pending && !ended writing } := by
  simp only [writings, cancel, List.filterMap_map, List.map_filterMap]
  refine List.filterMap_congr fun op _ => ?_
  cases found : op.writing? with
  | none =>
      simp only [Function.comp_apply, Option.map_none]
      split
      · rw [writing_abort, found]
        rfl
      · exact found
  | some writing =>
      simp only [Function.comp_apply, Option.map_some, ← agree op writing found]
      split
      · next chosen => simp [writing_abort, found, chosen]
      · next spared => simp [found, spared]

/-- Cancelling timers or resolves ends no write. -/
theorem writings_cancel_none {selected : Op → Bool}
    (spares : ∀ op, selected op = true → op.writing? = none) :
    (state.cancel selected).writings = state.writings := by
  have none : ∀ op writing, op.writing? = some writing → selected op = false := by
    intro op writing found
    cases chosen : selected op with
    | false => rfl
    | true => cases (spares op chosen).symm.trans found
  rw [writings_cancel state none]
  simp

theorem writings_cancelTimer (task : TaskRef) :
    (state.cancelTimer task).writings = state.writings := by
  refine writings_cancel_none state fun op chosen => ?_
  simp only [decide_eq_true_eq] at chosen
  simp [Op.writing?, chosen]

theorem writings_cancelResolver (conn : ConnRef) :
    (state.cancelResolver conn).writings = state.writings := by
  refine writings_cancel_none state fun op chosen => ?_
  obtain ⟨opConn, kind, status⟩ := op
  cases kind <;> simp_all [OpKind.isResolve, Op.writing?]

theorem writings_start {op : Op} (other : op.writing? = none) :
    (state.start op).writings = state.writings := by
  simp [writings, start, other]

theorem writings_startWrite (conn : ConnRef) (task : TaskRef) (packet : List UInt8) :
    (state.startOnSocket conn (.write task packet 0)).writings = state.writings ++
      [⟨conn, task, packet, 0, (state.connections conn).socket.isOpen⟩] := by
  cases isOpen : (state.connections conn).socket.isOpen <;>
    simp [startOnSocket, start, writings, Op.writing?, isOpen]

theorem writings_closeSocket (conn : ConnRef) :
    (state.closeSocket conn).writings = state.writings.map fun writing =>
      { writing with pending := writing.pending && !decide (writing.conn = conn) } := by
  refine writings_cancel state fun op writing found => ?_
  obtain ⟨opConn, kind, status⟩ := op
  cases kind with
  | write task packet sent =>
      cases found
      simp [OpKind.usesSocket]
  | resolve | connect | readHeader | readPayload | timer => cases found

end State

theorem Streams.unchanged {state next : State Msg} (streams : Streams state)
    (count : next.nextTask = state.nextTask) (tasks : next.tasks = state.tasks)
    (sockets : ∀ conn, (next.connections conn).socket = (state.connections conn).socket)
    (writings : next.writings = state.writings) : Streams next := by
  refine streams.same (Nat.le_of_eq count.symm) ?_ ?_ (.of_sublist ?_)
  · intro task _
    rw [tasks]
    exact ⟨rfl, rfl, rfl⟩
  · exact fun conn => .of_same (sockets conn)
  · simp [writings]

theorem Streams.modifyTask {state : State Msg} {task : TaskRef}
    {change : CallTask Msg → CallTask Msg} (streams : Streams state)
    (conn : (change (state.tasks task)).conn = (state.tasks task).conn)
    (writes : (change (state.tasks task)).writes = (state.tasks task).writes)
    (packet : (change (state.tasks task)).packet = (state.tasks task).packet) :
    Streams (state.modifyTask task change) := by
  refine streams.same (Nat.le_refl _) ?_ (fun _ => .of_same rfl) (.of_sublist ?_)
  · intro other _
    rw [State.tasks_modifyTask]
    split
    · next same =>
        rw [same]
        exact ⟨conn, writes, packet⟩
    · exact ⟨rfl, rfl, rfl⟩
  · simp [State.writings, State.modifyTask]

theorem Streams.modifyConn {state : State Msg} {conn : ConnRef}
    {change : RpcClientConnection → RpcClientConnection} (streams : Streams state)
    (socket : (change (state.connections conn)).socket = (state.connections conn).socket) :
    Streams (state.modifyConn conn change) := by
  refine streams.unchanged rfl rfl (fun other => ?_) rfl
  rw [State.connections_modifyConn]
  split
  · next same => exact same ▸ socket
  · rfl

/-- The packet of a task that was not sent before is put behind all writes. -/
theorem Streams.send {state : State Msg} {task : TaskRef} {packet : List UInt8}
    (streams : Streams state) (bound : task < state.nextTask)
    (unwritten : (state.tasks task).writes = 0) : Streams (state.sendPacket task packet) := by
  have unsent : ∀ conn, ¬ state.SentOn conn task := by
    intro conn sent
    cases unwritten.symm.trans sent.writes
  have sentOn : ∀ {conn other}, state.SentOn conn other →
      (state.sendPacket task packet).SentOn conn other ∧
        (state.sendPacket task packet).packet other = state.packet other := by
    intro conn other sent
    have different : other ≠ task := by
      rintro rfl
      exact unsent conn sent
    have same : (state.sendPacket task packet).tasks other = state.tasks other := by
      rw [State.tasks_sendPacket, if_neg different]
    exact ⟨⟨sent.bound, same ▸ sent.conn_eq, same ▸ sent.writes⟩,
      congrArg CallTask.packet same⟩
  have socket : ∀ conn, ((state.sendPacket task packet).connections conn).socket =
      (state.connections conn).socket := by
    intro conn
    simp only [State.sendPacket, State.startOnSocket, State.connections_start,
      State.connections_modifyTask, State.connections_modifyConn]
    split
    · next same => rw [same]
    · rfl
  obtain ⟨pending, writings⟩ : ∃ pending, (state.sendPacket task packet).writings =
      state.writings ++ [⟨(state.tasks task).conn, task, packet, 0, pending⟩] := by
    exact ⟨_, State.writings_startWrite _ _ _ _⟩
  have new : (state.sendPacket task packet).tasks task =
      { state.tasks task with
        state := .writeToServer
        writes := (state.tasks task).writes + 1
        packet := packet } := by
    rw [State.tasks_sendPacket, if_pos rfl]
  refine ⟨?_, ?_, fun conn => ?_⟩
  · intro writing member
    rw [writings] at member
    rcases List.mem_append.mp member with old | last
    · obtain ⟨sent, same⟩ := streams.sent writing old
      exact ⟨(sentOn sent).1, (sentOn sent).2.trans same⟩
    · rw [List.mem_singleton.mp last]
      refine ⟨⟨bound, ?_, ?_⟩, congrArg CallTask.packet new⟩
      · rw [new]
      · rw [new, unwritten]
  · rw [writings, List.map_append]
    refine List.nodup_append.mpr ⟨streams.unique, List.nodup_singleton task, ?_⟩
    rintro _ member last single rfl
    obtain ⟨writing, old, same⟩ := List.mem_map.mp member
    rw [List.mem_singleton.mp single] at same
    exact unsent _ (same ▸ (streams.sent writing old).1)
  · obtain ⟨count, stream⟩ := streams.streams conn
    have finished : (state.connections conn).socket.finished.flatMap
          (state.sendPacket task packet).packet =
        (state.connections conn).socket.finished.flatMap state.packet :=
      List.flatMap_congr fun other member => (sentOn (stream.finished other member)).2
    have partly : (state.sendPacket task packet).partly conn count =
        state.partly conn count := by
      simp only [State.partly, socket]
      cases inside : (state.connections conn).socket.inside with
      | none => rfl
      | some other => simp [(sentOn (stream.inside other inside).1).2]
    refine ⟨count, ?_, ?_, ?_, ?_, ?_⟩
    · rw [socket]
      exact stream.nodup
    · rw [socket]
      exact fun other member => (sentOn (stream.finished other member)).1
    · rw [socket]
      exact fun other inside => (stream.inside other inside).imp_left fun sent => (sentOn sent).1
    · rw [socket, finished, partly]
      exact stream.delivered
    · intro writing member sameConn waits
      rw [socket]
      rw [writings] at member
      rcases List.mem_append.mp member with old | last
      · exact stream.writing writing old sameConn waits
      · rw [List.mem_singleton.mp last]
        refine ⟨fun member => unsent conn (stream.finished task member), ?_⟩
        have outside : (state.connections conn).socket.inside ≠ some task :=
          fun inside => unsent conn (stream.inside task inside).1
        rw [if_neg outside]

/-- A socket that is opened anew has accepted nothing, and the writes on the old one
were aborted. -/
theorem Streams.asyncConnect {state : State Msg} {task : TaskRef} {conn : ConnRef}
    (streams : Streams state) : Streams (state.asyncConnect conn task) := by
  have writings : (state.asyncConnect conn task).writings = (state.closeSocket conn).writings :=
    State.writings_start _ rfl
  rw [State.writings_closeSocket] at writings
  refine streams.same (Nat.le_refl _) (fun _ _ => ⟨rfl, rfl, rfl⟩) (fun other => ?_)
    (.of_ended writings)
  · by_cases same : other = conn
    · subst same
      have socket : ((state.asyncConnect other task).connections other).socket =
          { isOpen := true
            session := ((state.closeSocket other).connections other).socket.session + 1 } := by
        simp [State.asyncConnect, State.openSocket]
      refine .inr ⟨by rw [socket], by rw [socket], by rw [socket], ?_⟩
      intro writing member sameConn
      rw [writings] at member
      obtain ⟨old, _, rfl⟩ := List.mem_map.mp member
      have equal : old.conn = other := sameConn
      simp [equal]
    · have socket : (state.asyncConnect conn task).connections other =
          state.connections other := by
        simp [State.asyncConnect, State.openSocket, State.closeSocket, State.cancel, same]
      exact .of_same (congrArg RpcClientConnection.socket socket)

/-- The stream of a socket that accepted `count` more bytes of the packet of a task. -/
theorem Stream.accept {state next : State Msg} {conn : ConnRef} {task : TaskRef}
    {packet : List UInt8} {sent count accepted : Nat} {rest : List Writing}
    (stream : Stream state conn accepted)
    (order : ∀ other ∈ (state.connections conn).socket.inside, task = other)
    (sentOn : state.SentOn conn task) (same : state.packet task = packet)
    (member : ⟨conn, task, packet, sent, true⟩ ∈ state.writings)
    (others : ∀ writing ∈ rest, writing ∈ state.writings ∧ writing.task ≠ task)
    (sentNext : ∀ {other}, state.SentOn conn other → next.SentOn conn other)
    (packets : next.packet = state.packet)
    (socket : (next.connections conn).socket =
      State.accept task packet sent count (state.connections conn).socket)
    (writings : next.writings = rest ++ [⟨conn, task, packet, sent + count,
      decide (sent + count ≠ packet.length)⟩]) :
    ∃ now, Stream next conn now := by
  obtain ⟨fresh, sent_eq⟩ := stream.writing _ member rfl rfl
  have delivered : (state.connections conn).socket.delivered =
      (state.connections conn).socket.finished.flatMap state.packet ++ packet.take sent := by
    rw [stream.delivered, State.partly]
    cases inside : (state.connections conn).socket.inside with
    | none => simp [inside] at sent_eq; simp [sent_eq]
    | some other =>
        cases order other inside
        simp [inside] at sent_eq
        simp [sent_eq, same]
  have apart : ∀ writing ∈ rest, writing.conn = conn → writing.pending = true →
      writing.task ∉ (state.connections conn).socket.finished ∧ writing.sent = 0 := by
    intro writing present sameConn waits
    obtain ⟨old, different⟩ := others writing present
    obtain ⟨absent, zero⟩ := stream.writing writing old sameConn waits
    refine ⟨absent, zero.trans (if_neg fun inside => ?_)⟩
    exact different (order _ inside).symm
  have grown : (state.connections conn).socket.delivered ++ (packet.drop sent).take count =
      (state.connections conn).socket.finished.flatMap state.packet ++
        packet.take (sent + count) := by
    rw [delivered, List.append_assoc, ← List.take_add]
  by_cases whole : sent + count = packet.length
  · refine ⟨0, ?_, ?_, ?_, ?_, ?_⟩
    · rw [socket]
      simp only [State.accept, whole, if_true]
      refine List.nodup_append.mpr ⟨stream.nodup, List.nodup_singleton task, ?_⟩
      rintro other finished last single rfl
      exact fresh (List.mem_singleton.mp single ▸ finished)
    · rw [socket]
      simp only [State.accept, whole, if_true]
      intro other finished
      rcases List.mem_append.mp finished with old | last
      · exact sentNext (stream.finished other old)
      · rw [List.mem_singleton.mp last]
        exact sentNext sentOn
    · rw [socket]
      simp [State.accept, whole]
    · rw [State.partly, socket, packets]
      simp only [State.accept, whole, if_true, Option.elim_none, List.take_nil,
        List.append_nil, List.flatMap_append, List.flatMap_cons, List.flatMap_nil]
      rw [grown, whole, List.take_length, same]
    · intro writing present sameConn waits
      rw [socket]
      simp only [State.accept, whole, if_true]
      rw [writings] at present
      rcases List.mem_append.mp present with old | last
      · obtain ⟨absent, zero⟩ := apart writing old sameConn waits
        refine ⟨fun finished => ?_, by simp [zero]⟩
        rcases List.mem_append.mp finished with old' | last
        · exact absent old'
        · exact (others writing old).2 (List.mem_singleton.mp last)
      · rw [List.mem_singleton.mp last] at waits
        exact absurd whole (of_decide_eq_true waits)
  · refine ⟨sent + count, ?_, ?_, ?_, ?_, ?_⟩
    · rw [socket]
      simpa only [State.accept, whole, if_false] using stream.nodup
    · rw [socket]
      simp only [State.accept, whole, if_false]
      exact fun other finished => sentNext (stream.finished other finished)
    · rw [socket]
      simp only [State.accept, whole, if_false, Option.some.injEq]
      rintro _ rfl
      exact ⟨sentNext sentOn, fresh⟩
    · rw [State.partly, socket, packets]
      simp only [State.accept, whole, if_false, Option.elim_some]
      rw [grown, same]
    · intro writing present sameConn waits
      rw [socket]
      simp only [State.accept, whole, if_false, Option.some.injEq]
      rw [writings] at present
      rcases List.mem_append.mp present with old | last
      · obtain ⟨absent, zero⟩ := apart writing old sameConn waits
        exact ⟨absent, zero.trans (if_neg (Ne.symm (others writing old).2)).symm⟩
      · rw [List.mem_singleton.mp last]
        exact ⟨fresh, (if_pos rfl).symm⟩

/-- The socket accepts more of the packet it is inside of, or of any packet when it
is inside of none. -/
theorem Streams.writeSome {state next : State Msg} {op : Op} {count : Nat}
    (streams : Streams state) (order : FinishesPackets state (.writeSome op count))
    (written : state.writeSome op count = some next) : Streams next := by
  obtain ⟨task, packet, sent, kind, member, pending, _, _, _, rfl⟩ := writeSome_eq_some written
  obtain ⟨conn, opKind, status⟩ := op
  cases kind
  cases pending
  let ended : OpStatus := if sent + count = packet.length then .queued none else .pending
  let rest := (state.dequeue ⟨conn, .write task packet sent, .pending⟩).writings
  have before : state.writings.Perm (⟨conn, task, packet, sent, true⟩ :: rest) :=
    (List.perm_cons_erase member).filterMap Op.writing?
  generalize after : (state.replaceOp ⟨conn, .write task packet sent, .pending⟩
    ⟨conn, .write task packet (sent + count), ended⟩).modifyConn conn (fun connection =>
      { connection with
        socket := State.accept task packet sent count connection.socket }) = next
  have writings : next.writings =
      rest ++ [⟨conn, task, packet, sent + count, decide (sent + count ≠ packet.length)⟩] := by
    rw [← after]
    by_cases whole : sent + count = packet.length <;>
      simp [State.writings, State.replaceOp, State.modifyConn, rest, State.dequeue, Op.writing?,
        ended, whole]
  have others : ∀ writing ∈ rest, writing ∈ state.writings ∧ writing.task ≠ task := by
    intro writing present
    have nodup := (before.map Writing.task).nodup_iff.mp streams.unique
    have absent := (List.nodup_cons.mp nodup).1
    refine ⟨before.mem_iff.mpr (List.mem_cons_of_mem _ present), fun same => ?_⟩
    have listed : writing.task ∈ rest.map Writing.task := List.mem_map_of_mem present
    exact absent (same ▸ listed)
  obtain ⟨sentOn, same⟩ := streams.sent _ (before.mem_iff.mpr List.mem_cons_self)
  have sentNext : ∀ {other writer}, state.SentOn other writer → next.SentOn other writer := by
    subst after
    exact fun sent => ⟨sent.1, sent.2, sent.3⟩
  have packets : next.packet = state.packet := by
    subst after
    rfl
  have away : ∀ other, other ≠ conn → next.connections other = state.connections other := by
    intro other different
    rw [← after, State.connections_modifyConn, if_neg different]
    rfl
  have socket : (next.connections conn).socket =
      State.accept task packet sent count (state.connections conn).socket := by
    rw [← after, State.connections_modifyConn, if_pos rfl]
    rfl
  refine ⟨?_, ?_, fun other => ?_⟩
  · intro writing present
    rw [writings] at present
    rcases List.mem_append.mp present with old | last
    · obtain ⟨sentOld, sameOld⟩ := streams.sent writing (others writing old).1
      exact ⟨sentNext sentOld, packets ▸ sameOld⟩
    · rw [List.mem_singleton.mp last]
      exact ⟨sentNext sentOn, packets ▸ same⟩
  · have perm : (next.writings.map Writing.task).Perm (state.writings.map Writing.task) := by
      rw [writings, List.map_append]
      exact List.perm_append_comm.trans (before.map Writing.task).symm
    exact perm.nodup_iff.mpr streams.unique
  · obtain ⟨accepted, stream⟩ := streams.streams other
    by_cases here : other = conn
    · subst here
      exact stream.accept (fun writer inside => Option.some.inj (order writer inside)) sentOn
        same (before.mem_iff.mpr List.mem_cons_self) others sentNext packets socket writings
    · have elsewhere := away other here
      refine ⟨accepted, ?_, ?_, ?_, ?_, ?_⟩
      · rw [elsewhere]
        exact stream.nodup
      · rw [elsewhere]
        exact fun writer member => sentNext (stream.finished writer member)
      · rw [elsewhere]
        exact fun writer inside => (stream.inside writer inside).imp_left sentNext
      · rw [State.partly, elsewhere, packets]
        exact stream.delivered
      · intro writing present sameConn waits
        rw [elsewhere]
        rw [writings] at present
        rcases List.mem_append.mp present with old | last
        · exact stream.writing writing (others writing old).1 sameConn waits
        · rw [List.mem_singleton.mp last] at sameConn
          exact absurd sameConn.symm here

section Steps

variable {careful : Prop} {before after : Duty × State Msg}

theorem OpKind.writing?_of_read {op : Op} (reads : op.kind.role = .read) :
    op.writing? = none := by
  obtain ⟨conn, kind, status⟩ := op
  cases kind with
  | readHeader | readPayload => rfl
  | resolve | connect | write | timer => cases reads

theorem Streams.callStep (base : Base careful before) (streams : Streams before.2)
    (step : CallStep careful before after) : Streams after.2 := by
  cases step with
  | drop => exact streams
  | hang => exact streams.unchanged rfl rfl (fun _ => rfl) rfl
  | borrow fresh =>
      simp only [State.borrow]
      exact streams.modifyTask rfl rfl rfl
  | beginDone bound fresh unlisted =>
      simp only [State.beginDone]
      exact streams.modifyTask rfl rfl rfl
  | endDone =>
      simp only [State.endDone]
      exact streams.modifyTask rfl rfl rfl
  | @note duty state task change keeps =>
      have fields : ∀ {Field : Type} (field : CallTask Msg → Field),
          (∀ record, field record.core = field record) →
          field (change (state.tasks task)) = field (state.tasks task) := by
        intro Field field core
        rw [← core, keeps, core]
      exact streams.modifyTask (fields CallTask.conn fun _ => rfl)
        (fields CallTask.writes fun _ => rfl) (fields CallTask.packet fun _ => rfl)
  | @noteConn duty state conn change keeps =>
      refine streams.modifyConn ?_
      calc
        (change (state.connections conn)).socket =
            (change (state.connections conn)).core.socket := rfl
        _ = (state.connections conn).core.socket := congrArg RpcClientConnection.socket keeps
        _ = (state.connections conn).socket := rfl
  | cancelTimer =>
      exact streams.unchanged rfl rfl (fun _ => rfl) (State.writings_cancelTimer _ _)
  | startTimer bound =>
      exact streams.unchanged rfl rfl (fun _ => rfl) (State.writings_start _ rfl)
  | startResolve bound unsent =>
      exact streams.unchanged rfl rfl (fun _ => rfl) (State.writings_start _ rfl)
  | @openConnection duty state host service fresh =>
      refine streams.same (Nat.le_refl _) (fun _ _ => ⟨rfl, rfl, rfl⟩) (fun conn => ?_)
        (.of_sublist ?_)
      · by_cases new : conn = state.nextConn
        · subst new
          have created : (state.openConnection host service).connections state.nextConn =
              { host, service } := Function.update_self _ _ _
          rw [SocketKept, created]
          refine .inr ⟨rfl, rfl, rfl, fun writing member sameConn => ?_⟩
          -- operations are about connections that exist already
          have known := base.sound.conn_lt writing.task (streams.sent writing member).1.bound
          have same : (state.tasks writing.task).conn = writing.conn :=
            (streams.sent writing member).1.conn_eq
          exact absurd (same.trans sameConn) (Nat.ne_of_lt known)
        · have same : (state.openConnection host service).connections conn =
              state.connections conn := Function.update_of_ne new _ _
          exact .of_same (congrArg RpcClientConnection.socket same)
      · simp [State.writings, State.openConnection]
  | @newTask hand serving running doomed state conn call done known tame =>
      refine streams.same (Nat.le_succ _) ?_ ?_ (.of_sublist ?_)
      · intro task bound
        rw [State.tasks_newTask_of_ne (Nat.ne_of_lt bound)]
        exact ⟨rfl, rfl, rfl⟩
      · intro other
        refine .of_same ?_
        simp only [State.newTask, State.connections_modifyConn]
        split
        · next same => rw [same]
        · rfl
      · simp [State.writings, State.newTask, State.modifyConn]
  | send bound unsent fresh active sized => exact streams.send bound unsent.2

theorem Streams.handlerStep (base : Base careful before) (streams : Streams before.2)
    (step : HandlerStep careful before after) : Streams after.2 := by
  cases step with
  | call step => exact streams.callStep base step
  | assume | release => exact streams
  | hang => exact streams.unchanged rfl rfl (fun _ => rfl) rfl
  | cancelResolver =>
      exact streams.unchanged rfl rfl (fun _ => rfl) (State.writings_cancelResolver _ _)
  | @close duty state conn =>
      refine streams.same (Nat.le_refl _) (fun _ _ => ⟨rfl, rfl, rfl⟩) (fun other => ?_)
        (.of_ended (State.writings_closeSocket _ _))
      · unfold SocketKept State.closeSocket
        rw [State.connections_modifyConn]
        split
        · next same =>
            rw [same]
            exact .inl ⟨rfl, rfl, rfl⟩
        · exact .inl ⟨rfl, rfl, rfl⟩
  | connect bound unsent => exact streams.asyncConnect
  | read reads known =>
      exact streams.unchanged rfl rfl (fun _ => rfl)
        (State.writings_start _ (OpKind.writing?_of_read reads))
  | erase bound =>
      simp only [State.eraseOutgoing]
      exact streams.modifyConn rfl
  | clear ran =>
      simp only [State.clearOutgoing]
      exact streams.modifyConn rfl

end Steps

theorem Streams.complete {state next : State Msg} {op : Op} {error : Option SystemError}
    (streams : Streams state) (completed : state.complete op error = some next) :
    Streams next := by
  obtain ⟨member, _, change, changes, rfl⟩ := complete_eq_some completed
  have before : state.writings.Perm ((op :: state.ops.erase op).filterMap Op.writing?) :=
    (List.perm_cons_erase member).filterMap Op.writing?
  generalize written :
    (state.replaceOp op { op with status := .queued error }).modifyConn op.conn change = next
  have after : next.writings.Perm
      (({ op with status := .queued error } :: state.ops.erase op).filterMap Op.writing?) := by
    subst written
    exact List.perm_append_comm.filterMap Op.writing?
  have ended : ({ op with status := .queued error } : Op).writing? =
      op.writing?.map fun writing => { writing with pending := false } := by
    obtain ⟨conn, kind, status⟩ := op
    cases kind <;> simp [Op.writing?]
  have kept : WritingsKept state next := by
    rw [List.filterMap_cons] at before after
    rw [ended] at after
    cases found : op.writing? with
    | none =>
        rw [found] at before after
        have perm := after.trans before.symm
        exact ⟨fun writing present => ⟨writing, perm.subset present, rfl, rfl, rfl, rfl, id⟩,
          ((perm.map _).nodup_iff).mpr⟩
    | some writing =>
        rw [found] at before after
        have tasks : (next.writings.map Writing.task).Perm (state.writings.map Writing.task) :=
          (after.map _).trans (before.map Writing.task).symm
        refine ⟨fun other present => ?_, tasks.nodup_iff.mpr⟩
        rcases List.mem_cons.mp (after.subset present) with rfl | rest
        · exact ⟨writing, before.mem_iff.mpr List.mem_cons_self, rfl, rfl, rfl, rfl, nofun⟩
        · exact ⟨other, before.mem_iff.mpr (List.mem_cons_of_mem _ rest), rfl, rfl, rfl, rfl, id⟩
  subst written
  refine streams.same (Nat.le_refl _) (fun _ _ => ⟨rfl, rfl, rfl⟩) (fun other => ?_) kept
  unfold SocketKept
  rw [State.connections_modifyConn]
  split
  · next same =>
      rw [same]
      rcases changes with rfl | ⟨_, _, rfl⟩ <;> exact .inl ⟨rfl, rfl, rfl⟩
  · exact .inl ⟨rfl, rfl, rfl⟩

theorem Streams.initial [Inhabited Msg] [Protobuf] : Streams (channel Msg).initial where
  sent := nofun
  unique := .nil
  streams := fun _ => ⟨0, .nil, nofun, nofun, rfl, nofun⟩

section Runs

variable [Protobuf] [Inhabited Msg]

theorem kept_streams :
    Kept False (fun state : State Msg => FinishesPackets state) fun config => Streams config.2 where
  initial := .initial
  tidy := fun _ _ _ impossible => impossible.elim
  waiting := fun _ _ impossible => impossible.elim
  step := fun _ _ base streams step => streams.handlerStep base step
  dequeue := by
    intro state op _ streams member
    refine streams.same (Nat.le_refl _) (fun _ _ => ⟨rfl, rfl, rfl⟩) (fun _ => .of_same rfl)
      (.of_sublist ?_)
    simpa [State.writings, State.dequeue] using List.erase_sublist.filterMap Op.writing?
  complete := fun _ _ _ _ _ streams completed => streams.complete completed
  writeSome := fun _ _ _ _ _ streams order written => streams.writeSome order written

/-- While packets are taken one after the other, the bytes delivered on a connection
are a prefix of whole request packets, those of each call at most once. -/
theorem delivered_wellFramed {state : State Msg}
    (reached : (channel Msg).ReachableVia FinishesPackets state) (conn : ConnRef) :
    WellFramed state conn := by
  obtain ⟨_, streams, _⟩ := kept_streams.reachable reached
  obtain ⟨count, stream⟩ := streams.streams conn
  exact stream.wellFramed

end Runs

/-- The labels that connect the first connection for a call. -/
def establish (request : List UInt8) : List (Label (List UInt8)) :=
  [.callMethod (sampleCall timeoutNever request) .returns,
    .complete ⟨0, .resolve 0, .pending⟩ none,
    .handle ⟨0, .resolve 0, .queued none⟩ .silent,
    .complete ⟨0, .connect 0, .pending⟩ none,
    .handle ⟨0, .connect 0, .queued none⟩ .silent]

/-- Two calls, the second packet behind the first. -/
theorem delivered_wellFramed_two :
    ∃ state, (channel (List UInt8)).ReachableVia FinishesPackets state ∧
      (state.connections 0).socket.delivered =
        samplePacket 1 [1] ++ (samplePacket 2 [2]).take 4 ∧ WellFramed state 0 := by
  have observed : ((channel (List UInt8)).runVia FinishesPackets
      (establish [1] ++ [.callMethod (sampleCall timeoutNever [2]) .returns,
        .writeSome ⟨0, .write 0 (samplePacket 1 [1]) 0, .pending⟩ 26,
        .writeSome ⟨0, .write 1 (samplePacket 2 [2]) 0, .pending⟩ 4])
      (channel (List UInt8)).initial).map
      (fun state => (state.connections 0).socket.delivered) =
        some (samplePacket 1 [1] ++ (samplePacket 2 [2]).take 4) := by
    decide
  obtain ⟨state, reached, same⟩ := (channel (List UInt8)).exists_reachableVia_of_run observed
  exact ⟨state, reached, same, delivered_wellFramed reached 0⟩

/-- Two calls of one connection whose writes take turns: the second starts when four
bytes of the first are out. -/
theorem delivered_not_wellFramed :
    ∃ state, (channel (List UInt8)).Reachable state ∧ ¬ WellFramed state 0 := by
  have observed : ((channel (List UInt8)).run
      (establish [1] ++ [.callMethod (sampleCall timeoutNever [2]) .returns,
        .writeSome ⟨0, .write 0 (samplePacket 1 [1]) 0, .pending⟩ 4,
        .writeSome ⟨0, .write 1 (samplePacket 2 [2]) 0, .pending⟩ 4])
      (channel (List UInt8)).initial).map
      (fun state => ((state.connections 0).socket.delivered, state.nextTask,
        (state.packet 0).take 8, (state.packet 1).take 8)) =
        some ([0, 0, 0, 13, 0, 0, 0, 13], 2, [0, 0, 0, 13, 0, 0, 0, 1],
          [0, 0, 0, 13, 0, 0, 0, 1]) := by
    decide
  obtain ⟨state, reached, same⟩ := (channel (List UInt8)).exists_reachable_of_run observed
  simp only [Prod.mk.injEq] at same
  obtain ⟨delivered, count, first, second⟩ := same
  refine ⟨state, reached, ?_⟩
  rintro ⟨order, _, sent, leads⟩
  rw [delivered] at leads
  cases order with
  | nil => cases List.prefix_nil.mp leads
  | cons task rest =>
      have start : (state.packet task).take 8 = [0, 0, 0, 13, 0, 0, 0, 1] := by
        have bound := (sent task List.mem_cons_self).bound
        rw [count] at bound
        rcases Nat.le_one_iff_eq_zero_or_eq_one.mp (Nat.lt_succ_iff.mp bound) with rfl | rfl
        · exact first
        · exact second
      obtain ⟨tail, equal⟩ := leads
      have taken := congrArg (List.take 8) equal
      have long : 8 ≤ (state.packet task).length := by
        have length := congrArg List.length start
        rw [List.length_take] at length
        exact min_eq_left_iff.mp length
      rw [List.flatMap_cons, List.take_append_of_le_length long, start] at taken
      cases taken

end CarrotRpc.Client
