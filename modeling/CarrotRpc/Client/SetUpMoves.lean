import CarrotRpc.Client.SetUp

/-! The moves between the stages of a connection's set-up. -/

set_option autoImplicit false

namespace CarrotRpc.Client

open Library Common Protob

variable {Msg : Type}

section Moves

variable {conn : ConnRef} {stage : Stage} {hand : List TaskRef} {task : TaskRef}
  {state : State Msg}

namespace State

theorem opsOf_start {op : Op} (mine : op.conn = conn) (untimed : op.kind.isTimer = false) :
    (state.start op).opsOf conn = state.opsOf conn ++ [op] := by
  simp [opsOf, start, mine, untimed]

/-- The end of `start_call`. -/
def dispatch (conn : ConnRef) (task : TaskRef) (packet : List UInt8) (state : State Msg) :
    State Msg :=
  let state := state.modifyTask task fun record =>
    { record with state := .writeToServer, writes := record.writes + 1, packet := packet }
  state.startOnSocket conn (.write task packet 0)

/-- The rest of `issue` when the socket is closed. -/
def resolve (conn : ConnRef) (task : TaskRef) (state : State Msg) : State Msg :=
  (state.start ⟨conn, .resolve task, .pending⟩).modifyConn conn fun connection =>
    { connection with
      connecting := true
      overlapped := connection.overlapped || connection.connecting }

end State

theorem Grows.modifyTask {change : CallTask Msg → CallTask Msg}
    (same : SameCall (state.tasks task) (change (state.tasks task))) :
    Grows state (state.modifyTask task change) where
  count := Nat.le_refl _
  same := by
    intro other _
    rw [State.tasks_modifyTask]
    split
    · next equal => exact equal ▸ same
    · exact .refl _

theorem Grows.of_tasks {next : State Msg} (count : next.nextTask = state.nextTask)
    (tasks : next.tasks = state.tasks) : Grows state next where
  count := Nat.le_of_eq count.symm
  same := by
    intro other _
    rw [tasks]
    exact .refl _

theorem Grows.newTask (other : ConnRef) (call : Call Msg) (done : Closure Msg) :
    Grows state (state.newTask other call done) where
  count := Nat.le_succ _
  same := by
    intro task bound
    rw [State.tasks_newTask_of_ne (Nat.ne_of_lt bound)]
    exact .refl _

theorem Grows.dispatch {packet : List UInt8} : Grows state (state.dispatch conn task packet) := by
  have sent : Grows state (state.modifyTask task fun record =>
      { record with state := .writeToServer, writes := record.writes + 1, packet := packet }) :=
    .modifyTask ⟨rfl, rfl, rfl, Nat.le_succ _⟩
  exact sent.trans (.of_tasks rfl rfl)

theorem State.getStuck_grows : Grows state state.getStuck :=
  .of_tasks rfl rfl

theorem Fair.getStuck (fair : Fair conn hand state) : Fair conn [] state.getStuck where
  held := fair.held
  nominal := fair.nominal
  standing := .stuck rfl

theorem connections_newTask (other : ConnRef) (call : Call Msg) (done : Closure Msg) :
    ∃ id, (state.newTask other call done).connections conn =
      { state.connections conn with id := id } := by
  simp only [State.newTask, State.connections_modifyConn]
  split
  · next same =>
      subst same
      exact ⟨_, rfl⟩
  · exact ⟨_, rfl⟩

theorem lt_newTask {other : ConnRef} {call : Call Msg} {done : Closure Msg}
    (bound : task < (state.newTask other call done).nextTask) :
    task < state.nextTask ∨ task = state.nextTask := by
  have bound : task < state.nextTask + 1 := bound
  exact Nat.lt_or_eq_of_le (Nat.lt_succ_iff.mp bound)

/-- A new call is in hand, also if it is one of another connection. -/
theorem InStage.newTask (inStage : InStage conn stage [] state) (other : ConnRef)
    (call : Call Msg) (done : Closure Msg) :
    InStage conn stage [state.nextTask] (state.newTask other call done) := by
  have numbered : ∃ id, (state.newTask other call done).connections conn =
      { state.connections conn with id := id } := connections_newTask other call done
  obtain ⟨id, connection⟩ := numbered
  have old : ∀ task < state.nextTask, (state.newTask other call done).tasks task =
      state.tasks task := fun task bound => State.tasks_newTask_of_ne (Nat.ne_of_lt bound)
  have unknown := inStage.strangers state.nextTask fun bound => absurd bound (Nat.lt_irrefl _)
  have fresh : ∀ task ∈ stage.waits, task < state.nextTask := fun task member =>
    inStage.waiting task (List.mem_append_left _ member)
  refine ⟨?_, ?_, ?_, inStage.kinds, inStage.calm, ?_, ?_, ?_, ?_, ?_, ?_, ?_, ?_⟩
  · rw [connection]
    exact inStage.intact
  · have nodup := inStage.nodup
    rw [List.append_nil] at nodup
    refine List.nodup_append.mpr ⟨nodup, List.nodup_singleton _, ?_⟩
    rintro task member last single rfl
    exact Nat.lt_irrefl _ (List.mem_singleton.mp single ▸ fresh task member)
  · intro task member
    rcases List.mem_append.mp member with member | new
    · exact Nat.lt_succ_of_lt (fresh task member)
    · rw [List.mem_singleton.mp new]
      exact Nat.lt_succ_self _
  · intro task bound mine
    rcases lt_newTask bound with before | rfl
    · rw [old task before] at mine ⊢
      rw [inStage.writes task before mine]
      simp [Nat.ne_of_lt before]
    · rw [State.tasks_newTask_self]
      simp
  · intro task bound mine called
    rcases lt_newTask bound with before | rfl
    · rw [old task before] at mine called ⊢
      exact inStage.called task before mine called
    · rw [State.tasks_newTask_self] at called
      cases called
  · intro task bound mine
    rw [connection]
    rcases lt_newTask bound with before | rfl
    · rw [old task before] at mine ⊢
      exact inStage.counted task before mine
    · rw [State.tasks_newTask_self]
      exact unknown
  · intro task foreign
    rw [connection]
    refine inStage.strangers task fun before => ?_
    rw [← old task before]
    exact foreign (Nat.lt_succ_of_lt before)
  · intro closed
    rw [connection]
    obtain ⟨default, only⟩ := inStage.closed closed
    refine ⟨default, fun task bound mine => ?_⟩
    rcases lt_newTask bound with before | rfl
    · rw [old task before] at mine
      have waits := only task before mine
      simp only [List.append_nil] at waits
      exact List.mem_append_left _ waits
    · simp
  · rw [connection]
    exact inStage.opened
  · rw [connection]
    exact inStage.resolves
  · rw [connection]
    exact inStage.connected

/-- A call of another connection does not count. -/
theorem InStage.drop (inStage : InStage conn stage [task] state)
    (elsewhere : (state.tasks task).conn ≠ conn) : InStage conn stage [] state := by
  have different : ∀ other, (state.tasks other).conn = conn → other ≠ task := by
    rintro other mine rfl
    exact elsewhere mine
  have waits : (stage.waits ++ []).Sublist (stage.waits ++ [task]) :=
    (List.nil_sublist _).append_left _
  refine { inStage with nodup := ?_, waiting := ?_, writes := ?_, closed := ?_ }
  · exact inStage.nodup.sublist waits
  · exact fun other member => inStage.waiting other (waits.subset member)
  · intro other bound mine
    rw [inStage.writes other bound mine]
    simp [different other mine]
  · intro closed
    obtain ⟨socket, only⟩ := inStage.closed closed
    refine ⟨socket, fun other bound mine => ?_⟩
    simpa [different other mine] using only other bound mine

/-- The connection exists, or the channel's map says so. -/
def Mapped (conn : ConnRef) (state : State Msg) : Prop :=
  conn < state.nextConn ∨ ∃ entry ∈ state.conns.entries, entry.2 = conn

theorem Fair.newTask (fair : Fair conn [] state) {other : ConnRef} {call : Call Msg}
    {done : Closure Msg} (nominal : call.Nominal ∧ done.Nominal) (mapped : Mapped other state) :
    Fair conn [state.nextTask] (state.newTask other call done) where
  held := fair.held
  nominal := by
    intro task bound
    rcases lt_newTask bound with before | rfl
    · rw [State.tasks_newTask_of_ne (Nat.ne_of_lt before)]
      exact fair.nominal task before
    · rw [State.tasks_newTask_self]
      exact nominal
  standing := by
    cases fair.standing with
    | unknown later unmapped quiet unused =>
        refine .unknown later unmapped quiet fun task bound => ?_
        rcases lt_newTask bound with before | rfl
        · rw [State.tasks_newTask_of_ne (Nat.ne_of_lt before)]
          exact unused task before
        · rw [State.tasks_newTask_self]
          rintro rfl
          rcases mapped with known | ⟨entry, member, same⟩
          · exact absurd known (Nat.not_lt.mpr later)
          · exact absurd same (unmapped entry member)
    | stuck hangs => exact .stuck hangs
    | overlapped known overlaps =>
        refine .overlapped known ?_
        obtain ⟨id, connection⟩ : ∃ id, (state.newTask other call done).connections conn =
            { state.connections conn with id := id } := connections_newTask other call done
        rw [connection]
        exact overlaps
    | settled stage known inStage =>
        exact .settled stage known (inStage.newTask other call done)

theorem Fair.drop (fair : Fair conn [task] state)
    (elsewhere : (state.tasks task).conn ≠ conn) : Fair conn [] state where
  held := fair.held
  nominal := fair.nominal
  standing := by
    cases fair.standing with
    | unknown later unmapped quiet unused => exact .unknown later unmapped quiet unused
    | stuck hangs => exact .stuck hangs
    | overlapped known overlaps => exact .overlapped known overlaps
    | settled stage known inStage => exact .settled stage known (inStage.drop elsewhere)

/-- The first call starts the resolution, any other overlaps with it. -/
theorem Fair.resolve (fair : Fair conn [task] state) (bound : task < state.nextTask)
    (mine : (state.tasks task).conn = conn)
    (isClosed : (state.connections conn).socket.isOpen = false) :
    Fair conn [] (state.resolve conn task) := by
  have connection : (state.resolve conn task).connections conn =
      { state.connections conn with
        connecting := true
        overlapped :=
          (state.connections conn).overlapped || (state.connections conn).connecting } := by
    rw [State.resolve, State.connections_modifyConn, if_pos rfl]
    rfl
  have ops : (state.resolve conn task).opsOf conn =
      state.opsOf conn ++ [⟨conn, .resolve task, .pending⟩] := State.opsOf_start rfl rfl
  have inFlight : ∀ other, (state.resolve conn task).inFlight conn other =
      state.inFlight conn other := by
    intro other
    simp [State.inFlight, ops, OpKind.writesFor]
  refine ⟨?_, fair.nominal, ?_⟩
  · intro op member timer expired
    rcases List.mem_append.mp member with old | new
    · exact fair.held op old timer expired
    · rw [List.mem_singleton.mp new] at expired
      cases expired
  · cases fair.standing with
    | unknown later unmapped quiet unused => exact absurd mine (unused task bound)
    | stuck hangs => exact .stuck hangs
    | overlapped known overlaps =>
        refine .overlapped known ?_
        rw [connection]
        simp [overlaps]
    | settled stage known inStage =>
        cases stage with
        | connecting other =>
            cases isClosed.symm.trans (inStage.opened rfl).1
        | linked => cases isClosed.symm.trans (inStage.opened rfl).1
        | reading kind => cases isClosed.symm.trans (inStage.opened rfl).1
        | resolving other =>
            refine .overlapped known ?_
            rw [connection]
            simp [inStage.resolves rfl]
        | fresh =>
            obtain ⟨socket, only⟩ := inStage.closed rfl
            refine .settled (.resolving task) known
              ⟨?_, inStage.nodup, inStage.waiting, ?_, ?_, ?_, ?_, ?_, ?_, ?_, by rintro ⟨⟩, ?_, ?_⟩
            · rw [connection]
              exact inStage.intact
            · rw [ops, List.map_append, List.filter_append]
              exact inStage.kinds.append_right _
            · rw [ops]
              intro op member
              rcases List.mem_append.mp member with old | new
              · exact inStage.calm op old
              · rw [List.mem_singleton.mp new]
                rintro error ⟨⟩
            · exact inStage.writes
            · exact inStage.called
            · intro other otherBound otherMine
              rw [connection, inFlight]
              exact inStage.counted other otherBound otherMine
            · intro other foreign
              rw [connection, inFlight]
              exact inStage.strangers other foreign
            · intro _
              rw [connection]
              exact ⟨socket, only⟩
            · intro _
              rw [connection]
            · rintro (linked | ⟨other, member⟩)
              · cases linked
              · rw [connection]
                rw [ops] at member
                rcases List.mem_append.mp member with old | new
                · exact inStage.connected (.inr ⟨other, old⟩)
                · cases List.mem_singleton.mp new

theorem State.tasks_dispatch (packet : List UInt8) (other : TaskRef) :
    (state.dispatch conn task packet).tasks other =
      if other = task then
        { state.tasks task with
          state := .writeToServer
          writes := (state.tasks task).writes + 1
          packet := packet }
      else state.tasks other :=
  Function.update_apply _ _ _ _

theorem State.sameCall_dispatch (packet : List UInt8) (other : TaskRef) :
    SameCall (state.tasks other) ((state.dispatch conn task packet).tasks other) := by
  rw [State.tasks_dispatch]
  split
  · next equal => exact equal ▸ ⟨rfl, rfl, rfl, Nat.le_succ _⟩
  · exact .refl _

theorem State.dispatch_eq_start (packet : List UInt8)
    (isOpen : (state.connections conn).socket.isOpen = true) :
    state.dispatch conn task packet = State.start ⟨conn, .write task packet 0, .pending⟩
      (state.modifyTask task fun record =>
        { record with state := .writeToServer, writes := record.writes + 1, packet := packet }) := by
  simp [State.dispatch, State.startOnSocket, isOpen]

/-- A call on an open socket goes out once. -/
theorem InStage.dispatch (packet : List UInt8) (inStage : InStage conn stage [task] state)
    (isOpened : stage.closed = false) (bound : task < state.nextTask)
    (mine : (state.tasks task).conn = conn) :
    InStage conn stage [] (state.dispatch conn task packet) := by
  have tasks : ∀ other, (state.dispatch conn task packet).tasks other = _ :=
    State.tasks_dispatch packet
  have same : ∀ other, SameCall (state.tasks other)
      ((state.dispatch conn task packet).tasks other) := State.sameCall_dispatch packet
  have ops : (state.dispatch conn task packet).opsOf conn =
      state.opsOf conn ++ [⟨conn, .write task packet 0, .pending⟩] := by
    rw [State.dispatch_eq_start packet (inStage.opened isOpened).1]
    exact State.opsOf_start rfl rfl
  have inFlight : ∀ other, (state.dispatch conn task packet).inFlight conn other =
      state.inFlight conn other + if other = task then 1 else 0 := by
    intro other
    simp only [State.inFlight, ops, List.countP_append]
    by_cases equal : task = other <;> simp [OpKind.writesFor, equal, eq_comm]
  have unsent := inStage.writes task bound mine
  rw [if_pos (List.mem_append_right _ List.mem_cons_self)] at unsent
  have unqueued : task ∉ stage.waits := fun member =>
    (List.nodup_append.mp inStage.nodup).2.2 task member task List.mem_cons_self rfl
  have kept : ∀ other, ((state.dispatch conn task packet).tasks other).conn = conn →
      (state.tasks other).conn = conn := fun other => ((same other).conn.symm.trans ·)
  refine ⟨inStage.intact, ?_, ?_, ?_, ?_, ?_, ?_, ?_, ?_, ?_, inStage.opened, inStage.resolves, ?_⟩
  · exact inStage.nodup.sublist ((List.nil_sublist _).append_left _)
  · intro other member
    exact inStage.waiting other (List.mem_append_left _ (by simpa using member))
  · rw [ops, List.map_append, List.filter_append]
    simpa [OpKind.setsUp, OpKind.isAttempt, OpKind.isRead] using inStage.kinds
  · rw [ops]
    intro op member
    rcases List.mem_append.mp member with old | new
    · exact inStage.calm op old
    · rw [List.mem_singleton.mp new]
      rintro error ⟨⟩
  · intro other otherBound otherMine
    rw [tasks]
    split
    · next equal =>
        subst equal
        simp [unsent, unqueued]
    · next different =>
        rw [inStage.writes other otherBound (kept other otherMine)]
        simp [different]
  · intro other otherBound otherMine called
    rw [tasks] at called ⊢
    split
    · exact Nat.succ_pos _
    · next different =>
        rw [if_neg different] at called
        exact inStage.called other otherBound (kept other otherMine) called
  · intro other otherBound otherMine
    have before := inStage.counted other otherBound (kept other otherMine)
    rw [inFlight, ← Nat.add_assoc, tasks]
    split
    · next equal => exact congrArg (· + 1) (equal ▸ before)
    · exact before
  · intro other foreign
    have before := inStage.strangers other fun otherBound =>
      (same other).conn ▸ foreign otherBound
    rw [inFlight, ← Nat.add_assoc]
    split
    · next equal =>
        subst equal
        exact absurd ((same other).conn.trans mine) (foreign bound)
    · exact before
  · intro closed
    cases closed.symm.trans isOpened
  · rintro (linked | ⟨other, member⟩)
    · exact inStage.connected (.inl linked)
    · rw [ops] at member
      rcases List.mem_append.mp member with old | new
      · exact inStage.connected (.inr ⟨other, old⟩)
      · cases List.mem_singleton.mp new

theorem Fair.dispatch {packet : List UInt8} (fair : Fair conn [task] state)
    (bound : task < state.nextTask) (mine : (state.tasks task).conn = conn)
    (isOpen : (state.connections conn).socket.isOpen = true) :
    Fair conn [] (state.dispatch conn task packet) := by
  refine ⟨?_, ?_, ?_⟩
  · rw [State.dispatch_eq_start packet isOpen]
    intro op member timer expired
    rcases List.mem_append.mp member with old | new
    · exact fair.held op old timer expired
    · rw [List.mem_singleton.mp new] at expired
      cases expired
  · intro other otherBound
    have same : SameCall (state.tasks other) ((state.dispatch conn task packet).tasks other) :=
      State.sameCall_dispatch packet other
    rw [same.call, same.done]
    exact fair.nominal other otherBound
  · cases fair.standing with
    | unknown later unmapped quiet unused => exact absurd mine (unused task bound)
    | stuck hangs => exact .stuck hangs
    | overlapped known overlaps => exact .overlapped known overlaps
    | settled stage known inStage =>
        have isOpened : stage.closed = false := by
          cases closed : stage.closed with
          | false => rfl
          | true =>
              rw [(inStage.closed closed).1] at isOpen
              cases isOpen
        exact .settled stage known (inStage.dispatch packet isOpened bound mine)

theorem Fair.openConnection (fair : Fair conn [] state) (host service : String) :
    Fair conn [] (state.openConnection host service) := by
  have others : conn ≠ state.nextConn →
      (state.openConnection host service).connections conn = state.connections conn :=
    fun different => Function.update_of_ne different _ _
  have created : (state.openConnection host service).connections state.nextConn =
      { host, service } := Function.update_self _ _ _
  refine ⟨fair.held, fair.nominal, ?_⟩
  cases fair.standing with
  | stuck hangs => exact .stuck hangs
  | overlapped known overlaps =>
      refine .overlapped (Nat.lt_succ_of_lt known) ?_
      rw [others (Nat.ne_of_lt known)]
      exact overlaps
  | settled stage known inStage =>
      have connection := others (Nat.ne_of_lt known)
      refine .settled stage (Nat.lt_succ_of_lt known) ?_
      refine { inStage with
        intact := ?_, counted := ?_, strangers := ?_, closed := ?_, opened := ?_,
        resolves := ?_, connected := ?_ }
      · rw [connection]
        exact inStage.intact
      · rw [connection]
        exact inStage.counted
      · rw [connection]
        exact inStage.strangers
      · rw [connection]
        exact inStage.closed
      · rw [connection]
        exact inStage.opened
      · rw [connection]
        exact inStage.resolves
      · rw [connection]
        exact inStage.connected
  | unknown later unmapped quiet unused =>
      by_cases new : conn = state.nextConn
      · subst new
        have quietNow : (state.openConnection host service).opsOf state.nextConn = [] := quiet
        have none : ∀ task, (state.openConnection host service).inFlight state.nextConn task = 0 := by
          intro task
          simp [State.inFlight, quietNow]
        refine .settled .fresh (Nat.lt_succ_self _)
          ⟨?_, .nil, by rintro waiting ⟨⟩, ?_, ?_, ?_, ?_, ?_, ?_, ?_, by rintro ⟨⟩, by rintro ⟨⟩, ?_⟩
        · rw [created]
        · rw [quietNow]
          exact .nil
        · rw [quietNow]
          rintro error ⟨⟩
        · exact fun task bound mine => absurd mine (unused task bound)
        · exact fun task bound mine => absurd mine (unused task bound)
        · exact fun task bound mine => absurd mine (unused task bound)
        · intro task _
          rw [created, none]
          rfl
        · intro _
          rw [created]
          exact ⟨rfl, fun task bound mine => absurd mine (unused task bound)⟩
        · rintro (linked | ⟨task, member⟩)
          · cases linked
          · rw [quietNow] at member
            cases member
      · have beyond : state.nextConn + 1 ≤ conn :=
          Nat.succ_le_of_lt (Nat.lt_of_le_of_ne later (Ne.symm new))
        refine .unknown beyond (fun entry member => ?_) quiet unused
        rcases OrderedMap.mem_of_mem_insert member with rfl | old
        · exact Ne.symm new
        · exact unmapped entry old

theorem State.opsOf_dequeue {op : Op} (member : op ∈ state.ops) (mine : op.conn = conn)
    (untimed : op.kind.isTimer = false) :
    (op :: (state.dequeue op).opsOf conn).Perm (state.opsOf conn) := by
  have perm := (List.perm_cons_erase member).filter
    fun op => decide (op.conn = conn) && !op.kind.isTimer
  have chosen : (decide (op.conn = conn) && !op.kind.isTimer) = true := by
    simp [mine, untimed]
  rw [List.filter_cons, if_pos chosen] at perm
  exact perm.symm

theorem Away.dequeue {op : Op} (other : op.conn ≠ conn ∨ op.kind.isTimer = true) :
    Away conn state (state.dequeue op) := by
  refine withOps ?_ fun kept member _ _ => List.mem_of_mem_erase member
  have ignored : (decide (op.conn = conn) && !op.kind.isTimer) = false := by
    rcases other with different | timer
    · simp [different]
    · simp [timer]
  rw [← List.erase_filter, State.opsOf]
  refine List.erase_of_not_mem fun member => ?_
  cases ignored.symm.trans (List.mem_filter.mp member).2

/-- The operation that leads to the next stage is handed to its handler. -/
theorem InStage.dequeue {op : Op} (inStage : InStage conn stage [] state)
    (member : op ∈ state.ops) (mine : op.conn = conn) (setsUp : op.kind.setsUp = true)
    (queued : op.status = .queued none) :
    stage.kinds = [op.kind] ∧
      InStage conn (if stage.closed then .fresh else .linked) stage.waits (state.dequeue op) := by
  obtain ⟨untimed, unwritten⟩ := OpKind.of_setsUp setsUp
  have perm := State.opsOf_dequeue member mine untimed
  have listed : op ∈ state.opsOf conn := perm.subset List.mem_cons_self
  have kept : ∀ other ∈ (state.dequeue op).opsOf conn, other ∈ state.opsOf conn :=
    fun other present => perm.subset (List.mem_cons_of_mem _ present)
  have kinds : (op.kind :: (((state.dequeue op).opsOf conn).map Op.kind).filter
      OpKind.setsUp).Perm stage.kinds := by
    have mapped := ((perm.map Op.kind).filter OpKind.setsUp).trans inStage.kinds
    rw [List.map_cons, List.filter_cons, if_pos setsUp] at mapped
    exact mapped
  have inFlight : ∀ task, (state.dequeue op).inFlight conn task = state.inFlight conn task := by
    intro task
    have counts := perm.countP_eq fun op => op.kind.writesFor task && op.status = .pending
    rw [List.countP_cons_of_neg (by simp [unwritten task])] at counts
    exact counts
  have common : ∀ next : Stage, next.kinds = [] → next.resolves = false → next.waits = [] →
      (((state.dequeue op).opsOf conn).map Op.kind).filter OpKind.setsUp = [] →
      next.closed = stage.closed →
      (next.linkedUp = true → (state.connections conn).socket.connected = true) →
      InStage conn next stage.waits (state.dequeue op) := by
    intro next none unresolved unwaited rest same linked
    have waits : next.waits ++ stage.waits = stage.waits ++ [] := by
      rw [unwaited, List.append_nil, List.nil_append]
    refine ⟨inStage.intact, ?_, ?_, ?_, ?_, ?_, inStage.called, ?_, ?_, ?_, ?_, ?_, ?_⟩
    · exact waits ▸ inStage.nodup
    · exact waits ▸ inStage.waiting
    · rw [none, rest]
    · exact fun other present => inStage.calm other (kept other present)
    · exact waits ▸ inStage.writes
    · intro task bound taskMine
      rw [inFlight]
      exact inStage.counted task bound taskMine
    · intro task foreign
      rw [inFlight]
      exact inStage.strangers task foreign
    · rw [same, waits]
      exact inStage.closed
    · rw [same]
      exact inStage.opened
    · intro resolving
      cases unresolved.symm.trans resolving
    · rintro (isLinked | ⟨task, present⟩)
      · exact linked isLinked
      · exact inStage.connected (.inr ⟨task, kept _ present⟩)
  cases stage with
  | fresh | linked => cases List.perm_nil.mp kinds
  | resolving task =>
      obtain ⟨same, rest⟩ := List.cons.inj (List.perm_singleton.mp kinds)
      exact ⟨by rw [same]; rfl, common .fresh rfl rfl rfl rest rfl nofun⟩
  | connecting task =>
      obtain ⟨same, rest⟩ := List.cons.inj (List.perm_singleton.mp kinds)
      refine ⟨by rw [same]; rfl, common .linked rfl rfl rfl rest rfl fun _ => ?_⟩
      refine inStage.connected (.inr ⟨task, ?_⟩)
      obtain ⟨opConn, kind, status⟩ := op
      cases mine
      cases same
      cases queued
      exact listed
  | reading kind =>
      obtain ⟨same, rest⟩ := List.cons.inj (List.perm_singleton.mp kinds)
      exact ⟨by rw [same]; rfl, common .linked rfl rfl rfl rest rfl fun _ =>
        inStage.connected (.inl rfl)⟩

/-- A write that ended is handed to its handler. -/
theorem InStage.forget {op : Op} (inStage : InStage conn stage hand state)
    (member : op ∈ state.ops) (mine : op.conn = conn) (untimed : op.kind.isTimer = false)
    (other : op.kind.setsUp = false) (ended : op.status ≠ .pending) :
    InStage conn stage hand (state.dequeue op) := by
  have perm := State.opsOf_dequeue member mine untimed
  have kept : ∀ other ∈ (state.dequeue op).opsOf conn, other ∈ state.opsOf conn :=
    fun other present => perm.subset (List.mem_cons_of_mem _ present)
  have inFlight : ∀ task, (state.dequeue op).inFlight conn task = state.inFlight conn task := by
    intro task
    have counts := perm.countP_eq fun op => op.kind.writesFor task && op.status = .pending
    rw [List.countP_cons_of_neg (by simp [ended])] at counts
    exact counts
  refine { inStage with kinds := ?_, calm := ?_, counted := ?_, strangers := ?_, connected := ?_ }
  · have mapped := ((perm.map Op.kind).filter OpKind.setsUp).trans inStage.kinds
    rw [List.map_cons, List.filter_cons, if_neg (by simp [other])] at mapped
    exact mapped
  · exact fun other present => inStage.calm other (kept other present)
  · intro task bound taskMine
    rw [inFlight]
    exact inStage.counted task bound taskMine
  · intro task foreign
    rw [inFlight]
    exact inStage.strangers task foreign
  · rintro (linked | ⟨task, present⟩)
    · exact inStage.connected (.inl linked)
    · exact inStage.connected (.inr ⟨task, kept _ present⟩)

/-- Nothing is pending on the socket before it is opened. -/
theorem InStage.not_pending {op : Op} (inStage : InStage conn .fresh hand state)
    (listed : op ∈ state.opsOf conn) : op.status ≠ .pending := by
  intro pending
  have untimed : op.kind.isTimer = false := by
    have chosen := (List.mem_filter.mp listed).2
    simp only [Bool.and_eq_true, Bool.not_eq_true'] at chosen
    exact chosen.2
  have idle : op.kind.setsUp = false := by
    cases setsUp : op.kind.setsUp with
    | false => rfl
    | true =>
        have member : op.kind ∈ ((state.opsOf conn).map Op.kind).filter OpKind.setsUp :=
          List.mem_filter.mpr ⟨List.mem_map_of_mem listed, setsUp⟩
        cases inStage.kinds.subset member
  have written : ∃ task, op.kind.writesFor task = true := by
    cases kind : op.kind with
    | write task packet sent => exact ⟨task, decide_eq_true rfl⟩
    | resolve | connect | readHeader | readPayload => cases kind ▸ idle
    | timer => cases kind ▸ untimed
  obtain ⟨task, written⟩ := written
  have positive : 0 < state.inFlight conn task :=
    List.countP_pos_iff.mpr ⟨op, listed, by simp [written, pending]⟩
  have none : state.inFlight conn task = 0 := by
    by_cases mine : task < state.nextTask ∧ (state.tasks task).conn = conn
    · obtain ⟨bound, mine⟩ := mine
      have unsent := inStage.writes task bound mine
      rw [if_pos ((inStage.closed rfl).2 task bound mine)] at unsent
      exact (Nat.add_eq_zero_iff.mp ((inStage.counted task bound mine).trans unsent)).2
    · refine (Nat.add_eq_zero_iff.mp (inStage.strangers task fun bound same => ?_)).2
      exact mine ⟨bound, same⟩
  exact absurd none (Nat.ne_of_gt positive)

theorem State.opsOf_asyncConnect
    (quiet : ∀ op ∈ state.opsOf conn, op.status ≠ .pending) :
    (state.asyncConnect conn task).opsOf conn =
      state.opsOf conn ++ [⟨conn, .connect task, .pending⟩] := by
  have kept : ((state.closeSocket conn).openSocket conn).opsOf conn = state.opsOf conn := by
    refine (@State.opsOf_cancel Msg state conn _).trans ?_
    refine (List.map_congr_left fun op member => ?_).trans (List.map_id _)
    split
    · obtain ⟨opConn, kind, status⟩ := op
      cases status with
      | pending => exact absurd rfl (quiet _ member)
      | queued error => rfl
    · rfl
  have started : ((state.closeSocket conn).openSocket conn |>.start
      ⟨conn, .connect task, .pending⟩).opsOf conn =
        ((state.closeSocket conn).openSocket conn).opsOf conn ++
          [⟨conn, .connect task, .pending⟩] := State.opsOf_start rfl rfl
  rw [State.asyncConnect, started, kept]

theorem InStage.asyncConnect (inStage : InStage conn .fresh [task] state) :
    InStage conn (.connecting task) [] (state.asyncConnect conn task) := by
  have ops : (state.asyncConnect conn task).opsOf conn =
      state.opsOf conn ++ [⟨conn, .connect task, .pending⟩] :=
    State.opsOf_asyncConnect fun _ => inStage.not_pending
  obtain ⟨socket, _⟩ := inStage.closed rfl
  have connection : (state.asyncConnect conn task).connections conn =
      { state.connections conn with socket := { isOpen := true, session := 1 } } := by
    simp [State.asyncConnect, State.openSocket, State.closeSocket, State.cancel, State.modifyConn,
      socket]
  have inFlight : ∀ other, (state.asyncConnect conn task).inFlight conn other =
      state.inFlight conn other := by
    intro other
    simp [State.inFlight, ops, OpKind.writesFor]
  have finished : ∀ other, (state.connections conn).socket.finished.count other = 0 := by
    intro other
    rw [socket]
    rfl
  refine ⟨?_, inStage.nodup, inStage.waiting, ?_, ?_, inStage.writes, inStage.called, ?_, ?_,
    by rintro ⟨⟩, ?_, by rintro ⟨⟩, ?_⟩
  · rw [connection]
    exact inStage.intact
  · rw [ops, List.map_append, List.filter_append]
    exact inStage.kinds.append_right _
  · rw [ops]
    intro op member
    rcases List.mem_append.mp member with old | new
    · exact inStage.calm op old
    · rw [List.mem_singleton.mp new]
      rintro error ⟨⟩
  · intro other bound mine
    have before := inStage.counted other bound mine
    rw [finished] at before
    rw [inFlight, connection]
    exact before
  · intro other foreign
    have before := inStage.strangers other foreign
    rw [finished] at before
    rw [inFlight, connection]
    exact before
  · intro _
    rw [connection]
    exact ⟨rfl, rfl⟩
  · rintro (linked | ⟨other, member⟩)
    · cases linked
    · rw [ops] at member
      rcases List.mem_append.mp member with old | new
      · -- before the socket is opened no connect is outstanding
        have listed : Op.kind ⟨conn, .connect other, .queued none⟩ ∈
            (state.opsOf conn).map Op.kind := List.mem_map_of_mem old
        cases inStage.kinds.subset (List.mem_filter.mpr ⟨listed, rfl⟩)
      · cases List.mem_singleton.mp new

/-- The read operation that the next stage waits for. -/
theorem InStage.startRead (part : Part) (inStage : InStage conn .linked [] state) :
    InStage conn (.reading part) [] (state.startOnSocket conn part.kind) := by
  have setsUp : part.kind.setsUp = true := by
    simp [OpKind.setsUp, part.kind_isRead]
  have started : state.startOnSocket conn part.kind = state.start ⟨conn, part.kind, .pending⟩ := by
    rw [State.startOnSocket, if_pos (inStage.opened rfl).1]
  have ops : (state.startOnSocket conn part.kind).opsOf conn =
      state.opsOf conn ++ [⟨conn, part.kind, .pending⟩] := by
    rw [started]
    exact State.opsOf_start rfl (OpKind.of_setsUp setsUp).1
  have inFlight : ∀ other, (state.startOnSocket conn part.kind).inFlight conn other =
      state.inFlight conn other := by
    intro other
    simp [State.inFlight, ops, (OpKind.of_setsUp setsUp).2]
  refine ⟨inStage.intact, inStage.nodup, inStage.waiting, ?_, ?_, inStage.writes, inStage.called,
    ?_, ?_, by rintro ⟨⟩, inStage.opened, by rintro ⟨⟩, fun _ => inStage.connected (.inl rfl)⟩
  · rw [ops, List.map_append, List.filter_append]
    have single : ([⟨conn, part.kind, .pending⟩].map Op.kind).filter OpKind.setsUp = [part.kind] := by
      simp [setsUp]
    rw [single]
    exact inStage.kinds.append_right _
  · rw [ops]
    intro op member
    rcases List.mem_append.mp member with old | new
    · exact inStage.calm op old
    · rw [List.mem_singleton.mp new]
      rintro error ⟨⟩
  · intro other bound mine
    rw [inFlight]
    exact inStage.counted other bound mine
  · intro other foreign
    rw [inFlight]
    exact inStage.strangers other foreign

theorem State.opsOf_replaceOp {op : Op} (replacement : Op) (member : op ∈ state.ops)
    (mine : op.conn = conn) (untimed : op.kind.isTimer = false)
    (sameConn : replacement.conn = conn) (sameTimer : replacement.kind.isTimer = false) :
    ((state.replaceOp op replacement).opsOf conn).Perm
        (replacement :: (state.dequeue op).opsOf conn) ∧
      (op :: (state.dequeue op).opsOf conn).Perm (state.opsOf conn) := by
  refine ⟨?_, State.opsOf_dequeue member mine untimed⟩
  have added : (state.replaceOp op replacement).opsOf conn =
      (state.dequeue op).opsOf conn ++ [replacement] := by
    simp [State.opsOf, State.replaceOp, State.dequeue, sameConn, sameTimer]
  rw [added]
  exact List.perm_append_singleton _ _

theorem Away.replaceOp {op replacement : Op} (different : op.conn ≠ conn)
    (sameConn : replacement.conn = op.conn) (untimed : replacement.kind.isTimer = false) :
    Away conn state (state.replaceOp op replacement) :=
  (dequeue (.inl different)).trans (start (.inl (sameConn ▸ different)) (.inr untimed))

theorem complete_none_eq_some {op : Op} {next : State Msg}
    (completed : state.complete op none = some next) :
    op ∈ state.ops ∧ op.status = .pending ∧ (∀ task, op.kind.writesFor task = false) ∧
      (((∃ task, op.kind = .connect task) ∧
          next = (state.replaceOp op { op with status := .queued none }).modifyConn op.conn
            RpcClientConnection.connected) ∨
        ((∀ task, op.kind ≠ .connect task) ∧
          next = state.replaceOp op { op with status := .queued none })) := by
  unfold State.complete at completed
  split at completed
  · next enabled =>
      refine ⟨enabled.1, enabled.2, ?_⟩
      cases kind : op.kind with
      | write task packet sent =>
          simp only [kind] at completed
          cases completed
      | connect task =>
          simp only [kind] at completed
          cases completed
          exact ⟨fun _ => rfl, .inl ⟨⟨task, rfl⟩, rfl⟩⟩
      | resolve | readHeader | readPayload | timer =>
          simp only [kind] at completed
          cases completed
          exact ⟨fun _ => rfl, .inr ⟨nofun, rfl⟩⟩
  · cases completed

theorem InStage.replaced {op : Op} {next : State Msg} (inStage : InStage conn stage [] state)
    (member : op ∈ state.ops) (mine : op.conn = conn) (untimed : op.kind.isTimer = false)
    (unwritten : ∀ task, op.kind.writesFor task = false)
    (replaced : next = state.replaceOp op { op with status := .queued none })
    (connected : (∃ task, op.kind = .connect task) →
      (state.connections conn).socket.connected = true) : InStage conn stage [] next := by
  subst replaced
  obtain ⟨after, before⟩ := State.opsOf_replaceOp { op with status := .queued none } member mine
    untimed mine untimed
  have inFlight : ∀ task, (state.replaceOp op { op with status := .queued none }).inFlight conn
      task = state.inFlight conn task := by
    intro task
    have old := before.countP_eq fun op => op.kind.writesFor task && op.status = .pending
    have new := after.countP_eq fun op => op.kind.writesFor task && op.status = .pending
    rw [List.countP_cons_of_neg (by simp [unwritten task])] at old new
    exact new.trans old
  refine { inStage with kinds := ?_, calm := ?_, counted := ?_, strangers := ?_, connected := ?_ }
  · have renewed := (after.map Op.kind).trans (before.map Op.kind)
    exact (renewed.filter OpKind.setsUp).trans inStage.kinds
  · intro other present
    rcases List.mem_cons.mp (after.subset present) with rfl | rest
    · exact nofun
    · exact inStage.calm other (before.subset (List.mem_cons_of_mem _ rest))
  · intro task bound taskMine
    rw [inFlight]
    exact inStage.counted task bound taskMine
  · intro task foreign
    rw [inFlight]
    exact inStage.strangers task foreign
  · rintro (linked | ⟨task, present⟩)
    · exact inStage.connected (.inl linked)
    · rcases List.mem_cons.mp (after.subset present) with same | rest
      · exact connected ⟨task, congrArg Op.kind same.symm⟩
      · exact inStage.connected (.inr ⟨task, before.subset (List.mem_cons_of_mem _ rest)⟩)

theorem InStage.setConnected (inStage : InStage conn stage hand state)
    (isOpened : stage.closed = false) :
    InStage conn stage hand (state.modifyConn conn RpcClientConnection.connected) := by
  have connection : (state.modifyConn conn RpcClientConnection.connected).connections conn =
      (state.connections conn).connected := by
    rw [State.connections_modifyConn, if_pos rfl]
  refine { inStage with
    intact := ?_, counted := ?_, strangers := ?_, closed := ?_, opened := ?_, resolves := ?_,
    connected := ?_ }
  · rw [connection]
    exact inStage.intact
  · rw [connection]
    exact inStage.counted
  · rw [connection]
    exact inStage.strangers
  · intro closed
    cases isOpened.symm.trans closed
  · rw [connection]
    exact inStage.opened
  · rw [connection]
    exact inStage.resolves
  · intro _
    rw [connection]
    rfl

theorem InStage.endConnecting (inStage : InStage conn .linked hand state) :
    InStage conn .linked hand
      (state.modifyConn conn fun connection => { connection with connecting := false }) := by
  have connection : (state.modifyConn conn fun connection =>
      { connection with connecting := false }).connections conn =
        { state.connections conn with connecting := false } := by
    rw [State.connections_modifyConn, if_pos rfl]
  refine { inStage with
    intact := ?_, counted := ?_, strangers := ?_, closed := nofun, opened := ?_,
    resolves := nofun, connected := ?_ }
  · rw [connection]
    exact inStage.intact
  · rw [connection]
    exact inStage.counted
  · rw [connection]
    exact inStage.strangers
  · rw [connection]
    exact inStage.opened
  · rw [connection]
    exact inStage.connected

theorem InStage.closed_of_connect {op : Op} (inStage : InStage conn stage hand state)
    (listed : op ∈ state.opsOf conn) (connects : op.kind = .connect task) :
    stage.closed = false := by
  have member : op.kind ∈ stage.kinds := inStage.kinds.subset
    (List.mem_filter.mpr ⟨List.mem_map_of_mem listed, by rw [connects]; rfl⟩)
  rw [connects] at member
  cases stage with
  | fresh => cases member
  | resolving other => cases List.mem_singleton.mp member
  | connecting | linked | reading => rfl

theorem State.mem_opsOf {op : Op} (member : op ∈ state.ops) (mine : op.conn = conn)
    (untimed : op.kind.isTimer = false) : op ∈ state.opsOf conn :=
  List.mem_filter.mpr ⟨member, by simp [mine, untimed]⟩

/-- Every kind of completion that is not an error keeps the stage. -/
theorem Fair.complete {op : Op} {next : State Msg} (fair : Fair conn [] state)
    (untimed : op.kind.isTimer = false) (completed : state.complete op none = some next) :
    Fair conn [] next := by
  obtain ⟨member, _, unwritten, cases_⟩ := complete_none_eq_some completed
  by_cases mine : op.conn = conn
  · have listed := State.mem_opsOf member mine untimed
    subst mine
    have held : ∀ other ∈ (state.replaceOp op { op with status := .queued none }).ops,
        other.kind.isTimer = true → other.status ≠ .queued none := by
      intro other present timer
      rcases List.mem_append.mp present with old | new
      · exact fair.held other (List.mem_of_mem_erase old) timer
      · rw [List.mem_singleton.mp new] at timer
        cases untimed.symm.trans timer
    rcases cases_ with ⟨⟨task, connects⟩, rfl⟩ | ⟨other, rfl⟩
    · refine ⟨held, fair.nominal, ?_⟩
      cases fair.standing with
      | unknown later unmapped quiet unused => cases quiet ▸ listed
      | stuck hangs => exact .stuck hangs
      | overlapped known overlaps =>
          refine .overlapped known ?_
          rw [State.connections_modifyConn, if_pos rfl]
          exact overlaps
      | settled stage known inStage =>
          have isOpened := inStage.closed_of_connect listed connects
          refine .settled stage known ?_
          refine (inStage.setConnected isOpened).replaced member rfl untimed unwritten rfl ?_
          intro _
          rw [State.connections_modifyConn, if_pos rfl]
          rfl
    · refine ⟨held, fair.nominal, ?_⟩
      cases fair.standing with
      | unknown later unmapped quiet unused => cases quiet ▸ listed
      | stuck hangs => exact .stuck hangs
      | overlapped known overlaps => exact .overlapped known overlaps
      | settled stage known inStage =>
          refine .settled stage known (inStage.replaced member rfl untimed unwritten rfl ?_)
          rintro ⟨task, connects⟩
          exact absurd connects (other task)
  · have replaced : Away conn state (state.replaceOp op { op with status := .queued none }) :=
      .replaceOp mine rfl untimed
    rcases cases_ with ⟨_, rfl⟩ | ⟨_, rfl⟩
    · exact fair.away (replaced.trans (.elsewhere mine))
    · exact fair.away replaced

/-- A packet of which the socket took more bytes is in flight until it took all. -/
theorem InStage.writeSome {op : Op} {count : Nat} {next : State Msg} {packet : List UInt8}
    {sent : Nat} (inStage : InStage conn stage [] state) (member : op ∈ state.ops)
    (mine : op.conn = conn) (pending : op.status = .pending)
    (kind : op.kind = .write task packet sent)
    (isConnected : (state.connections conn).socket.connected = true)
    (written : next = (state.replaceOp op
        { op with
          kind := .write task packet (sent + count)
          status := if sent + count = packet.length then .queued none else .pending }).modifyConn
      conn fun connection =>
        { connection with socket := State.accept task packet sent count connection.socket }) :
    InStage conn stage [] next := by
  generalize ended : (if sent + count = packet.length then OpStatus.queued none else .pending) =
    status at written
  generalize replacement : ({ op with kind := .write task packet (sent + count), status } : Op) =
    new at written
  have untimed : op.kind.isTimer = false := by
    rw [kind]
    rfl
  have newKind : new.kind = .write task packet (sent + count) := by
    rw [← replacement]
  have newStatus : new.status = status := by
    rw [← replacement]
  obtain ⟨after, before⟩ := State.opsOf_replaceOp new member mine untimed
    (by rw [← replacement]; exact mine) (by rw [newKind]; rfl)
  have ops : next.opsOf conn = (state.replaceOp op new).opsOf conn := by
    rw [written]
    rfl
  have socket : (next.connections conn).socket =
      State.accept task packet sent count (state.connections conn).socket := by
    rw [written, State.connections_modifyConn, if_pos rfl]
    rfl
  have flight : ∀ other, (next.connections conn).socket.finished.count other +
      next.inFlight conn other =
        (state.connections conn).socket.finished.count other + state.inFlight conn other := by
    intro other
    have old := before.countP_eq fun op => op.kind.writesFor other && op.status = .pending
    have renewed := after.countP_eq fun op => op.kind.writesFor other && op.status = .pending
    rw [List.countP_cons] at old renewed
    simp only [kind, pending, newKind, newStatus, OpKind.writesFor_write] at old renewed
    rw [State.inFlight, ops, renewed, State.inFlight, ← old, socket]
    simp only [State.accept]
    subst ended
    by_cases whole : sent + count = packet.length
    · by_cases same : task = other
      · simp [whole, same, List.count_append]
        omega
      · simp [whole, same, List.count_append]
    · simp [whole]
  have isOpened : stage.closed = false := by
    cases closed : stage.closed with
    | false => rfl
    | true =>
        rw [(inStage.closed closed).1] at isConnected
        cases isConnected
  have keeps : next.nextTask = state.nextTask ∧ next.tasks = state.tasks ∧
      (next.connections conn).destroyedAt = (state.connections conn).destroyedAt ∧
      (next.connections conn).connecting = (state.connections conn).connecting := by
    rw [written, State.connections_modifyConn, if_pos rfl]
    exact ⟨rfl, rfl, rfl, rfl⟩
  obtain ⟨sameCount, sameTasks, destroyed, connecting⟩ := keeps
  refine ⟨destroyed.trans inStage.intact, inStage.nodup, ?_, ?_, ?_, ?_, ?_, ?_, ?_, ?_, ?_, ?_, ?_⟩
  · rw [sameCount]
    exact inStage.waiting
  · rw [ops]
    have left := (after.map Op.kind).filter OpKind.setsUp
    have right := ((before.map Op.kind).filter OpKind.setsUp).trans inStage.kinds
    rw [List.map_cons, newKind] at left
    rw [List.map_cons, kind] at right
    exact left.trans right
  · rw [ops]
    intro other present error
    rcases List.mem_cons.mp (after.subset present) with rfl | rest
    · rw [newStatus, ← ended]
      split <;> rintro ⟨⟩
    · exact inStage.calm other (before.subset (List.mem_cons_of_mem _ rest)) error
  · rw [sameCount, sameTasks]
    exact inStage.writes
  · rw [sameCount, sameTasks]
    exact inStage.called
  · rw [sameCount, sameTasks]
    exact fun other bound otherMine => (flight other).trans (inStage.counted other bound otherMine)
  · rw [sameCount, sameTasks]
    exact fun other foreign => (flight other).trans (inStage.strangers other foreign)
  · intro closed
    cases isOpened.symm.trans closed
  · rw [socket]
    exact inStage.opened
  · rw [connecting]
    exact inStage.resolves
  · intro _
    rw [socket]
    exact isConnected

theorem Fair.writeSome {op : Op} {count : Nat} {next : State Msg} (fair : Fair conn [] state)
    (written : state.writeSome op count = some next) : Fair conn [] next := by
  obtain ⟨task, packet, sent, kind, member, pending, isConnected, _, _, result⟩ :=
    writeSome_eq_some written
  have untimed : op.kind.isTimer = false := by
    rw [kind]
    rfl
  by_cases mine : op.conn = conn
  · have listed := State.mem_opsOf member mine untimed
    subst mine
    have connection : ∃ socket, next.connections op.conn =
        { state.connections op.conn with socket := socket } := by
      rw [result, State.connections_modifyConn, if_pos rfl]
      exact ⟨_, rfl⟩
    have sameConns : next.nextConn = state.nextConn ∧ next.stuck = state.stuck := by
      rw [result]
      exact ⟨rfl, rfl⟩
    refine ⟨?_, ?_, ?_⟩
    · rw [result]
      intro other present timer
      rcases List.mem_append.mp present with old | new
      · exact fair.held other (List.mem_of_mem_erase old) timer
      · rw [List.mem_singleton.mp new] at timer
        cases timer
    · rw [result]
      exact fair.nominal
    · cases fair.standing with
      | unknown later unmapped quiet unused => cases quiet ▸ listed
      | stuck hangs => exact .stuck (sameConns.2.trans hangs)
      | overlapped known overlaps =>
          obtain ⟨socket, same⟩ := connection
          refine .overlapped (sameConns.1 ▸ known) ?_
          rw [same]
          exact overlaps
      | settled stage known inStage =>
          exact .settled stage (sameConns.1 ▸ known)
            (inStage.writeSome member rfl pending kind isConnected result)
  · have replaced : Away conn state (state.replaceOp op
        { op with
          kind := .write task packet (sent + count)
          status := if sent + count = packet.length then .queued none else .pending }) :=
      .replaceOp mine rfl rfl
    rw [result]
    exact fair.away (replaced.trans (.elsewhere mine))

end Moves

end CarrotRpc.Client
