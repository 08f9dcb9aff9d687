import CarrotRpc.Client.Establishing
import CarrotRpc.Client.Routing

/-! A connection from its first call to its first `destroy`: the stage of its set-up, the
packets on their way out, and the calls that were completed, whatever else the channel
does and whatever fails. -/

set_option autoImplicit false

namespace CarrotRpc.Client

open Library Common Protob

variable {Msg : Type}

/-- The request of a call as it is written. -/
def requestPacket [Protobuf] (id : Nat) (call : Call Msg) : List UInt8 :=
  layout (Protobuf.request.serialize
      { id := some id, methodIdentity := some call.methodIdentity })
    (call.requestFormat.serialize call.request) []

/-- The call was completed and has not failed. -/
def CallTask.Succeeded (record : CallTask Msg) : Prop :=
  record.called = true ∧ record.controller.failed = false

/-- The operations that set the connection up or read from it. -/
def State.setUps (conn : ConnRef) (state : State Msg) : List OpKind :=
  (state.ops.filter fun op => op.conn = conn && op.kind.setsUp).map Op.kind

theorem State.cancelled_same (selected : Op → Bool) (op : Op) :
    (if selected op then State.abort op else op).conn = op.conn ∧
      (if selected op then State.abort op else op).kind = op.kind := by
  split
  · exact State.abort_same op
  · exact ⟨rfl, rfl⟩

theorem State.setUps_cancel {state : State Msg} {conn : ConnRef} (selected : Op → Bool) :
    (state.cancel selected).setUps conn = state.setUps conn := by
  have agree : ((fun op : Op => decide (op.conn = conn) && op.kind.setsUp) ∘
      fun op => if selected op then State.abort op else op) =
      fun op : Op => decide (op.conn = conn) && op.kind.setsUp := by
    funext op
    simp only [Function.comp_apply, (State.cancelled_same selected op).1,
      (State.cancelled_same selected op).2]
  have kinds : (Op.kind ∘ fun op => if selected op then State.abort op else op) = Op.kind := by
    funext op
    exact (State.cancelled_same selected op).2
  simp only [State.setUps, State.cancel, List.filter_map, agree, List.map_map, kinds]

/-- What the connection does not come back from: it was destroyed, or a call was made
during its resolution. -/
def Beyond (conn : ConnRef) (state : State Msg) : Prop :=
  state.stuck = true ∨ conn < state.nextConn ∧
    ((state.connections conn).destroyedAt ≠ none ∨ (state.connections conn).overlapped = true)

/-- The connection is in the given stage of its set-up. -/
structure At (conn : ConnRef) (stage : Stage) (state : State Msg) : Prop where
  known : conn < state.nextConn
  kinds : (state.setUps conn).Perm stage.kinds
  isOpen : (state.connections conn).socket.isOpen = !stage.closed
  resolves : stage.resolves = true → (state.connections conn).connecting = true

def Stands (conn : ConnRef) (stage : Stage) (state : State Msg) : Prop :=
  Beyond conn state ∨ At conn stage state

/-- There is no such connection yet. -/
structure Unopened (conn : ConnRef) (state : State Msg) : Prop where
  later : state.nextConn ≤ conn
  unmapped : ∀ entry ∈ state.conns.entries, entry.2 ≠ conn
  quiet : state.setUps conn = []

/-- Its first call was made. -/
def Begun (conn : ConnRef) (state : State Msg) : Prop :=
  ∃ task, Stands conn (.resolving task) state

/-- Every write on the connection is of the request of one of its calls. -/
def Packed [Protobuf] (conn : ConnRef) (state : State Msg) : Prop :=
  ∀ op ∈ state.ops, op.conn = conn → ∀ task packet sent, op.kind = .write task packet sent →
    task < state.nextTask ∧ (state.tasks task).conn = conn ∧
      packet = requestPacket (state.tasks task).id (state.tasks task).call

/-- The tables list calls that were made. -/
def Numbered (state : State Msg) : Prop :=
  ∀ other, ∀ entry ∈ (state.connections other).outgoingTasks.entries, entry.2 < state.nextTask

/-- A call stays the call it is; it does not recover from a failure, and it does not
succeed unless it may. -/
structure Keeps (conn : ConnRef) (exempt : Prop) (record next : CallTask Msg) : Prop where
  own : next.conn = record.conn
  id : next.id = record.id
  call : next.call = record.call
  failed : record.controller.failed = true → next.controller.failed = true
  settled : ¬ exempt → next.conn = conn → next.Succeeded →
    record.Succeeded ∧ next.response = record.response

/-- What all code does to the calls of the connection; only the exempt one may succeed. -/
structure Progress [Protobuf] (conn : ConnRef) (exempt : Option TaskRef)
    (before after : State Msg) : Prop where
  known : before.nextConn ≤ after.nextConn
  count : before.nextTask ≤ after.nextTask
  keeps : ∀ task < before.nextTask,
    Keeps conn (exempt = some task) (before.tasks task) (after.tasks task)
  fresh : ∀ task, before.nextTask ≤ task → task < after.nextTask → exempt ≠ some task →
    (after.tasks task).conn = conn → ¬ (after.tasks task).Succeeded
  packed : Packed conn before → Packed conn after
  numbered : Numbered before → Numbered after
  header : conn < before.nextConn →
    (after.connections conn).header = (before.connections conn).header ∧
      (after.connections conn).n = (before.connections conn).n

/-- Code that leaves the connection in its stage, unless it gets beyond all stages. -/
structure Passage [Protobuf] (conn : ConnRef) (exempt : Option TaskRef)
    (before after : State Msg) : Prop extends Progress conn exempt before after where
  beyond : Beyond conn before → Beyond conn after
  standing : ∀ stage, stage ≠ .fresh → At conn stage before → Stands conn stage after
  unknown : Unopened conn before → Unopened conn after ∨ Begun conn after

/-- Nothing that decides the stage of the connection differs. -/
structure Still (conn : ConnRef) (before after : State Msg) : Prop where
  known : after.nextConn = before.nextConn
  conns : after.conns = before.conns
  setUps : (after.setUps conn).Perm (before.setUps conn)
  stuck : before.stuck = true → after.stuck = true
  isOpen : (after.connections conn).socket.isOpen = (before.connections conn).socket.isOpen
  connecting : (after.connections conn).connecting = (before.connections conn).connecting
  overlapped : (after.connections conn).overlapped = (before.connections conn).overlapped
  destroyedAt : (after.connections conn).destroyedAt = (before.connections conn).destroyedAt

namespace Still

variable {conn : ConnRef} {before after : State Msg}

theorem beyond (still : Still conn before after) (beyond : Beyond conn before) :
    Beyond conn after := by
  rcases beyond with hangs | ⟨known, ended⟩
  · exact .inl (still.stuck hangs)
  · refine .inr ⟨?_, ?_⟩
    · rw [still.known]
      exact known
    · rw [still.destroyedAt, still.overlapped]
      exact ended

theorem at_stage {stage : Stage} (still : Still conn before after) (stands : At conn stage before) :
    At conn stage after where
  known := by
    rw [still.known]
    exact stands.known
  kinds := still.setUps.trans stands.kinds
  isOpen := still.isOpen.trans stands.isOpen
  resolves := fun resolves => still.connecting.trans (stands.resolves resolves)

theorem unknown (still : Still conn before after) (unknown : Unopened conn before) :
    Unopened conn after where
  later := by
    rw [still.known]
    exact unknown.later
  unmapped := by
    rw [still.conns]
    exact unknown.unmapped
  quiet := (still.setUps.trans (.of_eq unknown.quiet)).eq_nil

end Still

namespace Keeps

variable {conn : ConnRef} {exempt : Prop} {record middle next : CallTask Msg}

theorem refl (record : CallTask Msg) : Keeps conn exempt record record :=
  ⟨rfl, rfl, rfl, fun failed => failed, fun _ _ succeeded => ⟨succeeded, rfl⟩⟩

theorem trans (first : Keeps conn exempt record middle) (second : Keeps conn exempt middle next) :
    Keeps conn exempt record next where
  own := second.own.trans first.own
  id := second.id.trans first.id
  call := second.call.trans first.call
  failed := fun failed => second.failed (first.failed failed)
  settled := by
    intro ordinary mine succeeded
    obtain ⟨earlier, same⟩ := second.settled ordinary mine succeeded
    have mineThen : middle.conn = conn := second.own.symm.trans mine
    obtain ⟨succeededThen, sameThen⟩ := first.settled ordinary mineThen earlier
    exact ⟨succeededThen, same.trans sameThen⟩

end Keeps

section Relations

variable [Protobuf] {conn : ConnRef} {exempt : Option TaskRef} {before middle after state : State Msg}
  {stage : Stage} {task : TaskRef}

theorem Progress.refl (state : State Msg) : Progress conn exempt state state where
  known := Nat.le_refl _
  count := Nat.le_refl _
  keeps := fun _ _ => .refl _
  fresh := fun _ new bound => absurd bound (Nat.not_lt.mpr new)
  packed := id
  numbered := id
  header := fun _ => ⟨rfl, rfl⟩

theorem Progress.trans (first : Progress conn exempt before middle)
    (second : Progress conn exempt middle after) : Progress conn exempt before after where
  known := first.known.trans second.known
  count := first.count.trans second.count
  keeps := fun task bound =>
    (first.keeps task bound).trans (second.keeps task (bound.trans_le first.count))
  fresh := by
    intro task new bound ordinary mine succeeded
    by_cases older : task < middle.nextTask
    · have keeps := second.keeps task older
      obtain ⟨earlier, _⟩ := keeps.settled ordinary mine succeeded
      exact first.fresh task new older ordinary (keeps.own.symm.trans mine) earlier
    · exact second.fresh task (Nat.not_lt.mp older) bound ordinary mine succeeded
  packed := fun packed => second.packed (first.packed packed)
  numbered := fun numbered => second.numbered (first.numbered numbered)
  header := by
    intro known
    obtain ⟨header, n⟩ := first.header known
    obtain ⟨header', n'⟩ := second.header (known.trans_le first.known)
    exact ⟨header'.trans header, n'.trans n⟩

theorem Progress.of_tasks (known : before.nextConn ≤ after.nextConn)
    (count : after.nextTask = before.nextTask) (tasks : after.tasks = before.tasks)
    (packed : Packed conn before → Packed conn after)
    (numbered : Numbered before → Numbered after)
    (header : conn < before.nextConn →
      (after.connections conn).header = (before.connections conn).header ∧
        (after.connections conn).n = (before.connections conn).n) :
    Progress conn exempt before after where
  known := known
  count := Nat.le_of_eq count.symm
  keeps := by
    intro task _
    rw [tasks]
    exact .refl _
  fresh := by
    intro task new bound
    rw [count] at bound
    exact absurd bound (Nat.not_lt.mpr new)
  packed := packed
  numbered := numbered
  header := header

/-- An operation that is no write. -/
theorem Progress.start {op : Op} (other : ∀ task packet sent, op.kind ≠ .write task packet sent) :
    Progress conn exempt state (state.start op) := by
  refine .of_tasks (Nat.le_refl _) rfl rfl ?_ (fun numbered => numbered) fun _ => ⟨rfl, rfl⟩
  intro packed before member mine task packet sent kind
  rcases List.mem_append.mp member with old | new
  · exact packed before old mine task packet sent kind
  · rw [List.mem_singleton.mp new] at kind
    exact absurd kind (other task packet sent)

theorem Begun.passage (begun : Begun conn before) (passage : Passage conn exempt before after) :
    Begun conn after := by
  obtain ⟨task, stands⟩ := begun
  rcases stands with ended | stands
  · exact ⟨task, .inl (passage.beyond ended)⟩
  · exact ⟨task, passage.standing _ (by nofun) stands⟩

theorem Stands.passage (stands : Stands conn stage before) (started : stage ≠ .fresh)
    (passage : Passage conn exempt before after) : Stands conn stage after := by
  rcases stands with ended | stands
  · exact .inl (passage.beyond ended)
  · exact passage.standing stage started stands

namespace Passage

theorem of_still (progress : Progress conn exempt before after) (still : Still conn before after) :
    Passage conn exempt before after where
  toProgress := progress
  beyond := still.beyond
  standing := fun _ _ stands => .inr (still.at_stage stands)
  unknown := fun unknown => .inl (still.unknown unknown)

theorem refl (state : State Msg) : Passage conn exempt state state :=
  of_still (.refl state) ⟨rfl, rfl, .refl _, id, rfl, rfl, rfl, rfl⟩

theorem trans (first : Passage conn exempt before middle)
    (second : Passage conn exempt middle after) : Passage conn exempt before after where
  toProgress := first.toProgress.trans second.toProgress
  beyond := fun ended => second.beyond (first.beyond ended)
  standing := fun stage started stands => (first.standing stage started stands).passage started second
  unknown := by
    intro unknown
    rcases first.unknown unknown with later | begun
    · exact second.unknown later
    · exact .inr (begun.passage second)

/-- A change of one task. -/
theorem modifyTask {change : CallTask Msg → CallTask Msg}
    (keeps : Keeps conn (exempt = some task) (state.tasks task) (change (state.tasks task))) :
    Passage conn exempt state (state.modifyTask task change) := by
  have kept : ∀ other, Keeps conn (exempt = some other) (state.tasks other)
      ((state.modifyTask task change).tasks other) := by
    intro other
    rw [State.tasks_modifyTask]
    split
    · next same =>
        rw [same]
        exact keeps
    · exact .refl _
  apply of_still
  · refine ⟨Nat.le_refl _, Nat.le_refl _, fun other _ => kept other, ?_, ?_, id, fun _ => ⟨rfl, rfl⟩⟩
    · intro other new bound
      exact absurd bound (Nat.not_lt.mpr new)
    · intro packed op member mine other packet sent kind
      obtain ⟨bound, own, content⟩ := packed op member mine other packet sent kind
      refine ⟨bound, (kept other).own.trans own, ?_⟩
      rw [(kept other).id, (kept other).call]
      exact content
  · exact ⟨rfl, rfl, .refl _, id, rfl, rfl, rfl, rfl⟩

/-- A change of a task that has nothing to do with its outcome. -/
theorem note {change : CallTask Msg → CallTask Msg}
    (same : ∀ record, (change record).conn = record.conn ∧ (change record).id = record.id ∧
      (change record).call = record.call ∧ (change record).called = record.called ∧
      (change record).controller = record.controller ∧
      (change record).response = record.response) :
    Passage conn exempt state (state.modifyTask task change) := by
  obtain ⟨own, id, call, called, controller, response⟩ := same (state.tasks task)
  apply modifyTask
  refine ⟨own, id, call, ?_, ?_⟩
  · rw [controller]
    exact fun failed => failed
  · intro _ _ succeeded
    rw [CallTask.Succeeded, called, controller] at succeeded
    exact ⟨succeeded, response⟩

end Passage

/-- What a change of a connection must keep. -/
structure Unmoved (record next : RpcClientConnection) : Prop where
  isOpen : next.socket.isOpen = record.socket.isOpen
  connecting : next.connecting = record.connecting
  overlapped : next.overlapped = record.overlapped
  destroyedAt : next.destroyedAt = record.destroyedAt
  header : next.header = record.header
  n : next.n = record.n

theorem Progress.modifyConn {other : ConnRef} {change : RpcClientConnection → RpcClientConnection}
    (header : other = conn →
      (change (state.connections other)).header = (state.connections other).header ∧
        (change (state.connections other)).n = (state.connections other).n)
    (listed : ∀ entry ∈ (change (state.connections other)).outgoingTasks.entries,
      entry ∈ (state.connections other).outgoingTasks.entries ∨ entry.2 < state.nextTask) :
    Progress conn exempt state (state.modifyConn other change) := by
  refine .of_tasks (Nat.le_refl _) rfl rfl (fun packed => packed) ?_ ?_
  · intro numbered place entry member
    rw [State.connections_modifyConn] at member
    split at member
    · rcases listed entry member with old | bound
      · exact numbered other entry old
      · exact bound
    · exact numbered place entry member
  · intro _
    rw [State.connections_modifyConn]
    split
    · next mine =>
        rw [mine]
        exact header mine.symm
    · exact ⟨rfl, rfl⟩

namespace Passage

theorem modifyConn {other : ConnRef} {change : RpcClientConnection → RpcClientConnection}
    (unmoved : other = conn →
      Unmoved (state.connections other) (change (state.connections other)))
    (listed : ∀ entry ∈ (change (state.connections other)).outgoingTasks.entries,
      entry ∈ (state.connections other).outgoingTasks.entries ∨ entry.2 < state.nextTask) :
    Passage conn exempt state (state.modifyConn other change) := by
  have same : Unmoved (state.connections conn) ((state.modifyConn other change).connections conn) := by
    rw [State.connections_modifyConn]
    split
    · next mine =>
        rw [mine]
        exact unmoved mine.symm
    · exact ⟨rfl, rfl, rfl, rfl, rfl, rfl⟩
  apply of_still
  · exact .modifyConn (fun mine => ⟨(unmoved mine).header, (unmoved mine).n⟩) listed
  · exact ⟨rfl, rfl, .refl _, id, same.isOpen, same.connecting, same.overlapped, same.destroyedAt⟩

theorem elsewhere {other : ConnRef} {change : RpcClientConnection → RpcClientConnection}
    (different : other ≠ conn)
    (same : ∀ record, (change record).outgoingTasks = record.outgoingTasks) :
    Passage conn exempt state (state.modifyConn other change) := by
  apply modifyConn
  · exact fun mine => absurd mine different
  · rw [same]
    exact fun _ => .inl

theorem withOps {ops : List Op}
    (setUps : (({ state with ops := ops } : State Msg).setUps conn).Perm (state.setUps conn))
    (packed : Packed conn state → Packed conn { state with ops := ops }) :
    Passage conn exempt state { state with ops := ops } := by
  apply of_still
  · exact .of_tasks (Nat.le_refl _) rfl rfl packed id fun _ => ⟨rfl, rfl⟩
  · exact ⟨rfl, rfl, setUps, id, rfl, rfl, rfl, rfl⟩

theorem start {op : Op} (quiet : op.conn = conn → op.kind.setsUp = false)
    (packed : op.conn = conn → ∀ task packet sent, op.kind = .write task packet sent →
      task < state.nextTask ∧ (state.tasks task).conn = conn ∧
        packet = requestPacket (state.tasks task).id (state.tasks task).call) :
    Passage conn exempt state (state.start op) := by
  apply withOps
  · have none : (decide (op.conn = conn) && op.kind.setsUp) = false := by
      by_cases mine : op.conn = conn
      · simp [quiet mine]
      · simp [mine]
    simp [State.setUps, List.filter_append, none]
  · intro before other member mine task packet sent kind
    rcases List.mem_append.mp member with old | new
    · exact before other old mine task packet sent kind
    · rw [List.mem_singleton.mp new] at mine kind
      exact packed mine task packet sent kind

theorem cancel (selected : Op → Bool) : Passage conn exempt state (state.cancel selected) := by
  apply withOps
  · exact .of_eq (State.setUps_cancel selected)
  · intro packed op member mine task packet sent kind
    obtain ⟨old, present, rfl⟩ := List.mem_map.mp member
    obtain ⟨sameConn, sameKind⟩ := State.cancelled_same selected old
    rw [sameConn] at mine
    rw [sameKind] at kind
    exact packed old present mine task packet sent kind

theorem getStuck : Passage conn exempt state { state with stuck := true } := by
  apply of_still
  · exact .of_tasks (Nat.le_refl _) rfl rfl id id fun _ => ⟨rfl, rfl⟩
  · exact ⟨rfl, rfl, .refl _, fun _ => rfl, rfl, rfl, rfl, rfl⟩

theorem borrow : Passage conn exempt state (state.borrow task) :=
  note fun _ => ⟨rfl, rfl, rfl, rfl, rfl, rfl⟩

theorem setFailed {reason : String} {code : ErrorCode} :
    Passage conn exempt state (state.setFailed task reason code) := by
  apply borrow.trans
  apply modifyTask
  refine ⟨rfl, rfl, rfl, fun _ => rfl, ?_⟩
  intro _ _ succeeded
  cases succeeded.2

theorem closeSocket {other : ConnRef} (different : other ≠ conn) :
    Passage conn exempt state (state.closeSocket other) :=
  (cancel _).trans (elsewhere different fun _ => rfl)

theorem setupTaskTimer (task : TaskRef) :
    Passage conn exempt state (state.setupTaskTimer task) := by
  unfold State.setupTaskTimer
  simp only
  split
  · exact (borrow.trans (cancel _)).trans (start (fun _ => rfl) nofun)
  · exact borrow

theorem asyncConnect {other : ConnRef} (different : other ≠ conn) :
    Passage conn exempt state (state.asyncConnect other task) := by
  have opened : Passage conn exempt (state.closeSocket other)
      ((state.closeSocket other).openSocket other) := elsewhere different fun _ => rfl
  exact ((closeSocket different).trans opened).trans
    (start (fun same => absurd same different) nofun)

end Passage

end Relations

section Calls

variable [Protobuf] {conn other : ConnRef} {exempt : Option TaskRef} {state : State Msg}
  {body : State Msg → State Msg} {task : TaskRef}

theorem passage_newTask (call : Call Msg) (done : Closure Msg) :
    Passage conn exempt state (state.newTask other call done) := by
  have counted : Passage conn exempt state (state.modifyConn other fun connection =>
      { connection with id := (state.connections other).id + 1 }) :=
    .modifyConn (fun _ => ⟨rfl, rfl, rfl, rfl, rfl, rfl⟩) fun _ => .inl
  have older : ∀ task < state.nextTask,
      (state.newTask other call done).tasks task = state.tasks task :=
    fun task bound => State.tasks_newTask_of_ne (Nat.ne_of_lt bound)
  apply Passage.trans counted
  apply Passage.of_still
  · refine ⟨Nat.le_refl _, Nat.le_succ _, ?_, ?_, ?_, ?_, fun _ => ⟨rfl, rfl⟩⟩
    · intro task bound
      rw [older task bound]
      exact .refl _
    · intro task new bound _ _ succeeded
      have same : task = state.nextTask := Nat.le_antisymm (Nat.lt_succ_iff.mp bound) new
      rw [same, State.tasks_newTask_self] at succeeded
      cases succeeded.1
    · intro packed op member mine task packet sent kind
      obtain ⟨bound, own, content⟩ := packed op member mine task packet sent kind
      have bound : task < state.nextTask := bound
      rw [older task bound]
      exact ⟨Nat.lt_succ_of_lt bound, own, content⟩
    · intro numbered place entry member
      exact Nat.lt_succ_of_lt (numbered place entry member)
  · exact ⟨rfl, rfl, .refl _, id, rfl, rfl, rfl, rfl⟩

theorem passage_runDone (passes : ∀ state, Passage conn exempt state (body state))
    (bound : task < state.nextTask)
    (fails : exempt ≠ some task → (state.tasks task).conn = conn →
      (state.tasks task).controller.failed = true) :
    Passage conn exempt state (state.runDone body task) := by
  have begun : Passage conn exempt state ((state.borrow task).modifyTask task fun record =>
      { record with runs := record.runs + 1 }) :=
    Passage.borrow.trans (.note fun _ => ⟨rfl, rfl, rfl, rfl, rfl, rfl⟩)
  have ended : ∀ ran, Passage conn exempt state ran → Passage conn exempt state
      (ran.modifyTask task fun record => { record with called := true }) := by
    intro ran passage
    have keeps := passage.keeps task bound
    apply passage.trans
    apply Passage.modifyTask
    refine ⟨rfl, rfl, rfl, fun failed => failed, ?_⟩
    intro ordinary mine succeeded
    have failed := keeps.failed (fails ordinary (keeps.own.symm.trans mine))
    cases failed.symm.trans succeeded.2
  have ran := begun.trans (passes _)
  unfold State.runDone
  apply ended
  split
  · exact ran
  · exact ran.trans .setFailed

theorem passage_finishTask (passes : ∀ state, Passage conn exempt state (body state))
    (bound : task < state.nextTask)
    (fails : exempt ≠ some task → (state.tasks task).conn = conn →
      (state.tasks task).controller.failed = true) :
    Passage conn exempt state (state.finishTask body task) := by
  have cancelled : Passage conn exempt state (state.cancelTimer task) := .cancel _
  unfold State.finishTask
  simp only
  split
  · exact cancelled
  · exact cancelled.trans (passage_runDone passes bound fails)

omit [Protobuf] in
theorem failed_setFailed (reason : String) (code : ErrorCode) :
    ((state.setFailed task reason code).tasks task).controller.failed = true := by
  rw [State.setFailed, State.tasks_modifyTask, if_pos rfl]
  rfl

/-- The packet goes out with the id and the content of the task. -/
theorem passage_dispatch {packet : List UInt8} (bound : task < state.nextTask)
    (own : (state.tasks task).conn = other)
    (content : packet = requestPacket (state.tasks task).id (state.tasks task).call) :
    Passage conn exempt state (state.dispatch other task packet) := by
  have noted : Passage conn exempt state (state.modifyTask task fun record =>
      { record with state := .writeToServer, writes := record.writes + 1, packet := packet }) :=
    .note fun _ => ⟨rfl, rfl, rfl, rfl, rfl, rfl⟩
  have keeps := noted.keeps task bound
  apply noted.trans
  apply Passage.start
  · exact fun _ => rfl
  · intro mine sending written sent kind
    obtain ⟨rfl, rfl, rfl⟩ := OpKind.write.inj kind
    refine ⟨bound, ?_, ?_⟩
    · exact keeps.own.trans (own.trans mine)
    · rw [keeps.id, keeps.call]
      exact content

theorem passage_startCall (passes : ∀ state, Passage conn exempt state (body state))
    (bound : task < state.nextTask) : Passage conn exempt state (state.startCall body task) := by
  have lent : Passage conn exempt state (state.borrow task) := .borrow
  have failing : ∀ ready reason code, Passage conn exempt state ready →
      Passage conn exempt state ((ready.setFailed task reason code).finishTask body task) := by
    intro ready reason code passage
    have failed : Passage conn exempt state (ready.setFailed task reason code) :=
      passage.trans .setFailed
    apply failed.trans
    apply passage_finishTask passes (bound.trans_le failed.count)
    exact fun _ _ => failed_setFailed reason code
  unfold State.startCall
  simp only
  split
  · exact lent.trans .getStuck
  · next buf expanded grown =>
      have sized : Passage conn exempt state ((state.borrow task).modifyTask task fun record =>
          { record with buf := buf }) := lent.trans (.note fun _ => ⟨rfl, rfl, rfl, rfl, rfl, rfl⟩)
      split
      · exact failing _ _ _ sized
      split
      · exact failing _ _ _ sized
      split
      · exact failing _ _ _ sized
      · have inserted : Passage conn exempt state
            (((state.borrow task).modifyTask task fun record =>
              { record with buf := buf }).modifyConn ((state.borrow task).tasks task).conn
                fun connection => { connection with
                  outgoingTasks := connection.outgoingTasks.insert
                    ((state.borrow task).tasks task).id task }) := by
          apply sized.trans
          apply Passage.modifyConn
          · exact fun _ => ⟨rfl, rfl, rfl, rfl, rfl, rfl⟩
          · intro entry member
            rcases OrderedMap.mem_of_mem_insert member with rfl | old
            · exact .inr bound
            · exact .inl old
        have ready := inserted.trans (.setupTaskTimer task)
        have keeps := ready.keeps task bound
        have before := lent.keeps task bound
        apply ready.trans
        apply passage_dispatch
        · exact bound.trans_le ready.count
        · exact keeps.own.trans before.own.symm
        · rw [keeps.id, keeps.call, ← before.id, ← before.call]
          rfl

/-- A closed connection is resolved for the call; where it is being resolved already, the
resolutions overlap. -/
theorem passage_resolve (unknown : Unopened conn state → other ≠ conn)
    (closed : (state.connections other).socket.isOpen = false) :
    Passage conn exempt state (state.resolve other task) := by
  by_cases different : other = conn
  · subst different
    have started : Progress other exempt state (state.start ⟨other, .resolve task, .pending⟩) :=
      .start (by rintro writer packet sent ⟨⟩)
    have connection : (state.resolve other task).connections other =
        { state.connections other with
          connecting := true
          overlapped :=
            (state.connections other).overlapped || (state.connections other).connecting } := by
      rw [State.resolve, State.connections_modifyConn, if_pos rfl]
      rfl
    have flagged : Progress other exempt (state.start ⟨other, .resolve task, .pending⟩)
        (state.resolve other task) := by
      refine Progress.of_tasks (Nat.le_refl _) rfl rfl id ?_ ?_
      · intro numbered place entry member
        rw [State.resolve, State.connections_modifyConn] at member
        split at member
        · exact numbered other entry member
        · exact numbered place entry member
      · intro _
        rw [connection]
        exact ⟨rfl, rfl⟩
    refine ⟨started.trans flagged, ?_, ?_, ?_⟩
    · intro ended
      rcases ended with hangs | ⟨known, ended⟩
      · exact .inl hangs
      · refine .inr ⟨known, ?_⟩
        rw [connection]
        refine ended.imp id fun overlapped => ?_
        simp [overlapped]
    · intro stage started stands
      -- a closed connection that is not fresh is being resolved
      have resolving : (state.connections other).connecting = true := by
        apply stands.resolves
        have isOpen := stands.isOpen.symm.trans closed
        cases stage with
        | resolving => rfl
        | fresh => exact absurd rfl started
        | connecting | linked | reading => cases isOpen
      refine .inl (.inr ⟨stands.known, .inr ?_⟩)
      rw [connection]
      simp [resolving]
    · exact fun later => absurd rfl (unknown later)
  · have started : Passage conn exempt state (state.start ⟨other, .resolve task, .pending⟩) :=
      .start (fun same => absurd same different) (by rintro - writer packet sent ⟨⟩)
    exact started.trans (.elsewhere different fun _ => rfl)

theorem passage_issue (passes : ∀ state, Passage conn exempt state (body state))
    (unknown : Unopened conn state → other ≠ conn) (call : Call Msg) (done : Closure Msg) :
    Passage conn exempt state (state.issue body other call done) := by
  have added : Passage conn exempt state (state.newTask other call done) :=
    passage_newTask call done
  unfold State.issue
  simp only
  split
  · next closed =>
      apply Passage.trans _ (.setupTaskTimer _)
      refine Passage.trans ?_ (.note fun _ => ⟨rfl, rfl, rfl, rfl, rfl, rfl⟩)
      apply added.trans
      apply passage_resolve
      · intro later
        exact unknown ⟨later.later, later.unmapped, later.quiet⟩
      · simpa using closed
  · exact added.trans (passage_startCall passes (Nat.lt_succ_self _))

/-- The first call of a connection. -/
theorem begun_issue (fresh : At conn .fresh state) (call : Call Msg) (done : Closure Msg) :
    Begun conn (state.issue body conn call done) := by
  have added := (passage_newTask call done : Passage conn none state
    (state.newTask conn call done))
  have kinds : (state.newTask conn call done).setUps conn = [] := fresh.kinds.eq_nil
  have connection : (state.newTask conn call done).connections conn =
      { state.connections conn with id := (state.connections conn).id + 1 } := by
    simp [State.newTask]
  have closed : ((state.newTask conn call done).connections conn).socket.isOpen = false := by
    rw [connection]
    exact fresh.isOpen
  have resolving : At conn (.resolving state.nextTask)
      ((state.newTask conn call done).resolve conn state.nextTask) := by
    refine ⟨fresh.known, ?_, ?_, ?_⟩
    · have none : ((state.newTask conn call done).ops.filter fun op =>
          op.conn = conn && op.kind.setsUp) = [] := List.map_eq_nil_iff.mp kinds
      simp only [State.setUps, State.resolve, State.modifyConn, State.start, List.filter_append, none]
      simp [OpKind.setsUp, OpKind.isAttempt, Stage.kinds]
    · rw [State.resolve, State.connections_modifyConn, if_pos rfl]
      exact closed
    · intro _
      rw [State.resolve, State.connections_modifyConn, if_pos rfl]
  unfold State.issue
  simp only [closed, Bool.not_false, if_true]
  refine ⟨state.nextTask, ?_⟩
  have stands : Stands conn (.resolving state.nextTask)
      ((state.newTask conn call done).resolve conn state.nextTask) := .inr resolving
  have marked : Passage conn none ((state.newTask conn call done).resolve conn state.nextTask)
      (((state.newTask conn call done).resolve conn state.nextTask).modifyTask state.nextTask
        fun record => { record with state := .connectToServer }) :=
    .note fun _ => ⟨rfl, rfl, rfl, rfl, rfl, rfl⟩
  exact stands.passage (by rintro ⟨⟩) (marked.trans (.setupTaskTimer _))

theorem progress_openConnection (host service : String) :
    Progress conn exempt state (state.openConnection host service) := by
  refine Progress.of_tasks (Nat.le_succ _) rfl rfl (fun packed => packed) ?_ ?_
  · intro numbered place entry member
    by_cases new : place = state.nextConn
    · subst new
      rw [connections_openConnection_self] at member
      cases member
    · simp only [State.openConnection, Function.update_of_ne new] at member
      exact numbered place entry member
  · intro known
    simp only [State.openConnection, Function.update_of_ne (Nat.ne_of_lt known), and_self]

/-- A connection other than the one that is opened. -/
theorem passage_openConnection {host service : String} (other : conn ≠ state.nextConn) :
    Passage conn exempt state (state.openConnection host service) where
  toProgress := progress_openConnection host service
  beyond := by
    intro ended
    rcases ended with hangs | ⟨known, ended⟩
    · exact .inl hangs
    · refine .inr ⟨Nat.lt_succ_of_lt known, ?_⟩
      simp only [State.openConnection, Function.update_of_ne other]
      exact ended
  standing := by
    intro stage _ stands
    obtain ⟨known, kinds, isOpen, resolves⟩ := stands
    refine .inr ⟨Nat.lt_succ_of_lt known, kinds, ?_, ?_⟩
    · simp only [State.openConnection, Function.update_of_ne other]
      exact isOpen
    · simp only [State.openConnection, Function.update_of_ne other]
      exact resolves
  unknown := by
    intro unknown
    refine .inl ⟨Nat.lt_of_le_of_ne unknown.later (Ne.symm other), ?_, unknown.quiet⟩
    intro entry member
    rcases OrderedMap.mem_of_mem_insert member with rfl | old
    · exact Ne.symm other
    · exact unknown.unmapped entry old

theorem passage_callMethod (passes : ∀ state, Passage conn exempt state (body state))
    (call : Call Msg) (done : Closure Msg) :
    Passage conn exempt state (state.callMethod body call done) := by
  unfold State.callMethod
  simp only
  split
  · let opened := state.openConnection call.controller.host call.controller.service
    by_cases mine : conn = state.nextConn
    · -- the connection comes into being with this call
      subst mine
      have passing : Passage state.nextConn exempt opened
          (opened.issue body state.nextConn call done) := by
        apply passage_issue passes
        exact fun unknown => absurd unknown.later (Nat.not_le.mpr (Nat.lt_succ_self _))
      refine ⟨(progress_openConnection _ _).trans passing.toProgress, ?_, ?_, ?_⟩
      · intro ended
        rcases ended with hangs | ⟨known, _⟩
        · exact passing.beyond (.inl hangs)
        · exact absurd known (Nat.lt_irrefl _)
      · exact fun stage _ stands => absurd stands.known (Nat.lt_irrefl _)
      · intro unknown
        have connection : opened.connections state.nextConn =
            { host := call.controller.host, service := call.controller.service } :=
          connections_openConnection_self _ _ _
        have fresh : At state.nextConn .fresh opened := by
          refine ⟨Nat.lt_succ_self _, .of_eq unknown.quiet, ?_, nofun⟩
          rw [connection]
          rfl
        exact .inr (begun_issue fresh call done)
    · apply (passage_openConnection mine).trans
      apply passage_issue passes
      exact fun _ => Ne.symm mine
  · next other found =>
      apply passage_issue passes
      intro unknown
      exact unknown.unmapped _ (OrderedMap.find?_eq_some_iff.mp found)

theorem passage_run (done : Closure Msg) : ∀ state, Passage conn exempt state (done.run state) := by
  induction done with
  | returns => exact .refl
  | throws what => exact .refl
  | callMethod call done next inner outer =>
      intro state
      exact (passage_callMethod inner call done).trans (outer _)

theorem passage_failTask {reason : String} {code : ErrorCode} (bound : task < state.nextTask) :
    Passage conn exempt state (state.failTask reason code task) := by
  have failed : Passage conn exempt state (state.setFailed task reason code) := .setFailed
  unfold State.failTask
  split
  · exact .refl state
  · apply failed.trans
    apply passage_runDone (passage_run _) (bound.trans_le failed.count)
    exact fun _ _ => failed_setFailed reason code

theorem passage_destroyLoop (reason : String) (entries : List (Nat × TaskRef)) :
    ∀ state : State Msg, (∀ entry ∈ entries, entry.2 < state.nextTask) →
      Passage conn exempt state (entries.foldl
        (fun state entry => (state.cancelTimer entry.2).failTask reason .failed entry.2) state) := by
  induction entries with
  | nil => exact fun state _ => .refl state
  | cons entry rest ih =>
      intro state bounds
      have cancelled : Passage conn exempt state (state.cancelTimer entry.2) := .cancel _
      have round : Passage conn exempt state
          ((state.cancelTimer entry.2).failTask reason .failed entry.2) :=
        cancelled.trans (passage_failTask (bounds entry List.mem_cons_self))
      apply round.trans
      apply ih
      intro other member
      exact (bounds other (List.mem_cons_of_mem _ member)).trans_le round.count

theorem progress_destroy {reason : SystemError} (numbered : Numbered state) :
    Progress conn exempt state (state.destroy other reason) := by
  let closed := (state.cancelResolver other).closeSocket other
  have shut : Progress conn exempt (state.cancelResolver other) closed :=
    (Passage.cancel _).toProgress.trans (.modifyConn (fun _ => ⟨rfl, rfl⟩) fun _ => .inl)
  have closing : Progress conn exempt state closed := (Passage.cancel _).toProgress.trans shut
  have loop : Passage conn exempt closed _ :=
    passage_destroyLoop ("rpc failed: " ++ reason.message) _ closed
      (closing.numbered numbered other)
  unfold State.destroy
  simp only
  apply (closing.trans loop.toProgress).trans
  apply Progress.modifyConn
  · exact fun _ => ⟨rfl, rfl⟩
  · nofun

/-- A connection does not come back from its destruction. -/
theorem beyond_destroy {reason : SystemError} (known : conn < state.nextConn)
    (numbered : Numbered state) : Beyond conn (state.destroy conn reason) := by
  have progress : Progress conn none state (state.destroy conn reason) := progress_destroy numbered
  refine .inr ⟨known.trans_le progress.known, .inl ?_⟩
  unfold State.destroy
  simp only
  rw [State.connections_modifyConn, if_pos rfl]
  nofun

/-- The destruction of another connection leaves it alone. -/
theorem passage_destroy {reason : SystemError} (known : other < state.nextConn)
    (numbered : Numbered state) : Passage conn exempt state (state.destroy other reason) := by
  by_cases different : other = conn
  · subst different
    have beyond : Beyond other (state.destroy other reason) := beyond_destroy known numbered
    refine ⟨progress_destroy numbered, fun _ => beyond, fun _ _ _ => .inl beyond, ?_⟩
    exact fun unknown => absurd known (Nat.not_lt.mpr unknown.later)
  · let closed := (state.cancelResolver other).closeSocket other
    have closing : Passage conn exempt state closed :=
      (Passage.cancel _).trans (.closeSocket different)
    have loop : Passage conn exempt closed _ :=
      passage_destroyLoop ("rpc failed: " ++ reason.message) _ closed
        (closing.numbered numbered other)
    unfold State.destroy
    simp only
    apply (closing.trans loop).trans
    apply Passage.modifyConn
    · exact fun same => absurd same different
    · nofun

end Calls

end CarrotRpc.Client
