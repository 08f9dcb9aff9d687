import CarrotRpc.Protob.WireFormat
import CarrotRpc.Server.SimpleServerProperties

/-! The simple server's pool of `rpc_connection` objects, between callbacks. -/

set_option autoImplicit false

namespace CarrotRpc.Server.Simple.State

open Library Common Protob

def InUse (state : State) (conn : ConnRef) : Prop := (conn, conn) ∈ state.inUse.entries

instance (state : State) (conn : ConnRef) : Decidable (state.InUse conn) :=
  inferInstanceAs (Decidable ((conn, conn) ∈ state.inUse.entries))

/-- Every object is in one of the two collections and occurs there once. Those in use
are alive, with a descriptor each, and no other client descriptor is open. -/
structure Pooled (state : State) : Prop where
  unique : state.unused.Nodup
  keyed : ∀ entry ∈ state.inUse.entries, entry.1 = entry.2
  allocated : ∀ conn, (state.connections conn).allocated = true ↔
    conn ∈ state.unused ∨ state.InUse conn
  separate : ∀ conn ∈ state.unused, ¬ state.InUse conn
  alive : ∀ conn, (state.connections conn).alive = true ↔ state.InUse conn
  distinct : ∀ conn other, state.InUse conn → state.InUse other →
    (state.connections conn).clientFd = (state.connections other).clientFd → conn = other
  opened : ∀ fd, fd ∈ state.openFds ↔
    ∃ conn, state.InUse conn ∧ (state.connections conn).clientFd = fd
  buffers : state.lostBuffers = 0

section Condition

variable {Msg : Type}

/-- A client that is accepted gets an object, and its event is added to the reactor. -/
def Registering (state : State) : Label Msg → Prop
  | .accept (.client _ _) allocates registers =>
      (state.unused ≠ [] ∨ allocates = true) ∧ registers = true
  | .accept .failed _ _ | .readable _ _ => True

instance (state : State) (label : Label Msg) : Decidable (Registering state label) := by
  unfold Registering
  split <;> infer_instance

end Condition

/-- No object is in both collections, nor is the object `lent` that a callback has taken
out of them. -/
structure Apart (lent : Option ConnRef) (state : State) : Prop where
  unique : state.unused.Nodup
  keyed : ∀ entry ∈ state.inUse.entries, entry.1 = entry.2
  separate : ∀ conn ∈ state.unused, ¬ state.InUse conn
  outside : ∀ conn, lent = some conn → conn ∉ state.unused ∧ ¬ state.InUse conn
  numbered : ∀ conn, conn ∈ state.unused ∨ state.InUse conn ∨ lent = some conn →
    conn < state.nextConn

/-- The pool while a callback has taken the object `lent` out of it. -/
structure PoolKept (lent : Option ConnRef) (state : State) : Prop extends Apart lent state where
  allocated : ∀ conn, (state.connections conn).allocated = true ↔
    conn ∈ state.unused ∨ state.InUse conn ∨ lent = some conn
  alive : ∀ conn, (state.connections conn).alive = true ↔ state.InUse conn
  distinct : ∀ conn other, state.InUse conn → state.InUse other →
    (state.connections conn).clientFd = (state.connections other).clientFd → conn = other
  opened : ∀ fd, fd ∈ state.openFds ↔
    ∃ conn, state.InUse conn ∧ (state.connections conn).clientFd = fd
  buffers : state.lostBuffers = 0

section Operations

variable {state : State} {conn : ConnRef}

theorem PoolKept.pooled (kept : state.PoolKept none) : state.Pooled where
  unique := kept.unique
  keyed := kept.keyed
  allocated := fun conn => by
    rw [kept.allocated]
    simp
  separate := kept.separate
  alive := kept.alive
  distinct := kept.distinct
  opened := kept.opened
  buffers := kept.buffers

theorem Apart.congr {other : State} {lent : Option ConnRef} (apart : state.Apart lent)
    (unused : other.unused = state.unused) (inUse : other.inUse = state.inUse)
    (nextConn : other.nextConn = state.nextConn) : other.Apart lent := by
  constructor
  case unique => exact unused ▸ apart.unique
  case keyed => exact inUse ▸ apart.keyed
  case separate =>
    simp only [InUse, unused, inUse]
    exact apart.separate
  case outside =>
    simp only [InUse, unused, inUse]
    exact apart.outside
  case numbered =>
    simp only [InUse, unused, inUse, nextConn]
    exact apart.numbered

/-- The accepted descriptor does not influence which object is taken. -/
theorem takeConnection_openFds (openFds : Finset Nat) :
    State.takeConnection { state with openFds } =
      (state.takeConnection.1, { state.takeConnection.2 with openFds }) := by
  unfold State.takeConnection
  cases state.unused.getLast? <;> rfl

/-- The object a callback takes is the last unused one, or new. -/
theorem takeConnection_cases :
    (∃ rest conn, state.unused = rest ++ [conn] ∧
      state.takeConnection = (conn, { state with unused := rest })) ∨
    (state.unused = [] ∧ state.takeConnection =
      (state.nextConn, { state.modifyConn state.nextConn fun _ => { allocated := true } with
        nextConn := state.nextConn + 1 })) := by
  unfold State.takeConnection
  cases last : state.unused.getLast? with
  | some conn =>
      obtain ⟨rest, same⟩ := List.getLast?_eq_some_iff.mp last
      refine .inl ⟨rest, conn, same, ?_⟩
      simp only [same, List.dropLast_concat]
  | none => exact .inr ⟨List.getLast?_eq_none_iff.mp last, rfl⟩

theorem Apart.takeConnection (apart : state.Apart none) :
    state.takeConnection.2.Apart (some state.takeConnection.1) := by
  rcases takeConnection_cases with ⟨rest, conn, same, taken⟩ | ⟨empty, taken⟩
  · rw [taken]
    have unique := apart.unique
    rw [same] at unique
    obtain ⟨restUnique, -, others⟩ := List.nodup_append.mp unique
    have member : ∀ other, other ∈ rest ∨ other = conn → other ∈ state.unused := fun other => by
      rw [same, List.mem_append, List.mem_singleton]
      exact id
    refine ⟨restUnique, apart.keyed, fun other found => ?_, ?_, fun other found => ?_⟩
    · exact apart.separate other (member other (.inl found))
    · rintro other ⟨rfl⟩
      exact ⟨fun found => others conn found conn (List.mem_singleton_self conn) rfl,
        apart.separate conn (member conn (.inr rfl))⟩
    · rcases found with unused | inUse | lent
      · exact apart.numbered other (.inl (member other (.inl unused)))
      · exact apart.numbered other (.inr (.inl inUse))
      · cases lent
        exact apart.numbered conn (.inl (member conn (.inr rfl)))
  · rw [taken]
    have fresh : ¬ state.InUse state.nextConn := fun inUse =>
      Nat.lt_irrefl _ (apart.numbered _ (.inr (.inl inUse)))
    refine ⟨apart.unique, apart.keyed, apart.separate, ?_, fun other found => ?_⟩
    · rintro other ⟨rfl⟩
      refine ⟨?_, fresh⟩
      simp only [State.modifyConn, empty]
      exact List.not_mem_nil
    · rcases found with unused | inUse | lent
      · exact Nat.lt_succ_of_lt (apart.numbered other (.inl unused))
      · exact Nat.lt_succ_of_lt (apart.numbered other (.inr (.inl inUse)))
      · cases lent
        exact Nat.lt_succ_self _

theorem PoolKept.takeConnection (kept : state.PoolKept none) :
    state.takeConnection.2.PoolKept (some state.takeConnection.1) := by
  have apart := kept.toApart.takeConnection
  rcases takeConnection_cases with ⟨rest, conn, same, taken⟩ | ⟨-, taken⟩
  · rw [taken] at apart ⊢
    refine ⟨apart, fun other => ?_, kept.alive, kept.distinct, kept.opened, kept.buffers⟩
    refine (kept.allocated other).trans ?_
    rw [same, List.mem_append, List.mem_singleton, or_assoc]
    refine or_congr_right ?_
    constructor
    · rintro (rfl | inUse | lent)
      · exact .inr rfl
      · exact .inl inUse
      · cases lent
    · rintro (inUse | lent)
      · exact .inr (.inl inUse)
      · exact .inl (Option.some.inj lent).symm
  · rw [taken] at apart ⊢
    have fresh : ¬ state.InUse state.nextConn := (apart.outside _ rfl).2
    have others : ∀ other, state.InUse other → other ≠ state.nextConn := by
      rintro other inUse rfl
      exact fresh inUse
    have changed : ∀ other, (state.modifyConn state.nextConn fun _ =>
        { allocated := true }).connections other =
        if other = state.nextConn then { allocated := true } else state.connections other :=
      fun other => connections_modifyConn ..
    refine ⟨apart, fun other => ?_, fun other => ?_,
      fun first second firstUsed secondUsed same => ?_, fun fd => ?_, kept.buffers⟩
    · simp only [changed]
      split
      · next new => exact iff_of_true rfl (.inr (.inr (congrArg some new.symm)))
      · next old =>
          refine (kept.allocated other).trans (or_congr_right (or_congr_right ?_))
          exact iff_of_false nofun fun new => old (Option.some.inj new).symm
    · simp only [changed]
      split
      · next new => exact iff_of_false nofun (new ▸ fresh)
      · exact kept.alive other
    · simp only [changed, if_neg (others _ firstUsed), if_neg (others _ secondUsed)] at same
      exact kept.distinct first second firstUsed secondUsed same
    · refine (kept.opened fd).trans (exists_congr fun other => and_congr_right fun inUse => ?_)
      simp only [changed, if_neg (others other inUse)]

/-- Entering the map. -/
theorem Apart.insert (apart : state.Apart (some conn)) :
    Apart none { state with inUse := state.inUse.insert conn conn } := by
  obtain ⟨notUnused, notInUse⟩ := apart.outside conn rfl
  have entered : ∀ other, (other, other) ∈ (state.inUse.insert conn conn).entries →
      other = conn ∨ state.InUse other := fun other member => by
    rcases OrderedMap.mem_of_mem_insert member with same | old
    · exact .inl (Prod.mk.inj same).1
    · exact .inr old
  refine ⟨apart.unique, fun entry member => ?_, fun other unused inUse => ?_, nofun,
    fun other found => ?_⟩
  · rcases OrderedMap.mem_of_mem_insert member with rfl | old
    · rfl
    · exact apart.keyed entry old
  · rcases entered other inUse with rfl | old
    · exact notUnused unused
    · exact apart.separate other unused old
  · rcases found with unused | inUse | lent
    · exact apart.numbered other (.inl unused)
    · rcases entered other inUse with rfl | old
      · exact apart.numbered _ (.inr (.inr rfl))
      · exact apart.numbered other (.inr (.inl old))
    · cases lent

/-- The object gets the accepted descriptor and enters the map. -/
theorem PoolKept.register {fd : Nat} (kept : state.PoolKept (some conn)) (fresh : fd ∉ state.openFds)
    (incoming : Incoming) :
    PoolKept none
      { state.modifyConn conn fun record =>
          { record with
            clientFd := fd
            alive := true
            endpoint := { buf := record.endpoint.buf, incoming, sent := [] } } with
        openFds := insert fd state.openFds
        inUse := state.inUse.insert conn conn } := by
  obtain ⟨notUnused, notInUse⟩ := kept.outside conn rfl
  have absent : state.inUse.find? conn = none :=
    OrderedMap.find?_eq_none_iff.mpr fun value member => by
      obtain rfl : conn = value := kept.keyed _ member
      exact notInUse member
  have entered : ∀ entry, entry ∈ (state.inUse.insert conn conn).entries ↔
      entry = (conn, conn) ∨ entry ∈ state.inUse.entries :=
    fun entry => OrderedMap.mem_insert_iff absent
  have inUse : ∀ other, (other, other) ∈ (state.inUse.insert conn conn).entries ↔
      other = conn ∨ state.InUse other := fun other => by
    rw [entered, Prod.mk.injEq, and_self]
    rfl
  have others : ∀ other, state.InUse other → other ≠ conn := by
    rintro other used rfl
    exact notInUse used
  have unopened : ∀ other, state.InUse other → (state.connections other).clientFd ≠ fd := by
    rintro other used rfl
    exact fresh ((kept.opened _).mpr ⟨other, used, rfl⟩)
  refine ⟨kept.toApart.insert.congr rfl rfl rfl, fun other => ?_, fun other => ?_,
    fun first second firstUsed secondUsed same => ?_, fun number => ?_, kept.buffers⟩
  · simp only [InUse, inUse, connections_modifyConn, reduceCtorEq, or_false]
    split
    · next same =>
        subst same
        exact iff_of_true ((kept.allocated _).mpr (.inr (.inr rfl))) (.inr (.inl rfl))
    · next different =>
        refine (kept.allocated other).trans (or_congr_right ?_)
        rw [or_iff_left fun same => different (Option.some.inj same).symm]
        exact (or_iff_right different).symm
  · simp only [InUse, inUse, connections_modifyConn]
    split
    · next same => exact iff_of_true rfl (.inl same)
    · next different => exact (kept.alive other).trans (or_iff_right different).symm
  · simp only [InUse, inUse] at firstUsed secondUsed
    simp only [connections_modifyConn] at same
    rcases firstUsed with rfl | firstUsed
    · rcases secondUsed with rfl | secondUsed
      · rfl
      · rw [if_pos rfl, if_neg (others _ secondUsed)] at same
        exact absurd same.symm (unopened _ secondUsed)
    · rw [if_neg (others _ firstUsed)] at same
      rcases secondUsed with rfl | secondUsed
      · rw [if_pos rfl] at same
        exact absurd same (unopened _ firstUsed)
      · rw [if_neg (others _ secondUsed)] at same
        exact kept.distinct first second firstUsed secondUsed same
  · simp only [InUse, inUse, connections_modifyConn, Finset.mem_insert, kept.opened]
    constructor
    · rintro (rfl | ⟨other, used, same⟩)
      · exact ⟨conn, .inl rfl, by rw [if_pos rfl]⟩
      · exact ⟨other, .inr used, by rw [if_neg (others other used)]; exact same⟩
    · rintro ⟨other, rfl | used, same⟩
      · rw [if_pos rfl] at same
        exact .inl same.symm
      · rw [if_neg (others other used)] at same
        exact .inr ⟨other, used, same⟩

/-- An object that was taken and deleted is in neither collection. -/
theorem Apart.release (apart : state.Apart (some conn)) : state.Apart none where
  unique := apart.unique
  keyed := apart.keyed
  separate := apart.separate
  outside := nofun
  numbered := fun other found => by
    rcases found with unused | inUse | lent
    · exact apart.numbered other (.inl unused)
    · exact apart.numbered other (.inr (.inl inUse))
    · cases lent

theorem erase_destroyRpcConnection :
    (state.destroyRpcConnection conn).inUse = state.inUse.erase conn := by
  unfold State.destroyRpcConnection
  simp only
  split <;> rfl

theorem inUse_destroyRpcConnection (other : ConnRef) :
    (state.destroyRpcConnection conn).InUse other ↔ state.InUse other ∧ other ≠ conn := by
  rw [InUse, erase_destroyRpcConnection]
  exact OrderedMap.mem_erase_iff

theorem connections_destroyRpcConnection (other : ConnRef) :
    (state.destroyRpcConnection conn).connections other =
      if other = conn then { state.connections conn with alive := false }
      else state.connections other := by
  unfold State.destroyRpcConnection
  simp only
  split
  · exact connections_modifyConn ..
  · next dead =>
      split
      · next same =>
          rw [same, ← Bool.eq_false_of_not_eq_true dead]
      · rfl

theorem unused_destroyRpcConnection :
    (state.destroyRpcConnection conn).unused = state.unused ++ [conn] := by
  unfold State.destroyRpcConnection
  simp only
  split <;> rfl

theorem openFds_destroyRpcConnection (alive : (state.connections conn).alive = true) :
    (state.destroyRpcConnection conn).openFds =
      state.openFds.erase (state.connections conn).clientFd := by
  unfold State.destroyRpcConnection
  simp only [alive, if_true]
  rfl

theorem nextConn_destroyRpcConnection :
    (state.destroyRpcConnection conn).nextConn = state.nextConn := by
  unfold State.destroyRpcConnection
  simp only
  split <;> rfl

theorem Apart.destroyRpcConnection (apart : state.Apart none) (used : state.InUse conn) :
    (state.destroyRpcConnection conn).Apart none := by
  have member : ∀ other, other ∈ (state.destroyRpcConnection conn).unused ↔
      other ∈ state.unused ∨ other = conn := fun other => by
    rw [unused_destroyRpcConnection, List.mem_append, List.mem_singleton]
  constructor
  case unique =>
    rw [unused_destroyRpcConnection]
    refine List.nodup_append.mpr ⟨apart.unique, List.nodup_singleton conn, ?_⟩
    intro first unused second last same
    rw [List.mem_singleton.mp last] at same
    exact apart.separate first unused (same ▸ used)
  case keyed =>
    intro entry present
    rw [erase_destroyRpcConnection] at present
    exact apart.keyed entry (OrderedMap.mem_erase_iff.mp present).1
  case separate =>
    intro other unused
    rw [inUse_destroyRpcConnection, not_and, not_not]
    rcases (member other).mp unused with unused | same
    · exact fun inUse => absurd inUse (apart.separate other unused)
    · exact fun _ => same
  case outside => exact nofun
  case numbered =>
    intro other found
    rw [nextConn_destroyRpcConnection]
    rw [member, inUse_destroyRpcConnection] at found
    rcases found with (unused | rfl) | inUse | lent
    · exact apart.numbered other (.inl unused)
    · exact apart.numbered other (.inr (.inl used))
    · exact apart.numbered other (.inr (.inl inUse.1))
    · cases lent

/-- The callback of an object in use gives it back, and closes its descriptor. -/
theorem PoolKept.destroyRpcConnection (kept : state.PoolKept none) (used : state.InUse conn) :
    (state.destroyRpcConnection conn).PoolKept none := by
  have alive := (kept.alive conn).mpr used
  have member : ∀ other, other ∈ (state.destroyRpcConnection conn).unused ↔
      other ∈ state.unused ∨ other = conn := fun other => by
    rw [unused_destroyRpcConnection, List.mem_append, List.mem_singleton]
  have descriptor : ∀ other, ((state.destroyRpcConnection conn).connections other).clientFd =
      (state.connections other).clientFd := fun other => by
    rw [connections_destroyRpcConnection]
    split
    · next same => rw [same]
    · rfl
  have allocation : ∀ other, ((state.destroyRpcConnection conn).connections other).allocated =
      (state.connections other).allocated := fun other => by
    rw [connections_destroyRpcConnection]
    split
    · next same => rw [same]
    · rfl
  constructor
  case toApart => exact kept.toApart.destroyRpcConnection used
  case allocated =>
    intro other
    rw [allocation, kept.allocated, member, inUse_destroyRpcConnection]
    by_cases same : other = conn
    · subst same
      exact iff_of_true (.inr (.inl used)) (.inl (.inr rfl))
    · simp only [same, or_false, ne_eq, not_false_eq_true, and_true]
  case alive =>
    intro other
    rw [connections_destroyRpcConnection, inUse_destroyRpcConnection]
    split
    · next same => exact iff_of_false nofun fun inUse => inUse.2 same
    · next different => exact (kept.alive other).trans (and_iff_left different).symm
  case distinct =>
    intro first second firstUsed secondUsed same
    rw [descriptor, descriptor] at same
    rw [inUse_destroyRpcConnection] at firstUsed secondUsed
    exact kept.distinct first second firstUsed.1 secondUsed.1 same
  case opened =>
    intro number
    rw [openFds_destroyRpcConnection alive, Finset.mem_erase, kept.opened]
    constructor
    · rintro ⟨different, other, inUse, rfl⟩
      refine ⟨other, (inUse_destroyRpcConnection other).mpr ⟨inUse, ?_⟩, descriptor other⟩
      rintro rfl
      exact different rfl
    · rintro ⟨other, inUse, same⟩
      rw [descriptor] at same
      obtain ⟨inUse, different⟩ := (inUse_destroyRpcConnection other).mp inUse
      refine ⟨fun closed => different ?_, other, inUse, same⟩
      exact kept.distinct other conn inUse used (same.trans closed)
  case buffers =>
    unfold State.destroyRpcConnection
    simp only [alive, if_true]
    exact kept.buffers

/-- What a request does to the buffer and the socket does not matter to the pool. -/
theorem PoolKept.modifyEndpoint (kept : state.PoolKept none) (endpoint : Endpoint) :
    (state.modifyConn conn fun record => { record with endpoint }).PoolKept none := by
  have same : ∀ other,
      ((state.modifyConn conn fun record => { record with endpoint }).connections other).allocated =
        (state.connections other).allocated ∧
      ((state.modifyConn conn fun record => { record with endpoint }).connections other).alive =
        (state.connections other).alive ∧
      ((state.modifyConn conn fun record => { record with endpoint }).connections other).clientFd =
        (state.connections other).clientFd := fun other => by
    rw [connections_modifyConn]
    split
    · next equal => rw [equal]; exact ⟨rfl, rfl, rfl⟩
    · exact ⟨rfl, rfl, rfl⟩
  refine ⟨kept.toApart.congr rfl rfl rfl, fun other => ?_, fun other => ?_,
    fun first second firstUsed secondUsed equal => ?_, fun number => ?_, kept.buffers⟩
  · rw [(same other).1]
    exact kept.allocated other
  · rw [(same other).2.1]
    exact kept.alive other
  · rw [(same first).2.2, (same second).2.2] at equal
    exact kept.distinct first second firstUsed secondUsed equal
  · refine (kept.opened number).trans (exists_congr fun other => and_congr_right fun _ => ?_)
    rw [(same other).2.2]

theorem PoolKept.addClient {fd : Nat} {incoming : Incoming} {allocates : Bool}
    (kept : state.PoolKept none) (fresh : fd ∉ state.openFds)
    (found : state.unused ≠ [] ∨ allocates = true) :
    (state.addClient fd incoming allocates true).PoolKept none := by
  have taken := kept.takeConnection
  have openFds : state.takeConnection.2.openFds = state.openFds := by
    unfold State.takeConnection
    split <;> rfl
  have entered := taken.register (openFds ▸ fresh) incoming
  rw [openFds] at entered
  have available : ¬ (state.unused = [] ∧ (!allocates) = true) := by
    rintro ⟨empty, exhausted⟩
    rcases found with unused | memory
    · exact unused empty
    · rw [memory] at exhausted
      cases exhausted
  unfold State.addClient
  simp only [takeConnection_openFds]
  rw [if_neg available, if_neg nofun]
  exact entered

theorem Apart.addClient {fd : Nat} {incoming : Incoming} {allocates registers : Bool}
    (apart : state.Apart none) : (state.addClient fd incoming allocates registers).Apart none := by
  have taken := apart.takeConnection
  unfold State.addClient
  simp only [takeConnection_openFds]
  split
  · exact apart.congr rfl rfl rfl
  · split
    · exact taken.release.congr rfl rfl rfl
    · exact taken.insert.congr rfl rfl rfl

theorem Apart.conclude {next : State} {ended : Endpoint × Except Fault Unit}
    (apart : state.Apart none) (used : state.InUse conn)
    (concluded : state.conclude conn ended = some next) : next.Apart none := by
  obtain ⟨endpoint, result⟩ := ended
  have updated : (state.modifyConn conn fun record => { record with endpoint }).Apart none :=
    apart.congr rfl rfl rfl
  simp only [State.conclude] at concluded
  split at concluded
  · cases concluded
    exact updated
  · cases concluded
    exact updated
  · split at concluded
    · cases concluded
    · cases concluded
      exact updated.destroyRpcConnection used

theorem PoolKept.conclude {next : State} {ended : Endpoint × Except Fault Unit}
    (kept : state.PoolKept none) (used : state.InUse conn)
    (concluded : state.conclude conn ended = some next) : next.PoolKept none := by
  obtain ⟨endpoint, result⟩ := ended
  have updated : (state.modifyConn conn fun record => { record with endpoint }).PoolKept none :=
    kept.modifyEndpoint endpoint
  simp only [State.conclude] at concluded
  split at concluded
  · cases concluded
    exact updated
  · cases concluded
    exact updated
  · split at concluded
    · cases concluded
    · cases concluded
      exact updated.destroyRpcConnection used

end Operations

section Runs

variable {Msg : Type} [Protobuf] {services : Services Msg} {state next : State}

theorem apart_initial : (simpleServer services).initial.Apart none := by
  refine ⟨List.nodup_nil, nofun, nofun, nofun, ?_⟩
  simp [simpleServer, InUse, OrderedMap.empty]

/-- The two collections stay apart in every run, also when an object cannot be created
or its event cannot be added. -/
theorem Apart.step {label : Label Msg} (apart : state.Apart none)
    (stepped : state.step services label = some next) : next.Apart none := by
  cases label with
  | accept accepted allocates registers =>
      simp only [State.step, handleListenSock] at stepped
      split at stepped
      · cases stepped
        exact apart
      · split at stepped
        · cases stepped
        · cases stepped
          exact apart.addClient
  | readable conn turn =>
      simp only [State.step, readable] at stepped
      split at stepped
      · next used => exact apart.conclude (OrderedMap.find?_eq_some_iff.mp used) stepped
      · cases stepped

theorem apart_reachable (reached : (simpleServer services).Reachable state) :
    state.Apart none :=
  TransitionSystem.ReachableVia.invariant _ apart_initial
    (fun _ _ _ apart _ stepped => apart.step stepped) reached

theorem PoolKept.step {label : Label Msg} (kept : state.PoolKept none)
    (registering : Registering state label) (stepped : state.step services label = some next) :
    next.PoolKept none := by
  cases label with
  | accept accepted allocates registers =>
      cases accepted with
      | failed =>
          cases stepped
          exact kept
      | client fd incoming =>
          obtain ⟨found, rfl⟩ := registering
          simp only [State.step, handleListenSock] at stepped
          split at stepped
          · cases stepped
          · next fresh =>
              cases stepped
              exact kept.addClient fresh found
  | readable conn turn =>
      simp only [State.step, readable] at stepped
      split at stepped
      · next used => exact kept.conclude (OrderedMap.find?_eq_some_iff.mp used) stepped
      · cases stepped

/-- In every run in which each accepted client gets an object and its event is added to
the reactor, the pool is consistent. -/
theorem pooled_reachable :
    ∀ state, (simpleServer services).ReachableVia Registering state → state.Pooled := by
  intro state reached
  have kept : state.PoolKept none := by
    refine TransitionSystem.ReachableVia.invariant _ ?_ ?_ reached
    · exact ⟨apart_initial, fun _ => by simp [simpleServer, InUse, OrderedMap.empty],
        fun _ => by simp [simpleServer, InUse, OrderedMap.empty], nofun,
        fun _ => by simp [simpleServer, InUse, OrderedMap.empty], rfl⟩
    · exact fun _ _ _ kept registering stepped => kept.step registering stepped
  exact kept.pooled

end Runs

/-- Two clients come, the first one goes, and its object is used for a third. -/
theorem pooled_reachable_reused :
    ∃ state, (simpleServer sampleServices).ReachableVia Registering state ∧
      state.inUse.entries = [(0, 0), (1, 1)] ∧ (state.connections 0).clientFd = 7 ∧
      state.Pooled := by
  have observed : ((simpleServer sampleServices).runVia Registering
      [.accept (.client 5 []) true true, .accept (.client 6 []) true true,
        .readable 0 (sampleTurn 0), .accept (.client 7 []) false true]
      (simpleServer sampleServices).initial).map
      (fun state => (state.inUse.entries, (state.connections 0).clientFd)) =
      some ([(0, 0), (1, 1)], 7) := by
    decide
  obtain ⟨state, reached, same⟩ :=
    (simpleServer sampleServices).exists_reachableVia_of_run observed
  simp only [Prod.mk.injEq] at same
  exact ⟨state, reached, same.1, same.2, pooled_reachable state reached⟩

/-- The reactor takes no event for an object that had a buffer. The object is deleted, its
buffer is lost, and the descriptor stays open. -/
theorem not_pooled_unregistered :
    ∃ state, (simpleServer sampleServices).Reachable state ∧ 6 ∈ state.openFds ∧
      state.inUse.entries = [] ∧ state.lostBuffers = 1 ∧ ¬ state.Pooled := by
  have observed : ((simpleServer sampleServices).run
      [.accept (.client 5 [samplePacket]) true true, .readable 0 (sampleTurn 0),
        .accept (.client 6 []) true false]
      (simpleServer sampleServices).initial).map
      (fun state => (decide (6 ∈ state.openFds), state.inUse.entries, state.lostBuffers)) =
      some (true, [], 1) := by
    decide
  obtain ⟨state, reached, same⟩ :=
    (simpleServer sampleServices).exists_reachable_of_run observed
  simp only [Prod.mk.injEq, decide_eq_true_eq] at same
  obtain ⟨opened, none, lost⟩ := same
  refine ⟨state, reached, opened, none, lost, fun pooled => ?_⟩
  have kept := pooled.buffers
  rw [lost] at kept
  cases kept

end CarrotRpc.Server.Simple.State
