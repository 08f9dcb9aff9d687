import CarrotRpc.Server.RequestProperties
import CarrotRpc.Server.AsyncServer

/-! The async server's handlers: what they leave of a connection and its buffer, and
what one step of the server does to its operations. -/

set_option autoImplicit false

namespace CarrotRpc.Server.Async

open Library Library.Faulting Common Protob

namespace RpcServerConnection

/-- The buffer was resized by `expand_packet` only, for packets up to `largest`. -/
structure Sized (conn : RpcServerConnection) : Prop where
  grown : conn.buf.Grown conn.largest.toNat
  bound : conn.n ≤ conn.largest

/-- There is a block, and it holds a header. -/
def Ready (conn : RpcServerConnection) : Prop :=
  ∃ block, conn.buf.p = some block ∧ sizeofPacket ≤ conn.largest.toNat ∧
    block.length = roundUp conn.largest.toNat

theorem toNat_max (left right : UInt32) : (max left right).toNat = max left.toNat right.toNat := by
  change (if left ≤ right then right else left).toNat = _
  simp only [UInt32.le_iff_toNat_le]
  split
  · next le => rw [Nat.max_eq_right le]
  · next gt => rw [Nat.max_eq_left (Nat.le_of_not_le gt)]

section Buffers

variable {Value Result : Type}

theorem onBuffer_eq {handling : Handling Value} {conn : RpcServerConnection} {buf : PacketBuf}
    {result : Except Fault Value} (ended : handling conn.buf = (buf, result)) :
    onBuffer handling conn = ({ conn with buf }, result) := by
  simp only [onBuffer, zoom, ended]

theorem onBuffer_bind (first : Handling Value) (rest : Value → Handling Result) :
    onBuffer (first >>= rest) = onBuffer first >>= fun value => onBuffer (rest value) := by
  unfold onBuffer
  apply zoom_bind
  · intro conn buf
    rfl
  · intro conn buf other
    rfl

end Buffers

section Handlers

variable {heap : Realloc} {n : UInt32} {conn next : RpcServerConnection}

theorem expand_eq_ok (grown : conn.buf.Grown conn.largest.toNat)
    (ended : expand heap n conn = (next, .ok ())) :
    next.buf.Grown next.largest.toNat ∧ next.largest = max conn.largest n ∧ next.n = conn.n ∧
      ∃ block, next.buf.p = some block ∧ block.length = roundUp next.largest.toNat := by
  simp only [expand, onBuffer, zoom, Prod.mk.injEq] at ended
  obtain ⟨rfl, result⟩ := ended
  have grew : grow (fun buf => expandPacket heap buf n) conn.buf =
      ((grow (fun buf => expandPacket heap buf n) conn.buf).1, .ok ()) := Prod.ext rfl result
  have expanded := grow_eq_ok grew
  have size : (max conn.largest n).toNat = max conn.largest.toNat n.toNat := toNat_max _ _
  refine ⟨?_, rfl, rfl, ?_⟩
  · rw [size]
    exact expandPacket_grown grown expanded
  · rw [size]
    exact expandPacket_holds grown expanded

theorem expand_grown {result : Except Fault Unit} (grown : conn.buf.Grown conn.largest.toNat)
    (ended : expand heap n conn = (next, result)) (alive : result ≠ .error .hangs) :
    next.buf.Grown next.largest.toNat ∧ next.largest = max conn.largest n ∧ next.n = conn.n := by
  simp only [expand, onBuffer, zoom, Prod.mk.injEq] at ended
  obtain ⟨rfl, rfl⟩ := ended
  refine ⟨?_, rfl, rfl⟩
  rw [toNat_max]
  simp only [grow] at alive ⊢
  cases expanded : expandPacket heap conn.buf n with
  | none => simp [expanded] at alive
  | some pair => exact expandPacket_grown grown expanded

end Handlers

/-- What a handler leaves unchanged. -/
def same (server isOpen : Bool) (conn : RpcServerConnection) : Prop :=
  conn.server = server ∧ conn.isOpen = isOpen

section Same

variable {server isOpen : Bool} {Value : Type}

theorem keepsSame_onBuffer {handling : Handling Value} :
    Keeps (same server isOpen) (onBuffer handling) :=
  .of_state fun _ holds => holds

theorem keepsSame_expand {heap : Realloc} {n : UInt32} :
    Keeps (same server isOpen) (expand heap n) :=
  .of_state fun _ holds => holds

theorem keepsSame_serve {heap : Realloc} : Keeps (same server isOpen) (serve heap) :=
  keepsSame_expand.bind fun _ => .pure

theorem keepsSame_openPayload {heap : Realloc} {bytes : List UInt8} :
    Keeps (same server isOpen) (openPayload heap bytes) := by
  refine keepsSame_onBuffer.bind fun _ => ?_
  refine keepsSame_onBuffer.bind fun header => ?_
  refine (Keeps.of_state fun _ holds => holds).bind fun _ => ?_
  exact keepsSame_expand.bind fun _ => .pure

theorem keepsSame_handleReadHeader {heap : Realloc} {bytes : List UInt8} :
    Keeps (same server isOpen) (handleReadHeader heap bytes) :=
  keepsSame_openPayload.bind fun _ => .pure

variable {Msg : Type} [Protobuf]

theorem keepsSame_respondToClient {delivery : Delivery} {rpcResp : Response}
    {resp : Option (List UInt8)} :
    Keeps (same server isOpen) (respondToClient delivery rpcResp resp) :=
  (Keeps.of_state fun _ holds => holds).bind fun _ => .pure

theorem keepsSame_handleReadPayload {services : Services Msg} {turn : Turn Msg} {size : Nat}
    {bytes : List UInt8} : Keeps (same server isOpen) (handleReadPayload services turn size bytes) := by
  have answered (conn : RpcServerConnection) :
      Keeps (same server isOpen) (answerPayload services conn.server turn size bytes) := by
    refine keepsSame_onBuffer.bind fun _ => ?_
    refine keepsSame_onBuffer.bind fun header => ?_
    exact keepsSame_onBuffer.bind fun response => keepsSame_respondToClient
  exact .of_state fun conn holds => (answered conn).state holds

end Same

/-- What a handler leaves behind: a sound connection, with a block for the next read. -/
def Leaves : RpcServerConnection × Except Fault Operation → Prop
  | (next, .ok operation) =>
      next.Sized ∧ match operation with
        | .readHeader | .readPayload _ => next.Ready
        | .write _ => True
  | (next, .error fault) => fault.isFatal = false → next.Sized

theorem le_max_left (left right : UInt32) : left ≤ max left right := by
  rw [UInt32.le_iff_toNat_le, toNat_max]
  exact Nat.le_max_left _ _

theorem le_max_right (left right : UInt32) : right ≤ max left right := by
  rw [UInt32.le_iff_toNat_le, toNat_max]
  exact Nat.le_max_right _ _

section Leaving

variable {conn : RpcServerConnection} {heap : Realloc}

theorem serve_leaves (sound : conn.Sized) : Leaves (serve heap conn) := by
  rcases ended : expand heap (.ofNat sizeofPacket) conn with ⟨next, fault | _⟩
  · rw [serve, bind_of_error _ ended]
    intro mild
    obtain ⟨grown, largest, n⟩ := expand_grown sound.grown ended (by rintro ⟨rfl⟩; cases mild)
    exact ⟨grown, by rw [n, largest]; exact UInt32.le_trans sound.bound (le_max_left _ _)⟩
  · rw [serve, bind_of_ok _ ended]
    obtain ⟨grown, largest, n, block, present, length⟩ := expand_eq_ok sound.grown ended
    have room : sizeofPacket ≤ next.largest.toNat := by
      rw [largest]
      exact UInt32.le_iff_toNat_le.mp (le_max_right conn.largest (.ofNat sizeofPacket))
    refine ⟨⟨grown, ?_⟩, block, present, room, length⟩
    rw [n, largest]
    exact UInt32.le_trans sound.bound (le_max_left _ _)

/-- Work on the buffer that keeps its sizes keeps the connection sound and ready. -/
theorem sound_onBuffer {Value : Type} {handling : Handling Value}
    (keeps : ∀ shape, Keeps (fun buf => buf.shape = shape) handling) :
    Keeps Sized (onBuffer handling) :=
  .of_state fun conn sound =>
    ⟨sound.grown.of_shape ((keeps conn.buf.shape).state rfl), sound.bound⟩

theorem readFields_fst {buf : PacketBuf} : (readFields buf).1 = buf := by
  rcases loaded : load 0 sizeofPacket buf with ⟨after, fault | bytes⟩
  · rw [readFields, bind_of_error _ loaded]
    exact (congrArg Prod.fst loaded).symm.trans load_fst
  · rw [readFields, bind_of_ok _ loaded]
    exact (congrArg Prod.fst loaded).symm.trans load_fst

/-- In a block with room for it the header is converted in place. -/
theorem convertHeader_ends {buf : PacketBuf} {block : Block} {bytes : List UInt8}
    (present : buf.p = some block) (fits : sizeofPacket ≤ block.length)
    (length : bytes.length = sizeofPacket) :
    ∃ converted written, converted.shape = buf.shape ∧ converted.p = some written ∧
      written.take sizeofPacket = (Header.ofNetwork bytes).toHost ∧
      (do store 0 bytes; convertHeader) buf = (converted, .ok (Header.ofNetwork bytes)) := by
  obtain ⟨first, firstGiven, firstLength, stored⟩ := store_eq buf 0 bytes present (by omega)
  obtain ⟨second, secondGiven, secondLength, converted⟩ :=
    store_eq { buf with p := some first } 0 (Header.ofNetwork bytes).toHost rfl
      (by rw [Header.length_toHost]; omega)
  have loaded := load_eq { buf with p := some first } 0 sizeofPacket rfl (by omega)
  have content := Block.take_write firstGiven
  have converting := Block.take_write secondGiven
  rw [Nat.zero_add, length, List.take_zero, List.nil_append] at content
  rw [Nat.zero_add, Header.length_toHost, List.take_zero, List.nil_append] at converting
  rw [List.drop_zero, content] at loaded
  refine ⟨{ buf with p := some second }, second, ?_, rfl, converting, ?_⟩
  · simp only [PacketBuf.shape, present, Option.map_some, secondLength, firstLength]
  · rw [bind_of_ok _ stored, convertHeader, bind_of_ok _ loaded, bind_of_ok _ converted]
    rfl

theorem convertHeader_eq {bytes : List UInt8} (ready : conn.Ready)
    (length : bytes.length = sizeofPacket) :
    ∃ buf block, buf.shape = conn.buf.shape ∧ buf.p = some block ∧
      block.take sizeofPacket = (Header.ofNetwork bytes).toHost ∧
      (do store 0 bytes; convertHeader) conn.buf = (buf, .ok (Header.ofNetwork bytes)) := by
  obtain ⟨block, present, room, size⟩ := ready
  refine convertHeader_ends present ?_ length
  rw [size]
  exact room.trans (le_roundUp _)

/-- Once the header is converted the buffer is expanded for the packet. -/
theorem openPayload_eq (heap : Realloc) {bytes : List UInt8} {buf : PacketBuf} {header : Header}
    (converted : (do store 0 bytes; convertHeader) conn.buf = (buf, .ok header)) :
    openPayload heap bytes conn =
      (do
        expand heap (packetSize header)
        pure (payloadSize (packetSize header)))
      { conn with buf, n := packetSize header } := by
  obtain ⟨_, middle, stored, loaded⟩ := bind_eq_ok converted
  have first : onBuffer (store 0 bytes) conn = ({ conn with buf := middle }, .ok ()) := by
    simp only [onBuffer, zoom, stored]
  have second : onBuffer convertHeader { conn with buf := middle } =
      ({ conn with buf }, .ok header) := by
    simp only [onBuffer, zoom, loaded]
  rw [openPayload, bind_of_ok _ first, bind_of_ok _ second]
  rfl

theorem handleReadHeader_leaves {bytes : List UInt8} (sound : conn.Sized) (ready : conn.Ready)
    (length : bytes.length = sizeofPacket) : Leaves (handleReadHeader heap bytes conn) := by
  obtain ⟨buf, block, shape, -, -, converted⟩ := convertHeader_eq ready length
  have opened := openPayload_eq heap converted
  obtain ⟨-, -, room, -⟩ := ready
  generalize packetSize (Header.ofNetwork bytes) = n at opened
  have grown : ({ conn with buf, n } : RpcServerConnection).buf.Grown
      ({ conn with buf, n } : RpcServerConnection).largest.toNat := sound.grown.of_shape shape
  rcases ended : expand heap n { conn with buf, n } with ⟨next, fault | _⟩
  · rw [bind_of_error _ ended] at opened
    rw [handleReadHeader, bind_of_error _ opened]
    intro mild
    obtain ⟨after, largest, size⟩ := expand_grown grown ended (by rintro ⟨rfl⟩; cases mild)
    exact ⟨after, by rw [size, largest]; exact le_max_right _ _⟩
  · rw [bind_of_ok _ ended] at opened
    rw [handleReadHeader, bind_of_ok _ opened]
    obtain ⟨after, largest, size, last, present, holds⟩ := expand_eq_ok grown ended
    refine ⟨⟨after, by rw [size, largest]; exact le_max_right _ _⟩, last, present, ?_, holds⟩
    rw [largest]
    exact room.trans (UInt32.le_iff_toNat_le.mp (le_max_left conn.largest n))

variable {Msg : Type}

theorem keeps_find {Inv : PacketBuf → Prop} {services : Services Msg} {server : Bool}
    {identity : String} : Keeps Inv (find services server identity) := by
  unfold find
  split
  · exact .pure
  · exact .fail

variable [Protobuf]

theorem keepsSound_respondToClient {delivery : Delivery} {rpcResp : Response}
    {resp : Option (List UInt8)} : Keeps Sized (respondToClient delivery rpcResp resp) := by
  refine Keeps.bind (.of_state fun conn sound => ?_) fun _ => .pure
  refine ⟨?_, sound.bound⟩
  refine (Server.keeps_preparePacket (shaped_grown conn.largest.toNat) ?_).state sound.grown
  refine .of_state fun buf grown => ?_
  simp only [grow]
  cases expanded : expandPacket delivery.heap buf conn.n with
  | none => exact grown
  | some pair =>
      have after := expandPacket_grown grown expanded
      rwa [Nat.max_eq_left (UInt32.le_iff_toNat_le.mp sound.bound)] at after

/-- `handle_read_payload` up to the call of `respond_to_client`. -/
def answering (find : String → Handling (Except String (Method Msg)))
    (perform : Method Msg → Msg → Outcome Msg) (size : Nat) (bytes : List UInt8) :
    Handling (Response × Option (List UInt8)) := do
  storePayload size bytes
  let header ← readFields
  dispatch dialect find perform header

/-- Everything before the response is work on the buffer. -/
theorem answerPayload_eq (services : Services Msg) (server : Bool) (turn : Turn Msg) (size : Nat)
    (bytes : List UInt8) :
    answerPayload services server turn size bytes =
      (onBuffer (answering (find services server) turn.perform size bytes) >>= fun response =>
        respondToClient turn.delivery response.1 response.2) := by
  unfold answering
  simp only [onBuffer_bind, bind_assoc]
  rfl

theorem keepsSound_handleReadPayload {services : Services Msg} {turn : Turn Msg} {size : Nat}
    {bytes : List UInt8} : Keeps Sized (handleReadPayload services turn size bytes) := by
  have answered (conn : RpcServerConnection) :
      Keeps Sized (answerPayload services conn.server turn size bytes) := by
    refine (sound_onBuffer fun _ => keepsShape_storePayload).bind fun _ => ?_
    refine (sound_onBuffer fun _ => keepsShape_load.bind fun _ => .pure).bind fun header => ?_
    refine (sound_onBuffer fun _ => ?_).bind fun response => keepsSound_respondToClient
    exact keeps_dispatch fun _ => keeps_find
  exact .of_state fun conn sound => (answered conn).state sound

theorem writes_handleReadPayload {services : Services Msg} {turn : Turn Msg} {size : Nat}
    {bytes : List UInt8} {next : RpcServerConnection} {operation : Operation}
    (ended : handleReadPayload services turn size bytes conn = (next, .ok operation)) :
    ∃ packet, operation = .write packet := by
  unfold handleReadPayload answerPayload at ended
  obtain ⟨_, _, -, ended⟩ := bind_eq_ok ended
  obtain ⟨_, _, -, ended⟩ := bind_eq_ok ended
  obtain ⟨_, _, -, ended⟩ := bind_eq_ok ended
  obtain ⟨packet, _, -, ended⟩ := bind_eq_ok ended
  cases ended
  exact ⟨packet, rfl⟩

theorem handleReadPayload_leaves {services : Services Msg} {turn : Turn Msg} {size : Nat}
    {bytes : List UInt8} (sound : conn.Sized) :
    Leaves (handleReadPayload services turn size bytes conn) := by
  have keeps : Keeps Sized (handleReadPayload services turn size bytes) :=
    keepsSound_handleReadPayload
  have kept := keeps.state sound
  rcases ended : handleReadPayload services turn size bytes conn with ⟨next, fault | operation⟩
  · rw [ended] at kept
    exact fun _ => kept
  · rw [ended] at kept
    obtain ⟨packet, rfl⟩ := writes_handleReadPayload ended
    exact ⟨kept, trivial⟩

end Leaving

end RpcServerConnection

/-- A read is outstanding. -/
def OpKind.reads : OpKind → Bool
  | .readHeader | .readPayload _ => true
  | .accept | .write _ => false

namespace State

/-- How the body of a handler ends on the connection it belongs to. -/
inductive Ended (conn : ConnRef) (record : RpcServerConnection) (state : State) :
    Except Fault Operation → State → Prop where
  | started (operation : Operation) :
      Ended conn record state (.ok operation)
        ((state.modifyConn conn fun _ => record).start ⟨conn, operation.kind,
          if record.isOpen then .pending else .queued (.failed "Bad file descriptor" [])⟩)
  | destroyed {fault : Fault} (mild : fault.isFatal = false) (other : fault ≠ .noMemory) :
      Ended conn record state (.error fault)
        ((state.modifyConn conn fun _ => record).destroy conn)
  | abandoned :
      Ended conn record state (.error .noMemory) (state.modifyConn conn fun _ => record)

theorem ended_conclude {conn : ConnRef} {text : String} (state : State) {next : State}
    (ran : RpcServerConnection × Except Fault Operation) {thrown : Option Thrown}
    (concluded : state.conclude conn text ran = some (next, thrown)) :
    Ended conn ran.1 state ran.2 next ∧ (thrown = none ↔ ∃ operation, ran.2 = .ok operation) := by
  obtain ⟨record, result⟩ := ran
  simp only [conclude] at concluded
  cases result with
  | ok operation =>
      cases concluded
      exact ⟨.started operation, by simp⟩
  | error fault =>
      cases mild : fault.isFatal with
      | true => simp [mild] at concluded
      | false =>
          simp only [mild, Bool.false_eq_true, ↓reduceIte, Option.some.injEq,
            Prod.mk.injEq] at concluded
          obtain ⟨rfl, rfl⟩ := concluded
          refine ⟨?_, by simp⟩
          by_cases memory : fault = .noMemory
          · subst memory
            exact .abandoned
          · have destroys : (Async.thrown text fault).destroys = true := by
              cases fault <;> first | rfl | exact absurd rfl memory
            rw [if_pos destroys]
            exact .destroyed mild memory

/-- At most one operation is outstanding on a connection. The buffers are sound, and
there is a block wherever a read is outstanding. -/
structure Seated (state : State) : Prop where
  unique : (state.ops.map Op.conn).Nodup
  bounded : ∀ op ∈ state.ops, op.conn < state.nextConn
  sound : ∀ conn, (state.connections conn).Sized
  ready : ∀ op ∈ state.ops, op.kind.reads = true → (state.connections op.conn).Ready
  whole : ∀ op ∈ state.ops, ∀ bytes, op.kind.reads = true →
    op.status = .queued (.done bytes) → bytes.length = OpKind.wants op.kind

/-- No operation is outstanding on the connection. -/
def Free (conn : ConnRef) (state : State) : Prop := ∀ op ∈ state.ops, op.conn ≠ conn

section Operations

variable {state : State} {conn : ConnRef} {op : Op}

@[simp] theorem connections_modifyConn (other : ConnRef)
    (change : RpcServerConnection → RpcServerConnection) :
    (state.modifyConn conn change).connections other =
      if other = conn then change (state.connections conn) else state.connections other :=
  Function.update_apply _ _ _ _

theorem useServer_false (state : State) : state.useServer false = state := by
  simp only [State.useServer, Bool.false_and, Bool.or_false]

theorem Seated.useServer (seated : state.Seated) (used : Bool) :
    (state.useServer used).Seated :=
  ⟨seated.unique, seated.bounded, seated.sound, seated.ready, seated.whole⟩

theorem Seated.erase (seated : state.Seated) :
    Seated { state with ops := state.ops.erase op } where
  unique := seated.unique.sublist (List.erase_sublist.map _)
  bounded := fun other member => seated.bounded other (List.mem_of_mem_erase member)
  sound := seated.sound
  ready := fun other member => seated.ready other (List.mem_of_mem_erase member)
  whole := fun other member => seated.whole other (List.mem_of_mem_erase member)

theorem Seated.free (seated : state.Seated) (member : op ∈ state.ops) :
    Free op.conn { state with ops := state.ops.erase op } := by
  intro other left same
  have nodup := seated.unique
  rw [((List.perm_cons_erase member).map Op.conn).nodup_iff] at nodup
  exact (List.nodup_cons.mp nodup).1 (same ▸ List.mem_map_of_mem left)

theorem Seated.modifyConn {change : RpcServerConnection → RpcServerConnection}
    (seated : state.Seated) (sound : (change (state.connections conn)).Sized)
    (ready : ∀ op ∈ state.ops, op.conn = conn → op.kind.reads = true →
      (change (state.connections conn)).Ready) : (state.modifyConn conn change).Seated where
  unique := seated.unique
  bounded := seated.bounded
  sound := fun other => by
    rw [connections_modifyConn]
    split
    · exact sound
    · exact seated.sound other
  ready := fun op member reads => by
    rw [connections_modifyConn]
    split
    · next same => exact ready op member same reads
    · exact seated.ready op member reads
  whole := seated.whole

theorem Seated.start (seated : state.Seated) (op : Op) (free : Free op.conn state)
    (bound : op.conn < state.nextConn)
    (ready : op.kind.reads = true → (state.connections op.conn).Ready)
    (unread : ∀ bytes, op.status ≠ .queued (.done bytes)) : (state.start op).Seated where
  unique := by
    simp only [State.start, List.map_append, List.map_cons, List.map_nil]
    refine List.nodup_append.mpr ⟨seated.unique, List.nodup_singleton _, ?_⟩
    intro left member right same
    obtain ⟨other, outstanding, rfl⟩ := List.mem_map.mp member
    rw [List.mem_singleton.mp same]
    exact free other outstanding
  bounded := fun other member => by
    rcases List.mem_append.mp member with member | member
    · exact seated.bounded other member
    · rw [List.mem_singleton.mp member]
      exact bound
  sound := seated.sound
  ready := fun other member reads => by
    rcases List.mem_append.mp member with member | member
    · exact seated.ready other member reads
    · rw [List.mem_singleton.mp member] at reads ⊢
      exact ready reads
  whole := fun other member bytes reads done => by
    rcases List.mem_append.mp member with member | member
    · exact seated.whole other member bytes reads done
    · rw [List.mem_singleton.mp member] at done
      exact absurd done (unread bytes)

theorem mem_abort {selected : Op → Bool} (member : op ∈ (state.abort selected).ops) :
    ∃ old ∈ state.ops, op.conn = old.conn ∧ op.kind = old.kind ∧
      (op.status = old.status ∨
        old.status = .pending ∧ op.status = .queued (.failed "Operation canceled" [])) := by
  simp only [State.abort] at member
  obtain ⟨old, outstanding, same⟩ := List.mem_map.mp member
  refine ⟨old, outstanding, ?_⟩
  split at same
  · next aborted => exact same ▸ ⟨rfl, rfl, .inr ⟨aborted.2, rfl⟩⟩
  · exact same ▸ ⟨rfl, rfl, .inl rfl⟩

theorem map_conn_abort (selected : Op → Bool) :
    (state.abort selected).ops.map Op.conn = state.ops.map Op.conn := by
  simp only [State.abort, List.map_map]
  refine List.map_congr_left fun op _ => ?_
  simp only [Function.comp_apply]
  split <;> rfl

theorem Seated.abort (seated : state.Seated) (selected : Op → Bool) :
    (state.abort selected).Seated where
  unique := by
    rw [map_conn_abort]
    exact seated.unique
  bounded := fun op member => by
    obtain ⟨old, outstanding, conn, -⟩ := mem_abort member
    rw [conn]
    exact seated.bounded old outstanding
  sound := seated.sound
  ready := fun op member reads => by
    obtain ⟨old, outstanding, conn, kind, -⟩ := mem_abort member
    rw [kind] at reads
    rw [conn]
    exact seated.ready old outstanding reads
  whole := fun op member bytes reads done => by
    obtain ⟨old, outstanding, -, kind, status | ⟨-, status⟩⟩ := mem_abort member
    · rw [kind] at reads ⊢
      exact seated.whole old outstanding bytes reads (status ▸ done)
    · rw [status] at done
      cases done

theorem Seated.destroy (seated : state.Seated) : (state.destroy conn).Seated := by
  have aborted : ∀ state : State, state.Seated →
      ((state.abort fun op => op.conn = conn && op.kind ≠ .accept).modifyConn conn fun record =>
        { record with isOpen := false }).Seated := by
    intro state seated
    have after := seated.abort fun op => op.conn = conn && op.kind ≠ .accept
    refine after.modifyConn ⟨(after.sound conn).grown, (after.sound conn).bound⟩ ?_
    intro op member same reads
    exact same ▸ after.ready op member reads
  unfold State.destroy
  simp only
  split
  · exact aborted _ ⟨seated.unique, seated.bounded, seated.sound, seated.ready, seated.whole⟩
  · exact aborted _ seated

theorem sound_new : ({} : RpcServerConnection).Sized :=
  ⟨.initial, UInt32.le_refl 0⟩

theorem Seated.startAccept (seated : state.Seated) : state.startAccept.Seated := by
  have fresh : Free state.nextConn state :=
    fun op member => Nat.ne_of_lt (seated.bounded op member)
  have created : Seated { state.modifyConn state.nextConn (fun _ => {}) with
      nextConn := state.nextConn + 1
      conns := state.conns.insert state.nextConn state.nextConn } := by
    have modified : (state.modifyConn state.nextConn fun _ => {}).Seated :=
      seated.modifyConn sound_new fun op member same => absurd same (fresh op member)
    exact ⟨modified.unique, fun op member => Nat.lt_succ_of_lt (modified.bounded op member),
      modified.sound, modified.ready, modified.whole⟩
  have started := created.start ⟨state.nextConn, .accept, .pending⟩ fresh
    (Nat.lt_succ_self _) nofun nofun
  exact ⟨started.unique, started.bounded, started.sound, started.ready, started.whole⟩

/-- A connection whose handler has ended, and the operation it started. -/
theorem Seated.ended {next : State} {record : RpcServerConnection}
    {result : Except Fault Operation} (seated : state.Seated) (free : Free conn state)
    (bound : conn < state.nextConn) (leaves : RpcServerConnection.Leaves (record, result))
    (ended : Ended conn record state result next) : next.Seated := by
  have modified : record.Sized → (state.modifyConn conn fun _ => record).Seated := fun sound =>
    seated.modifyConn sound fun op member same => absurd same (free op member)
  cases ended with
  | started operation =>
      obtain ⟨sound, ready⟩ := leaves
      refine (modified sound).start _ free bound ?_ ?_
      · intro reads
        simp only [connections_modifyConn, if_pos]
        cases operation with
        | readHeader => exact ready
        | readPayload size => exact ready
        | write packet => cases reads
      · intro bytes
        simp only
        split <;> exact nofun
  | destroyed mild => exact (modified (leaves mild)).destroy
  | abandoned => exact modified (leaves rfl)

theorem stored_leaves {record : RpcServerConnection} {kind : OpKind} {bytes : List UInt8}
    (sound : record.Sized) : RpcServerConnection.Leaves (stored kind bytes record) := by
  have spec : Spec RpcServerConnection.Sized (stored kind bytes) (fun _ _ => False)
      (fun _ => RpcServerConnection.Sized) := by
    have arrives : Keeps RpcServerConnection.Sized (arrive kind bytes) := ?_
    · exact Spec.bind arrives fun _ _ sound => sound
    cases kind with
    | readHeader => exact RpcServerConnection.sound_onBuffer fun _ => keepsShape_store
    | readPayload size => exact RpcServerConnection.sound_onBuffer fun _ => keepsShape_store
    | accept => exact Keeps.pure
    | write packet => exact Keeps.pure
  rcases ended : stored kind bytes record with ⟨next, fault | operation⟩
  · exact fun _ => spec.error sound ended
  · exact absurd (spec.ok sound ended) id

/-- A completion queues the handler, and a completed accept opens the socket. -/
theorem complete_eq_some {next : State} {completion : Completion}
    (completed : state.complete op completion = some next) :
    op ∈ state.ops ∧ op.status = .pending ∧
      (∀ bytes, completion = .done bytes → op.kind ≠ .accept →
        bytes.length = OpKind.wants op.kind) ∧
      ∃ change : RpcServerConnection → RpcServerConnection,
        (change = id ∧ (op.kind = .accept → ∀ bytes, completion ≠ .done bytes) ∨
          op.kind = .accept ∧ change = fun record => { record with isOpen := true }) ∧
        next = State.modifyConn op.conn change
          { state with ops := state.ops.erase op ++ [{ op with status := .queued completion }] } := by
  have unchanged : ∀ state : State, state.modifyConn op.conn id = state := fun state => by
    simp only [State.modifyConn, id_eq, Function.update_eq_self]
  simp only [State.complete] at completed
  split at completed
  · next enabled =>
      refine ⟨enabled.1, enabled.2, ?_⟩
      split at completed
      · next accept =>
          cases completed
          exact ⟨fun _ _ other => absurd accept other, _, .inr ⟨accept, rfl⟩, rfl⟩
      · cases completed
        exact ⟨nofun, id, .inl ⟨rfl, fun _ => nofun⟩, (unchanged _).symm⟩
      · next other =>
          split at completed
          · next whole =>
              cases completed
              refine ⟨?_, id, .inl ⟨rfl, fun accept => absurd accept other⟩, (unchanged _).symm⟩
              rintro bytes ⟨rfl⟩ -
              exact whole
          · cases completed
  · cases completed

theorem Seated.complete {next : State} {completion : Completion} (seated : state.Seated)
    (completed : state.complete op completion = some next) : next.Seated := by
  obtain ⟨member, pending, whole, change, changed, rfl⟩ := complete_eq_some completed
  have queued : Seated
      { state with ops := state.ops.erase op ++ [{ op with status := .queued completion }] } := by
    have permuted := (List.perm_cons_erase member).map Op.conn
    refine ⟨?_, fun other found => ?_, seated.sound, fun other found reads => ?_,
      fun other found bytes reads done => ?_⟩
    · simp only [List.map_append, List.map_cons, List.map_nil]
      have nodup := permuted.nodup_iff.mp seated.unique
      exact (List.perm_append_singleton _ _).nodup_iff.mpr nodup
    all_goals rcases List.mem_append.mp found with found | found
    · exact seated.bounded other (List.mem_of_mem_erase found)
    · rw [List.mem_singleton.mp found]
      exact seated.bounded op member
    · exact seated.ready other (List.mem_of_mem_erase found) reads
    · rw [List.mem_singleton.mp found] at reads ⊢
      exact seated.ready op member reads
    · exact seated.whole other (List.mem_of_mem_erase found) bytes reads done
    · rw [List.mem_singleton.mp found] at reads done ⊢
      cases done
      exact whole bytes rfl fun accept => by rw [accept] at reads; cases reads
  rcases changed with ⟨rfl, -⟩ | ⟨accept, rfl⟩
  · exact queued.modifyConn (queued.sound op.conn) fun other found same => same ▸ queued.ready other found
  · refine queued.modifyConn ⟨(queued.sound op.conn).grown, (queued.sound op.conn).bound⟩ ?_
    intro other found same reads
    exact same ▸ queued.ready other found reads

theorem Seated.destroyServer {next : State} (seated : state.Seated)
    (destroyed : state.destroyServer = some next) : next.Seated := by
  simp only [State.destroyServer] at destroyed
  split at destroyed
  · cases destroyed
    have nullified : ∀ (entries : List (Nat × ConnRef)) (state : State), state.Seated →
        Seated (entries.foldl (fun state entry =>
          state.modifyConn entry.2 fun record => { record with server := false }) state) := by
      intro entries
      induction entries with
      | nil => exact fun _ seated => seated
      | cons entry entries ih =>
          intro state seated
          refine ih _ (seated.modifyConn
            ⟨(seated.sound entry.2).grown, (seated.sound entry.2).bound⟩ ?_)
          intro op found same reads
          exact same ▸ seated.ready op found reads
    have after := (nullified state.conns.entries state seated).abort fun op => op.kind = .accept
    exact ⟨after.unique, after.bounded, after.sound, after.ready, after.whole⟩
  · cases destroyed

end Operations

section Steps

variable {Msg : Type} [Protobuf] {services : Services Msg} {state next : State}

/-- What invoking the handler of an operation does, its operation already removed. -/
inductive Invoked (services : Services Msg) (op : Op) (completion : Completion)
    (input : Input Msg) (state : State) : State → Prop where
  | refused {message : String} {bytes : List UInt8} (accept : op.kind = .accept)
      (failed : completion = .failed message bytes) :
      Invoked services op completion input state (state.useServer true).startAccept
  | accepted {bytes : List UInt8} {record : RpcServerConnection} {operation : Operation}
      {next : State} (accept : op.kind = .accept) (done : completion = .done bytes)
      (ran : RpcServerConnection.serve input.turn.heap (state.connections op.conn) =
        (record, .ok operation))
      (ended : Ended op.conn record (state.useServer true) (.ok operation) next) :
      Invoked services op completion input state next.startAccept
  | unserved {bytes : List UInt8} {record : RpcServerConnection} {fault : Fault} {next : State}
      (accept : op.kind = .accept) (done : completion = .done bytes)
      (ran : RpcServerConnection.serve input.turn.heap (state.connections op.conn) =
        (record, .error fault))
      (ended : Ended op.conn record (state.useServer true) (.error fault) next) :
      Invoked services op completion input state next
  | failed {message : String} {bytes : List UInt8} {record : RpcServerConnection}
      {result : Except Fault Operation} {next : State} (other : op.kind ≠ .accept)
      (failed : completion = .failed message bytes)
      (ran : stored op.kind bytes (state.connections op.conn) = (record, result))
      (ended : Ended op.conn record state result next) :
      Invoked services op completion input state next
  | done {bytes : List UInt8} {record : RpcServerConnection}
      {result : Except Fault Operation} {used : Bool} {next : State} (other : op.kind ≠ .accept)
      (done : completion = .done bytes)
      (looks : used = true → ∃ size, op.kind = .readPayload size ∧
        RpcServerConnection.looksUp size bytes (state.connections op.conn) = true)
      (ran : body services op.kind bytes input (state.connections op.conn) = (record, result))
      (ended : Ended op.conn record (state.useServer used) result next) :
      Invoked services op completion input state next

theorem invoked_invoke {op : Op} {completion : Completion} {input : Input Msg}
    {thrown : Option Thrown}
    (invoked : state.invoke services op completion input = some (next, thrown)) :
    Invoked services op completion input state next := by
  obtain ⟨conn, kind, status⟩ := op
  cases kind with
  | accept =>
      cases completion with
      | failed message bytes =>
          cases invoked
          exact .refused rfl rfl
      | done bytes =>
          rcases ran : RpcServerConnection.serve input.turn.heap (state.connections conn) with
            ⟨record, result⟩
          have served : RpcServerConnection.serve input.turn.heap
              ((state.useServer true).connections conn) = (record, result) := ran
          simp only [invoke, handleAccept, served] at invoked
          split at invoked
          · next after concluded =>
              cases invoked
              obtain ⟨ended, finished⟩ := ended_conclude _ _ concluded
              obtain ⟨operation, rfl⟩ := finished.mp rfl
              exact .accepted rfl rfl ran ended
          · next unfinished =>
              obtain ⟨ended, finished⟩ := ended_conclude _ _ invoked
              cases result with
              | ok operation =>
                  exact absurd ⟨operation, rfl⟩ (fun started => unfinished next
                    (finished.mpr started ▸ invoked))
              | error fault => exact .unserved rfl rfl ran ended
  | readHeader =>
      cases completion with
      | failed message bytes =>
          exact .failed nofun rfl rfl
            (ended_conclude _ (stored .readHeader bytes (state.connections conn)) invoked).1
      | done bytes =>
          have unused := useServer_false state
          have ended := (ended_conclude state _ invoked).1
          rw [← unused] at ended
          refine .done nofun rfl ?_ rfl ended
          exact nofun
  | readPayload size =>
      cases completion with
      | failed message bytes =>
          exact .failed nofun rfl rfl
            (ended_conclude _ (stored (.readPayload size) bytes (state.connections conn)) invoked).1
      | done bytes =>
          exact .done nofun rfl (fun looks => ⟨size, rfl, looks⟩) rfl
            (ended_conclude _ _ invoked).1
  | write packet =>
      cases completion with
      | failed message bytes =>
          exact .failed nofun rfl rfl
            (ended_conclude _ (stored (.write packet) bytes (state.connections conn)) invoked).1
      | done bytes =>
          have unused := useServer_false state
          have ended := (ended_conclude state _ invoked).1
          rw [← unused] at ended
          refine .done nofun rfl ?_ rfl ended
          exact nofun

theorem body_leaves {op : Op} {bytes : List UInt8} {input : Input Msg}
    {record : RpcServerConnection} (other : op.kind ≠ .accept) (sound : record.Sized)
    (ready : op.kind.reads = true → record.Ready)
    (whole : op.kind.reads = true → bytes.length = OpKind.wants op.kind) :
    RpcServerConnection.Leaves (body services op.kind bytes input record) := by
  obtain ⟨conn, kind, status⟩ := op
  cases kind with
  | accept => exact absurd rfl other
  | readHeader => exact RpcServerConnection.handleReadHeader_leaves sound (ready rfl) (whole rfl)
  | readPayload size => exact RpcServerConnection.handleReadPayload_leaves sound
  | write packet => exact RpcServerConnection.serve_leaves sound

theorem Seated.invoked {op : Op} {completion : Completion} {input : Input Msg}
    (seated : state.Seated) (free : Free op.conn state) (bound : op.conn < state.nextConn)
    (ready : op.kind.reads = true → (state.connections op.conn).Ready)
    (whole : ∀ bytes, completion = .done bytes → op.kind.reads = true →
      bytes.length = OpKind.wants op.kind)
    (invoked : Invoked services op completion input state next) : next.Seated := by
  have sound := seated.sound op.conn
  cases invoked with
  | refused => exact (seated.useServer true).startAccept
  | accepted accept done ran ended =>
      exact ((seated.useServer true).ended free bound
        (ran ▸ RpcServerConnection.serve_leaves sound) ended).startAccept
  | unserved accept done ran ended =>
      exact (seated.useServer true).ended free bound
        (ran ▸ RpcServerConnection.serve_leaves sound) ended
  | failed other failed ran ended =>
      exact seated.ended free bound (ran ▸ stored_leaves sound) ended
  | @done bytes record result used _ other done looks ran ended =>
      exact (seated.useServer used).ended free bound
        (ran ▸ body_leaves other sound ready (whole bytes done)) ended

theorem handle_eq_some {op : Op} {input : Input Msg}
    (handled : state.handle services op input = some next) :
    ∃ completion, op.status = .queued completion ∧ op ∈ state.ops ∧
      Invoked services op completion input { state with ops := state.ops.erase op } next := by
  simp only [State.handle] at handled
  split at handled
  · next completion status =>
      split at handled
      · next member =>
          obtain ⟨⟨after, thrown⟩, invoked, rfl⟩ := Option.map_eq_some_iff.mp handled
          exact ⟨completion, status, member, invoked_invoke invoked⟩
      · cases handled
  · cases handled

theorem Seated.step {label : Label Msg} (seated : state.Seated)
    (stepped : state.step services label = some next) : next.Seated := by
  cases label with
  | complete op completion => exact seated.complete stepped
  | destroyServer => exact seated.destroyServer stepped
  | handle op input =>
      obtain ⟨completion, status, member, invoked⟩ := handle_eq_some stepped
      refine seated.erase.invoked (seated.free member) (seated.bounded op member)
        (seated.ready op member) ?_ invoked
      intro bytes done reads
      exact seated.whole op member bytes reads (done ▸ status)

theorem seated_reachable (reached : (asyncServer services).Reachable state) : state.Seated := by
  refine TransitionSystem.ReachableVia.invariant _ ?_ ?_ reached
  · have empty : Seated
        { alive := true
          dangling := false
          conns := .empty
          connections := fun _ => {}
          nextConn := 0
          ops := [] } := ⟨List.nodup_nil, nofun, fun _ => sound_new, nofun, nofun⟩
    exact empty.startAccept
  · exact fun _ _ _ seated _ stepped => seated.step stepped

end Steps

end State

end CarrotRpc.Server.Async
