import CarrotRpc.Client.AsyncChannel
import CarrotRpc.Protob.WireFormat
import CarrotRpc.Server.AsyncServerProperties

/-! The growth of a receiver's buffer for the packet a header announces. -/

set_option autoImplicit false

namespace CarrotRpc.Protocol

open Library Library.Faulting Common Protob

/-- The size the async client expands its buffer to for a response. -/
def clientSize (header : Header) : UInt32 :=
  .ofNat ((header.rpcLen + header.reqLen + header.respLen).toNat + sizeofPacket)

/-- The sums of the two sides wrap at different places, and to the same value. -/
theorem clientSize_eq (header : Header) : clientSize header = packetSize header := by
  apply UInt32.toNat_inj.mp
  simp only [clientSize, packetSize, UInt32.toNat_ofNat', UInt32.toNat_add, Header.payload]
  omega

section Growing

variable {expand : PacketBuf → Option (PacketBuf × Bool)} {header : Header} {buf : PacketBuf}

theorem grow_hangs_iff : (grow expand buf).2 = .error .hangs ↔ expand buf = none := by
  simp only [grow]
  split
  · next hangs => exact iff_of_true rfl hangs
  · next grown flag result =>
      refine iff_of_false ?_ (by rw [result]; rintro ⟨⟩)
      cases flag <;> rintro ⟨⟩

/-- No step behind the growth is a loop. -/
theorem openPayload_hangs_iff :
    (openPayload expand header buf).2 = .error .hangs ↔ expand buf = none := by
  rw [← grow_hangs_iff]
  rcases ended : grow expand buf with ⟨grown, fault | _⟩
  · rw [openPayload, bind_of_error _ ended]
    constructor
    · rintro ⟨rfl⟩
      rfl
    · rintro ⟨rfl⟩
      rfl
  · rw [openPayload, bind_of_ok _ ended]
    refine iff_of_false ?_ nofun
    rcases stored : store 0 header.toHost grown with ⟨written, fault | _⟩
    · rw [bind_of_error _ stored, store_fault stored]
      nofun
    · rw [bind_of_ok _ stored]
      nofun

theorem keepsReached_store {offset : Nat} {bytes : List UInt8} :
    Keeps PacketBuf.Reached (store offset bytes) := by
  refine .of_state fun buf reached => ?_
  simp only [store]
  split
  · exact reached
  · next block present =>
      split
      · exact reached
      · next written given => exact reached.rewritten present (Block.length_of_write given)

theorem keepsReached_convertHeader :
    Keeps PacketBuf.Reached Server.Async.RpcServerConnection.convertHeader := by
  refine Keeps.bind (.of_state fun buf reached => ?_) fun bytes => ?_
  · rw [load_fst]
    exact reached
  · exact keepsReached_store.bind fun _ => .pure

end Growing

/-- On a buffer with any past, the growth for a header ends exactly when the size of its
packet is at most `maxSize` modulo 2^32: in the threaded server, in the async server and
in the async client. -/
theorem growth_terminates (Msg : Type) [Protobuf] (heap : Realloc) {buf : PacketBuf} (reached : buf.Reached)
    (header : Header) :
    (buf.LoopEnds (packetSize header) ↔
      (sizeofPacket + header.payload) % 2 ^ 32 ≤ maxSize) ∧
    ((openPayload (fun buf => expandPacket heap buf (packetSize header)) header buf).2 ≠
        .error .hangs ↔
      (sizeofPacket + header.payload) % 2 ^ 32 ≤ maxSize) ∧
    (∀ (conn : Server.Async.RpcServerConnection) (bytes : List UInt8) (converted : PacketBuf),
      conn.buf = buf →
      (do store 0 bytes; Server.Async.RpcServerConnection.convertHeader) buf =
        (converted, .ok header) →
      ((Server.Async.RpcServerConnection.openPayload heap bytes conn).2 ≠ .error .hangs ↔
        (sizeofPacket + header.payload) % 2 ^ 32 ≤ maxSize)) ∧
    ∀ (state : Client.State Msg) (conn : Client.ConnRef),
      (state.connections conn).buf = buf →
      (buf.LoopEnds (clientSize header) ↔
        (sizeofPacket + header.payload) % 2 ^ 32 ≤ maxSize) ∧
      (maxSize < (sizeofPacket + header.payload) % 2 ^ 32 →
        (state.handleReadHeader heap conn header none).1.stuck = true) := by
  rw [← toNat_packetSize]
  refine ⟨reached.loopEnds_iff, ?_, ?_, ?_⟩
  · rw [Ne, openPayload_hangs_iff]
    exact reached.expandPacket_ne_none_iff
  · rintro conn bytes converted rfl ran
    have rewritten : converted.Reached := by
      have keeps : Keeps PacketBuf.Reached
          (do store 0 bytes; Server.Async.RpcServerConnection.convertHeader) :=
        keepsReached_store.bind fun _ => keepsReached_convertHeader
      have kept := keeps.state reached
      rwa [ran] at kept
    have ended : (Server.Async.RpcServerConnection.openPayload heap bytes conn).2 =
        .error .hangs ↔ expandPacket heap converted (packetSize header) = none := by
      rw [Server.Async.RpcServerConnection.openPayload_eq heap ran]
      cases expanded : expandPacket heap converted (packetSize header) with
      | none => simp [bind, Server.Async.RpcServerConnection.expand,
          Server.Async.RpcServerConnection.onBuffer, zoom, grow, expanded]
      | some pair =>
          obtain ⟨grown, flag⟩ := pair
          cases flag <;> simp [bind, Server.Async.RpcServerConnection.expand,
            Server.Async.RpcServerConnection.onBuffer, zoom, grow, expanded, pure]
    rw [Ne, ended]
    exact rewritten.expandPacket_ne_none_iff
  · rintro state conn rfl
    rw [clientSize_eq]
    refine ⟨reached.loopEnds_iff, fun beyond => ?_⟩
    have hangs : expandPacket heap (state.connections conn).buf (clientSize header) = none := by
      by_contra ends
      rw [clientSize_eq] at ends
      exact absurd (reached.expandPacket_ne_none_iff.mp ends) (Nat.not_le_of_lt beyond)
    rw [clientSize] at hangs
    simp only [Client.State.handleReadHeader, Client.State.connections_modifyConn, if_true, hangs]

/-- The header of a request for `Echo.ping`, received into a new buffer. -/
theorem growth_terminates_ping :
    ({} : PacketBuf).LoopEnds (packetSize ⟨13, 1, 0⟩) ∧
      (openPayload (fun buf => expandPacket .zeroed buf (packetSize ⟨13, 1, 0⟩)) ⟨13, 1, 0⟩ {}).2 ≠
        .error .hangs :=
  have ends := growth_terminates (List UInt8) .zeroed .initial ⟨13, 1, 0⟩
  ⟨ends.1.mpr (by decide), ends.2.1.mpr (by decide)⟩

/-- A client announces metadata of 2^31 bytes. The size doubles to 2^31, then to 0, and
stays there. -/
theorem header_hangs :
    (∀ fuel, growSize fuel 1 (packetSize ⟨0x80000000, 0, 0⟩) = none) ∧
      (openPayload (fun buf => expandPacket .zeroed buf (packetSize ⟨0x80000000, 0, 0⟩))
        ⟨0x80000000, 0, 0⟩ {}).2 = .error .hangs := by
  refine ⟨fun fuel => growSize_none (.inr ⟨0, by decide, rfl⟩) (by decide), ?_⟩
  exact openPayload_hangs_iff.mpr (by decide)

end CarrotRpc.Protocol
