import CarrotRpc.Common.HeaderBounds
import CarrotRpc.Protob.WireFormat
import CarrotRpc.Server.AsyncServerProperties
import CarrotRpc.Server.SimpleServerProperties
import CarrotRpc.Server.ThreadedServerProperties

/-! The arithmetic on the length fields of a request in the three servers. -/

set_option autoImplicit false

namespace CarrotRpc.Server

open Library Library.Faulting Common Protob

section Arithmetic

variable {heap : Realloc} {header : Header} {buf : PacketBuf}

theorem Simple.bounded_iff (exact : buf.Exact) :
    Bounded header header.reqLen
        (openPayload (fun buf => some (expandConnectionPacket heap (packetSize header) buf))
          header buf) ↔
      (sizeofPacket + header.payload < 2 ^ 32 ∧ header.rpcLen.toNat < 2 ^ 31 ∧
        header.reqLen.toNat < 2 ^ 31) ∨
      Starved heap buf (packetSize header) (packetSize header).toNat := by
  rcases expanded : expandConnectionPacket heap (packetSize header) buf with ⟨grown, flag⟩
  cases flag with
  | true =>
      obtain ⟨block, present, room⟩ := expandConnectionPacket_holds exact expanded
      rw [openPayload_of_grown (congrArg some expanded) present room]
      refine (or_iff_left ?_).symm
      rintro ⟨needed, starved⟩
      simp [expandConnectionPacket, if_pos needed, starved] at expanded
  | false =>
      refine iff_of_true (openPayload_of_ungrown (congrArg some expanded)) (.inr ?_)
      unfold expandConnectionPacket at expanded
      split at expanded
      · next needed =>
          split at expanded
          · next starved => exact ⟨needed, starved⟩
          · cases expanded
      · cases expanded

/-- What `expand_packet` lets through is within its sizes unless the sum wraps. -/
theorem within_iff (bound : (packetSize header).toNat ≤ maxSize) :
    (sizeofPacket + header.payload < 2 ^ 32 ∧ header.rpcLen.toNat < 2 ^ 31 ∧
      header.reqLen.toNat < 2 ^ 31) ↔ sizeofPacket + header.payload ≤ maxSize := by
  have twelve : sizeofPacket = 12 := rfl
  have limit : maxSize = 2 ^ 31 := rfl
  have covered := reqLen_covered header
  constructor
  · rintro ⟨small, -⟩
    rwa [packetSize_of_lt small] at bound
  · intro small
    omega

theorem Threaded.bounded_iff {largest : Nat} (sound : buf.Grown largest) :
    Bounded header header.reqLen
        (openPayload (fun buf => expandPacket heap buf (packetSize header)) header buf) ↔
      sizeofPacket + header.payload ≤ maxSize ∨ (packetSize header).toNat ≤ maxSize ∧
        Starved heap buf (packetSize header) (grownSize buf (packetSize header)) := by
  rcases expanded : expandPacket heap buf (packetSize header) with _ | ⟨grown, flag⟩
  · have beyond := (expandPacket_eq_none_iff sound).mp expanded
    refine iff_of_false (openPayload_of_hang expanded) ?_
    rintro (small | ⟨within, -⟩)
    · exact absurd (packetSize_le small) (Nat.not_le_of_lt beyond)
    · exact absurd within (Nat.not_le_of_lt beyond)
  · rw [condition_iff sound expanded]
    cases flag with
    | true =>
        obtain ⟨block, present, length⟩ := expandPacket_holds sound expanded
        have within : (packetSize header).toNat ≤ maxSize :=
          (Nat.le_max_right _ _).trans (expandPacket_grown sound expanded).bound
        have room : (packetSize header).toNat ≤ block.length := by
          rw [length]
          exact (Nat.le_max_right _ _).trans (le_roundUp _)
        rw [openPayload_of_grown expanded present room, within_iff within]
        exact (or_iff_left nofun).symm
    | false => exact iff_of_true (openPayload_of_ungrown expanded) (.inr rfl)

namespace Async

open RpcServerConnection

/-- In the async server the header is converted inside the buffer before it grows. -/
theorem bounded_iff {conn : RpcServerConnection} {bytes : List UInt8} (sound : conn.Sized)
    (ready : conn.Ready) (length : bytes.length = sizeofPacket)
    (converted : (do store 0 bytes; convertHeader) conn.buf = (buf, .ok header)) :
    Bounded header header.reqLen
        ((RpcServerConnection.openPayload heap bytes conn).1.buf,
          (RpcServerConnection.openPayload heap bytes conn).2) ↔
      sizeofPacket + header.payload ≤ maxSize ∨ (packetSize header).toNat ≤ maxSize ∧
        Starved heap buf (packetSize header) (grownSize buf (packetSize header)) := by
  have grown : buf.Grown conn.largest.toNat := by
    obtain ⟨other, block, shape, -, -, same⟩ := convertHeader_eq ready length
    rw [converted] at same
    cases same
    exact sound.grown.of_shape shape
  rw [openPayload_eq heap converted]
  rcases expanded : expandPacket heap buf (packetSize header) with _ | ⟨after, flag⟩
  · have beyond := (expandPacket_eq_none_iff grown).mp expanded
    have hangs : (do
        expand heap (packetSize header)
        pure (payloadSize (packetSize header)) : Handler Nat)
        { conn with buf, n := packetSize header } =
      ({ conn with buf, n := packetSize header
                   largest := max conn.largest (packetSize header) }, .error .hangs) := by
      refine bind_of_error _ ?_
      simp only [expand, RpcServerConnection.onBuffer, zoom, grow, expanded]
    rw [hangs]
    refine iff_of_false (by rintro ⟨⟩) ?_
    rintro (small | ⟨within, -⟩)
    · exact absurd (packetSize_le small) (Nat.not_le_of_lt beyond)
    · exact absurd within (Nat.not_le_of_lt beyond)
  · rw [condition_iff grown expanded]
    have ran : expand heap (packetSize header) { conn with buf, n := packetSize header } =
        ({ conn with buf := after, n := packetSize header
                     largest := max conn.largest (packetSize header) },
          if flag then .ok () else .error .noMemory) := by
      simp only [expand, RpcServerConnection.onBuffer, zoom, grow, expanded]
    cases flag with
    | true =>
        obtain ⟨block, present, size⟩ := expandPacket_holds grown expanded
        have within : (packetSize header).toNat ≤ maxSize :=
          (Nat.le_max_right _ _).trans (expandPacket_grown grown expanded).bound
        have room : (packetSize header).toNat ≤ block.length := by
          rw [size]
          exact (Nat.le_max_right _ _).trans (le_roundUp _)
        rw [bind_of_ok _ ran]
        refine (bounded_ok_iff (reqLen_covered header) present room).trans ?_
        rw [within_iff within]
        exact (or_iff_left (by rintro ⟨⟩)).symm
    | false =>
        rw [bind_of_error _ ran]
        exact iff_of_true rfl (.inr rfl)

end Async

end Arithmetic

section Servers

variable {Msg : Type} [Protobuf]

/-- For every header and every buffer of a run: the simple server is right when the
packet's size does not wrap and neither length is negative as an `int`, the others when
the size is at most `maxSize`; and all three when the allocator fails a buffer that
has to grow. -/
theorem headers_bounded (services : Services Msg) :
    (∀ state, (Simple.simpleServer services).Reachable state → ∀ conn heap header,
      let buf := (state.connections conn).endpoint.buf
      Bounded header header.reqLen
          (openPayload
            (fun buf => some (Simple.expandConnectionPacket heap (packetSize header) buf)) header
            buf) ↔
        (sizeofPacket + header.payload < 2 ^ 32 ∧ header.rpcLen.toNat < 2 ^ 31 ∧
          header.reqLen.toNat < 2 ^ 31) ∨
        Starved heap buf (packetSize header) (packetSize header).toNat) ∧
    (∀ state, (Threaded.threadedServer services).Reachable state → ∀ ref heap header,
      let buf := (state.handlers ref).buf
      Bounded header header.reqLen
          (openPayload (fun buf => expandPacket heap buf (packetSize header)) header buf) ↔
        sizeofPacket + header.payload ≤ maxSize ∨ (packetSize header).toNat ≤ maxSize ∧
          Starved heap buf (packetSize header) (grownSize buf (packetSize header))) ∧
    ∀ state, (Async.asyncServer services).Reachable state → ∀ conn heap bytes buf header,
      ⟨conn, .readHeader, .queued (.done bytes)⟩ ∈ state.ops →
      (do store 0 bytes; Async.RpcServerConnection.convertHeader) (state.connections conn).buf =
        (buf, .ok header) →
      let opened := Async.RpcServerConnection.openPayload heap bytes (state.connections conn)
      (Bounded header header.reqLen (opened.1.buf, opened.2) ↔
        sizeofPacket + header.payload ≤ maxSize ∨ (packetSize header).toNat ≤ maxSize ∧
          Starved heap buf (packetSize header) (grownSize buf (packetSize header))) := by
  refine ⟨?_, ?_, ?_⟩
  · intro state reached conn heap header
    exact Simple.bounded_iff (Simple.State.buffered_reachable reached conn)
  · intro state reached ref heap header
    obtain ⟨largest, sound⟩ := Threaded.State.buffered_reachable reached ref
    exact Threaded.bounded_iff sound
  · intro state reached conn heap bytes buf header queued converted
    have seated := Async.State.seated_reachable reached
    exact Async.bounded_iff (seated.sound conn) (seated.ready _ queued rfl)
      (seated.whole _ queued bytes rfl rfl) converted

end Servers

/-- The header of a request for `Echo.ping` in each server. -/
theorem headers_bounded_ping :
    (∃ state, (Simple.simpleServer sampleServices).Reachable state ∧
      Bounded ⟨13, 1, 0⟩ 1
        (openPayload
          (fun buf => some (Simple.expandConnectionPacket .zeroed (packetSize ⟨13, 1, 0⟩) buf))
          ⟨13, 1, 0⟩ (state.connections 0).endpoint.buf)) ∧
    (∃ state, (Threaded.threadedServer sampleServices).Reachable state ∧
      Bounded ⟨13, 1, 0⟩ 1
        (openPayload (fun buf => expandPacket .zeroed buf (packetSize ⟨13, 1, 0⟩)) ⟨13, 1, 0⟩
          (state.handlers 0).buf)) ∧
    ∃ state, (Async.asyncServer sampleServices).Reachable state ∧
      let opened := Async.RpcServerConnection.openPayload .zeroed (samplePacket.take sizeofPacket)
        (state.connections 0)
      Bounded ⟨13, 1, 0⟩ 1 (opened.1.buf, opened.2) := by
  refine ⟨⟨_, .initial, ?_⟩, ⟨_, .initial, ?_⟩, ?_⟩
  · exact ((headers_bounded sampleServices).1 _ .initial 0 .zeroed ⟨13, 1, 0⟩).mpr (by decide)
  · exact ((headers_bounded sampleServices).2.1 _ .initial 0 .zeroed ⟨13, 1, 0⟩).mpr (by decide)
  · have observed : ((Async.asyncServer sampleServices).run (Async.State.sampleRequest.take 3)
        (Async.asyncServer sampleServices).initial).map
        (fun state => decide
          (⟨0, .readHeader, .queued (.done (samplePacket.take sizeofPacket))⟩ ∈ state.ops ∧
            ((do
              store 0 (samplePacket.take sizeofPacket)
              Async.RpcServerConnection.convertHeader) (state.connections 0).buf).2 =
              .ok ⟨13, 1, 0⟩)) = some true := by
      decide
    obtain ⟨state, reached, result⟩ :=
      (Async.asyncServer sampleServices).exists_reachable_of_run observed
    obtain ⟨queued, converted⟩ := of_decide_eq_true result
    exact ⟨state, reached, ((headers_bounded sampleServices).2.2 state reached 0 .zeroed _ _ _
      queued (apply_eq converted)).mpr (.inl (by decide))⟩

/-- The lengths 2^32 - 1 and 1 sum up to 0. Every server goes on with a read of 0 bytes
for a payload of 2^32 bytes. -/
theorem header_wraps :
    (⟨0xFFFFFFFF, 1, 0⟩ : Header).payload = 2 ^ 32 ∧
    (∃ state, (Simple.simpleServer sampleServices).Reachable state ∧
      ¬ Bounded ⟨0xFFFFFFFF, 1, 0⟩ 1
        (openPayload
          (fun buf => some (Simple.expandConnectionPacket .zeroed
            (packetSize ⟨0xFFFFFFFF, 1, 0⟩) buf))
          ⟨0xFFFFFFFF, 1, 0⟩ (state.connections 0).endpoint.buf)) ∧
    (∃ state, (Threaded.threadedServer sampleServices).Reachable state ∧
      ¬ Bounded ⟨0xFFFFFFFF, 1, 0⟩ 1
        (openPayload (fun buf => expandPacket .zeroed buf (packetSize ⟨0xFFFFFFFF, 1, 0⟩))
          ⟨0xFFFFFFFF, 1, 0⟩ (state.handlers 0).buf)) ∧
    ∃ state, (Async.asyncServer sampleServices).Reachable state ∧
      ⟨0, .readHeader, .queued (.done (Header.toNetwork ⟨0xFFFFFFFF, 1, 0⟩))⟩ ∈ state.ops ∧
      let opened := Async.RpcServerConnection.openPayload .zeroed
        (Header.toNetwork ⟨0xFFFFFFFF, 1, 0⟩) (state.connections 0)
      ¬ Bounded ⟨0xFFFFFFFF, 1, 0⟩ 1 (opened.1.buf, opened.2) := by
  have unbounded : ∀ result : PacketBuf × Except Fault Nat, result.2 = .ok 0 →
      ¬ Bounded ⟨0xFFFFFFFF, 1, 0⟩ 1 result := by
    rintro ⟨buf, _⟩ rfl bounded
    exact absurd bounded.1 (by decide)
  refine ⟨by decide, ⟨_, .initial, ?_⟩, ⟨_, .initial, ?_⟩, ?_⟩
  · exact unbounded _ (by decide)
  · exact unbounded _ (by decide)
  · have observed : ((Async.asyncServer sampleServices).run
        (Async.State.sampleRequest.take 2 ++
          [.complete ⟨0, .readHeader, .pending⟩ (.done (Header.toNetwork ⟨0xFFFFFFFF, 1, 0⟩))])
        (Async.asyncServer sampleServices).initial).map
        (fun state => decide
          (⟨0, .readHeader, .queued (.done (Header.toNetwork ⟨0xFFFFFFFF, 1, 0⟩))⟩ ∈ state.ops ∧
            (Async.RpcServerConnection.openPayload .zeroed
              (Header.toNetwork ⟨0xFFFFFFFF, 1, 0⟩) (state.connections 0)).2 = .ok 0)) =
        some true := by
      decide
    obtain ⟨state, reached, result⟩ :=
      (Async.asyncServer sampleServices).exists_reachable_of_run observed
    obtain ⟨queued, ended⟩ := of_decide_eq_true result
    exact ⟨state, reached, queued, unbounded _ ended⟩

end CarrotRpc.Server
