import CarrotRpc.Common.HeaderBounds
import CarrotRpc.Protocol.ResponseReceiver

/-! The arithmetic on the length fields of a response in the two clients. -/

set_option autoImplicit false

namespace CarrotRpc.Protocol

open Library Library.Faulting Common Protob
open Server.Async.RpcServerConnection (convertHeader)

section Arithmetic

variable {heap : Realloc} {header : Header} {buf : PacketBuf} {block : Block}

theorem toNat_lengthSum : (lengthSum header).toNat = header.payload % 2 ^ 32 := by
  simp only [lengthSum, UInt32.toNat_add, Header.payload]
  omega

/-- The clients read as many bytes as the sum of the lengths says in 32 bits. -/
theorem bounded_sum_iff (present : buf.p = some block) :
    Bounded header header.respLen (buf, .ok (lengthSum header).toNat) ↔
      header.payload < 2 ^ 32 ∧ sizeofPacket + header.payload ≤ block.length ∧
        header.rpcLen.toNat < 2 ^ 31 ∧ header.respLen.toNat < 2 ^ 31 := by
  have metadata : 0 + header.rpcLen.toNat ≤ header.payload := by
    have covered := respLen_covered header
    omega
  have parameter := respLen_covered header
  rw [toNat_lengthSum]
  constructor
  · rintro ⟨same, ⟨other, found, room⟩, first, second⟩
    obtain rfl : block = other := Option.some.inj (present.symm.trans found)
    rw [same] at room first second
    refine ⟨?_, room, (inside_iff metadata).mp first, (inside_iff parameter).mp second⟩
    rw [← same]
    exact Nat.mod_lt _ (by decide)
  · rintro ⟨small, room, first, second⟩
    rw [Nat.mod_eq_of_lt small]
    exact ⟨rfl, ⟨block, present, room⟩, (inside_iff metadata).mpr first,
      (inside_iff parameter).mpr second⟩

/-- The packet of the response is the one of the request unless that is too small. -/
theorem Blocking.bounded_iff (n : Nat) (present : buf.p = some block) (length : block.length = n)
    (whole : sizeofPacket ≤ n) :
    Bounded header header.respLen (Client.Blocking.openPayload heap n header buf) ↔
      (header.payload < 2 ^ 32 ∧ header.rpcLen.toNat < 2 ^ 31 ∧ header.respLen.toNat < 2 ^ 31) ∨
      n - sizeofPacket < (lengthSum header).toNat ∧
        heap.apply buf.p ((lengthSum header).toNat + sizeofPacket) = none := by
  have stored : ∀ (ready : PacketBuf) (start : Block), ready.p = some start →
      sizeofPacket ≤ start.length →
      (header.payload < 2 ^ 32 → sizeofPacket + header.payload ≤ start.length) →
      (Bounded header header.respLen ((do
          store 0 header.toHost
          pure (lengthSum header).toNat) ready) ↔
        header.payload < 2 ^ 32 ∧ header.rpcLen.toNat < 2 ^ 31 ∧
          header.respLen.toNat < 2 ^ 31) := by
    intro ready start holds fits room
    obtain ⟨written, -, same, ran⟩ := store_eq ready 0 header.toHost holds
      (by rw [Header.length_toHost]; omega)
    rw [bind_of_ok _ ran]
    refine (bounded_sum_iff rfl).trans (and_congr_right fun small => ?_)
    rw [same]
    exact and_iff_right (room small)
  have sum : header.payload < 2 ^ 32 → (lengthSum header).toNat = header.payload := fun small => by
    rw [toNat_lengthSum, Nat.mod_eq_of_lt small]
  unfold Client.Blocking.openPayload
  by_cases needed : n - sizeofPacket < (lengthSum header).toNat
  · simp only [if_pos needed]
    cases given : heap.apply buf.p ((lengthSum header).toNat + sizeofPacket) with
    | none =>
        have failed : Client.Blocking.allocate heap ((lengthSum header).toNat + sizeofPacket) buf =
            ({}, .error .noMemory) := by simp only [Client.Blocking.allocate, given]
        rw [bind_of_error _ failed]
        exact iff_of_true rfl (.inr ⟨needed, rfl⟩)
    | some grown =>
        have ran : Client.Blocking.allocate heap ((lengthSum header).toNat + sizeofPacket) buf =
            ({ p := some grown }, .ok ()) := by simp only [Client.Blocking.allocate, given]
        have size := heap.length_eq given
        rw [bind_of_ok _ ran]
        refine (stored { p := some grown } grown rfl (by omega) fun small => ?_).trans ?_
        · rw [size, sum small, Nat.add_comm]
        · exact (or_iff_left fun starved => by cases starved.2).symm
  · simp only [if_neg needed]
    refine (stored buf block present (by omega) fun small => ?_).trans ?_
    · have total := sum small
      omega
    · exact (or_iff_left fun starved => needed starved.1).symm

/-- The size the buffer grows to wraps later than the number of bytes that are read. -/
theorem AsyncClient.bounded_iff {largest : Nat} {bytes : List UInt8} {converted : PacketBuf}
    (sound : converted.Grown largest)
    (ran : (do store 0 bytes; convertHeader) buf = (converted, .ok header)) :
    Bounded header header.respLen (AsyncClient.openPayload heap bytes buf) ↔
      sizeofPacket + header.payload ≤ maxSize ∨ (packetSize header).toNat ≤ maxSize ∧
        Starved heap converted (packetSize header) (grownSize converted (packetSize header)) := by
  have opened : AsyncClient.openPayload heap bytes buf = (do
      grow fun buf => expandPacket heap buf (packetSize header)
      pure (lengthSum header).toNat : Handling Nat) converted := by
    rw [← clientSize_eq]
    have whole : AsyncClient.openPayload heap bytes =
        (do store 0 bytes; convertHeader) >>= fun header => (do
          grow fun buf => expandPacket heap buf (clientSize header)
          pure (lengthSum header).toNat) := (bind_assoc _ _ _).symm
    rw [whole, bind_of_ok _ ran]
  rw [opened]
  rcases expanded : expandPacket heap converted (packetSize header) with _ | ⟨grown, flag⟩
  · have beyond := (expandPacket_eq_none_iff sound).mp expanded
    have hangs : (grow fun buf => expandPacket heap buf (packetSize header)) converted =
        (converted, .error .hangs) := by simp only [grow, expanded]
    rw [bind_of_error _ hangs]
    refine iff_of_false (by rintro ⟨⟩) ?_
    rintro (small | ⟨within, -⟩)
    · exact absurd (packetSize_le small) (Nat.not_le_of_lt beyond)
    · exact absurd within (Nat.not_le_of_lt beyond)
  · rw [condition_iff sound expanded]
    cases flag with
    | true =>
        have grew : (grow fun buf => expandPacket heap buf (packetSize header)) converted =
            (grown, .ok ()) := by simp only [grow, expanded, if_true]
        obtain ⟨block, present, length⟩ := expandPacket_holds sound expanded
        have bound : block.length ≤ maxSize := by
          rw [length]
          exact roundUp_le (expandPacket_grown sound expanded).bound
        have room : (packetSize header).toNat ≤ block.length := by
          rw [length]
          exact (Nat.le_max_right _ _).trans (le_roundUp _)
        have covered := respLen_covered header
        have twelve : sizeofPacket = 12 := rfl
        have limit : maxSize = 2 ^ 31 := rfl
        rw [bind_of_ok _ grew, pure_apply, or_iff_left (by rintro ⟨⟩)]
        apply (bounded_sum_iff present).trans
        constructor
        · rintro ⟨-, whole, -⟩
          exact whole.trans bound
        · intro small
          rw [packetSize_of_lt (by omega)] at room
          exact ⟨by omega, room, by omega, by omega⟩
    | false =>
        have failed : (grow fun buf => expandPacket heap buf (packetSize header)) converted =
            (grown, .error .noMemory) := by
          simp only [grow, expanded, Bool.false_eq_true, if_false]
        rw [bind_of_error _ failed]
        exact iff_of_true rfl (.inr rfl)

end Arithmetic

/-- For every response header, every size of a request, and a buffer with any past: the
blocking client is right when the sum of the lengths does not wrap and neither length it
uses is negative as an `int`, the async client when the packet has at most `maxSize`
bytes; and both when the allocator fails a packet that has to grow. -/
theorem responses_bounded (heap : Realloc) (header : Header) (buf : PacketBuf) :
    (∀ n block, buf.p = some block → block.length = n → sizeofPacket ≤ n →
      (Bounded header header.respLen (Client.Blocking.openPayload heap n header buf) ↔
        (header.payload < 2 ^ 32 ∧ header.rpcLen.toNat < 2 ^ 31 ∧
          header.respLen.toNat < 2 ^ 31) ∨
        n - sizeofPacket < (lengthSum header).toNat ∧
          heap.apply buf.p ((lengthSum header).toNat + sizeofPacket) = none)) ∧
    ∀ bytes converted, buf.Reached →
      (do store 0 bytes; convertHeader) buf = (converted, .ok header) →
      (Bounded header header.respLen (AsyncClient.openPayload heap bytes buf) ↔
        sizeofPacket + header.payload ≤ maxSize ∨ (packetSize header).toNat ≤ maxSize ∧
          Starved heap converted (packetSize header)
            (grownSize converted (packetSize header))) := by
  refine ⟨fun n block present length whole => Blocking.bounded_iff n present length whole, ?_⟩
  intro bytes converted reached ran
  have keeps : Keeps PacketBuf.Reached (do store 0 bytes; convertHeader) :=
    keepsReached_store.bind fun _ => keepsReached_convertHeader
  have kept := keeps.state reached
  rw [ran] at kept
  obtain ⟨largest, sound⟩ := kept.grown
  exact AsyncClient.bounded_iff sound ran

/-- The packet of a request with a payload of 14 bytes, and a buffer that `start_read` has
made ready. -/
def sampleRequestBuf : PacketBuf := { p := some (List.replicate 26 0) }

def sampleReadBuf : PacketBuf := { p := some (List.replicate 16 0), size := 16 }

theorem reached_sampleReadBuf : sampleReadBuf.Reached := by
  have expanded : expandPacket .zeroed {} 12 = some (sampleReadBuf, true) := rfl
  exact .expanded .initial expanded

/-- The header of a response with one byte. -/
theorem responses_bounded_ping :
    Bounded ⟨4, 0, 1⟩ 1 (Client.Blocking.openPayload .zeroed 26 ⟨4, 0, 1⟩ sampleRequestBuf) ∧
      Bounded ⟨4, 0, 1⟩ 1
        (AsyncClient.openPayload .zeroed (Header.toNetwork ⟨4, 0, 1⟩) sampleReadBuf) := by
  have converted : ((do store 0 (Header.toNetwork ⟨4, 0, 1⟩); convertHeader)
      sampleReadBuf).2 = .ok ⟨4, 0, 1⟩ := by decide
  constructor
  · exact ((responses_bounded .zeroed ⟨4, 0, 1⟩ sampleRequestBuf).1 26 _ rfl rfl (by decide)).mpr
      (.inl (by decide))
  · exact ((responses_bounded .zeroed ⟨4, 0, 1⟩ sampleReadBuf).2 _ _ reached_sampleReadBuf
      (apply_eq converted)).mpr (.inl (by decide))

/-- The lengths 2^32 - 1 and 1 sum up to 0: both clients go on with a read of 0 bytes. With
the length 2^32 - 1 alone the async client asks for 2^32 - 1 bytes in a block of 16. -/
theorem response_wraps :
    ¬ Bounded ⟨0xFFFFFFFF, 1, 0⟩ 0
        (Client.Blocking.openPayload .zeroed 26 ⟨0xFFFFFFFF, 1, 0⟩ sampleRequestBuf) ∧
      ¬ Bounded ⟨0xFFFFFFFF, 1, 0⟩ 0
        (AsyncClient.openPayload .zeroed (Header.toNetwork ⟨0xFFFFFFFF, 1, 0⟩) sampleReadBuf) ∧
      (AsyncClient.openPayload .zeroed (Header.toNetwork ⟨0xFFFFFFFF, 0, 0⟩) sampleReadBuf).2 =
        .ok 0xFFFFFFFF ∧
      ¬ Bounded ⟨0xFFFFFFFF, 0, 0⟩ 0
        (AsyncClient.openPayload .zeroed (Header.toNetwork ⟨0xFFFFFFFF, 0, 0⟩) sampleReadBuf) := by
  have unbounded : ∀ result : PacketBuf × Except Fault Nat, result.2 = .ok 0 →
      ¬ Bounded ⟨0xFFFFFFFF, 1, 0⟩ 0 result := by
    rintro ⟨buf, _⟩ rfl bounded
    exact absurd bounded.1 (by decide)
  have opened : (AsyncClient.openPayload .zeroed (Header.toNetwork ⟨0xFFFFFFFF, 0, 0⟩)
      sampleReadBuf).2 = .ok 0xFFFFFFFF := by decide
  refine ⟨unbounded _ (by decide), unbounded _ (by decide), opened, ?_⟩
  rw [apply_eq opened]
  rintro ⟨-, -, ⟨nonneg, -⟩, -⟩
  exact absurd nonneg (by decide)

end CarrotRpc.Protocol
