import CarrotRpc.Common.HandlingProperties

/-! When the length fields of a header lead to reads and parse ranges inside the
packet. -/

set_option autoImplicit false

namespace CarrotRpc.Common

open Library Library.Faulting

/-- A range handed to `ParseFromArray` lies inside `size` received bytes. -/
def Inside (offset : Nat) (length : UInt32) (size : Nat) : Prop :=
  0 ≤ parseSize length ∧ (offset : Int) + parseSize length ≤ size

/-- A header led to the read of `size` payload bytes, or the packet was rejected. The
metadata is parsed first, and `parameter` bytes are parsed behind it. -/
def Bounded (header : Header) (parameter : UInt32) : PacketBuf × Except Fault Nat → Prop
  | (_, .error fault) => fault = .noMemory
  | (buf, .ok size) =>
      size = header.payload ∧
      (∃ block, buf.p = some block ∧ sizeofPacket + size ≤ block.length) ∧
      Inside 0 header.rpcLen size ∧ Inside header.rpcLen.toNat parameter size

/-- The buffer has to grow for a packet of `n` bytes, and `realloc` fails. -/
def Starved (heap : Realloc) (buf : PacketBuf) (n : UInt32) (size : Nat) : Prop :=
  (buf.size < n ∨ buf.p = none) ∧ heap.apply buf.p size = none

instance (heap : Realloc) (buf : PacketBuf) (n : UInt32) (size : Nat) :
    Decidable (Starved heap buf n size) :=
  inferInstanceAs (Decidable (_ ∧ _))

theorem inside_iff {offset size : Nat} {length : UInt32} (covered : offset + length.toNat ≤ size) :
    Inside offset length size ↔ length.toNat < 2 ^ 31 := by
  constructor
  · rintro ⟨nonneg, -⟩
    exact parseSize_nonneg_iff.mp nonneg
  · intro small
    refine ⟨parseSize_nonneg_iff.mpr small, ?_⟩
    rw [parseSize_of_lt small]
    omega

section Opening

variable {header : Header} {parameter : UInt32} {buf : PacketBuf} {block : Block}

/-- With a block for the packet, the read and the ranges are right exactly when the sum
of the lengths does not wrap and no length is negative as an `int`. -/
theorem bounded_ok_iff (covered : header.rpcLen.toNat + parameter.toNat ≤ header.payload)
    (present : buf.p = some block) (room : (packetSize header).toNat ≤ block.length) :
    Bounded header parameter (buf, .ok (payloadSize (packetSize header))) ↔
      sizeofPacket + header.payload < 2 ^ 32 ∧ header.rpcLen.toNat < 2 ^ 31 ∧
        parameter.toNat < 2 ^ 31 := by
  have metadata : 0 + header.rpcLen.toNat ≤ header.payload := by omega
  constructor
  · rintro ⟨same, -, first, second⟩
    rw [same] at first second
    refine ⟨?_, (inside_iff metadata).mp first, (inside_iff covered).mp second⟩
    by_contra large
    exact payloadSize_ne (Nat.le_of_not_lt large) same
  · rintro ⟨small, first, second⟩
    have size := payloadSize_of_lt small
    refine ⟨size, ⟨block, present, ?_⟩, ?_, ?_⟩
    · rw [size, ← packetSize_of_lt small]
      exact room
    · rw [size]
      exact (inside_iff metadata).mpr first
    · rw [size]
      exact (inside_iff covered).mpr second

theorem reqLen_covered (header : Header) :
    header.rpcLen.toNat + header.reqLen.toNat ≤ header.payload := by
  simp only [Header.payload]
  omega

theorem respLen_covered (header : Header) :
    header.rpcLen.toNat + header.respLen.toNat ≤ header.payload := by
  simp only [Header.payload]
  omega

/-- A size that wrapped may be too small for the header itself. -/
theorem openPayload_of_grown {expand : PacketBuf → Option (PacketBuf × Bool)} {grown : PacketBuf}
    (expanded : expand buf = some (grown, true)) (present : grown.p = some block)
    (room : (packetSize header).toNat ≤ block.length) :
    Bounded header header.reqLen (openPayload expand header buf) ↔
      sizeofPacket + header.payload < 2 ^ 32 ∧ header.rpcLen.toNat < 2 ^ 31 ∧
        header.reqLen.toNat < 2 ^ 31 := by
  have grew : grow expand buf = (grown, .ok ()) := by simp only [grow, expanded, if_true]
  rw [openPayload, bind_of_ok _ grew]
  by_cases fits : sizeofPacket ≤ block.length
  · obtain ⟨written, -, length, stored⟩ := store_eq grown 0 header.toHost present
      (by rw [Header.length_toHost]; omega)
    rw [bind_of_ok _ stored]
    exact bounded_ok_iff (reqLen_covered header) rfl (length ▸ room)
  · have overruns : store 0 header.toHost grown = (grown, .error .overruns) := by
      have absent : block.write 0 header.toHost = none := by
        rw [Block.write, if_neg]
        rw [Header.length_toHost]
        omega
      simp only [store, present, absent]
    rw [bind_of_error _ overruns]
    constructor
    · rintro ⟨⟩
    · rintro ⟨small, -⟩
      rw [packetSize_of_lt small] at room
      omega

theorem openPayload_of_ungrown {expand : PacketBuf → Option (PacketBuf × Bool)}
    {grown : PacketBuf} (expanded : expand buf = some (grown, false)) :
    Bounded header parameter (openPayload expand header buf) := by
  have grew : grow expand buf = (grown, .error .noMemory) := by
    simp only [grow, expanded, Bool.false_eq_true, if_false]
  rw [openPayload, bind_of_error _ grew]
  rfl

theorem openPayload_of_hang {expand : PacketBuf → Option (PacketBuf × Bool)}
    (hangs : expand buf = none) : ¬ Bounded header parameter (openPayload expand header buf) := by
  have grew : grow expand buf = (buf, .error .hangs) := by simp only [grow, hangs]
  rw [openPayload, bind_of_error _ grew]
  rintro ⟨⟩

end Opening

section Growing

variable {heap : Realloc} {buf grown : PacketBuf} {n : UInt32} {flag : Bool}

/-- The size `expand_packet` grows a buffer to. -/
def grownSize (buf : PacketBuf) (n : UInt32) : Nat := roundUp (max buf.size.toNat n.toNat)

theorem grownSize_eq {largest : Nat} (sound : buf.Grown largest) :
    grownSize buf n = roundUp (max largest n.toNat) := by
  rcases sound.size with ⟨zero, -, none⟩ | size
  · rw [grownSize, zero, none]
    rfl
  · rw [grownSize, size, roundUp_max, roundUp_max]
    congr 1
    exact roundUp_pow _

/-- The size that the doubling reaches is known. -/
theorem denied_iff {largest : Nat} (sound : buf.Grown largest) (within : n.toNat ≤ maxSize) :
    buf.Denied heap n ↔ Starved heap buf n (grownSize buf n) := by
  rw [← expandPacket_fails_iff, expandPacket_eq sound within, Starved, grownSize_eq sound]
  by_cases needed : buf.size < n ∨ buf.p = none
  · rw [if_pos needed]
    cases given : heap.apply buf.p (roundUp (max largest n.toNat)) with
    | none => simp [needed]
    | some block => simp
  · rw [if_neg needed]
    simp [needed]

/-- `expand_packet` returns -1 exactly when the allocator fails it. -/
theorem expandPacket_eq_false_iff {largest : Nat} (sound : buf.Grown largest)
    (expanded : expandPacket heap buf n = some (grown, flag)) :
    flag = false ↔ Starved heap buf n (grownSize buf n) := by
  have within : n.toNat ≤ maxSize := by
    by_contra beyond
    rw [(expandPacket_eq_none_iff sound).mpr (Nat.lt_of_not_le beyond)] at expanded
    cases expanded
  rw [← denied_iff sound within, ← expandPacket_fails_iff, expanded]
  simp

theorem packetSize_le {header : Header} (small : sizeofPacket + header.payload ≤ maxSize) :
    (packetSize header).toNat ≤ maxSize := by
  rw [packetSize_of_lt (small.trans_lt (by decide))]
  exact small

/-- The condition when a call of `expand_packet` for the packet is decided. -/
theorem condition_iff {header : Header} {grown : PacketBuf} {flag : Bool} {largest : Nat}
    (sound : buf.Grown largest)
    (expanded : expandPacket heap buf (packetSize header) = some (grown, flag)) :
    sizeofPacket + header.payload ≤ maxSize ∨ (packetSize header).toNat ≤ maxSize ∧
        Starved heap buf (packetSize header) (grownSize buf (packetSize header)) ↔
      sizeofPacket + header.payload ≤ maxSize ∨ flag = false := by
  have within : (packetSize header).toNat ≤ maxSize := by
    by_contra beyond
    rw [(expandPacket_eq_none_iff sound).mpr (Nat.lt_of_not_le beyond)] at expanded
    cases expanded
  rw [expandPacket_eq_false_iff sound expanded]
  exact or_congr_right (and_iff_right within)

end Growing

end CarrotRpc.Common
