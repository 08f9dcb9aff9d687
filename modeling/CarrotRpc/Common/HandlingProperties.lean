import CarrotRpc.Common.Growth
import CarrotRpc.Common.Handling

/-! What the steps on a packet buffer do to its size, and when they stay inside its
block. -/

set_option autoImplicit false

namespace CarrotRpc.Common

open Library Library.Faulting

/-- The size kept beside the pointer and the size of the block behind it. -/
def PacketBuf.shape (buf : PacketBuf) : UInt32 × Option Nat :=
  (buf.size, buf.p.map List.length)

section Shapes

variable {buf other : PacketBuf} {shape : UInt32 × Option Nat} {offset length : Nat}
  {bytes : List UInt8}

theorem PacketBuf.Exact.of_shape (exact : buf.Exact) (same : other.shape = buf.shape) :
    other.Exact := by
  simp only [PacketBuf.shape, Prod.mk.injEq] at same
  intro block present
  have lengths := same.2
  rw [present, Option.map_some, eq_comm, Option.map_eq_some_iff] at lengths
  obtain ⟨old, present, equal⟩ := lengths
  rw [← equal, exact old present, same.1]

theorem PacketBuf.Grown.of_shape {largest : Nat} (grown : buf.Grown largest)
    (same : other.shape = buf.shape) : other.Grown largest where
  exact := grown.exact.of_shape same
  size := by
    simp only [PacketBuf.shape, Prod.mk.injEq] at same
    rw [same.1]
    rcases grown.size with ⟨zero, absent, none⟩ | size
    · left
      have lengths := same.2
      rw [absent, Option.map_none, Option.map_eq_none_iff] at lengths
      exact ⟨zero, lengths, none⟩
    · exact .inr size
  bound := grown.bound

/-- The block of a buffer with a known shape. -/
theorem PacketBuf.length_of_shape {block : Block} (same : buf.shape = shape)
    (present : buf.p = some block) : shape.2 = some block.length := by
  rw [← same]
  simp only [PacketBuf.shape, present, Option.map_some]

theorem store_eq (buf : PacketBuf) (offset : Nat) (bytes : List UInt8) {block : Block}
    (present : buf.p = some block) (inside : offset + bytes.length ≤ block.length) :
    ∃ written, block.write offset bytes = some written ∧ written.length = block.length ∧
      store offset bytes buf = ({ buf with p := some written }, .ok ()) := by
  obtain ⟨written, given⟩ := Option.isSome_iff_exists.mp (Block.write_isSome_iff.mpr inside)
  exact ⟨written, given, Block.length_of_write given, by simp only [store, present, given]⟩

theorem store_eq_ok {stored : PacketBuf} (ended : store offset bytes buf = (stored, .ok ())) :
    ∃ block written, buf.p = some block ∧ block.write offset bytes = some written ∧
      stored = { buf with p := some written } := by
  simp only [store] at ended
  split at ended
  · cases ended
  · next block present =>
      split at ended
      · cases ended
      · next written given =>
          cases ended
          exact ⟨block, written, present, given, rfl⟩

theorem store_fault {next : PacketBuf} {fault : Fault}
    (ran : store offset bytes buf = (next, .error fault)) : fault = .overruns := by
  simp only [store] at ran
  split at ran
  · cases ran
    rfl
  · split at ran
    · cases ran
      rfl
    · cases ran

theorem load_eq (buf : PacketBuf) (offset length : Nat) {block : Block}
    (present : buf.p = some block) (inside : offset + length ≤ block.length) :
    load offset length buf = (buf, .ok ((block.drop offset).take length)) := by
  simp only [load, present, Block.read, if_pos inside]

theorem load_fault {next : PacketBuf} {fault : Fault}
    (ran : load offset length buf = (next, .error fault)) : fault = .overruns := by
  simp only [load] at ran
  split at ran
  · cases ran
    rfl
  · split at ran
    · cases ran
      rfl
    · cases ran

theorem load_fst : (load offset length buf).1 = buf := by
  simp only [load]
  split
  · rfl
  · split <;> rfl

theorem parseRange_fst {length : UInt32} : (parseRange offset length buf).1 = buf := by
  simp only [parseRange]
  split
  · rfl
  · exact load_fst

theorem parseRange_eq_ok {length : UInt32} {next : PacketBuf}
    (ranged : parseRange offset length buf = (next, .ok bytes)) : next = buf := by
  have kept : (parseRange offset length buf).1 = buf := parseRange_fst
  rw [ranged] at kept
  exact kept

theorem raises_store {allowed : Fault → Prop} (overruns : allowed .overruns) :
    RaisesOnly allowed (store offset bytes) :=
  .of_fault fun ran => store_fault ran ▸ overruns

theorem raises_load {allowed : Fault → Prop} (overruns : allowed .overruns) :
    RaisesOnly allowed (load offset length) :=
  .of_fault fun ran => load_fault ran ▸ overruns

theorem raises_parseRange {allowed : Fault → Prop} {length : UInt32}
    (overruns : allowed .overruns) : RaisesOnly allowed (parseRange offset length) := by
  unfold parseRange
  split
  · exact .fail overruns
  · exact raises_load overruns

theorem raises_storePayload {allowed : Fault → Prop} {size : Nat} (overruns : allowed .overruns)
    (unread : allowed .unread) : RaisesOnly allowed (storePayload size bytes) :=
  (raises_store overruns).bind fun _ => .ensure fun _ => unread

theorem shape_store : (store offset bytes buf).1.shape = buf.shape := by
  simp only [store]
  split
  · rfl
  · next block present =>
      split
      · rfl
      · next written given =>
          simp only [PacketBuf.shape, present, Option.map_some, Block.length_of_write given]

theorem keepsShape_store : Keeps (fun buf => buf.shape = shape) (store offset bytes) :=
  .of_state fun _ holds => shape_store.trans holds

theorem keepsShape_load : Keeps (fun buf => buf.shape = shape) (load offset length) :=
  .of_state fun _ holds => (congrArg PacketBuf.shape load_fst).trans holds

theorem keepsShape_storePayload {size : Nat} :
    Keeps (fun buf => buf.shape = shape) (storePayload size bytes) :=
  keepsShape_store.bind fun _ => .ensure

theorem grow_eq_ok {expand : PacketBuf → Option (PacketBuf × Bool)} {grown : PacketBuf}
    (ended : grow expand buf = (grown, .ok ())) : expand buf = some (grown, true) := by
  simp only [grow] at ended
  split at ended
  · cases ended
  · next expanded flag result =>
      cases flag with
      | true =>
          cases ended
          exact result
      | false => cases ended

theorem grow_noMemory_iff {heap : Realloc} {n : UInt32} :
    (grow (fun buf => expandPacket heap buf n) buf).2 = .error .noMemory ↔ buf.Denied heap n := by
  rw [← expandPacket_fails_iff]
  simp only [grow]
  cases result : expandPacket heap buf n with
  | none => simp
  | some pair =>
      obtain ⟨after, flag⟩ := pair
      cases flag <;> simp

/-- Otherwise a faulty `expand_packet` does not return. -/
theorem grow_hangs {heap : Realloc} {n : UInt32} {next : PacketBuf} {fault : Fault}
    (ran : grow (fun buf => expandPacket heap buf n) buf = (next, .error fault))
    (fed : ¬ buf.Denied heap n) : fault = .hangs := by
  rw [← grow_noMemory_iff, ran] at fed
  simp only [grow] at ran
  split at ran
  · cases ran
    rfl
  · next after flag result =>
      cases flag with
      | true => cases ran
      | false =>
          cases ran
          exact absurd rfl fed

theorem storePayload_eq_ok {size : Nat} {stored : PacketBuf}
    (ended : storePayload size bytes buf = (stored, .ok ())) :
    bytes.length = size ∧ store sizeofPacket bytes buf = (stored, .ok ()) := by
  obtain ⟨_, next, first, second⟩ := bind_eq_ok ended
  by_cases whole : bytes.length = size
  · simp only [whole, decide_true, ensure_true] at second
    cases second
    exact ⟨whole, first⟩
  · simp only [whole, decide_false, ensure_false] at second
    cases second

/-- Work on the buffer of an endpoint ends as it does on the buffer alone. -/
theorem onBuffer_eq {Value : Type} {handling : Handling Value} {endpoint : Endpoint}
    {result : Except Fault Value}
    (ended : handling endpoint.buf = (buf, result)) :
    onBuffer handling endpoint = ({ endpoint with buf }, result) := by
  simp only [onBuffer, zoom, ended]

/-- Work on the buffer step by step is work on the endpoint step by step. -/
theorem onBuffer_bind {Value Result : Type} (first : Handling Value)
    (rest : Value → Handling Result) :
    onBuffer (first >>= rest) = onBuffer first >>= fun value => onBuffer (rest value) := by
  unfold onBuffer
  apply zoom_bind
  · intro endpoint buf
    rfl
  · intro endpoint buf other
    rfl

end Shapes

section Sizes

variable {header : Header}

theorem payload_lt (header : Header) : header.payload < 3 * 2 ^ 32 := by
  have rpc := header.rpcLen.toNat_lt
  have req := header.reqLen.toNat_lt
  have resp := header.respLen.toNat_lt
  simp only [Header.payload]
  omega

theorem toNat_packetSize : (packetSize header).toNat = (sizeofPacket + header.payload) % 2 ^ 32 := by
  rw [packetSize, UInt32.toNat_ofNat']

theorem packetSize_of_lt (small : sizeofPacket + header.payload < 2 ^ 32) :
    (packetSize header).toNat = sizeofPacket + header.payload := by
  rw [toNat_packetSize, Nat.mod_eq_of_lt small]

theorem payloadSize_eq (n : UInt32) :
    payloadSize n = if sizeofPacket ≤ n.toNat then n.toNat - sizeofPacket
      else 2 ^ 64 + n.toNat - sizeofPacket := by
  have bound := n.toNat_lt
  have size : payloadSize n = (2 ^ 64 - 12 + n.toNat) % 2 ^ 64 := by
    simp only [payloadSize, UInt64.toNat_sub, UInt32.toNat_toUInt64, UInt64.toNat_ofNat',
      sizeofPacket]
  have twelve : sizeofPacket = 12 := rfl
  split <;> omega

theorem payloadSize_of_lt (small : sizeofPacket + header.payload < 2 ^ 32) :
    payloadSize (packetSize header) = header.payload := by
  rw [payloadSize_eq, packetSize_of_lt small, if_pos (Nat.le_add_right _ _), Nat.add_sub_cancel_left]

/-- A sum that wraps makes the read ask for another number of bytes. -/
theorem payloadSize_ne (large : 2 ^ 32 ≤ sizeofPacket + header.payload) :
    payloadSize (packetSize header) ≠ header.payload := by
  have bound := payload_lt header
  have wrapped := (packetSize header).toNat_lt
  have twelve : sizeofPacket = 12 := rfl
  rw [payloadSize_eq]
  split <;> omega

theorem parseSize_of_lt {length : UInt32} (small : length.toNat < 2 ^ 31) :
    parseSize length = length.toNat := by
  simp only [parseSize, Int32.toInt, UInt32.toBitVec_toInt32]
  rw [BitVec.toInt_eq_toNat_of_lt]
  · rfl
  · change 2 * length.toNat < 2 ^ 32
    omega

theorem parseSize_neg {length : UInt32} (large : 2 ^ 31 ≤ length.toNat) : parseSize length < 0 := by
  have bound := length.toNat_lt
  simp only [parseSize, Int32.toInt, UInt32.toBitVec_toInt32, BitVec.toInt_eq_toNat_cond]
  have same : length.toBitVec.toNat = length.toNat := rfl
  rw [same, if_neg (by omega)]
  omega

theorem parseSize_nonneg_iff {length : UInt32} : 0 ≤ parseSize length ↔ length.toNat < 2 ^ 31 := by
  constructor
  · intro nonneg
    by_contra large
    exact absurd nonneg (Int.not_le.mpr (parseSize_neg (Nat.le_of_not_lt large)))
  · intro small
    rw [parseSize_of_lt small]
    exact Int.natCast_nonneg _

end Sizes

end CarrotRpc.Common
