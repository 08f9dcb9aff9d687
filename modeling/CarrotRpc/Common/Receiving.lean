import CarrotRpc.Common.HandlingProperties

/-! What a received packet looks like in a buffer, whatever the buffer held before. -/

set_option autoImplicit false

namespace CarrotRpc.Common

open Library Library.Faulting

/-- What `ParseFromArray` is given of a payload. -/
def slice (offset : Nat) (length : UInt32) (payload : List UInt8) : Except Fault (List UInt8) :=
  if parseSize length < 0 then .error .overruns
  else .ok ((payload.drop offset).take length.toNat)

/-- The block starts with a header in host order and a payload behind it. -/
def Carries (header : Header) (payload : List UInt8) (buf : PacketBuf) : Prop :=
  ∃ block, buf.p = some block ∧
    block.take (sizeofPacket + payload.length) = header.toHost ++ payload

section Carrying

variable {header : Header} {payload : List UInt8} {buf : PacketBuf}

theorem Carries.room (carries : Carries header payload buf) :
    ∃ block, buf.p = some block ∧ sizeofPacket + payload.length ≤ block.length ∧
      block.take (sizeofPacket + payload.length) = header.toHost ++ payload := by
  obtain ⟨block, present, content⟩ := carries
  have lengths := congrArg List.length content
  rw [List.length_take, List.length_append, Header.length_toHost] at lengths
  exact ⟨block, present, by omega, content⟩

/-- A range inside the payload is read from the payload. -/
theorem Carries.load (carries : Carries header payload buf) (offset length : Nat)
    (inside : offset + length ≤ payload.length) :
    Common.load (sizeofPacket + offset) length buf =
      (buf, .ok ((payload.drop offset).take length)) := by
  obtain ⟨block, present, room, content⟩ := carries.room
  rw [load_eq buf _ _ present (by omega)]
  have within : (block.drop (sizeofPacket + offset)).take length =
      ((block.take (sizeofPacket + payload.length)).drop (sizeofPacket + offset)).take length := by
    rw [List.drop_take, List.take_take, Nat.min_eq_left (by omega)]
  have skipped : (header.toHost ++ payload).drop (sizeofPacket + offset) = payload.drop offset := by
    rw [← List.drop_drop, List.drop_left' (Header.length_toHost header)]
  rw [within, content, skipped]

theorem Carries.parseRange (carries : Carries header payload buf) (offset : Nat) (length : UInt32)
    (inside : offset + length.toNat ≤ payload.length) :
    Common.parseRange offset length buf = (buf, slice offset length payload) := by
  unfold Common.parseRange slice
  split
  · rfl
  · exact carries.load _ _ inside

/-- The header of a packet in a buffer reads back. -/
theorem Carries.readHeader (carries : Carries header payload buf) :
    Common.load 0 sizeofPacket buf = (buf, .ok header.toHost) := by
  obtain ⟨block, present, room, content⟩ := carries.room
  rw [load_eq buf 0 _ present (by omega), List.drop_zero]
  have leading : block.take sizeofPacket =
      (block.take (sizeofPacket + payload.length)).take sizeofPacket := by
    rw [List.take_take, Nat.min_eq_left (Nat.le_add_right _ _)]
  rw [leading, content, List.take_left' (Header.length_toHost header)]

end Carrying

section Storing

variable {header : Header} {buf grown : PacketBuf} {block : Block}

/-- The payload bytes that arrive are stored behind the header. -/
theorem storePayload_ends (size : Nat) (bytes : List UInt8) (present : buf.p = some block)
    (started : block.take sizeofPacket = header.toHost)
    (room : sizeofPacket + bytes.length ≤ block.length) :
    ∃ stored, stored.shape = buf.shape ∧ Carries header bytes stored ∧
      storePayload size bytes buf =
        (stored, if bytes.length = size then .ok () else .error .unread) := by
  obtain ⟨written, given, length, ran⟩ := store_eq buf sizeofPacket bytes present room
  refine ⟨{ buf with p := some written }, ?_, ⟨written, rfl, ?_⟩, ?_⟩
  · simp only [PacketBuf.shape, present, Option.map_some, length]
  · rw [Block.take_write given, started]
  · rw [storePayload, bind_of_ok _ ran]
    by_cases whole : bytes.length = size <;> simp [whole, ensure, pure_apply, fail]

/-- In a block with room for it the header is stored at the start. -/
theorem openPayload_ends (header : Header) {expand : PacketBuf → Option (PacketBuf × Bool)}
    (expanded : expand buf = some (grown, true)) (present : grown.p = some block)
    (room : sizeofPacket ≤ block.length) :
    ∃ opened written, opened.shape = grown.shape ∧ opened.p = some written ∧
      written.length = block.length ∧ written.take sizeofPacket = header.toHost ∧
      openPayload expand header buf = (opened, .ok (payloadSize (packetSize header))) := by
  have grew : grow expand buf = (grown, .ok ()) := by simp only [grow, expanded, if_true]
  obtain ⟨written, given, length, ran⟩ := store_eq grown 0 header.toHost present
    (by rw [Header.length_toHost]; omega)
  have content := Block.take_write given
  rw [Nat.zero_add, Header.length_toHost, List.take_zero, List.nil_append] at content
  refine ⟨{ grown with p := some written }, written, ?_, rfl, length, content, ?_⟩
  · simp only [PacketBuf.shape, present, Option.map_some, length]
  · rw [openPayload, bind_of_ok _ grew, bind_of_ok _ ran]
    rfl

end Storing

theorem length_readN_le (n : Nat) (incoming : Incoming) : (readN n incoming).1.length ≤ n := by
  rw [(readN_flatten n incoming).1, List.length_take]
  exact Nat.min_le_left _ _

end CarrotRpc.Common
