import CarrotRpc.Library.Memory
import CarrotRpc.Common.Packet

/-! Growth of packet buffers. -/

set_option autoImplicit false

namespace CarrotRpc.Common

open Library

/-- A packet pointer and the size kept beside it, as `(p_, size_)`. -/
structure PacketBuf where
  p : Option Block := none
  size : UInt32 := 0

/-- The loop `while (*size < n) *size *= 2`, for at most `fuel` doublings; `none`
when the size is still short after them. -/
def growSize : Nat → UInt32 → UInt32 → Option UInt32
  | 0, size, n => if size < n then none else some size
  | fuel + 1, size, n => if size < n then growSize fuel (size * 2) n else some size

/-- `expand_packet`. The flag is `true` for the result 0 and `false` for -1; there
is no result when the doubling loop never ends. After 32 doublings the size is
0, so more of them change nothing. -/
def expandPacket (heap : Realloc) (buf : PacketBuf) (n : UInt32) : Option (PacketBuf × Bool) :=
  if buf.size < n ∨ buf.p = none then
    let size := if buf.size = 0 then 1 else buf.size
    match growSize 32 size n with
    | none => none
    | some size =>
        match heap.apply buf.p size.toNat with
        | none => some ({ p := none, size }, false)
        | some block => some ({ p := some block, size }, true)
  else some (buf, true)

/-- Only the allocator can make it fail. -/
theorem expandPacket_succeeds {heap : Realloc} {buf expanded : PacketBuf} {n : UInt32}
    {flag : Bool} (succeeds : heap.Succeeds)
    (result : expandPacket heap buf n = some (expanded, flag)) : flag = true := by
  unfold expandPacket at result
  split at result
  · simp only at result
    split at result
    · cases result
    · next size _ =>
        obtain ⟨block, given⟩ := Option.isSome_iff_exists.mp (succeeds buf.p size.toNat)
        rw [given] at result
        cases result
        rfl
  · cases result
    rfl

end CarrotRpc.Common
