import Mathlib.Data.List.Basic
import Mathlib.Order.Basic

/-! Heap blocks as byte lists, with bounds-checked access and the documented
behaviour of `realloc`. An access outside a block has no result. -/

set_option autoImplicit false

namespace CarrotRpc.Library

/-- The bytes of one heap block. -/
abbrev Block := List UInt8

namespace Block

/-- Overwrite the bytes from `offset` on; `none` when they do not fit. -/
def write (block : Block) (offset : Nat) (bytes : List UInt8) : Option Block :=
  if offset + bytes.length ≤ block.length then
    some (block.take offset ++ bytes ++ block.drop (offset + bytes.length))
  else none

/-- The `length` bytes from `offset` on; `none` when they are not all inside. -/
def read (block : Block) (offset length : Nat) : Option (List UInt8) :=
  if offset + length ≤ block.length then some ((block.drop offset).take length) else none

theorem write_isSome_iff {block : Block} {offset : Nat} {bytes : List UInt8} :
    (block.write offset bytes).isSome ↔ offset + bytes.length ≤ block.length := by
  simp only [write]
  split <;> simp_all

theorem length_of_write {block result : Block} {offset : Nat} {bytes : List UInt8}
    (written : block.write offset bytes = some result) : result.length = block.length := by
  simp only [write] at written
  split at written
  · cases written
    simp only [List.length_append, List.length_take, List.length_drop]
    omega
  · cases written

/-- Consecutive writes from the start of a block lay their bytes side by side. -/
theorem take_write {block result : Block} {offset : Nat} {bytes : List UInt8}
    (written : block.write offset bytes = some result) :
    result.take (offset + bytes.length) = block.take offset ++ bytes := by
  simp only [write] at written
  split at written
  · next fits =>
      cases written
      have leading : (block.take offset ++ bytes).length = offset + bytes.length := by
        simp only [List.length_append, List.length_take]
        omega
      exact List.take_left' leading
  · cases written

/-- A write at the start leaves the bytes behind it. -/
theorem drop_write {block result : Block} {bytes : List UInt8}
    (written : block.write 0 bytes = some result) :
    result.drop bytes.length = block.drop bytes.length := by
  simp only [write, Nat.zero_add, List.take_zero, List.nil_append] at written
  split at written
  · cases written
    exact List.drop_left
  · cases written

end Block

/-- One call of `realloc`. The result `none` is the NULL pointer; otherwise the
new block has the requested size and starts with the bytes of the old one, and
the bytes beyond those are unspecified. -/
structure Realloc where
  apply : Option Block → Nat → Option Block
  length_eq : ∀ {old : Option Block} {size : Nat} {block : Block},
    apply old size = some block → block.length = size
  kept : ∀ {old : Block} {size : Nat} {block : Block},
    apply (some old) size = some block →
      block.take (min old.length size) = old.take (min old.length size)

namespace Realloc

/-- The call that finds no memory. -/
def exhausted : Realloc where
  apply _ _ := none
  length_eq := nofun
  kept := nofun

/-- The call that succeeds and fills the new bytes with zeros. -/
def zeroed : Realloc where
  apply old size :=
    let bytes := old.getD []
    some (bytes.take size ++ List.replicate (size - bytes.length) 0)
  length_eq := by
    rintro old size block equal
    cases equal
    simp only [List.length_append, List.length_take, List.length_replicate]
    omega
  kept := by
    rintro old size block equal
    cases equal
    simp only [Option.getD_some]
    rw [List.take_append_of_le_length (by simp only [List.length_take]; omega),
      List.take_take]
    congr 1
    omega

/-- A call that never returns NULL. -/
def Succeeds (heap : Realloc) : Prop :=
  ∀ old size, (heap.apply old size).isSome

theorem zeroed_succeeds : zeroed.Succeeds := fun _ _ => rfl

end Realloc

end CarrotRpc.Library
