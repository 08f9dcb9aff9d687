import Mathlib.Data.Finset.Card

/-! The table of open descriptors of a process. The system gives out the lowest number
that is not in use. -/

set_option autoImplicit false

namespace CarrotRpc.Library

abbrev DescriptorTable := Finset Nat

namespace DescriptorTable

def lowestFree (table : DescriptorTable) : Nat :=
  ((List.range (table.card + 1)).find? fun fd => fd ∉ table).getD 0

def allocate (table : DescriptorTable) : DescriptorTable :=
  insert table.lowestFree table

def close (fd : Nat) (table : DescriptorTable) : DescriptorTable :=
  table.erase fd

variable {table : DescriptorTable}

/-- Among one number more than there are open descriptors one is free. -/
theorem exists_free (table : DescriptorTable) : ∃ fd ∈ List.range (table.card + 1), fd ∉ table := by
  by_contra none
  simp only [not_exists, not_and, not_not] at none
  have within : Finset.range (table.card + 1) ⊆ table := by
    intro fd member
    exact none fd (List.mem_range.mpr (Finset.mem_range.mp member))
  have crowded := Finset.card_le_card within
  rw [Finset.card_range] at crowded
  exact Nat.not_succ_le_self _ crowded

theorem lowestFree_notMem (table : DescriptorTable) : table.lowestFree ∉ table := by
  obtain ⟨fd, listed, free⟩ := exists_free table
  unfold lowestFree
  cases found : (List.range (table.card + 1)).find? fun fd => fd ∉ table with
  | none =>
      have taken := List.find?_eq_none.mp found fd listed
      exact absurd (decide_eq_true free) taken
  | some lowest =>
      have chosen := List.find?_some found
      exact of_decide_eq_true chosen

theorem mem_allocate {fd : Nat} :
    fd ∈ table.allocate ↔ fd = table.lowestFree ∨ fd ∈ table :=
  Finset.mem_insert

/-- A descriptor that is closed again leaves no trace. -/
theorem close_allocate (table : DescriptorTable) :
    table.allocate.close table.lowestFree = table :=
  Finset.erase_insert table.lowestFree_notMem

theorem mem_close {fd other : Nat} : other ∈ table.close fd ↔ other ≠ fd ∧ other ∈ table :=
  Finset.mem_erase

/-- The open descriptors are the reserved ones and those of the list, each once. -/
structure Owns (reserved : Finset Nat) (fds : List Nat) (table : DescriptorTable) : Prop where
  unique : fds.Nodup
  apart : ∀ fd ∈ fds, fd ∉ reserved
  mem_iff : ∀ fd, fd ∈ table ↔ fd ∈ reserved ∨ fd ∈ fds

namespace Owns

variable {reserved : Finset Nat} {fds : List Nat}

theorem none (reserved : Finset Nat) : Owns reserved [] reserved where
  unique := List.nodup_nil
  apart := by
    intro fd member
    cases member
  mem_iff := by
    intro fd
    simp

theorem perm {others : List Nat} (owns : Owns reserved fds table) (same : fds.Perm others) :
    Owns reserved others table where
  unique := same.nodup owns.unique
  apart := fun fd member => owns.apart fd (same.mem_iff.mpr member)
  mem_iff := by
    intro fd
    rw [owns.mem_iff, same.mem_iff]

/-- What is allocated is owned by nobody else. -/
theorem allocate (owns : Owns reserved fds table) :
    Owns reserved (table.lowestFree :: fds) table.allocate := by
  have free := table.lowestFree_notMem
  rw [owns.mem_iff, not_or] at free
  obtain ⟨unreserved, unlisted⟩ := free
  refine ⟨List.nodup_cons.mpr ⟨unlisted, owns.unique⟩, ?_, ?_⟩
  · intro fd member
    rcases List.mem_cons.mp member with rfl | older
    · exact unreserved
    · exact owns.apart fd older
  · intro fd
    rw [mem_allocate, owns.mem_iff, List.mem_cons, or_left_comm]

theorem close {fd : Nat} (owns : Owns reserved (fd :: fds) table) :
    Owns reserved fds (table.close fd) where
  unique := (List.nodup_cons.mp owns.unique).2
  apart := fun other member => owns.apart other (List.mem_cons_of_mem fd member)
  mem_iff := by
    intro other
    obtain ⟨absent, _⟩ := List.nodup_cons.mp owns.unique
    rw [mem_close, owns.mem_iff, List.mem_cons]
    constructor
    · rintro ⟨different, spare | same | listed⟩
      · exact .inl spare
      · exact absurd same different
      · exact .inr listed
    · rintro (spare | listed)
      · refine ⟨?_, .inl spare⟩
        rintro rfl
        exact owns.apart _ List.mem_cons_self spare
      · refine ⟨?_, .inr (.inr listed)⟩
        rintro rfl
        exact absent listed

end Owns

end DescriptorTable

end CarrotRpc.Library
