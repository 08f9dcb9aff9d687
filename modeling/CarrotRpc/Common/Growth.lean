import Mathlib.Data.Nat.Log
import CarrotRpc.Common.Utils

/-! What `expand_packet` does to a buffer that only `expand_packet` has resized. Its
size is then 0 or the least power of two that holds the largest packet so far. -/

set_option autoImplicit false

namespace CarrotRpc.Common

open Library

/-- The largest size doubling can reach in a `uint32_t`. -/
def maxSize : Nat := 2 ^ 31

/-- The least power of two that is at least `n`. -/
def roundUp (n : Nat) : Nat := 2 ^ Nat.clog 2 n

theorem le_roundUp (n : Nat) : n ≤ roundUp n := Nat.le_pow_clog (by decide) n

theorem roundUp_le {n : Nat} (bound : n ≤ maxSize) : roundUp n ≤ maxSize :=
  Nat.pow_le_pow_right (by decide) (Nat.clog_le_of_le_pow bound)

theorem roundUp_mono {n m : Nat} (le : n ≤ m) : roundUp n ≤ roundUp m :=
  Nat.pow_le_pow_right (by decide) (Nat.clog_mono_right 2 le)

theorem roundUp_pos (n : Nat) : 0 < roundUp n := Nat.pow_pos (by decide)

theorem roundUp_pow (k : Nat) : roundUp (2 ^ k) = 2 ^ k := by
  rw [roundUp, Nat.clog_pow 2 k (by decide)]

/-- A power of two that holds `m` also holds its rounding. -/
theorem roundUp_le_pow {m k : Nat} (le : m ≤ 2 ^ k) : roundUp m ≤ 2 ^ k :=
  Nat.pow_le_pow_right (by decide) (Nat.clog_le_of_le_pow le)

theorem roundUp_max (n m : Nat) : roundUp (max n m) = max (roundUp n) (roundUp m) := by
  rcases Nat.le_total n m with le | le
  · rw [Nat.max_eq_right le, Nat.max_eq_right (roundUp_mono le)]
  · rw [Nat.max_eq_left le, Nat.max_eq_left (roundUp_mono le)]

theorem growSize_of_le {fuel : Nat} {size n : UInt32} (enough : n ≤ size) :
    growSize fuel size n = some size := by
  cases fuel <;> simp [growSize, UInt32.not_lt.mpr enough]

theorem toNat_double {size : UInt32} (small : size.toNat < maxSize) :
    (size * 2).toNat = size.toNat * 2 := by
  rw [UInt32.toNat_mul]
  exact Nat.mod_eq_of_lt (by simp only [maxSize] at small; change _ * 2 < 2 ^ 32; omega)

/-- The doubling loop ends when the size it is to reach is one it can reach. -/
theorem growSize_eq (fuel : Nat) {k : Nat} {size n : UInt32} (power : size.toNat = 2 ^ k)
    (enough : 31 ≤ k + fuel) (bound : n.toNat ≤ maxSize) :
    ∃ grown, growSize fuel size n = some grown ∧
      grown.toNat = max size.toNat (roundUp n.toNat) := by
  induction fuel generalizing k size with
  | zero =>
      have large : n ≤ size := by
        rw [UInt32.le_iff_toNat_le, power]
        exact bound.trans (Nat.pow_le_pow_right (by decide) enough)
      refine ⟨size, growSize_of_le large, ?_⟩
      rw [Nat.max_eq_left]
      rw [power]
      exact roundUp_le_pow (power ▸ UInt32.le_iff_toNat_le.mp large)
  | succ fuel ih =>
      by_cases large : n ≤ size
      · refine ⟨size, growSize_of_le large, ?_⟩
        rw [Nat.max_eq_left]
        rw [power]
        exact roundUp_le_pow (power ▸ UInt32.le_iff_toNat_le.mp large)
      · have short : size < n := UInt32.not_le.mp large
        have shortNat : size.toNat < n.toNat := UInt32.lt_iff_toNat_lt.mp short
        have doubled := toNat_double (shortNat.trans_le bound)
        have nextPower : (size * 2).toNat = 2 ^ (k + 1) := by
          rw [doubled, power, Nat.pow_succ]
        obtain ⟨grown, ends, value⟩ := ih nextPower (by omega)
        refine ⟨grown, by rw [growSize, if_pos short, ends], ?_⟩
        have below : 2 ^ k < roundUp n.toNat := (power ▸ shortNat).trans_le (le_roundUp _)
        have doubledBelow : 2 ^ (k + 1) ≤ roundUp n.toNat :=
          Nat.pow_le_pow_right (by decide)
            (Nat.succ_le_of_lt ((Nat.pow_lt_pow_iff_right (by decide)).mp below))
        rw [value, nextPower, power, Nat.max_eq_right doubledBelow, Nat.max_eq_right below.le]

/-- Beyond that it never ends: a size it reaches is a power of two below `n`, or 0. -/
theorem growSize_none {fuel : Nat} {size n : UInt32}
    (reached : size = 0 ∨ ∃ k < 32, size.toNat = 2 ^ k) (beyond : maxSize < n.toNat) :
    growSize fuel size n = none := by
  have short : ∀ size : UInt32, (size = 0 ∨ ∃ k < 32, size.toNat = 2 ^ k) → size < n := by
    rintro size (rfl | ⟨k, small, power⟩)
    · exact UInt32.lt_iff_toNat_lt.mpr (Nat.zero_lt_of_lt beyond)
    · rw [UInt32.lt_iff_toNat_lt, power]
      exact (Nat.pow_le_pow_right (by decide) (by omega)).trans_lt beyond
  induction fuel generalizing size with
  | zero => rw [growSize, if_pos (short size reached)]
  | succ fuel ih =>
      rw [growSize, if_pos (short size reached)]
      apply ih
      rcases reached with rfl | ⟨k, small, power⟩
      · exact .inl rfl
      · by_cases last : k = 31
        · left
          apply UInt32.toNat_inj.mp
          rw [UInt32.toNat_mul, power, last]
          rfl
        · have below : size.toNat < maxSize := by
            rw [power]
            exact Nat.pow_lt_pow_right (by decide) (by omega)
          exact .inr ⟨k + 1, by omega, by rw [toNat_double below, power, Nat.pow_succ]⟩

/-- The block behind the pointer has the size that is kept beside it. -/
def PacketBuf.Exact (buf : PacketBuf) : Prop :=
  ∀ block, buf.p = some block → block.length = buf.size.toNat

/-- A buffer that only `expand_packet` has resized, for packets up to `largest`. -/
structure PacketBuf.Grown (largest : Nat) (buf : PacketBuf) : Prop where
  exact : buf.Exact
  size : (buf.size = 0 ∧ buf.p = none ∧ largest = 0) ∨ buf.size.toNat = roundUp largest
  bound : largest ≤ maxSize

theorem PacketBuf.Grown.initial : PacketBuf.Grown 0 {} where
  exact := nofun
  size := .inl ⟨rfl, rfl, rfl⟩
  bound := Nat.zero_le _

section Expanding

variable {heap : Realloc} {buf expanded : PacketBuf} {n : UInt32} {largest : Nat} {flag : Bool}

theorem PacketBuf.Grown.size_le (grown : buf.Grown largest) : buf.size.toNat ≤ maxSize := by
  rcases grown.size with ⟨zero, -, -⟩ | size
  · rw [zero]
    exact Nat.zero_le _
  · rw [size]
    exact roundUp_le grown.bound

theorem PacketBuf.Grown.reached (grown : buf.Grown largest) :
    buf.size = 0 ∨ ∃ k < 32, buf.size.toNat = 2 ^ k := by
  rcases grown.size with ⟨zero, -, -⟩ | size
  · exact .inl zero
  · exact .inr ⟨Nat.clog 2 largest, Nat.lt_succ_of_le (Nat.clog_le_of_le_pow grown.bound), size⟩

theorem PacketBuf.Grown.needs_growth (grown : buf.Grown largest) (beyond : maxSize < n.toNat) :
    buf.size < n := by
  rcases grown.reached with zero | ⟨k, small, power⟩
  · rw [zero]
    exact UInt32.lt_iff_toNat_lt.mpr (Nat.zero_lt_of_lt beyond)
  · rw [UInt32.lt_iff_toNat_lt, power]
    exact (Nat.pow_le_pow_right (by decide) (by omega)).trans_lt beyond

/-- Within the sizes doubling can reach, the new size is the least power of two that
holds the packet and everything before. -/
theorem expandPacket_eq (grown : buf.Grown largest) (bound : n.toNat ≤ maxSize) :
    expandPacket heap buf n =
      if buf.size < n ∨ buf.p = none then
        match heap.apply buf.p (roundUp (max largest n.toNat)) with
        | none => some ({ p := none, size := .ofNat (roundUp (max largest n.toNat)) }, false)
        | some block =>
            some ({ p := some block, size := .ofNat (roundUp (max largest n.toNat)) }, true)
      else some (buf, true) := by
  unfold expandPacket
  split
  · have start : ∃ k, (if buf.size = 0 then 1 else buf.size).toNat = 2 ^ k ∧
        2 ^ k = roundUp largest := by
      rcases grown.size with ⟨zero, -, none⟩ | size
      · exact ⟨0, by rw [if_pos zero]; rfl, by rw [none]; rfl⟩
      · have positive : buf.size ≠ 0 := by
          intro zero
          rw [zero] at size
          exact absurd size (roundUp_pos largest).ne
        exact ⟨_, by rw [if_neg positive, size]; rfl, rfl⟩
    obtain ⟨k, power, rounded⟩ := start
    obtain ⟨size, ends, value⟩ := growSize_eq 32 power (by omega) bound
    have exactly : size.toNat = roundUp (max largest n.toNat) := by
      rw [value, power, rounded, roundUp_max]
    have same : size = .ofNat (roundUp (max largest n.toNat)) := by
      rw [← exactly, UInt32.ofNat_toNat]
    cases allocated : heap.apply buf.p (roundUp (max largest n.toNat)) with
    | none => simp only [ends, exactly, allocated]; rw [same]
    | some block => simp only [ends, exactly, allocated]; rw [same]
  · rfl

/-- The doubling loop never ends exactly for the packets above `maxSize`. -/
theorem expandPacket_eq_none_iff (grown : buf.Grown largest) :
    expandPacket heap buf n = none ↔ maxSize < n.toNat := by
  constructor
  · intro hangs
    by_contra within
    rw [expandPacket_eq grown (Nat.le_of_not_lt within)] at hangs
    split at hangs
    · split at hangs <;> cases hangs
    · cases hangs
  · intro beyond
    have start : (if buf.size = 0 then 1 else buf.size) = 0 ∨
        ∃ k < 32, (if buf.size = 0 then 1 else buf.size).toNat = 2 ^ k := by
      split
      · exact .inr ⟨0, by decide, rfl⟩
      · exact grown.reached
    simp only [expandPacket, if_pos (Or.inl (grown.needs_growth beyond)),
      growSize_none start beyond]

theorem expandPacket_grown (grown : buf.Grown largest)
    (result : expandPacket heap buf n = some (expanded, flag)) :
    expanded.Grown (max largest n.toNat) := by
  have within : n.toNat ≤ maxSize := by
    by_contra beyond
    rw [(expandPacket_eq_none_iff grown).mpr (Nat.lt_of_not_le beyond)] at result
    cases result
  have bound : max largest n.toNat ≤ maxSize := Nat.max_le.mpr ⟨grown.bound, within⟩
  have size : (UInt32.ofNat (roundUp (max largest n.toNat))).toNat =
      roundUp (max largest n.toNat) := by
    have small := roundUp_le bound
    rw [UInt32.toNat_ofNat']
    exact Nat.mod_eq_of_lt (small.trans_lt (by decide))
  rw [expandPacket_eq grown within] at result
  split at result
  · split at result
    · cases result
      exact ⟨nofun, .inr size, bound⟩
    · next block given =>
        cases result
        refine ⟨?_, .inr size, bound⟩
        rintro other ⟨rfl⟩
        rw [size]
        exact heap.length_eq given
  · next enough =>
      cases result
      obtain ⟨large, present⟩ := not_or.mp enough
      rcases grown.size with ⟨-, absent, -⟩ | same
      · exact absurd absent present
      · have covered : n.toNat ≤ roundUp largest := by
          rw [← same]
          exact UInt32.le_iff_toNat_le.mp (UInt32.not_lt.mp large)
        refine ⟨grown.exact, .inr ?_, bound⟩
        rw [same, roundUp_max, Nat.max_eq_left]
        exact roundUp_le_pow covered

/-- After a successful call there is a block, and it holds the packet. -/
theorem expandPacket_holds (grown : buf.Grown largest)
    (result : expandPacket heap buf n = some (expanded, true)) :
    ∃ block, expanded.p = some block ∧ block.length = roundUp (max largest n.toNat) := by
  have after := expandPacket_grown grown result
  have present : ∃ block, expanded.p = some block := by
    unfold expandPacket at result
    split at result
    · simp only at result
      split at result
      · cases result
      · split at result
        · cases result
        · cases result
          exact ⟨_, rfl⟩
    · next enough =>
        cases result
        exact Option.ne_none_iff_exists'.mp (not_or.mp enough).2
  obtain ⟨block, present⟩ := present
  refine ⟨block, present, ?_⟩
  rcases after.size with ⟨-, absent, -⟩ | size
  · rw [absent] at present
    cases present
  · rw [after.exact block present, size]

/-- `expand_packet` asks for a block, and `realloc` has none. -/
def PacketBuf.Denied (buf : PacketBuf) (heap : Realloc) (n : UInt32) : Prop :=
  (buf.size < n ∨ buf.p = none) ∧
    ∃ size, growSize 32 (if buf.size = 0 then 1 else buf.size) n = some size ∧
      heap.apply buf.p size.toNat = none

/-- Nothing else makes it return -1. -/
theorem expandPacket_fails_iff :
    (∃ after, expandPacket heap buf n = some (after, false)) ↔ buf.Denied heap n := by
  constructor
  · intro failed
    obtain ⟨after, result⟩ := failed
    unfold expandPacket at result
    split at result
    · next short =>
        simp only at result
        split at result
        · cases result
        · next size grew =>
            cases given : heap.apply buf.p size.toNat with
            | none => exact ⟨short, size, grew, given⟩
            | some block =>
                rw [given] at result
                cases result
    · cases result
  · intro denied
    obtain ⟨short, size, grew, given⟩ := denied
    simp only [expandPacket, if_pos short, grew, given]
    exact ⟨_, rfl⟩

/-- A call for a packet that already fits changes nothing. -/
theorem expandPacket_of_le {block : Block} (present : buf.p = some block) (enough : n ≤ buf.size) :
    expandPacket heap buf n = some (buf, true) := by
  have unneeded : ¬ (buf.size < n ∨ buf.p = none) := by
    rw [present]
    exact not_or.mpr ⟨UInt32.not_lt.mpr enough, nofun⟩
  rw [expandPacket, if_neg unneeded]

/-- A new block starts with the bytes of the old one. -/
theorem expandPacket_kept {old block : Block} (grown : buf.Grown largest)
    (result : expandPacket heap buf n = some (expanded, true)) (before : buf.p = some old)
    (after : expanded.p = some block) : block.take old.length = old := by
  obtain ⟨other, present, size⟩ := expandPacket_holds grown result
  obtain rfl : block = other := Option.some.inj (after.symm.trans present)
  have within : n.toNat ≤ maxSize := by
    by_contra beyond
    rw [(expandPacket_eq_none_iff grown).mpr (Nat.lt_of_not_le beyond)] at result
    cases result
  have larger : old.length ≤ roundUp (max largest n.toNat) := by
    rcases grown.size with ⟨-, absent, -⟩ | same
    · rw [absent] at before
      cases before
    · rw [grown.exact old before, same]
      exact roundUp_mono (Nat.le_max_left _ _)
  rw [expandPacket_eq grown within] at result
  split at result
  · split at result
    · cases result
    · next fresh given =>
        cases result
        cases after
        rw [before] at given
        have kept := heap.kept given
        rw [Nat.min_eq_left larger, List.take_length] at kept
        exact kept
  · cases result
    rw [before] at after
    cases after
    exact List.take_length

/-- With memory for it, every packet of at most `maxSize` bytes gets a block. -/
theorem expandPacket_total (n : UInt32) (grown : buf.Grown largest) (bound : n.toNat ≤ maxSize)
    (succeeds : heap.Succeeds) :
    ∃ expanded block, expandPacket heap buf n = some (expanded, true) ∧
      expanded.Grown (max largest n.toNat) ∧ expanded.p = some block ∧
      block.length = roundUp (max largest n.toNat) := by
  cases result : expandPacket heap buf n with
  | none => exact absurd bound (Nat.not_le_of_lt ((expandPacket_eq_none_iff grown).mp result))
  | some pair =>
      obtain ⟨expanded, flag⟩ := pair
      obtain rfl := expandPacket_succeeds succeeds result
      obtain ⟨block, present, length⟩ := expandPacket_holds grown result
      exact ⟨expanded, block, rfl, expandPacket_grown grown result, present, length⟩

/-- A buffer that calls of `expand_packet` have made of a pair (NULL, 0), its bytes
rewritten in between. -/
inductive PacketBuf.Reached : PacketBuf → Prop where
  | initial : PacketBuf.Reached {}
  | expanded {heap : Realloc} {buf next : PacketBuf} {n : UInt32} {flag : Bool} :
      buf.Reached → expandPacket heap buf n = some (next, flag) → next.Reached
  | rewritten {buf : PacketBuf} {block written : Block} :
      buf.Reached → buf.p = some block → written.length = block.length →
      PacketBuf.Reached { buf with p := some written }

theorem PacketBuf.Reached.grown (reached : buf.Reached) : ∃ largest, buf.Grown largest := by
  induction reached with
  | initial => exact ⟨0, .initial⟩
  | expanded _ result ih =>
      obtain ⟨largest, grown⟩ := ih
      exact ⟨_, expandPacket_grown grown result⟩
  | @rewritten buf block written _ present same ih =>
      obtain ⟨largest, grown⟩ := ih
      refine ⟨largest, ?_, ?_, grown.bound⟩
      · rintro _ ⟨rfl⟩
        rw [same]
        exact grown.exact block present
      · rcases grown.size with ⟨-, absent, -⟩ | size
        · rw [absent] at present
          cases present
        · exact .inr size

/-- The doubling loop of a call for `n` bytes ends with a size of at least `n`. -/
def PacketBuf.LoopEnds (buf : PacketBuf) (n : UInt32) : Prop :=
  ∃ fuel size, growSize fuel (if buf.size = 0 then 1 else buf.size) n = some size ∧ n ≤ size

theorem PacketBuf.Grown.start (grown : buf.Grown largest) :
    ∃ k < 32, (if buf.size = 0 then 1 else buf.size).toNat = 2 ^ k := by
  rcases grown.reached with zero | ⟨k, small, power⟩
  · exact ⟨0, by decide, by rw [if_pos zero]; rfl⟩
  · have positive : buf.size ≠ 0 := by
      intro zero
      rw [zero] at power
      exact absurd power (Nat.two_pow_pos k).ne
    exact ⟨k, small, by rw [if_neg positive, power]⟩

/-- Of the sizes a packet may have, those up to `maxSize` are reached. -/
theorem PacketBuf.Reached.loopEnds_iff (reached : buf.Reached) :
    buf.LoopEnds n ↔ n.toNat ≤ maxSize := by
  obtain ⟨largest, grown⟩ := reached.grown
  obtain ⟨k, small, power⟩ := grown.start
  constructor
  · rintro ⟨fuel, size, ends, -⟩
    by_contra beyond
    rw [growSize_none (.inr ⟨k, small, power⟩) (Nat.lt_of_not_le beyond)] at ends
    cases ends
  · intro within
    obtain ⟨size, ends, value⟩ := growSize_eq 32 power (by omega) within
    refine ⟨32, size, ends, UInt32.le_iff_toNat_le.mpr ?_⟩
    rw [value]
    exact (le_roundUp _).trans (Nat.le_max_right _ _)

theorem PacketBuf.Reached.expandPacket_ne_none_iff (reached : buf.Reached) :
    expandPacket heap buf n ≠ none ↔ n.toNat ≤ maxSize := by
  obtain ⟨largest, grown⟩ := reached.grown
  rw [Ne, expandPacket_eq_none_iff grown]
  exact Nat.not_lt

end Expanding

end CarrotRpc.Common
