import CarrotRpc.Common.HeaderBounds

/-! Sequences of `expand_packet` calls on one pair `(*p, *size)`, among them calls that
find no memory. -/

set_option autoImplicit false

namespace CarrotRpc.Common.GrowthRuns

open Library

/-- The pair; `lost` is history: the blocks that stay allocated and that no pointer
leads to any more. -/
structure Pair where
  buf : PacketBuf := {}
  lost : List Block := []

/-- What a caller asks for, and how `realloc` answers. -/
structure Request where
  heap : Realloc
  n : UInt32

/-- A failing `realloc` leaves the old block allocated. -/
def Pair.expand (request : Request) (pair : Pair) : Option (Pair × Bool) :=
  (expandPacket request.heap pair.buf request.n).map fun (buf, expanded) =>
    ({ buf, lost := if expanded then pair.lost else pair.lost ++ pair.buf.p.toList }, expanded)

/-- Every call returns, and is as required. -/
def Calls (required : Pair → Request → Pair → Bool → Prop) : List Request → Pair → Prop
  | [], _ => True
  | request :: requests, pair =>
      ∃ next expanded, pair.expand request = some (next, expanded) ∧
        required pair request next expanded ∧ Calls required requests next

/-- What a call that returns 0 promises; the size is the one of the block either way. -/
structure Expands (pair : Pair) (request : Request) (next : Pair) (expanded : Bool) : Prop where
  exact : next.buf.Exact
  holds : expanded = true → request.n ≤ next.buf.size ∧ next.lost = pair.lost ∧
    ∃ block, next.buf.p = some block ∧
      ∀ old, pair.buf.p = some old → block.take old.length = old

/-- What a call that returns -1 promises. -/
def Retains (pair : Pair) (_ : Request) (next : Pair) (expanded : Bool) : Prop :=
  expanded = false → next = pair

/-- The call finds memory, or needs none. -/
def Supplied (pair : Pair) (request : Request) (_ : Pair) (_ : Bool) : Prop :=
  ¬ Starved request.heap pair.buf request.n (grownSize pair.buf request.n)

section Expanding

variable {pair next : Pair} {request : Request} {requests : List Request} {largest : Nat}
  {expanded : Bool}

theorem Pair.expand_eq_some (ended : pair.expand request = some (next, expanded)) :
    expandPacket request.heap pair.buf request.n = some (next.buf, expanded) ∧
      next.lost = if expanded then pair.lost else pair.lost ++ pair.buf.p.toList := by
  obtain ⟨⟨buf, flag⟩, result, same⟩ := Option.map_eq_some_iff.mp ended
  cases same
  exact ⟨result, rfl⟩

/-- Calls for at most `maxSize` bytes return. -/
theorem Pair.expand_returns (grown : pair.buf.Grown largest) (bound : request.n.toNat ≤ maxSize) :
    ∃ next expanded, pair.expand request = some (next, expanded) := by
  cases result : expandPacket request.heap pair.buf request.n with
  | none => exact absurd bound (Nat.not_le_of_lt ((expandPacket_eq_none_iff grown).mp result))
  | some ended => exact ⟨_, _, by rw [expand, result, Option.map_some]⟩

theorem Pair.expand_supplied (grown : pair.buf.Grown largest)
    (ended : pair.expand request = some (next, expanded)) :
    Supplied pair request next expanded ↔ expanded = true := by
  have failed := expandPacket_eq_false_iff grown (expand_eq_some ended).1
  rw [Supplied, ← failed, Bool.not_eq_false]

theorem Pair.expand_expands (grown : pair.buf.Grown largest)
    (ended : pair.expand request = some (next, expanded)) :
    Expands pair request next expanded := by
  obtain ⟨result, lost⟩ := expand_eq_some ended
  have after := expandPacket_grown grown result
  constructor
  · exact after.exact
  · intro success
    rw [success] at result lost
    obtain ⟨block, present, length⟩ := expandPacket_holds grown result
    refine ⟨?_, lost, block, present, ?_⟩
    · rw [UInt32.le_iff_toNat_le, ← after.exact block present, length]
      exact (Nat.le_max_right _ _).trans (le_roundUp _)
    · intro old before
      exact expandPacket_kept grown result before present

/-- A call that returns -1 has made the size positive and the pointer NULL. -/
theorem Pair.expand_fails (grown : pair.buf.Grown largest)
    (ended : pair.expand request = some (next, false)) :
    next.buf.p = none ∧ next.buf.size ≠ 0 := by
  obtain ⟨result, -⟩ := expand_eq_some ended
  have after := expandPacket_grown grown result
  have within : request.n.toNat ≤ maxSize := by
    by_contra beyond
    rw [(expandPacket_eq_none_iff grown).mpr (Nat.lt_of_not_le beyond)] at result
    cases result
  have bound : max largest request.n.toNat ≤ maxSize := Nat.max_le.mpr ⟨grown.bound, within⟩
  have limit : maxSize < 2 ^ 32 := by decide
  obtain ⟨buf, lost⟩ := next
  rw [expandPacket_eq grown within] at result
  split at result
  · split at result
    · cases result
      refine ⟨rfl, ?_⟩
      intro zero
      have value := congrArg UInt32.toNat zero
      have positive := roundUp_pos (max largest request.n.toNat)
      rw [UInt32.toNat_ofNat', Nat.mod_eq_of_lt ((roundUp_le bound).trans_lt limit)] at value
      exact absurd value positive.ne'
    · cases result
  · cases result

/-- As long as no call has failed, the pointer is NULL only together with the size 0. -/
structure Pair.Level (pair : Pair) (largest : Nat) : Prop where
  grown : pair.buf.Grown largest
  fresh : pair.buf.p = none → pair.buf.size = 0

theorem Pair.Level.expand (level : pair.Level largest)
    (ended : pair.expand request = some (next, true)) :
    next.Level (max largest request.n.toNat) := by
  obtain ⟨result, -⟩ := expand_eq_some ended
  obtain ⟨block, present, -⟩ := expandPacket_holds level.grown result
  constructor
  · exact expandPacket_grown level.grown result
  · intro absent
    rw [present] at absent
    cases absent

/-- The first failure is not the identity. -/
theorem Pair.Level.retains_iff (level : pair.Level largest)
    (ended : pair.expand request = some (next, expanded)) :
    Retains pair request next expanded ↔ expanded = true := by
  cases expanded with
  | true => exact iff_of_true nofun rfl
  | false =>
      obtain ⟨absent, positive⟩ := expand_fails level.grown ended
      constructor
      · intro retains
        rw [retains rfl] at absent positive
        exact absurd (level.fresh absent) positive
      · nofun

theorem calls_expand (grown : pair.buf.Grown largest)
    (bound : ∀ request ∈ requests, request.n.toNat ≤ maxSize) : Calls Expands requests pair := by
  induction requests generalizing pair largest with
  | nil => trivial
  | cons request requests ih =>
      obtain ⟨next, expanded, ended⟩ :=
        Pair.expand_returns grown (bound request List.mem_cons_self)
      refine ⟨next, expanded, ended, Pair.expand_expands grown ended, ?_⟩
      exact ih (expandPacket_grown grown (Pair.expand_eq_some ended).1)
        fun other member => bound other (List.mem_cons_of_mem _ member)

theorem calls_retain_iff (level : pair.Level largest) :
    Calls Retains requests pair ↔ Calls Supplied requests pair := by
  induction requests generalizing pair largest with
  | nil => exact Iff.rfl
  | cons request requests ih =>
      constructor
      · intro calls
        obtain ⟨next, expanded, ended, retains, rest⟩ := calls
        obtain rfl := (level.retains_iff ended).mp retains
        exact ⟨next, true, ended, (Pair.expand_supplied level.grown ended).mpr rfl,
          (ih (level.expand ended)).mp rest⟩
      · intro calls
        obtain ⟨next, expanded, ended, supplied, rest⟩ := calls
        obtain rfl := (Pair.expand_supplied level.grown ended).mp supplied
        exact ⟨next, true, ended, nofun, (ih (level.expand ended)).mpr rest⟩

end Expanding

/-- For every sequence of requests of at most `maxSize` bytes and every pattern of
`realloc` failures: all calls return, the size is always the one of the block, and the
calls that return 0 keep what the block held. The calls that return -1 leave the pair and
the old block as they were exactly when there are none. -/
theorem pairs_kept_iff (requests : List Request)
    (bound : ∀ request ∈ requests, request.n.toNat ≤ maxSize) :
    Calls Expands requests {} ∧
      (Calls Retains requests {} ↔ Calls Supplied requests {}) := by
  have level : Pair.Level {} 0 := ⟨.initial, fun _ => rfl⟩
  exact ⟨calls_expand level.grown bound, calls_retain_iff level⟩

/-- A packet of 20 bytes, and then a smaller one. -/
theorem pairs_kept_iff_zeroed :
    Calls Expands [⟨.zeroed, 20⟩, ⟨.zeroed, 5⟩] {} ∧
      (Calls Retains [⟨.zeroed, 20⟩, ⟨.zeroed, 5⟩] {} ↔
        Calls Supplied [⟨.zeroed, 20⟩, ⟨.zeroed, 5⟩] {}) := by
  apply pairs_kept_iff
  decide

/-- A block of 1 byte is lost when there is no memory for 20, and the pair goes on with
the size 32: a request for 2 bytes makes it allocate 32. -/
theorem block_lost :
    ¬ Calls Retains [⟨.zeroed, 1⟩, ⟨.exhausted, 20⟩, ⟨.zeroed, 2⟩] {} ∧
      ∃ first second third, Pair.expand ⟨.zeroed, 1⟩ {} = some (first, true) ∧
        Pair.expand ⟨.exhausted, 20⟩ first = some (second, false) ∧
        Pair.expand ⟨.zeroed, 2⟩ second = some (third, true) ∧
        second.buf.p = none ∧ second.buf.size = 32 ∧ second.lost = [[0]] ∧
        third.buf.size = 32 := by
  have first : Pair.expand ⟨.zeroed, 1⟩ {} = some ({ buf := { p := some [0], size := 1 } }, true) :=
    rfl
  have second : Pair.expand ⟨.exhausted, 20⟩ { buf := { p := some [0], size := 1 } } =
      some ({ buf := { p := none, size := 32 }, lost := [[0]] }, false) := rfl
  refine ⟨?_, _, _, _, first, second, rfl, rfl, rfl, rfl, rfl⟩
  intro calls
  obtain ⟨next, expanded, ended, -, rest⟩ := calls
  rw [first] at ended
  cases ended
  obtain ⟨next, expanded, ended, retains, -⟩ := rest
  rw [second] at ended
  cases ended
  exact absurd (congrArg (fun pair => pair.buf.size) (retains rfl)) (by decide)

end CarrotRpc.Common.GrowthRuns
