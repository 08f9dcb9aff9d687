import CarrotRpc.Common.Handling

/-! The loops of `read_n` and `write_n` over the results of the system calls, with
`errno` as they find it. A call moves at most what it is asked for, and only a failing
call sets `errno`. -/

set_option autoImplicit false

namespace CarrotRpc.Common.Transfers

abbrev Errno := Nat

def eintr : Errno := 4

/-- How a call of `read` or `write` ends. -/
inductive Result where
  | count (bytes : Nat) (positive : 0 < bytes)
  | zero
  | failed (code : Errno)

/-- The results of the calls in their order. -/
abbrev Results := Nat → Result

/-- The state of a loop. Its `n0` is the number of bytes moved so far, and `requests` is
history: the offset and the size that each call was given. -/
structure Progress where
  errno : Errno
  moved : List UInt8 := []
  requests : List (Nat × Nat) := []

/-- `if (errno == EINTR) continue; return -1;` -/
def Progress.fail (progress : Progress) : Progress × Option Int :=
  (progress, if progress.errno = eintr then none else some (-1))

/-- One pass of the loop, with the value it returns. The bytes come from `source`. -/
def pass (source : Nat → UInt8) (results : Results) (n : Nat) (progress : Progress) :
    Progress × Option Int :=
  let offset := progress.moved.length
  if offset < n then
    let called := { progress with requests := progress.requests ++ [(offset, n - offset)] }
    match results progress.requests.length with
    | .count bytes _ =>
        let arrived := (List.range' offset (min bytes (n - offset))).map source
        ({ called with moved := progress.moved ++ arrived }, none)
    | .zero => called.fail
    | .failed code => { called with errno := code }.fail
  else (progress, some 0)

/-- At most `fuel` passes; `none` when the loop goes on after them. -/
def loop (source : Nat → UInt8) (results : Results) (n : Nat) :
    Nat → Progress → Option (Progress × Int)
  | 0, _ => none
  | fuel + 1, progress =>
      match pass source results n progress with
      | (progress, some value) => some (progress, value)
      | (progress, none) => loop source results n fuel progress

/-- `read_n`: the bytes of the stream go to `buf[0..n)`. -/
def readN (stream : Nat → UInt8) (results : Results) (n : Nat) (errno : Errno) (fuel : Nat) :
    Option (Progress × Int) :=
  loop stream results n fuel { errno }

/-- `write_n`: the bytes at `buf` go to the socket. -/
def writeN (buf : Nat → UInt8) (results : Results) (n : Nat) (errno : Errno) (fuel : Nat) :
    Option (Progress × Int) :=
  loop buf results n fuel { errno }

/-- `errno` before a call. -/
def errnoAt (errno : Errno) (results : Results) : Nat → Errno
  | 0 => errno
  | i + 1 =>
      match results i with
      | .failed code => code
      | .count _ _ | .zero => errnoAt errno results i

/-- The sum of the counts before a call. -/
def countedAt (results : Results) : Nat → Nat
  | 0 => 0
  | i + 1 =>
      match results i with
      | .count bytes _ => countedAt results i + bytes
      | .zero | .failed _ => countedAt results i

/-- A result the loop does not retry. -/
def Ends (errno : Errno) (results : Results) (i : Nat) : Prop :=
  match results i with
  | .count _ _ => False
  | .zero => errnoAt errno results i ≠ eintr
  | .failed code => code ≠ eintr

/-- Before `n` bytes are counted and before a result that is not retried, the calls begin
to return 0 for ever while `errno` is `EINTR`. -/
def Spins (errno : Errno) (results : Results) (n : Nat) : Prop :=
  ∃ i, countedAt results i < n ∧ (∀ j, j < i → ¬ Ends errno results j) ∧
    errnoAt errno results i = eintr ∧ ∀ j, i ≤ j → results j = .zero

/-- Only finitely many calls are interrupted. -/
def FewInterrupts (results : Results) : Prop :=
  ∃ bound, ∀ i, bound ≤ i → results i ≠ .failed eintr

/-- The end of a stream is read again and again. -/
def EndsForGood (results : Results) : Prop :=
  ∀ i j, i ≤ j → results i = .zero → results j = .zero

/-- What is required of a transfer that has returned. -/
structure Transferred (source : Nat → UInt8) (results : Results) (n : Nat)
    (ended : Progress × Int) : Prop where
  value : ended.2 = 0 ∨ ended.2 = -1
  whole : ended.2 = 0 ↔ ended.1.moved.length = n
  bounded : ended.1.moved.length ≤ n
  inOrder : ended.1.moved = (List.range ended.1.moved.length).map source
  asked : ∀ offset size, (offset, size) ∈ ended.1.requests → offset + size = n
  refused : ∀ i code, i < ended.1.requests.length → results i = .failed code → code ≠ eintr →
    ended.2 = -1

/-- A read also tells the end of the stream. -/
def Reads (stream : Nat → UInt8) (results : Results) (n : Nat) (errno : Errno) : Prop :=
  ∃ fuel ended, readN stream results n errno fuel = some ended ∧
    Transferred stream results n ended ∧
    ∀ i, i < ended.1.requests.length → results i = .zero → ended.2 = -1

def Writes (buf : Nat → UInt8) (results : Results) (n : Nat) (errno : Errno) : Prop :=
  ∃ fuel ended, writeN buf results n errno fuel = some ended ∧ Transferred buf results n ended

section Results

variable {results : Results} {errno : Errno} {n : Nat}

theorem countedAt_le_succ (i : Nat) : countedAt results i ≤ countedAt results (i + 1) := by
  rw [countedAt]
  cases results i with
  | count bytes positive => exact Nat.le_add_right _ _
  | zero => exact Nat.le_refl _
  | failed code => exact Nat.le_refl _

theorem countedAt_mono {i j : Nat} (le : i ≤ j) : countedAt results i ≤ countedAt results j := by
  induction le with
  | refl => exact Nat.le_refl _
  | step _ ih => exact ih.trans (countedAt_le_succ _)

/-- Once the calls return 0 for ever nothing changes. -/
theorem at_of_zeros {i j : Nat} (zeros : ∀ j, i ≤ j → results j = .zero) (le : i ≤ j) :
    countedAt results j = countedAt results i ∧ errnoAt errno results j = errnoAt errno results i := by
  induction le with
  | refl => exact ⟨rfl, rfl⟩
  | @step j le ih =>
      rw [countedAt, errnoAt, zeros j le]
      exact ih

/-- A loop that spins is never done. -/
theorem Spins.endless (spins : Spins errno results n) (k : Nat) :
    countedAt results k < n ∧ ¬ Ends errno results k := by
  obtain ⟨i, short, before, stale, zeros⟩ := spins
  rcases Nat.lt_or_ge k i with early | late
  · exact ⟨(countedAt_mono early.le).trans_lt short, before k early⟩
  · obtain ⟨counted, kept⟩ := at_of_zeros zeros late
    refine ⟨counted ▸ short, ?_⟩
    rw [Ends, zeros k late]
    exact fun fresh => fresh (kept.trans stale)

/-- With few interrupts there is no other way to go on for ever. The induction is on the
bytes that are still to come. -/
theorem spins_of_endless (few : FewInterrupts results)
    (endless : ∀ k, countedAt results k < n ∧ ¬ Ends errno results k) :
    Spins errno results n := by
  obtain ⟨bound, few⟩ := few
  have late : ∀ missing i, bound ≤ i → n - countedAt results i ≤ missing →
      Spins errno results n := by
    intro missing
    induction missing with
    | zero =>
        intro i _ none
        have short := (endless i).1
        omega
    | succ missing ih =>
        intro i beyond some
        by_cases zeros : ∀ j, i ≤ j → results j = .zero
        · refine ⟨i, (endless i).1, fun j _ => (endless j).2, ?_, zeros⟩
          have retried := (endless i).2
          rw [Ends, zeros i (Nat.le_refl i)] at retried
          exact Classical.not_not.mp retried
        · obtain ⟨j, pending⟩ := not_forall.mp zeros
          obtain ⟨le, other⟩ := Classical.not_imp.mp pending
          have counted : countedAt results j < countedAt results (j + 1) := by
            have retried := (endless j).2
            rw [Ends] at retried
            cases result : results j with
            | zero => exact absurd result other
            | failed code =>
                rw [result] at retried
                obtain rfl := Classical.not_not.mp retried
                exact absurd result (few j (beyond.trans le))
            | count bytes positive =>
                rw [countedAt, result]
                exact Nat.lt_add_of_pos_right positive
          have before : countedAt results i ≤ countedAt results j := countedAt_mono le
          exact ih (j + 1) (by omega) (by omega)
  exact late _ bound (Nat.le_refl bound) (Nat.le_refl _)

end Results

section Loops

variable {source : Nat → UInt8} {results : Results} {n : Nat} {errno : Errno}
  {progress next : Progress} {value : Int}

/-- What the loop has done so far is determined by the results so far. -/
structure Going (source : Nat → UInt8) (results : Results) (n : Nat) (errno : Errno)
    (progress : Progress) : Prop where
  code : progress.errno = errnoAt errno results progress.requests.length
  length : progress.moved.length = min n (countedAt results progress.requests.length)
  inOrder : progress.moved = (List.range progress.moved.length).map source
  asked : ∀ offset size, (offset, size) ∈ progress.requests → offset + size = n
  retried : ∀ i, i < progress.requests.length →
    countedAt results i < n ∧ ¬ Ends errno results i

theorem Going.initial : Going source results n errno { errno } where
  code := rfl
  length := (Nat.min_zero n).symm
  inOrder := rfl
  asked := nofun
  retried := nofun

theorem pass_done (enough : n ≤ progress.moved.length) :
    pass source results n progress = (progress, some 0) := by
  rw [pass, if_neg (Nat.not_lt.mpr enough)]

/-- A call has been made with the arguments of the loop. -/
theorem asked_append (asked : ∀ offset size, (offset, size) ∈ progress.requests → offset + size = n)
    (short : progress.moved.length < n) (offset size : Nat)
    (member : (offset, size) ∈
      progress.requests ++ [(progress.moved.length, n - progress.moved.length)]) :
    offset + size = n := by
  rcases List.mem_append.mp member with before | last
  · exact asked offset size before
  · simp only [List.mem_singleton, Prod.mk.injEq] at last
    omega

/-- A result that is not retried makes the loop return -1. -/
theorem Going.refused (going : Going source results n errno progress)
    (short : progress.moved.length < n) (ends : Ends errno results progress.requests.length) :
    ∃ next, pass source results n progress = (next, some (-1)) ∧
      next.moved = progress.moved ∧
      next.requests = progress.requests ++ [(progress.moved.length, n - progress.moved.length)] := by
  rw [Ends] at ends
  rw [pass, if_pos short]
  cases result : results progress.requests.length with
  | count bytes positive =>
      rw [result] at ends
      exact absurd ends id
  | zero =>
      rw [result] at ends
      simp only [Progress.fail, going.code, if_neg ends]
      exact ⟨_, rfl, rfl, rfl⟩
  | failed code =>
      rw [result] at ends
      simp only [Progress.fail, if_neg ends]
      exact ⟨_, rfl, rfl, rfl⟩

/-- Every other result makes it go on. -/
theorem Going.goes (going : Going source results n errno progress)
    (short : progress.moved.length < n) (retried : ¬ Ends errno results progress.requests.length) :
    ∃ next, pass source results n progress = (next, none) ∧
      Going source results n errno next ∧
      next.requests.length = progress.requests.length + 1 := by
  have lengths : (progress.requests ++
      [(progress.moved.length, n - progress.moved.length)]).length =
      progress.requests.length + 1 := List.length_append
  have length := going.length
  have before : ∀ i, i < progress.requests.length + 1 →
      countedAt results i < n ∧ ¬ Ends errno results i := by
    intro i bound
    rcases Nat.lt_succ_iff_lt_or_eq.mp bound with early | rfl
    · exact going.retried i early
    · exact ⟨by omega, retried⟩
  have asked := asked_append going.asked short
  rw [Ends] at retried
  rw [pass, if_pos short]
  cases result : results progress.requests.length with
  | count bytes positive =>
      have counted : countedAt results (progress.requests.length + 1) =
          countedAt results progress.requests.length + bytes := by
        rw [countedAt, result]
      refine ⟨_, rfl, ⟨?_, ?_, ?_, asked, lengths ▸ before⟩, lengths⟩
      · rw [lengths, errnoAt, result]
        exact going.code
      · rw [lengths, counted]
        simp only [List.length_append, List.length_map, List.length_range']
        omega
      · simp only [List.length_append, List.length_map, List.length_range']
        rw [List.range_eq_range', ← List.range'_append_1, List.map_append, Nat.zero_add,
          ← List.range_eq_range', ← going.inOrder]
  | zero =>
      rw [result] at retried
      have stale := Classical.not_not.mp retried
      simp only [Progress.fail, going.code, if_pos stale]
      refine ⟨_, rfl, ⟨?_, ?_, going.inOrder, asked, lengths ▸ before⟩, lengths⟩
      · rw [lengths, errnoAt, result]
      · rw [lengths, countedAt, result]
        exact length
  | failed code =>
      rw [result] at retried
      have interrupted := Classical.not_not.mp retried
      simp only [Progress.fail, if_pos interrupted]
      refine ⟨_, rfl, ⟨?_, ?_, going.inOrder, asked, lengths ▸ before⟩, lengths⟩
      · rw [lengths, errnoAt, result]
      · rw [lengths, countedAt, result]
        exact length

/-- How a loop returns: all bytes are there, or the last call was refused. -/
inductive Returned (source : Nat → UInt8) (results : Results) (n : Nat) (errno : Errno) :
    Progress × Int → Prop where
  | done {progress : Progress} (going : Going source results n errno progress)
      (enough : n ≤ progress.moved.length) : Returned source results n errno (progress, 0)
  | refused {before after : Progress} (going : Going source results n errno before)
      (short : before.moved.length < n) (ends : Ends errno results before.requests.length)
      (moved : after.moved = before.moved)
      (requests : after.requests =
        before.requests ++ [(before.moved.length, n - before.moved.length)]) :
      Returned source results n errno (after, -1)

theorem Going.returns_done (going : Going source results n errno progress)
    (enough : n ≤ progress.moved.length) :
    ∃ fuel ended, loop source results n fuel progress = some ended ∧
      Returned source results n errno ended := by
  refine ⟨1, (progress, 0), ?_, .done going enough⟩
  rw [loop, pass_done enough]

theorem Going.returns_refused (going : Going source results n errno progress)
    (short : progress.moved.length < n) (ends : Ends errno results progress.requests.length) :
    ∃ fuel ended, loop source results n fuel progress = some ended ∧
      Returned source results n errno ended := by
  obtain ⟨next, ran, moved, requests⟩ := going.refused short ends
  refine ⟨1, (next, -1), ?_, .refused going short ends moved requests⟩
  rw [loop, ran]

/-- The loop returns once the results say so; the induction is on the calls until then. -/
theorem Going.returns {steps : Nat} (going : Going source results n errno progress)
    (stops : n ≤ countedAt results (progress.requests.length + steps) ∨
      Ends errno results (progress.requests.length + steps)) :
    ∃ fuel ended, loop source results n fuel progress = some ended ∧
      Returned source results n errno ended := by
  induction steps generalizing progress with
  | zero =>
      have length := going.length
      rw [Nat.add_zero] at stops
      by_cases short : progress.moved.length < n
      · rcases stops with enough | ends
        · omega
        · exact going.returns_refused short ends
      · exact going.returns_done (Nat.le_of_not_lt short)
  | succ steps ih =>
      by_cases short : progress.moved.length < n
      · by_cases ends : Ends errno results progress.requests.length
        · exact going.returns_refused short ends
        · obtain ⟨next, ran, goes, calls⟩ := going.goes short ends
          have sooner : progress.requests.length + (steps + 1) = next.requests.length + steps := by
            omega
          rw [sooner] at stops
          obtain ⟨fuel, ended, looped, returned⟩ := ih goes stops
          refine ⟨fuel + 1, ended, ?_, returned⟩
          rw [loop, ran]
          exact looped
      · exact going.returns_done (Nat.le_of_not_lt short)

/-- A loop that is never done never returns. -/
theorem Going.endless (going : Going source results n errno progress)
    (endless : ∀ k, countedAt results k < n ∧ ¬ Ends errno results k) (fuel : Nat) :
    loop source results n fuel progress = none := by
  induction fuel generalizing progress with
  | zero => rfl
  | succ fuel ih =>
      have short : progress.moved.length < n := by
        have counted := (endless progress.requests.length).1
        have length := going.length
        omega
      obtain ⟨next, ran, goes, -⟩ := going.goes short (endless _).2
      rw [loop, ran]
      exact ih goes

theorem Returned.transferred {ended : Progress × Int}
    (returned : Returned source results n errno ended) : Transferred source results n ended := by
  cases returned with
  | @done progress going enough =>
      have length := going.length
      have whole : progress.moved.length = n := by omega
      refine ⟨.inl rfl, iff_of_true rfl whole, whole.le, going.inOrder, going.asked, ?_⟩
      intro i code made failed other
      have retried := (going.retried i made).2
      rw [Ends, failed] at retried
      exact absurd other retried
  | @refused before after going short ends moved requests =>
      have asked := asked_append going.asked short
      have failed : (-1 : Int) ≠ 0 := by decide
      constructor
      · exact .inr rfl
      · rw [moved]
        exact iff_of_false failed short.ne
      · rw [moved]
        exact short.le
      · rw [moved]
        exact going.inOrder
      · rw [requests]
        exact asked
      · intro i code made result other
        rfl

theorem Returned.told {ended : Progress × Int}
    (returned : Returned source results n errno ended) (forGood : EndsForGood results)
    (calm : ¬ Spins errno results n) (i : Nat) (made : i < ended.1.requests.length)
    (zero : results i = .zero) : ended.2 = -1 := by
  cases returned with
  | refused => rfl
  | @done progress going enough =>
      have stale := (going.retried i made).2
      rw [Ends, zero] at stale
      refine absurd ⟨i, (going.retried i made).1, ?_, Classical.not_not.mp stale, ?_⟩ calm
      · intro j early
        exact (going.retried j (early.trans made)).2
      · intro j late
        exact forGood i j late zero

end Loops

/-- For every `n`, every `errno` before the call and all results with finitely many
interrupts: `write_n` transfers what it is asked to, or reports that it failed, exactly
when the calls do not begin to return 0 for ever while `errno` is `EINTR`. So does
`read_n`, for which a 0 is the end of the stream. -/
theorem transfers_return_iff (source : Nat → UInt8) (results : Results) (n : Nat) (errno : Errno)
    (few : FewInterrupts results) :
    (EndsForGood results → (Reads source results n errno ↔ ¬ Spins errno results n)) ∧
      (Writes source results n errno ↔ ¬ Spins errno results n) := by
  have start : Going source results n errno { errno } := .initial
  have returns : ¬ Spins errno results n →
      ∃ fuel ended, loop source results n fuel { errno } = some ended ∧
        Returned source results n errno ended := by
    intro calm
    by_cases endless : ∀ k, countedAt results k < n ∧ ¬ Ends errno results k
    · exact absurd (spins_of_endless few endless) calm
    · obtain ⟨k, stops⟩ := not_forall.mp endless
      apply start.returns
      rw [List.length_nil, Nat.zero_add]
      rcases not_and_or.mp stops with enough | ends
      · exact .inl (Nat.le_of_not_lt enough)
      · exact .inr (Classical.not_not.mp ends)
  have stuck : Spins errno results n → ∀ fuel, loop source results n fuel { errno } = none :=
    fun spins => start.endless spins.endless
  constructor
  · intro forGood
    constructor
    · intro reads spins
      obtain ⟨fuel, ended, ran, -⟩ := reads
      rw [readN, stuck spins] at ran
      cases ran
    · intro calm
      obtain ⟨fuel, ended, ran, returned⟩ := returns calm
      exact ⟨fuel, ended, ran, returned.transferred, returned.told forGood calm⟩
  · constructor
    · intro writes spins
      obtain ⟨fuel, ended, ran, -⟩ := writes
      rw [writeN, stuck spins] at ran
      cases ran
    · intro calm
      obtain ⟨fuel, ended, ran, returned⟩ := returns calm
      exact ⟨fuel, ended, ran, returned.transferred⟩

/-- A call is interrupted, and the bytes arrive one by one. -/
def interruptedResults : Results
  | 0 => .count 1 (by decide)
  | 1 => .failed eintr
  | 2 => .count 1 (by decide)
  | _ + 3 => .zero

theorem transfers_return_iff_interrupted :
    Reads UInt8.ofNat interruptedResults 2 eintr ∧ Writes UInt8.ofNat interruptedResults 2 eintr := by
  have few : FewInterrupts interruptedResults := by
    refine ⟨3, fun i late => ?_⟩
    obtain ⟨i, rfl⟩ := Nat.exists_eq_add_of_le' late
    exact nofun
  have forGood : EndsForGood interruptedResults := by
    intro i j le zero
    match i with
    | 0 | 1 | 2 => cases zero
    | i + 3 =>
        obtain ⟨j, rfl⟩ := Nat.exists_eq_add_of_le' le
        rfl
  have calm : ¬ Spins eintr interruptedResults 2 := by
    intro spins
    exact absurd (spins.endless 3).1 (by decide)
  obtain ⟨reads, writes⟩ := transfers_return_iff UInt8.ofNat interruptedResults 2 eintr few
  exact ⟨(reads forGood).mpr calm, writes.mpr calm⟩

/-- A call is interrupted, and then the peer closes its end. -/
def closedResults : Results
  | 0 => .failed eintr
  | _ + 1 => .zero

/-- The end of the stream is never reported. -/
theorem end_of_stream_spins :
    FewInterrupts closedResults ∧ EndsForGood closedResults ∧
      (∀ fuel, readN UInt8.ofNat closedResults 1 0 fuel = none) ∧
      ¬ Reads UInt8.ofNat closedResults 1 0 := by
  have endless : ∀ k, countedAt closedResults k < 1 ∧ ¬ Ends 0 closedResults k := by
    have spins : Spins 0 closedResults 1 := by
      refine ⟨1, by decide, ?_, rfl, ?_⟩
      · intro j early
        obtain rfl := Nat.lt_one_iff.mp early
        exact fun other => other rfl
      · intro j late
        obtain ⟨j, rfl⟩ := Nat.exists_eq_add_of_le' late
        rfl
    exact spins.endless
  have start : Going UInt8.ofNat closedResults 1 0 { errno := 0 } := .initial
  refine ⟨⟨1, fun i late => ?_⟩, ?_, start.endless endless, ?_⟩
  · obtain ⟨i, rfl⟩ := Nat.exists_eq_add_of_le' late
    exact nofun
  · intro i j le zero
    match i with
    | 0 => cases zero
    | i + 1 =>
        obtain ⟨j, rfl⟩ := Nat.exists_eq_add_of_le' le
        rfl
  · intro reads
    obtain ⟨fuel, ended, ran, -⟩ := reads
    rw [readN, start.endless endless] at ran
    cases ran

section Portions

variable {results : Results} {errno : Errno} {n p : Nat} {source : Nat → UInt8}

/-- Counts of the given sizes, and then the same result for ever. -/
def counts (after : Result) : List Nat → Results
  | [], _ => after
  | size :: sizes, i =>
      if positive : 0 < size then
        match i with
        | 0 => .count size positive
        | i + 1 => counts after sizes i
      else counts after sizes i

theorem countedAt_shift {bytes : Nat} {positive : 0 < bytes}
    (first : results 0 = .count bytes positive) (i : Nat) :
    countedAt results (i + 1) = bytes + countedAt (fun i => results (i + 1)) i := by
  induction i with
  | zero =>
      simp only [countedAt, first]
      exact Nat.add_comm _ _
  | succ i ih =>
      rw [countedAt, ih, countedAt]
      cases results (i + 1) with
      | count bytes positive => exact Nat.add_assoc _ _ _
      | zero => rfl
      | failed code => rfl

theorem counts_spec (after : Result) (sizes : List Nat) :
    ∃ p, (∀ j, j < p → ∃ bytes positive, counts after sizes j = .count bytes positive) ∧
      counts after sizes p = after ∧ countedAt (counts after sizes) p = sizes.sum := by
  induction sizes with
  | nil => exact ⟨0, nofun, rfl, rfl⟩
  | cons size sizes ih =>
      obtain ⟨p, counted, last, sum⟩ := ih
      by_cases positive : 0 < size
      · have shifted : (fun i => counts after (size :: sizes) (i + 1)) = counts after sizes := by
          funext i
          rw [counts, dif_pos positive]
        have first : counts after (size :: sizes) 0 = .count size positive := by
          rw [counts, dif_pos positive]
        refine ⟨p + 1, ?_, (congrFun shifted p).trans last, ?_⟩
        · intro j bound
          cases j with
          | zero => exact ⟨size, positive, first⟩
          | succ j =>
              obtain ⟨bytes, some, result⟩ := counted j (Nat.lt_of_succ_lt_succ bound)
              exact ⟨bytes, some, (congrFun shifted j).trans result⟩
        · rw [countedAt_shift first, shifted, sum, List.sum_cons]
      · have same : counts after (size :: sizes) = counts after sizes := by
          funext i
          rw [counts, dif_neg positive]
        have zero : size = 0 := Nat.eq_zero_of_not_pos positive
        exact ⟨p, same ▸ counted, same ▸ last, by rw [same, sum, List.sum_cons, zero, Nat.zero_add]⟩

/-- While bytes are counted `errno` stays what it was. -/
theorem errnoAt_of_counts
    (counted : ∀ j, j < p → ∃ bytes positive, results j = .count bytes positive) :
    errnoAt errno results p = errno := by
  induction p with
  | zero => rfl
  | succ p ih =>
      obtain ⟨bytes, positive, result⟩ := counted p (Nat.lt_succ_self p)
      rw [errnoAt, result]
      exact ih fun j early => counted j (early.trans (Nat.lt_succ_self p))

/-- Counts up to a result that is not retried: the transfer is as long as they allow. -/
theorem returns_of_counts (source : Nat → UInt8) (n : Nat)
    (counted : ∀ j, j < p → ∃ bytes positive, results j = .count bytes positive)
    (ends : Ends errno results p) :
    ∃ fuel ended, loop source results n fuel { errno } = some ended ∧
      ended.1.moved = (List.range (min n (countedAt results p))).map source ∧
      (ended.2 = 0 ↔ n ≤ countedAt results p) := by
  have start : Going source results n errno { errno } := .initial
  obtain ⟨fuel, ended, ran, returned⟩ : ∃ fuel ended,
      loop source results n fuel { errno } = some ended ∧
        Returned source results n errno ended := by
    apply start.returns
    rw [List.length_nil, Nat.zero_add]
    exact .inr ends
  have transferred := returned.transferred
  have length : ended.1.moved.length = min n (countedAt results p) := by
    cases returned with
    | @done progress going enough =>
        have last : progress.requests.length ≤ p := by
          by_contra beyond
          exact (going.retried p (Nat.lt_of_not_le beyond)).2 ends
        have within : countedAt results progress.requests.length ≤ countedAt results p :=
          countedAt_mono last
        have length := going.length
        dsimp only
        omega
    | @refused before after going short refuses moved requests =>
        have last : before.requests.length = p := by
          rcases Nat.lt_trichotomy before.requests.length p with early | same | late
          · obtain ⟨bytes, positive, result⟩ := counted _ early
            rw [Ends, result] at refuses
            exact absurd refuses id
          · exact same
          · exact absurd ends (going.retried p late).2
        rw [moved, going.length, last]
  refine ⟨fuel, ended, ran, ?_, ?_⟩
  · rw [← length]
    exact transferred.inOrder
  · rw [transferred.whole, length]
    omega

/-- The loop does not go on when the stream ends or breaks. -/
def Refuses (errno : Errno) : Result → Prop
  | .count _ _ => False
  | .zero => errno ≠ eintr
  | .failed code => code ≠ eintr

theorem returns_of_sizes {after : Result} (sizes : List Nat) (source : Nat → UInt8) (n : Nat)
    (refuses : Refuses errno after) :
    ∃ fuel ended, loop source (counts after sizes) n fuel { errno } = some ended ∧
      ended.1.moved = (List.range (min n sizes.sum)).map source ∧
      (ended.2 = 0 ↔ n ≤ sizes.sum) := by
  obtain ⟨p, counted, last, sum⟩ := counts_spec after sizes
  have ends : Ends errno (counts after sizes) p := by
    rw [Ends, last, errnoAt_of_counts counted]
    exact refuses
  rw [← sum]
  exact returns_of_counts source n counted ends

theorem map_range_getD (bytes : List UInt8) (n : Nat) :
    (List.range (min n bytes.length)).map (fun i => bytes.getD i 0) = bytes.take n := by
  apply List.ext_getElem
  · simp only [List.length_map, List.length_range, List.length_take]
  · intro i first second
    have inside : i < bytes.length := by
      rw [List.length_take] at second
      omega
    simp [List.getElem?_eq_getElem inside]

/-- With no interrupt before the end of a stream `read_n` is the function of what the peer
sends that the other modules use. -/
theorem readN_of_incoming {after : Result} (incoming : Incoming) (n : Nat)
    (refuses : Refuses errno after) :
    ∃ fuel ended, readN (fun i => incoming.flatten.getD i 0)
        (counts after (incoming.map List.length)) n errno fuel = some ended ∧
      ended.1.moved = (Common.readN n incoming).1 ∧
      (ended.2 = 0 ↔ (Common.readN n incoming).1.length = n) := by
  obtain ⟨fuel, ended, ran, moved, value⟩ :=
    returns_of_sizes (incoming.map List.length) (fun i => incoming.flatten.getD i 0) n refuses
  rw [← List.length_flatten] at moved value
  refine ⟨fuel, ended, ran, ?_, ?_⟩
  · rw [moved, map_range_getD, (readN_flatten n incoming).1]
  · rw [value, (readN_flatten n incoming).1, List.length_take]
    omega

/-- The same of `write_n` and what its socket takes. -/
theorem writeN_of_accepted {after : Result} (sizes : List Nat) (bytes : List UInt8)
    (endpoint : Endpoint) (refuses : Refuses errno after) :
    ∃ fuel ended, writeN (fun i => bytes.getD i 0) (counts after sizes) bytes.length errno fuel =
        some ended ∧
      (send sizes.sum bytes endpoint).1.sent = endpoint.sent ++ ended.1.moved ∧
      (ended.2 = 0 ↔ (send sizes.sum bytes endpoint).2 = .ok ()) := by
  obtain ⟨fuel, ended, ran, moved, value⟩ :=
    returns_of_sizes sizes (fun i => bytes.getD i 0) bytes.length refuses
  refine ⟨fuel, ended, ran, ?_, ?_⟩
  · rw [moved, Nat.min_comm, map_range_getD]
    rfl
  · rw [value, send]
    split
    · next enough => exact iff_of_true enough rfl
    · next short => exact iff_of_false short nofun

end Portions

end CarrotRpc.Common.Transfers
