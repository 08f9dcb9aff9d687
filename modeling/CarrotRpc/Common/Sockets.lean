import Mathlib.Data.List.Basic

/-! `read_n` and `write_n` on a blocking socket. -/

set_option autoImplicit false

namespace CarrotRpc.Common

/-- What the peer still sends before the stream ends or breaks, in the portions it
arrives in. A `read` takes what it asks for, and at most the next portion. -/
abbrev Incoming := List (List UInt8)

/-- `read_n`: the bytes it stores; it returns -1 when these are fewer than `n`. -/
def readN : Nat → Incoming → List UInt8 × Incoming
  | _, [] => ([], [])
  | n, portion :: rest =>
      if portion.length < n then
        let (bytes, rest) := readN (n - portion.length) rest
        (portion ++ bytes, rest)
      else (portion.take n, portion.drop n :: rest)

/-- The portions do not matter. -/
theorem readN_flatten (n : Nat) (incoming : Incoming) :
    (readN n incoming).1 = incoming.flatten.take n ∧
      (readN n incoming).2.flatten = incoming.flatten.drop n := by
  induction incoming generalizing n with
  | nil => simp [readN]
  | cons portion rest ih =>
      simp only [readN, List.flatten_cons]
      split
      · next short =>
          obtain ⟨taken, left⟩ := ih (n - portion.length)
          simp only [taken, left]
          rw [List.take_append, List.take_of_length_le (Nat.le_of_lt short), List.drop_append,
            List.drop_of_length_le (Nat.le_of_lt short), List.nil_append]
          exact ⟨rfl, rfl⟩
      · next enough =>
          have within : n ≤ portion.length := Nat.le_of_not_lt enough
          rw [List.take_append_of_le_length within, List.flatten_cons,
            List.drop_append_of_le_length within]
          exact ⟨rfl, rfl⟩

end CarrotRpc.Common
