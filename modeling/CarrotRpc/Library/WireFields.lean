import Mathlib.Data.UInt
import Mathlib.Algebra.Order.Ring.Nat

/-! Tagged fields on a wire: numbers in groups of seven bits, least significant
first, and byte strings behind their length. Reading inverts writing. -/

set_option autoImplicit false

namespace CarrotRpc.Library

namespace WireFields

inductive Value where
  | number (value : Nat)
  | bytes (value : List UInt8)
  deriving DecidableEq, Repr

/-- The groups of a number below `128 ^ (fuel + 1)`; every byte but the last has its
top bit set. -/
def groups : Nat → Nat → List UInt8
  | 0, value => [.ofNat value]
  | fuel + 1, value =>
      if value < 128 then [.ofNat value]
      else .ofNat (value % 128 + 128) :: groups fuel (value / 128)

def writeNumber (value : Nat) : List UInt8 := groups value value

def readNumber : List UInt8 → Option (Nat × List UInt8)
  | [] => none
  | byte :: rest =>
      if byte.toNat < 128 then some (byte.toNat, rest)
      else (readNumber rest).map fun (high, rest) => (byte.toNat - 128 + 128 * high, rest)

/-- The three low bits of a field's key tell how its value is written. -/
def Value.wireType : Value → Nat
  | .number _ => 0
  | .bytes _ => 2

def writeValue : Value → List UInt8
  | .number value => writeNumber value
  | .bytes value => writeNumber value.length ++ value

def readValue (wireType : Nat) (input : List UInt8) : Option (Value × List UInt8) :=
  match wireType, readNumber input with
  | 0, some (value, rest) => some (.number value, rest)
  | 2, some (length, rest) =>
      if length ≤ rest.length then some (.bytes (rest.take length), rest.drop length) else none
  | _, _ => none

def write : List (Nat × Value) → List UInt8
  | [] => []
  | (field, value) :: fields =>
      writeNumber (8 * field + value.wireType) ++ writeValue value ++ write fields

/-- Read fields to the end of the input, at most `fuel` of them. -/
def read : Nat → List UInt8 → Option (List (Nat × Value))
  | _, [] => some []
  | 0, _ :: _ => none
  | fuel + 1, input =>
      match readNumber input with
      | none => none
      | some (key, rest) =>
          match readValue (key % 8) rest with
          | none => none
          | some (value, rest) => (read fuel rest).map fun fields => (key / 8, value) :: fields

theorem readNumber_groups {fuel value : Nat} (bound : value < 128 ^ (fuel + 1))
    (rest : List UInt8) : readNumber (groups fuel value ++ rest) = some (value, rest) := by
  induction fuel generalizing value with
  | zero =>
      have small : value < 128 := by simpa using bound
      have byte : (UInt8.ofNat value).toNat = value := by
        rw [UInt8.toNat_ofNat']
        omega
      simp [groups, readNumber, byte, small]
  | succ fuel ih =>
      simp only [groups]
      split
      · next small =>
          have byte : (UInt8.ofNat value).toNat = value := by
            rw [UInt8.toNat_ofNat']
            omega
          simp [readNumber, byte, small]
      · next large =>
          have byte : (UInt8.ofNat (value % 128 + 128)).toNat = value % 128 + 128 := by
            rw [UInt8.toNat_ofNat']
            omega
          have high : value / 128 < 128 ^ (fuel + 1) := by
            rw [Nat.div_lt_iff_lt_mul (by decide), ← pow_succ]
            exact bound
          have split : value % 128 + 128 * (value / 128) = value := Nat.mod_add_div value 128
          have marked : ¬ value % 128 + 128 < 128 := by omega
          rw [List.cons_append, readNumber, byte, if_neg marked, ih high]
          simp [split]

@[simp] theorem readNumber_writeNumber (value : Nat) (rest : List UInt8) :
    readNumber (writeNumber value ++ rest) = some (value, rest) := by
  have bound : value < 128 ^ (value + 1) :=
    (Nat.lt_pow_self (by decide)).trans (Nat.pow_lt_pow_right (by decide) (Nat.lt_succ_self _))
  exact readNumber_groups bound rest

theorem writeNumber_ne_nil (value : Nat) : writeNumber value ≠ [] := by
  cases value with
  | zero => simp [writeNumber, groups]
  | succ value =>
      simp only [writeNumber, groups]
      split <;> simp

theorem readValue_writeValue (value : Value) (rest : List UInt8) :
    readValue value.wireType (writeValue value ++ rest) = some (value, rest) := by
  cases value with
  | number value => simp [readValue, writeValue, Value.wireType]
  | bytes value => simp [readValue, writeValue, Value.wireType]

theorem wireType_lt (value : Value) : value.wireType < 8 := by
  cases value <;> simp [Value.wireType]

theorem read_write {fields : List (Nat × Value)} {fuel : Nat} (enough : fields.length ≤ fuel) :
    read fuel (write fields) = some fields := by
  induction fields generalizing fuel with
  | nil => cases fuel <;> rfl
  | cons head fields ih =>
      obtain ⟨field, value⟩ := head
      cases fuel with
      | zero => cases enough
      | succ fuel =>
          have small := wireType_lt value
          have wire : (8 * field + value.wireType) % 8 = value.wireType := by omega
          have number : (8 * field + value.wireType) / 8 = field := by omega
          have rest := ih (Nat.succ_le_succ_iff.mp enough)
          have input : write ((field, value) :: fields) =
              writeNumber (8 * field + value.wireType) ++
                (writeValue value ++ write fields) := by
            rw [write, List.append_assoc]
          cases shape : write ((field, value) :: fields) with
          | nil =>
              rw [input] at shape
              exact absurd (List.append_eq_nil_iff.mp shape).1 (writeNumber_ne_nil _)
          | cons byte bytes =>
              rw [read, ← shape, input, readNumber_writeNumber]
              · simp only [wire, number, readValue_writeValue, rest, Option.map_some]
              · nofun

end WireFields

end CarrotRpc.Library
