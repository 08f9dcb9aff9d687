import Mathlib.Data.UInt
import Mathlib.Data.List.Basic

/-! Words in network byte order, most significant byte first, and in the
order of the host. -/

set_option autoImplicit false

namespace CarrotRpc.Library

namespace ByteOrder

def bigEndian16 (word : UInt16) : List UInt8 :=
  [UInt8.ofNat (word.toNat / 2 ^ 8), UInt8.ofNat word.toNat]

def bigEndian32 (word : UInt32) : List UInt8 :=
  [UInt8.ofNat (word.toNat / 2 ^ 24), UInt8.ofNat (word.toNat / 2 ^ 16),
    UInt8.ofNat (word.toNat / 2 ^ 8), UInt8.ofNat word.toNat]

def ofBigEndian32 : List UInt8 → UInt32
  | [first, second, third, fourth] =>
      UInt32.ofNat (first.toNat * 2 ^ 24 + second.toNat * 2 ^ 16 + third.toNat * 2 ^ 8 +
        fourth.toNat)
  | _ => 0

/-- The host is a little-endian machine. -/
def littleEndian32 (word : UInt32) : List UInt8 := (bigEndian32 word).reverse

def ofLittleEndian32 (bytes : List UInt8) : UInt32 := ofBigEndian32 bytes.reverse

@[simp] theorem length_bigEndian32 (word : UInt32) : (bigEndian32 word).length = 4 := rfl

@[simp] theorem ofBigEndian32_bigEndian32 (word : UInt32) :
    ofBigEndian32 (bigEndian32 word) = word := by
  have bound := word.toNat_lt
  apply UInt32.toNat_inj.mp
  simp only [bigEndian32, ofBigEndian32, UInt8.toNat_ofNat', UInt32.toNat_ofNat']
  omega

@[simp] theorem ofLittleEndian32_littleEndian32 (word : UInt32) :
    ofLittleEndian32 (littleEndian32 word) = word := by
  rw [ofLittleEndian32, littleEndian32, List.reverse_reverse, ofBigEndian32_bigEndian32]

end ByteOrder

end CarrotRpc.Library
