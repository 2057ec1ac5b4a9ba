import Mathlib.Data.Int.Bitwise

/-!
# Bytes and words as integers

What the operations on bytes and words do to the numbers that these stand for. Sums, differences and
doubles are taken modulo 256; halves and the bitwise operations stay within a byte.

## Main results

- `byte_ofInt_eq`: a byte is the only one with its number.
- `toNat_byte_add`, `toNat_byte_sub`, `toNat_byte_half`, `toNat_byte_double`: arithmetic.
- `toNat_byte_or`, `toNat_byte_and`, `toNat_byte_xor`: the bitwise operations.
-/

namespace ChipEight

/-! ### Integers, masked -/

theorem toNat_byte_ofInt (b : Int) : ((UInt8.ofInt b).toNat : Int) = b % 256 := by
  have h : (UInt8.ofInt b).toNat = (b % 256).toNat := by
    rw [UInt8.ofInt, UInt8.toNat_ofNat']
    omega
  omega

theorem toNat_word_ofInt (b : Int) : ((UInt16.ofInt b).toNat : Int) = b % 65536 := by
  have h : (UInt16.ofInt b).toNat = (b % 65536).toNat := by
    rw [UInt16.ofInt, UInt16.toNat_ofNat']
    omega
  omega

/-- A byte is the only one with its number. -/
theorem byte_ofInt_eq {b : Int} {u : UInt8} (h : b % 256 = u.toNat) : UInt8.ofInt b = u := by
  apply UInt8.toNat_inj.1
  have hb := toNat_byte_ofInt b
  omega

/-! ### Arithmetic on bytes -/

section Bytes

variable (a b : UInt8)

theorem toNat_byte_add : ((a.toNat : Int) + b.toNat) % 256 = (a + b).toNat := by
  rw [UInt8.toNat_add]
  omega

theorem toNat_byte_sub : ((a.toNat : Int) - b.toNat) % 256 = (a - b).toNat := by
  have ha := a.toNat_lt
  have hb := b.toNat_lt
  rw [UInt8.toNat_sub]
  omega

theorem toNat_byte_half : (a.toNat : Int) / 2 = (a >>> 1).toNat := by
  rw [UInt8.toNat_shiftRight]
  show (a.toNat : Int) / 2 = (a.toNat >>> 1 : Nat)
  rw [Nat.shiftRight_eq_div_pow]
  omega

theorem toNat_byte_double : (a.toNat : Int) * 2 % 256 = (a <<< 1).toNat := by
  rw [UInt8.toNat_shiftLeft]
  show (a.toNat : Int) * 2 % 256 = (a.toNat <<< 1 % 2 ^ 8 : Nat)
  rw [Nat.shiftLeft_eq]
  omega

theorem toNat_byte_or : Int.lor a.toNat b.toNat = (a ||| b).toNat := by
  rw [UInt8.toNat_or]
  rfl

theorem toNat_byte_and : Int.land a.toNat b.toNat = (a &&& b).toNat := by
  rw [UInt8.toNat_and]
  rfl

theorem toNat_byte_xor : Int.xor a.toNat b.toNat = (a ^^^ b).toNat := by
  rw [UInt8.toNat_xor]
  rfl

theorem beq_toNat_byte : ((a.toNat : Int) == (b.toNat : Int)) = (a == b) := by
  rw [Bool.eq_iff_iff, beq_iff_eq, beq_iff_eq, ← UInt8.toNat_inj]
  omega

end Bytes

end ChipEight
