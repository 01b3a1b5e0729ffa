import Mathlib.Data.Nat.Bitwise

/-!
# Fixed-width words as naturals

Masks, fields and concatenations as remainders, quotients and sums.
-/

namespace FixedWidth

theorem toNat_and_mask (word mask : UInt32) (k : Nat) (hmask : mask.toNat = 2^k - 1) :
    (word &&& mask).toNat = word.toNat % 2^k := by
  rw [UInt32.toNat_and, hmask, Nat.and_two_pow_sub_one_eq_mod]

/-- A mask of `k` ones above bit `s`, shifted down, extracts one field of the word. -/
theorem toNat_field (word mask shift : UInt32) (k : Nat) (hshift : shift.toNat < 32)
    (hmask : mask.toNat >>> shift.toNat = 2^k - 1) :
    ((word &&& mask) >>> shift).toNat = word.toNat / 2^shift.toNat % 2^k := by
  rw [UInt32.toNat_shiftRight, UInt32.toNat_and, Nat.mod_eq_of_lt hshift,
    Nat.shiftRight_and_distrib, hmask, Nat.and_two_pow_sub_one_eq_mod, Nat.shiftRight_eq_div_pow]

/-- A mask of `m` ones above bit `k` keeps one field of a number in its place. -/
theorem and_shifted_mask (x mask k m : Nat) (hlow : mask % 2^k = 0)
    (hhigh : mask >>> k = 2^m - 1) : x &&& mask = x / 2^k % 2^m * 2^k := by
  have hquotient : (x &&& mask) / 2^k = x / 2^k % 2^m := by
    rw [← Nat.shiftRight_eq_div_pow, Nat.shiftRight_and_distrib, hhigh,
      Nat.and_two_pow_sub_one_eq_mod, Nat.shiftRight_eq_div_pow]
  have hremainder : (x &&& mask) % 2^k = 0 := by
    rw [Nat.and_mod_two_pow, hlow, Nat.and_zero]
  have hsplit := Nat.div_add_mod' (x &&& mask) (2^k)
  rw [hquotient, hremainder, Nat.add_zero] at hsplit
  exact hsplit.symm

theorem toNat_concat (high low shift : UInt32) (hshift : shift.toNat < 32)
    (hlow : low.toNat < 2^shift.toNat) (hhigh : high.toNat * 2^shift.toNat < 2^32) :
    ((high <<< shift) ||| low).toNat = high.toNat * 2^shift.toNat + low.toNat := by
  rw [UInt32.toNat_or, UInt32.toNat_shiftLeft, Nat.mod_eq_of_lt hshift, Nat.shiftLeft_eq,
    Nat.mod_eq_of_lt hhigh, ← Nat.shiftLeft_eq, ← Nat.shiftLeft_add_eq_or_of_lt hlow]

theorem toNat_field_or (word mask low : UInt32) (k m : Nat) (hzeros : mask.toNat % 2^k = 0)
    (hones : mask.toNat >>> k = 2^m - 1) (hlow : low.toNat < 2^k) :
    ((word &&& mask) ||| low).toNat = word.toNat / 2^k % 2^m * 2^k + low.toNat := by
  rw [UInt32.toNat_or, UInt32.toNat_and, and_shifted_mask _ _ k m hzeros hones, ← Nat.shiftLeft_eq,
    ← Nat.shiftLeft_add_eq_or_of_lt hlow, Nat.shiftLeft_eq]

theorem toNat_toUInt32_emod (i : Int32) : (i.toUInt32.toNat : Int) = i.toInt % 2^32 := by
  have hlt := i.toUInt32.toNat_lt
  have hsigned : i.toInt = i.toBitVec.toInt := rfl
  rw [hsigned, BitVec.toInt_eq_toNat_cond, Int32.toNat_toBitVec]
  split <;> omega

theorem toNat_concat_bytes (high low : UInt8) :
    ((high.toUInt16 <<< 8) ||| low.toUInt16).toNat = high.toNat * 0x100 + low.toNat := by
  have hhigh := high.toNat_lt
  have hlow := low.toNat_lt
  rw [UInt16.toNat_or, UInt16.toNat_shiftLeft, UInt8.toNat_toUInt16, UInt8.toNat_toUInt16]
  simp only [UInt16.reduceToNat, Nat.reduceMod]
  rw [Nat.shiftLeft_eq, Nat.mod_eq_of_lt (by omega), ← Nat.shiftLeft_eq,
    ← Nat.shiftLeft_add_eq_or_of_lt hlow, Nat.shiftLeft_eq]

theorem toNat_byte_and_mask (byte mask : UInt8) (k : Nat) (hmask : mask.toNat = 2^k - 1) :
    (byte &&& mask).toNat = byte.toNat % 2^k := by
  rw [UInt8.toNat_and, hmask, Nat.and_two_pow_sub_one_eq_mod]

theorem toNat_halfword_and_mask (word mask : UInt16) (k : Nat) (hmask : mask.toNat = 2^k - 1) :
    (word &&& mask).toNat = word.toNat % 2^k := by
  rw [UInt16.toNat_and, hmask, Nat.and_two_pow_sub_one_eq_mod]

theorem forall_byte {P : UInt8 → Prop} (h : ∀ i : Fin 256, P (UInt8.ofNat i.val)) (b : UInt8) :
    P b := by
  have hb := h ⟨b.toNat, b.toNat_lt⟩
  simpa only [UInt8.ofNat_toNat] using hb

end FixedWidth
