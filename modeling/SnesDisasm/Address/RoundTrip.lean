import SnesDisasm.Address.Mapping

/-!
# Encoding an image offset and decoding it again

What survives lies in the first bank for LoROM and in its upper half for HiROM.
-/

namespace SnesDisasm
open FetchLoop

private theorem mirror_lt {a : ImageAddress} {bank : UInt8} (h : bank.toNat < 0x80) :
    (if a > 0x3DFFFF then bank + 0x80 else bank).toNat =
      bank.toNat + if 0x3E0000 ≤ a.toNat then 0x80 else 0 := by
  have hiff : a > 0x3DFFFF ↔ 0x3E0000 ≤ a.toNat := by
    rw [gt_iff_lt, UInt32.lt_iff_toNat_lt]
    exact Iff.rfl
  by_cases ha : 0x3E0000 ≤ a.toNat
  · rw [if_pos ha, if_pos (hiff.mpr ha), UInt8.toNat_add]
    exact Nat.mod_eq_of_lt (by simpa using Nat.add_lt_add_right h 0x80)
  · rw [if_neg ha, if_neg (mt hiff.mp ha), Nat.add_zero]

theorem mirroredAddress_toNat {a : ImageAddress} {bank : UInt8} (bankAddress : UInt16)
    (h : bank.toNat < 0x80) :
    (mirroredAddress a bank bankAddress).toNat =
      (bank.toNat + if 0x3E0000 ≤ a.toNat then 0x80 else 0) * 0x10000 + bankAddress.toNat := by
  rw [← mirror_lt h]
  exact ROMAddress.ofBank_toNat .LoROMAddress _ bankAddress

private theorem lt_limit_iff (a : ImageAddress) : a < 0x400000 ↔ a.toNat < 0x400000 := by
  rw [UInt32.lt_iff_toNat_lt]
  exact Iff.rfl

theorem LoROMAddress.fromImageAddress_ok {a : ImageAddress} (ha : a < 0x400000) :
    ∃ x, LoROMAddress.fromImageAddress a = .ok x ∧ x.addressClass = .LoROMAddress ∧
      x.m_Address.toNat = (a.toNat / 0x8000 + if 0x3E0000 ≤ a.toNat then 0x80 else 0) * 0x10000 +
        (0x8000 + a.toNat % 0x8000) := by
  have hlt := (lt_limit_iff a).mp ha
  have hbank : (a / 0x8000).toUInt8.toNat = a.toNat / 0x8000 := by
    rw [UInt32.toNat_toUInt8, UInt32.toNat_div]
    simp only [UInt32.reduceToNat]
    omega
  have haddr : (0x8000 + (a &&& 0x7FFF)).toUInt16.toNat = 0x8000 + a.toNat % 0x8000 := by
    rw [UInt32.toNat_toUInt16, UInt32.toNat_add,
      FixedWidth.toNat_and_mask a 0x7FFF 15 (by decide)]
    simp only [UInt32.reduceToNat]
    omega
  refine ⟨_, by rw [fromImageAddress, assert_true ha]; rfl, rfl, ?_⟩
  rw [mirroredAddress_toNat _ (by omega), hbank, haddr]

theorem HiROMAddress.fromImageAddress_ok {a : ImageAddress} (ha : a < 0x400000) :
    ∃ x, HiROMAddress.fromImageAddress a = .ok x ∧ x.addressClass = .HiROMAddress ∧
      x.m_Address.toNat = (a.toNat / 0x10000 + if 0x3E0000 ≤ a.toNat then 0x80 else 0) * 0x10000 +
        a.toNat % 0xFFFF := by
  have hlt := (lt_limit_iff a).mp ha
  have hbank : (a / 0x10000).toUInt8.toNat = a.toNat / 0x10000 := by
    rw [UInt32.toNat_toUInt8, UInt32.toNat_div]
    simp only [UInt32.reduceToNat]
    omega
  have haddr : (a % 0xFFFF).toUInt16.toNat = a.toNat % 0xFFFF := by
    rw [UInt32.toNat_toUInt16, UInt32.toNat_mod]
    simp only [UInt32.reduceToNat]
    omega
  refine ⟨_, by rw [fromImageAddress, assert_true ha]; rfl, rfl, ?_⟩
  rw [mirroredAddress_toNat _ (by omega), hbank, haddr]

def roundTrip (addressClass : AddressClass) (a : ImageAddress) : Except Fault ImageAddress := do
  let x ← ROMAddress.ofImageAddress addressClass a
  x.toImageAddress

private theorem roundTrip_ok_iff {addressClass : AddressClass} {a r : ImageAddress}
    {x : ROMAddress} (hx : ROMAddress.ofImageAddress addressClass a = .ok x)
    (hram : ¬(x.bank = 0x7E ∨ x.bank = 0x7F)) :
    roundTrip addressClass a = .ok r ↔
      Accepted x ∧ r.toNat = x.m_Address.toNat % x.addressClass.decodedRange := by
  have hdecode : roundTrip addressClass a = x.toImageAddress := by
    rw [roundTrip, hx]
    rfl
  rw [hdecode, toImageAddress_ok_iff, if_neg hram]

/-- LoROM decoding undoes the encoding of an offset exactly in the first 32 KiB bank. -/
theorem loROM_roundTrip_iff (a : ImageAddress) (ha : a < 0x400000) :
    roundTrip .LoROMAddress a = .ok a ↔ a < 0x8000 := by
  have hlt := (lt_limit_iff a).mp ha
  obtain ⟨x, hx, hclass, hvalue⟩ := LoROMAddress.fromImageAddress_ok ha
  have hlow : a < 0x8000 ↔ a.toNat < 0x8000 := UInt32.lt_iff_toNat_lt
  have hram : ¬(x.bank = 0x7E ∨ x.bank = 0x7F) := by
    rw [x.bank_eq_iff, x.bank_eq_iff, hvalue]
    simp only [UInt8.reduceToNat]
    split <;> omega
  have hacc : Accepted x := fun h => by simp [hclass] at h
  have hencode : ROMAddress.ofImageAddress .LoROMAddress a = .ok x := hx
  rw [roundTrip_ok_iff hencode hram, hclass, hvalue, hlow]
  simp only [hacc, true_and, AddressClass.decodedRange]
  omega

theorem loROM_roundTrip_iff_first_bank :
    roundTrip .LoROMAddress 0x7FFF = .ok 0x7FFF ↔ (0x7FFF : ImageAddress) < 0x8000 :=
  loROM_roundTrip_iff 0x7FFF (by decide)

theorem loROM_roundTrip_second_bank :
    (0x8000 : ImageAddress) < 0x400000 ∧ roundTrip .LoROMAddress 0x8000 = .ok 0 ∧
      roundTrip .LoROMAddress 0x8000 ≠ .ok 0x8000 := by
  decide

/-- HiROM decoding undoes the encoding of an offset exactly in the upper half of the first bank
without its last byte. -/
theorem hiROM_roundTrip_iff (a : ImageAddress) (ha : a < 0x400000) :
    (∃ r, roundTrip .HiROMAddress a = .ok r ∧ r ≠ ramSentinel ∧ r = a) ↔
      0x8000 ≤ a ∧ a < 0xFFFF := by
  have hlt := (lt_limit_iff a).mp ha
  obtain ⟨x, hx, hclass, hvalue⟩ := HiROMAddress.fromImageAddress_ok ha
  have hlow : 0x8000 ≤ a ↔ 0x8000 ≤ a.toNat := UInt32.le_iff_toNat_le
  have hhigh : a < 0xFFFF ↔ a.toNat < 0xFFFF := UInt32.lt_iff_toNat_lt
  have hram : ¬(x.bank = 0x7E ∨ x.bank = 0x7F) := by
    rw [x.bank_eq_iff, x.bank_eq_iff, hvalue]
    simp only [UInt8.reduceToNat]
    split <;> omega
  have hsentinel : a ≠ ramSentinel := by
    intro h
    subst h
    exact absurd ha (by decide)
  have hencode : ROMAddress.ofImageAddress .HiROMAddress a = .ok x := hx
  have hdecode : (∃ r, roundTrip .HiROMAddress a = .ok r ∧ r ≠ ramSentinel ∧ r = a) ↔
      roundTrip .HiROMAddress a = .ok a := by
    constructor
    · intro h
      rcases h with ⟨r, hr, _, rfl⟩
      exact hr
    · intro h
      exact ⟨a, h, hsentinel, rfl⟩
  rw [hdecode, roundTrip_ok_iff hencode hram, accepted_hi_iff hclass, hclass, hvalue, hlow, hhigh]
  simp only [AddressClass.decodedRange]
  split <;> omega

theorem hiROM_roundTrip_iff_upper_half :
    (∃ r, roundTrip .HiROMAddress 0x8000 = .ok r ∧ r ≠ ramSentinel ∧ r = 0x8000) ↔
      (0x8000 : ImageAddress) ≤ 0x8000 ∧ (0x8000 : ImageAddress) < 0xFFFF :=
  hiROM_roundTrip_iff 0x8000 (by decide)

theorem hiROM_roundTrip_zero :
    (0 : ImageAddress) < 0x400000 ∧ roundTrip .HiROMAddress 0 = .error .assertion ∧
      ¬∃ r, roundTrip .HiROMAddress 0 = .ok r ∧ r ≠ ramSentinel ∧ r = 0 := by
  have hfault : roundTrip .HiROMAddress 0 = .error .assertion := by decide
  refine ⟨by decide, hfault, ?_⟩
  intro h
  rcases h with ⟨r, hr, _⟩
  rw [hfault] at hr
  cases hr

end SnesDisasm
