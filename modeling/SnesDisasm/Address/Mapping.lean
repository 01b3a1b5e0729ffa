import SnesDisasm.Framework.FetchLoop
import SnesDisasm.Model.ROMAddress

/-!
# ROM-mapped addresses and their image offsets

HiROM decoding keeps the low 22 bits of an address, LoROM decoding the low 15 bits only.
-/

namespace SnesDisasm
open FixedWidth

/-- The bank is no system RAM and the bank address lies in a ROM window of it. -/
def RomMapped (x : ROMAddress) : Prop :=
  x.bank ≠ 0x7E ∧ x.bank ≠ 0x7F ∧
    match x.addressClass with
    | .LoROMAddress => 0x8000 ≤ x.bankAddress
    | .HiROMAddress => x.bank &&& 0x7F < 0x40 → 0x8000 ≤ x.bankAddress

instance : (x : ROMAddress) → Decidable (RomMapped x)
  | ⟨.LoROMAddress, _⟩ => inferInstanceAs (Decidable (_ ∧ _ ∧ _))
  | ⟨.HiROMAddress, _⟩ => inferInstanceAs (Decidable (_ ∧ _ ∧ (_ → _)))

theorem ROMAddress.bank_ne_iff (x : ROMAddress) (bankID : UInt8) :
    x.bank ≠ bankID ↔ x.m_Address.toNat / 0x10000 % 0x100 ≠ bankID.toNat :=
  not_congr (x.bank_eq_iff bankID)

private theorem low_bank_iff (x : ROMAddress) :
    x.bank &&& 0x7F < 0x40 ↔ x.m_Address.toNat / 0x10000 % 0x80 < 0x40 := by
  have hmask := toNat_byte_and_mask x.bank 0x7F 7 (by decide)
  rw [x.bank_toNat] at hmask
  rw [UInt8.lt_iff_toNat_lt, hmask, show (0x40 : UInt8).toNat = 0x40 from rfl]
  omega

private theorem upper_half_iff (x : ROMAddress) :
    0x8000 ≤ x.bankAddress ↔ 0x8000 ≤ x.m_Address.toNat % 0x10000 := by
  rw [UInt16.le_iff_toNat_le, x.bankAddress_toNat]
  rfl

theorem romMapped_lo_iff {x : ROMAddress} (hx : x.addressClass = .LoROMAddress) :
    RomMapped x ↔ x.m_Address.toNat / 0x10000 % 0x100 ≠ 0x7E ∧
      x.m_Address.toNat / 0x10000 % 0x100 ≠ 0x7F ∧ 0x8000 ≤ x.m_Address.toNat % 0x10000 := by
  unfold RomMapped
  rw [x.bank_ne_iff, x.bank_ne_iff, hx]
  simp only [upper_half_iff]
  rfl

theorem romMapped_hi_iff {x : ROMAddress} (hx : x.addressClass = .HiROMAddress) :
    RomMapped x ↔ x.m_Address.toNat / 0x10000 % 0x100 ≠ 0x7E ∧
      x.m_Address.toNat / 0x10000 % 0x100 ≠ 0x7F ∧
      (x.m_Address.toNat / 0x10000 % 0x80 < 0x40 → 0x8000 ≤ x.m_Address.toNat % 0x10000) := by
  unfold RomMapped
  rw [x.bank_ne_iff, x.bank_ne_iff, hx]
  simp only [low_bank_iff, upper_half_iff]
  rfl

/-- The number of image bytes that the decoding of a layout tells apart. -/
def AddressClass.decodedRange : AddressClass → Nat
  | .LoROMAddress => 0x8000
  | .HiROMAddress => 0x400000

def Accepted (x : ROMAddress) : Prop :=
  x.addressClass = .HiROMAddress → x.bank &&& 0x7F < 0x40 → 0x8000 ≤ x.bankAddress

theorem RomMapped.accepted {x : ROMAddress} (h : RomMapped x) : Accepted x := by
  intro hx
  have hwindow := h.2.2
  rw [hx] at hwindow
  exact hwindow

theorem accepted_hi_iff {x : ROMAddress} (hx : x.addressClass = .HiROMAddress) :
    Accepted x ↔
      (x.m_Address.toNat / 0x10000 % 0x80 < 0x40 → 0x8000 ≤ x.m_Address.toNat % 0x10000) := by
  simp only [Accepted, hx, forall_const, low_bank_iff, upper_half_iff]

private theorem lo_offset (x : ROMAddress) :
    (((x.bank &&& 0x7F).toUInt32 * 0x10000 / 2 + x.bankAddress.toUInt32) &&& 0x7FFF).toNat =
      x.m_Address.toNat % 0x8000 := by
  have hbank := toNat_byte_and_mask x.bank 0x7F 7 (by decide)
  have hlow := x.bankAddress_toNat
  rw [toNat_and_mask _ 0x7FFF 15 (by decide), UInt32.toNat_add, UInt32.toNat_div,
    UInt32.toNat_mul, UInt8.toNat_toUInt32, UInt16.toNat_toUInt32, hbank, hlow]
  simp only [UInt32.reduceToNat]
  omega

private theorem hi_offset (x : ROMAddress) :
    (((x.bank &&& 0x3F).toUInt32 <<< 16) + x.bankAddress.toUInt32).toNat =
      x.m_Address.toNat % 0x400000 := by
  have hbank := toNat_byte_and_mask x.bank 0x3F 6 (by decide)
  rw [x.bank_toNat] at hbank
  have hlow := x.bankAddress_toNat
  rw [UInt32.toNat_add, UInt32.toNat_shiftLeft, UInt8.toNat_toUInt32, UInt16.toNat_toUInt32,
    hbank, hlow, Nat.shiftLeft_eq]
  simp only [UInt32.reduceToNat, Nat.reduceMod, Nat.reducePow]
  omega

private theorem assert_upper_half (x : ROMAddress) :
    assert (x.bankAddress > 0x7FFF) =
      if 0x8000 ≤ x.bankAddress then .ok () else .error .assertion := by
  have hiff : x.bankAddress > 0x7FFF ↔ 0x8000 ≤ x.bankAddress := by
    rw [gt_iff_lt, UInt16.lt_iff_toNat_lt, UInt16.le_iff_toNat_le]
    exact Iff.rfl
  unfold assert
  by_cases h : 0x8000 ≤ x.bankAddress
  · rw [if_pos h, if_pos (hiff.mpr h)]
  · rw [if_neg h, if_neg (mt hiff.mp h)]

/-- Decoding in full: the sentinel in the RAM banks, elsewhere the low bits of the address,
unless the HiROM assertion stops it. -/
theorem toImageAddress_ok_iff (x : ROMAddress) (a : ImageAddress) :
    x.toImageAddress = .ok a ↔
      if x.bank = 0x7E ∨ x.bank = 0x7F then a = ramSentinel
      else Accepted x ∧ a.toNat = x.m_Address.toNat % x.addressClass.decodedRange := by
  rw [ROMAddress.toImageAddress]
  cases hx : x.addressClass with
  | LoROMAddress =>
    simp only [LoROMAddress.toImageAddress, Except.ok.injEq]
    by_cases hram : x.bank = 0x7E ∨ x.bank = 0x7F
    · simp only [hram, if_true]
      exact eq_comm
    · have hacc : Accepted x := fun h => by simp [hx] at h
      simp only [hram, if_false, hacc, true_and, AddressClass.decodedRange]
      rw [← lo_offset x, ← UInt32.toNat_inj, eq_comm]
  | HiROMAddress =>
    by_cases hram : x.bank = 0x7E ∨ x.bank = 0x7F
    · simp only [HiROMAddress.toImageAddress, hram, if_true, pure, Except.pure, Except.ok.injEq]
      exact eq_comm
    · have hvalue (b : ImageAddress) :
          ((x.bank &&& 0x3F).toUInt32 <<< 16) + x.bankAddress.toUInt32 = b ↔
            b.toNat = x.m_Address.toNat % 0x400000 := by
        rw [← hi_offset x, ← UInt32.toNat_inj, eq_comm]
      simp only [HiROMAddress.toImageAddress, hram, if_false, AddressClass.decodedRange, Accepted,
        hx, forall_const]
      rw [← hvalue a]
      by_cases hlow : x.bank &&& 0x7F < 0x40
      · rw [if_pos hlow, assert_upper_half]
        by_cases hup : 0x8000 ≤ x.bankAddress
        · simp [hup, pure, Except.pure, bind, Except.bind]
        · simp [hup, hlow, bind, Except.bind]
      · simp [hlow, pure, Except.pure]

theorem toImageAddress_mapped {x : ROMAddress} (h : RomMapped x) :
    ∃ a, x.toImageAddress = .ok a ∧
      a.toNat = x.m_Address.toNat % x.addressClass.decodedRange := by
  have hram : ¬(x.bank = 0x7E ∨ x.bank = 0x7F) := not_or.mpr ⟨h.1, h.2.1⟩
  have hlt : x.m_Address.toNat % x.addressClass.decodedRange < UInt32.size :=
    Nat.lt_of_le_of_lt (Nat.mod_le _ _) x.m_Address.toNat_lt
  have hvalue := UInt32.toNat_ofNat_of_lt' hlt
  refine ⟨UInt32.ofNat (x.m_Address.toNat % x.addressClass.decodedRange), ?_, hvalue⟩
  rw [toImageAddress_ok_iff, if_neg hram]
  exact ⟨h.accepted, hvalue⟩

theorem toImageAddress_value {x : ROMAddress} {offset : ImageAddress} (hx : RomMapped x)
    (hoffset : x.toImageAddress = .ok offset) :
    offset.toNat = x.m_Address.toNat % x.addressClass.decodedRange := by
  obtain ⟨a, ha, hvalue⟩ := toImageAddress_mapped hx
  have hsame : a = offset := Except.ok.inj (ha.symm.trans hoffset)
  rw [← hsame, hvalue]

end SnesDisasm
