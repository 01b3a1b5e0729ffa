import SnesDisasm.Address.RoundTrip
import SnesDisasm.Model.SNESROM

/-!
# The addresses that encoding chooses

`LoROMAddress::fromImageAddress` follows the memory map. `imageAddressToROMAddress` subtracts the
SMC header from the finished address, which may borrow from its bank.
-/

namespace SnesDisasm
open FixedWidth

/-- The memory map of the layout puts the image offset at this address. -/
def Designates (x : ROMAddress) (offset : Nat) : Prop :=
  x.m_Address < 0x1000000 ∧ x.bank ≠ 0x7E ∧ x.bank ≠ 0x7F ∧
    match x.addressClass with
    | .LoROMAddress => 0x8000 ≤ x.bankAddress ∧
        x.bank.toNat % 0x80 * 0x8000 + (x.bankAddress.toNat - 0x8000) = offset
    | .HiROMAddress => x.bank.toNat % 0x40 * 0x10000 + x.bankAddress.toNat = offset

instance : (x : ROMAddress) → (offset : Nat) → Decidable (Designates x offset)
  | ⟨.LoROMAddress, _⟩, _ => inferInstanceAs (Decidable (_ ∧ _ ∧ _ ∧ _ ∧ _))
  | ⟨.HiROMAddress, _⟩, _ => inferInstanceAs (Decidable (_ ∧ _ ∧ _ ∧ _))

private theorem lt_24_bits_iff (address : UInt32) :
    address < 0x1000000 ↔ address.toNat < 0x1000000 := by
  rw [UInt32.lt_iff_toNat_lt]
  exact Iff.rfl

theorem designates_lo_iff {x : ROMAddress} (hclass : x.addressClass = .LoROMAddress)
    (offset : Nat) :
    Designates x offset ↔ x.m_Address.toNat < 0x1000000 ∧
      x.m_Address.toNat / 0x10000 ≠ 0x7E ∧ x.m_Address.toNat / 0x10000 ≠ 0x7F ∧
      0x8000 ≤ x.m_Address.toNat % 0x10000 ∧
      x.m_Address.toNat / 0x10000 % 0x80 * 0x8000 + (x.m_Address.toNat % 0x10000 - 0x8000) =
        offset := by
  unfold Designates
  rw [lt_24_bits_iff, x.bank_ne_iff, x.bank_ne_iff, hclass]
  simp only [UInt16.le_iff_toNat_le, x.bankAddress_toNat, x.bank_toNat, UInt8.reduceToNat,
    UInt16.reduceToNat]
  omega

theorem designates_hi_iff {x : ROMAddress} (hclass : x.addressClass = .HiROMAddress)
    (offset : Nat) :
    Designates x offset ↔ x.m_Address.toNat < 0x1000000 ∧
      x.m_Address.toNat / 0x10000 ≠ 0x7E ∧ x.m_Address.toNat / 0x10000 ≠ 0x7F ∧
      x.m_Address.toNat % 0x400000 = offset := by
  unfold Designates
  rw [lt_24_bits_iff, x.bank_ne_iff, x.bank_ne_iff, hclass]
  simp only [x.bankAddress_toNat, x.bank_toNat, UInt8.reduceToNat]
  omega

theorem Designates.offset_eq {x : ROMAddress} {a b : Nat} (ha : Designates x a)
    (hb : Designates x b) : a = b := by
  cases hclass : x.addressClass with
  | LoROMAddress =>
    rw [designates_lo_iff hclass] at ha hb
    omega
  | HiROMAddress =>
    rw [designates_hi_iff hclass] at ha hb
    omega

theorem LoROMAddress.fromImageAddress_designates {a : ImageAddress} {x : ROMAddress}
    (h : LoROMAddress.fromImageAddress a = .ok x) :
    x.addressClass = .LoROMAddress ∧ Designates x a.toNat := by
  have ha : a < 0x400000 := by
    by_contra hlarge
    simp [LoROMAddress.fromImageAddress, assert, hlarge, bind, Except.bind] at h
  have hlt : a.toNat < 0x400000 := UInt32.lt_iff_toNat_lt.mp ha
  obtain ⟨y, hy, hclass, hvalue⟩ := LoROMAddress.fromImageAddress_ok ha
  obtain rfl := Except.ok.inj (hy.symm.trans h)
  refine ⟨hclass, ?_⟩
  rw [designates_lo_iff hclass, hvalue]
  split <;> omega

/-- LoROM encoding gives every offset an address of its own, which designates it. -/
theorem loROM_encoding_lands_on_rom (a : ImageAddress) (ha : a < 0x400000) :
    ∃ x, LoROMAddress.fromImageAddress a = .ok x ∧ x.addressClass = .LoROMAddress ∧
      Designates x a.toNat ∧ ∀ b, LoROMAddress.fromImageAddress b = .ok x → b = a := by
  obtain ⟨x, hx, _⟩ := LoROMAddress.fromImageAddress_ok ha
  obtain ⟨hclass, hdesignates⟩ := LoROMAddress.fromImageAddress_designates hx
  refine ⟨x, hx, hclass, hdesignates, ?_⟩
  intro b hb
  have hother := (LoROMAddress.fromImageAddress_designates hb).2
  exact UInt32.toNat_inj.mp (hother.offset_eq hdesignates)

theorem loROM_encoding_lands_on_rom_top :
    ∃ x, LoROMAddress.fromImageAddress 0x3FFFFF = .ok x ∧ x.addressClass = .LoROMAddress ∧
      Designates x (0x3FFFFF : ImageAddress).toNat ∧
      ∀ b, LoROMAddress.fromImageAddress b = .ok x → b = 0x3FFFFF :=
  loROM_encoding_lands_on_rom 0x3FFFFF (by decide)

private theorem toInt32_eq_iff (x y : UInt32) : x.toInt32 = y.toInt32 ↔ x.toNat = y.toNat := by
  constructor
  · intro h
    have hword := congrArg Int32.toUInt32 h
    rw [UInt32.toUInt32_toInt32, UInt32.toUInt32_toInt32] at hword
    rw [hword]
  · intro h
    rw [UInt32.toNat_inj.mp h]

def convertedBank (a : ImageAddress) : Nat :=
  a.toNat / 0x8000 + if a.toNat / 0x8000 = 0x7E ∨ a.toNat / 0x8000 = 0x7F then 0x80 else 0

/-- In `int` arithmetic, which does not overflow for the banks of an image. -/
theorem movedBank_toNat {a : ImageAddress} (ha : a.toNat < 0x400200) :
    (if (a / 0x8000).toInt32 = 0x7E ∨ (a / 0x8000).toInt32 = 0x7F then
      (a / 0x8000).toInt32 + 0x80 else (a / 0x8000).toInt32).toUInt32.toNat = convertedBank a := by
  have hbank : (a / 0x8000).toNat = a.toNat / 0x8000 := by
    rw [UInt32.toNat_div]
    rfl
  have hram : (a / 0x8000).toInt32 = 0x7E ∨ (a / 0x8000).toInt32 = 0x7F ↔
      a.toNat / 0x8000 = 0x7E ∨ a.toNat / 0x8000 = 0x7F := by
    rw [← hbank]
    exact or_congr (toInt32_eq_iff (a / 0x8000) 0x7E) (toInt32_eq_iff (a / 0x8000) 0x7F)
  unfold convertedBank
  by_cases h : a.toNat / 0x8000 = 0x7E ∨ a.toNat / 0x8000 = 0x7F
  · rw [if_pos h, if_pos (hram.mpr h), Int32.toUInt32_add, UInt32.toUInt32_toInt32,
      UInt32.toNat_add, hbank]
    change (a.toNat / 0x8000 + 0x80) % 2^32 = _
    omega
  · rw [if_neg h, if_neg (mt hram.mp h), UInt32.toUInt32_toInt32, hbank, Nat.add_zero]

theorem convertedBank_le {a : ImageAddress} (ha : a.toNat < 0x400200) : convertedBank a ≤ 0xFF := by
  unfold convertedBank
  split <;> omega

theorem imageAddressToROMAddress_lo_toNat {a : ImageAddress} (ha : a.toNat < 0x400200) :
    (imageAddressToROMAddress a true).toUInt32.toNat =
      convertedBank a * 0x10000 + (0x8000 + a.toNat % 0x8000) - 512 := by
  have hlt := convertedBank_le ha
  simp only [imageAddressToROMAddress, if_true, Int32.toUInt32_sub, UInt32.toUInt32_toInt32,
    Int32.toUInt32_mul]
  rw [UInt32.toNat_sub, UInt32.toNat_add, UInt32.toNat_add, UInt32.toNat_mul, UInt32.toNat_mod,
    movedBank_toNat ha]
  change (2^32 - 512 + ((convertedBank a * 0x10000 % 2^32 + a.toNat % 0x8000) % 2^32 + 0x8000) % 2^32)
    % 2^32 = _
  omega

theorem imageAddressToROMAddress_hi_toNat {a : ImageAddress} (ha : a.toNat < 0x400200) :
    (imageAddressToROMAddress a false).toUInt32.toNat = 0xC00000 + a.toNat - 512 := by
  simp only [imageAddressToROMAddress, Bool.false_eq_true, if_false, Int32.toUInt32_sub,
    UInt32.toUInt32_toInt32]
  rw [UInt32.toNat_sub, UInt32.toNat_add]
  change (2^32 - 512 + (0xC00000 + a.toNat) % 2^32) % 2^32 = _
  omega

def convertedAddress (a : ImageAddress) (m_isLoROM : Bool) : ROMAddress :=
  ⟨if m_isLoROM then .LoROMAddress else .HiROMAddress, (imageAddressToROMAddress a m_isLoROM).toUInt32⟩

/-- The integer conversion designates the byte of its offset exactly if the layout is HiROM or the
offset is not among the first 512 of a multiple of 32 KiB. -/
theorem imageAddressToROMAddress_designates_iff (a : ImageAddress) (m_isLoROM : Bool)
    (hlow : 512 ≤ a) (hhigh : a < 0x400000 + 512) :
    Designates (convertedAddress a m_isLoROM) (a.toNat - 512) ↔
      (m_isLoROM = true → 512 ≤ a % 0x8000) := by
  have hlow : 512 ≤ a.toNat := UInt32.le_iff_toNat_le.mp hlow
  have hhigh : a.toNat < 0x400200 := UInt32.lt_iff_toNat_lt.mp hhigh
  cases m_isLoROM with
  | true =>
    have hvalue : (convertedAddress a true).m_Address.toNat = _ :=
      imageAddressToROMAddress_lo_toNat hhigh
    have hrest : 512 ≤ a % 0x8000 ↔ 512 ≤ a.toNat % 0x8000 := by
      rw [UInt32.le_iff_toNat_le, UInt32.toNat_mod]
      exact Iff.rfl
    rw [designates_lo_iff (by rfl), hvalue, convertedBank, hrest,
      forall_prop_of_true rfl]
    split <;> omega
  | false =>
    have hvalue : (convertedAddress a false).m_Address.toNat = _ :=
      imageAddressToROMAddress_hi_toNat hhigh
    rw [designates_hi_iff (by rfl), hvalue]
    refine iff_of_true ?_ fun h => absurd h Bool.false_ne_true
    omega

theorem imageAddressToROMAddress_designates_middle :
    Designates (convertedAddress 0x8200 true) ((0x8200 : ImageAddress).toNat - 512) ↔
      (true = true → 512 ≤ (0x8200 : ImageAddress) % 0x8000) :=
  imageAddressToROMAddress_designates_iff 0x8200 true (by decide) (by decide)

theorem imageAddressToROMAddress_borrows :
    (512 : ImageAddress) ≤ 0x8000 ∧ (0x8000 : ImageAddress) < 0x400000 + 512 ∧
      imageAddressToROMAddress 0x8000 true = 0x017E00 ∧
      ¬Designates (convertedAddress 0x8000 true) ((0x8000 : ImageAddress).toNat - 512) := by
  decide

end SnesDisasm
