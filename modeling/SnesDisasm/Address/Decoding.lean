import SnesDisasm.Address.Mapping

/-!
# What decoding tells apart

HiROM addresses decode to one offset exactly if they are mirrors of each other.
-/

namespace SnesDisasm

theorem toImageAddress_sentinel_iff (x : ROMAddress) :
    x.toImageAddress = .ok ramSentinel ↔ x.bank = 0x7E ∨ x.bank = 0x7F := by
  rw [toImageAddress_ok_iff]
  by_cases hram : x.bank = 0x7E ∨ x.bank = 0x7F
  · rw [if_pos hram]
    exact iff_of_true rfl hram
  · rw [if_neg hram]
    refine iff_of_false ?_ hram
    intro h
    -- the low bits of an address never reach the sentinel
    have hlow : x.m_Address.toNat % x.addressClass.decodedRange < 0x400000 := by
      cases x.addressClass with
      | LoROMAddress => exact Nat.lt_trans (Nat.mod_lt _ (by decide)) (by decide : 0x8000 < 0x400000)
      | HiROMAddress => exact Nat.mod_lt _ (by decide)
    rw [← h.2] at hlow
    exact absurd hlow (by decide)

theorem toImageAddress_eq_iff {x y : ROMAddress} {a b : ImageAddress}
    (hclass : x.addressClass = y.addressClass) (hx : RomMapped x) (hy : RomMapped y)
    (ha : x.toImageAddress = .ok a) (hb : y.toImageAddress = .ok b) :
    a = b ↔ x.m_Address.toNat % x.addressClass.decodedRange =
      y.m_Address.toNat % x.addressClass.decodedRange := by
  rw [← UInt32.toNat_inj, toImageAddress_value hx ha, toImageAddress_value hy hb, hclass]

/-- The same bank address in banks that the address map of HiROM does not tell apart. -/
def Mirrors (x y : ROMAddress) : Prop :=
  x.bankAddress = y.bankAddress ∧ x.bank.toNat % 0x40 = y.bank.toNat % 0x40

instance (x y : ROMAddress) : Decidable (Mirrors x y) := inferInstanceAs (Decidable (_ ∧ _))

theorem mirrors_iff (x y : ROMAddress) :
    Mirrors x y ↔ x.m_Address.toNat % 0x400000 = y.m_Address.toNat % 0x400000 := by
  rw [Mirrors, ← UInt16.toNat_inj, x.bankAddress_toNat, y.bankAddress_toNat, x.bank_toNat,
    y.bank_toNat]
  omega

def DecodesUpToMirrors (x y : ROMAddress) : Prop :=
  ∃ a b, x.toImageAddress = .ok a ∧ y.toImageAddress = .ok b ∧ a < 0x400000 ∧ b < 0x400000 ∧
    (a = b ↔ Mirrors x y)

theorem hiROM_offset_lt {x : ROMAddress} {a : ImageAddress} (hclass : x.addressClass = .HiROMAddress)
    (hx : RomMapped x) (ha : x.toImageAddress = .ok a) : a < 0x400000 := by
  rw [UInt32.lt_iff_toNat_lt, toImageAddress_value hx ha, hclass]
  exact Nat.mod_lt _ (by decide)

/-- HiROM decoding identifies exactly the mirrors, and returns the sentinel for the system RAM only.
-/
theorem hiROM_decoding_identifies_mirrors :
    (∀ x y : ROMAddress, x.addressClass = .HiROMAddress → y.addressClass = .HiROMAddress →
      RomMapped x → RomMapped y → DecodesUpToMirrors x y) ∧
    ∀ x : ROMAddress, x.addressClass = .HiROMAddress →
      (x.toImageAddress = .ok ramSentinel ↔ x.bank = 0x7E ∨ x.bank = 0x7F) := by
  constructor
  · intro x y hxclass hyclass hx hy
    obtain ⟨a, ha, _⟩ := toImageAddress_mapped hx
    obtain ⟨b, hb, _⟩ := toImageAddress_mapped hy
    refine ⟨a, b, ha, hb, hiROM_offset_lt hxclass hx ha, hiROM_offset_lt hyclass hy hb, ?_⟩
    rw [toImageAddress_eq_iff (hxclass.trans hyclass.symm) hx hy ha hb, hxclass, mirrors_iff]
    rfl
  · intro x _
    exact toImageAddress_sentinel_iff x

theorem hiROM_decoding_identifies_mirrors_first_byte :
    DecodesUpToMirrors ⟨.HiROMAddress, 0x008000⟩ ⟨.HiROMAddress, 0xC08000⟩ ∧
      (ROMAddress.toImageAddress ⟨.HiROMAddress, 0x7E0000⟩ = .ok ramSentinel ↔
        ROMAddress.bank ⟨.HiROMAddress, 0x7E0000⟩ = 0x7E ∨
          ROMAddress.bank ⟨.HiROMAddress, 0x7E0000⟩ = 0x7F) :=
  ⟨hiROM_decoding_identifies_mirrors.1 ⟨.HiROMAddress, 0x008000⟩ ⟨.HiROMAddress, 0xC08000⟩ rfl rfl
      (by decide) (by decide),
    hiROM_decoding_identifies_mirrors.2 ⟨.HiROMAddress, 0x7E0000⟩ rfl⟩

end SnesDisasm
