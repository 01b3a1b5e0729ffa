import SnesDisasm.Address.RoundTrip

/-!
# Decoding a HiROM address and encoding it again

The remainder modulo `0xFFFF` moves the bank address in most banks.
-/

namespace SnesDisasm

def ReturnsToMirror (x : ROMAddress) : Prop :=
  ∃ a y, x.toImageAddress = .ok a ∧ HiROMAddress.fromImageAddress a = .ok y ∧
    y.bankAddress = x.bankAddress ∧ y.bank.toNat % 0x40 = x.bank.toNat % 0x40

/-- Encoding the offset of a HiROM address returns a mirror exactly in the banks divisible by
`0x40`, their last byte apart. -/
theorem hiROM_returns_to_mirror_iff (x : ROMAddress) (hclass : x.addressClass = .HiROMAddress)
    (hmapped : RomMapped x) :
    ReturnsToMirror x ↔ x.bank.toNat % 0x40 = 0 ∧ x.bankAddress ≠ 0xFFFF := by
  obtain ⟨a, hdecode, hvalue⟩ := toImageAddress_mapped hmapped
  rw [hclass, AddressClass.decodedRange] at hvalue
  have hlimit : a < 0x400000 := by
    rw [UInt32.lt_iff_toNat_lt, hvalue]
    exact Nat.mod_lt _ (by decide)
  obtain ⟨y, hencode, _, hy⟩ := HiROMAddress.fromImageAddress_ok hlimit
  have hmirror : ReturnsToMirror x ↔
      y.bankAddress = x.bankAddress ∧ y.bank.toNat % 0x40 = x.bank.toNat % 0x40 := by
    constructor
    · intro h
      obtain ⟨b, z, hdecode', hencode', hsame⟩ := h
      obtain rfl := Except.ok.inj (hdecode.symm.trans hdecode')
      obtain rfl := Except.ok.inj (hencode.symm.trans hencode')
      exact hsame
    · intro h
      exact ⟨a, y, hdecode, hencode, h⟩
  rw [hmirror, ← UInt16.toNat_inj, ne_eq, ← UInt16.toNat_inj, y.bank_toNat, x.bank_toNat,
    y.bankAddress_toNat, x.bankAddress_toNat, hy, hvalue]
  simp only [UInt16.reduceToNat]
  have hlt := x.m_Address.toNat_lt
  split <;> omega

theorem hiROM_returns_to_mirror_linear :
    ReturnsToMirror ⟨.HiROMAddress, 0xC01234⟩ ↔
      (ROMAddress.bank ⟨.HiROMAddress, 0xC01234⟩).toNat % 0x40 = 0 ∧
        ROMAddress.bankAddress ⟨.HiROMAddress, 0xC01234⟩ ≠ 0xFFFF :=
  hiROM_returns_to_mirror_iff ⟨.HiROMAddress, 0xC01234⟩ rfl (by decide)

theorem hiROM_leaves_mirrors :
    RomMapped ⟨.HiROMAddress, 0xC10000⟩ ∧
      ROMAddress.toImageAddress ⟨.HiROMAddress, 0xC10000⟩ = .ok 0x10000 ∧
      HiROMAddress.fromImageAddress 0x10000 = .ok ⟨.HiROMAddress, 0x010001⟩ ∧
      ¬ReturnsToMirror ⟨.HiROMAddress, 0xC10000⟩ := by
  refine ⟨by decide, by decide, by decide, ?_⟩
  intro h
  obtain ⟨a, y, hdecode, hencode, hsame, _⟩ := h
  have hoffset : ROMAddress.toImageAddress ⟨.HiROMAddress, 0xC10000⟩ = .ok 0x10000 := by decide
  obtain rfl := Except.ok.inj (hoffset.symm.trans hdecode)
  have haddress : HiROMAddress.fromImageAddress 0x10000 = .ok ⟨.HiROMAddress, 0x010001⟩ := by
    decide
  obtain rfl := Except.ok.inj (haddress.symm.trans hencode)
  exact absurd hsame (by decide)

end SnesDisasm
