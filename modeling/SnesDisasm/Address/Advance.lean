import SnesDisasm.Address.Mapping

/-!
# Advancing an address

The image offset grows with the address only inside one window, which depends on the layout and
the bank.
-/

namespace SnesDisasm

/-- The advanced address is ROM again and designates the byte `n` further on. -/
def AdvancesBy (x : ROMAddress) (offset : ImageAddress) (n : Nat) : Prop :=
  RomMapped (x.advance n) ∧
    ∃ offset', (x.advance n).toImageAddress = .ok offset' ∧ offset'.toNat = offset.toNat + n

/-- The step stays in the window of its start. -/
def StaysInWindow (x : ROMAddress) (n : Nat) : Prop :=
  match x.addressClass with
  | .LoROMAddress => x.bankAddress.toNat + n < 0x10000
  | .HiROMAddress =>
      (x.bank.toNat % 0x80 < 0x40 → 0x8000 ≤ (x.bankAddress.toNat + n) % 0x10000) ∧
      (0x40 ≤ x.bank.toNat → x.bank.toNat < 0x7E →
        x.bank.toNat * 0x10000 + x.bankAddress.toNat + n < 0x7E0000)

instance : (x : ROMAddress) → (n : Nat) → Decidable (StaysInWindow x n)
  | ⟨.LoROMAddress, _⟩, _ => inferInstanceAs (Decidable (_ < _))
  | ⟨.HiROMAddress, _⟩, _ => inferInstanceAs (Decidable ((_ → _) ∧ (_ → _ → _)))

private theorem advancesBy_iff {x : ROMAddress} {offset : ImageAddress} {n : Nat}
    (hx : RomMapped x) (hoffset : x.toImageAddress = .ok offset) :
    AdvancesBy x offset n ↔ RomMapped (x.advance n) ∧
      (x.m_Address.toNat + n) % 2^32 % x.addressClass.decodedRange =
        x.m_Address.toNat % x.addressClass.decodedRange + n := by
  rw [← toImageAddress_value hx hoffset, ← x.advance_toNat, ← x.advance_addressClass n]
  constructor
  · intro h
    obtain ⟨hmapped, offset', hdecode, hvalue⟩ := h
    rw [toImageAddress_value hmapped hdecode] at hvalue
    exact ⟨hmapped, hvalue⟩
  · intro h
    obtain ⟨hmapped, hvalue⟩ := h
    obtain ⟨b, hb, hbvalue⟩ := toImageAddress_mapped hmapped
    exact ⟨hmapped, b, hb, hbvalue.trans hvalue⟩

theorem advancesBy_in_bank {x : ROMAddress} {offset : ImageAddress} {n : Nat} (hx : RomMapped x)
    (hoffset : x.toImageAddress = .ok offset) (hn : x.bankAddress.toNat + n < 0x10000) :
    AdvancesBy x offset n := by
  rw [advancesBy_iff hx hoffset]
  have hlt := x.m_Address.toNat_lt
  rw [x.bankAddress_toNat] at hn
  cases hclass : x.addressClass with
  | LoROMAddress =>
    rw [romMapped_lo_iff hclass] at hx
    rw [romMapped_lo_iff (x.advance_addressClass n ▸ hclass), x.advance_toNat]
    simp only [AddressClass.decodedRange]
    omega
  | HiROMAddress =>
    rw [romMapped_hi_iff hclass] at hx
    rw [romMapped_hi_iff (x.advance_addressClass n ▸ hclass), x.advance_toNat]
    simp only [AddressClass.decodedRange]
    omega

/-- An address advanced inside the image designates the byte as far on exactly when the step stays
in its window. -/
theorem advance_iff_stays_in_window (x : ROMAddress) (offset : ImageAddress) (n : Nat)
    (hx : RomMapped x) (hoffset : x.toImageAddress = .ok offset)
    (hn : offset.toNat + n < 0x400000) :
    AdvancesBy x offset n ↔ StaysInWindow x n := by
  rw [advancesBy_iff hx hoffset]
  rw [toImageAddress_value hx hoffset] at hn
  have hlt := x.m_Address.toNat_lt
  cases hclass : x.addressClass with
  | LoROMAddress =>
    rw [romMapped_lo_iff hclass] at hx
    rw [romMapped_lo_iff (x.advance_addressClass n ▸ hclass), x.advance_toNat]
    simp only [StaysInWindow, hclass, AddressClass.decodedRange, x.bankAddress_toNat] at hn ⊢
    omega
  | HiROMAddress =>
    rw [romMapped_hi_iff hclass] at hx
    rw [romMapped_hi_iff (x.advance_addressClass n ▸ hclass), x.advance_toNat]
    simp only [StaysInWindow, hclass, AddressClass.decodedRange, x.bankAddress_toNat,
      x.bank_toNat] at hn ⊢
    omega

theorem advance_in_linear_bank :
    AdvancesBy ⟨.HiROMAddress, 0xC00000⟩ 0 4 ↔ StaysInWindow ⟨.HiROMAddress, 0xC00000⟩ 4 :=
  advance_iff_stays_in_window ⟨.HiROMAddress, 0xC00000⟩ 0 4 (by decide) (by decide) (by decide)

theorem advance_past_bank_end :
    RomMapped ⟨.LoROMAddress, 0x00FFFF⟩ ∧
      ROMAddress.toImageAddress ⟨.LoROMAddress, 0x00FFFF⟩ = .ok 0x7FFF ∧
      (0x7FFF : ImageAddress).toNat + 1 < 0x400000 ∧
      ¬AdvancesBy ⟨.LoROMAddress, 0x00FFFF⟩ 0x7FFF 1 := by
  refine ⟨by decide, by decide, by decide, ?_⟩
  intro h
  rcases h with ⟨hmapped, _⟩
  exact absurd hmapped (by decide)

end SnesDisasm
