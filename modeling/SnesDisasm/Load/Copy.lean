import SnesDisasm.Address.Mapping
import SnesDisasm.Load.Selection
import SnesDisasm.Model.CopyBytes

/-!
# What `copyBytes` copies

The loop never advances the address that it reads through.
-/

namespace SnesDisasm

namespace SNESROM

/-- The `n` addresses from `x` on are ROM of one bank and designate bytes of the image. -/
def InBankRange (rom : SNESROM) (x : ROMAddress) (n : Nat) : Prop :=
  ∀ i < n, RomMapped (x.advance i) ∧ (x.advance i).bank = x.bank ∧
    ∃ offset, (x.advance i).toImageAddress = .ok offset ∧ offset.toNat < rom.headerlessSize

/-- The loop ends, with the bytes of the range in the destination and nothing else changed. -/
def CopiesRange (rom : SNESROM) (destination : Nat → UInt8) (x : ROMAddress) (n : UInt64) : Prop :=
  ∃ fuel destination', rom.copyBytes fuel destination x n = .ok (some (destination', x)) ∧
    (∀ i < n.toNat, rom.readAt (x.advance i) 0 = .ok (destination' i)) ∧
    ∀ i, n.toNat ≤ i → destination' i = destination i

theorem InBankRange.length_le {rom : SNESROM} {x : ROMAddress} {n : Nat}
    (h : InBankRange rom x n) : n ≤ 0x10000 := by
  by_contra hlong
  have hlast := (h (0x10000 - x.bankAddress.toNat) (by omega)).2.1
  have hlt := x.bankAddress.toNat_lt
  rw [← UInt8.toNat_inj, ROMAddress.bank_toNat, ROMAddress.bank_toNat, ROMAddress.advance_toNat,
    ROMAddress.bankAddress_toNat] at hlast
  rw [ROMAddress.bankAddress_toNat] at hlt
  omega

theorem copyLoop_eq {rom : SNESROM} {x : ROMAddress} {n : UInt64} {byte : UInt8}
    (hread : n ≠ 0 → rom.readAt x 0 = .ok byte) (hn : n.toNat < 2^32) (fuel : Nat) (i : UInt32)
    (hi : i.toNat ≤ n.toNat) (destination : Nat → UInt8) :
    rom.copyLoop n fuel i destination x =
      .ok (if n.toNat < i.toNat + fuel then
        some (fun j => if i.toNat ≤ j ∧ j < n.toNat then byte else destination j, x) else none) := by
  induction fuel generalizing i destination with
  | zero =>
    rw [if_neg (by omega)]
    rfl
  | succ fuel ih =>
    have hguard : i.toUInt64 < n ↔ i.toNat < n.toNat := by
      rw [UInt64.lt_iff_toNat_lt, UInt32.toNat_toUInt64]
    rw [copyLoop]
    by_cases hlt : i.toNat < n.toNat
    · have hnonzero : n ≠ 0 := by
        intro h
        rw [h, UInt64.toNat_zero] at hlt
        omega
      obtain ⟨image, himage, hbyte⟩ := readAt_ok_iff.mp (hread hnonzero)
      have hderef : rom.headerless.deref image.toNat = .ok byte := hbyte
      have hnext : (i + 1).toNat = i.toNat + 1 := by
        rw [UInt32.toNat_add, UInt32.toNat_one]
        omega
      rw [if_pos (hguard.mpr hlt), himage]
      simp only [bind, Except.bind, hderef]
      rw [ih (i + 1) (by omega), hnext]
      by_cases hfuel : n.toNat < i.toNat + (fuel + 1)
      · rw [if_pos hfuel, if_pos (by omega)]
        have hfilled : (fun j => if i.toNat + 1 ≤ j ∧ j < n.toNat then byte
              else Function.update destination i.toNat byte j) =
            fun j => if i.toNat ≤ j ∧ j < n.toNat then byte else destination j := by
          funext j
          by_cases hsame : j = i.toNat
          · subst hsame
            rw [if_neg (by omega), if_pos ⟨Nat.le_refl _, hlt⟩, Function.update_self]
          · rw [Function.update_of_ne hsame]
            have hsplit : i.toNat + 1 ≤ j ∧ j < n.toNat ↔ i.toNat ≤ j ∧ j < n.toNat := by omega
            rw [if_congr hsplit rfl rfl]
        rw [hfilled]
      · rw [if_neg hfuel, if_neg (by omega)]
    · have hfilled : (fun j => if i.toNat ≤ j ∧ j < n.toNat then byte else destination j) =
          destination := by
        funext j
        rw [if_neg (by omega)]
      rw [if_neg (mt hguard.mp hlt), if_pos (by omega), hfilled]

def filled (byte : UInt8) (n : Nat) (destination : Nat → UInt8) : Nat → UInt8 :=
  fun i => if i < n then byte else destination i

section Range

variable {rom : SNESROM} {x : ROMAddress} {n : UInt64}

theorem copyBytes_eq {byte : UInt8} (hread : n ≠ 0 → rom.readAt x 0 = .ok byte)
    (hn : n.toNat < 2^32) (fuel : Nat) (destination : Nat → UInt8) :
    rom.copyBytes fuel destination x n =
      .ok (if n.toNat < fuel then some (filled byte n.toNat destination, x) else none) := by
  have hloop := copyLoop_eq hread hn fuel 0 (Nat.zero_le _) destination
  simp only [UInt32.toNat_zero, Nat.zero_add, Nat.zero_le, true_and] at hloop
  exact hloop

theorem InBankRange.readAt_first (hrom : Aligned rom) (hrange : InBankRange rom x n.toNat) :
    ∃ byte, n ≠ 0 → rom.readAt x 0 = .ok byte := by
  by_cases hzero : n = 0
  · exact ⟨0, fun h => absurd hzero h⟩
  · have hpos : 0 < n.toNat := by
      rw [Nat.pos_iff_ne_zero]
      intro h
      exact hzero (UInt64.toNat_inj.mp h)
    obtain ⟨_, _, offset, hoffset, hinside⟩ := hrange 0 hpos
    rw [ROMAddress.advance_zero] at hoffset
    exact ⟨rom.imageByte offset.toNat, fun _ => readAt_of_offset hrom offset hoffset hinside⟩

theorem copiesRange_iff (hrom : Aligned rom) (hrange : InBankRange rom x n.toNat)
    (destination : Nat → UInt8) :
    CopiesRange rom destination x n ↔
      ∀ i < n.toNat, rom.readAt (x.advance i) 0 = rom.readAt x 0 := by
  have hlength := hrange.length_le
  obtain ⟨byte, hread⟩ := hrange.readAt_first hrom
  have hfirst {i : Nat} (hi : i < n.toNat) : rom.readAt x 0 = .ok byte := by
    apply hread
    intro h
    rw [h, UInt64.toNat_zero] at hi
    omega
  have hcopy (fuel : Nat) := copyBytes_eq hread (by omega) fuel destination
  constructor
  · intro h i hi
    obtain ⟨fuel, destination', hrun, hcopied, _⟩ := h
    rw [hcopy] at hrun
    by_cases hfuel : n.toNat < fuel
    · rw [if_pos hfuel] at hrun
      obtain ⟨rfl, _⟩ := Prod.mk.inj (Option.some.inj (Except.ok.inj hrun))
      rw [hcopied i hi, hfirst hi, filled, if_pos hi]
    · rw [if_neg hfuel] at hrun
      cases Except.ok.inj hrun
  · intro h
    refine ⟨n.toNat + 1, filled byte n.toNat destination, ?_, ?_, ?_⟩
    · rw [hcopy, if_pos (Nat.lt_succ_self _)]
    · intro i hi
      rw [h i hi, hfirst hi, filled, if_pos hi]
    · intro i hi
      rw [filled, if_neg (Nat.not_lt.mpr hi)]

end Range

/-- In a range inside a bank and the image, `copyBytes` copies exactly if each byte equals the first
one. -/
theorem copyBytes_copies_iff (file : Bytes) (rom : SNESROM) (x : ROMAddress) (n : UInt64)
    (destination : Nat → UInt8) (hload : load file = .ok rom)
    (hrange : InBankRange rom x n.toNat) :
    CopiesRange rom destination x n ↔
      ∀ i < n.toNat, rom.readAt (x.advance i) 0 = rom.readAt x 0 :=
  copiesRange_iff (load_headerInside hload).aligned hrange destination

private theorem candidates_range :
    InBankRange (loaded (candidates 0x20 0)) ⟨.LoROMAddress, 0x00FFD4⟩ (2 : UInt64).toNat := by
  have hsize := loaded_candidates_headerlessSize 0x20 0
  intro i hi
  have htwo : i < 2 := hi
  rcases (by omega : i = 0 ∨ i = 1) with rfl | rfl
  · exact ⟨by decide, by decide, 0x7FD4, by decide, by rw [hsize]; decide⟩
  · exact ⟨by decide, by decide, 0x7FD5, by decide, by rw [hsize]; decide⟩

private theorem candidates_bytes :
    (loaded (candidates 0x20 0)).readAt ⟨.LoROMAddress, 0x00FFD4⟩ 0 = .ok 0 ∧
      (loaded (candidates 0x20 0)).readAt
        (ROMAddress.advance ⟨.LoROMAddress, 0x00FFD4⟩ 1) 0 = .ok 0x20 :=
  ⟨readAt_candidates 0x20 0 0x7FD4 (by decide) (by decide),
    readAt_candidates 0x20 0 0x7FD5 (by decide) (by decide)⟩

theorem copyBytes_copies_differing :
    (loaded (candidates 0x20 0)).readAt ⟨.LoROMAddress, 0x00FFD4⟩ 0 ≠
        (loaded (candidates 0x20 0)).readAt
          (ROMAddress.advance ⟨.LoROMAddress, 0x00FFD4⟩ 1) 0 ∧
      (CopiesRange (loaded (candidates 0x20 0)) (fun _ => 0xFF) ⟨.LoROMAddress, 0x00FFD4⟩ 2 ↔
        ∀ i < (2 : UInt64).toNat,
          (loaded (candidates 0x20 0)).readAt
              (ROMAddress.advance ⟨.LoROMAddress, 0x00FFD4⟩ i) 0 =
            (loaded (candidates 0x20 0)).readAt ⟨.LoROMAddress, 0x00FFD4⟩ 0) := by
  refine ⟨?_, ?_⟩
  · rw [candidates_bytes.1, candidates_bytes.2]
    decide
  · exact copyBytes_copies_iff (candidates 0x20 0) (loaded (candidates 0x20 0))
      ⟨.LoROMAddress, 0x00FFD4⟩ 2 (fun _ => 0xFF) (load_candidates 0x20 0) candidates_range

theorem copyBytes_repeats_first :
    load (candidates 0x20 0) = .ok (loaded (candidates 0x20 0)) ∧
      InBankRange (loaded (candidates 0x20 0)) ⟨.LoROMAddress, 0x00FFD4⟩ (2 : UInt64).toNat ∧
      ¬CopiesRange (loaded (candidates 0x20 0)) (fun _ => 0xFF) ⟨.LoROMAddress, 0x00FFD4⟩ 2 := by
  refine ⟨load_candidates 0x20 0, candidates_range, ?_⟩
  rw [copiesRange_iff aligned_loaded candidates_range]
  intro h
  have hbehind := h 1 (by decide)
  rw [candidates_bytes.1, candidates_bytes.2] at hbehind
  exact absurd hbehind (by decide)

end SNESROM

end SnesDisasm
