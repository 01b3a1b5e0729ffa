import SnesDisasm.Framework.FetchLoop
import SnesDisasm.Model.SNESROM

/-!
# The sizes that a header declares

`getRAMSize` reads the byte of the ROM size.
-/

namespace SnesDisasm
open FetchLoop FixedWidth

namespace SNESROMHeader

theorem doubledUpTo_toNat (bound i : UInt8) (size : UInt32) :
    (doubledUpTo bound i size).toNat = size.toNat * 2^(bound.toNat - i.toNat) % 2^32 := by
  induction i, size using doubledUpTo.induct bound with
  | case1 i size hlt ih =>
    have hbound := bound.toNat_lt
    have hi := UInt8.lt_iff_toNat_lt.mp hlt
    have hnext : (i + 1).toNat = i.toNat + 1 := by
      rw [UInt8.toNat_add, UInt8.toNat_one]
      omega
    have hpasses : 2^(bound.toNat - i.toNat) = 2 * 2^(bound.toNat - (i.toNat + 1)) := by
      rw [← Nat.pow_succ']
      congr 1
      omega
    rw [doubledUpTo, if_pos hlt, ih, hnext, hpasses, UInt32.toNat_mul, Nat.mod_mul_mod,
      Nat.mul_assoc]
    rfl
  | case2 i size hge =>
    have hi := mt UInt8.lt_iff_toNat_lt.mpr hge
    rw [doubledUpTo, if_neg hge, Nat.sub_eq_zero_of_le (Nat.le_of_not_lt hi), Nat.pow_zero,
      Nat.mul_one, Nat.mod_eq_of_lt size.toNat_lt]

theorem toNat_pos_of_ne_zero {byte : UInt8} (h : byte ≠ 0) : 0 < byte.toNat := by
  apply Nat.pos_of_ne_zero
  intro hzero
  exact h (UInt8.toNat_inj.mp hzero)

/-- The size in bytes that a RAM size byte declares, as 32 bits hold it. -/
def declaredRAMSize (byte : UInt8) : Nat :=
  if byte = 0 then 0 else 1024 * 2^byte.toNat % 2^32

/-- The declared size is 0: there is no RAM, or 32 bits keep nothing of its size. -/
def Vanishes (byte : UInt8) : Prop := byte = 0 ∨ 22 ≤ byte

instance (byte : UInt8) : Decidable (Vanishes byte) := inferInstanceAs (Decidable (_ ∨ _))

theorem declaredRAMSize_eq_zero_iff : ∀ byte : UInt8, declaredRAMSize byte = 0 ↔ Vanishes byte := by
  apply forall_byte
  decide +kernel

theorem declaredRAMSize_of_kept {byte : UInt8} (h : ¬Vanishes byte) :
    declaredRAMSize byte = 2^(byte.toNat + 10) := by
  have hcases := not_or.mp h
  have hlt : byte.toNat < 22 := by
    have hbelow := UInt8.not_le.mp hcases.2
    exact UInt8.lt_iff_toNat_lt.mp hbelow
  rw [declaredRAMSize, if_neg hcases.1, Nat.pow_add, Nat.mul_comm]
  refine Nat.mod_eq_of_lt ?_
  rw [show 1024 = 2^10 from rfl, ← Nat.pow_add]
  exact Nat.pow_lt_pow_right (by decide) (by omega)

theorem declaredRAMSize_eq_iff (a b : UInt8) :
    declaredRAMSize a = declaredRAMSize b ↔ a = b ∨ (Vanishes a ∧ Vanishes b) := by
  by_cases ha : Vanishes a
  · rw [(declaredRAMSize_eq_zero_iff a).mpr ha, eq_comm, declaredRAMSize_eq_zero_iff]
    constructor
    · intro hb
      exact Or.inr ⟨ha, hb⟩
    · intro h
      rcases h with rfl | ⟨_, hb⟩
      · exact ha
      · exact hb
  · by_cases hb : Vanishes b
    · rw [(declaredRAMSize_eq_zero_iff b).mpr hb, declaredRAMSize_eq_zero_iff]
      refine iff_of_false ha ?_
      intro h
      rcases h with rfl | ⟨ha', _⟩
      · exact ha hb
      · exact ha ha'
    · rw [declaredRAMSize_of_kept ha, declaredRAMSize_of_kept hb]
      constructor
      · intro h
        have hexp := Nat.pow_right_injective (Nat.le_refl 2) h
        exact Or.inl (UInt8.toNat_inj.mp (by omega))
      · intro h
        rcases h with rfl | ⟨ha', _⟩
        · rfl
        · exact absurd ha' ha

section Header

variable {data : Pointer} {byte : UInt8}

theorem getRAMSize_of_byte (hbyte : data.deref m_ROMSizeIndex = .ok byte) :
    getRAMSize ⟨some data⟩ = .ok (if byte = 0 then 0 else doubledUpTo byte 1 2048) := by
  simp only [getRAMSize, nonNull, hbyte, bind, Except.bind, pure, Except.pure]

theorem getRAMSize_eq (hbyte : data.deref m_ROMSizeIndex = .ok byte) :
    ∃ size, getRAMSize ⟨some data⟩ = .ok size ∧ size.toNat = declaredRAMSize byte := by
  refine ⟨_, getRAMSize_of_byte hbyte, ?_⟩
  by_cases hzero : byte = 0
  · rw [if_pos hzero, declaredRAMSize, if_pos hzero]
    rfl
  · have hpasses : 1024 * 2^byte.toNat = 2048 * 2^(byte.toNat - 1) := by
      obtain ⟨n, hn⟩ := Nat.exists_eq_succ_of_ne_zero (Nat.ne_of_gt (toNat_pos_of_ne_zero hzero))
      rw [hn, Nat.pow_succ', ← Nat.mul_assoc, Nat.succ_sub_one]
    rw [if_neg hzero, doubledUpTo_toNat, declaredRAMSize, if_neg hzero, hpasses]
    rfl

theorem readable_of_mayBeThere (h : mayBeThere data = .ok true) {i : Nat}
    (hi : i ≤ m_CountryCodeIndex) : ∃ byte, data.deref i = .ok byte := by
  obtain ⟨layoutByte, _, hcountry⟩ := bind_ok_iff.mp h
  by_cases hbit : layoutByte &&& 0x20 ≠ 0
  · rw [if_pos hbit] at hcountry
    obtain ⟨countryCode, hread, _⟩ := bind_ok_iff.mp hcountry
    have hlast := (data.deref_isOk_iff m_CountryCodeIndex).mp ⟨countryCode, hread⟩
    exact (data.deref_isOk_iff i).mpr (by omega)
  · rw [if_neg hbit] at hcountry
    cases hcountry

end Header

def RAMSizeIsDeclared (data₁ data₂ : Pointer) (byte : UInt8) : Prop :=
  ∃ size, getRAMSize ⟨some data₁⟩ = .ok size ∧ getRAMSize ⟨some data₂⟩ = .ok size ∧
    size.toNat = declaredRAMSize byte

/-- The two size bytes of the header declare the same RAM size. -/
def SizeBytesAgree (data : Pointer) : Prop :=
  ∃ romByte ramByte, data.deref m_ROMSizeIndex = .ok romByte ∧
    data.deref m_RAMSizeIndex = .ok ramByte ∧
    (romByte = ramByte ∨ (Vanishes romByte ∧ Vanishes ramByte))

theorem sizeBytesAgree_iff {data : Pointer} {byte : UInt8} (hheader : mayBeThere data = .ok true)
    (hbyte : data.deref m_RAMSizeIndex = .ok byte) :
    SizeBytesAgree data ↔
      ∃ size, getRAMSize ⟨some data⟩ = .ok size ∧ size.toNat = declaredRAMSize byte := by
  obtain ⟨romByte, hread⟩ := readable_of_mayBeThere hheader (by decide : m_ROMSizeIndex ≤ _)
  obtain ⟨size, hsize, hvalue⟩ := getRAMSize_eq hread
  have hagree : SizeBytesAgree data ↔ declaredRAMSize romByte = declaredRAMSize byte := by
    rw [declaredRAMSize_eq_iff, SizeBytesAgree, hread, hbyte]
    simp only [Except.ok.injEq, exists_and_left, exists_eq_left']
  rw [hagree, ← hvalue, hsize]
  simp only [Except.ok.injEq, exists_eq_left']

/-- For accepted headers with one RAM size byte, both RAM sizes are what it declares exactly if the
two size bytes of either header declare the same. -/
theorem ramSize_is_declared_iff (data₁ data₂ : Pointer) (byte : UInt8)
    (hheader₁ : mayBeThere data₁ = .ok true) (hheader₂ : mayBeThere data₂ = .ok true)
    (hbyte₁ : data₁.deref m_RAMSizeIndex = .ok byte)
    (hbyte₂ : data₂.deref m_RAMSizeIndex = .ok byte) :
    RAMSizeIsDeclared data₁ data₂ byte ↔ SizeBytesAgree data₁ ∧ SizeBytesAgree data₂ := by
  rw [sizeBytesAgree_iff hheader₁ hbyte₁, sizeBytesAgree_iff hheader₂ hbyte₂]
  constructor
  · intro h
    obtain ⟨size, hsize₁, hsize₂, hvalue⟩ := h
    exact ⟨⟨size, hsize₁, hvalue⟩, ⟨size, hsize₂, hvalue⟩⟩
  · intro h
    obtain ⟨⟨size₁, hsize₁, hvalue₁⟩, ⟨size₂, hsize₂, hvalue₂⟩⟩ := h
    obtain rfl := UInt32.toNat_inj.mp (hvalue₁.trans hvalue₂.symm)
    exact ⟨size₁, hsize₁, hsize₂, hvalue₁⟩

def sizedHeader (romSizeByte ramSizeByte : UInt8) : Pointer :=
  ⟨((List.replicate 64 0).set 21 0x20 |>.set 23 romSizeByte).set 24 ramSizeByte, 0⟩

theorem ramSize_is_declared_sized :
    RAMSizeIsDeclared (sizedHeader 3 3) (sizedHeader 9 3) 3 ↔
      SizeBytesAgree (sizedHeader 3 3) ∧ SizeBytesAgree (sizedHeader 9 3) :=
  ramSize_is_declared_iff (sizedHeader 3 3) (sizedHeader 9 3) 3 (by decide) (by decide) (by decide)
    (by decide)

theorem ramSize_follows_romSize :
    mayBeThere (sizedHeader 9 0) = .ok true ∧ mayBeThere (sizedHeader 10 0) = .ok true ∧
      (sizedHeader 9 0).deref m_RAMSizeIndex = .ok 0 ∧
      (sizedHeader 10 0).deref m_RAMSizeIndex = .ok 0 ∧
      getRAMSize ⟨some (sizedHeader 9 0)⟩ = .ok 524288 ∧
      getRAMSize ⟨some (sizedHeader 10 0)⟩ = .ok 1048576 ∧
      ¬RAMSizeIsDeclared (sizedHeader 9 0) (sizedHeader 10 0) 0 := by
  have hread₁ : (sizedHeader 9 0).deref m_ROMSizeIndex = .ok 9 := by decide
  have hread₂ : (sizedHeader 10 0).deref m_ROMSizeIndex = .ok 10 := by decide
  obtain ⟨size₁, hsize₁, hvalue₁⟩ := getRAMSize_eq hread₁
  obtain ⟨size₂, hsize₂, hvalue₂⟩ := getRAMSize_eq hread₂
  obtain rfl : size₁ = 524288 := UInt32.toNat_inj.mp hvalue₁
  obtain rfl : size₂ = 1048576 := UInt32.toNat_inj.mp hvalue₂
  refine ⟨by decide, by decide, by decide, by decide, hsize₁, hsize₂, ?_⟩
  intro h
  obtain ⟨size, hfirst, hsecond, _⟩ := h
  have hsame := Except.ok.inj ((hsize₁.symm.trans hfirst).trans (hsecond.symm.trans hsize₂))
  exact absurd hsame (by decide)

end SNESROMHeader

end SnesDisasm
