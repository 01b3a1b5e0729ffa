import SnesDisasm.Framework.FetchLoop
import SnesDisasm.Model.SNESROM

/-!
# The header probes

A probe reads inside the file exactly when the image holds the 64 bytes of the header.
-/

namespace SnesDisasm
open FetchLoop

/-- The image starts behind an SMC header or none and has whole kilobytes. -/
structure Aligned (rom : SNESROM) : Prop where
  base_le : rom.m_headerlessImageData ≤ rom.m_actualImageData.length
  whole : rom.headerlessSize % 1024 = 0

namespace SNESROM

def imageByte (rom : SNESROM) (offset : Nat) : UInt8 :=
  rom.m_actualImageData.getD (rom.m_headerlessImageData + offset) 0

/-- The byte `i` behind the pointer that `operator[]` returns for an address. -/
def readAt (rom : SNESROM) (address : ROMAddress) (i : Nat) : Except Fault UInt8 := do
  let data ← rom.index address
  data.deref i

def HeaderLike (rom : SNESROM) (headerAddress : Nat) : Prop :=
  rom.imageByte (headerAddress + SNESROMHeader.m_ROMLayoutIndex) &&& 0x20 ≠ 0 ∧
    rom.imageByte (headerAddress + SNESROMHeader.m_CountryCodeIndex) < 0x0E

instance (rom : SNESROM) (headerAddress : Nat) : Decidable (rom.HeaderLike headerAddress) :=
  inferInstanceAs (Decidable (_ ∧ _))

def NamesLayout (rom : SNESROM) (offset : Nat) : Prop :=
  rom.imageByte offset = 0x20 ∨ rom.imageByte offset = 0x30

instance (rom : SNESROM) (offset : Nat) : Decidable (rom.NamesLayout offset) :=
  inferInstanceAs (Decidable (_ ∨ _))

def withHeader (rom : SNESROM) (headerAddress : Nat) : SNESROM :=
  { rom with m_SNESROMHeader := ⟨some (rom.headerless.advance headerAddress)⟩ }

theorem readAt_ok_iff {rom : SNESROM} {address : ROMAddress} {i : Nat} {byte : UInt8} :
    rom.readAt address i = .ok byte ↔ ∃ image, address.toImageAddress = .ok image ∧
      (rom.headerless.advance image.toNat).deref i = .ok byte := by
  rw [readAt, index]
  cases address.toImageAddress with
  | error fault => simp [bind, Except.bind]
  | ok image => simp [bind, Except.bind, pure, Except.pure]

theorem deref_inside (rom : SNESROM) (hrom : Aligned rom) (a i : Nat)
    (h : a + i < rom.headerlessSize) :
    (rom.headerless.advance a).deref i = .ok (rom.imageByte (a + i)) := by
  have hbase := hrom.base_le
  have hread := Pointer.deref_of_lt (rom.headerless.advance a) i (by
    simp only [headerless, Pointer.advance_offset, Pointer.advance_memory]
    unfold headerlessSize at h
    omega)
  rwa [Pointer.advance_memory, Pointer.advance_offset, Nat.add_assoc] at hread

theorem readAt_of_offset {rom : SNESROM} {x : ROMAddress} (hrom : Aligned rom)
    (offset : ImageAddress) (hoffset : x.toImageAddress = .ok offset)
    (hinside : offset.toNat < rom.headerlessSize) :
    rom.readAt x 0 = .ok (rom.imageByte offset.toNat) :=
  readAt_ok_iff.mpr ⟨offset, hoffset, rom.deref_inside hrom offset.toNat 0 hinside⟩

theorem deref_outside (rom : SNESROM) (hrom : Aligned rom) (a i : Nat)
    (h : rom.headerlessSize ≤ a + i) :
    (rom.headerless.advance a).deref i =
      .error (.outOfBounds (rom.m_headerlessImageData + a + i)) := by
  have hbase := hrom.base_le
  exact Pointer.deref_of_le (rom.headerless.advance a) i (by
    simp only [headerless, Pointer.advance_offset, Pointer.advance_memory]
    unfold headerlessSize at h
    omega)

section Probe

variable {rom : SNESROM} (hrom : Aligned rom)
include hrom

theorem mayBeThere_eq (headerAddress : Nat) (hend : (headerAddress + 64) % 1024 = 0) :
    SNESROMHeader.mayBeThere (rom.headerless.advance headerAddress) =
      if headerAddress + 64 ≤ rom.headerlessSize then
        .ok (decide (rom.HeaderLike headerAddress))
      else .error (.outOfBounds (rom.m_headerlessImageData + headerAddress + 21)) := by
  have hwhole := hrom.whole
  by_cases hfits : headerAddress + 64 ≤ rom.headerlessSize
  · have hlayout := rom.deref_inside hrom headerAddress 21 (by omega)
    have hcountry := rom.deref_inside hrom headerAddress 25 (by omega)
    rw [if_pos hfits]
    simp only [SNESROMHeader.mayBeThere, HeaderLike, SNESROMHeader.m_ROMLayoutIndex,
      SNESROMHeader.m_CountryCodeIndex, hlayout, hcountry, bind, Except.bind, pure, Except.pure]
    by_cases hbit : rom.imageByte (headerAddress + 21) &&& 0x20 ≠ 0
    · rw [if_pos hbit]
      simp [hbit]
    · rw [if_neg hbit]
      simp [hbit]
  · have hlayout := rom.deref_outside hrom headerAddress 21 (by omega)
    rw [if_neg hfits]
    simp only [SNESROMHeader.mayBeThere, SNESROMHeader.m_ROMLayoutIndex, hlayout, bind, Except.bind]

theorem takeHeader_eq {headerAddress : Nat} (hend : (headerAddress + 64) % 1024 = 0)
    (hfits : headerAddress + 64 ≤ rom.headerlessSize) (hlike : rom.HeaderLike headerAddress) :
    rom.takeHeader headerAddress = .ok (rom.withHeader headerAddress) := by
  have hprobe := mayBeThere_eq hrom headerAddress hend
  rw [if_pos hfits, decide_eq_true hlike] at hprobe
  simp only [takeHeader, SNESROMHeader.ofData, hprobe, assert_true, bind, Except.bind, pure,
    Except.pure]
  rfl

theorem probeHeader_eq (headerAddress : Nat) (hend : (headerAddress + 64) % 1024 = 0) :
    rom.probeHeader headerAddress =
      if headerAddress + 64 ≤ rom.headerlessSize then
        .ok (if rom.HeaderLike headerAddress then rom.withHeader headerAddress else rom)
      else .error (.outOfBounds (rom.m_headerlessImageData + headerAddress + 21)) := by
  rw [probeHeader, mayBeThere_eq hrom headerAddress hend]
  by_cases hfits : headerAddress + 64 ≤ rom.headerlessSize
  · by_cases hlike : rom.HeaderLike headerAddress
    · simp [hfits, hlike, takeHeader_eq hrom hend hfits hlike, bind, Except.bind]
    · simp [hfits, hlike, bind, Except.bind]
  · simp [hfits, bind, Except.bind]

theorem probeKnownOffsets_eq :
    rom.probeKnownOffsets =
      if 0x8000 ≤ rom.headerlessSize then
        if rom.HeaderLike 0x7FC0 then .ok (rom.withHeader 0x7FC0) else rom.probeHeader 0xFFC0
      else .error (.outOfBounds (rom.m_headerlessImageData + 0x7FC0 + 21)) := by
  rw [probeKnownOffsets, mayBeThere_eq hrom 0x7FC0 (by decide)]
  by_cases hfits : 0x8000 ≤ rom.headerlessSize
  · by_cases hlike : rom.HeaderLike 0x7FC0
    · simp [hfits, hlike, takeHeader_eq hrom _ hfits hlike, bind, Except.bind]
    · simp [hfits, hlike, bind, Except.bind]
  · simp [hfits, bind, Except.bind]

theorem checkRomLayout_eq :
    rom.checkRomLayout =
      if 0x8000 ≤ rom.headerlessSize then
        if rom.NamesLayout 0x7FD5 then .ok .LoROM
        else if 0x10000 ≤ rom.headerlessSize then
          .ok (if rom.NamesLayout 0xFFD5 then .HiROM else .Error)
        else .error (.outOfBounds (rom.m_headerlessImageData + 0 + 0xFFD5))
      else .error (.outOfBounds (rom.m_headerlessImageData + 0 + 0x7FD5)) := by
  have hwhole := hrom.whole
  -- both candidate addresses translate to the offsets they were made from
  have hunfold : rom.checkRomLayout = (do
      let byte ← (rom.headerless.advance 0).deref 0x7FD5
      if byte ≠ 0x20 ∧ byte ≠ 0x30 then
        let byte ← (rom.headerless.advance 0).deref 0xFFD5
        return if byte ≠ 0x20 ∧ byte ≠ 0x30 then .Error else .HiROM
      else return .LoROM) := rfl
  have hnames (offset : Nat) : rom.imageByte (0 + offset) ≠ 0x20 ∧
      rom.imageByte (0 + offset) ≠ 0x30 ↔ ¬rom.NamesLayout offset := by
    rw [Nat.zero_add, NamesLayout, not_or]
  rw [hunfold]
  by_cases hlow : 0x8000 ≤ rom.headerlessSize
  · rw [rom.deref_inside hrom 0 0x7FD5 (by omega), if_pos hlow]
    simp only [bind, Except.bind, pure, Except.pure, hnames]
    by_cases hnamed : rom.NamesLayout 0x7FD5
    · simp [hnamed]
    · by_cases hhigh : 0x10000 ≤ rom.headerlessSize
      · rw [rom.deref_inside hrom 0 0xFFD5 (by omega)]
        simp only [hnames]
        by_cases hhinamed : rom.NamesLayout 0xFFD5
        · simp [hnamed, hhigh, hhinamed]
        · simp [hnamed, hhigh, hhinamed]
      · rw [rom.deref_outside hrom 0 0xFFD5 (by omega)]
        simp [hnamed, hhigh]
  · rw [rom.deref_outside hrom 0 0x7FD5 (by omega), if_neg hlow]
    rfl

end Probe

end SNESROM

end SnesDisasm
