import SnesDisasm.Address.Mapping
import SnesDisasm.Load.Header
import SnesDisasm.Load.Selection

/-!
# Interrupt vectors through the address map

The CPU reads its vectors at the end of bank 0, where the selected header lies under one layout.
-/

namespace SnesDisasm
open FixedWidth SNESROMHeader

namespace SNESROM

def headerPlace : AddressClass → Nat
  | .LoROMAddress => 0x7FC0
  | .HiROMAddress => 0xFFC0

/-- The selected header lies at the place of the layout. -/
def ReadingLayout (rom : SNESROM) (layout : AddressClass) : Prop :=
  PointsAt rom (headerPlace layout)

def vectorAddress (layout : AddressClass) : InterruptVector → ROMAddress
  | .native vector => .ofBank layout 0 (UInt16.ofNat (0xFFE4 + 2 * vector.idx))
  | .emulation vector => .ofBank layout 0 (UInt16.ofNat (0xFFF4 + 2 * vector.idx))

/-- The destination is in bank 0, at the word that `operator[]` yields for the vector. -/
def VectorsMeet (rom : SNESROM) (layout : AddressClass) (vector : InterruptVector) : Prop :=
  ∃ dest low high, rom.header.getInterruptDest vector = .ok dest ∧ dest.bank = 0 ∧
    rom.readAt (vectorAddress layout vector) 0 = .ok low ∧
    rom.readAt ((vectorAddress layout vector).advance 1) 0 = .ok high ∧
    dest.bankAddress.toNat = low.toNat + 256 * high.toNat

@[simp] theorem vectorAddress_addressClass (layout : AddressClass) (vector : InterruptVector) :
    (vectorAddress layout vector).addressClass = layout := by
  cases vector <;> rfl

theorem vectorAddress_toNat (layout : AddressClass) (vector : InterruptVector) :
    (vectorAddress layout vector).m_Address.toNat = 0xFFC0 + vector.offset := by
  cases vector with
  | native vector => cases vector <;> rfl
  | emulation vector => cases vector <;> rfl

theorem headerPlace_eq (layout : AddressClass) {i : Nat} (hi : i < 64) :
    (0xFFC0 + i) % layout.decodedRange = headerPlace layout + i := by
  cases layout with
  | LoROMAddress =>
    rw [AddressClass.decodedRange, headerPlace]
    omega
  | HiROMAddress =>
    rw [AddressClass.decodedRange, headerPlace]
    omega

theorem romMapped_of_header {x : ROMAddress} {i : Nat} (hi : i < 64)
    (hx : x.m_Address.toNat = 0xFFC0 + i) : RomMapped x := by
  cases hclass : x.addressClass with
  | LoROMAddress =>
    rw [romMapped_lo_iff hclass, hx]
    omega
  | HiROMAddress =>
    rw [romMapped_hi_iff hclass, hx]
    omega

theorem headerPlace_fits {rom : SNESROM} (hsize : 0x10000 ≤ rom.headerlessSize)
    (layout : AddressClass) : headerPlace layout + 64 ≤ rom.headerlessSize := by
  cases layout with
  | LoROMAddress =>
    rw [headerPlace]
    omega
  | HiROMAddress =>
    rw [headerPlace]
    omega

section Reading

variable {rom : SNESROM} (hrom : Aligned rom) (hsize : 0x10000 ≤ rom.headerlessSize)
include hrom hsize

theorem readAt_header {x : ROMAddress} {i : Nat} (hi : i < 64)
    (hx : x.m_Address.toNat = 0xFFC0 + i) :
    rom.readAt x 0 = .ok (rom.imageByte (headerPlace x.addressClass + i)) := by
  have hfits := headerPlace_fits hsize x.addressClass
  obtain ⟨offset, hoffset, hvalue⟩ := toImageAddress_mapped (romMapped_of_header hi hx)
  rw [hx, headerPlace_eq x.addressClass hi] at hvalue
  rw [← hvalue]
  exact readAt_of_offset hrom offset hoffset (by omega)

theorem vectorsMeet_of_layout {layout : AddressClass} (hlayout : ReadingLayout rom layout)
    (vector : InterruptVector) : VectorsMeet rom layout vector := by
  have hoffset := vector.offset_lt
  have hheader : rom.header = ⟨some (rom.headerless.advance (headerPlace layout))⟩ :=
    congrArg SNESROMHeader.mk hlayout
  have hdest := getInterruptDest_eq hrom (headerPlace_fits hsize layout) vector
  rw [← hheader] at hdest
  have hlow := readAt_header hrom hsize (Nat.lt_of_succ_lt hoffset)
    (vectorAddress_toNat layout vector)
  have hhigh := readAt_header hrom hsize hoffset
    (x := (vectorAddress layout vector).advance 1) (by
      rw [ROMAddress.advance_toNat, vectorAddress_toNat]
      omega)
  rw [vectorAddress_addressClass] at hlow
  rw [ROMAddress.advance_addressClass, vectorAddress_addressClass] at hhigh
  refine ⟨_, _, _, hdest, ?_, hlow, hhigh, ?_⟩
  · have hlt := UInt16.toNat_lt
    rw [ROMAddress.bank_eq_iff, UInt16.toNat_toUInt32, Nat.div_eq_of_lt (hlt _)]
    rfl
  · have hlowlt := (rom.imageByte (headerPlace layout + vector.offset)).toNat_lt
    have hhighlt := (rom.imageByte (headerPlace layout + (vector.offset + 1))).toNat_lt
    rw [ROMAddress.bankAddress_toNat, UInt16.toNat_toUInt32, toNat_concat_bytes]
    omega

end Reading

/-- Under one layout the selected header has its place at `00:FFC0`, and every vector read by the
header is the one read through the address map. -/
theorem interrupt_vectors_meet (file : Bytes) (rom : SNESROM) (hload : load file = .ok rom)
    (hsize : 0x10000 ≤ file.length - file.length % 1024) (hheader : rom.header.isValid = true) :
    (∃ layout, ReadingLayout rom layout) ∧
      ∀ layout, ReadingLayout rom layout → ∀ vector, VectorsMeet rom layout vector := by
  rw [← headerlessSize_opened] at hsize
  obtain rfl := Except.ok.inj ((load_eq_loaded (load_accepted hload).1 hsize).symm.trans hload)
  constructor
  · obtain ⟨headerAddress, hselected⟩ := (loaded_isValid_iff file).mp hheader
    have hpoints := (pointsAt_loaded_iff file headerAddress).mpr hselected
    rcases (selectedHeader_like hselected).1 with rfl | rfl
    · exact ⟨.LoROMAddress, hpoints⟩
    · exact ⟨.HiROMAddress, hpoints⟩
  · intro layout hlayout vector
    exact vectorsMeet_of_layout aligned_loaded (by rwa [loaded_headerlessSize]) hlayout vector

theorem interrupt_vectors_meet_candidates :
    (∃ layout, ReadingLayout (loaded (candidates 0x21 0)) layout) ∧
      ∀ layout, ReadingLayout (loaded (candidates 0x21 0)) layout →
        ∀ vector, VectorsMeet (loaded (candidates 0x21 0)) layout vector :=
  interrupt_vectors_meet (candidates 0x21 0) (loaded (candidates 0x21 0)) (load_candidates 0x21 0)
    (by rw [candidates_length])
    ((loaded_isValid_iff _).mpr ⟨0x7FC0, candidates_selected_low 0x21 0 (by decide)⟩)

end SNESROM

end SnesDisasm
