import SnesDisasm.Load.Bounds

/-!
# Reading a header inside the image
-/

namespace SnesDisasm
open FetchLoop

namespace SNESROMHeader

def InterruptVector.offset : InterruptVector → Nat
  | .native vector => m_NativeInterruptVectorIndex + 2 * vector.idx
  | .emulation vector => m_EmulationInterruptVectorIndex + 2 * vector.idx

theorem InterruptVector.offset_lt (vector : InterruptVector) : vector.offset + 1 < 64 := by
  cases vector with
  | native vector => cases vector <;> decide
  | emulation vector => cases vector <;> decide

def addressClassOf (layoutByte : UInt8) : AddressClass :=
  if layoutByte &&& 0x01 != 0x01 then .LoROMAddress else .HiROMAddress

theorem getROMAddressObject_fromByteCode (layoutByte : UInt8) :
    getROMAddressObject (RomLayout.fromByteCode layoutByte) =
      .ok ⟨addressClassOf layoutByte, 0⟩ := by
  unfold RomLayout.fromByteCode addressClassOf
  split <;> rfl

theorem layout_eq {rom : SNESROM} (hrom : Aligned rom) {headerAddress : Nat}
    (hfits : headerAddress + 64 ≤ rom.headerlessSize) :
    layout ⟨some (rom.headerless.advance headerAddress)⟩ =
      .ok (RomLayout.fromByteCode (rom.imageByte (headerAddress + 21))) := by
  simp only [layout, nonNull, m_ROMLayoutIndex,
    rom.deref_inside hrom headerAddress 21 (by omega), bind, Except.bind, pure, Except.pure]

theorem getInterruptDest_eq {rom : SNESROM} (hrom : Aligned rom) {headerAddress : Nat}
    (hfits : headerAddress + 64 ≤ rom.headerlessSize) (vector : InterruptVector) :
    getInterruptDest ⟨some (rom.headerless.advance headerAddress)⟩ vector =
      .ok ⟨addressClassOf (rom.imageByte (headerAddress + 21)),
        (((rom.imageByte (headerAddress + (vector.offset + 1))).toUInt16 <<< 8) |||
          (rom.imageByte (headerAddress + vector.offset)).toUInt16).toUInt32⟩ := by
  have hoffset := vector.offset_lt
  have hread (i : Nat) (hi : i < 64) := rom.deref_inside hrom headerAddress i (by omega)
  have hdest : getInterruptDest ⟨some (rom.headerless.advance headerAddress)⟩ vector = (do
      let high ← (rom.headerless.advance headerAddress).deref (vector.offset + 1)
      let low ← (rom.headerless.advance headerAddress).deref vector.offset
      let layoutByte ← (rom.headerless.advance headerAddress).deref 21
      let result ← getROMAddressObject (RomLayout.fromByteCode layoutByte)
      result.setROMAddress ((high.toUInt16 <<< 8) ||| low.toUInt16).toUInt32) := by
    cases vector <;>
      simp only [getInterruptDest, interruptDest, layout, nonNull, bind_assoc, pure_bind,
        InterruptVector.offset, m_ROMLayoutIndex] <;> rfl
  rw [hdest, hread _ hoffset, hread _ (Nat.lt_of_succ_lt hoffset), hread 21 (by decide)]
  simp only [bind, Except.bind, getROMAddressObject_fromByteCode, ROMAddress.setROMAddress, pure,
    Except.pure]
  rw [assert_true]
  rw [UInt32.lt_iff_toNat_lt, UInt16.toNat_toUInt32]
  exact Nat.lt_of_lt_of_le (UInt16.toNat_lt _) (by decide)

end SNESROMHeader

end SnesDisasm
