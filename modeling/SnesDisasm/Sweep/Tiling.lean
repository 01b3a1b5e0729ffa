import SnesDisasm.Address.Advance
import SnesDisasm.Load.Bounds
import SnesDisasm.Sweep.Cursor

/-!
# The bytes of a section

Inside a bank the cursor and its image offset advance together.
-/

namespace SnesDisasm
open FetchLoop

def SNESROM.headerlessBytes (rom : SNESROM) : Bytes :=
  rom.m_actualImageData.drop rom.m_headerlessImageData

private theorem eq_slice {l memory : Bytes} {position : Nat}
    (h : ∀ (i : Nat) (hi : i < l.length), memory[position + i]? = some l[i]) :
    l = (memory.drop position).take l.length := by
  apply List.ext_getElem?
  intro i
  by_cases hi : i < l.length
  · rw [List.getElem?_take_of_lt hi, List.getElem?_drop, h i hi, List.getElem?_eq_getElem hi]
  · rw [List.getElem?_eq_none (by omega), List.getElem?_eq_none (by rw [List.length_take]; omega)]

theorem fetchInstruction_bytes {disasm : Disasm} {pos next : ROMAddress} {inst : Instruction}
    {offset : ImageAddress}
    (h : fetchInstruction disasm.source disasm.m_State pos = .ok (inst, next))
    (hoffset : pos.toImageAddress = .ok offset) :
    inst.bytes =
      (disasm.m_ROM.headerlessBytes.drop offset.toNat).take inst.size.toNat := by
  obtain ⟨data, hdata, hinst, _⟩ := fetchInstruction_ok_iff.mp h
  obtain rfl := Except.ok.inj ((Disasm.source_eq hoffset).symm.trans hdata)
  have hdec := Instruction.fetch_decoded hinst
  have hslice := eq_slice fun i hi => (Pointer.deref_ok_iff _ _ _).mp (hdec.bytes_read i hi)
  rw [hdec.bytes_length, Pointer.advance_memory, Pointer.advance_offset] at hslice
  rw [SNESROM.headerlessBytes, List.drop_drop]
  exact hslice

theorem fetchInstruction_size_pos {rom : ByteSource} {state : MachineState}
    {pos next : ROMAddress} {inst : Instruction}
    (h : fetchInstruction rom state pos = .ok (inst, next)) : 0 < inst.size.toNat := by
  rw [(fetchInstruction_opCode h).2]
  exact codeSize_pos pos

theorem fetches_bytes {disasm : Disasm} {pos last : ROMAddress} {instructions : List Instruction}
    {offset : ImageAddress}
    (hrun : Fetches (fetchInstruction disasm.source disasm.m_State) pos instructions last)
    (hmapped : RomMapped pos) (hoffset : pos.toImageAddress = .ok offset)
    (hbank : pos.bankAddress.toNat + totalSize instructions ≤ 0x10000) :
    instructions.flatMap Instruction.bytes =
      (disasm.m_ROM.headerlessBytes.drop offset.toNat).take (totalSize instructions) := by
  induction hrun generalizing offset with
  | nil pos => simp
  | @cons pos next last inst rest head tail ih =>
    have hbytes := fetchInstruction_bytes head hoffset
    cases tail with
    | nil => simp [hbytes]
    | @cons _ next' _ inst' rest head' tail' =>
      have hpos := fetchInstruction_size_pos head'
      obtain ⟨_, _, _, rfl⟩ := fetchInstruction_ok_iff.mp head
      rw [totalSize_cons] at hbank
      -- there is a next instruction, so the cursor is still in the bank
      have hinside : pos.bankAddress.toNat + inst.size.toNat < 0x10000 := by
        rw [totalSize_cons] at hbank
        omega
      obtain ⟨hmapped', offset', hoffset', hvalue⟩ := advancesBy_in_bank hmapped hoffset hinside
      have hbank' : (pos.advance inst.size.toNat).bankAddress.toNat +
          totalSize (inst' :: rest) ≤ 0x10000 := by
        rw [ROMAddress.advance_bankAddress_toNat, Nat.mod_eq_of_lt hinside]
        omega
      have hrest := ih hmapped' hoffset' hbank'
      rw [List.flatMap_cons, hrest, hbytes, totalSize_cons inst, List.take_add, List.drop_drop,
        hvalue]

/-- A section that starts at a ROM-mapped address and stays in its bank consists of the image bytes
from its start on, without a gap or an overlap. -/
theorem section_tiles_image (disasm : Disasm) (store store' : AddressStore) (start : AddressRef)
    (maxInstructions : UInt32) (sec : Section) (offset : ImageAddress)
    (hrun : disasm.disasmUntilJump store start maxInstructions = .ok (sec, store'))
    (hmapped : RomMapped (store start))
    (hoffset : (store start).toImageAddress = .ok offset)
    (hbank : (store start).bankAddress.toNat + totalSize sec.instructions ≤ 0x10000)
    (himage : offset.toNat + totalSize sec.instructions ≤ disasm.m_ROM.headerlessSize) :
    sec.instructions.flatMap Instruction.bytes =
        (disasm.m_ROM.headerlessBytes.drop offset.toNat).take (totalSize sec.instructions) ∧
      (sec.instructions.flatMap Instruction.bytes).length = totalSize sec.instructions := by
  have hslice := fetches_bytes (disasmUntilJump_ok_iff.mp hrun).fetches hmapped hoffset hbank
  refine ⟨hslice, ?_⟩
  rw [hslice, List.length_take, List.length_drop, SNESROM.headerlessBytes, List.length_drop]
  unfold SNESROM.headerlessSize at himage
  omega

/-- `LDA` of an immediate with two bytes, `NOP`, `LDA` and `JMP`, from the offset 2 on. -/
def sampleDisasm : Disasm where
  m_ROM := .startingWith
    [0x60, 0x60, 0xA9, 0x12, 0x34, 0xEA, 0xAF, 0x00, 0x80, 0x7E, 0x4C, 0x00, 0x80]
  m_State := ⟨CPUState.setFlagRegister {} MEMORY_SELECT⟩

def sampleInstructions : List Instruction :=
  [⟨0xA9, ⟨0x12, 0x34, 0⟩, 3⟩, ⟨0xEA, {}, 1⟩, ⟨0xAF, ⟨0x00, 0x80, 0x7E⟩, 4⟩,
    ⟨0x4C, ⟨0x00, 0x80, 0⟩, 3⟩]

def sampleStore : AddressStore := fun _ => ⟨.LoROMAddress, 0x8002⟩

theorem sample_run :
    sampleDisasm.disasmUntilJump sampleStore 0 30 =
      .ok (⟨0, 0, sampleInstructions⟩,
        Function.update sampleStore 0 ⟨.LoROMAddress, 0x800D⟩) :=
  disasmUntilJump_eq.trans rfl

theorem sample_section_tiles_image :
    sampleInstructions.flatMap Instruction.bytes =
        (sampleDisasm.m_ROM.headerlessBytes.drop 2).take (totalSize sampleInstructions) ∧
      (sampleInstructions.flatMap Instruction.bytes).length = totalSize sampleInstructions := by
  have hsize : sampleDisasm.m_ROM.headerlessSize = 0x10000 :=
    SNESROM.headerlessSize_startingWith (by decide)
  exact section_tiles_image sampleDisasm sampleStore _ 0 30 ⟨0, 0, sampleInstructions⟩ 2 sample_run
    (by decide) (by decide) (by decide) (by rw [hsize]; decide)

end SnesDisasm
