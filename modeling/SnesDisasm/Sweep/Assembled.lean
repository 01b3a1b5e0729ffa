import SnesDisasm.Decode.Prefix
import SnesDisasm.Sweep.Tiling

/-!
# Sections as parses of the image

Inside a bank a section is determined by the bytes of its instructions.
-/

namespace SnesDisasm
open FetchLoop

namespace Instruction

def arguments (inst : Instruction) : Bytes :=
  [inst.m_Argument.at1, inst.m_Argument.at2, inst.m_Argument.at3]

/-- Of the size of its opcode, with nothing in the argument fields behind its bytes. -/
structure Assembled (state : MachineState) (inst : Instruction) : Prop where
  sized : Sized state inst
  unused_zero : ∀ byte ∈ inst.unusedArguments, byte = 0

section Bytes

variable {state : MachineState} {data : BytePtr} {inst : Instruction}

theorem Assembled.bytes_length (h : Assembled state inst) : inst.bytes.length = inst.size.toNat :=
  bytes_length_of_size h.sized

theorem Assembled.size_pos (h : Assembled state inst) : 0 < inst.size.toNat := by
  rw [h.sized]
  exact decodedSize_pos state inst.m_OpCode

theorem Assembled.operand_eq (h : Assembled state inst)
    (hread : ∀ (i : Nat) (hi : i < inst.bytes.length), data i = .ok inst.bytes[i]) (j : Nat)
    (hj : j < inst.arguments.length) :
    operand (j + 1 < inst.m_Size.toNat) data (j + 1) = .ok inst.arguments[j] := by
  by_cases hbelow : j + 1 < inst.m_Size.toNat
  · have hi : j + 1 < inst.bytes.length := by
      rw [h.bytes_length]
      exact hbelow
    rw [operand_below hbelow, hread (j + 1) hi]
    simp only [bytes, arguments, List.getElem_take, List.getElem_cons_succ]
  · have hbehind : inst.size.toNat - 1 + (j - (inst.size.toNat - 1)) = j := by
      change ¬j + 1 < inst.size.toNat at hbelow
      omega
    have hunused : inst.arguments[j] ∈ inst.unusedArguments := by
      refine List.mem_drop_iff_getElem.mpr ⟨j - (inst.size.toNat - 1), ?_, ?_⟩
      · rwa [Nat.add_comm, hbehind]
      · simp only [hbehind]
        rfl
    rw [operand_beyond (Nat.le_of_not_lt hbelow), h.unused_zero _ hunused]

theorem fetch_ok_iff_bytes :
    fetch state data = .ok inst ↔ Assembled state inst ∧
      ∀ (i : Nat) (hi : i < inst.bytes.length), data i = .ok inst.bytes[i] := by
  constructor
  · intro h
    have hdec := fetch_decoded h
    exact ⟨⟨hdec.size_eq, unusedArguments_zero h⟩, hdec.bytes_read⟩
  · intro h
    obtain ⟨hassembled, hread⟩ := h
    have hfirst : 0 < inst.bytes.length := by
      rw [hassembled.bytes_length]
      exact hassembled.size_pos
    have hop : inst.bytes[0] = inst.m_OpCode := by
      simp only [bytes, List.getElem_take, List.getElem_cons_zero]
    have hthree : inst.arguments.length = 3 := rfl
    have hoperand := hassembled.operand_eq hread
    refine fetch_ok_iff.mpr ⟨?_, hassembled.sized, hoperand 0 (by omega), hoperand 1 (by omega),
      hoperand 2 (by omega)⟩
    rw [hread 0 hfirst, hop]

end Bytes

end Instruction

section Bank

variable {disasm : Disasm}

theorem fetchInstruction_of_bytes {pos : ROMAddress} {offset : ImageAddress} {inst : Instruction}
    (hassembled : inst.Assembled disasm.m_State) (hoffset : pos.toImageAddress = .ok offset)
    (hbytes : inst.bytes <+: disasm.m_ROM.headerlessBytes.drop offset.toNat) :
    fetchInstruction disasm.source disasm.m_State pos =
      .ok (inst, pos.advance inst.size.toNat) := by
  refine fetchInstruction_ok_iff.mpr ⟨_, Disasm.source_eq hoffset, ?_, rfl⟩
  refine Instruction.fetch_ok_iff_bytes.mpr ⟨hassembled, ?_⟩
  intro i hi
  obtain ⟨rest, hrest⟩ := hbytes
  rw [Pointer.deref_ok_iff, Pointer.advance_memory, Pointer.advance_offset]
  have hbyte := congrArg (fun l => l[i]?) hrest
  simp only [List.getElem?_append_left hi, List.getElem?_eq_getElem hi, SNESROM.headerlessBytes,
    List.getElem?_drop] at hbyte
  rw [Nat.add_assoc]
  exact hbyte.symm

theorem fetches_of_bytes {pos : ROMAddress} {offset : ImageAddress}
    {instructions : List Instruction}
    (hassembled : ∀ inst ∈ instructions, inst.Assembled disasm.m_State)
    (hmapped : RomMapped pos) (hoffset : pos.toImageAddress = .ok offset)
    (hbank : pos.bankAddress.toNat + totalSize instructions ≤ 0x10000)
    (hbytes : instructions.flatMap Instruction.bytes <+:
      disasm.m_ROM.headerlessBytes.drop offset.toNat) :
    Fetches (fetchInstruction disasm.source disasm.m_State) pos instructions
      (pos.advance (totalSize instructions)) := by
  induction instructions generalizing pos offset with
  | nil =>
    rw [totalSize_nil, ROMAddress.advance_zero]
    exact .nil pos
  | cons inst rest ih =>
    have hfirst := hassembled inst List.mem_cons_self
    have hothers : ∀ inst ∈ rest, inst.Assembled disasm.m_State := fun inst hinst =>
      hassembled inst (List.mem_cons_of_mem _ hinst)
    rw [List.flatMap_cons] at hbytes
    have hhead := fetchInstruction_of_bytes hfirst hoffset
      ((List.prefix_append _ _).trans hbytes)
    rw [totalSize_cons, ← ROMAddress.advance_advance]
    refine .cons hhead ?_
    cases rest with
    | nil =>
      rw [totalSize_nil, ROMAddress.advance_zero]
      exact .nil _
    | cons inst' rest =>
      -- there is a next instruction, so the cursor is still in the bank
      have hnext := (hothers inst' List.mem_cons_self).size_pos
      rw [totalSize_cons, totalSize_cons] at hbank
      have hinside : pos.bankAddress.toNat + inst.size.toNat < 0x10000 := by omega
      obtain ⟨hmapped', offset', hoffset', hvalue⟩ := advancesBy_in_bank hmapped hoffset hinside
      apply ih hothers hmapped' hoffset'
      · rw [ROMAddress.advance_bankAddress_toNat, Nat.mod_eq_of_lt hinside, totalSize_cons]
        omega
      · obtain ⟨tail, htail⟩ := hbytes
        refine ⟨tail, ?_⟩
        rw [hvalue, ← List.drop_drop, ← htail, List.append_assoc,
          List.drop_left' hfirst.bytes_length]

end Bank

/-- A sweep returns a list of instructions that fits in the bank exactly if they are assembled, the
list is no longer than the limit, none but its last one is a jump, it is shorter than the limit only
if that is one, and its bytes are those of the image from the start on. -/
theorem section_is_parse_iff (disasm : Disasm) (store : AddressStore) (start : AddressRef)
    (maxInstructions : UInt32) (instructions : List Instruction) (offset : ImageAddress)
    (hmapped : RomMapped (store start)) (hoffset : (store start).toImageAddress = .ok offset)
    (hbank : (store start).bankAddress.toNat + totalSize instructions ≤ 0x10000) :
    disasm.disasmUntilJump store start maxInstructions =
        .ok (⟨start, start, instructions⟩,
          Function.update store start ((store start).advance (totalSize instructions))) ↔
      (∀ inst ∈ instructions, inst.Assembled disasm.m_State) ∧
        Completed Instruction.isJump maxInstructions.toNat instructions ∧
        instructions.flatMap Instruction.bytes <+:
          disasm.m_ROM.headerlessBytes.drop offset.toNat := by
  constructor
  · intro hrun
    have hswept := disasmUntilJump_ok_iff.mp hrun
    refine ⟨?_, hswept.completed, ?_⟩
    · intro inst hinst
      obtain ⟨i, hi, rfl⟩ := List.mem_iff_getElem.mp hinst
      obtain ⟨_, _, hfetch, _⟩ := fetchInstruction_ok_iff.mp (hswept.fetched hi)
      exact (Instruction.fetch_ok_iff_bytes.mp hfetch).1
    · rw [fetches_bytes hswept.fetches hmapped hoffset hbank]
      exact List.take_prefix _ _
  · intro h
    obtain ⟨hassembled, hcompleted, hbytes⟩ := h
    have hfetches := fetches_of_bytes hassembled hmapped hoffset hbank hbytes
    have hend := hfetches.end_eq fetchInstruction_predicts
    rw [hend] at hfetches ⊢
    exact disasmUntilJump_ok_iff.mpr ⟨rfl, rfl, rfl, hfetches, hcompleted⟩

theorem sample_section_is_parse :
    (∀ inst ∈ sampleInstructions, inst.Assembled sampleDisasm.m_State) ∧
      Completed Instruction.isJump 30 sampleInstructions ∧
      sampleInstructions.flatMap Instruction.bytes <+:
        sampleDisasm.m_ROM.headerlessBytes.drop 2 :=
  (section_is_parse_iff sampleDisasm sampleStore 0 30 sampleInstructions 2 (by decide) (by decide)
    (by decide)).mp sample_run

end SnesDisasm
