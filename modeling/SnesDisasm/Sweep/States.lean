import SnesDisasm.Framework.TwoRuns
import SnesDisasm.Sweep.Cursor

/-!
# Sweeps under different machine states

Only the two width flags reach the decoder, and only at immediates.
-/

namespace SnesDisasm
open FetchLoop

/-- The opcode is an immediate whose width flag the two states have differently. -/
def Distinguishes (state state' : MachineState) (op : UInt8) : Prop :=
  (op ∈ accumulatorImmediates ∧ state.m_CPUState.areFlagsSet MEMORY_SELECT ≠
      state'.m_CPUState.areFlagsSet MEMORY_SELECT) ∨
    (op ∈ indexImmediates ∧ state.m_CPUState.areFlagsSet INDEX_SELECT ≠
      state'.m_CPUState.areFlagsSet INDEX_SELECT)

theorem immediateSize_eq_iff (wide wide' : Bool) :
    (if wide then (3 : UInt8) else 2) = (if wide' then 3 else 2) ↔ wide = wide' := by
  cases wide <;> cases wide' <;> decide

theorem decodedSize_eq_iff (state state' : MachineState) (op : UInt8) :
    Instruction.decodedSize state op = Instruction.decodedSize state' op ↔
      ¬Distinguishes state state' op := by
  by_cases hacc : op ∈ accumulatorImmediates
  · have hother := immediates_disjoint op hacc
    rw [Instruction.decodedSize_accumulator state op hacc,
      Instruction.decodedSize_accumulator state' op hacc, immediateSize_eq_iff]
    simp [Distinguishes, hacc, hother]
  · by_cases hidx : op ∈ indexImmediates
    · rw [Instruction.decodedSize_index state op hidx, Instruction.decodedSize_index state' op hidx,
        immediateSize_eq_iff]
      simp [Distinguishes, hacc, hidx]
    · rw [Instruction.decodedSize_other state op hacc hidx,
        Instruction.decodedSize_other state' op hacc hidx]
      simp [Distinguishes, hacc, hidx]

section Sweeps

variable {rom : ByteSource} {state state' : MachineState}

theorem fetchInstruction_eq_iff {pos next next' : ROMAddress} {ins ins' : Instruction}
    (hfetch : fetchInstruction rom state pos = .ok (ins, next))
    (hfetch' : fetchInstruction rom state' pos = .ok (ins', next')) :
    ins.m_OpCode = ins'.m_OpCode ∧
      (ins = ins' ↔ ¬Distinguishes state state' ins.m_OpCode) := by
  obtain ⟨data, hdata, hinst, _⟩ := fetchInstruction_ok_iff.mp hfetch
  obtain ⟨data', hdata', hinst', _⟩ := fetchInstruction_ok_iff.mp hfetch'
  obtain rfl := Except.ok.inj (hdata.symm.trans hdata')
  have hdec := Instruction.fetch_decoded hinst
  have hdec' := Instruction.fetch_decoded hinst'
  have hop : ins.m_OpCode = ins'.m_OpCode := Except.ok.inj (hdec.opCode.symm.trans hdec'.opCode)
  refine ⟨hop, ?_⟩
  rw [← decodedSize_eq_iff]
  constructor
  · rintro rfl
    exact hdec.size_eq.symm.trans hdec'.size_eq
  · intro hsize
    have hagain := Instruction.fetch_congr hinst hsize.symm fun _ _ => rfl
    exact Except.ok.inj (hagain.symm.trans hinst')

theorem fetchInstruction_coupled :
    Coupled (fetchInstruction rom state) (fetchInstruction rom state') Eq := by
  intro pos _ ins next next' hpos hfetch hfetch'
  obtain ⟨_, _, _, hnext⟩ := fetchInstruction_ok_iff.mp hfetch
  obtain ⟨_, _, _, hnext'⟩ := fetchInstruction_ok_iff.mp hfetch'
  rw [hnext, hnext', hpos]

end Sweeps

/-- Sweeps under two states find the same instructions exactly when none is an immediate whose width
flag the states have differently. Otherwise they agree up to the first such immediate. -/
theorem sections_part_at_immediates (rom : ByteSource) (state state' : MachineState)
    (store after after' : AddressStore) (start : AddressRef) (maxInstructions : UInt32)
    (sec sec' : Section) (hrun : disasmUntilJump rom state store start maxInstructions = .ok (sec, after))
    (hrun' : disasmUntilJump rom state' store start maxInstructions = .ok (sec', after')) :
    (sec.instructions = sec'.instructions ↔
        ∀ ins ∈ sec.instructions, ¬Distinguishes state state' ins.m_OpCode) ∧
      (sec.instructions ≠ sec'.instructions → ∃ front ins ins' rest rest',
        sec.instructions = front ++ ins :: rest ∧ sec'.instructions = front ++ ins' :: rest' ∧
          (∀ shared ∈ front, ¬Distinguishes state state' shared.m_OpCode) ∧
          Distinguishes state state' ins.m_OpCode ∧ ins.m_OpCode = ins'.m_OpCode ∧
          ins.size ≠ ins'.size) := by
  have hswept := disasmUntilJump_ok_iff.mp hrun
  have hswept' := disasmUntilJump_ok_iff.mp hrun'
  have hshared : ∀ ins ∈ sec.instructions, ins ∈ sec'.instructions →
      ¬Distinguishes state state' ins.m_OpCode := by
    intro ins hins hins'
    rw [← decodedSize_eq_iff]
    exact (hswept.sized ins hins).symm.trans (hswept'.sized ins hins')
  rcases hswept.fetches.part fetchInstruction_coupled hswept'.fetches rfl hswept.completed
    hswept'.completed with ⟨hsame, _⟩ | hpart
  · refine ⟨⟨?_, fun _ => hsame⟩, fun hne => absurd hsame hne⟩
    intro _ ins hins
    exact hshared ins hins (hsame ▸ hins)
  · obtain ⟨front, ins, ins', rest, rest', pos, next, _, next', hsec, hsec', hne, rfl, hfetch,
      hfetch'⟩ := hpart
    obtain ⟨hop, hsame⟩ := fetchInstruction_eq_iff hfetch hfetch'
    have hdistinct : Distinguishes state state' ins.m_OpCode := by
      by_contra hnot
      exact hne (hsame.mpr hnot)
    have hins : ins ∈ sec.instructions := by rw [hsec]; simp
    have hins' : ins' ∈ sec'.instructions := by rw [hsec']; simp
    constructor
    · constructor
      · intro hequal
        rw [hsec, hsec'] at hequal
        exact absurd (List.cons.inj (List.append_cancel_left hequal)).1 hne
      · intro hnone
        exact absurd hdistinct (hnone ins hins)
    · intro _
      refine ⟨front, ins, ins', rest, rest', hsec, hsec', ?_, hdistinct, hop, ?_⟩
      · intro shared hmem
        exact hshared shared (by rw [hsec]; exact List.mem_append_left _ hmem)
          (by rw [hsec']; exact List.mem_append_left _ hmem)
      · intro hsize
        rw [hswept.sized ins hins, hswept'.sized ins' hins', ← hop] at hsize
        exact (decodedSize_eq_iff state state' _).mp hsize hdistinct

theorem sections_part_at_lda :
    ∃ sec sec' after after',
      disasmUntilJump (fun _ => .ok fun _ => .ok 0xA9) {} (fun _ => ⟨.LoROMAddress, 0x8000⟩) 0 1 =
        .ok (sec, after) ∧
      disasmUntilJump (fun _ => .ok fun _ => .ok 0xA9) ⟨CPUState.setFlagRegister {} MEMORY_SELECT⟩
        (fun _ => ⟨.LoROMAddress, 0x8000⟩) 0 1 = .ok (sec', after') ∧
      (sec.instructions = sec'.instructions ↔ ∀ ins ∈ sec.instructions,
        ¬Distinguishes {} ⟨CPUState.setFlagRegister {} MEMORY_SELECT⟩ ins.m_OpCode) := by
  refine ⟨_, _, _, _, rfl, rfl, ?_⟩
  exact (sections_part_at_immediates (fun _ => .ok fun _ => .ok 0xA9) {}
    ⟨CPUState.setFlagRegister {} MEMORY_SELECT⟩ (fun _ => ⟨.LoROMAddress, 0x8000⟩) _ _ 0 1 _ _ rfl
    rfl).1

end SnesDisasm
