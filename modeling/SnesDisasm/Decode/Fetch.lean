import Mathlib.Tactic.IntervalCases
import SnesDisasm.Framework.FetchLoop
import SnesDisasm.Model.Instructions

/-!
# What the constructor of an instruction reads
-/

namespace SnesDisasm
open FetchLoop FixedWidth

theorem opCodeByteSize_bounds : ∀ op : UInt8,
    1 ≤ opCodeByteSize.entry op ∧ opCodeByteSize.entry op ≤ 4 := by
  apply forall_byte
  decide +kernel

theorem opCodeByteSize_immediate : ∀ op ∈ accumulatorImmediates ++ indexImmediates,
    opCodeByteSize.entry op = 2 := by
  decide +kernel

theorem immediates_disjoint : ∀ op ∈ accumulatorImmediates, op ∉ indexImmediates := by
  decide +kernel

namespace Instruction

theorem decodedSize_accumulator (state : MachineState) (op : UInt8)
    (h : op ∈ accumulatorImmediates) :
    decodedSize state op = if state.m_CPUState.areFlagsSet MEMORY_SELECT then 3 else 2 := by
  have hbase := opCodeByteSize_immediate op (List.mem_append_left _ h)
  have hother := immediates_disjoint op h
  simp only [decodedSize, hbase, h, hother, and_true, and_false, if_false]
  rfl

theorem decodedSize_index (state : MachineState) (op : UInt8) (h : op ∈ indexImmediates) :
    decodedSize state op = if state.m_CPUState.areFlagsSet INDEX_SELECT then 3 else 2 := by
  have hbase := opCodeByteSize_immediate op (List.mem_append_right _ h)
  have hother : op ∉ accumulatorImmediates := fun hacc => immediates_disjoint op hacc h
  simp only [decodedSize, hbase, h, hother, and_true, and_false, if_false]
  rfl

theorem decodedSize_other (state : MachineState) (op : UInt8)
    (hacc : op ∉ accumulatorImmediates) (hidx : op ∉ indexImmediates) :
    decodedSize state op = opCodeByteSize.entry op := by
  simp only [decodedSize, hacc, hidx, and_false, if_false]

theorem decodedSize_cases (state : MachineState) (op : UInt8) :
    decodedSize state op = 1 ∨ decodedSize state op = 2 ∨ decodedSize state op = 3 ∨
      decodedSize state op = 4 := by
  by_cases hacc : op ∈ accumulatorImmediates
  · rw [decodedSize_accumulator state op hacc]
    split <;> simp
  · by_cases hidx : op ∈ indexImmediates
    · rw [decodedSize_index state op hidx]
      split <;> simp
    · rw [decodedSize_other state op hacc hidx]
      obtain ⟨hlow, hhigh⟩ := opCodeByteSize_bounds op
      generalize opCodeByteSize.entry op = size at *
      simp only [UInt8.le_iff_toNat_le, ← UInt8.toNat_inj] at *
      simp at *
      omega

theorem decodedSize_pos (state : MachineState) (op : UInt8) :
    0 < (decodedSize state op).toNat := by
  rcases decodedSize_cases state op with h | h | h | h <;> simp [h]

theorem decodedSize_le_four (state : MachineState) (op : UInt8) :
    (decodedSize state op).toNat ≤ 4 := by
  rcases decodedSize_cases state op with h | h | h | h <;> simp [h]

theorem bytes_length_of_size {inst : Instruction} {state : MachineState} {op : UInt8}
    (h : inst.size = decodedSize state op) : inst.bytes.length = inst.size.toNat := by
  have hsize := decodedSize_le_four state op
  simp only [bytes, List.length_take, List.length_cons, List.length_nil, h]
  omega

/-- What a successful construction has read, with the size it decided on. -/
structure Decoded (state : MachineState) (data : BytePtr) (inst : Instruction) : Prop where
  opCode : data 0 = .ok inst.m_OpCode
  size_eq : inst.size = decodedSize state inst.m_OpCode
  bytes_read : ∀ (i : Nat) (h : i < inst.bytes.length), data i = .ok inst.bytes[i]

theorem switch_passes (state : MachineState) (op : UInt8) :
    (decodedSize state op == 4) = decide (3 < (decodedSize state op).toNat) ∧
      (decodedSize state op == 4 || decodedSize state op == 3) =
        decide (2 < (decodedSize state op).toNat) ∧
      (decodedSize state op == 4 || decodedSize state op == 3 || decodedSize state op == 2) =
        decide (1 < (decodedSize state op).toNat) := by
  rcases decodedSize_cases state op with h | h | h | h <;> rw [h] <;> decide

/-- A construction in full: the opcode, and the operand bytes below the size. -/
theorem fetch_ok_iff {state : MachineState} {data : BytePtr} {inst : Instruction} :
    fetch state data = .ok inst ↔
      data 0 = .ok inst.m_OpCode ∧ inst.m_Size = decodedSize state inst.m_OpCode ∧
        operand (1 < inst.m_Size.toNat) data 1 = .ok inst.m_Argument.at1 ∧
        operand (2 < inst.m_Size.toNat) data 2 = .ok inst.m_Argument.at2 ∧
        operand (3 < inst.m_Size.toNat) data 3 = .ok inst.m_Argument.at3 := by
  simp only [fetch, bind_ok_iff]
  constructor
  · intro h
    obtain ⟨op, hop, at3, h3, at2, h2, at1, h1, hresult⟩ := h
    obtain rfl := Except.ok.inj hresult
    obtain ⟨hpass3, hpass2, hpass1⟩ := switch_passes state op
    rw [hpass3] at h3
    rw [hpass2] at h2
    rw [hpass1] at h1
    exact ⟨hop, rfl, h1, h2, h3⟩
  · intro h
    obtain ⟨hop, hsize, h1, h2, h3⟩ := h
    obtain ⟨hpass3, hpass2, hpass1⟩ := switch_passes state inst.m_OpCode
    rw [hsize, ← hpass1] at h1
    rw [hsize, ← hpass2] at h2
    rw [hsize, ← hpass3] at h3
    refine ⟨inst.m_OpCode, hop, inst.m_Argument.at3, h3, inst.m_Argument.at2, h2,
      inst.m_Argument.at1, h1, ?_⟩
    rw [← hsize]
    rfl

theorem operand_below {size : Nat} {data : BytePtr} {i : Nat} (hi : i < size) :
    operand (i < size) data i = data i := by
  rw [operand, if_pos (decide_eq_true hi)]

theorem operand_beyond {size : Nat} {data : BytePtr} {i : Nat} (hi : size ≤ i) :
    operand (i < size) data i = .ok 0 := by
  rw [operand, if_neg (by simpa using hi)]

theorem fetch_decoded {state : MachineState} {data : BytePtr} {inst : Instruction}
    (h : fetch state data = .ok inst) : Decoded state data inst := by
  obtain ⟨hop, hsize, h1, h2, h3⟩ := fetch_ok_iff.mp h
  refine ⟨hop, hsize, ?_⟩
  intro i hi
  have hbelow : i < inst.m_Size.toNat := Nat.lt_of_lt_of_eq hi (bytes_length_of_size hsize)
  have hfour := decodedSize_le_four state inst.m_OpCode
  rw [← hsize] at hfour
  have hi4 : i < 4 := by omega
  simp only [bytes, List.getElem_take]
  interval_cases i
  · exact hop
  · rwa [operand_below hbelow] at h1
  · rwa [operand_below hbelow] at h2
  · rwa [operand_below hbelow] at h3

theorem Decoded.bytes_length {state : MachineState} {data : BytePtr} {inst : Instruction}
    (h : Decoded state data inst) : inst.bytes.length = inst.size.toNat :=
  bytes_length_of_size h.size_eq

theorem operand_isOk {size : Nat} {data : BytePtr} {i : Nat}
    (h : i < size → ∃ byte, data i = .ok byte) : ∃ byte, operand (i < size) data i = .ok byte := by
  by_cases hi : i < size
  · rw [operand_below hi]
    exact h hi
  · exact ⟨0, operand_beyond (Nat.le_of_not_lt hi)⟩

theorem operand_congr {size : Nat} {data data' : BytePtr} {i : Nat}
    (h : i < size → data' i = data i) :
    operand (i < size) data' i = operand (i < size) data i := by
  by_cases hi : i < size
  · rw [operand_below hi, operand_below hi, h hi]
  · rw [operand_beyond (Nat.le_of_not_lt hi), operand_beyond (Nat.le_of_not_lt hi)]

theorem fetch_congr {state state' : MachineState} {data data' : BytePtr} {inst : Instruction}
    (h : fetch state data = .ok inst)
    (hsize : decodedSize state' inst.m_OpCode = decodedSize state inst.m_OpCode)
    (hread : ∀ i < inst.size.toNat, data' i = data i) : fetch state' data' = .ok inst := by
  obtain ⟨hop, hdecoded, h1, h2, h3⟩ := fetch_ok_iff.mp h
  have hpos : 0 < inst.size.toNat := by
    rw [size, hdecoded]
    exact decodedSize_pos state inst.m_OpCode
  rw [fetch_ok_iff]
  refine ⟨(hread 0 hpos).trans hop, hdecoded.trans hsize.symm, ?_, ?_, ?_⟩
  · exact (operand_congr (hread 1)).trans h1
  · exact (operand_congr (hread 2)).trans h2
  · exact (operand_congr (hread 3)).trans h3

theorem fetch_mono {state : MachineState} {data data' : BytePtr} {inst : Instruction}
    (hread : ∀ i byte, data i = .ok byte → data' i = .ok byte)
    (h : fetch state data = .ok inst) : fetch state data' = .ok inst := by
  have hdec := fetch_decoded h
  refine fetch_congr h rfl ?_
  intro i hi
  rw [← hdec.bytes_length] at hi
  rw [hdec.bytes_read i hi]
  exact hread i _ (hdec.bytes_read i hi)

/-- The constructor succeeds exactly when the counted bytes are readable. -/
theorem fetch_isOk_iff (state : MachineState) (data : BytePtr) :
    (∃ inst, fetch state data = .ok inst) ↔
      ∃ op, data 0 = .ok op ∧
        ∀ i < (decodedSize state op).toNat, ∃ byte, data i = .ok byte := by
  constructor
  · intro h
    rcases h with ⟨inst, h⟩
    have hdec := fetch_decoded h
    refine ⟨inst.m_OpCode, hdec.opCode, fun i hi => ?_⟩
    rw [← hdec.size_eq, ← hdec.bytes_length] at hi
    exact ⟨_, hdec.bytes_read i hi⟩
  · intro h
    rcases h with ⟨op, hop, hread⟩
    obtain ⟨at1, h1⟩ := operand_isOk (hread 1)
    obtain ⟨at2, h2⟩ := operand_isOk (hread 2)
    obtain ⟨at3, h3⟩ := operand_isOk (hread 3)
    exact ⟨⟨op, ⟨at1, at2, at3⟩, decodedSize state op⟩, fetch_ok_iff.mpr ⟨hop, rfl, h1, h2, h3⟩⟩

end Instruction

end SnesDisasm
