import SnesDisasm.Decode.Fetch

/-!
# Decoding as a prefix code

The bytes of an instruction decode to it again, whatever follows them.
-/

namespace SnesDisasm

/-- The two flags that a construction tests. -/
def SameWidths (state state' : MachineState) : Prop :=
  state'.m_CPUState.areFlagsSet MEMORY_SELECT = state.m_CPUState.areFlagsSet MEMORY_SELECT ∧
    state'.m_CPUState.areFlagsSet INDEX_SELECT = state.m_CPUState.areFlagsSet INDEX_SELECT

def startOf (buffer : Bytes) : BytePtr := Pointer.deref ⟨buffer, 0⟩

theorem startOf_eq (buffer : Bytes) (i : Nat) (hi : i < buffer.length) :
    startOf buffer i = .ok buffer[i] := by
  have hread := Pointer.deref_of_lt ⟨buffer, 0⟩ i (by simpa using hi)
  rw [Nat.zero_add, List.getD_eq_getElem _ _ hi] at hread
  exact hread

namespace Instruction

def unusedArguments (inst : Instruction) : Bytes :=
  [inst.m_Argument.at1, inst.m_Argument.at2, inst.m_Argument.at3].drop (inst.size.toNat - 1)

/-- The instruction has taken its own bytes from the buffer and comes back from them under the same
widths. -/
structure ReEncodes (state : MachineState) (buffer : Bytes) (inst : Instruction) : Prop where
  size_pos : 1 ≤ inst.size.toNat
  size_le : inst.size.toNat ≤ 4
  bytes_eq : inst.bytes = buffer.take inst.size.toNat
  unused_zero : ∀ byte ∈ inst.unusedArguments, byte = 0
  decodes_again : ∀ (state' : MachineState) (rest : Bytes), SameWidths state state' →
    fetch state' (startOf (inst.bytes ++ rest)) = .ok inst

theorem decodedSize_of_sameWidths {state state' : MachineState} (h : SameWidths state state')
    (op : UInt8) : decodedSize state' op = decodedSize state op := by
  rw [decodedSize, decodedSize, h.1, h.2]

theorem fetch_append {state state' : MachineState} {data : BytePtr} {inst : Instruction}
    (h : fetch state data = .ok inst) (hwidths : SameWidths state state') (rest : Bytes) :
    fetch state' (startOf (inst.bytes ++ rest)) = .ok inst := by
  have hdec := fetch_decoded h
  refine fetch_congr h (decodedSize_of_sameWidths hwidths _) ?_
  intro i hi
  rw [← hdec.bytes_length] at hi
  have hlength : i < (inst.bytes ++ rest).length := by
    rw [List.length_append]
    omega
  rw [startOf_eq _ i hlength, List.getElem_append_left hi, hdec.bytes_read i hi]

theorem unusedArguments_zero {state : MachineState} {data : BytePtr} {inst : Instruction}
    (h : fetch state data = .ok inst) : ∀ byte ∈ inst.unusedArguments, byte = 0 := by
  obtain ⟨_, hsize, h1, h2, h3⟩ := fetch_ok_iff.mp h
  have hbeyond {i : Nat} {byte : UInt8} (hi : inst.m_Size.toNat ≤ i)
      (hread : operand (i < inst.m_Size.toNat) data i = .ok byte) : byte = 0 :=
    Except.ok.inj (hread.symm.trans (operand_beyond hi))
  intro byte hbyte
  obtain ⟨i, hi, rfl⟩ := List.mem_iff_getElem.mp hbyte
  simp only [unusedArguments, size, List.getElem_drop, List.length_drop, List.length_cons,
    List.length_nil] at hi ⊢
  obtain ⟨j, hj⟩ : ∃ j, j = inst.m_Size.toNat - 1 + i := ⟨_, rfl⟩
  have hunread : inst.m_Size.toNat ≤ j + 1 := by omega
  have hj3 : j < 3 := by omega
  simp only [← hj]
  interval_cases j
  · exact hbeyond hunread h1
  · exact hbeyond hunread h2
  · exact hbeyond hunread h3

theorem fetch_reEncodes {state : MachineState} {buffer : Bytes} {inst : Instruction}
    (h : fetch state (startOf buffer) = .ok inst) (hlength : 4 ≤ buffer.length) :
    ReEncodes state buffer inst := by
  have hdec := fetch_decoded h
  have hle := decodedSize_le_four state inst.m_OpCode
  rw [← hdec.size_eq] at hle
  refine ⟨?_, hle, ?_, unusedArguments_zero h, fun state' rest hwidths => fetch_append h hwidths rest⟩
  · rw [hdec.size_eq]
    exact decodedSize_pos state inst.m_OpCode
  · apply List.ext_getElem
    · rw [hdec.bytes_length, List.length_take]
      omega
    · intro i hi hi'
      have hbuffer : i < buffer.length := by
        rw [List.length_take] at hi'
        omega
      have hread := hdec.bytes_read i hi
      rw [startOf_eq buffer i hbuffer] at hread
      rw [List.getElem_take]
      exact (Except.ok.inj hread).symm

/-- Decoding a buffer of at least four bytes succeeds, and re-encoding undoes it. -/
theorem decoding_re_encodes (state : MachineState) (buffer : Bytes) (hlength : 4 ≤ buffer.length) :
    ∃ inst, fetch state (startOf buffer) = .ok inst ∧ ReEncodes state buffer inst := by
  have hread (i : Nat) (hi : i < 4) : ∃ byte, startOf buffer i = .ok byte :=
    ⟨_, startOf_eq buffer i (by omega)⟩
  obtain ⟨op, hop⟩ := hread 0 (by decide)
  obtain ⟨inst, hinst⟩ := (fetch_isOk_iff state (startOf buffer)).mpr ⟨op, hop, fun i hi =>
    hread i (Nat.lt_of_lt_of_le hi (decodedSize_le_four state op))⟩
  exact ⟨inst, hinst, fetch_reEncodes hinst hlength⟩

theorem decoding_re_encodes_lda :
    ∃ inst, fetch {} (startOf [0xA9, 0x12, 0x60, 0x60]) = .ok inst ∧
      ReEncodes {} [0xA9, 0x12, 0x60, 0x60] inst :=
  decoding_re_encodes {} [0xA9, 0x12, 0x60, 0x60] (by decide)

end Instruction

end SnesDisasm
