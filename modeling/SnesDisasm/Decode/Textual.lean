import SnesDisasm.Decode.Fetch
import SnesDisasm.Framework.OutputStream
import SnesDisasm.Model.Stringify

/-!
# What the textual form keeps

A blank separates the words of the text and occurs in none of them.
-/

namespace SnesDisasm
open OutputStream

def Mnemonic.letters (mnemonic : Mnemonic) : Nat :=
  mnemonic.text.toList.foldl (fun n c => n * 0x100 + c.toNat) 0

/-- The mnemonics are listed in alphabetical order. -/
theorem Mnemonic.letters_lt_succ : ∀ i < 88,
    (Mnemonic.ofNat i).letters < (Mnemonic.ofNat (i + 1)).letters := by
  decide +kernel

theorem Mnemonic.letters_lt {i j : Nat} (hij : i < j) (hj : j < 89) :
    (Mnemonic.ofNat i).letters < (Mnemonic.ofNat j).letters := by
  induction j with
  | zero => omega
  | succ j ih =>
    have hlast := letters_lt_succ j (by omega)
    rcases Nat.lt_succ_iff_lt_or_eq.mp hij with hlt | rfl
    · exact Nat.lt_trans (ih hlt (by omega)) hlast
    · exact hlast

theorem Mnemonic.ctorIdx_lt (mnemonic : Mnemonic) : mnemonic.ctorIdx < 89 := by
  cases mnemonic <;> decide

theorem Mnemonic.text_injective : Function.Injective Mnemonic.text := by
  intro a b h
  have hletters : a.letters = b.letters := by
    rw [letters, letters, h]
  rw [← ofNat_ctorIdx a, ← ofNat_ctorIdx b] at hletters ⊢
  rcases Nat.lt_trichotomy a.ctorIdx b.ctorIdx with hlt | heq | hgt
  · exact absurd hletters (Nat.ne_of_lt (letters_lt hlt b.ctorIdx_lt))
  · rw [heq]
  · exact absurd hletters (Nat.ne_of_gt (letters_lt hgt a.ctorIdx_lt))

theorem Mnemonic.blank_not_mem_text (mnemonic : Mnemonic) : ' ' ∉ mnemonic.text.toList := by
  cases mnemonic <;> decide

theorem toHexStr_toList (s : UInt8) : (toHexStr s).toList = digits 16 false s.toNat := by
  simp [toHexStr, digits]

theorem readHex_toHexStr (s : UInt8) : readHex (toHexStr s).toList = s.toNat := by
  rw [toHexStr_toList, readHex_digits]

theorem blank_not_mem_toHexStr (s : UInt8) : ' ' ∉ (toHexStr s).toList := by
  rw [toHexStr_toList]
  exact not_mem_digits (by decide) (by decide) false s.toNat

theorem toHexStr_injective : Function.Injective fun s : UInt8 => (toHexStr s).toList := by
  intro s t h
  have hvalue := congrArg readHex h
  rw [readHex_toHexStr, readHex_toHexStr] at hvalue
  exact UInt8.toNat_inj.mp hvalue

namespace Instruction

def operands (inst : Instruction) : Bytes :=
  [inst.m_Argument.at1, inst.m_Argument.at2, inst.m_Argument.at3].take (inst.size.toNat - 1)

/-- The words of the textual form behind the mnemonic. -/
def operandWords (inst : Instruction) : List (List Char) :=
  if inst.size = 1 then []
  else inst.operands.map (fun s => (toHexStr s).toList) ++ ["(unknown".toList, "mode)".toList]

theorem stringify_toList {inst : Instruction} {state : MachineState} {op : UInt8}
    (hsize : inst.size = decodedSize state op) :
    inst.stringify.toList =
      [' '].intercalate (inst.mnemonic.text.toList :: inst.operandWords) := by
  have hcases := decodedSize_cases state op
  rw [← hsize] at hcases
  rcases hcases with h | h | h | h
  · simp [stringify, operandWords, h, mnemonic]
  · simp [stringify, operandWords, operands, Argument_t.toHexStr, h, mnemonic]
  · simp [stringify, operandWords, operands, Argument_t.toHexStr, h, mnemonic]
  · simp [stringify, operandWords, operands, Argument_t.toHexStr, h, mnemonic]

theorem blank_not_mem_words (inst : Instruction) :
    ∀ word ∈ inst.mnemonic.text.toList :: inst.operandWords, ' ' ∉ word := by
  intro word hword
  rcases List.mem_cons.mp hword with rfl | hword
  · exact inst.mnemonic.blank_not_mem_text
  · rw [operandWords] at hword
    split at hword
    · cases hword
    · rcases List.mem_append.mp hword with hoperand | hsuffix
      · obtain ⟨s, _, rfl⟩ := List.mem_map.mp hoperand
        exact blank_not_mem_toHexStr s
      · rcases List.mem_pair.mp hsuffix with rfl | rfl <;> decide

theorem words_of_stringify {inst : Instruction} {state : MachineState} {op : UInt8}
    (hsize : inst.size = decodedSize state op) :
    inst.stringify.toList.splitOn ' ' = inst.mnemonic.text.toList :: inst.operandWords := by
  rw [stringify_toList hsize]
  exact List.splitOn_intercalate ' ' inst.blank_not_mem_words (List.cons_ne_nil _ _)

theorem operands_length {inst : Instruction} {state : MachineState} {op : UInt8}
    (hsize : inst.size = decodedSize state op) :
    inst.operands.length + 1 = inst.size.toNat := by
  have hpos := decodedSize_pos state op
  have hle := decodedSize_le_four state op
  rw [← hsize] at hpos hle
  simp only [operands, List.length_take, List.length_cons, List.length_nil]
  omega

theorem operands_of_size_one {inst : Instruction} (h : inst.size = 1) : inst.operands = [] := by
  rw [operands, h]
  rfl

theorem operands_eq_of_words {inst inst' : Instruction}
    (h : inst.operandWords = inst'.operandWords) : inst.operands = inst'.operands := by
  have hmap : Function.Injective (List.map fun s : UInt8 => (toHexStr s).toList) :=
    List.map_injective_iff.mpr toHexStr_injective
  rw [operandWords, operandWords] at h
  by_cases hsize : inst.size = 1
  · by_cases hsize' : inst'.size = 1
    · rw [operands_of_size_one hsize, operands_of_size_one hsize']
    · rw [if_pos hsize, if_neg hsize'] at h
      simp at h
  · by_cases hsize' : inst'.size = 1
    · rw [if_neg hsize, if_pos hsize'] at h
      simp at h
    · rw [if_neg hsize, if_neg hsize'] at h
      exact hmap (List.append_cancel_right h)

/-- One text means one mnemonic, one size and the same operand bytes in order. -/
theorem stringify_keeps_operands (state₁ state₂ : MachineState) (data₁ data₂ : BytePtr)
    (inst₁ inst₂ : Instruction) (hinst₁ : fetch state₁ data₁ = .ok inst₁)
    (hinst₂ : fetch state₂ data₂ = .ok inst₂) (htext : inst₁.stringify = inst₂.stringify) :
    inst₁.mnemonic = inst₂.mnemonic ∧ inst₁.size = inst₂.size ∧
      inst₁.operands = inst₂.operands := by
  have hsize₁ := (fetch_decoded hinst₁).size_eq
  have hsize₂ := (fetch_decoded hinst₂).size_eq
  have hwords := words_of_stringify hsize₁
  rw [htext, words_of_stringify hsize₂] at hwords
  obtain ⟨hmnemonic, hrest⟩ := List.cons.inj hwords
  have hoperands : inst₁.operands = inst₂.operands :=
    operands_eq_of_words hrest.symm
  refine ⟨?_, ?_, hoperands⟩
  · exact (Mnemonic.text_injective (String.toList_injective hmnemonic)).symm
  · have hlength₁ := operands_length hsize₁
    have hlength₂ := operands_length hsize₂
    rw [hoperands] at hlength₁
    exact UInt8.toNat_inj.mp (hlength₁.symm.trans hlength₂)

/-- `LDA` with an immediate and from the direct page. -/
theorem stringify_keeps_operands_lda :
    mnemonic ⟨0xA9, ⟨0x12, 0, 0⟩, 2⟩ = mnemonic ⟨0xA5, ⟨0x12, 0, 0⟩, 2⟩ ∧
      size ⟨0xA9, ⟨0x12, 0, 0⟩, 2⟩ = size ⟨0xA5, ⟨0x12, 0, 0⟩, 2⟩ ∧
      operands ⟨0xA9, ⟨0x12, 0, 0⟩, 2⟩ = operands ⟨0xA5, ⟨0x12, 0, 0⟩, 2⟩ :=
  stringify_keeps_operands {} {} (Pointer.deref ⟨[0xA9, 0x12], 0⟩)
    (Pointer.deref ⟨[0xEA, 0xA5, 0x12, 0x60], 1⟩) ⟨0xA9, ⟨0x12, 0, 0⟩, 2⟩
    ⟨0xA5, ⟨0x12, 0, 0⟩, 2⟩ rfl rfl rfl

example : stringify ⟨0xAF, ⟨0x0A, 0xFF, 0⟩, 4⟩ = "LDA a ff 0 (unknown mode)" := by decide

end Instruction

end SnesDisasm
