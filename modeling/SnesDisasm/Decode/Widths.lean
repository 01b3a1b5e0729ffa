import SnesDisasm.Decode.Boundaries

/-!
# Immediate operands and register widths

The decoder adds the extra operand byte when a flag is set that means an 8-bit register.
-/

namespace SnesDisasm
open FetchLoop FixedWidth

namespace CPUState

def accumulatorWidth (state : CPUState) : Nat := if state.areFlagsSet MEMORY_SELECT then 1 else 2

def indexWidth (state : CPUState) : Nat := if state.areFlagsSet INDEX_SELECT then 1 else 2

end CPUState

/-- An immediate has the width of the register it loads, and any other size is the same under every
state. -/
structure WidthsMatch (state : MachineState) (inst : Instruction) : Prop where
  accumulator : inst.m_OpCode ∈ accumulatorImmediates →
    inst.size.toNat = 1 + state.m_CPUState.accumulatorWidth
  index : inst.m_OpCode ∈ indexImmediates → inst.size.toNat = 1 + state.m_CPUState.indexWidth
  other : ¬WidthDependent inst.m_OpCode →
    ∀ (state' : MachineState) (data : BytePtr) (inst' : Instruction),
      Instruction.fetch state' data = .ok inst' → inst'.m_OpCode = inst.m_OpCode →
        inst'.size = inst.size

def SweepWidthsMatch (state : MachineState) (stream : Nat → UInt8) : Prop :=
  ∀ k offset inst, sweepOffset state stream k = .ok offset →
    Instruction.fetch state (streamAt stream offset) = .ok inst → WidthsMatch state inst

theorem widthsMatch_iff {state : MachineState} {data : BytePtr} {inst : Instruction}
    (h : Instruction.fetch state data = .ok inst) :
    WidthsMatch state inst ↔ ¬WidthDependent inst.m_OpCode := by
  have hsize := (Instruction.fetch_decoded h).size_eq
  constructor
  · rintro hmatch (hacc | hidx)
    · have hwidth := hmatch.accumulator hacc
      rw [hsize, Instruction.decodedSize_accumulator state _ hacc,
        CPUState.accumulatorWidth] at hwidth
      split at hwidth <;> simp at hwidth
    · have hwidth := hmatch.index hidx
      rw [hsize, Instruction.decodedSize_index state _ hidx, CPUState.indexWidth] at hwidth
      split at hwidth <;> simp at hwidth
  · intro hfixed
    refine ⟨fun hacc => absurd (Or.inl hacc) hfixed, fun hidx => absurd (Or.inr hidx) hfixed, ?_⟩
    intro _ state' data' inst' h' hop
    rw [(Instruction.fetch_decoded h').size_eq, hsize, hop, decodedSize_of_fixed hfixed,
      decodedSize_of_fixed hfixed]

/-- The decoder and the register model agree on the widths exactly when no width-dependent immediate
is at a boundary. -/
theorem sweep_widths_match_iff (calls : List CPUState.FlagCall) (stream : Nat → UInt8) :
    SweepWidthsMatch ⟨CPUState.afterFlagCalls calls⟩ stream ↔
      ∀ k, ¬WidthDependent (stream (tableOffset stream k)) := by
  constructor
  · intro hmatch k
    have hfixed := (fixedBefore_iff_sweep ⟨CPUState.afterFlagCalls calls⟩ stream (k + 1)).mp (by
      intro j _ offset hoffset
      obtain ⟨inst, hinst, hop, _⟩ :=
        fetch_streamAt ⟨CPUState.afterFlagCalls calls⟩ stream offset
      rw [← hop]
      exact (widthsMatch_iff hinst).mp (hmatch j offset inst hoffset hinst))
    exact hfixed k (Nat.lt_succ_self k)
  · intro hfixed k offset inst hoffset hinst
    have hbefore : FixedBefore stream k := fun j _ => hfixed j
    rw [sweepOffset_eq_tableOffset _ hbefore] at hoffset
    have hop : stream offset = inst.m_OpCode :=
      Except.ok.inj (Instruction.fetch_decoded hinst).opCode
    rw [widthsMatch_iff hinst, ← hop, ← Except.ok.inj hoffset]
    exact hfixed k

theorem fresh_lda_width_mismatch :
    ¬SweepWidthsMatch ⟨CPUState.afterFlagCalls []⟩ (fun _ => 0xA9) := by
  intro hmatch
  have hfirst := (hmatch 0 0 ⟨0xA9, ⟨0xA9, 0, 0⟩, 2⟩ rfl rfl).accumulator (by decide)
  exact absurd hfirst (by decide)

end SnesDisasm
