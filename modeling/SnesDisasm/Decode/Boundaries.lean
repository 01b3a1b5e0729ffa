import SnesDisasm.Decode.Fetch

/-!
# Instruction boundaries of a byte stream

The sweep is compared with a decoder that takes every length from the addressing mode. They part
at the opcodes `0x6A` and `0xD5`.
-/

namespace SnesDisasm
open FetchLoop FixedWidth

def streamAt (stream : Nat → UInt8) (offset : Nat) : BytePtr :=
  fun i => .ok (stream (offset + i))

def sweepOffset (state : MachineState) (stream : Nat → UInt8) : Nat → Except Fault Nat
  | 0 => .ok 0
  | k + 1 => do
      let offset ← sweepOffset state stream k
      let inst ← Instruction.fetch state (streamAt stream offset)
      return offset + inst.size.toNat

def WidthDependent (op : UInt8) : Prop := op ∈ accumulatorImmediates ∨ op ∈ indexImmediates

instance (op : UInt8) : Decidable (WidthDependent op) :=
  inferInstanceAs (Decidable (_ ∨ _))

def stackLength : Mnemonic → Option Nat
  | .PHA | .PHB | .PHD | .PHK | .PHP | .PHX | .PHY => some 1
  | .PLA | .PLB | .PLD | .PLP | .PLX | .PLY => some 1
  | .RTI | .RTS | .RTL => some 1
  | .BRK | .COP | .PEI => some 2
  | .PEA | .PER => some 3
  | _ => none

/-- The length that an addressing mode asks for; for `STACK` the mnemonic decides. -/
def modeLength (mnemonic : Mnemonic) : AddressingMode → Option Nat
  | .ACCUMULATOR | .IMPLIED => some 1
  | .IMMEDIATE | .RESERVED | .PROGRAMMCOUNTER_RELATIVE | .STACK_RELATIVE => some 2
  | .DIRECT | .DIRECT_INDEXED_WITH_X | .DIRECT_INDEXED_WITH_Y | .DIRECT_INDIRECT
  | .DIRECT_INDEXED_INDIRECT | .DIRECT_INDIRECT_INDEXED | .DIRECT_INDIRECT_LONG
  | .DIRECT_INDIRECT_INDEXED_LONG | .DIRECT_INDIRECT_INDEXED_WITH_Y
  | .DIRECT_INDIRECT_LONG_INDEXED_WITH_Y => some 2
  | .PROGRAMMCOUNTER_RELATIVE_LONG | .BLOCK_MOVE | .ABSOLUTE | .ABSOLUTE_INDEXED_WITH_X
  | .ABSOLUTE_INDEXED_WITH_Y | .ABSOLUTE_INDIRECT | .ABSOLUTE_INDIRECT_LONG
  | .ABSOLUTE_INDEXED_INDIRECT => some 3
  | .ABSOLUTE_LONG | .ABSOLUTE_INDEXED_LONG_WITH_X => some 4
  | .STACK => stackLength mnemonic
  | _ => none

def referenceLength (op : UInt8) : Option Nat :=
  modeLength (opCodes.entry op) (opCodeAddressingMode.entry op)

/-- The reference decoder, as long as it has lengths. -/
def referenceOffset (stream : Nat → UInt8) : Nat → Option Nat
  | 0 => some 0
  | k + 1 => do
      let offset ← referenceOffset stream k
      let length ← referenceLength (stream offset)
      return offset + length

/-- The opcodes at which the size table and the addressing modes disagree. -/
def misfiledOpCodes : List UInt8 := [0x6A, 0xD5]

theorem referenceLength_eq_iff : ∀ op : UInt8, ¬WidthDependent op →
    (referenceLength op = some (opCodeByteSize.entry op).toNat ↔ op ∉ misfiledOpCodes) := by
  apply forall_byte
  decide +kernel

theorem fetch_streamAt (state : MachineState) (stream : Nat → UInt8) (offset : Nat) :
    ∃ inst, Instruction.fetch state (streamAt stream offset) = .ok inst ∧
      inst.m_OpCode = stream offset ∧
      inst.size = Instruction.decodedSize state (stream offset) := by
  obtain ⟨inst, hinst⟩ := (Instruction.fetch_isOk_iff state (streamAt stream offset)).mpr
    ⟨stream offset, rfl, fun i _ => ⟨_, rfl⟩⟩
  have hdec := Instruction.fetch_decoded hinst
  have hop : inst.m_OpCode = stream offset := (Except.ok.inj hdec.opCode).symm
  exact ⟨inst, hinst, hop, by rw [hdec.size_eq, hop]⟩

theorem sweepOffset_succ {state : MachineState} {stream : Nat → UInt8} {k offset : Nat}
    (h : sweepOffset state stream k = .ok offset) :
    sweepOffset state stream (k + 1) =
      .ok (offset + (Instruction.decodedSize state (stream offset)).toNat) := by
  obtain ⟨inst, hinst, _, hsize⟩ := fetch_streamAt state stream offset
  rw [sweepOffset, bind_ok_iff]
  refine ⟨offset, h, ?_⟩
  rw [bind_ok_iff]
  exact ⟨inst, hinst, by rw [hsize]; rfl⟩

theorem decodedSize_of_fixed {state : MachineState} {op : UInt8}
    (h : ¬WidthDependent op) :
    Instruction.decodedSize state op = opCodeByteSize.entry op :=
  Instruction.decodedSize_other state op (fun ha => h (Or.inl ha)) (fun hi => h (Or.inr hi))

def tableOffset (stream : Nat → UInt8) : Nat → Nat
  | 0 => 0
  | k + 1 => tableOffset stream k + (opCodeByteSize.entry (stream (tableOffset stream k))).toNat

def FixedBefore (stream : Nat → UInt8) (k : Nat) : Prop :=
  ∀ j < k, ¬WidthDependent (stream (tableOffset stream j))

theorem fixedBefore_succ_iff {stream : Nat → UInt8} {k : Nat} :
    FixedBefore stream (k + 1) ↔
      FixedBefore stream k ∧ ¬WidthDependent (stream (tableOffset stream k)) := by
  constructor
  · intro h
    exact ⟨fun j hj => h j (Nat.lt_succ_of_lt hj), h k (Nat.lt_succ_self k)⟩
  · intro h j hj
    rcases Nat.lt_succ_iff_lt_or_eq.mp hj with hj | hj
    · exact h.1 j hj
    · rw [hj]
      exact h.2

theorem sweepOffset_eq_tableOffset (state : MachineState) {stream : Nat → UInt8} {k : Nat}
    (hfixed : FixedBefore stream k) :
    sweepOffset state stream k = .ok (tableOffset stream k) := by
  induction k with
  | zero => rfl
  | succ k ih =>
    obtain ⟨hbefore, hhere⟩ := fixedBefore_succ_iff.mp hfixed
    rw [sweepOffset_succ (ih hbefore), decodedSize_of_fixed hhere]
    rfl

theorem fixedBefore_iff_sweep (state : MachineState) (stream : Nat → UInt8) (k : Nat) :
    (∀ j < k, ∀ offset, sweepOffset state stream j = .ok offset →
      ¬WidthDependent (stream offset)) ↔ FixedBefore stream k := by
  induction k with
  | zero => simp [FixedBefore]
  | succ k ih =>
    constructor
    · intro h
      have hbefore := ih.mp fun j hj => h j (Nat.lt_succ_of_lt hj)
      have hoffset := sweepOffset_eq_tableOffset state hbefore
      exact fixedBefore_succ_iff.mpr ⟨hbefore, h k (Nat.lt_succ_self k) _ hoffset⟩
    · intro hfixed j hj offset hoffset
      have hbefore : FixedBefore stream j := fun i hi => hfixed i (Nat.lt_trans hi hj)
      rw [sweepOffset_eq_tableOffset state hbefore] at hoffset
      rw [← Except.ok.inj hoffset]
      exact hfixed j hj

/-- Both decoders meet the same offsets up to the first width-dependent immediate. -/
def BoundariesAgree (state : MachineState) (stream : Nat → UInt8) : Prop :=
  ∀ k, (∀ j < k, ∀ offset, sweepOffset state stream j = .ok offset →
      ¬WidthDependent (stream offset)) →
    ∃ offset, sweepOffset state stream k = .ok offset ∧ referenceOffset stream k = some offset

/-- No misfiled opcode stands where the size table leads before the first width-dependent
immediate. -/
def NoMisfiledOpCode (stream : Nat → UInt8) : Prop :=
  ∀ k, FixedBefore stream (k + 1) → stream (tableOffset stream k) ∉ misfiledOpCodes

theorem boundariesAgree_iff_reference (state : MachineState) (stream : Nat → UInt8) :
    BoundariesAgree state stream ↔
      ∀ k, FixedBefore stream k → referenceOffset stream k = some (tableOffset stream k) := by
  constructor
  · intro hagree k hfixed
    obtain ⟨offset, hcode, href⟩ := hagree k ((fixedBefore_iff_sweep state stream k).mpr hfixed)
    rw [sweepOffset_eq_tableOffset state hfixed] at hcode
    rw [href, Except.ok.inj hcode]
  · intro href k h
    have hfixed := (fixedBefore_iff_sweep state stream k).mp h
    exact ⟨_, sweepOffset_eq_tableOffset state hfixed, href k hfixed⟩

theorem referenceOffset_succ_iff {stream : Nat → UInt8} {k : Nat}
    (hhere : ¬WidthDependent (stream (tableOffset stream k)))
    (href : referenceOffset stream k = some (tableOffset stream k)) :
    referenceOffset stream (k + 1) = some (tableOffset stream (k + 1)) ↔
      stream (tableOffset stream k) ∉ misfiledOpCodes := by
  rw [← referenceLength_eq_iff _ hhere, referenceOffset, href]
  cases hlength : referenceLength (stream (tableOffset stream k)) with
  | none => simp [hlength]
  | some length => simp [hlength, tableOffset]

/-- The boundaries are those of the addressing modes exactly when neither `0x6A` nor `0xD5` is at a
boundary before the first width-dependent immediate. -/
theorem sweep_boundaries_agree_iff (state : MachineState) (stream : Nat → UInt8) :
    BoundariesAgree state stream ↔ NoMisfiledOpCode stream := by
  rw [boundariesAgree_iff_reference]
  constructor
  · intro href k hfixed
    obtain ⟨hbefore, hhere⟩ := fixedBefore_succ_iff.mp hfixed
    exact (referenceOffset_succ_iff hhere (href k hbefore)).mp (href (k + 1) hfixed)
  · intro hclean k hfixed
    induction k with
    | zero => rfl
    | succ k ih =>
      obtain ⟨hbefore, hhere⟩ := fixedBefore_succ_iff.mp hfixed
      exact (referenceOffset_succ_iff hhere (ih hbefore)).mpr (hclean k hfixed)

theorem sweep_boundaries_disagree_at_ror :
    ¬BoundariesAgree {} (fun i => if i = 0 then 0x6A else 0xEA) := by
  intro hagree
  obtain ⟨offset, hcode, href⟩ := hagree 1 (by
    intro j hj offset hoffset
    obtain rfl : j = 0 := by omega
    obtain rfl := Except.ok.inj hoffset
    decide)
  have hcode' : sweepOffset {} (fun i => if i = 0 then 0x6A else 0xEA) 1 = .ok 3 := by rfl
  have href' : referenceOffset (fun i => if i = 0 then 0x6A else 0xEA) 1 = some 1 := by rfl
  rw [hcode'] at hcode
  rw [href'] at href
  have h3 := Except.ok.inj hcode
  have h1 := Option.some.inj href
  omega

end SnesDisasm
