import Mathlib.Logic.Relation
import SnesDisasm.Load.Bounds
import SnesDisasm.Sweep.Cursor

/-!
# Control transfers inside a section

`isJump` recognises twelve of the twenty-one opcodes that transfer control.
-/

namespace SnesDisasm
open FetchLoop FixedWidth

def ControlTransfer : Mnemonic → Bool
  | .BPL | .BMI | .BVC | .BVS | .BCC | .BCS | .BNE | .BEQ | .BRA | .BRL => true
  | .JMP | .JSR | .RTS | .RTL | .RTI => true
  | _ => false

/-- RTI, BVC, RTS, RTL, BVS, BRL, BCC, BCS and BEQ, which `isJump` leaves out. -/
def missedJumps : List UInt8 := [0x40, 0x50, 0x60, 0x6B, 0x70, 0x82, 0x90, 0xB0, 0xF0]

theorem controlTransfer_iff : ∀ op : UInt8,
    ControlTransfer (opCodes.entry op) = true ↔ op ∈ jumpOpCodes ∨ op ∈ missedJumps := by
  apply forall_byte
  decide +kernel

theorem missedJumps_not_recognised : ∀ op ∈ missedJumps, op ∉ jumpOpCodes := by
  decide +kernel

def FallsThrough (rom : ByteSource) (state : MachineState) (pos next : ROMAddress) : Prop :=
  ControlTransfer (opCodes.entry (opCodeAt rom pos)) = false ∧ next = codeStep rom state pos

/-- Only the last instruction may transfer control. -/
structure StraightLine (rom : ByteSource) (state : MachineState) (start : ROMAddress)
    (sec : Section) : Prop where
  no_transfer : ∀ inst ∈ sec.instructions.dropLast, ControlTransfer inst.mnemonic = false
  falls_through : ∀ i < sec.instructions.length,
    Relation.ReflTransGen (FallsThrough rom state) start (codeAddress rom state start i)

def NoMissedJump (rom : ByteSource) (state : MachineState) (start : ROMAddress)
    (maxInstructions : UInt32) : Prop :=
  ∀ k, k + 1 < maxInstructions.toNat → CodeReached rom state start maxInstructions k →
    opCodeAt rom (codeAddress rom state start k) ∉ missedJumps

section Run

variable {rom : ByteSource} {state : MachineState} {store store' : AddressStore}
  {start : AddressRef} {maxInstructions : UInt32} {sec : Section}

theorem Swept.followed_iff (h : Swept rom state store start maxInstructions sec store') (k : Nat) :
    k + 1 < sec.instructions.length ↔ k + 1 < maxInstructions.toNat ∧
      CodeReached rom state (store start) maxInstructions k ∧
      opCodeAt rom (codeAddress rom state (store start) k) ∉ jumpOpCodes := by
  rw [← h.reached_iff]
  exact reached_succ_iff

theorem Swept.mnemonic_eq (h : Swept rom state store start maxInstructions sec store') {k : Nat}
    (hk : k < sec.instructions.length) :
    sec.instructions[k].mnemonic =
      opCodes.entry (opCodeAt rom (codeAddress rom state (store start) k)) := by
  rw [Instruction.mnemonic, (fetchInstruction_opCode (h.fetched hk)).1]

private theorem Swept.no_transfer (h : Swept rom state store start maxInstructions sec store')
    (hnone : NoMissedJump rom state (store start) maxInstructions) {k : Nat}
    (hk : k + 1 < sec.instructions.length) :
    ControlTransfer (opCodes.entry (opCodeAt rom (codeAddress rom state (store start) k))) =
      false := by
  obtain ⟨hlimit, hreached, hrecognised⟩ := (h.followed_iff k).mp hk
  have hmissed := hnone k hlimit hreached
  rw [← Bool.not_eq_true, controlTransfer_iff]
  exact not_or.mpr ⟨hrecognised, hmissed⟩

theorem Swept.straightLine_iff (h : Swept rom state store start maxInstructions sec store') :
    StraightLine rom state (store start) sec ↔
      NoMissedJump rom state (store start) maxInstructions := by
  constructor
  · intro hstraight k hlimit hreached hmissed
    have hunrecognised := missedJumps_not_recognised _ hmissed
    have hnext := (h.followed_iff k).mpr ⟨hlimit, hreached, hunrecognised⟩
    have hk : k < sec.instructions.length := Nat.lt_of_succ_lt hnext
    have hmem : sec.instructions[k] ∈ sec.instructions.dropLast := by
      rw [List.mem_iff_getElem]
      exact ⟨k, by rw [List.length_dropLast]; omega, List.getElem_dropLast ..⟩
    have hfalse := hstraight.no_transfer _ hmem
    rw [h.mnemonic_eq hk, (controlTransfer_iff _).mpr (Or.inr hmissed)] at hfalse
    cases hfalse
  · intro hnone
    refine ⟨?_, ?_⟩
    · intro inst hinst
      obtain ⟨k, hk, rfl⟩ := List.mem_iff_getElem.mp hinst
      rw [List.length_dropLast] at hk
      rw [List.getElem_dropLast, h.mnemonic_eq (by omega)]
      exact h.no_transfer hnone (by omega)
    · intro i hi
      induction i with
      | zero => exact .refl
      | succ i ih =>
        have hbefore := ih (Nat.lt_of_succ_lt hi)
        refine hbefore.tail ⟨h.no_transfer hnone hi, ?_⟩
        rw [codeAddress_succ]

end Run

/-- A returned section is straight-line code exactly when it has no missed jump before the last
instruction. -/
theorem section_straight_line_iff (disasm : Disasm) (store store' : AddressStore)
    (start : AddressRef) (maxInstructions : UInt32) (sec : Section)
    (hrun : disasm.disasmUntilJump store start maxInstructions = .ok (sec, store')) :
    StraightLine disasm.source disasm.m_State (store start) sec ↔
      NoMissedJump disasm.source disasm.m_State (store start) maxInstructions :=
  (disasmUntilJump_ok_iff.mp hrun).straightLine_iff

private theorem returns_run :
    Disasm.disasmUntilJump ⟨.uniform 0x60, {}⟩ (fun _ => ⟨.LoROMAddress, 0x8000⟩) 0 2 =
      .ok (⟨0, 0, [⟨0x60, {}, 1⟩, ⟨0x60, {}, 1⟩]⟩, Function.update
        (Function.update (fun _ => ⟨.LoROMAddress, 0x8000⟩) 0 ⟨.LoROMAddress, 0x8001⟩) 0
        ⟨.LoROMAddress, 0x8002⟩) := rfl

theorem returns_straight_line_iff :
    StraightLine (Disasm.source ⟨.uniform 0x60, {}⟩) {} ⟨.LoROMAddress, 0x8000⟩
        ⟨0, 0, [⟨0x60, {}, 1⟩, ⟨0x60, {}, 1⟩]⟩ ↔
      NoMissedJump (Disasm.source ⟨.uniform 0x60, {}⟩) {} ⟨.LoROMAddress, 0x8000⟩ 2 :=
  section_straight_line_iff ⟨.uniform 0x60, {}⟩ _ _ 0 2 _ returns_run

theorem returns_not_straight_line :
    SNESROM.load (List.replicate 0x10000 0x60) = .ok (.uniform 0x60) ∧
      ∃ sec store', Disasm.disasmUntilJump ⟨.uniform 0x60, {}⟩
          (fun _ => ⟨.LoROMAddress, 0x8000⟩) 0 2 = .ok (sec, store') ∧
        ¬StraightLine (Disasm.source ⟨.uniform 0x60, {}⟩) {} ⟨.LoROMAddress, 0x8000⟩ sec := by
  refine ⟨SNESROM.load_uniform (by decide), _, _, returns_run, ?_⟩
  intro hstraight
  have hfirst := hstraight.no_transfer ⟨0x60, {}, 1⟩ (by decide)
  exact absurd hfirst (by decide)

end SnesDisasm
