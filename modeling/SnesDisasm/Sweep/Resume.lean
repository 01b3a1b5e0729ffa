import SnesDisasm.Sweep.Cursor

/-!
# Interrupting and resuming a sweep
-/

namespace SnesDisasm
open FetchLoop

/-- A ROM with a byte at every index behind every address. -/
def totalSource (rom : ROMAddress → Nat → UInt8) : ByteSource :=
  fun address => .ok fun i => .ok (rom address i)

/-- The sweep with limit `m + n` is the one with limit `m`, followed by one with limit `n` from its
end, in whatever object that address is held, unless it has ended with a jump. -/
def Resumes (rom : ByteSource) (state : MachineState) (store : AddressStore) (start : AddressRef)
    (m n : UInt32) : Prop :=
  ∃ first store₁ whole store₂,
    disasmUntilJump rom state store start m = .ok (first, store₁) ∧
    disasmUntilJump rom state store start (m + n) = .ok (whole, store₂) ∧
    Completed Instruction.isJump m.toNat first.instructions ∧
    Completed Instruction.isJump (m.toNat + n.toNat) whole.instructions ∧
    if stopped Instruction.isJump first.instructions = true then
      whole.instructions = first.instructions ∧ store₂ whole.end_ = store₁ first.end_
    else
      ∀ (store' : AddressStore) (start' : AddressRef), store' start' = store₁ first.end_ →
        ∃ rest store₃,
          disasmUntilJump rom state store' start' n = .ok (rest, store₃) ∧
          Completed Instruction.isJump n.toNat rest.instructions ∧
          whole.instructions = first.instructions ++ rest.instructions ∧
          store₂ whole.end_ = store₃ rest.end_

theorem fetchUntil_total (rom : ROMAddress → Nat → UInt8) (state : MachineState) (n : Nat)
    (pos : ROMAddress) :
    ∃ instructions last, fetchUntil (fetchInstruction (totalSource rom) state)
      Instruction.isJump n pos = .ok (instructions, last) := by
  have hok : ∃ r, fetchUntil (fetchInstruction (totalSource rom) state)
      Instruction.isJump n pos = .ok r := by
    rw [fetchUntil_isOk_iff]
    intro instructions last _ _ _
    rw [fetchInstruction_isOk_iff]
    exact ⟨_, rfl, fun i _ => ⟨_, rfl⟩⟩
  obtain ⟨⟨instructions, last⟩, hloop⟩ := hok
  exact ⟨instructions, last, hloop⟩

theorem disasmUntilJump_of_loop {source : ByteSource} {state : MachineState}
    {store : AddressStore} {start : AddressRef} {maxInstructions : UInt32}
    {instructions : List Instruction} {last : ROMAddress}
    (hloop : fetchUntil (fetchInstruction source state) Instruction.isJump
      maxInstructions.toNat (store start) = .ok (instructions, last)) :
    disasmUntilJump source state store start maxInstructions =
      .ok (⟨start, start, instructions⟩, Function.update store start last) := by
  rw [disasmUntilJump_eq, hloop]
  rfl

theorem sweep_resumes (rom : ROMAddress → Nat → UInt8) (state : MachineState)
    (store : AddressStore) (start : AddressRef) (m n : UInt32)
    (hmn : m.toNat + n.toNat < 2^32) : Resumes (totalSource rom) state store start m n := by
  have hsum : (m + n).toNat = m.toNat + n.toNat := by
    rw [UInt32.toNat_add, Nat.mod_eq_of_lt hmn]
  obtain ⟨front, middle, hfront⟩ := fetchUntil_total rom state m.toNat (store start)
  have hfirst := disasmUntilJump_of_loop hfront
  have hfrontDone := (fetchUntil_ok_iff.mp hfront).2
  obtain ⟨back, last, hback⟩ := fetchUntil_total rom state n.toNat middle
  cases hstopped : stopped Instruction.isJump front with
  | true =>
    have hwhole := fetchUntil_add_of_stopped hfront hstopped n.toNat
    have hwholeDone := (fetchUntil_ok_iff.mp hwhole).2
    rw [← hsum] at hwhole
    refine ⟨_, _, _, _, hfirst, disasmUntilJump_of_loop hwhole, hfrontDone, hwholeDone, ?_⟩
    rw [if_pos hstopped]
    exact ⟨rfl, rfl⟩
  | false =>
    have hwhole := fetchUntil_add_of_running hfront hstopped hback
    have hwholeDone := (fetchUntil_ok_iff.mp hwhole).2
    rw [← hsum] at hwhole
    refine ⟨_, _, _, _, hfirst, disasmUntilJump_of_loop hwhole, hfrontDone, hwholeDone, ?_⟩
    rw [if_neg (by rw [hstopped]; exact Bool.false_ne_true)]
    intro store' start' hresume
    rw [Function.update_self] at hresume
    subst hresume
    refine ⟨_, _, disasmUntilJump_of_loop hback, (fetchUntil_ok_iff.mp hback).2, rfl, ?_⟩
    rw [Function.update_self, Function.update_self]

theorem sweep_resumes_after_one :
    Resumes (totalSource fun _ _ => 0xEA) {} (fun _ => ⟨.LoROMAddress, 0x8000⟩) 0 1 2 :=
  sweep_resumes (fun _ _ => 0xEA) {} (fun _ => ⟨.LoROMAddress, 0x8000⟩) 0 1 2 (by decide)

end SnesDisasm
