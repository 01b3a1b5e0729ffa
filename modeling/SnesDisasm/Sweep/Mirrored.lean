import SnesDisasm.Address.Mapping
import SnesDisasm.Framework.TwoRuns
import SnesDisasm.Load.Selection
import SnesDisasm.Sweep.Tiling

/-!
# Sweeps that cannot be told apart

Only the low bits of an address reach the image, 15 for LoROM and 22 for HiROM. An instruction at
the end of this range takes up to three bytes beyond it.
-/

namespace SnesDisasm
open FetchLoop

/-- Addresses of one class with the same low bits. -/
structure Mirrored (x y : ROMAddress) : Prop where
  class_eq : x.addressClass = y.addressClass
  low_eq : x.m_Address.toNat % x.addressClass.decodedRange =
    y.m_Address.toNat % x.addressClass.decodedRange

/-- The images agree on all instructions that begin in the decoded range, the last of which may take
three bytes more. -/
def SharesRange (rom rom' : SNESROM) (addressClass : AddressClass) : Prop :=
  ∀ offset < addressClass.decodedRange + 3, ∀ byte byte',
    rom.headerless.deref offset = .ok byte → rom'.headerless.deref offset = .ok byte' → byte = byte'

theorem Mirrored.advance {x y : ROMAddress} (h : Mirrored x y) (n : Nat) :
    Mirrored (x.advance n) (y.advance n) := by
  have hlow := h.low_eq
  refine ⟨h.class_eq, ?_⟩
  rw [ROMAddress.advance_addressClass, ROMAddress.advance_toNat, ROMAddress.advance_toNat]
  cases hclass : x.addressClass with
  | LoROMAddress =>
    simp only [hclass, AddressClass.decodedRange] at hlow ⊢
    omega
  | HiROMAddress =>
    simp only [hclass, AddressClass.decodedRange] at hlow ⊢
    omega

theorem AddressClass.decodedRange_pos (addressClass : AddressClass) :
    0 < addressClass.decodedRange := by
  cases addressClass <;> decide

section Fetch

variable {disasm disasm' : Disasm} {x y next next' : ROMAddress} {inst inst' : Instruction}

theorem fetched_from_low (hlength : disasm.m_ROM.m_actualImageData.length < 2^32)
    (hfetch : fetchInstruction disasm.source disasm.m_State x = .ok (inst, next)) :
    Instruction.fetch disasm.m_State (disasm.m_ROM.headerless.advance
        (x.m_Address.toNat % x.addressClass.decodedRange)).deref = .ok inst ∧
      next = x.advance inst.size.toNat := by
  obtain ⟨data, hdata, hinst, hnext⟩ := fetchInstruction_ok_iff.mp hfetch
  refine ⟨?_, hnext⟩
  obtain ⟨image, himage, rfl⟩ := Disasm.source_ok hdata
  have hdecoded := (toImageAddress_ok_iff x image).mp himage
  by_cases hram : x.bank = 0x7E ∨ x.bank = 0x7F
  · rw [if_pos hram] at hdecoded
    have hfirst := (Instruction.fetch_decoded hinst).opCode
    have hinside := (Pointer.deref_isOk_iff _ 0).mp ⟨_, hfirst⟩
    have hsentinel : ramSentinel.toNat = 2^32 - 1 := rfl
    simp only [Pointer.advance_offset, Pointer.advance_memory, SNESROM.headerless, hdecoded,
      hsentinel] at hinside
    omega
  · rw [if_neg hram] at hdecoded
    rw [← hdecoded.2]
    exact hinst

theorem Instruction.fetch_agree {state : MachineState} {data data' : BytePtr}
    (hinst : Instruction.fetch state data = .ok inst)
    (hinst' : Instruction.fetch state data' = .ok inst')
    (hbytes : ∀ i < 4, ∀ byte byte', data i = .ok byte → data' i = .ok byte' → byte = byte') :
    inst = inst' := by
  have hdec := Instruction.fetch_decoded hinst
  have hdec' := Instruction.fetch_decoded hinst'
  have hop := hbytes 0 (by decide) _ _ hdec.opCode hdec'.opCode
  have hsize : inst.size = inst'.size := by rw [hdec.size_eq, hdec'.size_eq, hop]
  have hfour := Instruction.decodedSize_le_four state inst.m_OpCode
  rw [← hdec.size_eq] at hfour
  have hcongr : Instruction.fetch state data' = .ok inst := by
    apply Instruction.fetch_congr hinst rfl
    intro i hi
    have hread := hdec.bytes_read i (by rwa [hdec.bytes_length])
    have hread' := hdec'.bytes_read i (by rwa [hdec'.bytes_length, ← hsize])
    rw [hread, hread', hbytes i (by omega) _ _ hread hread']
  exact Except.ok.inj (hcongr.symm.trans hinst')

theorem fetchInstruction_agree (hstate : disasm.m_State = disasm'.m_State)
    (hlength : disasm.m_ROM.m_actualImageData.length < 2^32)
    (hlength' : disasm'.m_ROM.m_actualImageData.length < 2^32) {addressClass : AddressClass}
    (hshares : SharesRange disasm.m_ROM disasm'.m_ROM addressClass) :
    Agree (fetchInstruction disasm.source disasm.m_State)
      (fetchInstruction disasm'.source disasm'.m_State)
      (fun x y => x.addressClass = addressClass ∧ Mirrored x y) := by
  have hitem {x y next next' : ROMAddress} {inst inst' : Instruction}
      (hrelated : x.addressClass = addressClass ∧ Mirrored x y)
      (hx : fetchInstruction disasm.source disasm.m_State x = .ok (inst, next))
      (hy : fetchInstruction disasm'.source disasm'.m_State y = .ok (inst', next')) :
      inst = inst' ∧ next = x.advance inst.size.toNat ∧ next' = y.advance inst'.size.toNat := by
    obtain ⟨hinst, hnext⟩ := fetched_from_low hlength hx
    obtain ⟨hinst', hnext'⟩ := fetched_from_low hlength' hy
    refine ⟨?_, hnext, hnext'⟩
    rw [← hrelated.2.class_eq, ← hrelated.2.low_eq, ← hstate] at hinst'
    apply Instruction.fetch_agree hinst hinst'
    intro i hi byte byte' hbyte hbyte'
    have hlow := Nat.mod_lt x.m_Address.toNat x.addressClass.decodedRange_pos
    refine hshares (x.m_Address.toNat % x.addressClass.decodedRange + i) ?_ byte byte' ?_ ?_
    · rw [← hrelated.1]
      omega
    · rw [Pointer.deref_ok_iff] at hbyte ⊢
      rwa [Pointer.advance_offset, Nat.add_assoc] at hbyte
    · rw [Pointer.deref_ok_iff] at hbyte' ⊢
      rwa [Pointer.advance_offset, Nat.add_assoc] at hbyte'
  constructor
  · intro x y inst inst' next next' hrelated hx hy
    exact (hitem hrelated hx hy).1
  · intro x y inst next next' hrelated hx hy
    obtain ⟨_, rfl, rfl⟩ := hitem hrelated hx hy
    exact ⟨hrelated.1, hrelated.2.advance _⟩

end Fetch

/-- In images that agree up to three bytes beyond the end of the decoded range, sweeps from starts
with the same low bits that both return find the same instructions, and leave their cursors at
addresses with the same low bits. -/
theorem mirrored_sweeps_agree (disasm disasm' : Disasm) (store store' after after' : AddressStore)
    (start start' : AddressRef) (maxInstructions : UInt32) (sec sec' : Section)
    (hstate : disasm.m_State = disasm'.m_State)
    (hlength : disasm.m_ROM.m_actualImageData.length < 2^32)
    (hlength' : disasm'.m_ROM.m_actualImageData.length < 2^32)
    (hshares : SharesRange disasm.m_ROM disasm'.m_ROM (store start).addressClass)
    (hmirrored : Mirrored (store start) (store' start'))
    (hrun : disasm.disasmUntilJump store start maxInstructions = .ok (sec, after))
    (hrun' : disasm'.disasmUntilJump store' start' maxInstructions = .ok (sec', after')) :
    sec.instructions = sec'.instructions ∧ Mirrored (after start) (after' start') := by
  have hswept := disasmUntilJump_ok_iff.mp hrun
  have hswept' := disasmUntilJump_ok_iff.mp hrun'
  have hagree := fetchInstruction_agree hstate hlength hlength' hshares
  obtain ⟨hsame, _, hend⟩ := hswept.fetches.agree hagree hswept'.fetches ⟨rfl, hmirrored⟩
    hswept.completed hswept'.completed
  refine ⟨hsame, ?_⟩
  rw [hswept.store_eq, hswept'.store_eq, Function.update_self, Function.update_self]
  exact hend

/-- The sample image with another byte behind the decoded range. -/
private def changedDisasm : Disasm :=
  { sampleDisasm with
    m_ROM := { sampleDisasm.m_ROM with
      m_actualImageData := sampleDisasm.m_ROM.m_actualImageData.set 0x8003 0xFF } }

private theorem changed_run :
    changedDisasm.disasmUntilJump (fun _ => ⟨.LoROMAddress, 0x18002⟩) 1 30 =
      .ok (⟨1, 1, sampleInstructions⟩,
        Function.update (fun _ => ⟨.LoROMAddress, 0x18002⟩) 1 ⟨.LoROMAddress, 0x1800D⟩) :=
  disasmUntilJump_eq.trans rfl

private theorem sample_sharesRange :
    SharesRange sampleDisasm.m_ROM changedDisasm.m_ROM .LoROMAddress := by
  intro offset hoffset byte byte' hbyte hbyte'
  rw [Pointer.deref_ok_iff] at hbyte hbyte'
  have hbelow : offset < 0x8003 := hoffset
  have hchanged : 0 + offset ≠ 0x8003 := by omega
  have hsame := List.getElem?_set_ne (l := sampleDisasm.m_ROM.m_actualImageData) (a := 0xFF)
    hchanged.symm
  exact Option.some.inj (hbyte.symm.trans (hsame.symm.trans hbyte'))

theorem mirrored_sweeps_agree_sample :
    ∃ sec sec' after after',
      sampleDisasm.disasmUntilJump sampleStore 0 30 = .ok (sec, after) ∧
      changedDisasm.disasmUntilJump (fun _ => ⟨.LoROMAddress, 0x18002⟩) 1 30 =
        .ok (sec', after') ∧
      sec.instructions = sec'.instructions ∧ Mirrored (after 0) (after' 1) := by
  have hlength : sampleDisasm.m_ROM.m_actualImageData.length < 2^32 := by
    rw [sampleDisasm, SNESROM.startingWith, List.length_append, List.length_replicate]
    decide
  have hlength' : changedDisasm.m_ROM.m_actualImageData.length < 2^32 := by
    rwa [changedDisasm, List.length_set]
  exact ⟨_, _, _, _, sample_run, changed_run,
    mirrored_sweeps_agree sampleDisasm changedDisasm sampleStore
      (fun _ => ⟨.LoROMAddress, 0x18002⟩) _ _ 0 1 30 _ _ rfl hlength hlength' sample_sharesRange
      ⟨rfl, by decide⟩ sample_run changed_run⟩

end SnesDisasm
