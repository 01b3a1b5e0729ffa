import SnesDisasm.Decode.Fetch
import SnesDisasm.Framework.Passes
import SnesDisasm.Model.Disasm

/-!
# The cursor of a sweep

The addresses of straight-line code, and the sections that `disasmUntilJump` makes of it.
-/

namespace SnesDisasm
open FetchLoop

def opCodeAt (rom : ByteSource) (address : ROMAddress) : UInt8 :=
  match rom address >>= fun data => data 0 with
  | .ok op => op
  | .error _ => 0

def codeSize (rom : ByteSource) (state : MachineState) (address : ROMAddress) : Nat :=
  (Instruction.decodedSize state (opCodeAt rom address)).toNat

def codeStep (rom : ByteSource) (state : MachineState) (address : ROMAddress) : ROMAddress :=
  address.advance (codeSize rom state address)

/-- The address of instruction `k` of straight-line code from `start`. -/
def codeAddress (rom : ByteSource) (state : MachineState) (start : ROMAddress) (k : Nat) :
    ROMAddress :=
  (codeStep rom state)^[k] start

def codeLength (rom : ByteSource) (state : MachineState) (start : ROMAddress) : Nat → Nat
  | 0 => 0
  | k + 1 => codeLength rom state start k + codeSize rom state (codeAddress rom state start k)

def Jumps (rom : ByteSource) (address : ROMAddress) : Prop := opCodeAt rom address ∈ jumpOpCodes

/-- The code has an instruction `k` within the limit, and no jump of `isJump` comes before it. -/
def CodeReached (rom : ByteSource) (state : MachineState) (start : ROMAddress)
    (maxInstructions : UInt32) (k : Nat) : Prop :=
  Reached (codeStep rom state) (Jumps rom) maxInstructions.toNat start k

def totalSize (instructions : List Instruction) : Nat :=
  (instructions.map fun inst => inst.size.toNat).sum

@[simp] theorem totalSize_nil : totalSize [] = 0 := rfl

@[simp] theorem totalSize_cons (inst : Instruction) (instructions : List Instruction) :
    totalSize (inst :: instructions) = inst.size.toNat + totalSize instructions := by
  simp [totalSize]

@[simp] theorem totalSize_append (first second : List Instruction) :
    totalSize (first ++ second) = totalSize first + totalSize second := by
  simp [totalSize]

section Code

variable {rom : ByteSource} {state : MachineState}

@[simp] theorem codeAddress_zero (start : ROMAddress) : codeAddress rom state start 0 = start := rfl

theorem codeAddress_succ (start : ROMAddress) (k : Nat) :
    codeAddress rom state start (k + 1) = codeStep rom state (codeAddress rom state start k) :=
  Function.iterate_succ_apply' _ _ _

theorem codeAddress_eq_advance (start : ROMAddress) (k : Nat) :
    codeAddress rom state start k = start.advance (codeLength rom state start k) := by
  induction k with
  | zero => simp [codeLength]
  | succ k ih =>
    rw [codeAddress_succ, codeStep, codeLength]
    rw [← ROMAddress.advance_advance, ← ih]

theorem codeSize_pos (address : ROMAddress) : 0 < codeSize rom state address :=
  Instruction.decodedSize_pos _ _

theorem codeSize_le_four (address : ROMAddress) : codeSize rom state address ≤ 4 :=
  Instruction.decodedSize_le_four _ _

theorem codeLength_le (start : ROMAddress) (k : Nat) : codeLength rom state start k ≤ 4 * k := by
  induction k with
  | zero => rfl
  | succ k ih =>
    have hsize : codeSize rom state (codeAddress rom state start k) ≤ 4 := codeSize_le_four _
    rw [codeLength]
    omega

theorem fetchInstruction_ok_iff {pos next : ROMAddress} {inst : Instruction} :
    fetchInstruction rom state pos = .ok (inst, next) ↔
      ∃ data, rom pos = .ok data ∧ Instruction.fetch state data = .ok inst ∧
        next = pos.advance inst.size.toNat := by
  simp only [fetchInstruction, bind_ok_iff]
  constructor
  · intro h
    rcases h with ⟨data, hdata, inst', hinst, hresult⟩
    obtain ⟨rfl, rfl⟩ : inst' = inst ∧ pos.advance inst'.size.toNat = next := by
      simpa using Except.ok.inj hresult
    exact ⟨data, hdata, hinst, rfl⟩
  · intro h
    rcases h with ⟨data, hdata, hinst, rfl⟩
    exact ⟨data, hdata, inst, hinst, rfl⟩

theorem fetchInstruction_opCode {pos next : ROMAddress} {inst : Instruction}
    (h : fetchInstruction rom state pos = .ok (inst, next)) :
    inst.m_OpCode = opCodeAt rom pos ∧ inst.size.toNat = codeSize rom state pos := by
  obtain ⟨data, hdata, hinst, _⟩ := fetchInstruction_ok_iff.mp h
  have hdec := Instruction.fetch_decoded hinst
  have hop : inst.m_OpCode = opCodeAt rom pos := by
    simp only [opCodeAt, hdata, bind, Except.bind, hdec.opCode]
  exact ⟨hop, by rw [codeSize, ← hop, hdec.size_eq]⟩

theorem fetchInstruction_predicts :
    Predicts (fetchInstruction rom state) Instruction.isJump (codeStep rom state) (Jumps rom) where
  state_eq := by
    intro pos inst next h
    obtain ⟨_, hsize⟩ := fetchInstruction_opCode h
    obtain ⟨_, _, _, rfl⟩ := fetchInstruction_ok_iff.mp h
    rw [codeStep, hsize]
  stop_iff := by
    intro pos inst next h
    rw [Instruction.isJump, Jumps, (fetchInstruction_opCode h).1, decide_eq_true_iff]

theorem fetchInstruction_isOk_iff (pos : ROMAddress) :
    (∃ r, fetchInstruction rom state pos = .ok r) ↔
      ∃ data, rom pos = .ok data ∧ ∀ i < codeSize rom state pos, ∃ byte, data i = .ok byte := by
  constructor
  · intro h
    rcases h with ⟨⟨inst, next⟩, h⟩
    obtain ⟨data, hdata, hinst, _⟩ := fetchInstruction_ok_iff.mp h
    have hdec := Instruction.fetch_decoded hinst
    refine ⟨data, hdata, fun i hi => ?_⟩
    rw [← (fetchInstruction_opCode h).2, ← hdec.bytes_length] at hi
    exact ⟨_, hdec.bytes_read i hi⟩
  · intro h
    rcases h with ⟨data, hdata, hread⟩
    obtain ⟨op, hop⟩ := hread 0 (codeSize_pos pos)
    have hopCode : opCodeAt rom pos = op := by
      simp only [opCodeAt, hdata, bind, Except.bind, hop]
    rw [codeSize, hopCode] at hread
    obtain ⟨inst, hinst⟩ := (Instruction.fetch_isOk_iff state data).mpr ⟨op, hop, hread⟩
    exact ⟨_, fetchInstruction_ok_iff.mpr ⟨data, hdata, hinst, rfl⟩⟩

end Code

theorem Disasm.source_eq {disasm : Disasm} {pos : ROMAddress} {image : ImageAddress}
    (himage : pos.toImageAddress = .ok image) :
    disasm.source pos = .ok (disasm.m_ROM.headerless.advance image.toNat).deref := by
  rw [Disasm.source, SNESROM.index, himage]
  rfl

theorem Disasm.source_ok {disasm : Disasm} {pos : ROMAddress} {data : BytePtr}
    (hdata : disasm.source pos = .ok data) :
    ∃ image, pos.toImageAddress = .ok image ∧
      data = (disasm.m_ROM.headerless.advance image.toNat).deref := by
  cases himage : pos.toImageAddress with
  | error fault => simp [Disasm.source, SNESROM.index, himage, bind, Except.bind, Except.map] at hdata
  | ok image => exact ⟨image, rfl, Except.ok.inj (hdata.symm.trans (Disasm.source_eq himage))⟩

section Store

variable {rom : ByteSource} {state : MachineState} {store store' : AddressStore}
  {start : AddressRef} {maxInstructions : UInt32} {sec : Section}

theorem disasmUntilJump_eq :
    disasmUntilJump rom state store start maxInstructions =
      (fetchUntil (fetchInstruction rom state) Instruction.isJump maxInstructions.toNat
        (store start)).map fun (instructions, pos) =>
          (⟨start, start, instructions⟩, Function.update store start pos) := by
  have hloop := fetchUntil_component (fetchInstruction rom state) Instruction.isJump
    (fun store : AddressStore => store start) (fun store pos => Function.update store start pos)
    (fun _ _ => Function.update_self ..) (fun _ => Function.update_eq_self ..)
    (fun _ _ _ => Function.update_idem ..) maxInstructions.toNat store
  rw [disasmUntilJump, hloop]
  cases fetchUntil (fetchInstruction rom state) Instruction.isJump maxInstructions.toNat
    (store start) <;> rfl

def Sized (state : MachineState) (ins : Instruction) : Prop :=
  ins.size = Instruction.decodedSize state ins.m_OpCode

/-- The section and the store that a returning sweep leaves. -/
structure Swept (rom : ByteSource) (state : MachineState) (store : AddressStore)
    (start : AddressRef) (maxInstructions : UInt32) (sec : Section) (store' : AddressStore) :
    Prop where
  start_eq : sec.start = start
  end_eq : sec.end_ = start
  store_eq : store' = Function.update store start
    (codeAddress rom state (store start) sec.instructions.length)
  fetches : Fetches (fetchInstruction rom state) (store start) sec.instructions
    (codeAddress rom state (store start) sec.instructions.length)
  completed : Completed Instruction.isJump maxInstructions.toNat sec.instructions

theorem disasmUntilJump_ok_iff :
    disasmUntilJump rom state store start maxInstructions = .ok (sec, store') ↔
      Swept rom state store start maxInstructions sec store' := by
  rw [disasmUntilJump_eq]
  constructor
  · intro h
    cases hloop : fetchUntil (fetchInstruction rom state) Instruction.isJump
        maxInstructions.toNat (store start) with
    | error e => simp [hloop, Except.map] at h
    | ok r =>
      obtain ⟨instructions, pos⟩ := r
      obtain ⟨rfl, rfl⟩ : (⟨start, start, instructions⟩ : Section) = sec ∧
          Function.update store start pos = store' := by simpa [hloop, Except.map] using h
      obtain ⟨hrun, hdone⟩ := fetchUntil_ok_iff.mp hloop
      obtain rfl := hrun.end_eq fetchInstruction_predicts
      exact ⟨rfl, rfl, rfl, hrun, hdone⟩
  · intro h
    have hsec : (⟨start, start, sec.instructions⟩ : Section) = sec :=
      Section.ext h.start_eq.symm h.end_eq.symm rfl
    rw [fetchUntil_ok_iff.mpr ⟨h.fetches, h.completed⟩, h.store_eq, Except.map]
    exact congrArg (fun sec => Except.ok (sec, _)) hsec

namespace Swept

theorem fetched (h : Swept rom state store start maxInstructions sec store') {i : Nat}
    (hi : i < sec.instructions.length) :
    fetchInstruction rom state (codeAddress rom state (store start) i) =
      .ok (sec.instructions[i], codeAddress rom state (store start) (i + 1)) :=
  h.fetches.get_eq fetchInstruction_predicts hi

theorem reached_iff (h : Swept rom state store start maxInstructions sec store') (k : Nat) :
    CodeReached rom state (store start) maxInstructions k ↔ k < sec.instructions.length :=
  h.completed.reached_iff fetchInstruction_predicts h.fetches k

theorem totalSize_take (h : Swept rom state store start maxInstructions sec store') {k : Nat}
    (hk : k ≤ sec.instructions.length) :
    totalSize (sec.instructions.take k) = codeLength rom state (store start) k := by
  induction k with
  | zero => rfl
  | succ k ih =>
    have hlt : k < sec.instructions.length := hk
    obtain ⟨_, hsize⟩ := fetchInstruction_opCode (h.fetched hlt)
    have hprefix := ih (Nat.le_of_lt hlt)
    rw [codeLength, ← hprefix, ← hsize, List.take_add_one, List.getElem?_eq_getElem hlt,
      totalSize_append]
    simp

theorem totalSize_eq (h : Swept rom state store start maxInstructions sec store') :
    totalSize sec.instructions = codeLength rom state (store start) sec.instructions.length := by
  have htake := h.totalSize_take (Nat.le_refl _)
  rwa [List.take_length] at htake

theorem sized (h : Swept rom state store start maxInstructions sec store') :
    ∀ ins ∈ sec.instructions, Sized state ins := by
  intro ins hins
  obtain ⟨i, hi, rfl⟩ := List.mem_iff_getElem.mp hins
  obtain ⟨_, _, hinst, _⟩ := fetchInstruction_ok_iff.mp (h.fetched hi)
  exact (Instruction.fetch_decoded hinst).size_eq

end Swept

/-- Whatever the first source reads the second one reads as well. -/
def ReadsThrough (rom rom' : ByteSource) : Prop :=
  ∀ pos data, rom pos = .ok data →
    ∃ data', rom' pos = .ok data' ∧ ∀ i byte, data i = .ok byte → data' i = .ok byte

theorem fetchInstruction_mono {rom' : ByteSource} (hread : ReadsThrough rom rom')
    {pos : ROMAddress} {r : Instruction × ROMAddress}
    (h : fetchInstruction rom state pos = .ok r) : fetchInstruction rom' state pos = .ok r := by
  obtain ⟨inst, next⟩ := r
  obtain ⟨data, hdata, hinst, hnext⟩ := fetchInstruction_ok_iff.mp h
  obtain ⟨data', hdata', hbytes⟩ := hread pos data hdata
  exact fetchInstruction_ok_iff.mpr ⟨data', hdata', Instruction.fetch_mono hbytes hinst, hnext⟩

theorem disasmUntilJump_mono {rom' : ByteSource} (hread : ReadsThrough rom rom')
    {r : Section × AddressStore}
    (h : disasmUntilJump rom state store start maxInstructions = .ok r) :
    disasmUntilJump rom' state store start maxInstructions = .ok r := by
  rw [disasmUntilJump_eq] at h ⊢
  cases hloop : fetchUntil (fetchInstruction rom state) Instruction.isJump maxInstructions.toNat
      (store start) with
  | error e => simp [hloop, Except.map] at h
  | ok swept =>
    rw [fetchUntil_mono (fun _ _ => fetchInstruction_mono hread) hloop]
    rwa [hloop] at h

theorem disasmUntilJump_isOk_iff :
    (∃ r, disasmUntilJump rom state store start maxInstructions = .ok r) ↔
      ∀ k, CodeReached rom state (store start) maxInstructions k →
        ∃ r, fetchInstruction rom state (codeAddress rom state (store start) k) = .ok r := by
  have hpredicts : Predicts (fetchInstruction rom state) _ _ _ := fetchInstruction_predicts
  refine Iff.trans ?_ (fetchUntil_isOk_iff_reached hpredicts)
  rw [disasmUntilJump_eq]
  cases fetchUntil (fetchInstruction rom state) Instruction.isJump maxInstructions.toNat
    (store start) <;> simp [Except.map]

end Store

end SnesDisasm
