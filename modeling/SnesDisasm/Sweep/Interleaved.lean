import SnesDisasm.Framework.Interleaving
import SnesDisasm.Framework.TwoRuns
import SnesDisasm.Sweep.Cursor

/-!
# Several cursors

Calls of `disasmUntilJump` on several address objects, in any order.
-/

namespace SnesDisasm
open FetchLoop Interleaving

/-- Calls of `disasmUntilJump`, each with its address object and its limit. -/
def sweeps (rom : ByteSource) (state : MachineState) :
    AddressStore → List (AddressRef × UInt32) → Except Fault (List Section × AddressStore)
  | store, [] => .ok ([], store)
  | store, (start, maxInstructions) :: calls => do
      let (sec, store) ← disasmUntilJump rom state store start maxInstructions
      let (secs, store) ← sweeps rom state store calls
      return (sec :: secs, store)

def foundUnder (ref : AddressRef) (secs : List Section) : List Instruction :=
  (secs.filter fun sec => sec.start = ref).flatMap Section.instructions

def sweepOne (rom : ByteSource) (state : MachineState) (pos : ROMAddress) (maxInstructions : UInt32) :
    Except Fault (List Instruction × ROMAddress) :=
  fetchUntil (fetchInstruction rom state) Instruction.isJump maxInstructions.toNat pos

def sectionOf (found : AddressRef × List Instruction) : Section := ⟨found.1, found.1, found.2⟩

theorem sectionOf_filter (ref : AddressRef) (outs : List (AddressRef × List Instruction)) :
    (outs.map sectionOf).filter (fun sec => sec.start = ref) =
      (ofKey ref outs).map fun instructions => ⟨ref, ref, instructions⟩ := by
  induction outs with
  | nil => rfl
  | cons out rest ih =>
    obtain ⟨key, instructions⟩ := out
    by_cases hkey : key = ref
    · subst hkey
      rw [ofKey_cons_self, List.map_cons, List.map_cons, ← ih]
      exact List.filter_cons_of_pos (by simp [sectionOf])
    · rw [ofKey_cons_of_ne hkey, List.map_cons, ← ih]
      exact List.filter_cons_of_neg (by simp [sectionOf, hkey])

section Runs

variable {rom : ByteSource} {state : MachineState}

theorem sweeps_ok_iff {store store' : AddressStore} {calls : List (AddressRef × UInt32)}
    {secs : List Section} :
    sweeps rom state store calls = .ok (secs, store') ↔
      ∃ outs, run (sweepOne rom state) store calls = .ok (outs, store') ∧
        secs = outs.map sectionOf := by
  induction calls generalizing store secs with
  | nil =>
    constructor
    · intro h
      obtain ⟨rfl, rfl⟩ := Prod.mk.inj (Except.ok.inj h)
      exact ⟨[], rfl, rfl⟩
    · intro h
      obtain ⟨outs, hrun, rfl⟩ := h
      obtain ⟨rfl, rfl⟩ := Prod.mk.inj (Except.ok.inj hrun)
      rfl
  | cons call calls ih =>
    obtain ⟨start, maxInstructions⟩ := call
    rw [sweeps, disasmUntilJump_eq]
    change (((sweepOne rom state (store start) maxInstructions).map _) >>= _) = _ ↔ _
    constructor
    · intro h
      obtain ⟨⟨sec, between⟩, hfirst, hrest⟩ := bind_ok_iff.mp h
      obtain ⟨⟨rest, after⟩, hcalls, hresult⟩ := bind_ok_iff.mp hrest
      obtain ⟨rfl, rfl⟩ := Prod.mk.inj (Except.ok.inj hresult)
      cases hone : sweepOne rom state (store start) maxInstructions with
      | error fault => simp [hone, Except.map] at hfirst
      | ok found =>
        rw [hone] at hfirst
        obtain ⟨rfl, rfl⟩ := Prod.mk.inj (Except.ok.inj hfirst)
        obtain ⟨outs, hrun, rfl⟩ := ih.mp hcalls
        exact ⟨(start, found.1) :: outs,
          run_cons_ok_iff.mpr ⟨found.1, found.2, outs, hone, hrun, rfl⟩, rfl⟩
    · intro h
      obtain ⟨outs, hrun, rfl⟩ := h
      obtain ⟨instructions, pos, rest, hone, hrest, rfl⟩ := run_cons_ok_iff.mp hrun
      have hcalls := ih.mpr ⟨rest, hrest, rfl⟩
      rw [hone]
      exact bind_ok_iff.mpr ⟨_, rfl, bind_ok_iff.mpr ⟨_, hcalls, rfl⟩⟩

theorem runOne_fetches {pos pos' : ROMAddress} {limits : List UInt32}
    {outs : List (List Instruction)}
    (hrun : runOne (sweepOne rom state) pos limits = .ok (outs, pos')) :
    Fetches (fetchInstruction rom state) pos outs.flatten pos' := by
  induction limits generalizing pos outs with
  | nil =>
    obtain ⟨rfl, rfl⟩ := Prod.mk.inj (Except.ok.inj hrun)
    exact .nil pos
  | cons maxInstructions limits ih =>
    obtain ⟨instructions, between, rest, hfirst, hrest, rfl⟩ := runOne_cons_ok_iff.mp hrun
    rw [List.flatten_cons]
    exact (fetchUntil_ok_iff.mp hfirst).1.append (ih hrest)

theorem sweeps_fetches {store store' : AddressStore} {calls : List (AddressRef × UInt32)}
    {secs : List Section} (hrun : sweeps rom state store calls = .ok (secs, store'))
    (ref : AddressRef) :
    Fetches (fetchInstruction rom state) (store ref) (foundUnder ref secs) (store' ref) := by
  obtain ⟨outs, hcalls, rfl⟩ := sweeps_ok_iff.mp hrun
  have hfetches := runOne_fetches (run_ofKey hcalls ref)
  rw [foundUnder, sectionOf_filter, List.flatMap_map]
  rwa [← List.flatMap_id] at hfetches

end Runs

/-- The instructions found under an object are those of the straight-line code from its first
address, with no gap and no repetition, and it ends behind the last of them. -/
theorem sweeps_decode_each_code (rom : ByteSource) (state : MachineState)
    (store store' : AddressStore) (calls : List (AddressRef × UInt32)) (secs : List Section)
    (hrun : sweeps rom state store calls = .ok (secs, store')) (ref : AddressRef) :
    store' ref = codeAddress rom state (store ref) (foundUnder ref secs).length ∧
      ∀ i (hi : i < (foundUnder ref secs).length),
        fetchInstruction rom state (codeAddress rom state (store ref) i) =
          .ok ((foundUnder ref secs)[i], codeAddress rom state (store ref) (i + 1)) := by
  have hfetches := sweeps_fetches hrun ref
  constructor
  · exact hfetches.end_eq fetchInstruction_predicts
  · intro i hi
    exact hfetches.get_eq fetchInstruction_predicts hi

private theorem turns_run :
    sweeps (fun _ => .ok fun _ => .ok 0xEA) {} (fun ref => ⟨.LoROMAddress, 0x8000 * ref.toUInt32⟩)
        [(1, 1), (2, 1), (1, 1)] =
      .ok ([⟨1, 1, [⟨0xEA, {}, 1⟩]⟩, ⟨2, 2, [⟨0xEA, {}, 1⟩]⟩, ⟨1, 1, [⟨0xEA, {}, 1⟩]⟩],
        Function.update (Function.update (Function.update
          (fun ref => ⟨.LoROMAddress, 0x8000 * ref.toUInt32⟩) 1 ⟨.LoROMAddress, 0x8001⟩)
          2 ⟨.LoROMAddress, 0x10001⟩) 1 ⟨.LoROMAddress, 0x8002⟩) := rfl

theorem sweeps_decode_turns :
    ∃ secs store', sweeps (fun _ => .ok fun _ => .ok 0xEA) {}
        (fun ref => ⟨.LoROMAddress, 0x8000 * ref.toUInt32⟩) [(1, 1), (2, 1), (1, 1)] =
          .ok (secs, store') ∧
      store' 1 = codeAddress (fun _ => .ok fun _ => .ok 0xEA) {}
        (ROMAddress.mk .LoROMAddress 0x8000) (foundUnder 1 secs).length :=
  ⟨_, _, turns_run, (sweeps_decode_each_code _ _ _ _ _ _ turns_run 1).1⟩

/-- Two orders of calls that agree on each object return the same sections for every object, and the
same addresses at the end. -/
theorem sweeps_order_irrelevant (rom : ByteSource) (state : MachineState)
    (store store' : AddressStore) (calls calls' : List (AddressRef × UInt32)) (secs : List Section)
    (hsame : ∀ ref, calls.filter (fun call => call.1 = ref) = calls'.filter fun call => call.1 = ref)
    (hrun : sweeps rom state store calls = .ok (secs, store')) :
    ∃ secs', sweeps rom state store calls' = .ok (secs', store') ∧
      ∀ ref, secs'.filter (fun sec => sec.start = ref) = secs.filter fun sec => sec.start = ref := by
  obtain ⟨outs, hcalls, rfl⟩ := sweeps_ok_iff.mp hrun
  have hkeys : ∀ ref, ofKey ref calls = ofKey ref calls' := by
    intro ref
    rw [ofKey, ofKey, hsame ref]
  obtain ⟨outs', hcalls', houts⟩ := run_interleaved hkeys hcalls
  refine ⟨outs'.map sectionOf, sweeps_ok_iff.mpr ⟨outs', hcalls', rfl⟩, ?_⟩
  intro ref
  rw [sectionOf_filter, sectionOf_filter, houts ref]

theorem sweeps_order_irrelevant_turns :
    ∃ secs secs' store',
      sweeps (fun _ => .ok fun _ => .ok 0xEA) {} (fun ref => ⟨.LoROMAddress, 0x8000 * ref.toUInt32⟩)
        [(1, 1), (2, 1), (1, 1)] = .ok (secs, store') ∧
      sweeps (fun _ => .ok fun _ => .ok 0xEA) {} (fun ref => ⟨.LoROMAddress, 0x8000 * ref.toUInt32⟩)
        [(2, 1), (1, 1), (1, 1)] = .ok (secs', store') := by
  have hsame : ∀ ref : AddressRef, [(1, 1), (2, 1), (1, (1 : UInt32))].filter (fun call => call.1 = ref) =
      [(2, 1), (1, 1), (1, 1)].filter fun call => call.1 = ref := by
    intro ref
    by_cases hone : 1 = ref
    · simp [← hone]
    · by_cases htwo : 2 = ref <;> simp [hone, htwo]
  obtain ⟨secs', hrun', _⟩ := sweeps_order_irrelevant _ _ _ _ _ _ _ hsame turns_run
  exact ⟨_, secs', _, turns_run, hrun'⟩

end SnesDisasm
