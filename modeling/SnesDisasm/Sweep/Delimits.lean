import SnesDisasm.Address.Mapping
import SnesDisasm.Load.Bounds
import SnesDisasm.Sweep.Cursor

/-!
# The delimiters of a section

`start`, the loop cursor and `end` are one pointer, so the sweep moves the start along.
-/

namespace SnesDisasm
open FetchLoop

/-- What `Section` documents of its delimiters, and what the caller's loop relies on. -/
structure Delimits (rom : ByteSource) (state : MachineState) (store : AddressStore)
    (pos : AddressRef) (sec : Section) (store' : AddressStore) : Prop where
  start_first : store' sec.start = store pos
  end_behind : store' sec.end_ = (store pos).advance (totalSize sec.instructions)
  printed : ∀ i (h : i < sec.instructions.length),
    (printInstructions pos store' sec.instructions).1[i]? =
      some (codeAddress rom state (store pos) i, sec.instructions[i])

/-- The code is not empty and ends whole turns of the address field behind its start. -/
def WrapsAround (rom : ByteSource) (state : MachineState) (start : ROMAddress)
    (maxInstructions : UInt32) : Prop :=
  ∃ n, 0 < n ∧ (∀ k, CodeReached rom state start maxInstructions k ↔ k < n) ∧
    2^32 ∣ codeLength rom state start n

theorem printInstructions_getElem? (pos : AddressRef) (store : AddressStore)
    (instructions : List Instruction) (i : Nat) :
    (printInstructions pos store instructions).1[i]? =
      instructions[i]?.map fun ins =>
        ((store pos).advance (totalSize (instructions.take i)), ins) := by
  induction instructions generalizing store i with
  | nil => rfl
  | cons ins rest ih =>
    cases i with
    | zero => simp [printInstructions]
    | succ i =>
      have hrest := ih (Function.update store pos ((store pos).advance ins.size.toNat)) i
      simp only [printInstructions, List.getElem?_cons_succ, hrest, Function.update_self,
        ROMAddress.advance_advance, List.take_succ_cons, totalSize_cons]

section Run

variable {rom : ByteSource} {state : MachineState} {store store' : AddressStore}
  {start : AddressRef} {maxInstructions : UInt32} {sec : Section}

theorem Swept.delimits_iff (h : Swept rom state store start maxInstructions sec store') :
    Delimits rom state store start sec store' ↔
      2^32 ∣ codeLength rom state (store start) sec.instructions.length := by
  have hcursor : store' start =
      (store start).advance (codeLength rom state (store start) sec.instructions.length) := by
    rw [h.store_eq, Function.update_self, codeAddress_eq_advance]
  constructor
  · intro hdelimits
    have hstart := hdelimits.start_first
    rwa [h.start_eq, hcursor, ROMAddress.advance_eq_self_iff] at hstart
  · intro hturns
    have hback : store' start = store start := by
      rw [hcursor, ROMAddress.advance_eq_self_iff]
      exact hturns
    refine ⟨by rw [h.start_eq, hback], by rw [h.end_eq, h.totalSize_eq, hcursor], ?_⟩
    intro i hi
    rw [printInstructions_getElem?, List.getElem?_eq_getElem hi, hback,
      h.totalSize_take (Nat.le_of_lt hi), ← codeAddress_eq_advance]
    rfl

theorem codeLength_pos (rom : ByteSource) (state : MachineState) (start : ROMAddress) {n : Nat}
    (hn : 0 < n) : 0 < codeLength rom state start n := by
  cases n with
  | zero => exact absurd hn (Nat.lt_irrefl 0)
  | succ n => exact Nat.add_pos_right _ (codeSize_pos _)

theorem exists_instruction_across {start : ROMAddress} {offset n : Nat}
    (h : offset < codeLength rom state start n) :
    ∃ k < n, codeLength rom state start k ≤ offset ∧
      offset < codeLength rom state start k + 4 := by
  induction n with
  | zero => simp [codeLength] at h
  | succ n ih =>
    by_cases hbefore : offset < codeLength rom state start n
    · obtain ⟨k, hk, hacross⟩ := ih hbefore
      exact ⟨k, Nat.lt_succ_of_lt hk, hacross⟩
    · have hsize : codeSize rom state (codeAddress rom state start n) ≤ 4 := codeSize_le_four _
      rw [codeLength] at h
      exact ⟨n, Nat.lt_succ_self n, by omega, by omega⟩

end Run

theorem fetch_in_ram_bank {disasm : Disasm} {pos : ROMAddress} (hbank : pos.bank = 0x7E)
    (hfetch : ∃ r, fetchInstruction disasm.source disasm.m_State pos = .ok r) :
    2^32 ≤ disasm.m_ROM.m_actualImageData.length := by
  obtain ⟨data, hdata, hread⟩ := (fetchInstruction_isOk_iff pos).mp hfetch
  have himage : pos.toImageAddress = .ok ramSentinel := by
    rw [toImageAddress_ok_iff, if_pos (Or.inl hbank)]
  obtain rfl := Except.ok.inj ((Disasm.source_eq himage).symm.trans hdata)
  have hfirst := (Pointer.deref_isOk_iff _ 0).mp (hread 0 (codeSize_pos pos))
  have hsentinel : ramSentinel.toNat = 2^32 - 1 := rfl
  simp only [Pointer.advance_offset, Pointer.advance_memory, SNESROM.headerless, hsentinel]
    at hfirst
  omega

theorem Swept.image_length {disasm : Disasm} {store store' : AddressStore} {ref : AddressRef}
    {maxInstructions : UInt32} {sec : Section}
    (h : Swept disasm.source disasm.m_State store ref maxInstructions sec store')
    (hpos : 0 < sec.instructions.length)
    (hturns : 2^32 ∣ codeLength disasm.source disasm.m_State (store ref) sec.instructions.length) :
    2^32 ≤ disasm.m_ROM.m_actualImageData.length := by
  generalize hstart : store ref = start at *
  have hlong := Nat.le_of_dvd (codeLength_pos disasm.source disasm.m_State start hpos) hturns
  -- the first offset from the start that lies 4 bytes inside a bank `7E`
  obtain ⟨offset, hoffset, hbank⟩ : ∃ offset < 2^24,
      (start.m_Address.toNat + offset) % 2^24 = 0x7E0004 :=
    ⟨(0x7E0004 + 2^24 - start.m_Address.toNat % 2^24) % 2^24, by omega, by omega⟩
  have hpassed : offset <
      codeLength disasm.source disasm.m_State start sec.instructions.length := by omega
  obtain ⟨k, hk, hbefore, hacross⟩ := exists_instruction_across hpassed
  have hfetched := h.fetched hk
  refine fetch_in_ram_bank ?_ ⟨_, hfetched⟩
  rw [hstart, ROMAddress.bank_eq_iff, codeAddress_eq_advance, ROMAddress.advance_toNat,
    show (0x7E : UInt8).toNat = 0x7E from rfl]
  omega

/-- The delimiters of a returned section are right exactly when the limit is 0 or, in a file of at
least 4 GiB, the code wraps around to its start. -/
theorem section_delimits_iff (disasm : Disasm) (store store' : AddressStore) (start : AddressRef)
    (maxInstructions : UInt32) (sec : Section)
    (hrun : disasm.disasmUntilJump store start maxInstructions = .ok (sec, store')) :
    Delimits disasm.source disasm.m_State store start sec store' ↔
      maxInstructions = 0 ∨ (2^32 ≤ disasm.m_ROM.m_actualImageData.length ∧
        WrapsAround disasm.source disasm.m_State (store start) maxInstructions) := by
  have hswept := disasmUntilJump_ok_iff.mp hrun
  rw [hswept.delimits_iff]
  constructor
  · intro hturns
    by_cases hlength : sec.instructions.length = 0
    · have hnone := (not_congr (hswept.reached_iff 0)).mpr (by omega)
      have hzero : maxInstructions.toNat = 0 := by
        by_contra hmax
        exact hnone ⟨Nat.pos_of_ne_zero hmax, fun i hi => absurd hi (Nat.not_lt_zero i)⟩
      exact Or.inl (UInt32.toNat_inj.mp hzero)
    · have hpos := Nat.pos_of_ne_zero hlength
      exact Or.inr ⟨hswept.image_length hpos hturns, _, hpos, hswept.reached_iff, hturns⟩
  · intro h
    rcases h with rfl | ⟨_, n, _, hreached, hturns⟩
    · have hempty : sec.instructions.length = 0 := Nat.le_zero.mp hswept.completed.length_le
      rw [hempty]
      exact Nat.dvd_zero _
    · have hsame : n = sec.instructions.length := by
        have hfirst := (hreached sec.instructions.length).symm.trans (hswept.reached_iff _)
        have hsecond := (hreached n).symm.trans (hswept.reached_iff n)
        omega
      rwa [← hsame]

private theorem blank_run :
    Disasm.disasmUntilJump ⟨.uniform 0, {}⟩ (fun _ => ⟨.LoROMAddress, 0x8000⟩) 0 1 =
      .ok (⟨0, 0, [⟨0x00, {}, 2⟩]⟩,
        Function.update (fun _ => ⟨.LoROMAddress, 0x8000⟩) 0 ⟨.LoROMAddress, 0x8002⟩) := rfl

theorem blank_section_delimits_iff :
    Delimits (Disasm.source ⟨.uniform 0, {}⟩) {} (fun _ => ⟨.LoROMAddress, 0x8000⟩) 0
        ⟨0, 0, [⟨0x00, {}, 2⟩]⟩
        (Function.update (fun _ => ⟨.LoROMAddress, 0x8000⟩) 0 ⟨.LoROMAddress, 0x8002⟩) ↔
      (1 : UInt32) = 0 ∨ (2^32 ≤ (SNESROM.uniform 0).m_actualImageData.length ∧
        WrapsAround (Disasm.source ⟨.uniform 0, {}⟩) {} ⟨.LoROMAddress, 0x8000⟩ 1) :=
  section_delimits_iff ⟨.uniform 0, {}⟩ _ _ 0 1 _ blank_run

theorem blank_section_start_moved :
    SNESROM.load (List.replicate 0x10000 0) = .ok (.uniform 0) ∧
      ∃ sec store', Disasm.disasmUntilJump ⟨.uniform 0, {}⟩
          (fun _ => ⟨.LoROMAddress, 0x8000⟩) 0 1 = .ok (sec, store') ∧
        ¬Delimits (Disasm.source ⟨.uniform 0, {}⟩) {} (fun _ => ⟨.LoROMAddress, 0x8000⟩) 0 sec
          store' := by
  refine ⟨SNESROM.load_uniform (by decide), _, _, blank_run, ?_⟩
  intro hdelimits
  have hstart := hdelimits.start_first
  exact absurd hstart (by decide)

end SnesDisasm
