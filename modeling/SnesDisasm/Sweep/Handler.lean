import SnesDisasm.Address.Mapping
import SnesDisasm.Load.Header
import SnesDisasm.Sweep.Cursor

/-!
# Sweeps from interrupt vectors

A vector is a bank address of bank 0, and code from there may leave the image.
-/

namespace SnesDisasm
open FetchLoop

def ReadsImage (disasm : Disasm) (address : ROMAddress) : Prop :=
  ∃ image, address.toImageAddress = .ok image ∧ image ≠ ramSentinel ∧
    image.toNat + codeSize disasm.source disasm.m_State address ≤ disasm.m_ROM.headerlessSize

/-- A sweep from the vector returns, and all its instructions lie inside the image. -/
def HandlerStaysInside (disasm : Disasm) (vector : SNESROMHeader.InterruptVector)
    (maxInstructions : UInt32) : Prop :=
  ∃ dest, disasm.m_ROM.header.getInterruptDest vector = .ok dest ∧
    ∀ (store : AddressStore) (start : AddressRef), store start = dest →
      (∃ r, disasm.disasmUntilJump store start maxInstructions = .ok r) ∧
      ∀ k, CodeReached disasm.source disasm.m_State dest maxInstructions k →
        ReadsImage disasm (codeAddress disasm.source disasm.m_State dest k)

/-- For LoROM below the system RAM, and before the end of an image of one window; for HiROM in the
upper half of bank 0 and in the image. -/
def InHandlerWindow (rom : SNESROM) (address : ROMAddress) (size : Nat) : Prop :=
  match address.addressClass with
  | .LoROMAddress => address.m_Address.toNat < 0x7E0000 ∧
      (rom.headerlessSize = 0x8000 → address.m_Address.toNat % 0x8000 + size ≤ 0x8000)
  | .HiROMAddress => 0x8000 ≤ address.m_Address.toNat ∧ address.m_Address.toNat ≤ 0xFFFF ∧
      address.m_Address.toNat + size ≤ rom.headerlessSize

def HandlerInWindow (disasm : Disasm) (vector : SNESROMHeader.InterruptVector)
    (maxInstructions : UInt32) : Prop :=
  ∀ dest, disasm.m_ROM.header.getInterruptDest vector = .ok dest →
    ∀ k, CodeReached disasm.source disasm.m_State dest maxInstructions k →
      InHandlerWindow disasm.m_ROM (codeAddress disasm.source disasm.m_State dest k)
        (codeSize disasm.source disasm.m_State (codeAddress disasm.source disasm.m_State dest k))

section Window

variable {disasm : Disasm}

theorem readsImage_iff (address : ROMAddress) :
    ReadsImage disasm address ↔
      ¬(address.bank = 0x7E ∨ address.bank = 0x7F) ∧ Accepted address ∧
        address.m_Address.toNat % address.addressClass.decodedRange +
          codeSize disasm.source disasm.m_State address ≤ disasm.m_ROM.headerlessSize := by
  have hrange : address.m_Address.toNat % address.addressClass.decodedRange < 0x400000 := by
    cases address.addressClass with
    | LoROMAddress => exact Nat.lt_of_lt_of_le (Nat.mod_lt _ (by decide)) (by decide)
    | HiROMAddress => exact Nat.mod_lt _ (by decide)
  constructor
  · intro h
    rcases h with ⟨image, hdecode, hsentinel, hfits⟩
    rw [toImageAddress_ok_iff] at hdecode
    by_cases hram : address.bank = 0x7E ∨ address.bank = 0x7F
    · rw [if_pos hram] at hdecode
      exact absurd hdecode hsentinel
    · rw [if_neg hram] at hdecode
      exact ⟨hram, hdecode.1, hdecode.2 ▸ hfits⟩
  · intro h
    rcases h with ⟨hram, haccepted, hfits⟩
    have hvalue := UInt32.toNat_ofNat_of_lt' (Nat.lt_trans hrange (by decide : _ < UInt32.size))
    refine ⟨UInt32.ofNat (address.m_Address.toNat % address.addressClass.decodedRange), ?_, ?_, ?_⟩
    · rw [toImageAddress_ok_iff, if_neg hram]
      exact ⟨haccepted, hvalue⟩
    · intro hsame
      have hsentinel : ramSentinel.toNat = 2^32 - 1 := rfl
      rw [hsame, hsentinel] at hvalue
      omega
    · rw [hvalue]
      exact hfits

theorem ReadsImage.fetch {address : ROMAddress} (haligned : Aligned disasm.m_ROM)
    (h : ReadsImage disasm address) :
    ∃ r, fetchInstruction disasm.source disasm.m_State address = .ok r := by
  obtain ⟨image, hdecode, _, hfits⟩ := h
  rw [fetchInstruction_isOk_iff]
  refine ⟨_, Disasm.source_eq hdecode, fun i hi => ?_⟩
  exact ⟨_, disasm.m_ROM.deref_inside haligned image.toNat i (by omega)⟩

private theorem bank_ram_iff (address : ROMAddress) :
    address.bank = 0x7E ∨ address.bank = 0x7F ↔
      address.m_Address.toNat / 0x10000 % 0x100 = 0x7E ∨
        address.m_Address.toNat / 0x10000 % 0x100 = 0x7F := by
  rw [address.bank_eq_iff, address.bank_eq_iff]
  exact Iff.rfl

theorem InHandlerWindow.readsImage {address : ROMAddress} (haligned : Aligned disasm.m_ROM)
    (hsize : 0x8000 ≤ disasm.m_ROM.headerlessSize)
    (h : InHandlerWindow disasm.m_ROM address
      (codeSize disasm.source disasm.m_State address)) : ReadsImage disasm address := by
  have hwhole := haligned.whole
  have hfour : codeSize disasm.source disasm.m_State address ≤ 4 := codeSize_le_four address
  rw [readsImage_iff, bank_ram_iff]
  cases hclass : address.addressClass with
  | LoROMAddress =>
    simp only [InHandlerWindow, hclass, AddressClass.decodedRange] at h ⊢
    refine ⟨by omega, ?_, by omega⟩
    intro hhi
    rw [hclass] at hhi
    cases hhi
  | HiROMAddress =>
    simp only [InHandlerWindow, hclass, AddressClass.decodedRange] at h ⊢
    rw [accepted_hi_iff hclass]
    refine ⟨by omega, by omega, by omega⟩

theorem ReadsImage.inHandlerWindow {address : ROMAddress} (h : ReadsImage disasm address)
    (hnear : match address.addressClass with
      | .LoROMAddress => address.m_Address.toNat ≤ 0x7E0003
      | .HiROMAddress => address.m_Address.toNat ≤ 0x10003) :
    InHandlerWindow disasm.m_ROM address (codeSize disasm.source disasm.m_State address) := by
  rw [readsImage_iff, bank_ram_iff] at h
  cases hclass : address.addressClass with
  | LoROMAddress =>
    simp only [InHandlerWindow, hclass, AddressClass.decodedRange] at h hnear ⊢
    omega
  | HiROMAddress =>
    rw [accepted_hi_iff hclass] at h
    simp only [InHandlerWindow, hclass, AddressClass.decodedRange] at h hnear ⊢
    omega

theorem inHandlerWindow_of_readsImage {dest : ROMAddress} {maxInstructions : UInt32}
    (hdest : dest.m_Address.toNat < 0x10000)
    (h : ∀ k, CodeReached disasm.source disasm.m_State dest maxInstructions k →
      ReadsImage disasm (codeAddress disasm.source disasm.m_State dest k)) (k : Nat)
    (hreached : CodeReached disasm.source disasm.m_State dest maxInstructions k) :
    InHandlerWindow disasm.m_ROM (codeAddress disasm.source disasm.m_State dest k)
      (codeSize disasm.source disasm.m_State
        (codeAddress disasm.source disasm.m_State dest k)) := by
  induction k with
  | zero =>
    apply (h 0 hreached).inHandlerWindow
    rw [codeAddress_zero]
    split <;> omega
  | succ k ih =>
    have hbefore := ih (hreached.mono (Nat.le_succ k))
    apply (h (k + 1) hreached).inHandlerWindow
    rw [codeAddress_succ, codeStep, ROMAddress.advance_addressClass, ROMAddress.advance_toNat]
    have hfour : codeSize disasm.source disasm.m_State
      (codeAddress disasm.source disasm.m_State dest k) ≤ 4 := codeSize_le_four _
    generalize codeAddress disasm.source disasm.m_State dest k = address at *
    cases hclass : address.addressClass with
    | LoROMAddress =>
      simp only [InHandlerWindow, hclass] at hbefore ⊢
      omega
    | HiROMAddress =>
      simp only [InHandlerWindow, hclass] at hbefore ⊢
      omega

theorem inHandlerWindow_of_low {dest : ROMAddress} {k n : Nat}
    (hclass : dest.addressClass = .LoROMAddress) (hlow : dest.m_Address.toNat + 4 * n ≤ 0x8000)
    (hk : k < n) :
    InHandlerWindow disasm.m_ROM (codeAddress disasm.source disasm.m_State dest k)
      (codeSize disasm.source disasm.m_State
        (codeAddress disasm.source disasm.m_State dest k)) := by
  have hsize : codeSize disasm.source disasm.m_State
      (codeAddress disasm.source disasm.m_State dest k) ≤ 4 := codeSize_le_four _
  have hlength : codeLength disasm.source disasm.m_State dest k ≤ 4 * k := codeLength_le dest k
  rw [codeAddress_eq_advance] at hsize ⊢
  simp only [InHandlerWindow, ROMAddress.advance_addressClass, hclass, ROMAddress.advance_toNat]
  omega

end Window

theorem load_getInterruptDest {file : Bytes} {rom : SNESROM} (hload : SNESROM.load file = .ok rom)
    (hheader : rom.header.isValid = true) (vector : SNESROMHeader.InterruptVector) :
    Aligned rom ∧ 0x8000 ≤ rom.headerlessSize ∧
      ∃ dest, rom.header.getInterruptDest vector = .ok dest ∧ dest.m_Address.toNat < 0x10000 := by
  have hinside := SNESROM.load_headerInside hload
  obtain ⟨m_HeaderData, hsome⟩ := Option.isSome_iff_exists.mp hheader
  obtain ⟨headerAddress, haddress, hfits, rfl⟩ := hinside.inside m_HeaderData hsome
  have hdest := SNESROMHeader.getInterruptDest_eq hinside.aligned hfits vector
  have hheaderEq : rom.header = ⟨some (rom.headerless.advance headerAddress)⟩ :=
    congrArg SNESROMHeader.mk hsome
  refine ⟨hinside.aligned, by omega, _, by rw [hheaderEq, hdest], ?_⟩
  rw [UInt16.toNat_toUInt32]
  exact UInt16.toNat_lt _

/-- The sweep from a vector stays inside the image exactly when its code stays in the window. -/
theorem handler_stays_inside_iff (file : Bytes) (rom : SNESROM) (state : MachineState)
    (vector : SNESROMHeader.InterruptVector) (maxInstructions : UInt32)
    (hload : SNESROM.load file = .ok rom) (hheader : rom.header.isValid = true) :
    HandlerStaysInside ⟨rom, state⟩ vector maxInstructions ↔
      HandlerInWindow ⟨rom, state⟩ vector maxInstructions := by
  obtain ⟨haligned, hsize, dest, hdest, hbank⟩ := load_getInterruptDest hload hheader vector
  constructor
  · rintro ⟨dest₁, hdest₁, hinside⟩ dest₂ hdest₂ k hreached
    obtain rfl := Except.ok.inj (hdest.symm.trans hdest₁)
    obtain rfl := Except.ok.inj (hdest.symm.trans hdest₂)
    have hreads := (hinside (fun _ => dest) 0 rfl).2
    exact inHandlerWindow_of_readsImage hbank hreads k hreached
  · intro hwindow
    have hreads (k : Nat) (hreached : CodeReached _ state dest maxInstructions k) :=
      (hwindow dest hdest k hreached).readsImage haligned hsize
    refine ⟨dest, hdest, fun store start hstart => ⟨?_, hreads⟩⟩
    subst hstart
    exact disasmUntilJump_isOk_iff.mpr fun k hreached => (hreads k hreached).fetch haligned

def stamped (layoutByte : UInt8) : Bytes :=
  List.replicate 0x7FD5 0 ++ layoutByte :: List.replicate 0x2A 0

theorem stamped_length (layoutByte : UInt8) : (stamped layoutByte).length = 0x8000 := by
  simp only [stamped, List.length_append, List.length_cons, List.length_replicate]

theorem stamped_imageByte (layoutByte : UInt8) (offset : Nat) :
    (SNESROM.opened (stamped layoutByte)).imageByte offset =
      if offset = 0x7FD5 then layoutByte else 0 := by
  have hbase : (SNESROM.opened (stamped layoutByte)).m_headerlessImageData = 0 := by
    simp only [SNESROM.opened, stamped_length]
  rw [SNESROM.imageByte, hbase, Nat.zero_add]
  change (stamped layoutByte).getD offset 0 = _
  rw [stamped, List.getD_eq_getElem?_getD]
  by_cases hlow : offset < 0x7FD5
  · rw [List.getElem?_append_left (by rwa [List.length_replicate]), List.getElem?_replicate,
      if_pos hlow, if_neg (by omega)]
    rfl
  · rw [List.getElem?_append_right (by rw [List.length_replicate]; omega), List.length_replicate]
    by_cases hsame : offset = 0x7FD5
    · rw [if_pos hsame, hsame]
      rfl
    · obtain ⟨rest, hrest⟩ : ∃ rest, offset - 0x7FD5 = rest + 1 := ⟨offset - 0x7FD5 - 1, by omega⟩
      rw [if_neg hsame, hrest, List.getElem?_cons_succ, List.getElem?_replicate]
      split <;> rfl

theorem load_stamped {layoutByte : UInt8} (hbit : layoutByte &&& 0x20 ≠ 0) :
    SNESROM.load (stamped layoutByte) =
      .ok ((SNESROM.opened (stamped layoutByte)).withHeader 0x7FC0) := by
  have hlength := stamped_length layoutByte
  have hsize : 0x8000 ≤ (SNESROM.opened (stamped layoutByte)).headerlessSize := by
    rw [SNESROM.headerlessSize_opened, hlength]
  have hlike : (SNESROM.opened (stamped layoutByte)).HeaderLike 0x7FC0 := by
    simp only [SNESROM.HeaderLike, stamped_imageByte, SNESROMHeader.m_ROMLayoutIndex,
      SNESROMHeader.m_CountryCodeIndex]
    refine ⟨by simpa using hbit, ?_⟩
    rw [if_neg (by decide)]
    decide
  rw [SNESROM.load_eq (by rw [hlength]) (by rw [hlength]; decide),
    SNESROM.findHeader_plain (by rw [hlength]),
    SNESROM.probeKnownOffsets_eq SNESROM.aligned_opened, if_pos hsize, if_pos hlike]

theorem stamped_getInterruptDest (layoutByte : UInt8) (vector : SNESROMHeader.InterruptVector) :
    ((SNESROM.opened (stamped layoutByte)).withHeader 0x7FC0).header.getInterruptDest vector =
      .ok ⟨SNESROMHeader.addressClassOf layoutByte, 0⟩ := by
  have hsize : 0x7FC0 + 64 ≤ (SNESROM.opened (stamped layoutByte)).headerlessSize := by
    rw [SNESROM.headerlessSize_opened, stamped_length]
  have hdest := SNESROMHeader.getInterruptDest_eq SNESROM.aligned_opened hsize vector
  have hbehind : 36 ≤ vector.offset := by
    cases vector with
    | native vector => exact Nat.le_add_right _ _
    | emulation vector => exact Nat.le_trans (by decide) (Nat.le_add_right 52 _)
  rw [stamped_imageByte, stamped_imageByte, stamped_imageByte, if_pos rfl, if_neg (by omega),
    if_neg (by omega)] at hdest
  exact hdest

theorem handler_stays_inside_stamped :
    HandlerStaysInside ⟨(SNESROM.opened (stamped 0x20)).withHeader 0x7FC0, {}⟩
      (.emulation .RESET) 30 := by
  refine (handler_stays_inside_iff (stamped 0x20) _ {} (.emulation .RESET) 30
    (load_stamped (by decide)) rfl).mpr ?_
  intro dest hdest k hreached
  obtain rfl := Except.ok.inj ((stamped_getInterruptDest 0x20 _).symm.trans hdest)
  exact inHandlerWindow_of_low (by decide) (by decide) hreached.lt

theorem handler_leaves_low_half :
    SNESROM.load (stamped 0x21) = .ok ((SNESROM.opened (stamped 0x21)).withHeader 0x7FC0) ∧
      ((SNESROM.opened (stamped 0x21)).withHeader 0x7FC0).header.isValid = true ∧
      ¬HandlerStaysInside ⟨(SNESROM.opened (stamped 0x21)).withHeader 0x7FC0, {}⟩
        (.emulation .RESET) 1 := by
  refine ⟨load_stamped (by decide), rfl, ?_⟩
  intro h
  rcases h with ⟨dest, hdest, hinside⟩
  obtain rfl := Except.ok.inj ((stamped_getInterruptDest 0x21 _).symm.trans hdest)
  obtain ⟨image, hdecode, _⟩ := (hinside (fun _ => _) 0 rfl).2 0
    ⟨by decide, fun i hi => absurd hi (Nat.not_lt_zero i)⟩
  have hstopped : ROMAddress.toImageAddress ⟨.HiROMAddress, 0⟩ = .error .assertion := by decide
  rw [codeAddress_zero] at hdecode
  exact absurd (hstopped.symm.trans hdecode) (by simp)

end SnesDisasm
