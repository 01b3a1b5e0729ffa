import SnesDisasm.Framework.TwoRuns
import SnesDisasm.Program.Testapp

/-!
# What the output depends on

The test application reads few bytes of its file.
-/

namespace SnesDisasm
open FetchLoop OutputStream SNESROM

inductive TestappReads (file : Bytes) : Nat → Prop
  | smcLayout (hsmc : file.length % 1024 ≠ 0) : TestappReads file 2
  | header (headerAddress field : Nat) (haddress : headerAddress = 0x7FC0 ∨ headerAddress = 0xFFC0)
      (hfield : field = 21 ∨ field = 25) :
      TestappReads file (file.length % 1024 + (headerAddress + field))
  | vector (headerAddress field : Nat) (hselected : selectedHeader file = some headerAddress)
      (hfield : field = 60 ∨ field = 61) :
      TestappReads file (file.length % 1024 + (headerAddress + field))
  | code (dest : ROMAddress) (k i : Nat) (image : ImageAddress)
      (hdest : (loaded file).header.getInterruptDest (.emulation .RESET) = .ok dest)
      (hreached : HandlerReached (loaded file) dest k)
      (himage : (handlerAddress (loaded file) dest k).toImageAddress = .ok image)
      (hi : i < codeSize (Disasm.source ⟨loaded file, {}⟩) {} (handlerAddress (loaded file) dest k)) :
      TestappReads file (file.length % 1024 + image.toNat + i)

theorem disasmUntilJump_transfer {rom rom' : ByteSource} {state : MachineState}
    {store : AddressStore} {start : AddressRef} {maxInstructions : UInt32}
    {r : Section × AddressStore}
    (hrun : disasmUntilJump rom state store start maxInstructions = .ok r)
    (hsame : ∀ k, CodeReached rom state (store start) maxInstructions k → ∀ fetched,
      fetchInstruction rom state (codeAddress rom state (store start) k) = .ok fetched →
      fetchInstruction rom' state (codeAddress rom state (store start) k) = .ok fetched) :
    disasmUntilJump rom' state store start maxInstructions = .ok r := by
  have hswept := disasmUntilJump_ok_iff.mp hrun
  have hloop := fetchUntil_ok_iff.mpr ⟨hswept.fetches, hswept.completed⟩
  have htransferred := fetchUntil_transfer fetchInstruction_predicts hloop hsame
  rw [disasmUntilJump_eq] at hrun ⊢
  rw [htransferred]
  rwa [hloop] at hrun

section Files

variable {file file' : Bytes} (hlength : file'.length = file.length)
  (hsame : ∀ position, TestappReads file position → file'[position]? = file[position]?)
include hlength hsame

theorem readHeader_imageByte {headerAddress field : Nat}
    (hread : TestappReads file (file.length % 1024 + (headerAddress + field))) :
    (opened file').imageByte (headerAddress + field) =
      (opened file).imageByte (headerAddress + field) := by
  have hbyte := hsame _ hread
  simp only [imageByte, opened, hlength, List.getD_eq_getElem?_getD]
  rw [hbyte]

theorem readHeader_headerLike {headerAddress : Nat}
    (haddress : headerAddress = 0x7FC0 ∨ headerAddress = 0xFFC0) :
    (opened file').HeaderLike headerAddress ↔ (opened file).HeaderLike headerAddress := by
  have hlayout := readHeader_imageByte hlength hsame (.header headerAddress 21 haddress (.inl rfl))
  have hcountry := readHeader_imageByte hlength hsame (.header headerAddress 25 haddress (.inr rfl))
  simp only [HeaderLike, SNESROMHeader.m_ROMLayoutIndex, SNESROMHeader.m_CountryCodeIndex, hlayout,
    hcountry]

theorem readHeader_selectedHeader : selectedHeader file' = selectedHeader file := by
  have hlow := readHeader_headerLike hlength hsame (.inl rfl : 0x7FC0 = 0x7FC0 ∨ 0x7FC0 = 0xFFC0)
  have hhigh := readHeader_headerLike hlength hsame (.inr rfl : 0xFFC0 = 0x7FC0 ∨ 0xFFC0 = 0xFFC0)
  have hdeclared : DeclaresHiROM file' ↔ DeclaresHiROM file := by
    rw [DeclaresHiROM, DeclaresHiROM, hlength]
    apply and_congr_right
    intro hsmc
    rw [List.getD_eq_getElem?_getD, List.getD_eq_getElem?_getD, hsame 2 (.smcLayout hsmc)]
  apply Option.ext
  intro headerAddress
  simp only [selectedHeader_eq_some_iff, TakesHighHeader, hlow, hhigh, hdeclared]

theorem readVector_getInterruptDest (hsize : 0x10000 ≤ (opened file).headerlessSize) :
    (loaded file').header.getInterruptDest (.emulation .RESET) =
      (loaded file).header.getInterruptDest (.emulation .RESET) := by
  rw [loaded_header_eq, loaded_header_eq, readHeader_selectedHeader hlength hsame]
  cases hfound : selectedHeader file with
  | none => rfl
  | some headerAddress =>
    have haddress := (selectedHeader_like hfound).1
    have hfits : headerAddress + 64 ≤ (loaded file).headerlessSize := by
      rw [loaded_headerlessSize]
      omega
    have hfits' : headerAddress + 64 ≤ (loaded file').headerlessSize := by
      rw [loaded_headerlessSize, headerlessSize_opened, hlength, ← headerlessSize_opened]
      omega
    have hlayout := readHeader_imageByte hlength hsame (.header headerAddress 21 haddress (.inl rfl))
    have hvectorLow := readHeader_imageByte hlength hsame (.vector headerAddress 60 hfound (.inl rfl))
    have hvectorHigh :=
      readHeader_imageByte hlength hsame (.vector headerAddress 61 hfound (.inr rfl))
    have hoffset : SNESROMHeader.InterruptVector.offset (.emulation .RESET) = 60 := rfl
    rw [Option.map_some, Option.map_some, SNESROMHeader.getInterruptDest_eq aligned_loaded hfits',
      SNESROMHeader.getInterruptDest_eq aligned_loaded hfits, hoffset]
    simp only [loaded_imageByte, hlayout, hvectorLow, hvectorHigh]

theorem readCode_fetchInstruction {dest : ROMAddress} {k : Nat}
    (hdest : (loaded file).header.getInterruptDest (.emulation .RESET) = .ok dest)
    (hreached : HandlerReached (loaded file) dest k) {r : Instruction × ROMAddress}
    (hfetch : fetchInstruction (Disasm.source ⟨loaded file, {}⟩) {}
      (handlerAddress (loaded file) dest k) = .ok r) :
    fetchInstruction (Disasm.source ⟨loaded file', {}⟩) {}
      (handlerAddress (loaded file) dest k) = .ok r := by
  obtain ⟨inst, next⟩ := r
  have hsizeEq := (fetchInstruction_opCode hfetch).2
  obtain ⟨data, hdata, hinst, hnext⟩ := fetchInstruction_ok_iff.mp hfetch
  obtain ⟨image, himage, rfl⟩ := Disasm.source_ok hdata
  refine fetchInstruction_ok_iff.mpr ⟨_, Disasm.source_eq himage, ?_, hnext⟩
  apply Instruction.fetch_congr hinst rfl
  intro i hi
  rw [hsizeEq] at hi
  have hbyte := hsame _ (.code dest k i image hdest hreached himage hi)
  simp only [Pointer.deref, loaded_headerless, Pointer.advance_memory, Pointer.advance_offset,
    hlength, hbyte]

end Files

/-- Where a run completes, that of every other file of this length with the same bytes at the
positions read prints the same. -/
theorem testapp_depends_on_reads (version_string : String) (file file' : Bytes) (cout : Stream)
    (hsize : 0x10000 ≤ file.length - file.length % 1024) (hlength : file'.length = file.length)
    (hsame : ∀ position, TestappReads file position → file'[position]? = file[position]?)
    (hrun : testapp version_string (some file) = .ok cout) :
    testapp version_string (some file') = .ok cout := by
  obtain ⟨rom, dest, sec, store, hload, hdest, hsweep, hcout⟩ := testapp_ok_iff.mp hrun
  have haccepted : file.length % 512 = 0 := (load_accepted hload).1
  have hopened : 0x10000 ≤ (opened file).headerlessSize := hsize
  have hopened' : 0x10000 ≤ (opened file').headerlessSize := by
    rwa [headerlessSize_opened, hlength]
  obtain rfl := Except.ok.inj ((load_eq_loaded haccepted hopened).symm.trans hload)
  have hload' : load (readBytesFromFile (some file')) = .ok (loaded file') :=
    load_eq_loaded (by rwa [readBytesFromFile, Option.getD_some, hlength]) hopened'
  refine testapp_ok_iff.mpr ⟨_, dest, sec, store, hload', ?_, ?_, hcout⟩
  · rwa [readVector_getInterruptDest hlength hsame hopened]
  · apply disasmUntilJump_transfer hsweep
    intro k hreached r hfetch
    exact readCode_fetchInstruction hlength hsame hdest hreached hfetch

theorem candidates_title_not_read {position : Nat}
    (hread : TestappReads (candidates 0x20 0) position) : position ≠ 0x7FC0 := by
  have hbase : (candidates 0x20 0).length % 1024 = 0 := by rw [candidates_length]
  cases hread with
  | smcLayout hsmc => decide
  | header headerAddress field haddress hfield => omega
  | vector headerAddress field hselected hfield =>
    have haddress := (selectedHeader_like hselected).1
    omega
  | code dest k i image hdest hreached himage hi =>
    obtain rfl := Except.ok.inj ((candidates_header 0).2.symm.trans hdest)
    have hsize : codeSize (Disasm.source ⟨loaded (candidates 0x20 0), {}⟩) {}
        (handlerAddress (loaded (candidates 0x20 0)) ⟨.LoROMAddress, 0⟩ k) ≤ 4 := codeSize_le_four _
    have hk : k < 30 := hreached.lt
    have hlength : codeLength (Disasm.source ⟨loaded (candidates 0x20 0), {}⟩) {}
        ⟨.LoROMAddress, 0⟩ k ≤ 4 * k := codeLength_le _ k
    have hdecoded := (toImageAddress_ok_iff _ _).mp himage
    rw [handlerAddress, codeAddress_eq_advance] at hdecoded
    have haddress := ROMAddress.advance_toNat ⟨.LoROMAddress, 0⟩
      (codeLength (Disasm.source ⟨loaded (candidates 0x20 0), {}⟩) {} ⟨.LoROMAddress, 0⟩ k)
    rw [UInt32.toNat_zero] at haddress
    rw [if_neg, ROMAddress.advance_addressClass, AddressClass.decodedRange] at hdecoded
    · omega
    · rw [ROMAddress.bank_eq_iff, ROMAddress.bank_eq_iff, haddress,
        show (0x7E : UInt8).toNat = 0x7E from rfl, show (0x7F : UInt8).toNat = 0x7F from rfl]
      omega

theorem testapp_depends_on_reads_title :
    ∃ cout, testapp "1.0" (some (candidates 0x20 0)) = .ok cout ∧
      testapp "1.0" (some ((candidates 0x20 0).set 0x7FC0 0x41)) = .ok cout := by
  obtain ⟨cout, hrun⟩ := testapp_candidates "1.0" 0
  refine ⟨cout, hrun, testapp_depends_on_reads "1.0" (candidates 0x20 0) _ cout ?_ ?_ ?_ hrun⟩
  · rw [candidates_length]
  · rw [List.length_set]
  · intro position hread
    rw [List.getElem?_set_ne (candidates_title_not_read hread).symm]

end SnesDisasm
