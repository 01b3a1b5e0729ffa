import SnesDisasm.Print.Listing
import SnesDisasm.Sweep.Handler
import SnesDisasm.Sweep.Transparency

/-!
# The whole run of the test application
-/

namespace SnesDisasm
open FetchLoop OutputStream

abbrev handlerAddress (rom : SNESROM) (dest : ROMAddress) (k : Nat) : ROMAddress :=
  codeAddress (Disasm.source ⟨rom, {}⟩) {} dest k

abbrev HandlerReached (rom : SNESROM) (dest : ROMAddress) (k : Nat) : Prop :=
  CodeReached (Disasm.source ⟨rom, {}⟩) {} dest 30 k

theorem testapp_ok_iff {version_string : String} {file : Option Bytes} {cout : Stream} :
    testapp version_string file = .ok cout ↔
      ∃ rom dest sec store, SNESROM.load (readBytesFromFile file) = .ok rom ∧
        rom.header.getInterruptDest (.emulation .RESET) = .ok dest ∧
        Disasm.disasmUntilJump ⟨rom, {}⟩ (fun _ => dest) 0 30 = .ok (sec, store) ∧
        cout = (printSection 0 (banner version_string) store sec.instructions).1 := by
  simp only [testapp, bind_ok_iff]
  constructor
  · intro h
    obtain ⟨rom, hload, dest, hdest, ⟨sec, store⟩, hsweep, hresult⟩ := h
    exact ⟨rom, dest, sec, store, hload, hdest, hsweep, (Except.ok.inj hresult).symm⟩
  · intro h
    obtain ⟨rom, dest, sec, store, hload, hdest, hsweep, rfl⟩ := h
    exact ⟨rom, hload, dest, hdest, (sec, store), hsweep, rfl⟩

theorem testapp_isOk_iff (version_string : String) (file : Option Bytes) :
    (∃ cout, testapp version_string file = .ok cout) ↔
      ∃ rom dest, SNESROM.load (readBytesFromFile file) = .ok rom ∧
        rom.header.getInterruptDest (.emulation .RESET) = .ok dest ∧
        ∀ k, HandlerReached rom dest k → ∃ r,
          fetchInstruction (Disasm.source ⟨rom, {}⟩) {} (handlerAddress rom dest k) = .ok r := by
  constructor
  · intro h
    obtain ⟨cout, hrun⟩ := h
    obtain ⟨rom, dest, sec, store, hload, hdest, hsweep, _⟩ := testapp_ok_iff.mp hrun
    exact ⟨rom, dest, hload, hdest, disasmUntilJump_isOk_iff.mp ⟨_, hsweep⟩⟩
  · intro h
    obtain ⟨rom, dest, hload, hdest, hfetch⟩ := h
    obtain ⟨⟨sec, store⟩, hsweep⟩ : ∃ r,
        Disasm.disasmUntilJump ⟨rom, {}⟩ (fun _ => dest) 0 30 = .ok r :=
      disasmUntilJump_isOk_iff.mpr hfetch
    exact ⟨_, testapp_ok_iff.mpr ⟨rom, dest, sec, store, hload, hdest, hsweep, rfl⟩⟩

/-- One line for each instruction of the handler, in order. Its label is the address of the
instruction, moved on by the length of the whole code. -/
structure ListsHandler (rom : SNESROM) (dest : ROMAddress) (lines : List ListedLine) : Prop where
  reached_iff : ∀ k, HandlerReached rom dest k ↔ k < lines.length
  line : ∀ k (hk : k < lines.length), ∃ ins next,
    fetchInstruction (Disasm.source ⟨rom, {}⟩) {} (handlerAddress rom dest k) = .ok (ins, next) ∧
      lines[k] = listed ((handlerAddress rom dest k).advance
        (codeLength (Disasm.source ⟨rom, {}⟩) {} dest lines.length)) ins

theorem printInstructions_length (pos : AddressRef) (store : AddressStore)
    (instructions : List Instruction) :
    (printInstructions pos store instructions).1.length = instructions.length := by
  induction instructions generalizing store with
  | nil => rfl
  | cons ins rest ih => simp [printInstructions, ih]

theorem Swept.listsHandler {rom : SNESROM} {dest : ROMAddress} {sec : Section}
    {store' : AddressStore}
    (h : Swept (Disasm.source ⟨rom, {}⟩) {} (fun _ => dest) 0 30 sec store') :
    ListsHandler rom dest (readListing (listing 0 store' sec.instructions)) := by
  have hlines := readListing_listing h.sized 0 store'
  have hlength : (readListing (listing 0 store' sec.instructions)).length =
      sec.instructions.length := by
    rw [hlines, List.length_map, printInstructions_length]
  constructor
  · intro k
    rw [hlength]
    exact h.reached_iff k
  · intro k hk
    rw [hlength] at hk ⊢
    refine ⟨sec.instructions[k], _, h.fetched hk, ?_⟩
    have hcursor : store' 0 =
        dest.advance (codeLength (Disasm.source ⟨rom, {}⟩) {} dest sec.instructions.length) := by
      rw [h.store_eq, Function.update_self, codeAddress_eq_advance]
    have hprinted := printInstructions_getElem? 0 store' sec.instructions k
    rw [List.getElem?_eq_getElem hk, Option.map_some, h.totalSize_take (Nat.le_of_lt hk), hcursor,
      ROMAddress.advance_advance] at hprinted
    have hline := congrArg (Option.map fun line => listed line.1 line.2) hprinted
    rw [← List.getElem?_map, ← hlines, List.getElem?_eq_getElem (by rwa [hlength]),
      Option.map_some] at hline
    rw [Option.some.inj hline, handlerAddress, codeAddress_eq_advance, ROMAddress.advance_advance,
      Nat.add_comm]

/-- A complete run prints the code of the reset handler behind the banner, at most 30 instructions
up to and with the first jump. -/
theorem testapp_lists_reset_handler (version_string : String) (file : Option Bytes) (cout : Stream)
    (hrun : testapp version_string file = .ok cout) :
    ∃ rom dest text, SNESROM.load (readBytesFromFile file) = .ok rom ∧
      rom.header.getInterruptDest (.emulation .RESET) = .ok dest ∧
      cout.written = (banner version_string).written ++ text ∧
      ListsHandler rom dest (readListing text) := by
  obtain ⟨rom, dest, sec, store, hload, hdest, hsweep, rfl⟩ := testapp_ok_iff.mp hrun
  exact ⟨rom, dest, _, hload, hdest, printSection_written _ _ _ _,
    (disasmUntilJump_ok_iff.mp hsweep).listsHandler⟩

section Reach

variable {rom : SNESROM} {dest : ROMAddress}

theorem handlerAddress_near (hdest : dest.m_Address.toNat < 0x10000) {k : Nat}
    (hreached : HandlerReached rom dest k) :
    (handlerAddress rom dest k).m_Address.toNat < 0x10000 + 4 * 30 := by
  have hk : k < 30 := hreached.lt
  have hlength : codeLength (Disasm.source ⟨rom, {}⟩) {} dest k ≤ 4 * k := codeLength_le dest k
  rw [handlerAddress, codeAddress_eq_advance, ROMAddress.advance_toNat]
  omega

theorem readsImage_of_fetch {disasm : Disasm} {address : ROMAddress} (haligned : Aligned disasm.m_ROM)
    (hram : ¬(address.bank = 0x7E ∨ address.bank = 0x7F))
    (hfetch : ∃ r, fetchInstruction disasm.source disasm.m_State address = .ok r) :
    ReadsImage disasm address := by
  obtain ⟨data, hdata, hread⟩ := (fetchInstruction_isOk_iff address).mp hfetch
  obtain ⟨image, himage, rfl⟩ := Disasm.source_ok hdata
  have hpos : 0 < codeSize disasm.source disasm.m_State address := codeSize_pos address
  have hlast := hread (codeSize disasm.source disasm.m_State address - 1) (by omega)
  have hinside := (Pointer.deref_isOk_iff _ _).mp hlast
  have hbase := haligned.base_le
  have hdecoded := (toImageAddress_ok_iff address image).mp himage
  rw [if_neg hram] at hdecoded
  rw [readsImage_iff, ← hdecoded.2]
  refine ⟨hram, hdecoded.1, ?_⟩
  simp only [SNESROM.headerless, Pointer.advance_memory, Pointer.advance_offset] at hinside
  rw [SNESROM.headerlessSize]
  omega

theorem handlerInWindow_of_fetch {file : Bytes} (hload : SNESROM.load file = .ok rom)
    (hheader : rom.header.isValid = true)
    (hdest : rom.header.getInterruptDest (.emulation .RESET) = .ok dest)
    (hfetch : ∀ k, HandlerReached rom dest k → ∃ r,
      fetchInstruction (Disasm.source ⟨rom, {}⟩) {} (handlerAddress rom dest k) = .ok r) :
    HandlerInWindow ⟨rom, {}⟩ (.emulation .RESET) 30 := by
  obtain ⟨haligned, _, dest', hdest', hbank⟩ :=
    load_getInterruptDest hload hheader (.emulation .RESET)
  obtain rfl := Except.ok.inj (hdest.symm.trans hdest')
  intro dest₂ hdest₂ k hreached
  obtain rfl := Except.ok.inj (hdest.symm.trans hdest₂)
  apply inHandlerWindow_of_readsImage hbank _ k hreached
  intro i hi
  have hnear := handlerAddress_near hbank hi
  apply readsImage_of_fetch haligned _ (hfetch i hi)
  rw [ROMAddress.bank_eq_iff, ROMAddress.bank_eq_iff, show (0x7E : UInt8).toNat = 0x7E from rfl,
    show (0x7F : UInt8).toNat = 0x7F from rfl]
  omega

theorem testapp_of_handlerInWindow {file : Option Bytes}
    (hload : SNESROM.load (readBytesFromFile file) = .ok rom)
    (hheader : rom.header.isValid = true)
    (hwindow : HandlerInWindow ⟨rom, {}⟩ (.emulation .RESET) 30) (version_string : String) :
    ∃ cout, testapp version_string file = .ok cout := by
  obtain ⟨haligned, hsize, dest, hdest, _⟩ :=
    load_getInterruptDest hload hheader (.emulation .RESET)
  rw [testapp_isOk_iff]
  refine ⟨rom, dest, hload, hdest, ?_⟩
  intro k hreached
  exact ((hwindow dest hdest k hreached).readsImage haligned hsize).fetch haligned

theorem isValid_of_getInterruptDest {header : SNESROMHeader}
    {vector : SNESROMHeader.InterruptVector} (h : header.getInterruptDest vector = .ok dest) :
    header.isValid = true := by
  rw [SNESROMHeader.isValid]
  cases hdata : header.m_HeaderData with
  | some pointer => rfl
  | none =>
    cases vector <;>
      simp [SNESROMHeader.getInterruptDest, SNESROMHeader.interruptDest, hdata, nonNull, bind,
        Except.bind] at h

end Reach

/-- The run gets to the end of its output exactly when the constructor returns with a header and the
code from the reset vector stays in the window of that vector. -/
theorem testapp_completes_iff (version_string : String) (file : Option Bytes) :
    (∃ cout, testapp version_string file = .ok cout) ↔
      ∃ rom, SNESROM.load (readBytesFromFile file) = .ok rom ∧ rom.header.isValid = true ∧
        HandlerInWindow ⟨rom, {}⟩ (.emulation .RESET) 30 := by
  constructor
  · intro h
    obtain ⟨rom, dest, hload, hdest, hfetch⟩ := (testapp_isOk_iff version_string file).mp h
    have hheader := isValid_of_getInterruptDest hdest
    exact ⟨rom, hload, hheader, handlerInWindow_of_fetch hload hheader hdest hfetch⟩
  · intro h
    obtain ⟨rom, hload, hheader, hwindow⟩ := h
    exact testapp_of_handlerInWindow hload hheader hwindow version_string

namespace SNESROM

theorem candidates_header (highByte : UInt8) :
    (loaded (candidates 0x20 highByte)).header.isValid = true ∧
      (loaded (candidates 0x20 highByte)).header.getInterruptDest (.emulation .RESET) =
        .ok ⟨.LoROMAddress, 0⟩ := by
  have hselected := candidates_selected_low 0x20 highByte (by decide)
  have hfits : 0x7FC0 + 64 ≤ (loaded (candidates 0x20 highByte)).headerlessSize := by
    rw [loaded_candidates_headerlessSize]
    decide
  constructor
  · exact (loaded_isValid_iff _).mpr ⟨_, hselected⟩
  · have hlayout : (loaded (candidates 0x20 highByte)).imageByte (0x7FC0 + 21) = 0x20 := by
      rw [loaded_imageByte, candidates_imageByte, if_neg (by decide), if_pos (by decide)]
    have hvector (i : Nat) (hi : 0x7FC0 + i ≠ 0xFFD5) (hlow : 0x7FC0 + i ≠ 0x7FD5) :
        (loaded (candidates 0x20 highByte)).imageByte (0x7FC0 + i) = 0 := by
      rw [loaded_imageByte, candidates_imageByte, if_neg hi, if_neg hlow]
    rw [loaded_header_eq, hselected, Option.map_some,
      SNESROMHeader.getInterruptDest_eq aligned_loaded hfits, hlayout,
      hvector _ (by decide) (by decide), hvector _ (by decide) (by decide)]
    rfl

theorem testapp_candidates (version_string : String) (highByte : UInt8) :
    ∃ cout, testapp version_string (some (candidates 0x20 highByte)) = .ok cout := by
  obtain ⟨hheader, hdest⟩ := candidates_header highByte
  have hload : load (readBytesFromFile (some (candidates 0x20 highByte))) =
      .ok (loaded (candidates 0x20 highByte)) := load_candidates 0x20 highByte
  refine testapp_of_handlerInWindow hload hheader ?_ version_string
  intro dest hdest' k hreached
  obtain rfl := Except.ok.inj (hdest.symm.trans hdest')
  exact inHandlerWindow_of_low rfl (by decide) hreached.lt

end SNESROM

theorem testapp_lists_candidates :
    ∃ (cout : Stream) (rom : SNESROM) (dest : ROMAddress) (text : List Char),
      SNESROM.load (readBytesFromFile (some (SNESROM.candidates 0x20 0))) = .ok rom ∧
      rom.header.getInterruptDest (.emulation .RESET) = .ok dest ∧
      cout.written = (banner "1.0").written ++ text ∧
      ListsHandler rom dest (readListing text) := by
  obtain ⟨cout, hrun⟩ := SNESROM.testapp_candidates "1.0" 0
  exact ⟨cout, testapp_lists_reset_handler "1.0" (some (SNESROM.candidates 0x20 0)) cout hrun⟩

end SnesDisasm
