import SnesDisasm.Address.Mapping
import SnesDisasm.Load.Header
import SnesDisasm.Load.Selection
import SnesDisasm.Sweep.Cursor

/-!
# Images with and without an SMC header

Both loads show the same unless they have selected different headers.
-/

namespace SnesDisasm
open FetchLoop

namespace SNESROM

/-- Both objects show the same header, interrupt vectors, bytes and sections. -/
structure SameView (rom rom' : SNESROM) : Prop where
  found : rom.header.isValid = rom'.header.isValid
  offset : ∀ headerAddress, PointsAt rom headerAddress ↔ PointsAt rom' headerAddress
  interruptDest : ∀ vector,
    rom.header.getInterruptDest vector = rom'.header.getInterruptDest vector
  bytes : ∀ address, RomMapped address → ∀ i byte,
    rom.readAt address i = .ok byte ↔ rom'.readAt address i = .ok byte
  disassembly : ∀ state store start maxInstructions r,
    Disasm.disasmUntilJump ⟨rom, state⟩ store start maxInstructions = .ok r ↔
      Disasm.disasmUntilJump ⟨rom', state⟩ store start maxInstructions = .ok r

theorem readsThrough_of_bytes {rom rom' : SNESROM} {state : MachineState}
    (hbytes : ∀ a i byte, (rom.headerless.advance a).deref i = .ok byte →
      (rom'.headerless.advance a).deref i = .ok byte) :
    ReadsThrough (Disasm.source ⟨rom, state⟩) (Disasm.source ⟨rom', state⟩) := by
  intro pos data hdata
  cases himage : pos.toImageAddress with
  | error fault => simp [Disasm.source, index, himage, bind, Except.bind, Except.map] at hdata
  | ok image =>
    obtain rfl := Except.ok.inj ((Disasm.source_eq himage).symm.trans hdata)
    exact ⟨_, Disasm.source_eq himage, hbytes image.toNat⟩

theorem SameView.selectedHeader_eq {file file' : Bytes}
    (h : SameView (loaded file) (loaded file')) : selectedHeader file = selectedHeader file' := by
  apply Option.ext
  intro headerAddress
  rw [← pointsAt_loaded_iff, ← pointsAt_loaded_iff]
  exact h.offset headerAddress

section Prefix

variable {smcHeader image : Bytes}

theorem prefixed_deref_iff {position : Nat} {byte : UInt8} {a i : Nat}
    (hposition : smcHeader.length = position) :
    ((⟨smcHeader ++ image, position⟩ : Pointer).advance a).deref i = .ok byte ↔
      ((⟨image, 0⟩ : Pointer).advance a).deref i = .ok byte := by
  rw [Pointer.deref_ok_iff, Pointer.deref_ok_iff]
  simp only [Pointer.advance_memory, Pointer.advance_offset]
  rw [List.getElem?_append_right (by omega), ← hposition, Nat.zero_add]
  have hindex : smcHeader.length + a + i - smcHeader.length = a + i := by omega
  rw [hindex]

variable (hheader : smcHeader.length = 512) (himage : image.length % 1024 = 0)
include hheader himage

theorem prefixed_getInterruptDest (hsize : 0x10000 ≤ (opened image).headerlessSize)
    (hselected : selectedHeader (smcHeader ++ image) = selectedHeader image)
    (vector : SNESROMHeader.InterruptVector) :
    (loaded (smcHeader ++ image)).header.getInterruptDest vector =
      (loaded image).header.getInterruptDest vector := by
  rw [loaded_header_eq, loaded_header_eq, hselected]
  cases hfound : selectedHeader image with
  | none => rfl
  | some headerAddress =>
    have haddress := (selectedHeader_like hfound).1
    have hfits : headerAddress + 64 ≤ (loaded image).headerlessSize := by
      rw [loaded_headerlessSize]
      omega
    have hfits' : headerAddress + 64 ≤ (loaded (smcHeader ++ image)).headerlessSize := by
      rw [loaded_headerlessSize, prefixed_headerlessSize hheader himage]
      omega
    rw [Option.map_some, Option.map_some,
      SNESROMHeader.getInterruptDest_eq aligned_loaded hfits',
      SNESROMHeader.getInterruptDest_eq aligned_loaded hfits]
    simp only [loaded_imageByte, prefixed_imageByte hheader himage]

theorem prefixed_sameView (hsize : 0x10000 ≤ (opened image).headerlessSize)
    (hselected : selectedHeader (smcHeader ++ image) = selectedHeader image) :
    SameView (loaded (smcHeader ++ image)) (loaded image) := by
  have hbytes (a i : Nat) (byte : UInt8) :
      ((loaded (smcHeader ++ image)).headerless.advance a).deref i = .ok byte ↔
        ((loaded image).headerless.advance a).deref i = .ok byte := by
    rw [loaded_headerless, loaded_headerless, prefixed_length_mod hheader himage, himage]
    exact prefixed_deref_iff hheader
  refine ⟨?_, ?_, ?_, ?_, ?_⟩
  · rw [SNESROMHeader.isValid, SNESROMHeader.isValid, loaded_header, loaded_header, hselected,
      Option.isSome_map, Option.isSome_map]
  · intro headerAddress
    rw [pointsAt_loaded_iff, pointsAt_loaded_iff, hselected]
  · exact prefixed_getInterruptDest hheader himage hsize hselected
  · intro address _ i byte
    rw [readAt_ok_iff, readAt_ok_iff]
    simp only [hbytes]
  · intro state store start maxInstructions r
    constructor
    · exact disasmUntilJump_mono (readsThrough_of_bytes fun a i byte => (hbytes a i byte).mp)
    · exact disasmUntilJump_mono (readsThrough_of_bytes fun a i byte => (hbytes a i byte).mpr)

end Prefix

/-- An image loads to the same view with an SMC header and without it, unless both candidate headers
are plausible and byte 2 of the SMC header is not zero. -/
theorem smc_header_transparent_iff (smcHeader image : Bytes) (hheader : smcHeader.length = 512)
    (himage : image.length % 1024 = 0) (hsize : 0x10000 ≤ image.length) :
    (∃ rom rom', load (smcHeader ++ image) = .ok rom ∧ load image = .ok rom' ∧
        SameView rom rom') ↔
      ¬(smcHeader.getD 2 0 ≠ 0x00 ∧ (opened image).HeaderLike 0x7FC0 ∧
        (opened image).HeaderLike 0xFFC0) := by
  have hopened : 0x10000 ≤ (opened image).headerlessSize := by
    rw [headerlessSize_opened]
    omega
  have hlength : (smcHeader ++ image).length % 512 = 0 := by
    rw [List.length_append]
    omega
  have hload : load image = .ok (loaded image) := load_eq_loaded (by omega) hopened
  have hload' : load (smcHeader ++ image) = .ok (loaded (smcHeader ++ image)) :=
    load_eq_loaded hlength (by rwa [prefixed_headerlessSize hheader himage])
  rw [← selectedHeader_prefixed_eq_iff hheader himage]
  constructor
  · intro h
    obtain ⟨rom, rom', hrom, hrom', hview⟩ := h
    obtain rfl := Except.ok.inj (hload'.symm.trans hrom)
    obtain rfl := Except.ok.inj (hload.symm.trans hrom')
    exact hview.selectedHeader_eq
  · intro hselected
    exact ⟨_, _, hload', hload, prefixed_sameView hheader himage hopened hselected⟩

theorem smc_header_transparent_zeros :
    (∃ rom rom', load (List.replicate 512 0 ++ candidates 0x20 0) = .ok rom ∧
        load (candidates 0x20 0) = .ok rom' ∧ SameView rom rom') ↔
      ¬((List.replicate 512 (0 : UInt8)).getD 2 0 ≠ 0x00 ∧
        (opened (candidates 0x20 0)).HeaderLike 0x7FC0 ∧
        (opened (candidates 0x20 0)).HeaderLike 0xFFC0) :=
  smc_header_transparent_iff (List.replicate 512 0) (candidates 0x20 0)
    (by rw [List.length_replicate]) (by rw [candidates_length]) (by rw [candidates_length])

theorem smc_header_moves_header :
    load ((List.replicate 512 0).set 2 1 ++ candidates 0x20 0x21) =
        .ok (loaded ((List.replicate 512 0).set 2 1 ++ candidates 0x20 0x21)) ∧
      load (candidates 0x20 0x21) = .ok (loaded (candidates 0x20 0x21)) ∧
      ¬SameView (loaded ((List.replicate 512 0).set 2 1 ++ candidates 0x20 0x21))
        (loaded (candidates 0x20 0x21)) := by
  have hheader : ((List.replicate 512 (0 : UInt8)).set 2 1).length = 512 := by
    rw [List.length_set, List.length_replicate]
  have himage : (candidates 0x20 0x21).length % 1024 = 0 := by rw [candidates_length]
  have hsize : 0x10000 ≤
      (opened ((List.replicate 512 0).set 2 1 ++ candidates 0x20 0x21)).headerlessSize := by
    rw [prefixed_headerlessSize hheader himage, headerlessSize_opened, candidates_length]
  refine ⟨load_eq_loaded ?_ hsize, load_candidates 0x20 0x21, ?_⟩
  · rw [List.length_append, hheader, candidates_length]
  · intro h
    refine (selectedHeader_prefixed_eq_iff hheader himage).mp h.selectedHeader_eq ⟨?_, ?_, ?_⟩
    · rw [List.getD_eq_getElem?_getD,
        List.getElem?_set_self (by rw [List.length_replicate]; decide)]
      decide
    · exact (candidates_low_iff 0x20 0x21).mpr (by decide)
    · exact (candidates_high_iff 0x20 0x21).mpr (by decide)

end SNESROM

end SnesDisasm
