import SnesDisasm.Load.Probes

/-!
# Which files load without a read outside

Only the length modulo 512 is checked before the probes read the file.
-/

namespace SnesDisasm
open FetchLoop

/-- A run that meets no read outside the file; a fault ends the run at the first one. -/
def ReadsInside {α : Type} (run : Except Fault α) : Prop := ∀ i, run ≠ .error (.outOfBounds i)

@[simp] theorem readsInside_ok {α : Type} (a : α) : ReadsInside (.ok a) ↔ True := by
  simp [ReadsInside]

@[simp] theorem readsInside_outOfBounds {α : Type} (i : Nat) :
    ReadsInside (.error (.outOfBounds i) : Except Fault α) ↔ False := by
  simp [ReadsInside]

theorem readsInside_bind {α β : Type} (first : Except Fault α) (rest : α → Except Fault β) :
    ReadsInside (first >>= rest) ↔ ReadsInside first ∧ ∀ a, first = .ok a → ReadsInside (rest a) := by
  cases first with
  | error fault => simp [bind, Except.bind, ReadsInside]
  | ok a => simp [bind, Except.bind]

theorem readsInside_step {α β : Type} {first : Except Fault α} (rest : Except Fault β)
    (hfirst : ReadsInside first → ∃ a, first = .ok a) :
    ReadsInside (first >>= fun _ => rest) ↔ ReadsInside first ∧ ReadsInside rest := by
  rw [readsInside_bind]
  constructor
  · intro h
    rcases h with ⟨hinside, hrest⟩
    obtain ⟨a, ha⟩ := hfirst hinside
    exact ⟨hinside, hrest a ha⟩
  · intro h
    rcases h with ⟨hinside, hrest⟩
    exact ⟨hinside, fun _ _ => hrest⟩

namespace SNESROM

def opened (file : Bytes) : SNESROM :=
  { m_actualImageData := file, m_headerlessImageData := file.length % 1024 }

def withSMCHeader (file : Bytes) : SNESROM :=
  { opened file with m_SMCHeader := ⟨some ⟨file, 0⟩⟩ }

def declaredAddress (file : Bytes) : Nat := if file.getD 2 0 = 0x00 then 0x7FC0 else 0xFFC0

/-- A header at `0x7FC0` that the probes settle on without looking further. -/
def FirstHeaderDecides (file : Bytes) : Prop :=
  (opened file).HeaderLike 0x7FC0 ∧
    (file.length % 1024 ≠ 0 → file.getD 2 0 = 0x00 ∧ (opened file).NamesLayout 0x7FD5)

theorem headerlessSize_opened {file : Bytes} :
    (opened file).headerlessSize = file.length - file.length % 1024 := rfl

theorem aligned_opened {file : Bytes} : Aligned (opened file) where
  base_le := Nat.mod_le _ _
  whole := by
    rw [headerlessSize_opened]
    omega

theorem aligned_withSMCHeader {file : Bytes} : Aligned (withSMCHeader file) :=
  ⟨aligned_opened.base_le, aligned_opened.whole⟩

theorem aligned_withHeader {rom : SNESROM} (h : Aligned rom) (headerAddress : Nat) :
    Aligned (rom.withHeader headerAddress) := ⟨h.base_le, h.whole⟩

section Reads

variable {rom : SNESROM} (hrom : Aligned rom)
include hrom

theorem readsInside_probeHeader (headerAddress : Nat) (hend : (headerAddress + 64) % 1024 = 0) :
    ReadsInside (rom.probeHeader headerAddress) ↔ headerAddress + 64 ≤ rom.headerlessSize := by
  rw [probeHeader_eq hrom headerAddress hend]
  split <;> simp [*]

theorem readsInside_probeKnownOffsets :
    ReadsInside rom.probeKnownOffsets ↔
      0x8000 ≤ rom.headerlessSize ∧ (rom.HeaderLike 0x7FC0 ∨ 0x10000 ≤ rom.headerlessSize) := by
  rw [probeKnownOffsets_eq hrom]
  by_cases hlow : 0x8000 ≤ rom.headerlessSize
  · by_cases hlike : rom.HeaderLike 0x7FC0
    · simp [hlow, hlike]
    · simp [hlow, hlike, readsInside_probeHeader hrom 0xFFC0 (by decide)]
  · simp [hlow]

theorem readsInside_checkRomLayout :
    ReadsInside rom.checkRomLayout ↔
      0x8000 ≤ rom.headerlessSize ∧ (rom.NamesLayout 0x7FD5 ∨ 0x10000 ≤ rom.headerlessSize) := by
  rw [checkRomLayout_eq hrom]
  by_cases hlow : 0x8000 ≤ rom.headerlessSize
  · by_cases hnamed : rom.NamesLayout 0x7FD5
    · simp [hlow, hnamed]
    · by_cases hhigh : 0x10000 ≤ rom.headerlessSize
      · simp [hlow, hnamed, hhigh]
      · simp [hlow, hnamed, hhigh]
  · simp [hlow]

theorem checkRomLayout_isOk (hinside : ReadsInside rom.checkRomLayout) :
    ∃ layout, rom.checkRomLayout = .ok layout := by
  rw [readsInside_checkRomLayout hrom] at hinside
  rw [checkRomLayout_eq hrom, if_pos hinside.1]
  by_cases hnamed : rom.NamesLayout 0x7FD5
  · exact ⟨_, if_pos hnamed⟩
  · rw [if_neg hnamed, if_pos (hinside.2.resolve_left hnamed)]
    exact ⟨_, rfl⟩

end Reads

theorem load_eq {file : Bytes} (hlength : file.length % 512 = 0) (hpos : 0 < file.length) :
    load file = findHeader (opened file) := by
  simp only [load, assert_true hlength, assert_true (show file.length > 0 from hpos), bind,
    Except.bind]
  rfl

theorem findHeader_plain {file : Bytes} (hplain : file.length % 1024 = 0) :
    findHeader (opened file) = (opened file).probeKnownOffsets := by
  have hskip : ¬(opened file).m_actualImageData.length % 1024 ≠ 0 := not_not.mpr hplain
  rw [findHeader, if_neg hskip]
  rfl

theorem findHeader_smc {file : Bytes} (hsmc : file.length % 1024 ≠ 0) :
    findHeader (opened file) = (do
      let rom ← (opened file).probeDeclaredLayout
      if rom.m_SNESROMHeader.isValid then .ok rom else rom.probeKnownOffsets) := by
  have hbranch : (opened file).m_actualImageData.length % 1024 ≠ 0 := hsmc
  rw [findHeader, if_pos hbranch]

theorem probeDeclaredLayout_eq {file : Bytes} (hlength : 2 < file.length) :
    (opened file).probeDeclaredLayout = (do
      let rom ← (withSMCHeader file).probeHeader (declaredAddress file)
      let _ ← rom.checkRomLayout
      return rom) := by
  have hbyte : Pointer.deref ⟨file, 0⟩ 2 = .ok (file.getD 2 0) :=
    Pointer.deref_of_lt ⟨file, 0⟩ 2 (by simpa using hlength)
  by_cases hlo : file.getD 2 0 = 0x00
  · simp only [probeDeclaredLayout, SMCHeader.load, SMCHeader.layout, nonNull, opened, hbyte,
      declaredAddress, hlo, if_true, bind, Except.bind, pure, Except.pure]
    rfl
  · simp only [probeDeclaredLayout, SMCHeader.load, SMCHeader.layout, nonNull, opened, hbyte,
      declaredAddress, hlo, if_false, bind, Except.bind, pure, Except.pure]
    rfl

private theorem readsInside_after_probe {rom : SNESROM} (hrom : Aligned rom) :
    ReadsInside (do
      let rom ← (do
        let _ ← rom.checkRomLayout
        return rom : Except Fault SNESROM)
      if rom.m_SNESROMHeader.isValid then .ok rom else rom.probeKnownOffsets) ↔
      (0x8000 ≤ rom.headerlessSize ∧ (rom.NamesLayout 0x7FD5 ∨ 0x10000 ≤ rom.headerlessSize)) ∧
        (rom.m_SNESROMHeader.isValid = true ∨ rom.HeaderLike 0x7FC0 ∨
          0x10000 ≤ rom.headerlessSize) := by
  simp only [bind_assoc, pure_bind]
  rw [readsInside_step _ (checkRomLayout_isOk hrom), readsInside_checkRomLayout hrom]
  cases hvalid : rom.m_SNESROMHeader.isValid with
  | true => simp
  | false =>
    simp only [Bool.false_eq_true, if_false, readsInside_probeKnownOffsets hrom, false_or]
    constructor
    · intro h
      rcases h with ⟨hcheck, _, hknown⟩
      exact ⟨hcheck, hknown⟩
    · intro h
      rcases h with ⟨hcheck, hknown⟩
      exact ⟨hcheck, hcheck.1, hknown⟩

private theorem readsInside_smc {file : Bytes} (hlength : 2 < file.length)
    (hsmc : file.length % 1024 ≠ 0) :
    ReadsInside (findHeader (opened file)) ↔
      declaredAddress file + 64 ≤ (opened file).headerlessSize ∧
        (0x8000 ≤ (opened file).headerlessSize ∧
          ((opened file).NamesLayout 0x7FD5 ∨ 0x10000 ≤ (opened file).headerlessSize)) ∧
        ((opened file).HeaderLike (declaredAddress file) ∨
          (opened file).HeaderLike 0x7FC0 ∨ 0x10000 ≤ (opened file).headerlessSize) := by
  have hrom : Aligned (withSMCHeader file) := aligned_withSMCHeader
  have hend : (declaredAddress file + 64) % 1024 = 0 := by
    unfold declaredAddress
    split <;> rfl
  -- the SMC header changes nothing that the probes look at
  have hsize : (withSMCHeader file).headerlessSize = (opened file).headerlessSize := rfl
  have hlike (a : Nat) : (withSMCHeader file).HeaderLike a ↔ (opened file).HeaderLike a := Iff.rfl
  rw [findHeader_smc hsmc, probeDeclaredLayout_eq hlength, probeHeader_eq hrom _ hend, hsize]
  by_cases hfits : declaredAddress file + 64 ≤ (opened file).headerlessSize
  · rw [if_pos hfits]
    by_cases hfound : (opened file).HeaderLike (declaredAddress file)
    · rw [if_pos ((hlike _).mpr hfound)]
      refine (readsInside_after_probe (aligned_withHeader hrom _)).trans ?_
      simp only [hfits, hfound, true_and, true_or]
      exact and_congr_right fun _ => iff_of_true (Or.inl rfl) trivial
    · rw [if_neg (mt (hlike _).mp hfound)]
      refine (readsInside_after_probe hrom).trans ?_
      simp only [hfits, hfound, true_and, false_or]
      exact and_congr_right fun _ => or_iff_right Bool.false_ne_true
  · simp [hfits, bind, Except.bind]

/-- Loading an accepted file reads no byte outside it exactly when its image has 64 KiB, or has 32
KiB and its first header decides. -/
theorem load_reads_inside_iff (file : Bytes) (hlength : file.length % 512 = 0)
    (hpos : 0 < file.length) :
    ReadsInside (load file) ↔
      0x10000 ≤ (opened file).headerlessSize ∨
        (0x8000 ≤ (opened file).headerlessSize ∧ FirstHeaderDecides file) := by
  rw [load_eq hlength hpos, FirstHeaderDecides]
  by_cases hsmc : file.length % 1024 = 0
  · rw [findHeader_plain hsmc, readsInside_probeKnownOffsets aligned_opened]
    simp only [hsmc, ne_eq, not_true_eq_false, false_implies, and_true]
    constructor
    · intro h
      rcases h with ⟨hlow, hlike | hhigh⟩
      · exact Or.inr ⟨hlow, hlike⟩
      · exact Or.inl hhigh
    · intro h
      rcases h with hhigh | ⟨hlow, hlike⟩
      · exact ⟨by omega, Or.inr hhigh⟩
      · exact ⟨hlow, Or.inl hlike⟩
  · rw [readsInside_smc (by omega) hsmc]
    simp only [hsmc, ne_eq, not_false_eq_true, true_implies]
    by_cases hhigh : 0x10000 ≤ (opened file).headerlessSize
    · have hfits : declaredAddress file + 64 ≤ (opened file).headerlessSize := by
        unfold declaredAddress
        split <;> omega
      simp only [hhigh, hfits, or_true, and_true, true_and, true_or, iff_true]
      omega
    · by_cases hlo : file.getD 2 0 = 0x00
      · have haddress : declaredAddress file = 0x7FC0 := if_pos hlo
        simp only [haddress, hhigh, hlo, or_false, false_or, or_self, true_and]
        constructor
        · intro h
          rcases h with ⟨_, ⟨hlow, hnamed⟩, hlike⟩
          exact ⟨hlow, hlike, hnamed⟩
        · intro h
          rcases h with ⟨hlow, hlike, hnamed⟩
          exact ⟨hlow, ⟨hlow, hnamed⟩, hlike⟩
      · have haddress : declaredAddress file = 0xFFC0 := if_neg hlo
        simp only [haddress, hhigh, hlo, false_and, and_false, or_self]

theorem load_reads_inside_blank : ReadsInside (load (List.replicate 0x10000 0)) :=
  (load_reads_inside_iff (List.replicate 0x10000 0) (by rw [List.length_replicate])
    (by rw [List.length_replicate]; decide)).mpr
    (Or.inl (by rw [headerlessSize_opened, List.length_replicate]))

theorem load_smc_header_only :
    (List.replicate 512 (0 : UInt8)).length % 512 = 0 ∧
      0 < (List.replicate 512 (0 : UInt8)).length ∧
      ¬ReadsInside (load (List.replicate 512 0)) := by
  refine ⟨by rw [List.length_replicate], by rw [List.length_replicate]; decide, ?_⟩
  intro hinside
  have hload : load (List.replicate 512 0) = .error (.outOfBounds 33237) := by decide +kernel
  exact hinside 33237 hload

/-- A header in the object is one of the two probed ones and lies inside the image. -/
structure HeaderInside (rom : SNESROM) : Prop where
  aligned : Aligned rom
  inside : ∀ m_HeaderData, rom.m_SNESROMHeader.m_HeaderData = some m_HeaderData →
    ∃ headerAddress, (headerAddress = 0x7FC0 ∨ headerAddress = 0xFFC0) ∧
      headerAddress + 64 ≤ rom.headerlessSize ∧
      m_HeaderData = rom.headerless.advance headerAddress

theorem HeaderInside.unset {rom : SNESROM} (hrom : Aligned rom)
    (hnone : rom.m_SNESROMHeader.m_HeaderData = none) : HeaderInside rom where
  aligned := hrom
  inside := by
    intro m_HeaderData h
    rw [hnone] at h
    cases h

theorem HeaderInside.withHeader {rom : SNESROM} (hrom : Aligned rom) {headerAddress : Nat}
    (haddress : headerAddress = 0x7FC0 ∨ headerAddress = 0xFFC0)
    (hfits : headerAddress + 64 ≤ rom.headerlessSize) :
    HeaderInside (rom.withHeader headerAddress) where
  aligned := aligned_withHeader hrom headerAddress
  inside := by
    intro m_HeaderData h
    exact ⟨headerAddress, haddress, hfits, (Option.some.inj h).symm⟩

theorem probeHeader_headerInside {rom rom' : SNESROM} (hinside : HeaderInside rom)
    {headerAddress : Nat} (haddress : headerAddress = 0x7FC0 ∨ headerAddress = 0xFFC0)
    (h : rom.probeHeader headerAddress = .ok rom') : HeaderInside rom' := by
  have hend : (headerAddress + 64) % 1024 = 0 := by
    rcases haddress with rfl | rfl <;> rfl
  rw [probeHeader_eq hinside.aligned headerAddress hend] at h
  by_cases hfits : headerAddress + 64 ≤ rom.headerlessSize
  · rw [if_pos hfits] at h
    obtain rfl := Except.ok.inj h
    by_cases hlike : rom.HeaderLike headerAddress
    · rw [if_pos hlike]
      exact .withHeader hinside.aligned haddress hfits
    · rw [if_neg hlike]
      exact hinside
  · rw [if_neg hfits] at h
    cases h

theorem probeKnownOffsets_headerInside {rom rom' : SNESROM} (hinside : HeaderInside rom)
    (h : rom.probeKnownOffsets = .ok rom') : HeaderInside rom' := by
  rw [probeKnownOffsets_eq hinside.aligned] at h
  by_cases hfits : 0x8000 ≤ rom.headerlessSize
  · rw [if_pos hfits] at h
    by_cases hlike : rom.HeaderLike 0x7FC0
    · rw [if_pos hlike] at h
      obtain rfl := Except.ok.inj h
      exact .withHeader hinside.aligned (Or.inl rfl) hfits
    · rw [if_neg hlike] at h
      exact probeHeader_headerInside hinside (Or.inr rfl) h
  · rw [if_neg hfits] at h
    cases h

theorem load_accepted {file : Bytes} {rom : SNESROM} (h : load file = .ok rom) :
    file.length % 512 = 0 ∧ 0 < file.length := by
  by_contra hnot
  rw [not_and_or] at hnot
  simp only [load, bind_ok_iff, assert] at h
  obtain ⟨_, hfirst, _, hsecond, _⟩ := h
  rcases hnot with hnot | hnot
  · simp [hnot] at hfirst
  · simp [hnot] at hsecond

theorem load_headerInside {file : Bytes} {rom : SNESROM} (h : load file = .ok rom) :
    HeaderInside rom := by
  obtain ⟨hlength, hpos⟩ := load_accepted h
  rw [load_eq hlength hpos] at h
  by_cases hsmc : file.length % 1024 = 0
  · rw [findHeader_plain hsmc] at h
    exact probeKnownOffsets_headerInside (.unset aligned_opened rfl) h
  · rw [findHeader_smc hsmc, probeDeclaredLayout_eq (by omega)] at h
    obtain ⟨rom₁, hdeclared, hknown⟩ := bind_ok_iff.mp h
    obtain ⟨rom₂, hprobe, hcheck⟩ := bind_ok_iff.mp hdeclared
    obtain ⟨_, _, hsame⟩ := bind_ok_iff.mp hcheck
    obtain rfl := Except.ok.inj hsame
    have hinside : HeaderInside rom₂ := by
      refine probeHeader_headerInside (.unset aligned_withSMCHeader rfl) ?_ hprobe
      unfold declaredAddress
      split
      · exact Or.inl rfl
      · exact Or.inr rfl
    by_cases hvalid : rom₂.m_SNESROMHeader.isValid = true
    · rw [if_pos hvalid] at hknown
      obtain rfl := Except.ok.inj hknown
      exact hinside
    · rw [if_neg hvalid] at hknown
      exact probeKnownOffsets_headerInside hinside hknown

theorem load_without_header {file : Bytes} (hwhole : file.length % 1024 = 0)
    (hhigh : 0x10000 ≤ file.length) (hlow : ¬(opened file).HeaderLike 0x7FC0)
    (hlike : ¬(opened file).HeaderLike 0xFFC0) : load file = .ok (opened file) := by
  have hsize : 0x10000 ≤ (opened file).headerlessSize := by
    rw [headerlessSize_opened]
    omega
  rw [load_eq (by omega) (by omega), findHeader_plain hwhole, probeKnownOffsets_eq aligned_opened,
    if_pos (by omega), if_neg hlow, probeHeader_eq aligned_opened _ (by decide), if_pos hsize,
    if_neg hlike]

/-- Some code at the beginning of an image of 64 KiB, and zeros behind it. -/
def startingWith (code : Bytes) : SNESROM :=
  { m_actualImageData := code ++ List.replicate (0x10000 - code.length) 0
    m_headerlessImageData := 0 }

theorem headerlessSize_startingWith {code : Bytes} (hcode : code.length ≤ 0x10000) :
    (startingWith code).headerlessSize = 0x10000 := by
  simp only [headerlessSize, startingWith, List.length_append, List.length_replicate]
  omega

def uniform (byte : UInt8) : SNESROM :=
  { m_actualImageData := List.replicate 0x10000 byte, m_headerlessImageData := 0 }

theorem load_uniform {byte : UInt8} (h : ¬(byte &&& 0x20 ≠ 0 ∧ byte < 0x0E)) :
    load (List.replicate 0x10000 byte) = .ok (uniform byte) := by
  have hlength : (List.replicate 0x10000 byte).length = 0x10000 := List.length_replicate
  have hbyte (offset : Nat) (hoffset : offset < 0x10000) :
      (opened (List.replicate 0x10000 byte)).imageByte offset = byte := by
    simp only [imageByte, opened, hlength]
    rw [List.getD_eq_getElem _ _ (by rw [hlength]; omega), List.getElem_replicate]
  have hlike (headerAddress : Nat) (hfits : headerAddress + 64 ≤ 0x10000) :
      ¬(opened (List.replicate 0x10000 byte)).HeaderLike headerAddress := by
    rwa [HeaderLike, hbyte _ (by simp only [SNESROMHeader.m_ROMLayoutIndex]; omega),
      hbyte _ (by simp only [SNESROMHeader.m_CountryCodeIndex]; omega)]
  rw [load_without_header (by rw [hlength]) (by rw [hlength]) (hlike _ (by decide))
    (hlike _ (by decide)), opened, uniform, hlength]

end SNESROM

end SnesDisasm
