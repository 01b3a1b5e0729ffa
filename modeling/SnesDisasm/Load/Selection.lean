import SnesDisasm.Load.Bounds

/-!
# Which header is selected

The two candidate headers and one byte of an SMC header decide it.
-/

namespace SnesDisasm
open FetchLoop

namespace SNESROM

/-- `mayBeThere`, at an offset behind the SMC header. -/
def MayBeThereAt (file : Bytes) (headerAddress : Nat) : Prop :=
  SNESROMHeader.mayBeThere ⟨file, file.length % 1024 + headerAddress⟩ = .ok true

def DeclaresHiROM (file : Bytes) : Prop := file.length % 1024 ≠ 0 ∧ file.getD 2 0 ≠ 0x00

instance (file : Bytes) : Decidable (DeclaresHiROM file) := inferInstanceAs (Decidable (_ ∧ _))

/-- The header at `0xFFC0` comes first only if the SMC header declares it. -/
def TakesHighHeader (file : Bytes) : Prop :=
  (opened file).HeaderLike 0xFFC0 ∧ (DeclaresHiROM file ∨ ¬(opened file).HeaderLike 0x7FC0)

instance (file : Bytes) : Decidable (TakesHighHeader file) := inferInstanceAs (Decidable (_ ∧ _))

def selectedHeader (file : Bytes) : Option Nat :=
  if TakesHighHeader file then some 0xFFC0
  else if (opened file).HeaderLike 0x7FC0 then some 0x7FC0
  else none

theorem selectedHeader_eq_some_iff (file : Bytes) (headerAddress : Nat) :
    selectedHeader file = some headerAddress ↔
      (TakesHighHeader file ∧ headerAddress = 0xFFC0) ∨
        (¬TakesHighHeader file ∧ (opened file).HeaderLike 0x7FC0 ∧ headerAddress = 0x7FC0) := by
  unfold selectedHeader
  by_cases hhigh : TakesHighHeader file
  · simp [hhigh, eq_comm]
  · by_cases hlow : (opened file).HeaderLike 0x7FC0
    · simp [hhigh, hlow, eq_comm]
    · simp [hhigh, hlow]

theorem selectedHeader_like {file : Bytes} {headerAddress : Nat}
    (h : selectedHeader file = some headerAddress) :
    (headerAddress = 0x7FC0 ∨ headerAddress = 0xFFC0) ∧
      (opened file).HeaderLike headerAddress := by
  rw [selectedHeader_eq_some_iff] at h
  rcases h with ⟨hhigh, rfl⟩ | ⟨_, hlow, rfl⟩
  · exact ⟨Or.inr rfl, hhigh.1⟩
  · exact ⟨Or.inl rfl, hlow⟩

def unprobed (file : Bytes) : SNESROM :=
  if file.length % 1024 = 0 then opened file else withSMCHeader file

def loaded (file : Bytes) : SNESROM :=
  match selectedHeader file with
  | some headerAddress => (unprobed file).withHeader headerAddress
  | none => unprobed file

def PointsAt (rom : SNESROM) (headerAddress : Nat) : Prop :=
  rom.header.m_HeaderData = some (rom.headerless.advance headerAddress)

theorem aligned_unprobed {file : Bytes} : Aligned (unprobed file) := by
  unfold unprobed
  split
  · exact aligned_opened
  · exact aligned_withSMCHeader

theorem unprobed_headerless (file : Bytes) :
    (unprobed file).headerless = ⟨file, file.length % 1024⟩ := by
  unfold unprobed
  split <;> rfl

theorem unprobed_headerlessSize (file : Bytes) :
    (unprobed file).headerlessSize = (opened file).headerlessSize := by
  unfold unprobed
  split <;> rfl

theorem unprobed_imageByte (file : Bytes) (offset : Nat) :
    (unprobed file).imageByte offset = (opened file).imageByte offset := by
  unfold unprobed
  split <;> rfl

theorem aligned_loaded {file : Bytes} : Aligned (loaded file) := by
  unfold loaded
  split
  · exact aligned_withHeader aligned_unprobed _
  · exact aligned_unprobed

@[simp] theorem loaded_headerless (file : Bytes) :
    (loaded file).headerless = ⟨file, file.length % 1024⟩ := by
  unfold loaded
  split
  · exact unprobed_headerless file
  · exact unprobed_headerless file

theorem loaded_headerlessSize (file : Bytes) :
    (loaded file).headerlessSize = (opened file).headerlessSize := by
  unfold loaded
  split
  · exact unprobed_headerlessSize file
  · exact unprobed_headerlessSize file

theorem loaded_imageByte (file : Bytes) (offset : Nat) :
    (loaded file).imageByte offset = (opened file).imageByte offset := by
  unfold loaded
  split
  · exact unprobed_imageByte file offset
  · exact unprobed_imageByte file offset

theorem unprobed_header (file : Bytes) : (unprobed file).m_SNESROMHeader = {} := by
  unfold unprobed
  split <;> rfl

theorem loaded_header (file : Bytes) :
    (loaded file).header.m_HeaderData =
      (selectedHeader file).map fun headerAddress =>
        (loaded file).headerless.advance headerAddress := by
  rw [loaded_headerless, header, loaded]
  cases selectedHeader file with
  | none => rw [unprobed_header, Option.map_none]
  | some headerAddress =>
    rw [Option.map_some, ← unprobed_headerless]
    rfl

theorem loaded_header_eq (file : Bytes) :
    (loaded file).header =
      ⟨(selectedHeader file).map fun headerAddress =>
        (loaded file).headerless.advance headerAddress⟩ :=
  congrArg SNESROMHeader.mk (loaded_header file)

theorem pointsAt_loaded_iff (file : Bytes) (headerAddress : Nat) :
    PointsAt (loaded file) headerAddress ↔ selectedHeader file = some headerAddress := by
  rw [PointsAt, loaded_header, Option.map_eq_some_iff]
  constructor
  · intro h
    obtain ⟨a, ha, hsame⟩ := h
    have hoffset := congrArg Pointer.offset hsame
    rw [Pointer.advance_offset, Pointer.advance_offset, Nat.add_right_inj] at hoffset
    rw [ha, hoffset]
  · intro h
    exact ⟨headerAddress, h, rfl⟩

theorem loaded_isValid_iff (file : Bytes) :
    (loaded file).header.isValid = true ↔ ∃ headerAddress, selectedHeader file = some headerAddress := by
  rw [SNESROMHeader.isValid, loaded_header, Option.isSome_map, Option.isSome_iff_exists]

theorem mayBeThereAt_iff {file : Bytes} (hsize : 0x10000 ≤ (opened file).headerlessSize)
    {headerAddress : Nat} (haddress : headerAddress = 0x7FC0 ∨ headerAddress = 0xFFC0) :
    MayBeThereAt file headerAddress ↔ (opened file).HeaderLike headerAddress := by
  have hend : (headerAddress + 64) % 1024 = 0 := by
    rcases haddress with rfl | rfl <;> rfl
  have hfits : headerAddress + 64 ≤ (opened file).headerlessSize := by omega
  have hopened : Aligned (opened file) := aligned_opened
  have hprobe := mayBeThere_eq hopened headerAddress hend
  rw [if_pos hfits] at hprobe
  rw [MayBeThereAt]
  change SNESROMHeader.mayBeThere ((opened file).headerless.advance headerAddress) = _ ↔ _
  rw [hprobe, Except.ok.injEq, decide_eq_true_iff]

section Load

variable {rom : SNESROM} (hrom : Aligned rom) (hsize : 0x10000 ≤ rom.headerlessSize)
include hrom hsize

theorem probeHeader_of_size {headerAddress : Nat}
    (haddress : headerAddress = 0x7FC0 ∨ headerAddress = 0xFFC0) :
    rom.probeHeader headerAddress =
      .ok (if rom.HeaderLike headerAddress then rom.withHeader headerAddress else rom) := by
  have hend : (headerAddress + 64) % 1024 = 0 := by
    rcases haddress with rfl | rfl <;> rfl
  rw [probeHeader_eq hrom headerAddress hend, if_pos (by omega)]

theorem probeKnownOffsets_of_size :
    rom.probeKnownOffsets =
      .ok (if rom.HeaderLike 0x7FC0 then rom.withHeader 0x7FC0
        else if rom.HeaderLike 0xFFC0 then rom.withHeader 0xFFC0 else rom) := by
  rw [probeKnownOffsets_eq hrom, if_pos (by omega)]
  by_cases hlow : rom.HeaderLike 0x7FC0
  · rw [if_pos hlow, if_pos hlow]
  · rw [if_neg hlow, if_neg hlow, probeHeader_of_size hrom hsize (Or.inr rfl)]

theorem checkRomLayout_of_size :
    rom.checkRomLayout =
      .ok (if rom.NamesLayout 0x7FD5 then .LoROM
        else if rom.NamesLayout 0xFFD5 then .HiROM else .Error) := by
  rw [checkRomLayout_eq hrom, if_pos (by omega)]
  by_cases hnamed : rom.NamesLayout 0x7FD5
  · rw [if_pos hnamed, if_pos hnamed]
  · rw [if_neg hnamed, if_neg hnamed, if_pos hsize]

end Load

theorem declaredAddress_cases (file : Bytes) :
    declaredAddress file = 0x7FC0 ∨ declaredAddress file = 0xFFC0 := by
  unfold declaredAddress
  split
  · exact Or.inl rfl
  · exact Or.inr rfl

theorem findHeader_smc_of_size {file : Bytes} (hsmc : file.length % 1024 ≠ 0)
    (hsize : 0x10000 ≤ (opened file).headerlessSize) :
    findHeader (opened file) =
      if (withSMCHeader file).HeaderLike (declaredAddress file) then
        .ok ((withSMCHeader file).withHeader (declaredAddress file))
      else (withSMCHeader file).probeKnownOffsets := by
  have hrom : Aligned (withSMCHeader file) := aligned_withSMCHeader
  have hlength : 2 < file.length := by
    rw [headerlessSize_opened] at hsize
    omega
  have hlayout (rom : SNESROM) (hrom : Aligned rom) (hfits : 0x10000 ≤ rom.headerlessSize) :
      (do let _ ← rom.checkRomLayout; return rom : Except Fault SNESROM) = .ok rom := by
    rw [checkRomLayout_of_size hrom hfits]
    rfl
  rw [findHeader_smc hsmc, probeDeclaredLayout_eq hlength,
    probeHeader_of_size hrom hsize (declaredAddress_cases file)]
  by_cases hfound : (withSMCHeader file).HeaderLike (declaredAddress file)
  · rw [if_pos hfound, if_pos hfound]
    change (do let _ ← _; return _ : Except Fault SNESROM) >>= _ = _
    rw [hlayout _ (aligned_withHeader hrom _) hsize]
    rfl
  · rw [if_neg hfound, if_neg hfound]
    change (do let _ ← _; return _ : Except Fault SNESROM) >>= _ = _
    rw [hlayout _ hrom hsize]
    rfl

theorem selectedHeader_undeclared {file : Bytes} (hnone : ¬DeclaresHiROM file) :
    selectedHeader file =
      if (opened file).HeaderLike 0x7FC0 then some 0x7FC0
      else if (opened file).HeaderLike 0xFFC0 then some 0xFFC0 else none := by
  by_cases hlow : (opened file).HeaderLike 0x7FC0
  · have hskipped : ¬TakesHighHeader file := fun h => h.2.elim hnone (absurd hlow)
    rw [selectedHeader, if_neg hskipped, if_pos hlow, if_pos hlow]
  · have htaken : TakesHighHeader file ↔ (opened file).HeaderLike 0xFFC0 :=
      and_iff_left (Or.inr hlow)
    rw [selectedHeader, if_neg hlow, if_neg hlow]
    exact if_congr htaken rfl rfl

theorem selectedHeader_declared {file : Bytes} (hdeclared : DeclaresHiROM file) :
    selectedHeader file =
      if (opened file).HeaderLike 0xFFC0 then some 0xFFC0
      else if (opened file).HeaderLike 0x7FC0 then some 0x7FC0 else none := by
  have htaken : TakesHighHeader file ↔ (opened file).HeaderLike 0xFFC0 :=
    and_iff_left (Or.inl hdeclared)
  rw [selectedHeader]
  exact if_congr htaken rfl rfl

theorem selectedHeader_smc {file : Bytes} (hsmc : file.length % 1024 ≠ 0) :
    selectedHeader file =
      if (opened file).HeaderLike (declaredAddress file) then some (declaredAddress file)
      else if (opened file).HeaderLike 0x7FC0 then some 0x7FC0
      else if (opened file).HeaderLike 0xFFC0 then some 0xFFC0 else none := by
  by_cases hzero : file.getD 2 0 = 0x00
  · rw [selectedHeader_undeclared fun h => h.2 hzero, declaredAddress, if_pos hzero]
    by_cases hlow : (opened file).HeaderLike 0x7FC0
    · rw [if_pos hlow, if_pos hlow]
    · rw [if_neg hlow, if_neg hlow]
  · rw [selectedHeader_declared ⟨hsmc, hzero⟩, declaredAddress, if_neg hzero]
    by_cases hhigh : (opened file).HeaderLike 0xFFC0
    · rw [if_pos hhigh, if_pos hhigh]
    · rw [if_neg hhigh, if_neg hhigh, if_neg hhigh]

theorem load_eq_loaded {file : Bytes} (hlength : file.length % 512 = 0)
    (hsize : 0x10000 ≤ (opened file).headerlessSize) : load file = .ok (loaded file) := by
  have hpos : 0 < file.length := by
    rw [headerlessSize_opened] at hsize
    omega
  rw [load_eq hlength hpos, loaded, unprobed]
  by_cases hplain : file.length % 1024 = 0
  · rw [findHeader_plain hplain, probeKnownOffsets_of_size aligned_opened hsize, if_pos hplain,
      selectedHeader_undeclared fun h => h.1 hplain]
    by_cases hlow : (opened file).HeaderLike 0x7FC0
    · rw [if_pos hlow, if_pos hlow]
    · by_cases hhigh : (opened file).HeaderLike 0xFFC0
      · rw [if_neg hlow, if_pos hhigh, if_neg hlow, if_pos hhigh]
      · rw [if_neg hlow, if_neg hhigh, if_neg hlow, if_neg hhigh]
  · have hlike (a : Nat) : (withSMCHeader file).HeaderLike a ↔ (opened file).HeaderLike a := Iff.rfl
    rw [findHeader_smc_of_size hplain hsize, if_neg hplain, selectedHeader_smc hplain]
    by_cases hfound : (opened file).HeaderLike (declaredAddress file)
    · rw [if_pos hfound, if_pos ((hlike _).mpr hfound)]
    · rw [if_neg hfound, if_neg (mt (hlike _).mp hfound),
        probeKnownOffsets_of_size aligned_withSMCHeader hsize]
      by_cases hlow : (opened file).HeaderLike 0x7FC0
      · rw [if_pos hlow, if_pos ((hlike _).mpr hlow)]
      · by_cases hhigh : (opened file).HeaderLike 0xFFC0
        · rw [if_neg hlow, if_pos hhigh, if_neg (mt (hlike _).mp hlow),
            if_pos ((hlike _).mpr hhigh)]
        · rw [if_neg hlow, if_neg hhigh, if_neg (mt (hlike _).mp hlow),
            if_neg (mt (hlike _).mp hhigh)]

/-- What the object shows of the selected header. -/
structure SelectsHeader (file : Bytes) (rom : SNESROM) : Prop where
  found_iff : rom.header.isValid = true ↔ MayBeThereAt file 0x7FC0 ∨ MayBeThereAt file 0xFFC0
  qualifies : rom.header.isValid = true → ∃ headerAddress,
    (headerAddress = 0x7FC0 ∨ headerAddress = 0xFFC0) ∧ PointsAt rom headerAddress ∧
      MayBeThereAt file headerAddress
  only_low : MayBeThereAt file 0x7FC0 → ¬MayBeThereAt file 0xFFC0 → PointsAt rom 0x7FC0
  only_high : MayBeThereAt file 0xFFC0 → ¬MayBeThereAt file 0x7FC0 → PointsAt rom 0xFFC0
  both : MayBeThereAt file 0x7FC0 → MayBeThereAt file 0xFFC0 →
    PointsAt rom (if DeclaresHiROM file then 0xFFC0 else 0x7FC0)

theorem loaded_selectsHeader {file : Bytes} (hsize : 0x10000 ≤ (opened file).headerlessSize) :
    SelectsHeader file (loaded file) := by
  have hlowIff := mayBeThereAt_iff hsize (Or.inl rfl)
  have hhighIff := mayBeThereAt_iff hsize (Or.inr rfl)
  refine ⟨?_, ?_, ?_, ?_, ?_⟩
  · rw [loaded_isValid_iff, hlowIff, hhighIff]
    constructor
    · intro h
      obtain ⟨headerAddress, hselected⟩ := h
      obtain ⟨haddress, hlike⟩ := selectedHeader_like hselected
      rcases haddress with rfl | rfl
      · exact Or.inl hlike
      · exact Or.inr hlike
    · intro h
      by_cases hlow : (opened file).HeaderLike 0x7FC0
      · by_cases hhigh : TakesHighHeader file
        · exact ⟨_, if_pos hhigh⟩
        · exact ⟨_, by rw [selectedHeader, if_neg hhigh, if_pos hlow]⟩
      · have hhigh := h.resolve_left hlow
        exact ⟨_, if_pos ⟨hhigh, Or.inr hlow⟩⟩
  · intro h
    obtain ⟨headerAddress, hselected⟩ := (loaded_isValid_iff file).mp h
    obtain ⟨haddress, hlike⟩ := selectedHeader_like hselected
    exact ⟨headerAddress, haddress, (pointsAt_loaded_iff file _).mpr hselected,
      (mayBeThereAt_iff hsize haddress).mpr hlike⟩
  · intro hlow hhigh
    have hskipped : ¬TakesHighHeader file := fun h => hhigh (hhighIff.mpr h.1)
    rw [pointsAt_loaded_iff, selectedHeader, if_neg hskipped, if_pos (hlowIff.mp hlow)]
  · intro hhigh hlow
    rw [pointsAt_loaded_iff]
    exact if_pos ⟨hhighIff.mp hhigh, Or.inr (mt hlowIff.mpr hlow)⟩
  · intro hlow hhigh
    rw [pointsAt_loaded_iff]
    by_cases hdeclared : DeclaresHiROM file
    · rw [if_pos hdeclared, selectedHeader_declared hdeclared, if_pos (hhighIff.mp hhigh)]
    · rw [if_neg hdeclared, selectedHeader_undeclared hdeclared, if_pos (hlowIff.mp hlow)]

section Prefix

variable {smcHeader image : Bytes} (hheader : smcHeader.length = 512)
  (himage : image.length % 1024 = 0)
include hheader himage

theorem prefixed_length_mod : (smcHeader ++ image).length % 1024 = 512 := by
  rw [List.length_append]
  omega

theorem prefixed_headerlessSize :
    (opened (smcHeader ++ image)).headerlessSize = (opened image).headerlessSize := by
  rw [headerlessSize_opened, headerlessSize_opened, List.length_append]
  omega

theorem prefixed_imageByte (offset : Nat) :
    (opened (smcHeader ++ image)).imageByte offset = (opened image).imageByte offset := by
  simp only [imageByte, opened, prefixed_length_mod hheader himage, himage]
  rw [List.getD_append_right _ _ _ _ (by omega), hheader, Nat.add_sub_cancel_left, Nat.zero_add]

theorem prefixed_headerLike_iff (headerAddress : Nat) :
    (opened (smcHeader ++ image)).HeaderLike headerAddress ↔
      (opened image).HeaderLike headerAddress := by
  rw [HeaderLike, prefixed_imageByte hheader himage, prefixed_imageByte hheader himage]
  rfl

theorem prefixed_declaresHiROM_iff :
    DeclaresHiROM (smcHeader ++ image) ↔ smcHeader.getD 2 0 ≠ 0x00 := by
  rw [DeclaresHiROM, prefixed_length_mod hheader himage,
    List.getD_append _ _ _ _ (by omega)]
  exact and_iff_right (by decide)

theorem selectedHeader_prefixed_eq_iff :
    selectedHeader (smcHeader ++ image) = selectedHeader image ↔
      ¬(smcHeader.getD 2 0 ≠ 0x00 ∧ (opened image).HeaderLike 0x7FC0 ∧
        (opened image).HeaderLike 0xFFC0) := by
  have hplain : ¬DeclaresHiROM image := fun h => h.1 himage
  simp only [selectedHeader, TakesHighHeader, prefixed_headerLike_iff hheader himage,
    prefixed_declaresHiROM_iff hheader himage, hplain, false_or]
  by_cases hlow : (opened image).HeaderLike 0x7FC0
  · by_cases hhigh : (opened image).HeaderLike 0xFFC0
    · simp [hlow, hhigh]
    · simp [hlow, hhigh]
  · by_cases hhigh : (opened image).HeaderLike 0xFFC0
    · simp [hlow, hhigh]
    · simp [hlow, hhigh]

end Prefix

/-- An image of 64 KiB zeros but for the layout bytes of the two candidate headers. -/
def candidates (lowByte highByte : UInt8) : Bytes :=
  ((List.replicate 0x10000 0).set 0x7FD5 lowByte).set 0xFFD5 highByte

theorem candidates_length (lowByte highByte : UInt8) :
    (candidates lowByte highByte).length = 0x10000 := by
  simp only [candidates, List.length_set, List.length_replicate]

theorem candidates_imageByte (lowByte highByte : UInt8) (offset : Nat) :
    (opened (candidates lowByte highByte)).imageByte offset =
      if offset = 0xFFD5 then highByte else if offset = 0x7FD5 then lowByte else 0 := by
  have hbase : (opened (candidates lowByte highByte)).m_headerlessImageData = 0 := by
    simp only [opened, candidates_length]
  rw [imageByte, hbase, Nat.zero_add]
  change (candidates lowByte highByte).getD offset 0 = _
  rw [candidates, List.getD_eq_getElem?_getD]
  by_cases hhigh : offset = 0xFFD5
  · rw [if_pos hhigh, hhigh, List.getElem?_set_self
      (by rw [List.length_set, List.length_replicate]; decide)]
    rfl
  · rw [if_neg hhigh, List.getElem?_set_ne (Ne.symm hhigh)]
    by_cases hlow : offset = 0x7FD5
    · rw [if_pos hlow, hlow, List.getElem?_set_self (by rw [List.length_replicate]; decide)]
      rfl
    · rw [if_neg hlow, List.getElem?_set_ne (Ne.symm hlow), List.getElem?_replicate]
      split <;> rfl

theorem load_candidates (lowByte highByte : UInt8) :
    load (candidates lowByte highByte) = .ok (loaded (candidates lowByte highByte)) :=
  load_eq_loaded (by rw [candidates_length]) (by rw [headerlessSize_opened, candidates_length])

theorem loaded_candidates_headerlessSize (lowByte highByte : UInt8) :
    (loaded (candidates lowByte highByte)).headerlessSize = 0x10000 := by
  rw [loaded_headerlessSize, headerlessSize_opened, candidates_length]

theorem readAt_candidates (lowByte highByte : UInt8) {x : ROMAddress} (offset : ImageAddress)
    (hoffset : x.toImageAddress = .ok offset) (hinside : offset.toNat < 0x10000) :
    (loaded (candidates lowByte highByte)).readAt x 0 =
      .ok (if offset.toNat = 0xFFD5 then highByte
        else if offset.toNat = 0x7FD5 then lowByte else 0) := by
  rw [← loaded_candidates_headerlessSize lowByte highByte] at hinside
  rw [readAt_of_offset aligned_loaded offset hoffset hinside, loaded_imageByte,
    candidates_imageByte]

theorem candidates_low_iff (lowByte highByte : UInt8) :
    (opened (candidates lowByte highByte)).HeaderLike 0x7FC0 ↔ lowByte &&& 0x20 ≠ 0 := by
  rw [HeaderLike, candidates_imageByte, candidates_imageByte]
  exact and_iff_left (by decide : (0 : UInt8) < 0x0E)

theorem candidates_high_iff (lowByte highByte : UInt8) :
    (opened (candidates lowByte highByte)).HeaderLike 0xFFC0 ↔ highByte &&& 0x20 ≠ 0 := by
  rw [HeaderLike, candidates_imageByte, candidates_imageByte]
  exact and_iff_left (by decide : (0 : UInt8) < 0x0E)

theorem candidates_takesHighHeader_iff (lowByte highByte : UInt8) :
    TakesHighHeader (candidates lowByte highByte) ↔
      highByte &&& 0x20 ≠ 0 ∧ lowByte &&& 0x20 = 0 := by
  have hplain : ¬DeclaresHiROM (candidates lowByte highByte) := by
    intro h
    exact h.1 (by rw [candidates_length])
  rw [TakesHighHeader, candidates_low_iff, candidates_high_iff, or_iff_right hplain, not_not]

theorem candidates_selected_low (lowByte highByte : UInt8)
    (hlow : lowByte &&& 0x20 ≠ 0) : selectedHeader (candidates lowByte highByte) = some 0x7FC0 := by
  have hskipped : ¬TakesHighHeader (candidates lowByte highByte) := by
    rw [candidates_takesHighHeader_iff]
    exact fun h => hlow h.2
  rw [selectedHeader, if_neg hskipped, if_pos ((candidates_low_iff _ _).mpr hlow)]

end SNESROM

end SnesDisasm
