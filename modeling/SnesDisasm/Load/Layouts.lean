import SnesDisasm.Load.Header
import SnesDisasm.Load.Selection

/-!
# The layout that the selected header declares

Nothing makes the map mode of a header agree with its place, or with `checkRomLayout`.
-/

namespace SnesDisasm
open FetchLoop FixedWidth

namespace SNESROM

def declaredPlace (rom : SNESROM) : Except Fault ImageAddress := do
  let layout ← rom.header.layout
  let SNESHeaderROMAddress ← getROMAddressObject layout
  let SNESHeaderROMAddress ← SNESHeaderROMAddress.setROMAddress 0x00FFC0
  SNESHeaderROMAddress.toImageAddress

/-- The header lies where its own layout puts it. -/
def LiesWhereDeclared (rom : SNESROM) : Prop :=
  ∃ place, rom.declaredPlace = .ok place ∧ PointsAt rom place.toNat

/-- Bit 0 of the map mode fits the place of the selected header. -/
def LayoutBitFits (file : Bytes) : Prop :=
  if TakesHighHeader file then (opened file).imageByte 0xFFD5 &&& 0x01 = 0x01
  else (opened file).imageByte 0x7FD5 &&& 0x01 ≠ 0x01

def DetectorsAgree (rom : SNESROM) : Prop :=
  ∃ layout, rom.checkRomLayout = .ok layout ∧ rom.header.layout = .ok layout

/-- `checkRomLayout` finds the LoROM map modes where it looks for them. -/
def LoROMModesFit (file : Bytes) : Prop :=
  if TakesHighHeader file then
    (opened file).NamesLayout 0x7FD5 ∧ (opened file).NamesLayout 0xFFD5
  else (opened file).NamesLayout 0x7FD5 ∨ (opened file).NamesLayout 0xFFD5

def KnownMapMode (mode : UInt8) : Prop :=
  mode = 0x20 ∨ mode = 0x21 ∨ mode = 0x30 ∨ mode = 0x31

section Selected

variable {file : Bytes} {headerAddress : Nat}

theorem loaded_layout (hsize : 0x10000 ≤ (opened file).headerlessSize)
    (hselected : selectedHeader file = some headerAddress) :
    (loaded file).header.layout =
      .ok (RomLayout.fromByteCode ((opened file).imageByte (headerAddress + 21))) := by
  have hpoints := (pointsAt_loaded_iff file headerAddress).mpr hselected
  have haddress := (selectedHeader_like hselected).1
  have hfits : headerAddress + 64 ≤ (loaded file).headerlessSize := by
    rw [loaded_headerlessSize]
    omega
  have hlayout := SNESROMHeader.layout_eq aligned_loaded hfits
  rw [loaded_imageByte, ← hpoints] at hlayout
  exact hlayout

theorem loaded_declaredPlace (hsize : 0x10000 ≤ (opened file).headerlessSize)
    (hselected : selectedHeader file = some headerAddress) :
    (loaded file).declaredPlace =
      .ok (if (opened file).imageByte (headerAddress + 21) &&& 0x01 = 0x01 then 0xFFC0
        else 0x7FC0) := by
  rw [declaredPlace, loaded_layout hsize hselected]
  simp only [bind, Except.bind, SNESROMHeader.getROMAddressObject_fromByteCode,
    SNESROMHeader.addressClassOf]
  by_cases hbit : (opened file).imageByte (headerAddress + 21) &&& 0x01 = 0x01
  · rw [if_pos hbit, hbit]
    decide
  · rw [if_neg hbit, if_pos (bne_iff_ne.mpr hbit)]
    decide

theorem layoutBitFits_iff (hselected : selectedHeader file = some headerAddress) :
    LayoutBitFits file ↔
      ((opened file).imageByte (headerAddress + 21) &&& 0x01 = 0x01 ↔ headerAddress = 0xFFC0) := by
  rw [selectedHeader_eq_some_iff] at hselected
  rcases hselected with ⟨hhigh, rfl⟩ | ⟨hlow, _, rfl⟩
  · rw [LayoutBitFits, if_pos hhigh, iff_true_right rfl]
  · have hother : ¬(0x7FC0 : Nat) = 0xFFC0 := by decide
    rw [LayoutBitFits, if_neg hlow, iff_false_right hother]

theorem loaded_liesWhereDeclared_iff (hsize : 0x10000 ≤ (opened file).headerlessSize)
    (hselected : selectedHeader file = some headerAddress) :
    LiesWhereDeclared (loaded file) ↔ LayoutBitFits file := by
  rw [layoutBitFits_iff hselected, LiesWhereDeclared]
  simp only [loaded_declaredPlace hsize hselected, Except.ok.injEq, exists_eq_left',
    pointsAt_loaded_iff, hselected, Option.some.injEq]
  have haddress := (selectedHeader_like hselected).1
  by_cases hbit : (opened file).imageByte (headerAddress + 21) &&& 0x01 = 0x01
  · rw [if_pos hbit, iff_true_left hbit]
    rfl
  · rw [if_neg hbit, iff_false_left hbit]
    change headerAddress = 0x7FC0 ↔ _
    omega

theorem loaded_namesLayout_iff (offset : Nat) :
    (loaded file).NamesLayout offset ↔ (opened file).NamesLayout offset := by
  rw [NamesLayout, loaded_imageByte]
  rfl

theorem fromByteCode_of_known {mode : UInt8} (h : KnownMapMode mode) :
    RomLayout.fromByteCode mode = if mode = 0x20 ∨ mode = 0x30 then .LoROM else .HiROM := by
  rcases h with rfl | rfl | rfl | rfl <;> decide

theorem loaded_detectorsAgree_iff (hsize : 0x10000 ≤ (opened file).headerlessSize)
    (hselected : selectedHeader file = some headerAddress)
    (hknown : KnownMapMode ((opened file).imageByte (headerAddress + 21))) :
    DetectorsAgree (loaded file) ↔ LoROMModesFit file := by
  have haligned : Aligned (loaded file) := aligned_loaded
  have hcheck := checkRomLayout_of_size haligned (by rwa [loaded_headerlessSize])
  have hlayout := loaded_layout hsize hselected
  rw [fromByteCode_of_known hknown] at hlayout
  simp only [loaded_namesLayout_iff] at hcheck
  simp only [DetectorsAgree, hcheck, hlayout, Except.ok.injEq, exists_eq_left', LoROMModesFit]
  rw [selectedHeader_eq_some_iff] at hselected
  rcases hselected with ⟨hhigh, rfl⟩ | ⟨hlow, _, rfl⟩
  · change (if (opened file).NamesLayout 0xFFD5 then _ else _) = _ ↔ _
    rw [if_pos hhigh]
    by_cases hlowMode : (opened file).NamesLayout 0x7FD5
    · by_cases hhighMode : (opened file).NamesLayout 0xFFD5
      · simp [hlowMode, hhighMode]
      · simp [hlowMode, hhighMode]
    · by_cases hhighMode : (opened file).NamesLayout 0xFFD5
      · simp [hlowMode, hhighMode]
      · simp [hlowMode, hhighMode]
  · change (if (opened file).NamesLayout 0x7FD5 then _ else _) = _ ↔ _
    rw [if_neg hlow]
    by_cases hlowMode : (opened file).NamesLayout 0x7FD5
    · simp [hlowMode]
    · by_cases hhighMode : (opened file).NamesLayout 0xFFD5
      · simp [hlowMode, hhighMode]
      · simp [hlowMode, hhighMode]

end Selected

/-- The layout of a loaded header leads back to it exactly when bit 0 of its map mode fits its
place. -/
theorem header_lies_where_declared_iff (file : Bytes) (rom : SNESROM)
    (hload : load file = .ok rom) (hsize : 0x10000 ≤ file.length - file.length % 1024)
    (hheader : rom.header.isValid = true) :
    LiesWhereDeclared rom ↔ LayoutBitFits file := by
  rw [← headerlessSize_opened] at hsize
  obtain rfl := Except.ok.inj ((load_eq_loaded (load_accepted hload).1 hsize).symm.trans hload)
  obtain ⟨headerAddress, hselected⟩ := (loaded_isValid_iff file).mp hheader
  exact loaded_liesWhereDeclared_iff hsize hselected

theorem header_lies_where_declared_lorom :
    LiesWhereDeclared (loaded (candidates 0x20 0)) ↔ LayoutBitFits (candidates 0x20 0) :=
  header_lies_where_declared_iff (candidates 0x20 0) (loaded (candidates 0x20 0))
    (load_candidates 0x20 0) (by rw [candidates_length])
    ((loaded_isValid_iff _).mpr ⟨0x7FC0, candidates_selected_low 0x20 0 (by decide)⟩)

theorem header_declares_other_place :
    load (candidates 0x21 0) = .ok (loaded (candidates 0x21 0)) ∧
      (loaded (candidates 0x21 0)).header.isValid = true ∧
      ¬LiesWhereDeclared (loaded (candidates 0x21 0)) := by
  have hselected := candidates_selected_low 0x21 0 (by decide)
  refine ⟨load_candidates 0x21 0, (loaded_isValid_iff _).mpr ⟨_, hselected⟩, ?_⟩
  rw [loaded_liesWhereDeclared_iff (by rw [headerlessSize_opened, candidates_length]) hselected,
    layoutBitFits_iff hselected, candidates_imageByte]
  decide

/-- `checkRomLayout` returns the layout of a header of a known map mode exactly when the LoROM map
modes stand where it looks for them. -/
theorem detectors_agree_iff (file : Bytes) (rom : SNESROM) (mode : UInt8) (data : Pointer)
    (hload : load file = .ok rom) (hsize : 0x10000 ≤ file.length - file.length % 1024)
    (hheader : rom.header.m_HeaderData = some data)
    (hmode : data.deref SNESROMHeader.m_ROMLayoutIndex = .ok mode) (hknown : KnownMapMode mode) :
    DetectorsAgree rom ↔ LoROMModesFit file := by
  rw [← headerlessSize_opened] at hsize
  obtain rfl := Except.ok.inj ((load_eq_loaded (load_accepted hload).1 hsize).symm.trans hload)
  have hvalid : (loaded file).header.isValid = true := by
    rw [SNESROMHeader.isValid, hheader, Option.isSome_some]
  obtain ⟨headerAddress, hselected⟩ := (loaded_isValid_iff file).mp hvalid
  have hpoints := (pointsAt_loaded_iff file headerAddress).mpr hselected
  obtain rfl := Option.some.inj (hheader.symm.trans hpoints)
  have hfits : headerAddress + 21 < (loaded file).headerlessSize := by
    have haddress := (selectedHeader_like hselected).1
    rw [loaded_headerlessSize]
    omega
  have hbyte := (loaded file).deref_inside aligned_loaded headerAddress 21 hfits
  rw [loaded_imageByte] at hbyte
  obtain rfl := Except.ok.inj (hbyte.symm.trans hmode)
  exact loaded_detectorsAgree_iff hsize hselected hknown

theorem detectors_agree_lorom :
    DetectorsAgree (loaded (candidates 0x20 0)) ↔ LoROMModesFit (candidates 0x20 0) := by
  have hselected := candidates_selected_low 0x20 0 (by decide)
  have hpoints := (pointsAt_loaded_iff _ _).mpr hselected
  refine detectors_agree_iff (candidates 0x20 0) (loaded (candidates 0x20 0)) 0x20 _
    (load_candidates 0x20 0) (by rw [candidates_length]) hpoints ?_ (Or.inl rfl)
  have hbyte := (loaded (candidates 0x20 0)).deref_inside aligned_loaded 0x7FC0 21
    (by rw [loaded_candidates_headerlessSize]; decide)
  rwa [loaded_imageByte, candidates_imageByte] at hbyte

theorem detectors_disagree_hirom :
    load (candidates 0 0x21) = .ok (loaded (candidates 0 0x21)) ∧
      PointsAt (loaded (candidates 0 0x21)) 0xFFC0 ∧
      (loaded (candidates 0 0x21)).header.layout = .ok .HiROM ∧
      (loaded (candidates 0 0x21)).checkRomLayout = .ok .Error ∧
      ¬DetectorsAgree (loaded (candidates 0 0x21)) := by
  have hselected : selectedHeader (candidates 0 0x21) = some 0xFFC0 :=
    if_pos ((candidates_takesHighHeader_iff 0 0x21).mpr (by decide))
  have hsize : 0x10000 ≤ (opened (candidates 0 0x21)).headerlessSize := by
    rw [headerlessSize_opened, candidates_length]
  have hlayout : (loaded (candidates 0 0x21)).header.layout = .ok .HiROM := by
    rw [loaded_layout hsize hselected, candidates_imageByte]
    decide
  have hcheck : (loaded (candidates 0 0x21)).checkRomLayout = .ok .Error := by
    have hlow : ¬(loaded (candidates 0 0x21)).NamesLayout 0x7FD5 := by
      rw [loaded_namesLayout_iff, NamesLayout, candidates_imageByte]
      decide
    have hhigh : ¬(loaded (candidates 0 0x21)).NamesLayout 0xFFD5 := by
      rw [loaded_namesLayout_iff, NamesLayout, candidates_imageByte]
      decide
    rw [checkRomLayout_of_size aligned_loaded (by rwa [loaded_headerlessSize]), if_neg hlow,
      if_neg hhigh]
  refine ⟨load_candidates 0 0x21, (pointsAt_loaded_iff _ _).mpr hselected, hlayout, hcheck, ?_⟩
  intro h
  obtain ⟨layout, hfirst, hsecond⟩ := h
  obtain rfl := Except.ok.inj (hcheck.symm.trans hfirst)
  exact absurd (hlayout.symm.trans hsecond) (by decide)

end SNESROM

end SnesDisasm
