import SnesDisasm.Framework.Words
import SnesDisasm.Load.Header
import SnesDisasm.Load.Selection
import SnesDisasm.Load.Sizes
import SnesDisasm.Model.HeaderFields

/-!
# The header as a format

The 64 bytes of a header in terms of its fields.
-/

namespace SnesDisasm
open FetchLoop FixedWidth

/-- The fields of a header that is accepted. -/
structure HeaderFields where
  romName : Bytes
  layoutByte : UInt8
  cartridgeType : UInt8
  romSize : UInt8
  ramSize : UInt8
  countryCode : UInt8
  licenseCode : UInt8
  versionNumber : UInt8
  checkSumComplement : UInt16
  checkSum : UInt16
  nativeUnused : UInt16 × UInt16
  native : NativeIV → UInt16
  emulationUnused : UInt16 × UInt16
  emulation : EmulationIV → UInt16
  romName_length : romName.length = SNESROMHeader.m_ROMNameLength
  marked : layoutByte &&& 0x20 ≠ 0
  country_known : countryCode < 0x0E

def wordBytes (word : UInt16) : Bytes := [word.toUInt8, (word >>> 8).toUInt8]

theorem wordBytes_read (word : UInt16) :
    ((word >>> 8).toUInt8.toUInt16 <<< 8) ||| word.toUInt8.toUInt16 = word := by
  have hword := word.toNat_lt
  apply UInt16.toNat_inj.mp
  rw [toNat_concat_bytes, UInt16.toNat_toUInt8, UInt16.toNat_toUInt8, UInt16.toNat_shiftRight]
  simp only [UInt16.reduceToNat, Nat.reduceMod, Nat.shiftRight_eq_div_pow]
  omega

namespace HeaderFields

variable (fields : HeaderFields)

def words : List UInt16 :=
  [fields.checkSumComplement, fields.checkSum, fields.nativeUnused.1, fields.nativeUnused.2] ++
    [NativeIV.COP, .BRK, .ABORT, .NMT, .UNUSED, .IRQ].map fields.native ++
    [fields.emulationUnused.1, fields.emulationUnused.2] ++
    [EmulationIV.COP, .UNUSED, .ABORT, .NMI, .RESET, .IRQ].map fields.emulation

def behindName : Bytes :=
  [fields.layoutByte, fields.cartridgeType, fields.romSize, fields.ramSize, fields.countryCode,
    fields.licenseCode, fields.versionNumber] ++ fields.words.flatMap wordBytes

def bytes : Bytes := fields.romName ++ fields.behindName

theorem bytes_length : fields.bytes.length = 64 := by
  rw [bytes, List.length_append, fields.romName_length]
  rfl

theorem bytes_behindName (i : Nat) : fields.bytes.getD (21 + i) 0 = fields.behindName.getD i 0 := by
  have hname : fields.romName.length = 21 := fields.romName_length
  rw [bytes, List.getD_append_right _ _ _ _ (by omega), hname, Nat.add_sub_cancel_left]

theorem bytes_romName {i : Nat} (hi : i < fields.romName.length) :
    fields.bytes.getD i 0 = fields.romName[i] := by
  rw [bytes, List.getD_append _ _ _ _ hi, List.getD_eq_getElem _ _ hi]

def vector : SNESROMHeader.InterruptVector → UInt16
  | .native vector => fields.native vector
  | .emulation vector => fields.emulation vector

theorem bytes_vector (vector : SNESROMHeader.InterruptVector) :
    fields.bytes.getD vector.offset 0 = (fields.vector vector).toUInt8 ∧
      fields.bytes.getD (vector.offset + 1) 0 = (fields.vector vector >>> 8).toUInt8 := by
  have hbehind : vector.offset = 21 + (vector.offset - 21) := by
    cases vector with
    | native vector => cases vector <;> rfl
    | emulation vector => cases vector <;> rfl
  rw [hbehind, Nat.add_assoc, bytes_behindName, bytes_behindName]
  cases vector with
  | native vector => cases vector <;> exact ⟨rfl, rfl⟩
  | emulation vector => cases vector <;> exact ⟨rfl, rfl⟩

end HeaderFields

theorem mapM_ok {ε α β : Type} {f : α → Except ε β} {g : α → β} (l : List α)
    (h : ∀ a ∈ l, f a = .ok (g a)) : l.mapM f = .ok (l.map g) := by
  induction l with
  | nil => rfl
  | cons a l ih =>
    have hrest := ih fun b hb => h b (List.mem_cons_of_mem _ hb)
    rw [List.mapM_cons, h a List.mem_cons_self, hrest]
    rfl

namespace SNESROMHeader

variable {pointer : Pointer} {byte : UInt8}

theorem isFastROM_of_byte (hbyte : pointer.deref 21 = .ok byte) :
    isFastROM ⟨some pointer⟩ = .ok (byte &&& 0x10 ≠ 0) := by
  simp only [isFastROM, nonNull, m_ROMLayoutIndex, hbyte, bind, Except.bind]
  rfl

theorem getROMSize_of_byte (hbyte : pointer.deref 23 = .ok byte) :
    ∃ size, getROMSize ⟨some pointer⟩ = .ok size ∧ size.toNat = 1024 * 2^byte.toNat % 2^32 := by
  simp only [getROMSize, nonNull, m_ROMSizeIndex, hbyte, bind, Except.bind]
  refine ⟨_, rfl, ?_⟩
  rw [doubledUpTo_toNat]
  rfl

theorem getColorTransmissionSystem_of_byte (hbyte : pointer.deref 25 = .ok byte) :
    getColorTransmissionSystem ⟨some pointer⟩ =
      .ok (if byte ≤ 0x01 then .NTSC else if byte ≤ 0x0C then .PAL else .NTSC) := by
  simp only [getColorTransmissionSystem, nonNull, m_CountryCodeIndex, hbyte, bind, Except.bind]
  rfl

theorem getROMName_of_bytes {title : Nat → UInt8}
    (hbytes : ∀ i < m_ROMNameLength, pointer.deref i = .ok (title i)) :
    getROMName ⟨some pointer⟩ = .ok ((List.range m_ROMNameLength).map title) := by
  apply mapM_ok
  intro i hi
  rw [m_ROMNameIndex, Nat.zero_add]
  exact hbytes i (List.mem_range.mp hi)

end SNESROMHeader

theorem colors_eq : ∀ byte : UInt8,
    (if byte ≤ 0x01 then colorTransmissionSystem.NTSC else if byte ≤ 0x0C then .PAL else .NTSC) =
      if 0x02 ≤ byte ∧ byte ≤ 0x0C then .PAL else .NTSC := by
  apply forall_byte
  decide +kernel

/-- Every getter returns its field. -/
structure ReadsBack (header : SNESROMHeader) (fields : HeaderFields) : Prop where
  romName : header.getROMName = .ok fields.romName
  layout : header.layout = .ok (RomLayout.fromByteCode fields.layoutByte)
  fastROM : header.isFastROM = .ok (fields.layoutByte &&& 0x10 ≠ 0)
  romSize : ∃ size, header.getROMSize = .ok size ∧
    size.toNat = 1024 * 2^fields.romSize.toNat % 2^32
  colors : header.getColorTransmissionSystem =
    .ok (if 0x02 ≤ fields.countryCode ∧ fields.countryCode ≤ 0x0C then .PAL else .NTSC)
  interruptDest : ∀ vector, header.getInterruptDest vector =
    .ok ⟨SNESROMHeader.addressClassOf fields.layoutByte, (fields.vector vector).toUInt32⟩

section Getters

variable {rom : SNESROM} {headerAddress : Nat} {fields : HeaderFields} (hrom : Aligned rom)
  (hfits : headerAddress + 64 ≤ rom.headerlessSize)
  (hbytes : ∀ i < 64, rom.imageByte (headerAddress + i) = fields.bytes.getD i 0)
include hrom hfits hbytes

theorem deref_header {i : Nat} (hi : i < 64) :
    (rom.headerless.advance headerAddress).deref i = .ok (fields.bytes.getD i 0) := by
  rw [rom.deref_inside hrom headerAddress i (by omega), hbytes i hi]

theorem getROMName_of_written :
    SNESROMHeader.getROMName ⟨some (rom.headerless.advance headerAddress)⟩ = .ok fields.romName := by
  have hname : fields.romName.length = 21 := fields.romName_length
  have hread : ∀ i < SNESROMHeader.m_ROMNameLength,
      (rom.headerless.advance headerAddress).deref i = .ok (fields.bytes.getD i 0) := by
    intro i hi
    have hlt : i < 21 := hi
    exact deref_header hrom hfits hbytes (by omega)
  have hall : (List.range SNESROMHeader.m_ROMNameLength).map (fun i => fields.bytes.getD i 0) =
      fields.romName := by
    apply List.ext_getElem
    · rw [List.length_map, List.length_range, fields.romName_length]
    · intro i _ hi
      rw [List.getElem_map, List.getElem_range, fields.bytes_romName hi]
  rw [SNESROMHeader.getROMName_of_bytes hread, hall]

theorem readsBack_of_bytes :
    ReadsBack ⟨some (rom.headerless.advance headerAddress)⟩ fields := by
  have hlayout := deref_header hrom hfits hbytes (by decide : 21 < 64)
  have hsize := deref_header hrom hfits hbytes (by decide : 23 < 64)
  have hcountry := deref_header hrom hfits hbytes (by decide : 25 < 64)
  rw [fields.bytes_behindName 0] at hlayout
  rw [fields.bytes_behindName 2] at hsize
  rw [fields.bytes_behindName 4] at hcountry
  have hlayoutByte : rom.imageByte (headerAddress + 21) = fields.layoutByte := by
    rw [hbytes 21 (by decide), fields.bytes_behindName 0]
    rfl
  refine ⟨getROMName_of_written hrom hfits hbytes, ?_, SNESROMHeader.isFastROM_of_byte hlayout,
    SNESROMHeader.getROMSize_of_byte hsize, ?_, ?_⟩
  · rw [SNESROMHeader.layout_eq hrom hfits, hlayoutByte]
  · rw [SNESROMHeader.getColorTransmissionSystem_of_byte hcountry]
    exact congrArg Except.ok (colors_eq fields.countryCode)
  · intro vector
    have hoffset := vector.offset_lt
    obtain ⟨hlow, hhigh⟩ := fields.bytes_vector vector
    rw [SNESROMHeader.getInterruptDest_eq hrom hfits, hlayoutByte, hbytes _ hoffset,
      hbytes _ (Nat.lt_of_succ_lt hoffset), hlow, hhigh, wordBytes_read]

end Getters

/-- Every getter returns, the title with its full length. -/
structure GettersReturn (header : SNESROMHeader) : Prop where
  romName : ∃ name, header.getROMName = .ok name ∧ name.length = SNESROMHeader.m_ROMNameLength
  layout : ∃ layout, header.layout = .ok layout
  fastROM : ∃ fast, header.isFastROM = .ok fast
  romSize : ∃ size, header.getROMSize = .ok size
  ramSize : ∃ size, header.getRAMSize = .ok size
  colors : ∃ colors, header.getColorTransmissionSystem = .ok colors
  interruptDest : ∀ vector, ∃ dest, header.getInterruptDest vector = .ok dest

theorem gettersReturn_of_fits {rom : SNESROM} {headerAddress : Nat} (hrom : Aligned rom)
    (hfits : headerAddress + 64 ≤ rom.headerlessSize) :
    GettersReturn ⟨some (rom.headerless.advance headerAddress)⟩ := by
  have hread (i : Nat) (hi : i < 64) := rom.deref_inside hrom headerAddress i (by omega)
  have hname : ∀ i < SNESROMHeader.m_ROMNameLength,
      (rom.headerless.advance headerAddress).deref i = .ok (rom.imageByte (headerAddress + i)) := by
    intro i hi
    have hlt : i < 21 := hi
    exact hread i (by omega)
  have hlayout := hread 21 (by decide)
  have hsize := hread 23 (by decide)
  have hcountry := hread 25 (by decide)
  refine ⟨⟨_, SNESROMHeader.getROMName_of_bytes hname, by rw [List.length_map, List.length_range]⟩,
    ⟨_, SNESROMHeader.layout_eq hrom hfits⟩, ⟨_, SNESROMHeader.isFastROM_of_byte hlayout⟩, ?_,
    ⟨_, SNESROMHeader.getRAMSize_of_byte hsize⟩,
    ⟨_, SNESROMHeader.getColorTransmissionSystem_of_byte hcountry⟩,
    fun vector => ⟨_, SNESROMHeader.getInterruptDest_eq hrom hfits vector⟩⟩
  obtain ⟨size, hreturns, _⟩ := SNESROMHeader.getROMSize_of_byte hsize
  exact ⟨size, hreturns⟩

namespace SNESROM

variable {file : Bytes} {headerAddress : Nat} {fields : HeaderFields}

theorem imageByte_of_written
    (hwritten : (file.drop (file.length % 1024 + headerAddress)).take 64 = fields.bytes) {i : Nat}
    (hi : i < 64) : (opened file).imageByte (headerAddress + i) = fields.bytes.getD i 0 := by
  rw [← hwritten, imageByte, opened, List.getD_eq_getElem?_getD, List.getD_eq_getElem?_getD,
    List.getElem?_take_of_lt hi, List.getElem?_drop, Nat.add_assoc]

theorem headerLike_of_written
    (hwritten : (file.drop (file.length % 1024 + headerAddress)).take 64 = fields.bytes) :
    (opened file).HeaderLike headerAddress := by
  have hlayout := imageByte_of_written hwritten (by decide : 21 < 64)
  have hcountry := imageByte_of_written hwritten (by decide : 25 < 64)
  rw [fields.bytes_behindName 0] at hlayout
  rw [fields.bytes_behindName 4] at hcountry
  rw [HeaderLike, SNESROMHeader.m_ROMLayoutIndex, SNESROMHeader.m_CountryCodeIndex, hlayout, hcountry]
  exact ⟨fields.marked, fields.country_known⟩

theorem selectedHeader_of_written (haddress : headerAddress = 0x7FC0 ∨ headerAddress = 0xFFC0)
    (hwritten : (file.drop (file.length % 1024 + headerAddress)).take 64 = fields.bytes)
    (hother : ∀ other, other = 0x7FC0 ∨ other = 0xFFC0 → other ≠ headerAddress →
      ¬(opened file).HeaderLike other) : selectedHeader file = some headerAddress := by
  have hlike := headerLike_of_written hwritten
  rw [selectedHeader_eq_some_iff]
  rcases haddress with rfl | rfl
  · have hhigh := hother 0xFFC0 (Or.inr rfl) (by decide)
    exact Or.inr ⟨fun h => hhigh h.1, hlike, rfl⟩
  · have hlow := hother 0x7FC0 (Or.inl rfl) (by decide)
    exact Or.inl ⟨⟨hlike, Or.inr hlow⟩, rfl⟩

def imageWith (fields : HeaderFields) : Bytes :=
  List.replicate 0x7FC0 0 ++ (fields.bytes ++ List.replicate 0x8000 0)

theorem imageWith_length (fields : HeaderFields) : (imageWith fields).length = 0x10000 := by
  rw [imageWith, List.length_append, List.length_append, List.length_replicate,
    List.length_replicate, fields.bytes_length]

theorem imageWith_written (fields : HeaderFields) :
    ((imageWith fields).drop ((imageWith fields).length % 1024 + 0x7FC0)).take 64 =
      fields.bytes := by
  rw [imageWith_length, imageWith, List.drop_left' List.length_replicate,
    List.take_left' fields.bytes_length]

theorem imageWith_high (fields : HeaderFields) : ¬(opened (imageWith fields)).HeaderLike 0xFFC0 := by
  have hfront : (List.replicate 0x7FC0 (0 : UInt8) ++ fields.bytes).length = 0x8000 := by
    rw [List.length_append, List.length_replicate, fields.bytes_length]
  have hplain : (opened (imageWith fields)).imageByte (0xFFC0 + 21) =
      (imageWith fields).getD (0xFFC0 + 21) 0 := by
    simp only [imageByte, opened, imageWith_length, Nat.reduceMod, Nat.zero_add]
  have hbehind : (imageWith fields).getD (0xFFC0 + 21) 0 =
      (List.replicate 0x8000 (0 : UInt8)).getD (0xFFC0 + 21 - 0x8000) 0 := by
    rw [imageWith, ← List.append_assoc,
      List.getD_append_right _ _ _ _ (by omega), hfront]
  have hzero : (opened (imageWith fields)).imageByte (0xFFC0 + 21) = 0 := by
    rw [hplain, hbehind, List.getD_eq_getElem?_getD, List.getElem?_replicate]
    split <;> rfl
  intro hlike
  have hmarked := hlike.1
  rw [SNESROMHeader.m_ROMLayoutIndex, hzero] at hmarked
  exact absurd hmarked (by decide)

def palFields : HeaderFields where
  romName := List.replicate 21 0x20
  layoutByte := 0x31
  cartridgeType := 2
  romSize := 9
  ramSize := 3
  countryCode := 2
  licenseCode := 0x33
  versionNumber := 1
  checkSumComplement := 0
  checkSum := 0xFFFF
  nativeUnused := (0, 0)
  native := fun _ => 0x8000
  emulationUnused := (0, 0)
  emulation := fun _ => 0xFF00
  romName_length := rfl
  marked := by decide
  country_known := by decide

/-- The getters of a loaded file all return exactly if there is a header. -/
theorem getters_return_iff_valid (file : Bytes) (rom : SNESROM) (hload : load file = .ok rom) :
    GettersReturn rom.header ↔ rom.header.isValid = true := by
  constructor
  · intro hgetters
    obtain ⟨layout, hlayout⟩ := hgetters.layout
    rw [SNESROMHeader.isValid]
    cases hdata : rom.header.m_HeaderData with
    | some data => rfl
    | none => simp [SNESROMHeader.layout, hdata, nonNull, bind, Except.bind] at hlayout
  · intro hvalid
    obtain ⟨data, hdata⟩ := Option.isSome_iff_exists.mp hvalid
    have hinside := load_headerInside hload
    obtain ⟨headerAddress, _, hfits, rfl⟩ := hinside.inside data hdata
    have hheader : rom.header = ⟨some (rom.headerless.advance headerAddress)⟩ :=
      congrArg SNESROMHeader.mk hdata
    rw [hheader]
    exact gettersReturn_of_fits hinside.aligned hfits

theorem getters_return_iff_valid_candidates :
    GettersReturn (loaded (candidates 0x20 0)).header ↔
      (loaded (candidates 0x20 0)).header.isValid = true :=
  getters_return_iff_valid (candidates 0x20 0) _ (load_candidates 0x20 0)

end SNESROM

end SnesDisasm
