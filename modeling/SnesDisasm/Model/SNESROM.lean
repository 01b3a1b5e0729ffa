import SnesDisasm.Model.ROMAddress

/-!
# Loading a ROM image

The pointers of the source point into the loaded file. Log messages, and the `delete` of the address
object in the constructor, are left out.
-/

namespace SnesDisasm

/-- `SMCHeader`: a non-owning pointer to the file's first byte, or null. -/
structure SMCHeader where
  m_bytes : Option Pointer := none
  deriving DecidableEq, Repr

namespace SMCHeader

def load (_header : SMCHeader) (headerData : Pointer) : SMCHeader := ⟨some headerData⟩

def layout (header : SMCHeader) : Except Fault RomLayout := do
  let m_bytes ← nonNull header.m_bytes
  let byte ← m_bytes.deref 2
  return if byte = 0x00 then .LoROM else .HiROM

end SMCHeader

/-- `NativeIV`: its constructor is private, so only the named vectors exist. -/
inductive NativeIV where
  | COP | BRK | ABORT | NMT | UNUSED | IRQ
  deriving DecidableEq, Repr

def NativeIV.idx : NativeIV → Nat
  | .COP => 0
  | .BRK => 1
  | .ABORT => 2
  | .NMT => 3
  | .UNUSED => 4
  | .IRQ => 5

/-- `EmulationIV`; its `BRK()` is the same vector as `IRQ()`. -/
inductive EmulationIV where
  | COP | UNUSED | ABORT | NMI | RESET | IRQ
  deriving DecidableEq, Repr

def EmulationIV.BRK : EmulationIV := .IRQ

def EmulationIV.idx : EmulationIV → Nat
  | .COP => 0
  | .UNUSED => 1
  | .ABORT => 2
  | .NMI => 3
  | .RESET => 4
  | .IRQ => 5

/-- `SNESROMHeader`: a non-owning pointer to the header's first byte, or null. -/
structure SNESROMHeader where
  m_HeaderData : Option Pointer := none
  deriving DecidableEq, Repr

namespace SNESROMHeader

def m_ROMLayoutIndex : Nat := 21
def m_ROMSizeIndex : Nat := 23
def m_RAMSizeIndex : Nat := 24
def m_CountryCodeIndex : Nat := 25
def m_NativeInterruptVectorIndex : Nat := 36
def m_EmulationInterruptVectorIndex : Nat := 52

def mayBeThere (headerData : Pointer) : Except Fault Bool := do
  let layoutByte ← headerData.deref m_ROMLayoutIndex
  -- the country code is only read behind a layout byte with the bit 0x20
  if layoutByte &&& 0x20 ≠ 0 then
    let countryCode ← headerData.deref m_CountryCodeIndex
    return countryCode < 0x0E
  else
    return false

def ofData (headerData : Pointer) : Except Fault SNESROMHeader := do
  let found ← mayBeThere headerData
  assert (found = true)
  return ⟨some headerData⟩

def isValid (header : SNESROMHeader) : Bool := header.m_HeaderData.isSome

def layout (header : SNESROMHeader) : Except Fault RomLayout := do
  let m_HeaderData ← nonNull header.m_HeaderData
  let byte ← m_HeaderData.deref m_ROMLayoutIndex
  return RomLayout.fromByteCode byte

/-- The loop `for(; i < bound; ++i) size *= 2` of both sizes, with `uint8_t i`. -/
def doubledUpTo (bound i : UInt8) (size : UInt32) : UInt32 :=
  if i < bound then doubledUpTo bound (i + 1) (size * 2) else size
termination_by bound.toNat - i.toNat
decreasing_by
  have hlt := UInt8.lt_iff_toNat_lt.mp ‹i < bound›
  have hbound := bound.toNat_lt
  rw [UInt8.toNat_add, UInt8.toNat_one]
  omega

def getROMSize (header : SNESROMHeader) : Except Fault UInt32 := do
  let m_HeaderData ← nonNull header.m_HeaderData
  let byte ← m_HeaderData.deref m_ROMSizeIndex
  return doubledUpTo byte 0 1024

/-- Its comparisons read the same index as those of `getROMSize`. -/
def getRAMSize (header : SNESROMHeader) : Except Fault UInt32 := do
  let m_HeaderData ← nonNull header.m_HeaderData
  let byte ← m_HeaderData.deref m_ROMSizeIndex
  return if byte = 0 then 0 else doubledUpTo byte 1 2048

/-- The two overloads of `getInterruptDest` differ in the index of their table only. -/
def interruptDest (header : SNESROMHeader) (tableIndex vector : Nat) : Except Fault ROMAddress := do
  let m_HeaderData ← nonNull header.m_HeaderData
  let high ← m_HeaderData.deref (tableIndex + 2 * vector + 1)
  let low ← m_HeaderData.deref (tableIndex + 2 * vector)
  let addr : UInt16 := (high.toUInt16 <<< 8) ||| low.toUInt16
  let layout ← header.layout
  let result ← getROMAddressObject layout
  result.setROMAddress addr.toUInt32

inductive InterruptVector where
  | native (vector : NativeIV)
  | emulation (vector : EmulationIV)
  deriving DecidableEq, Repr

def getInterruptDest (header : SNESROMHeader) : InterruptVector → Except Fault ROMAddress
  | .native vector => header.interruptDest m_NativeInterruptVectorIndex vector.idx
  | .emulation vector => header.interruptDest m_EmulationInterruptVectorIndex vector.idx

end SNESROMHeader

/-- All of the arithmetic but the bank is unsigned, as it mixes `int` with `ImageAddress`. -/
def imageAddressToROMAddress (imageAddress : ImageAddress) (m_isLoROM : Bool) : Int32 :=
  let ROMAddress : Int32 :=
    if m_isLoROM then
      let bankID : Int32 := (imageAddress / 0x8000).toInt32
      let bankID := if bankID = 0x7E ∨ bankID = 0x7F then bankID + 0x80 else bankID
      ((bankID * 0x10000).toUInt32 + imageAddress % 0x8000 + 0x8000).toInt32
    else
      (0xC00000 + imageAddress).toInt32
  ROMAddress - 512

structure SNESROM where
  m_actualImageData : Bytes
  m_headerlessImageData : Nat
  m_SNESROMHeader : SNESROMHeader := {}
  m_SMCHeader : SMCHeader := {}
  deriving DecidableEq, Repr

namespace SNESROM

def headerless (rom : SNESROM) : Pointer := ⟨rom.m_actualImageData, rom.m_headerlessImageData⟩

def checkRomLayout (rom : SNESROM) : Except Fault RomLayout := do
  let possibleLoROMSNESHeader ← LoROMAddress.fromImageAddress 0x00FFD5
  let possibleHiROMSNESHeader ← HiROMAddress.fromImageAddress 0x00FFD5
  let byte ← rom.headerless.deref (LoROMAddress.toImageAddress possibleLoROMSNESHeader).toNat
  if byte ≠ 0x20 ∧ byte ≠ 0x30 then
    let imageAddress ← HiROMAddress.toImageAddress possibleHiROMSNESHeader
    let byte ← rom.headerless.deref imageAddress.toNat
    return if byte ≠ 0x20 ∧ byte ≠ 0x30 then .Error else .HiROM
  else
    return .LoROM

def takeHeader (rom : SNESROM) (headerAddress : Nat) : Except Fault SNESROM := do
  let header ← SNESROMHeader.ofData (rom.headerless.advance headerAddress)
  return { rom with m_SNESROMHeader := header }

def probeHeader (rom : SNESROM) (headerAddress : Nat) : Except Fault SNESROM := do
  let found ← SNESROMHeader.mayBeThere (rom.headerless.advance headerAddress)
  if found then rom.takeHeader headerAddress else .ok rom

/-- The branch of the constructor for a file with an SMC header. -/
def probeDeclaredLayout (rom : SNESROM) : Except Fault SNESROM := do
  let m_SMCHeader := rom.m_SMCHeader.load ⟨rom.m_actualImageData, 0⟩
  let layout ← m_SMCHeader.layout
  let SNESHeaderROMAddress ← getROMAddressObject layout
  let SNESHeaderROMAddress ← SNESHeaderROMAddress.setROMAddress 0x00FFC0
  let headerAddress ← SNESHeaderROMAddress.toImageAddress
  let rom ← probeHeader { rom with m_SMCHeader } headerAddress.toNat
  -- the result is not used, but the bytes are read
  let _ ← rom.checkRomLayout
  return rom

/-- The branch of the constructor for a header that has not been found yet. -/
def probeKnownOffsets (rom : SNESROM) : Except Fault SNESROM := do
  let found ← SNESROMHeader.mayBeThere (rom.headerless.advance 0x7FC0)
  if found then rom.takeHeader 0x7FC0 else rom.probeHeader 0xFFC0

/-- The constructor after the pointer to the image data is set. -/
def findHeader (rom : SNESROM) : Except Fault SNESROM := do
  let rom ← (if rom.m_actualImageData.length % 1024 ≠ 0 then rom.probeDeclaredLayout else .ok rom)
  if rom.m_SNESROMHeader.isValid then .ok rom else rom.probeKnownOffsets

/-- `SNESROM(ROMImagePath)`, on the bytes of the file. -/
def load (m_actualImageData : Bytes) : Except Fault SNESROM := do
  assert (m_actualImageData.length % 512 = 0)
  assert (m_actualImageData.length > 0)
  findHeader { m_actualImageData, m_headerlessImageData := m_actualImageData.length % 1024 }

def index (rom : SNESROM) (rom_address : ROMAddress) : Except Fault Pointer := do
  let imageAddress ← rom_address.toImageAddress
  return rom.headerless.advance imageAddress.toNat

def header (rom : SNESROM) : SNESROMHeader := rom.m_SNESROMHeader

def headerlessSize (rom : SNESROM) : Nat :=
  rom.m_actualImageData.length - rom.m_headerlessImageData

end SNESROM

end SnesDisasm
