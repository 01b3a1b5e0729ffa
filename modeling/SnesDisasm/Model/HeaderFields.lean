import SnesDisasm.Model.SNESROM

/-!
# The other fields of the SNES header
-/

namespace SnesDisasm

inductive colorTransmissionSystem where
  | NTSC
  | PAL
  deriving DecidableEq, Repr

namespace SNESROMHeader

def m_ROMNameIndex : Nat := 0
def m_ROMNameLength : Nat := 21

/-- The string has the bytes of the field, padding included. -/
def getROMName (header : SNESROMHeader) : Except Fault Bytes := do
  let m_HeaderData ← nonNull header.m_HeaderData
  (List.range m_ROMNameLength).mapM fun i => m_HeaderData.deref (m_ROMNameIndex + i)

def isFastROM (header : SNESROMHeader) : Except Fault Bool := do
  let m_HeaderData ← nonNull header.m_HeaderData
  let byte ← m_HeaderData.deref m_ROMLayoutIndex
  return byte &&& 0x10 ≠ 0

def getColorTransmissionSystem (header : SNESROMHeader) :
    Except Fault colorTransmissionSystem := do
  let m_HeaderData ← nonNull header.m_HeaderData
  let byte ← m_HeaderData.deref m_CountryCodeIndex
  return if byte ≤ 0x01 then .NTSC else if byte ≤ 0x0C then .PAL else .NTSC

end SNESROMHeader

end SnesDisasm
