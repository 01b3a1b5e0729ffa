import SnesDisasm.Framework.OutputStream
import SnesDisasm.Model.Disasm
import SnesDisasm.Model.Stringify

/-!
# The test application

`main` of `testapp` up to its `delete pos`, with what it prints.
-/

namespace SnesDisasm
open OutputStream

/-- `flags(std::ios_base::hex)` replaces all flags, and only they are put back at the end. -/
def ROMAddress.print (stream : Stream) (addr : ROMAddress) : Stream :=
  let flags := stream.flags
  let stream := stream.setFlags { base := .hex }
  let stream := ((stream.setFill '0').setUppercase.setWidth 2).putNumber addr.bank.toNat
  let stream := ((stream.putText ":".toList).setWidth 4).putNumber addr.bankAddress.toNat
  stream.setFlags flags

def printSection (pos : AddressRef) :
    Stream → AddressStore → List Instruction → Stream × AddressStore
  | cout, store, [] => (cout, store)
  | cout, store, ins :: rest =>
      let cout := ((store pos).print cout).putText ": \t".toList
      let cout := (cout.putText ins.stringify.toList).endl
      printSection pos cout (Function.update store pos ((store pos).advance ins.size.toNat)) rest

/-- `readBytesFromFile`: a file that cannot be opened gives an empty vector. -/
def readBytesFromFile (file : Option Bytes) : Bytes := file.getD []

def banner (version_string : String) : Stream :=
  let cout : Stream := {}
  ((cout.putText "Testapp using libsnesdisasm version: ".toList).putText
    version_string.toList).endl

/-- `main` up to its `delete pos`, on the file `TERRA.SMC`. -/
def testapp (version_string : String) (file : Option Bytes) : Except Fault Stream := do
  let cout := banner version_string
  let rom ← SNESROM.load (readBytesFromFile file)
  let disasm : Disasm := { m_ROM := rom }
  let pos ← disasm.m_ROM.header.getInterruptDest (.emulation .RESET)
  let (sec, store) ← disasm.disasmUntilJump (fun _ => pos) 0 30
  return (printSection 0 cout store sec.instructions).1

end SnesDisasm
