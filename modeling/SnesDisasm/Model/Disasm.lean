import SnesDisasm.Model.Instructions
import SnesDisasm.Model.SNESROM

/-!
# The disassembler

`start`, the loop cursor and `end` of a section are pointers to one object, which the loop advances.
-/

namespace SnesDisasm
open FetchLoop

abbrev AddressRef := Nat

/-- The address objects that exist. -/
abbrev AddressStore := AddressRef → ROMAddress

@[ext] structure Section where
  start : AddressRef
  end_ : AddressRef
  instructions : List Instruction
  deriving DecidableEq, Repr

abbrev ByteSource := ROMAddress → Except Fault BytePtr

/-- One pass of the loop body. -/
def fetchInstruction (rom : ByteSource) (state : MachineState) (pos : ROMAddress) :
    Except Fault (Instruction × ROMAddress) := do
  let data ← rom pos
  let inst ← Instruction.fetch state data
  return (inst, pos.advance inst.size.toNat)

def disasmUntilJump (rom : ByteSource) (state : MachineState) (store : AddressStore)
    (start : AddressRef) (maxInstructions : UInt32) : Except Fault (Section × AddressStore) := do
  let pos := start
  let (instructions, store) ← fetchUntil
    (fun store => (fetchInstruction rom state (store pos)).map
      fun (inst, next) => (inst, Function.update store pos next))
    Instruction.isJump maxInstructions.toNat store
  return (⟨start, pos, instructions⟩, store)

/-- The addresses that `testapp` prints with the instructions, and the objects afterwards. -/
def printInstructions (pos : AddressRef) :
    AddressStore → List Instruction → List (ROMAddress × Instruction) × AddressStore
  | store, [] => ([], store)
  | store, ins :: rest =>
      let store' := Function.update store pos ((store pos).advance ins.size.toNat)
      let (printed, after) := printInstructions pos store' rest
      ((store pos, ins) :: printed, after)

structure Disasm where
  m_ROM : SNESROM
  m_State : MachineState := {}
  deriving DecidableEq, Repr

namespace Disasm

def source (disasm : Disasm) : ByteSource := fun address =>
  (disasm.m_ROM.index address).map Pointer.deref

def disasmUntilJump (disasm : Disasm) (store : AddressStore) (start : AddressRef)
    (maxInstructions : UInt32) : Except Fault (Section × AddressStore) :=
  SnesDisasm.disasmUntilJump disasm.source disasm.m_State store start maxInstructions

end Disasm

end SnesDisasm
