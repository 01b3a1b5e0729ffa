import SnesDisasm.Framework.FetchLoop
import SnesDisasm.Model.CPUState
import SnesDisasm.Model.Memory

/-!
# Instructions

The opcode tables of `Instructions.cpp`, the constructor of `Instruction`, and `isJump`.
-/

namespace SnesDisasm

inductive Mnemonic where
  | ADC | AND | ASL | BCC | BCS | BEQ | BIT | BMI | BNE | BPL | BRA
  | BRK | BRL | BVC | BVS | CLC | CLD | CLI | CLV | CMP | COP | CPX
  | CPY | DEC | DEX | DEY | EOR | INC | INX | INY | JMP | JSR | LDA
  | LDX | LDY | LSR | MVN | NOP | ORA | PEA | PEI | PER | PHA | PHB
  | PHD | PHK | PHP | PHX | PHY | PLA | PLB | PLD | PLP | PLX | PLY
  | REP | ROL | ROR | RTI | RTL | RTS | SBC | SEC | SED | SEI | SEP
  | STA | STP | STX | STY | STZ | TAX | TAY | TCD | TCS | TDC | TRB
  | TSB | TSC | TSX | TXA | TXS | TXY | TYA | TYX | WAI | WDM | XBA
  | XCE
  deriving DecidableEq, Repr

inductive AddressingMode where
  | IMMEDIATE
  | ABSOLUTE
  | DIRECT
  | ABSOLUTE_INDEXED_WITH_X
  | ABSOLUTE_INDEXED_WITH_Y
  | ABSOLUTE_LONG
  | DIRECT_INDEXED_WITH_X
  | DIRECT_INDEXED_WITH_Y
  | ACCUMULATOR
  | IMPLIED
  | STACK
  | DIRECT_INDIRECT
  | RELATIVE
  | RELATIVE_LONG
  | DIRECT_INDEXED_INDIRECT
  | DIRECT_INDIRECT_INDEXED
  | DIRECT_INDIRECT_LONG
  | DIRECT_INDIRECT_INDEXED_LONG
  | ABSOLUTE_INDEXED_LONG
  | STACK_RELATIVE
  | STACK_RELATIVE_INDIRECT_INDEXED
  | ABSOLUTE_INDIRECT
  | ABSOLUTE_INDIRECT_LONG
  | ABSOLUTE_INDEXED_INDIRECT
  | IMPLIED_ACCUMULATOR
  | BLOCK_MOVE
  | ABSOLUTE_INDEXED_LONG_WITH_X
  | PROGRAMMCOUNTER_RELATIVE
  | PROGRAMMCOUNTER_RELATIVE_LONG
  | STACK_INTERRUPT
  | RESERVED
  | DIRECT_INDIRECT_INDEXED_WITH_Y
  | DIRECT_INDIRECT_LONG_INDEXED_WITH_Y
  deriving DecidableEq, Repr

/-- One entry for every opcode, in rows of sixteen as in the source. -/
abbrev OpCodeTable (α : Type) := Vector (Vector α 16) 16

def OpCodeTable.entry {α : Type} (table : OpCodeTable α) (opCode : UInt8) : α :=
  have hrow : opCode.toNat / 16 < 16 := Nat.div_lt_of_lt_mul opCode.toNat_lt
  (table.get ⟨opCode.toNat / 16, hrow⟩).get ⟨opCode.toNat % 16, Nat.mod_lt _ (by decide)⟩

def opCodes : OpCodeTable Mnemonic := #v[
  /- 0x00 -/ #v[.BRK, .ORA, .COP, .ORA, .TSB, .ORA, .ASL, .ORA, .PHP, .ORA, .ASL, .PHD, .TSB, .ORA, .ASL, .ORA],
  /- 0x10 -/ #v[.BPL, .ORA, .ORA, .ORA, .TRB, .ORA, .ASL, .ORA, .CLC, .ORA, .INC, .TCS, .TRB, .ORA, .ASL, .ORA],
  /- 0x20 -/ #v[.JSR, .AND, .JSR, .AND, .BIT, .AND, .ROL, .AND, .PLP, .AND, .ROL, .PLD, .BIT, .AND, .ROL, .AND],
  /- 0x30 -/ #v[.BMI, .AND, .AND, .AND, .BIT, .AND, .ROL, .AND, .SEC, .AND, .DEC, .TSC, .BIT, .AND, .ROL, .AND],
  /- 0x40 -/ #v[.RTI, .EOR, .WDM, .EOR, .MVN, .EOR, .LSR, .EOR, .PHA, .EOR, .LSR, .PHK, .JMP, .EOR, .LSR, .EOR],
  /- 0x50 -/ #v[.BVC, .EOR, .EOR, .EOR, .MVN, .EOR, .LSR, .EOR, .CLI, .EOR, .PHY, .TCD, .JMP, .EOR, .LSR, .EOR],
  /- 0x60 -/ #v[.RTS, .ADC, .PER, .ADC, .STZ, .ADC, .ROR, .ADC, .PLA, .ADC, .ROR, .RTL, .JMP, .ADC, .ROR, .ADC],
  /- 0x70 -/ #v[.BVS, .ADC, .ADC, .ADC, .STZ, .ADC, .ROR, .ADC, .SEI, .ADC, .PLY, .TDC, .JMP, .ADC, .ROR, .ADC],
  /- 0x80 -/ #v[.BRA, .STA, .BRL, .STA, .STY, .STA, .STX, .STA, .DEY, .STA, .TXA, .PHB, .STY, .STA, .STX, .STA],
  /- 0x90 -/ #v[.BCC, .STA, .STA, .STA, .STY, .STA, .STX, .STA, .TYA, .STA, .TXS, .TXY, .STZ, .STA, .STZ, .STA],
  /- 0xA0 -/ #v[.LDY, .LDA, .LDX, .LDA, .LDY, .LDA, .LDX, .LDA, .TAY, .LDA, .TAX, .PLB, .LDY, .LDA, .LDX, .LDA],
  /- 0xB0 -/ #v[.BCS, .LDA, .LDA, .LDA, .LDY, .LDA, .LDX, .LDA, .CLV, .LDA, .TSX, .TYX, .LDY, .LDA, .LDX, .LDA],
  /- 0xC0 -/ #v[.CPY, .CMP, .REP, .CMP, .CPY, .CMP, .DEC, .CMP, .INY, .CMP, .DEX, .WAI, .CPY, .CMP, .DEC, .CMP],
  /- 0xD0 -/ #v[.BNE, .CMP, .CMP, .CMP, .PEI, .CMP, .DEC, .CMP, .CLD, .CMP, .PHX, .STP, .JMP, .CMP, .DEC, .CMP],
  /- 0xE0 -/ #v[.CPX, .SBC, .SEP, .SBC, .CPX, .SBC, .INC, .SBC, .INX, .SBC, .NOP, .XBA, .CPX, .SBC, .INC, .SBC],
  /- 0xF0 -/ #v[.BEQ, .SBC, .SBC, .SBC, .PEA, .SBC, .INC, .SBC, .SED, .SBC, .PLX, .XCE, .JSR, .SBC, .INC, .SBC]]

def opCodeByteSize : OpCodeTable UInt8 := #v[
  /- 0x00 -/ #v[2, 2, 2, 2, 2, 2, 2, 2, 1, 2, 1, 1, 3, 3, 3, 4],
  /- 0x10 -/ #v[2, 2, 2, 2, 2, 2, 2, 2, 1, 3, 1, 1, 3, 3, 3, 4],
  /- 0x20 -/ #v[3, 2, 4, 2, 2, 2, 2, 2, 1, 2, 1, 1, 3, 3, 3, 4],
  /- 0x30 -/ #v[2, 2, 2, 2, 2, 2, 2, 2, 1, 3, 1, 1, 3, 3, 3, 4],
  /- 0x40 -/ #v[1, 2, 2, 2, 3, 2, 2, 2, 1, 2, 1, 1, 3, 3, 3, 4],
  /- 0x50 -/ #v[2, 2, 2, 2, 3, 2, 2, 2, 1, 3, 1, 1, 4, 3, 3, 4],
  /- 0x60 -/ #v[1, 2, 3, 2, 2, 2, 2, 2, 1, 2, 3, 1, 3, 3, 3, 4],
  /- 0x70 -/ #v[2, 2, 2, 2, 2, 2, 2, 2, 1, 3, 1, 1, 3, 3, 3, 4],
  /- 0x80 -/ #v[2, 2, 3, 2, 2, 2, 2, 2, 1, 2, 1, 1, 3, 3, 3, 4],
  /- 0x90 -/ #v[2, 2, 2, 2, 2, 2, 2, 2, 1, 3, 1, 1, 3, 3, 3, 4],
  /- 0xA0 -/ #v[2, 2, 2, 2, 2, 2, 2, 2, 1, 2, 1, 1, 3, 3, 3, 4],
  /- 0xB0 -/ #v[2, 2, 2, 2, 2, 2, 2, 2, 1, 3, 1, 1, 3, 3, 3, 4],
  /- 0xC0 -/ #v[2, 2, 2, 2, 2, 2, 2, 2, 1, 2, 1, 1, 3, 3, 3, 4],
  /- 0xD0 -/ #v[2, 2, 2, 2, 2, 2, 2, 2, 1, 3, 1, 1, 3, 3, 3, 4],
  /- 0xE0 -/ #v[2, 2, 2, 2, 2, 2, 2, 2, 1, 2, 1, 1, 3, 3, 3, 4],
  /- 0xF0 -/ #v[2, 2, 2, 2, 3, 2, 2, 2, 1, 3, 1, 1, 3, 3, 3, 4]]

def opCodeAddressingMode : OpCodeTable AddressingMode := #v[
  /- 0x00 -/ #v[.STACK, .DIRECT_INDEXED_INDIRECT, .STACK, .STACK_RELATIVE, .DIRECT, .DIRECT,
    .DIRECT, .DIRECT_INDIRECT_LONG, .STACK, .IMMEDIATE, .ACCUMULATOR, .STACK, .ABSOLUTE, .ABSOLUTE,
    .ABSOLUTE, .ABSOLUTE_LONG],
  /- 0x10 -/ #v[.PROGRAMMCOUNTER_RELATIVE, .DIRECT_INDIRECT_INDEXED, .DIRECT_INDIRECT,
    .DIRECT_INDIRECT_INDEXED_WITH_Y, .DIRECT, .DIRECT_INDEXED_WITH_X, .DIRECT_INDEXED_WITH_X,
    .DIRECT_INDIRECT_LONG_INDEXED_WITH_Y, .IMPLIED, .ABSOLUTE_INDEXED_WITH_Y, .ACCUMULATOR,
    .IMPLIED, .ABSOLUTE, .ABSOLUTE_INDEXED_WITH_X, .ABSOLUTE_INDEXED_WITH_X,
    .ABSOLUTE_INDEXED_LONG_WITH_X],
  /- 0x20 -/ #v[.ABSOLUTE, .DIRECT_INDEXED_INDIRECT, .ABSOLUTE_LONG, .STACK_RELATIVE, .DIRECT,
    .DIRECT, .DIRECT, .DIRECT_INDIRECT_LONG, .STACK, .IMMEDIATE, .ACCUMULATOR, .STACK, .ABSOLUTE,
    .ABSOLUTE, .ABSOLUTE, .ABSOLUTE_LONG],
  /- 0x30 -/ #v[.PROGRAMMCOUNTER_RELATIVE, .DIRECT_INDIRECT_INDEXED, .DIRECT_INDIRECT,
    .DIRECT_INDIRECT_INDEXED_WITH_Y, .DIRECT_INDEXED_WITH_X, .DIRECT_INDEXED_WITH_X,
    .DIRECT_INDEXED_WITH_X, .DIRECT_INDIRECT_LONG_INDEXED_WITH_Y, .IMPLIED,
    .ABSOLUTE_INDEXED_WITH_Y, .ACCUMULATOR, .IMPLIED, .ABSOLUTE_INDEXED_WITH_X,
    .ABSOLUTE_INDEXED_WITH_X, .ABSOLUTE_INDEXED_WITH_X, .ABSOLUTE_INDEXED_LONG_WITH_X],
  /- 0x40 -/ #v[.STACK, .DIRECT_INDEXED_INDIRECT, .RESERVED, .STACK_RELATIVE, .BLOCK_MOVE, .DIRECT,
    .DIRECT, .DIRECT_INDIRECT_LONG, .STACK, .IMMEDIATE, .ACCUMULATOR, .STACK, .ABSOLUTE, .ABSOLUTE,
    .ABSOLUTE, .ABSOLUTE_LONG],
  /- 0x50 -/ #v[.PROGRAMMCOUNTER_RELATIVE, .DIRECT_INDIRECT_INDEXED, .DIRECT_INDIRECT,
    .DIRECT_INDIRECT_INDEXED_WITH_Y, .BLOCK_MOVE, .DIRECT_INDEXED_WITH_X, .DIRECT_INDEXED_WITH_X,
    .DIRECT_INDIRECT_LONG_INDEXED_WITH_Y, .IMPLIED, .ABSOLUTE_INDEXED_WITH_Y, .STACK, .IMPLIED,
    .ABSOLUTE_LONG, .ABSOLUTE_INDEXED_WITH_X, .ABSOLUTE_INDEXED_WITH_X,
    .ABSOLUTE_INDEXED_LONG_WITH_X],
  /- 0x60 -/ #v[.STACK, .DIRECT_INDEXED_INDIRECT, .STACK, .STACK_RELATIVE, .DIRECT, .DIRECT,
    .DIRECT, .DIRECT_INDIRECT_LONG, .STACK, .IMMEDIATE, .ACCUMULATOR, .STACK, .ABSOLUTE_INDIRECT,
    .ABSOLUTE, .ABSOLUTE, .ABSOLUTE_LONG],
  /- 0x70 -/ #v[.PROGRAMMCOUNTER_RELATIVE, .DIRECT_INDIRECT_INDEXED, .DIRECT_INDIRECT,
    .DIRECT_INDIRECT_INDEXED_WITH_Y, .DIRECT_INDEXED_WITH_X, .DIRECT_INDEXED_WITH_X,
    .DIRECT_INDEXED_WITH_X, .DIRECT_INDIRECT_LONG_INDEXED_WITH_Y, .IMPLIED,
    .ABSOLUTE_INDEXED_WITH_Y, .STACK, .IMPLIED, .ABSOLUTE_INDEXED_INDIRECT,
    .ABSOLUTE_INDEXED_WITH_X, .ABSOLUTE_INDEXED_WITH_X, .ABSOLUTE_INDEXED_LONG_WITH_X],
  /- 0x80 -/ #v[.PROGRAMMCOUNTER_RELATIVE, .DIRECT_INDEXED_INDIRECT, .PROGRAMMCOUNTER_RELATIVE_LONG,
    .STACK_RELATIVE, .DIRECT, .DIRECT, .DIRECT, .DIRECT_INDIRECT_LONG, .IMPLIED, .IMMEDIATE,
    .IMPLIED, .STACK, .ABSOLUTE, .ABSOLUTE, .ABSOLUTE, .ABSOLUTE_LONG],
  /- 0x90 -/ #v[.PROGRAMMCOUNTER_RELATIVE, .DIRECT_INDIRECT_INDEXED, .DIRECT_INDIRECT,
    .DIRECT_INDIRECT_INDEXED_WITH_Y, .DIRECT_INDEXED_WITH_X, .DIRECT_INDEXED_WITH_X,
    .DIRECT_INDEXED_WITH_Y, .DIRECT_INDIRECT_LONG_INDEXED_WITH_Y, .IMPLIED,
    .ABSOLUTE_INDEXED_WITH_Y, .IMPLIED, .IMPLIED, .ABSOLUTE, .ABSOLUTE_INDEXED_WITH_X,
    .ABSOLUTE_INDEXED_WITH_X, .ABSOLUTE_INDEXED_LONG_WITH_X],
  /- 0xA0 -/ #v[.IMMEDIATE, .DIRECT_INDEXED_INDIRECT, .IMMEDIATE, .STACK_RELATIVE, .DIRECT, .DIRECT,
    .DIRECT, .DIRECT_INDIRECT_LONG, .IMPLIED, .IMMEDIATE, .IMPLIED, .STACK, .ABSOLUTE, .ABSOLUTE,
    .ABSOLUTE, .ABSOLUTE_LONG],
  /- 0xB0 -/ #v[.PROGRAMMCOUNTER_RELATIVE, .DIRECT_INDIRECT_INDEXED, .DIRECT_INDIRECT,
    .DIRECT_INDIRECT_INDEXED_WITH_Y, .DIRECT_INDEXED_WITH_X, .DIRECT_INDEXED_WITH_X,
    .DIRECT_INDEXED_WITH_Y, .DIRECT_INDIRECT_LONG_INDEXED_WITH_Y, .IMPLIED,
    .ABSOLUTE_INDEXED_WITH_Y, .IMPLIED, .IMPLIED, .ABSOLUTE_INDEXED_WITH_X,
    .ABSOLUTE_INDEXED_WITH_X, .ABSOLUTE_INDEXED_WITH_Y, .ABSOLUTE_INDEXED_LONG_WITH_X],
  /- 0xC0 -/ #v[.IMMEDIATE, .DIRECT_INDEXED_INDIRECT, .IMMEDIATE, .STACK_RELATIVE, .DIRECT, .DIRECT,
    .DIRECT, .DIRECT_INDIRECT_LONG, .IMPLIED, .IMMEDIATE, .IMPLIED, .IMPLIED, .ABSOLUTE, .ABSOLUTE,
    .ABSOLUTE, .ABSOLUTE_LONG],
  /- 0xD0 -/ #v[.PROGRAMMCOUNTER_RELATIVE, .DIRECT_INDIRECT_INDEXED, .DIRECT_INDIRECT,
    .DIRECT_INDIRECT_INDEXED_WITH_Y, .STACK, .STACK, .DIRECT_INDEXED_WITH_X,
    .DIRECT_INDIRECT_LONG_INDEXED_WITH_Y, .IMPLIED, .ABSOLUTE_INDEXED_WITH_Y, .STACK, .IMPLIED,
    .ABSOLUTE_INDIRECT_LONG, .ABSOLUTE_INDEXED_WITH_X, .ABSOLUTE_INDEXED_WITH_X,
    .ABSOLUTE_INDEXED_LONG_WITH_X],
  /- 0xE0 -/ #v[.IMMEDIATE, .DIRECT_INDEXED_INDIRECT, .IMMEDIATE, .STACK_RELATIVE, .DIRECT, .DIRECT,
    .DIRECT, .DIRECT_INDIRECT_LONG, .IMPLIED, .IMMEDIATE, .IMPLIED, .IMPLIED, .ABSOLUTE, .ABSOLUTE,
    .ABSOLUTE, .ABSOLUTE_LONG],
  /- 0xF0 -/ #v[.PROGRAMMCOUNTER_RELATIVE, .DIRECT_INDIRECT_INDEXED, .DIRECT_INDIRECT,
    .DIRECT_INDIRECT_INDEXED_WITH_Y, .STACK, .DIRECT_INDEXED_WITH_X, .DIRECT_INDEXED_WITH_X,
    .DIRECT_INDIRECT_LONG_INDEXED_WITH_Y, .IMPLIED, .ABSOLUTE_INDEXED_WITH_Y, .STACK, .IMPLIED,
    .ABSOLUTE_INDEXED_INDIRECT, .ABSOLUTE_INDEXED_WITH_X, .ABSOLUTE_INDEXED_WITH_X,
    .ABSOLUTE_INDEXED_LONG_WITH_X]]

structure Argument_t where
  at1 : UInt8 := 0
  at2 : UInt8 := 0
  at3 : UInt8 := 0
  deriving DecidableEq, Repr

structure Instruction where
  m_OpCode : UInt8
  m_Argument : Argument_t
  m_Size : UInt8
  deriving DecidableEq, Repr

/-- The `case` labels under `MEMORY_SELECT`: the immediates of the accumulator. -/
def accumulatorImmediates : List UInt8 := [0x09, 0x29, 0x49, 0x69, 0x89, 0xA9, 0xC9, 0xE9]

/-- The `case` labels under `INDEX_SELECT`: the immediates of the index registers. -/
def indexImmediates : List UInt8 := [0xA0, 0xA2, 0xC0, 0xE0]

def jumpOpCodes : List UInt8 :=
  [0x10, 0x20, 0x30, 0x22, 0x4C, 0x5C, 0x6C, 0x7C, 0x80, 0xD0, 0xDC, 0xFC]

namespace Instruction

def decodedSize (state : MachineState) (m_OpCode : UInt8) : UInt8 :=
  let m_Size := opCodeByteSize.entry m_OpCode
  let m_Size :=
    if state.m_CPUState.areFlagsSet MEMORY_SELECT ∧ m_OpCode ∈ accumulatorImmediates then
      m_Size + 1
    else m_Size
  if state.m_CPUState.areFlagsSet INDEX_SELECT ∧ m_OpCode ∈ indexImmediates then
    m_Size + 1
  else m_Size

/-- An operand byte, or 0 where the `switch` on the size does not pass its statement. -/
def operand (passed : Bool) (data : BytePtr) (i : Nat) : Except Fault UInt8 :=
  if passed then data i else .ok 0

def fetch (state : MachineState) (data : BytePtr) : Except Fault Instruction := do
  let m_OpCode ← data 0
  let m_Size := decodedSize state m_OpCode
  -- the `switch` falls through from each case to the smaller ones
  let at3 ← operand (m_Size == 4) data 3
  let at2 ← operand (m_Size == 4 || m_Size == 3) data 2
  let at1 ← operand (m_Size == 4 || m_Size == 3 || m_Size == 2) data 1
  return ⟨m_OpCode, ⟨at1, at2, at3⟩, m_Size⟩

def size (inst : Instruction) : UInt8 := inst.m_Size

def isJump (inst : Instruction) : Bool := inst.m_OpCode ∈ jumpOpCodes

def mnemonic (inst : Instruction) : Mnemonic := opCodes.entry inst.m_OpCode

def bytes (inst : Instruction) : Bytes :=
  (inst.m_OpCode :: [inst.m_Argument.at1, inst.m_Argument.at2, inst.m_Argument.at3]).take
    inst.size.toNat

end Instruction

end SnesDisasm
