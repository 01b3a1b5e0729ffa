import SnesDisasm.Framework.Words

/-!
# The CPU state

The registers and flags of `CPUState.cpp` that its operations read or write.
-/

namespace SnesDisasm

/-- `FlagRegisterNames::INDEX_SELECT`: 0 is 16-bit XY, 1 is 8-bit XY. -/
def INDEX_SELECT : UInt8 := 0x10

/-- `FlagRegisterNames::MEMORY_SELECT`: 0 is 16-bit A, 1 is 8-bit A. -/
def MEMORY_SELECT : UInt8 := 0x20

structure CPUState where
  m_Accumulator : UInt16 := 0
  m_IndexX : UInt16 := 0
  m_IndexY : UInt16 := 0
  m_FlagRegister : UInt8 := 0x00
  deriving DecidableEq, Repr

namespace CPUState

def areFlagsSet (state : CPUState) (flagRegisterNamesBitmask : UInt8) : Bool :=
  state.m_FlagRegister &&& flagRegisterNamesBitmask == flagRegisterNamesBitmask

def setFlagRegister (state : CPUState) (flagRegisterNamesBitmask : UInt8) : CPUState :=
  { state with m_FlagRegister := state.m_FlagRegister ||| flagRegisterNamesBitmask }

/-- `!` is the logical negation: it yields 1 for a zero mask and 0 for any other. -/
def resetFlagRegister (state : CPUState) (flagRegisterNamesBitmask : UInt8) : CPUState :=
  { state with
    m_FlagRegister := state.m_FlagRegister &&& (if flagRegisterNamesBitmask = 0 then 1 else 0) }

def getAccumulator (state : CPUState) : UInt16 :=
  if state.areFlagsSet MEMORY_SELECT then state.m_Accumulator &&& 0x00FF else state.m_Accumulator

def getIndexX (state : CPUState) : UInt16 :=
  if state.areFlagsSet INDEX_SELECT then state.m_IndexX &&& 0x00FF else state.m_IndexX

/-- Unlike the other two getters of its kind this one tests the flag of another register. -/
def getIndexY (state : CPUState) : UInt16 :=
  if state.areFlagsSet MEMORY_SELECT then state.m_IndexY &&& 0x00FF else state.m_IndexY

def storedValue (old newValue : UInt16) (ignoreRegisterSize eightBit : Bool) : UInt16 :=
  if ignoreRegisterSize then newValue
  else if eightBit then (old &&& 0xFF00) + (newValue &&& 0x00FF)
  else newValue

def setAccumulator (state : CPUState) (newValue : UInt16) (ignoreRegisterSize : Bool) :
    CPUState :=
  { state with
    m_Accumulator := storedValue state.m_Accumulator newValue ignoreRegisterSize
      (state.areFlagsSet MEMORY_SELECT) }

def setIndexX (state : CPUState) (newValue : UInt16) (ignoreRegisterSize : Bool) : CPUState :=
  { state with
    m_IndexX := storedValue state.m_IndexX newValue ignoreRegisterSize
      (state.areFlagsSet INDEX_SELECT) }

def setIndexY (state : CPUState) (newValue : UInt16) (ignoreRegisterSize : Bool) : CPUState :=
  { state with
    m_IndexY := storedValue state.m_IndexY newValue ignoreRegisterSize
      (state.areFlagsSet INDEX_SELECT) }

inductive FlagCall where
  | setFlagRegister (flagRegisterNamesBitmask : UInt8)
  | resetFlagRegister (flagRegisterNamesBitmask : UInt8)
  deriving DecidableEq, Repr

def applyFlagCall (state : CPUState) : FlagCall → CPUState
  | .setFlagRegister mask => state.setFlagRegister mask
  | .resetFlagRegister mask => state.resetFlagRegister mask

def afterFlagCalls (calls : List FlagCall) : CPUState := calls.foldl applyFlagCall {}

inductive StateCall where
  | flags (call : FlagCall)
  | setAccumulator (newValue : UInt16) (ignoreRegisterSize : Bool)
  | setIndexX (newValue : UInt16) (ignoreRegisterSize : Bool)
  | setIndexY (newValue : UInt16) (ignoreRegisterSize : Bool)
  deriving DecidableEq, Repr

def applyCall (state : CPUState) : StateCall → CPUState
  | .flags call => state.applyFlagCall call
  | .setAccumulator newValue ignoreRegisterSize => state.setAccumulator newValue ignoreRegisterSize
  | .setIndexX newValue ignoreRegisterSize => state.setIndexX newValue ignoreRegisterSize
  | .setIndexY newValue ignoreRegisterSize => state.setIndexY newValue ignoreRegisterSize

def afterCalls (calls : List StateCall) : CPUState := calls.foldl applyCall {}

end CPUState

structure MachineState where
  m_CPUState : CPUState := {}
  deriving DecidableEq, Repr

end SnesDisasm
