import SnesDisasm.Model.Instructions

/-!
# Instructions as text

Every addressing mode still falls into the default branch of its `switch`.
-/

namespace SnesDisasm

def Mnemonic.text : Mnemonic → String
  | .ADC => "ADC" | .AND => "AND" | .ASL => "ASL" | .BCC => "BCC" | .BCS => "BCS"
  | .BEQ => "BEQ" | .BIT => "BIT" | .BMI => "BMI" | .BNE => "BNE" | .BPL => "BPL"
  | .BRA => "BRA" | .BRK => "BRK" | .BRL => "BRL" | .BVC => "BVC" | .BVS => "BVS"
  | .CLC => "CLC" | .CLD => "CLD" | .CLI => "CLI" | .CLV => "CLV" | .CMP => "CMP"
  | .COP => "COP" | .CPX => "CPX" | .CPY => "CPY" | .DEC => "DEC" | .DEX => "DEX"
  | .DEY => "DEY" | .EOR => "EOR" | .INC => "INC" | .INX => "INX" | .INY => "INY"
  | .JMP => "JMP" | .JSR => "JSR" | .LDA => "LDA" | .LDX => "LDX" | .LDY => "LDY"
  | .LSR => "LSR" | .MVN => "MVN" | .NOP => "NOP" | .ORA => "ORA" | .PEA => "PEA"
  | .PEI => "PEI" | .PER => "PER" | .PHA => "PHA" | .PHB => "PHB" | .PHD => "PHD"
  | .PHK => "PHK" | .PHP => "PHP" | .PHX => "PHX" | .PHY => "PHY" | .PLA => "PLA"
  | .PLB => "PLB" | .PLD => "PLD" | .PLP => "PLP" | .PLX => "PLX" | .PLY => "PLY"
  | .REP => "REP" | .ROL => "ROL" | .ROR => "ROR" | .RTI => "RTI" | .RTL => "RTL"
  | .RTS => "RTS" | .SBC => "SBC" | .SEC => "SEC" | .SED => "SED" | .SEI => "SEI"
  | .SEP => "SEP" | .STA => "STA" | .STP => "STP" | .STX => "STX" | .STY => "STY"
  | .STZ => "STZ" | .TAX => "TAX" | .TAY => "TAY" | .TCD => "TCD" | .TCS => "TCS"
  | .TDC => "TDC" | .TRB => "TRB" | .TSB => "TSB" | .TSC => "TSC" | .TSX => "TSX"
  | .TXA => "TXA" | .TXS => "TXS" | .TXY => "TXY" | .TYA => "TYA" | .TYX => "TYX"
  | .WAI => "WAI" | .WDM => "WDM" | .XBA => "XBA" | .XCE => "XCE"

/-- `toHexStr` of one byte: `std::hex` writes the digits without leading zeros. -/
def toHexStr (s : UInt8) : String := .ofList (Nat.toDigits 16 s.toNat)

def Argument_t.toHexStr (arg : Argument_t) (bytes : UInt8) : String :=
  let s := ""
  let s := if bytes ≥ 1 then s ++ SnesDisasm.toHexStr arg.at1 else s
  let s := if bytes ≥ 2 then s ++ (" " ++ SnesDisasm.toHexStr arg.at2) else s
  if bytes ≥ 3 then s ++ (" " ++ SnesDisasm.toHexStr arg.at3) else s

def Instruction.stringify (inst : Instruction) : String :=
  let s := (opCodes.entry inst.m_OpCode).text
  if inst.size > 1 then
    match opCodeAddressingMode.entry inst.m_OpCode with
    | _ => s ++ (" " ++ inst.m_Argument.toHexStr (inst.size - 1) ++ " (unknown mode)")
  else s

end SnesDisasm
