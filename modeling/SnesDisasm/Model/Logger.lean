import SnesDisasm.Framework.Logging
import SnesDisasm.Model.SNESROM

/-!
# The log

A stream that is not open takes nothing and raises no exception.
-/

namespace SnesDisasm
open Logging

inductive LogType where
  | ERROR
  | STATE
  | WARNING
  | HINT
  | MESSAGE
  deriving DecidableEq, Repr

/-- `mLogStream` is whether it is open and what has been written. -/
structure Logger where
  isOpen : Bool
  written : List Char := []
  mLastLog : String := ""
  deriving DecidableEq, Repr

namespace Logger

/-- `mLogStream << text << std::endl`. -/
def writeLine (logger : Logger) (text : String) : Logger :=
  if logger.isOpen then { logger with written := logger.written ++ (text.toList ++ ['\n']) }
  else logger

def closeLog (logger : Logger) : Logger := { logger with isOpen := false }

def writeLog (logger : Logger) (kindOfMessage message location : String) : Logger :=
  let mLastLog := kindOfMessage ++ message ++ " IN " ++ location
  { logger with mLastLog }.writeLine mLastLog

def log (logger : Logger) (type : LogType) (message location : String) : Logger :=
  match type with
  | .ERROR => logger.writeLog "FEHLER : " message location
  | .STATE => logger.writeLog "STATUS : " message location
  | .WARNING => logger.writeLog "WARNUNG: " message location
  | .HINT => logger.writeLog "HINWEIS: " message location
  | .MESSAGE => logger.writeLine message

def breakLine : String := String.ofList (List.replicate 253 '-')

def logBreak (logger : Logger) : Logger :=
  { logger with mLastLog := breakLine }.writeLine breakLine

def lastLog (logger : Logger) : String := logger.mLastLog

end Logger

inductive LoggerCall where
  | log (type : LogType) (message location : String)
  | logBreak
  | closeLog
  deriving DecidableEq, Repr

def Logger.applyCall (logger : Logger) : LoggerCall → Logger
  | .log type message location => logger.log type message location
  | .logBreak => logger.logBreak
  | .closeLog => logger.closeLog

def Logger.afterCalls (logger : Logger) (calls : List LoggerCall) : Logger :=
  calls.foldl Logger.applyCall logger

/-- `sourceFile` stands for `__FILE__`. -/
def LOG_SRC (sourceFile : String) (line : Nat) (type : LogType) (message : String) :
    LoggedRun Fault LoggerCall Unit :=
  .emit (.log type message (sourceFile ++ ":" ++ toString line))

namespace SNESROM
open LoggedRun

variable (sourceFile : String)

/-- `probeHeader` with the message for a missing header. The other functions with messages follow.
-/
def probeHeaderLogged (rom : SNESROM) (headerAddress : Nat)
    (missing : LoggedRun Fault LoggerCall Unit) : LoggedRun Fault LoggerCall SNESROM := do
  let found ← lift (SNESROMHeader.mayBeThere (rom.headerless.advance headerAddress))
  if found then lift (rom.takeHeader headerAddress) else missing >>= fun _ => pure rom

def probeDeclaredLayoutLogged (rom : SNESROM) : LoggedRun Fault LoggerCall SNESROM := do
  let m_SMCHeader := rom.m_SMCHeader.load ⟨rom.m_actualImageData, 0⟩
  LOG_SRC sourceFile 63 .STATE "ROM has a SMC-Header"
  let layout ← lift m_SMCHeader.layout
  let SNESHeaderROMAddress ← lift (getROMAddressObject layout)
  let SNESHeaderROMAddress ← lift (SNESHeaderROMAddress.setROMAddress 0x00FFC0)
  let headerAddress ← lift SNESHeaderROMAddress.toImageAddress
  let rom ← probeHeaderLogged { rom with m_SMCHeader } headerAddress.toNat
    (LOG_SRC sourceFile 79 .WARNING "SMC-Header lies about ROM layout")
  let _ ← lift rom.checkRomLayout
  return rom

def probeKnownOffsetsLogged (rom : SNESROM) : LoggedRun Fault LoggerCall SNESROM := do
  let found ← lift (SNESROMHeader.mayBeThere (rom.headerless.advance 0x7FC0))
  if found then lift (rom.takeHeader 0x7FC0)
  else rom.probeHeaderLogged 0xFFC0 (LOG_SRC sourceFile 95 .ERROR "There is no SNES header")

def findHeaderLogged (rom : SNESROM) : LoggedRun Fault LoggerCall SNESROM := do
  let rom ← (if rom.m_actualImageData.length % 1024 ≠ 0 then rom.probeDeclaredLayoutLogged sourceFile
    else pure rom)
  if rom.m_SNESROMHeader.isValid then pure rom else rom.probeKnownOffsetsLogged sourceFile

def loadLogged (m_actualImageData : Bytes) : LoggedRun Fault LoggerCall SNESROM := do
  lift (assert (m_actualImageData.length % 512 = 0))
  lift (assert (m_actualImageData.length > 0))
  findHeaderLogged sourceFile
    { m_actualImageData, m_headerlessImageData := m_actualImageData.length % 1024 }

end SNESROM

end SnesDisasm
