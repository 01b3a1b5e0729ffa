import SnesDisasm.Framework.OutputStream
import SnesDisasm.Load.Bounds
import SnesDisasm.Load.Selection
import SnesDisasm.Model.Logger

/-!
# What the log tells
-/

namespace SnesDisasm
open FetchLoop Logging OutputStream

/-- The line that a call writes. -/
def LoggerCall.line : LoggerCall → Option String
  | .log .ERROR message location => some ("FEHLER : " ++ message ++ " IN " ++ location)
  | .log .STATE message location => some ("STATUS : " ++ message ++ " IN " ++ location)
  | .log .WARNING message location => some ("WARNUNG: " ++ message ++ " IN " ++ location)
  | .log .HINT message location => some ("HINWEIS: " ++ message ++ " IN " ++ location)
  | .log .MESSAGE message _ => some message
  | .logBreak => some Logger.breakLine
  | .closeLog => none

/-- The line that `lastLog` remembers of a call. -/
def LoggerCall.remembered : LoggerCall → Option String
  | .log .MESSAGE _ _ => none
  | call => call.line

namespace Logger

theorem writeLine_eq (logger : Logger) (text : String) :
    logger.writeLine text =
      { logger with written := logger.written ++ if logger.isOpen then ended [text.toList] else [] } := by
  unfold writeLine
  cases logger with
  | mk isOpen written mLastLog => cases isOpen <;> simp [ended]

theorem applyCall_eq (logger : Logger) (call : LoggerCall) :
    logger.applyCall call =
      { isOpen := logger.isOpen && call != .closeLog
        written := logger.written ++
          if logger.isOpen then ended (call.line.toList.map String.toList) else []
        mLastLog := call.remembered.getD logger.mLastLog } := by
  cases call with
  | log type message location =>
    cases type <;>
      simp [applyCall, log, writeLog, writeLine_eq, LoggerCall.line, LoggerCall.remembered]
  | logBreak => simp [applyCall, logBreak, writeLine_eq, LoggerCall.line, LoggerCall.remembered]
  | closeLog => simp [applyCall, closeLog, LoggerCall.line, LoggerCall.remembered, ended]

theorem afterCalls_cons (logger : Logger) (call : LoggerCall) (calls : List LoggerCall) :
    logger.afterCalls (call :: calls) = (logger.applyCall call).afterCalls calls := rfl

theorem afterCalls_written (logger : Logger) (calls : List LoggerCall) :
    (logger.afterCalls calls).written = logger.written ++
      if logger.isOpen then
        ended (((calls.takeWhile (· != .closeLog)).filterMap LoggerCall.line).map String.toList)
      else [] := by
  induction calls generalizing logger with
  | nil => simp [afterCalls, ended]
  | cons call calls ih =>
    rw [afterCalls_cons, ih, applyCall_eq]
    cases hopen : logger.isOpen with
    | false => simp
    | true =>
      by_cases hclose : call = .closeLog
      · simp [hclose, LoggerCall.line, ended]
      · have hrunning : (call != LoggerCall.closeLog) = true := by simpa using hclose
        cases hline : call.line with
        | none => simp [hrunning, hline, ended]
        | some text => simp [hrunning, hline, ended]

theorem afterCalls_mLastLog (logger : Logger) (calls : List LoggerCall) :
    (logger.afterCalls calls).mLastLog =
      (calls.filterMap LoggerCall.remembered).getLast?.getD logger.mLastLog := by
  induction calls generalizing logger with
  | nil => rfl
  | cons call calls ih =>
    rw [afterCalls_cons, ih, applyCall_eq]
    cases hline : call.remembered with
    | none => simp [hline]
    | some text => simp [hline, List.getLast?_cons]

end Logger

/-- The file gets the lines of the calls up to the first `closeLog` if it was opened, and `lastLog`
is the last line of a call other than a plain message, written or not. -/
theorem logger_keeps_history (logger : Logger) (calls : List LoggerCall) :
    (logger.afterCalls calls).written = logger.written ++
        (if logger.isOpen then
          ended (((calls.takeWhile (· != .closeLog)).filterMap LoggerCall.line).map String.toList)
        else []) ∧
      (logger.afterCalls calls).lastLog =
        (calls.filterMap LoggerCall.remembered).getLast?.getD logger.lastLog :=
  ⟨logger.afterCalls_written calls, logger.afterCalls_mLastLog calls⟩

namespace SNESROM
open LoggedRun

variable {sourceFile : String}

theorem probeHeaderLogged_result (rom : SNESROM) (headerAddress : Nat)
    {missing : LoggedRun Fault LoggerCall Unit} (hmissing : missing.result = .ok ()) :
    (rom.probeHeaderLogged headerAddress missing).result = rom.probeHeader headerAddress := by
  rw [probeHeaderLogged, bind_result, lift_result, probeHeader]
  congr 1
  funext found
  cases found with
  | false =>
    change (missing >>= fun _ => pure rom).result = .ok rom
    rw [bind_result, hmissing]
    rfl
  | true => rfl

theorem probeDeclaredLayoutLogged_result (rom : SNESROM) :
    (rom.probeDeclaredLayoutLogged sourceFile).result = rom.probeDeclaredLayout := by
  simp only [probeDeclaredLayoutLogged, probeDeclaredLayout, LOG_SRC, bind_result, emit_result,
    lift_result, pure_eq, probeHeaderLogged_result _ _ (emit_result _)]
  rfl

theorem probeKnownOffsetsLogged_result (rom : SNESROM) :
    (rom.probeKnownOffsetsLogged sourceFile).result = rom.probeKnownOffsets := by
  rw [probeKnownOffsetsLogged, bind_result, lift_result, probeKnownOffsets]
  congr 1
  funext found
  cases found with
  | false => exact probeHeaderLogged_result _ _ (emit_result _)
  | true => rfl

theorem findHeaderLogged_result (rom : SNESROM) :
    (rom.findHeaderLogged sourceFile).result = rom.findHeader := by
  have hknown (rom : SNESROM) :
      (if rom.m_SNESROMHeader.isValid then pure rom
        else rom.probeKnownOffsetsLogged sourceFile).result =
      if rom.m_SNESROMHeader.isValid then .ok rom else rom.probeKnownOffsets := by
    split
    · rfl
    · exact probeKnownOffsetsLogged_result rom
  rw [findHeaderLogged, bind_result, findHeader]
  simp only [hknown]
  by_cases hsmc : rom.m_actualImageData.length % 1024 ≠ 0
  · rw [if_pos hsmc, if_pos hsmc, probeDeclaredLayoutLogged_result]
  · rw [if_neg hsmc, if_neg hsmc, pure_eq]

theorem loadLogged_result (sourceFile : String) (file : Bytes) :
    (loadLogged sourceFile file).result = load file := by
  simp only [loadLogged, load, bind_result, lift_result, findHeaderLogged_result]

theorem probeHeaderLogged_calls {rom rom' : SNESROM} (hrom : Aligned rom) {headerAddress : Nat}
    (hend : (headerAddress + 64) % 1024 = 0) {missing : LoggedRun Fault LoggerCall Unit}
    (hmissing : missing.result = .ok ()) (hprobe : rom.probeHeader headerAddress = .ok rom') :
    (rom.probeHeaderLogged headerAddress missing).calls =
        (if rom.HeaderLike headerAddress then [] else missing.calls) ∧
      rom' = if rom.HeaderLike headerAddress then rom.withHeader headerAddress else rom := by
  rw [probeHeader_eq hrom headerAddress hend] at hprobe
  by_cases hfits : headerAddress + 64 ≤ rom.headerlessSize
  · rw [if_pos hfits] at hprobe
    refine ⟨?_, (Except.ok.inj hprobe).symm⟩
    have hfound := mayBeThere_eq hrom headerAddress hend
    rw [if_pos hfits] at hfound
    rw [probeHeaderLogged, hfound, lift_ok_bind]
    by_cases hlike : rom.HeaderLike headerAddress
    · simp [hlike]
    · simp [hlike, bind_calls_of_ok hmissing]
  · rw [if_neg hfits] at hprobe
    cases hprobe

theorem probeKnownOffsetsLogged_calls {rom rom' : SNESROM} (hrom : Aligned rom)
    (hnone : rom.m_SNESROMHeader.isValid = false) (hprobe : rom.probeKnownOffsets = .ok rom') :
    (rom.probeKnownOffsetsLogged sourceFile).calls =
      if rom'.header.isValid then []
      else [.log .ERROR "There is no SNES header" (sourceFile ++ ":" ++ toString 95)] := by
  have hfound := mayBeThere_eq hrom 0x7FC0 (by decide)
  rw [probeKnownOffsets_eq hrom] at hprobe
  by_cases hfits : 0x8000 ≤ rom.headerlessSize
  · rw [if_pos hfits] at hprobe hfound
    rw [probeKnownOffsetsLogged, hfound, lift_ok_bind]
    by_cases hlow : rom.HeaderLike 0x7FC0
    · rw [if_pos hlow] at hprobe
      obtain rfl := Except.ok.inj hprobe
      simp [hlow, withHeader, header, SNESROMHeader.isValid]
    · rw [if_neg hlow] at hprobe
      obtain ⟨hcalls, rfl⟩ := probeHeaderLogged_calls hrom (by decide)
        (emit_result (.log .ERROR "There is no SNES header" (sourceFile ++ ":" ++ toString 95)))
        hprobe
      simp only [decide_eq_false hlow, Bool.false_eq_true, if_false, LOG_SRC, hcalls]
      by_cases hhigh : rom.HeaderLike 0xFFC0
      · simp [hhigh, withHeader, header, SNESROMHeader.isValid]
      · simp [hhigh, header, hnone]
  · rw [if_neg hfits] at hprobe
    cases hprobe

theorem probeDeclaredLayoutLogged_eq {file : Bytes} (hlength : 2 < file.length) :
    (opened file).probeDeclaredLayoutLogged sourceFile = (do
      LOG_SRC sourceFile 63 .STATE "ROM has a SMC-Header"
      let rom ← (withSMCHeader file).probeHeaderLogged (declaredAddress file)
        (LOG_SRC sourceFile 79 .WARNING "SMC-Header lies about ROM layout")
      let _ ← lift rom.checkRomLayout
      return rom) := by
  have hbyte : Pointer.deref ⟨file, 0⟩ 2 = .ok (file.getD 2 0) :=
    Pointer.deref_of_lt ⟨file, 0⟩ 2 (by simpa using hlength)
  by_cases hlo : file.getD 2 0 = 0x00
  · simp only [probeDeclaredLayoutLogged, SMCHeader.load, SMCHeader.layout, nonNull, opened, hbyte,
      declaredAddress, hlo, if_true, Bind.bind, Except.bind, pure, Except.pure]
    rfl
  · simp only [probeDeclaredLayoutLogged, SMCHeader.load, SMCHeader.layout, nonNull, opened, hbyte,
      declaredAddress, hlo, if_false, Bind.bind, Except.bind, pure, Except.pure]
    rfl

theorem probeDeclaredLayoutLogged_calls (sourceFile : String) {file : Bytes} {rom : SNESROM}
    (hlength : 2 < file.length) (hprobe : (opened file).probeDeclaredLayout = .ok rom) :
    ((opened file).probeDeclaredLayoutLogged sourceFile).calls =
        .log .STATE "ROM has a SMC-Header" (sourceFile ++ ":" ++ toString 63) ::
          (if (opened file).HeaderLike (declaredAddress file) then []
          else [.log .WARNING "SMC-Header lies about ROM layout"
            (sourceFile ++ ":" ++ toString 79)]) ∧
      rom = if (opened file).HeaderLike (declaredAddress file)
        then (withSMCHeader file).withHeader (declaredAddress file) else withSMCHeader file := by
  have hend : (declaredAddress file + 64) % 1024 = 0 := by
    unfold declaredAddress
    split <;> rfl
  have hwarning : (LOG_SRC sourceFile 79 .WARNING "SMC-Header lies about ROM layout").result =
      .ok () := emit_result _
  rw [probeDeclaredLayout_eq hlength] at hprobe
  obtain ⟨rom₂, hfirst, hrest⟩ := bind_ok_iff.mp hprobe
  obtain ⟨layout, hcheck, hsame⟩ := bind_ok_iff.mp hrest
  obtain rfl := Except.ok.inj hsame
  obtain ⟨hcalls, hrom⟩ := probeHeaderLogged_calls aligned_withSMCHeader hend hwarning hfirst
  have hresult := probeHeaderLogged_result (withSMCHeader file) (declaredAddress file) hwarning
  rw [hfirst] at hresult
  refine ⟨?_, hrom⟩
  rw [probeDeclaredLayoutLogged_eq hlength, LOG_SRC, emit_bind]
  simp only [bind_calls_of_ok hresult, hcheck, lift_ok_bind, pure_eq, List.append_nil, hcalls]
  rfl

/-- What the constructor reports of a file that it loads. -/
def loadMessages (sourceFile : String) (file : Bytes) (rom : SNESROM) : List LoggerCall :=
  (if file.length % 1024 ≠ 0 then
      .log .STATE "ROM has a SMC-Header" (sourceFile ++ ":" ++ toString 63) ::
        if (opened file).HeaderLike (declaredAddress file) then []
        else [.log .WARNING "SMC-Header lies about ROM layout" (sourceFile ++ ":" ++ toString 79)]
    else []) ++
    if rom.header.isValid then []
    else [.log .ERROR "There is no SNES header" (sourceFile ++ ":" ++ toString 95)]

theorem loadLogged_calls {file : Bytes} {rom : SNESROM} (hload : load file = .ok rom) :
    (loadLogged sourceFile file).calls = loadMessages sourceFile file rom := by
  obtain ⟨hlength, hpos⟩ := load_accepted hload
  have hpositive : file.length > 0 := hpos
  have hlogged : loadLogged sourceFile file = (opened file).findHeaderLogged sourceFile := by
    rw [loadLogged, assert_true hlength, assert_true hpositive, lift_ok_bind, lift_ok_bind]
    rfl
  rw [load_eq hlength hpos] at hload
  rw [hlogged, findHeaderLogged, loadMessages]
  by_cases hsmc : file.length % 1024 = 0
  · rw [findHeader_plain hsmc] at hload
    have hskip : ¬(opened file).m_actualImageData.length % 1024 ≠ 0 := not_not.mpr hsmc
    rw [if_neg hskip, if_neg (not_not.mpr hsmc), List.nil_append]
    exact probeKnownOffsetsLogged_calls aligned_opened rfl hload
  · have hbranch : (opened file).m_actualImageData.length % 1024 ≠ 0 := hsmc
    have htwo : 2 < file.length := by omega
    rw [findHeader_smc hsmc] at hload
    obtain ⟨rom₁, hdeclared, hknown⟩ := bind_ok_iff.mp hload
    obtain ⟨hcalls, hrom₁⟩ := probeDeclaredLayoutLogged_calls sourceFile htwo hdeclared
    have hresult : ((opened file).probeDeclaredLayoutLogged sourceFile).result = .ok rom₁ := by
      rw [probeDeclaredLayoutLogged_result, hdeclared]
    rw [if_pos hbranch, if_pos hsmc, bind_calls_of_ok hresult, hcalls]
    congr 1
    by_cases hvalid : rom₁.m_SNESROMHeader.isValid = true
    · rw [if_pos hvalid] at hknown ⊢
      obtain rfl := Except.ok.inj hknown
      rw [header, if_pos hvalid]
      rfl
    · rw [if_neg hvalid] at hknown ⊢
      have haligned : Aligned rom₁ := by
        rw [hrom₁]
        split
        · exact aligned_withHeader aligned_withSMCHeader _
        · exact aligned_withSMCHeader
      exact probeKnownOffsetsLogged_calls haligned (by simpa using hvalid) hknown

/-- The constructor loads what it loads without messages, and reports a missing header by an error,
and an SMC header that does not lead to one by a warning, whether or not another probe has found
one. -/
theorem load_log_tells_outcome (sourceFile : String) (file : Bytes) :
    (loadLogged sourceFile file).result = load file ∧
      ∀ rom, load file = .ok rom →
        (loadLogged sourceFile file).calls = loadMessages sourceFile file rom :=
  ⟨loadLogged_result sourceFile file, fun _ => loadLogged_calls⟩

/-- An SMC header that declares HiROM, in front of a LoROM. -/
def lyingFile : Bytes := (List.replicate 512 0).set 2 1 ++ candidates 0x20 0

private theorem lying_header : ((List.replicate 512 (0 : UInt8)).set 2 1).length = 512 := by
  rw [List.length_set, List.length_replicate]

private theorem lying_image : (candidates 0x20 0).length % 1024 = 0 := by
  rw [candidates_length]

theorem load_lyingFile : load lyingFile = .ok (loaded lyingFile) := by
  apply load_eq_loaded
  · rw [lyingFile, List.length_append, lying_header, candidates_length]
  · rw [lyingFile, prefixed_headerlessSize lying_header lying_image, headerlessSize_opened,
      candidates_length]

theorem loadMessages_lyingFile :
    loadMessages "SNESROM.cpp" lyingFile (loaded lyingFile) =
      [.log .STATE "ROM has a SMC-Header" "SNESROM.cpp:63",
        .log .WARNING "SMC-Header lies about ROM layout" "SNESROM.cpp:79"] := by
  have hsmc : lyingFile.length % 1024 ≠ 0 := by
    rw [lyingFile, prefixed_length_mod lying_header lying_image]
    decide
  have hlow : (opened lyingFile).HeaderLike 0x7FC0 := by
    rw [lyingFile, prefixed_headerLike_iff lying_header lying_image, candidates_low_iff]
    decide
  have hhigh : ¬(opened lyingFile).HeaderLike 0xFFC0 := by
    rw [lyingFile, prefixed_headerLike_iff lying_header lying_image, candidates_high_iff]
    decide
  have hdeclared : declaredAddress lyingFile = 0xFFC0 := rfl
  have hselected : selectedHeader lyingFile = some 0x7FC0 := by
    rw [selectedHeader, if_neg fun h => hhigh h.1, if_pos hlow]
  have hvalid : (loaded lyingFile).header.isValid = true :=
    (loaded_isValid_iff _).mpr ⟨_, hselected⟩
  rw [loadMessages, if_pos hsmc, hdeclared, if_neg hhigh, if_pos hvalid]
  rfl

theorem load_log_tells_outcome_lying :
    (loadLogged "SNESROM.cpp" lyingFile).result = .ok (loaded lyingFile) ∧
      (loadLogged "SNESROM.cpp" lyingFile).calls =
        [.log .STATE "ROM has a SMC-Header" "SNESROM.cpp:63",
          .log .WARNING "SMC-Header lies about ROM layout" "SNESROM.cpp:79"] := by
  obtain ⟨hresult, hcalls⟩ := load_log_tells_outcome "SNESROM.cpp" lyingFile
  rw [hresult, hcalls _ load_lyingFile, loadMessages_lyingFile]
  exact ⟨load_lyingFile, rfl⟩

end SNESROM

end SnesDisasm
