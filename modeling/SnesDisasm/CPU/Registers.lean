import SnesDisasm.Framework.CallRuns
import SnesDisasm.Model.CPUState

/-!
# Register widths over runs

A register is two bytes with histories of their own, and only 16-bit writes reach the high one.
-/

namespace SnesDisasm
open CallRuns FixedWidth

namespace CPUState

inductive Register where
  | m_Accumulator
  | m_IndexX
  | m_IndexY
  deriving DecidableEq, Repr

namespace Register

def field : Register → CPUState → UInt16
  | .m_Accumulator, state => state.m_Accumulator
  | .m_IndexX, state => state.m_IndexX
  | .m_IndexY, state => state.m_IndexY

def get : Register → CPUState → UInt16
  | .m_Accumulator, state => state.getAccumulator
  | .m_IndexX, state => state.getIndexX
  | .m_IndexY, state => state.getIndexY

def widthFlag : Register → UInt8
  | .m_Accumulator => MEMORY_SELECT
  | .m_IndexX => INDEX_SELECT
  | .m_IndexY => INDEX_SELECT

def shownFlag : Register → UInt8
  | .m_Accumulator => MEMORY_SELECT
  | .m_IndexX => INDEX_SELECT
  | .m_IndexY => MEMORY_SELECT

def written : Register → StateCall → Option (UInt16 × Bool)
  | .m_Accumulator, .setAccumulator newValue ignoreRegisterSize => some (newValue, ignoreRegisterSize)
  | .m_IndexX, .setIndexX newValue ignoreRegisterSize => some (newValue, ignoreRegisterSize)
  | .m_IndexY, .setIndexY newValue ignoreRegisterSize => some (newValue, ignoreRegisterSize)
  | _, _ => none

def lowWritten (register : Register) (call : StateCall) : Option Nat :=
  (register.written call).map fun (newValue, _) => newValue.toNat % 0x100

/-- A write reaches the high byte if it ignores the register size or finds it at 16 bits. -/
def highWritten (register : Register) : CPUState × StateCall → Option Nat
  | (state, call) => (register.written call).bind fun (newValue, ignoreRegisterSize) =>
      if ignoreRegisterSize = true ∨ state.areFlagsSet register.widthFlag = false then
        some (newValue.toNat / 0x100)
      else none

def lastLow (register : Register) (calls : List StateCall) : Nat :=
  (lastWritten register.lowWritten calls).getD 0

def lastHigh (register : Register) (calls : List StateCall) : Nat :=
  (lastWritten register.highWritten (history applyCall {} calls)).getD 0

/-- After the calls the getter shows the low byte alone if the flag is set, else both bytes. -/
def ShowsBytes (register : Register) (flag : UInt8) (calls : List StateCall) : Prop :=
  (register.get (afterCalls calls)).toNat =
    if (afterCalls calls).areFlagsSet flag = true then register.lastLow calls
    else register.lastHigh calls * 0x100 + register.lastLow calls

theorem field_applyCall (register : Register) (state : CPUState) (call : StateCall) :
    register.field (state.applyCall call) =
      match register.written call with
      | some (newValue, ignoreRegisterSize) =>
          storedValue (register.field state) newValue ignoreRegisterSize
            (state.areFlagsSet register.widthFlag)
      | none => register.field state := by
  cases call with
  | flags call => cases register <;> cases call <;> rfl
  | setAccumulator newValue ignoreRegisterSize => cases register <;> rfl
  | setIndexX newValue ignoreRegisterSize => cases register <;> rfl
  | setIndexY newValue ignoreRegisterSize => cases register <;> rfl

end Register

theorem partial_write_toNat (old newValue : UInt16) :
    ((old &&& 0xFF00) + (newValue &&& 0x00FF)).toNat =
      old.toNat / 0x100 * 0x100 + newValue.toNat % 0x100 := by
  have hold := old.toNat_lt
  have hhigh := and_shifted_mask old.toNat 0xFF00 8 8 (by decide) (by decide)
  have hlow := toNat_halfword_and_mask newValue 0x00FF 8 (by decide)
  have hmask : (0xFF00 : UInt16).toNat = 0xFF00 := rfl
  rw [UInt16.toNat_add, UInt16.toNat_and, hmask, hhigh, hlow]
  omega

theorem storedValue_low (old newValue : UInt16) (ignoreRegisterSize eightBit : Bool) :
    (storedValue old newValue ignoreRegisterSize eightBit).toNat % 0x100 =
      newValue.toNat % 0x100 := by
  cases ignoreRegisterSize with
  | true => rfl
  | false =>
    cases eightBit with
    | false => rfl
    | true =>
      change ((old &&& 0xFF00) + (newValue &&& 0x00FF)).toNat % 0x100 = _
      rw [partial_write_toNat]
      omega

theorem storedValue_high (old newValue : UInt16) (ignoreRegisterSize eightBit : Bool) :
    (storedValue old newValue ignoreRegisterSize eightBit).toNat / 0x100 =
      if ignoreRegisterSize = true ∨ eightBit = false then newValue.toNat / 0x100
      else old.toNat / 0x100 := by
  cases ignoreRegisterSize with
  | true => rfl
  | false =>
    cases eightBit with
    | false => rfl
    | true =>
      change ((old &&& 0xFF00) + (newValue &&& 0x00FF)).toNat / 0x100 = old.toNat / 0x100
      rw [partial_write_toNat]
      omega

namespace Register

variable (register : Register) (calls : List StateCall)

theorem field_low :
    (register.field (afterCalls calls)).toNat % 0x100 = register.lastLow calls := by
  have hcell (state : CPUState) (call : StateCall) :
      (register.field (state.applyCall call)).toNat % 0x100 =
        (register.lowWritten call).getD ((register.field state).toNat % 0x100) := by
    rw [field_applyCall, lowWritten]
    cases register.written call with
    | none => rfl
    | some write => exact storedValue_low _ _ _ _
  have hlast := cell_eq_lastWritten_of_call applyCall
    (fun state => (register.field state).toNat % 0x100) hcell {} calls
  have hfresh : (register.field {}).toNat % 0x100 = 0 := by
    cases register <;> rfl
  rw [hfresh] at hlast
  exact hlast

theorem field_high :
    (register.field (afterCalls calls)).toNat / 0x100 = register.lastHigh calls := by
  have hcell (state : CPUState) (call : StateCall) :
      (register.field (state.applyCall call)).toNat / 0x100 =
        (register.highWritten (state, call)).getD ((register.field state).toNat / 0x100) := by
    rw [field_applyCall, highWritten]
    cases register.written call with
    | none => rfl
    | some write =>
      obtain ⟨newValue, ignoreRegisterSize⟩ := write
      refine (storedValue_high _ newValue ignoreRegisterSize _).trans ?_
      rw [Option.bind_some]
      by_cases hwide : ignoreRegisterSize = true ∨ state.areFlagsSet register.widthFlag = false
      · rw [if_pos hwide]
        dsimp only
        rw [if_pos hwide]
        rfl
      · rw [if_neg hwide]
        dsimp only
        rw [if_neg hwide]
        rfl
  have hlast := cell_eq_lastWritten applyCall
    (fun state => (register.field state).toNat / 0x100) hcell {} calls
  have hfresh : (register.field {}).toNat / 0x100 = 0 := by
    cases register <;> rfl
  rw [hfresh] at hlast
  exact hlast

theorem get_eq (state : CPUState) :
    register.get state =
      if state.areFlagsSet register.shownFlag = true then register.field state &&& 0x00FF
      else register.field state := by
  cases register <;> rfl

theorem masked_field_toNat (eightBit : Bool) :
    (if eightBit = true then register.field (afterCalls calls) &&& 0x00FF
      else register.field (afterCalls calls)).toNat =
      if eightBit = true then register.lastLow calls
      else register.lastHigh calls * 0x100 + register.lastLow calls := by
  have hlow := register.field_low calls
  have hhigh := register.field_high calls
  cases eightBit with
  | false =>
    change (register.field (afterCalls calls)).toNat = _ * 0x100 + _
    omega
  | true =>
    have hmask := toNat_halfword_and_mask (register.field (afterCalls calls)) 0x00FF 8 (by decide)
    exact hmask.trans hlow

theorem showsBytes_shownFlag : register.ShowsBytes register.shownFlag calls := by
  rw [ShowsBytes, get_eq]
  exact register.masked_field_toNat calls _

theorem lastLow_lt : register.lastLow calls < 0x100 := by
  rw [← field_low]
  exact Nat.mod_lt _ (by decide)

variable {register calls}

theorem ShowsBytes.iff_of_flag {flag flag' : UInt8} (h : register.ShowsBytes flag calls) :
    register.ShowsBytes flag' calls ↔
      (afterCalls calls).areFlagsSet flag = (afterCalls calls).areFlagsSet flag' ∨
        register.lastHigh calls = 0 := by
  have hbyte := register.lastLow_lt calls
  rw [ShowsBytes] at h ⊢
  rw [h]
  cases (afterCalls calls).areFlagsSet flag with
  | false =>
    cases (afterCalls calls).areFlagsSet flag' with
    | false => simp
    | true => simp
  | true =>
    cases (afterCalls calls).areFlagsSet flag' with
    | false => simp
    | true => simp

theorem written_disjoint {register' : Register} (hne : register ≠ register') {call : StateCall}
    {write : UInt16 × Bool} (h : register'.written call = some write) :
    register.written call = none := by
  cases call <;> cases register <;> cases register' <;>
    first | rfl | exact absurd rfl hne | cases h

end Register

theorem flags_applyCall {state state' : CPUState}
    (h : state.m_FlagRegister = state'.m_FlagRegister) (call : StateCall) :
    (state.applyCall call).m_FlagRegister = (state'.applyCall call).m_FlagRegister := by
  cases call with
  | flags call =>
    cases call with
    | setFlagRegister mask => exact congrArg (fun flags => flags ||| mask) h
    | resetFlagRegister mask =>
      exact congrArg (fun flags => flags &&& if mask = 0 then 1 else 0) h
  | setAccumulator newValue ignoreRegisterSize => exact h
  | setIndexX newValue ignoreRegisterSize => exact h
  | setIndexY newValue ignoreRegisterSize => exact h

theorem flags_of_written {register : Register} {call : StateCall} {write : UInt16 × Bool}
    (h : register.written call = some write) (state : CPUState) :
    (state.applyCall call).m_FlagRegister = state.m_FlagRegister := by
  cases call with
  | flags call => cases register <;> cases h
  | setAccumulator newValue ignoreRegisterSize => rfl
  | setIndexX newValue ignoreRegisterSize => rfl
  | setIndexY newValue ignoreRegisterSize => rfl

theorem areFlagsSet_congr {state state' : CPUState}
    (h : state.m_FlagRegister = state'.m_FlagRegister) (mask : UInt8) :
    state.areFlagsSet mask = state'.areFlagsSet mask := by
  rw [areFlagsSet, areFlagsSet, h]

structure SameFor (register : Register) (state state' : CPUState) : Prop where
  flags : state.m_FlagRegister = state'.m_FlagRegister
  field : register.field state = register.field state'

theorem SameFor.get {register : Register} {state state' : CPUState}
    (h : SameFor register state state') : register.get state = register.get state' := by
  rw [register.get_eq, register.get_eq, areFlagsSet_congr h.flags, h.field]

theorem SameFor.step {register : Register} {state state' : CPUState}
    (h : SameFor register state state') (call : StateCall) :
    SameFor register (state.applyCall call) (state'.applyCall call) where
  flags := flags_applyCall h.flags call
  field := by
    rw [register.field_applyCall, register.field_applyCall, areFlagsSet_congr h.flags, h.field]

theorem get_without {register other : Register} (hne : register ≠ other)
    (calls : List StateCall) :
    register.get (afterCalls calls) =
      register.get (afterCalls (calls.filter fun call => (other.written call).isNone)) := by
  have hsame : SameFor register {} {} := ⟨rfl, rfl⟩
  refine SameFor.get (related_filter ?_ ?_ hsame calls)
  · intro state state' call _ h
    exact h.step call
  · intro state state' call hunseen h
    obtain ⟨write, hwrite⟩ : ∃ write, other.written call = some write := by
      cases hwritten : other.written call with
      | none => simp [hwritten] at hunseen
      | some write => exact ⟨write, rfl⟩
    refine ⟨(flags_of_written hwrite state).trans h.flags, ?_⟩
    rw [register.field_applyCall, Register.written_disjoint hne hwrite]
    exact h.field

/-- After any sequence of calls the accumulator and X keep the high byte of their last 16-bit write
under the low byte of their last write, whatever is written to other registers. -/
theorem registers_keep_high_byte (calls : List StateCall) :
    Register.m_Accumulator.ShowsBytes MEMORY_SELECT calls ∧
      Register.m_IndexX.ShowsBytes INDEX_SELECT calls ∧
      ∀ register other : Register, register ≠ other →
        register.get (afterCalls calls) =
          register.get (afterCalls (calls.filter fun call => (other.written call).isNone)) := by
  refine ⟨?_, ?_, ?_⟩
  · exact Register.m_Accumulator.showsBytes_shownFlag calls
  · exact Register.m_IndexX.showsBytes_shownFlag calls
  · intro register other hne
    exact get_without hne calls

/-- `setIndexX` for `setIndexY` and vice versa. -/
def StateCall.exchange : StateCall → StateCall
  | .setIndexX newValue ignoreRegisterSize => .setIndexY newValue ignoreRegisterSize
  | .setIndexY newValue ignoreRegisterSize => .setIndexX newValue ignoreRegisterSize
  | call => call

/-- Y shows what X shows after the exchanged calls, both by `INDEX_SELECT`. -/
def IndexesSymmetric (calls : List StateCall) : Prop :=
  (afterCalls calls).getIndexY = (afterCalls (calls.map StateCall.exchange)).getIndexX ∧
    Register.m_IndexX.ShowsBytes INDEX_SELECT calls ∧
    Register.m_IndexY.ShowsBytes INDEX_SELECT calls

/-- The two width flags agree at the end, or the last 16-bit write to Y has a zero high byte. -/
def WidthOfYShows (calls : List StateCall) : Prop :=
  (afterCalls calls).areFlagsSet MEMORY_SELECT = (afterCalls calls).areFlagsSet INDEX_SELECT ∨
    Register.m_IndexY.lastHigh calls = 0

structure IndexesExchanged (state state' : CPUState) : Prop where
  flags : state.m_FlagRegister = state'.m_FlagRegister
  indexX : state.m_IndexX = state'.m_IndexY
  indexY : state.m_IndexY = state'.m_IndexX

theorem IndexesExchanged.step {state state' : CPUState} (h : IndexesExchanged state state')
    (call : StateCall) :
    IndexesExchanged (state.applyCall call) (state'.applyCall call.exchange) := by
  have hwidth := areFlagsSet_congr h.flags INDEX_SELECT
  cases call with
  | flags call =>
    have hflags := flags_applyCall h.flags (.flags call)
    cases call with
    | setFlagRegister mask => exact ⟨hflags, h.indexX, h.indexY⟩
    | resetFlagRegister mask => exact ⟨hflags, h.indexX, h.indexY⟩
  | setAccumulator newValue ignoreRegisterSize => exact ⟨h.flags, h.indexX, h.indexY⟩
  | setIndexX newValue ignoreRegisterSize =>
    refine ⟨h.flags, ?_, h.indexY⟩
    change storedValue _ _ _ _ = storedValue _ _ _ _
    rw [h.indexX, hwidth]
  | setIndexY newValue ignoreRegisterSize =>
    refine ⟨h.flags, h.indexX, ?_⟩
    change storedValue _ _ _ _ = storedValue _ _ _ _
    rw [h.indexY, hwidth]

theorem afterCalls_exchange (calls : List StateCall) :
    IndexesExchanged (afterCalls calls) (afterCalls (calls.map StateCall.exchange)) := by
  have hfresh : IndexesExchanged {} {} := ⟨rfl, rfl, rfl⟩
  refine related_map ?_ hfresh calls
  intro state state' call h
  exact h.step call

theorem getIndexX_exchange_toNat (calls : List StateCall) :
    (afterCalls (calls.map StateCall.exchange)).getIndexX.toNat =
      if (afterCalls calls).areFlagsSet INDEX_SELECT = true then
        Register.m_IndexY.lastLow calls
      else Register.m_IndexY.lastHigh calls * 0x100 + Register.m_IndexY.lastLow calls := by
  have hexchanged := afterCalls_exchange calls
  rw [getIndexX, ← areFlagsSet_congr hexchanged.flags, ← hexchanged.indexY]
  exact Register.m_IndexY.masked_field_toNat calls _

/-- X and Y behave symmetrically exactly when the flag of the accumulator, which `getIndexY` tests,
equals `INDEX_SELECT`, or there is nothing in the high byte of Y. -/
theorem indexes_symmetric_iff (calls : List StateCall) :
    IndexesSymmetric calls ↔ WidthOfYShows calls := by
  have hshownX : Register.m_IndexX.ShowsBytes INDEX_SELECT calls :=
    Register.m_IndexX.showsBytes_shownFlag calls
  have hshownY : Register.m_IndexY.ShowsBytes MEMORY_SELECT calls :=
    Register.m_IndexY.showsBytes_shownFlag calls
  have hsymmetric : (afterCalls calls).getIndexY =
      (afterCalls (calls.map StateCall.exchange)).getIndexX ↔
        Register.m_IndexY.ShowsBytes INDEX_SELECT calls := by
    rw [← UInt16.toNat_inj, getIndexX_exchange_toNat]
    rfl
  rw [IndexesSymmetric, hsymmetric, hshownY.iff_of_flag, WidthOfYShows]
  constructor
  · intro h
    exact h.1
  · intro h
    exact ⟨h, hshownX, h⟩

theorem indexes_not_symmetric :
    ¬IndexesSymmetric [.setIndexY 0x1234 false, .flags (.setFlagRegister INDEX_SELECT)] := by
  intro h
  have hequal := h.1
  exact absurd hequal (by decide)

end CPUState

end SnesDisasm
