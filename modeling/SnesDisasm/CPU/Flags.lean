import Mathlib.Data.List.Induction
import SnesDisasm.Framework.CallRuns
import SnesDisasm.Model.CPUState

/-!
# Processor flags over runs

`resetFlagRegister` masks with the logical negation of its argument, so it clears other flags too.
-/

namespace SnesDisasm
open CallRuns

namespace CPUState

def flag (state : CPUState) (bit : Nat) : Bool := state.m_FlagRegister.toNat.testBit bit

namespace FlagCall

def mask : FlagCall → UInt8
  | .setFlagRegister flagRegisterNamesBitmask => flagRegisterNamesBitmask
  | .resetFlagRegister flagRegisterNamesBitmask => flagRegisterNamesBitmask

def names (call : FlagCall) (bit : Nat) : Bool := call.mask.toNat.testBit bit

end FlagCall

def lastNaming (calls : List FlagCall) (bit : Nat) : Option FlagCall :=
  (calls.filter fun call => call.names bit).getLast?

/-- Some call names the bit, and the last one to do so sets it. -/
def LastSet (calls : List FlagCall) (bit : Nat) : Prop :=
  ∃ mask, lastNaming calls bit = some (.setFlagRegister mask)

def KeepsOtherFlags (before : List FlagCall) (call : FlagCall) : Prop :=
  ∀ bit, call.names bit = false →
    (afterFlagCalls (before ++ [call])).flag bit = (afterFlagCalls before).flag bit

/-- A mask is set exactly if the last call for each of its flags was a set, and no call changes
other flags. -/
def FlagsIndependent (calls : List FlagCall) : Prop :=
  (∀ q : UInt8, (afterFlagCalls calls).areFlagsSet q = true ↔
    ∀ bit, q.toNat.testBit bit = true → LastSet calls bit) ∧ EveryCall KeepsOtherFlags calls

/-- A reset names every flag that is set before it, or has the zero mask and finds at most the carry
set. -/
def ResetsEveryFlag (before : List FlagCall) : FlagCall → Prop
  | .setFlagRegister _ => True
  | .resetFlagRegister mask =>
      ∀ bit, LastSet before bit → mask.toNat.testBit bit = true ∨ (mask = 0 ∧ bit = 0)

theorem areFlagsSet_iff (state : CPUState) (mask : UInt8) :
    state.areFlagsSet mask = true ↔ ∀ bit, mask.toNat.testBit bit = true → state.flag bit = true := by
  rw [areFlagsSet, beq_iff_eq, ← UInt8.toNat_inj, UInt8.toNat_and]
  constructor
  · intro h bit hbit
    rw [← h, Nat.testBit_and, Bool.and_eq_true] at hbit
    exact hbit.1
  · intro h
    apply Nat.eq_of_testBit_eq
    intro bit
    rw [Nat.testBit_and]
    cases hbit : mask.toNat.testBit bit with
    | false => rw [Bool.and_false]
    | true =>
      rw [Bool.and_true]
      exact h bit hbit

theorem flag_setFlagRegister (state : CPUState) (mask : UInt8) (bit : Nat) :
    (state.setFlagRegister mask).flag bit = (state.flag bit || mask.toNat.testBit bit) := by
  rw [flag, setFlagRegister, UInt8.toNat_or, Nat.testBit_or]
  rfl

theorem flag_resetFlagRegister (state : CPUState) (mask : UInt8) (bit : Nat) :
    (state.resetFlagRegister mask).flag bit = (state.flag bit && decide (mask = 0 ∧ bit = 0)) := by
  rw [flag, resetFlagRegister, UInt8.toNat_and, Nat.testBit_and]
  by_cases hmask : mask = 0
  · have hcarry : (1 : Nat).testBit bit = decide (bit = 0) := by
      rw [Bool.eq_iff_iff, Nat.testBit_one_eq_true_iff_self_eq_zero, decide_eq_true_iff]
    rw [if_pos hmask, UInt8.toNat_one, hcarry]
    simp only [hmask, true_and]
    rfl
  · simp [hmask]

section Calls

variable {calls : List FlagCall} {bit : Nat}

theorem lastNaming_concat (call : FlagCall) :
    lastNaming (calls ++ [call]) bit =
      if call.names bit = true then some call else lastNaming calls bit := by
  have hlast : lastNaming (calls ++ [call]) bit =
      ((calls.filter fun call => call.names bit) ++
        [call].filter fun call => call.names bit).getLast? := by
    rw [lastNaming, List.filter_append]
  rw [hlast, List.filter_singleton]
  cases call.names bit with
  | false => simp [lastNaming]
  | true => simp

theorem lastSet_concat_set (mask : UInt8) :
    LastSet (calls ++ [.setFlagRegister mask]) bit ↔
      LastSet calls bit ∨ mask.toNat.testBit bit = true := by
  rw [LastSet, lastNaming_concat]
  cases hnames : mask.toNat.testBit bit with
  | false => simp [FlagCall.names, FlagCall.mask, hnames, LastSet]
  | true => simp [FlagCall.names, FlagCall.mask, hnames]

theorem lastSet_concat_reset (mask : UInt8) :
    LastSet (calls ++ [.resetFlagRegister mask]) bit ↔
      LastSet calls bit ∧ mask.toNat.testBit bit = false := by
  rw [LastSet, lastNaming_concat]
  cases hnames : mask.toNat.testBit bit with
  | false => simp [FlagCall.names, FlagCall.mask, hnames, LastSet]
  | true => simp [FlagCall.names, FlagCall.mask, hnames]

theorem afterFlagCalls_concat (call : FlagCall) :
    afterFlagCalls (calls ++ [call]) = applyFlagCall (afterFlagCalls calls) call := by
  rw [afterFlagCalls, List.foldl_append]
  rfl

def FlagsFollow (calls : List FlagCall) : Prop :=
  ∀ bit, (afterFlagCalls calls).flag bit = true ↔ LastSet calls bit

theorem FlagsFollow.step {call : FlagCall} (hfollow : FlagsFollow calls)
    (hreset : ResetsEveryFlag calls call) :
    FlagsFollow (calls ++ [call]) ∧ KeepsOtherFlags calls call := by
  cases call with
  | setFlagRegister mask =>
    constructor
    · intro bit
      rw [afterFlagCalls_concat, applyFlagCall, flag_setFlagRegister, Bool.or_eq_true, hfollow bit,
        lastSet_concat_set]
    · intro bit hnames
      have hmask : mask.toNat.testBit bit = false := hnames
      rw [afterFlagCalls_concat, applyFlagCall, flag_setFlagRegister, hmask, Bool.or_false]
  | resetFlagRegister mask =>
    constructor
    · intro bit
      rw [afterFlagCalls_concat, applyFlagCall, flag_resetFlagRegister, Bool.and_eq_true,
        hfollow bit, lastSet_concat_reset, decide_eq_true_iff]
      apply and_congr_right
      intro hset
      constructor
      · intro h
        rw [h.1, UInt8.toNat_zero, Nat.zero_testBit]
      · intro hmask
        rcases hreset bit hset with h | h
        · rw [hmask] at h
          cases h
        · exact h
    · intro bit hnames
      have hmask : mask.toNat.testBit bit = false := hnames
      rw [afterFlagCalls_concat, applyFlagCall, flag_resetFlagRegister]
      cases hflag : (afterFlagCalls calls).flag bit with
      | false => rfl
      | true =>
        rcases hreset bit ((hfollow bit).mp hflag) with h | h
        · rw [hmask] at h
          cases h
        · exact decide_eq_true h

theorem flagsFollow_of_resets (h : EveryCall ResetsEveryFlag calls) :
    FlagsFollow calls ∧ EveryCall KeepsOtherFlags calls := by
  induction calls using List.reverseRecOn with
  | nil =>
    refine ⟨?_, everyCall_nil⟩
    intro bit
    simp [afterFlagCalls, flag, LastSet, lastNaming]
  | append_singleton calls call ih =>
    obtain ⟨hbefore, hcall⟩ := everyCall_concat_iff.mp h
    obtain ⟨hfollow, hkeeps⟩ := ih hbefore
    obtain ⟨hfollow', hcallKeeps⟩ := hfollow.step hcall
    exact ⟨hfollow', everyCall_concat_iff.mpr ⟨hkeeps, hcallKeeps⟩⟩

theorem FlagsFollow.resets {call : FlagCall} (hfollow : FlagsFollow calls)
    (hkeeps : KeepsOtherFlags calls call) : ResetsEveryFlag calls call := by
  cases call with
  | setFlagRegister mask => trivial
  | resetFlagRegister mask =>
    intro bit hset
    cases hmask : mask.toNat.testBit bit with
    | true => exact Or.inl rfl
    | false =>
      have hkept := hkeeps bit hmask
      rw [afterFlagCalls_concat, applyFlagCall, flag_resetFlagRegister, (hfollow bit).mpr hset,
        Bool.true_and, decide_eq_true_iff] at hkept
      exact Or.inr hkept

theorem resets_of_keepsOtherFlags (h : EveryCall KeepsOtherFlags calls) :
    EveryCall ResetsEveryFlag calls := by
  induction calls using List.reverseRecOn with
  | nil => exact everyCall_nil
  | append_singleton calls call ih =>
    obtain ⟨hbefore, hcall⟩ := everyCall_concat_iff.mp h
    have hresets := ih hbefore
    exact everyCall_concat_iff.mpr ⟨hresets, (flagsFollow_of_resets hresets).1.resets hcall⟩

end Calls

/-- After any sequence of calls the flags are independent bits exactly when each reset names every
flag that is set before it, or has the zero mask and finds at most the carry set. -/
theorem flags_independent_iff (calls : List FlagCall) :
    FlagsIndependent calls ↔ EveryCall ResetsEveryFlag calls := by
  constructor
  · intro h
    exact resets_of_keepsOtherFlags h.2
  · intro h
    obtain ⟨hfollow, hkeeps⟩ := flagsFollow_of_resets h
    refine ⟨?_, hkeeps⟩
    intro q
    rw [areFlagsSet_iff]
    simp only [hfollow _]

theorem reset_clears_other_flag :
    ¬FlagsIndependent [.setFlagRegister 0x30, .resetFlagRegister 0x10] := by
  intro h
  have hset : (afterFlagCalls [.setFlagRegister 0x30, .resetFlagRegister 0x10]).areFlagsSet
      MEMORY_SELECT = true := by
    rw [h.1]
    intro bit hbit
    have hfive : 5 = bit := by
      rwa [show MEMORY_SELECT.toNat = 2^5 from rfl, Nat.testBit_two_pow, decide_eq_true_iff] at hbit
    subst hfive
    exact ⟨0x30, rfl⟩
  exact absurd hset (by decide)

end CPUState

end SnesDisasm
