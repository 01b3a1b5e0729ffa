import Mathlib.Data.List.GetD

/-!
# Faults and bytes

A failed `assert` and the undefined behaviour listed in `Fault` end a modelled run. The `delete`s of
address objects through `ROMAddress`, which has no virtual destructor, are left out: one at the end
of `main` and one in the constructor of `SNESROM`.
-/

namespace SnesDisasm

/-- The ways in which a modelled run stops. -/
inductive Fault where
  | assertion
  | outOfBounds (index : Nat)
  | nullPointer
  | missingReturn
  deriving DecidableEq, Repr

abbrev Bytes := List UInt8

abbrev BytePtr := Nat → Except Fault UInt8

def assert (condition : Prop) [Decidable condition] : Except Fault Unit :=
  if condition then .ok () else .error .assertion

theorem assert_true {condition : Prop} [Decidable condition] (h : condition) :
    assert condition = .ok () := if_pos h

/-- A pointer into a loaded file; `offset` counts from the beginning of the file. -/
structure Pointer where
  memory : Bytes
  offset : Nat
  deriving DecidableEq, Repr

def Pointer.deref (pointer : Pointer) : BytePtr := fun i =>
  match pointer.memory[pointer.offset + i]? with
  | some byte => .ok byte
  | none => .error (.outOfBounds (pointer.offset + i))

def Pointer.advance (pointer : Pointer) (n : Nat) : Pointer :=
  { pointer with offset := pointer.offset + n }

@[simp] theorem Pointer.advance_memory (pointer : Pointer) (n : Nat) :
    (pointer.advance n).memory = pointer.memory := rfl

@[simp] theorem Pointer.advance_offset (pointer : Pointer) (n : Nat) :
    (pointer.advance n).offset = pointer.offset + n := rfl

def nonNull : Option Pointer → Except Fault Pointer
  | some pointer => .ok pointer
  | none => .error .nullPointer

theorem Pointer.deref_ok_iff (pointer : Pointer) (i : Nat) (byte : UInt8) :
    pointer.deref i = .ok byte ↔ pointer.memory[pointer.offset + i]? = some byte := by
  unfold Pointer.deref
  cases pointer.memory[pointer.offset + i]? <;> simp

theorem Pointer.deref_isOk_iff (pointer : Pointer) (i : Nat) :
    (∃ byte, pointer.deref i = .ok byte) ↔ pointer.offset + i < pointer.memory.length := by
  simp only [Pointer.deref_ok_iff]
  constructor
  · intro h
    rcases h with ⟨byte, h⟩
    exact (List.getElem?_eq_some_iff.mp h).1
  · intro h
    exact ⟨pointer.memory[pointer.offset + i], List.getElem?_eq_getElem h⟩

theorem Pointer.deref_of_lt (pointer : Pointer) (i : Nat)
    (h : pointer.offset + i < pointer.memory.length) :
    pointer.deref i = .ok (pointer.memory.getD (pointer.offset + i) 0) := by
  rw [Pointer.deref_ok_iff, List.getD_eq_getElem _ _ h, List.getElem?_eq_getElem h]

theorem Pointer.deref_of_le (pointer : Pointer) (i : Nat)
    (h : pointer.memory.length ≤ pointer.offset + i) :
    pointer.deref i = .error (.outOfBounds (pointer.offset + i)) := by
  simp only [Pointer.deref, List.getElem?_eq_none h]

end SnesDisasm
