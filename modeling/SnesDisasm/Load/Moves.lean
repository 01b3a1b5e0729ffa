import SnesDisasm.Framework.Ownership
import SnesDisasm.Framework.Simulation
import SnesDisasm.Load.Selection
import SnesDisasm.Model.Objects

/-!
# Moving ROM objects

A ROM passes from object to object with its buffer. An object constructed from one that has no ROM
has none either, although nothing has been moved out of it.
-/

namespace SnesDisasm
open FetchLoop Ownership Simulation

/-- What a `SNESROM` is to its users. -/
inductive ObjectState where
  | holding (rom : SNESROM)
  | movedFrom
  deriving DecidableEq, Repr

abbrev Objects := ObjectId → Option ObjectState

namespace Objects

def empty : Objects := fun _ => none

def vacant (objects : Objects) (object : ObjectId) : Except ObjectFault Unit :=
  match objects object with
  | none => .ok ()
  | some _ => .error (.objectExists object)

def state (objects : Objects) (object : ObjectId) : Except ObjectFault ObjectState :=
  match objects object with
  | none => .error (.noObject object)
  | some state => .ok state

/-- A ROM passes from object to object and is gone with the object that has it. -/
def applyAction (objects : Objects) : ObjectAction → Except ObjectFault Objects
  | .construct object file _ => do
      objects.vacant object
      let rom ← (SNESROM.load file).mapError .constructor
      return Function.update objects object (some (.holding rom))
  | .moveConstruct object other => do
      objects.vacant object
      let state ← objects.state other
      return Function.update (Function.update objects object (some state)) other (some .movedFrom)
  | .destroy object => do
      let _ ← objects.state object
      return Function.update objects object none

def afterActions (actions : List ObjectAction) : Except ObjectFault Objects :=
  actions.foldlM applyAction empty

end Objects

namespace SNESROM

structure PointsInto (file : Bytes) (rom : SNESROM) : Prop where
  image : rom.m_actualImageData = file
  header : ∀ pointer, rom.m_SNESROMHeader.m_HeaderData = some pointer → pointer.memory = file
  smcHeader : ∀ pointer, rom.m_SMCHeader.m_bytes = some pointer → pointer.memory = file

section Constructor

variable {file : Bytes} {rom rom' : SNESROM}

theorem PointsInto.takeHeader (h : PointsInto file rom) {headerAddress : Nat}
    (hrun : rom.takeHeader headerAddress = .ok rom') : PointsInto file rom' := by
  obtain ⟨header, hheader, hresult⟩ := bind_ok_iff.mp hrun
  obtain ⟨found, _, hasserted⟩ := bind_ok_iff.mp hheader
  obtain ⟨_, _, hset⟩ := bind_ok_iff.mp hasserted
  obtain rfl := Except.ok.inj hset
  obtain rfl := Except.ok.inj hresult
  refine ⟨h.image, ?_, h.smcHeader⟩
  intro pointer hpointer
  obtain rfl := Option.some.inj hpointer
  exact h.image

theorem PointsInto.probeHeader (h : PointsInto file rom) {headerAddress : Nat}
    (hrun : rom.probeHeader headerAddress = .ok rom') : PointsInto file rom' := by
  obtain ⟨found, _, hrest⟩ := bind_ok_iff.mp hrun
  cases found with
  | true => exact h.takeHeader hrest
  | false =>
    obtain rfl := Except.ok.inj hrest
    exact h

theorem PointsInto.probeKnownOffsets (h : PointsInto file rom)
    (hrun : rom.probeKnownOffsets = .ok rom') : PointsInto file rom' := by
  obtain ⟨found, _, hrest⟩ := bind_ok_iff.mp hrun
  cases found with
  | true => exact h.takeHeader hrest
  | false => exact h.probeHeader hrest

theorem PointsInto.probeDeclaredLayout (h : PointsInto file rom)
    (hrun : rom.probeDeclaredLayout = .ok rom') : PointsInto file rom' := by
  simp only [SNESROM.probeDeclaredLayout, bind_ok_iff] at hrun
  obtain ⟨_, _, _, _, _, _, headerAddress, _, probed, hprobed, _, _, hresult⟩ := hrun
  obtain rfl := Except.ok.inj hresult
  have hset : PointsInto file
      { rom with m_SMCHeader := rom.m_SMCHeader.load ⟨rom.m_actualImageData, 0⟩ } := by
    refine ⟨h.image, h.header, ?_⟩
    intro pointer hpointer
    obtain rfl := Option.some.inj hpointer
    exact h.image
  exact hset.probeHeader hprobed

theorem PointsInto.findHeader (h : PointsInto file rom) (hrun : rom.findHeader = .ok rom') :
    PointsInto file rom' := by
  obtain ⟨probed, hprobed, hrest⟩ := bind_ok_iff.mp hrun
  have hinto : PointsInto file probed := by
    split at hprobed
    · exact h.probeDeclaredLayout hprobed
    · obtain rfl := Except.ok.inj hprobed
      exact h
  split at hrest
  · obtain rfl := Except.ok.inj hrest
    exact hinto
  · exact hinto.probeKnownOffsets hrest

theorem load_pointsInto (hload : load file = .ok rom) : PointsInto file rom := by
  simp only [load, bind_ok_iff] at hload
  obtain ⟨_, _, _, _, hrun⟩ := hload
  refine PointsInto.findHeader ⟨rfl, ?_, ?_⟩ hrun <;> intro pointer hpointer <;> cases hpointer

end Constructor

end SNESROM

theorem Heap.resolveOrNull_inBuffer {heap : Heap} {buffer : BufferId} {file : Bytes}
    (hlive : heap buffer = some file) {pointer : Option Pointer}
    (hinto : ∀ p, pointer = some p → p.memory = file) :
    heap.resolveOrNull (pointer.map fun p => p.inBuffer buffer) = some pointer := by
  cases pointer with
  | none => rfl
  | some p =>
    obtain rfl := hinto p rfl
    simp [Heap.resolveOrNull, Heap.resolve, Pointer.inBuffer, hlive]

theorem RawSNESROM.view_ofLoaded {heap : Heap} {buffer : BufferId} {file : Bytes} {rom : SNESROM}
    (hload : SNESROM.load file = .ok rom) (hlive : heap buffer = some file) :
    (RawSNESROM.ofLoaded rom buffer).view heap = some rom := by
  have hinto := SNESROM.load_pointsInto hload
  simp only [RawSNESROM.view, RawSNESROM.ofLoaded, Option.bind_eq_bind, Option.bind_some, hlive,
    Heap.resolveOrNull_inBuffer hlive hinto.header,
    Heap.resolveOrNull_inBuffer hlive hinto.smcHeader]
  obtain rfl := hinto.image
  exact if_pos rfl

namespace ObjectMemory

def owner (memory : ObjectMemory) (object : ObjectId) : Option BufferId :=
  (memory.objects object).bind RawSNESROM.m_actualImageData

/-- What lies in memory for an object in a state. -/
inductive Holds (memory : ObjectMemory) (object : ObjectId) : Option ObjectState → Prop
  | absent (hobject : memory.objects object = none) : Holds memory object none
  | movedFrom {raw : RawSNESROM} (hobject : memory.objects object = some raw)
      (hraw : raw.movedFrom = raw) : Holds memory object (some .movedFrom)
  | holding {file : Bytes} {rom : SNESROM} {buffer : BufferId}
      (hload : SNESROM.load file = .ok rom) (hlive : memory.heap buffer = some file)
      (hobject : memory.objects object = some (.ofLoaded rom buffer)) :
      Holds memory object (some (.holding rom))

structure Represents (memory : ObjectMemory) (objects : Objects) : Prop where
  exclusive : Exclusive memory.heap memory.owner
  holds : ∀ object, Holds memory object (objects object)

@[simp] theorem setObject_heap (memory : ObjectMemory) (object : ObjectId)
    (raw : Option RawSNESROM) : (memory.setObject object raw).heap = memory.heap := rfl

theorem owner_setObject (memory : ObjectMemory) (object : ObjectId) (raw : Option RawSNESROM) :
    (memory.setObject object raw).owner =
      Function.update memory.owner object (raw.bind RawSNESROM.m_actualImageData) := by
  funext id
  by_cases hid : id = object
  · simp [owner, setObject, hid]
  · simp [owner, setObject, hid]

theorem setObject_objects_self (memory : ObjectMemory) (object : ObjectId)
    (raw : Option RawSNESROM) : (memory.setObject object raw).objects object = raw :=
  Function.update_self ..

theorem setObject_objects_of_ne (memory : ObjectMemory) {object id : ObjectId} (hid : id ≠ object)
    (raw : Option RawSNESROM) : (memory.setObject object raw).objects id = memory.objects id :=
  Function.update_of_ne hid ..

theorem Holds.frame {memory memory' : ObjectMemory} {id id' : ObjectId} {state : Option ObjectState}
    (h : Holds memory id state) (hobject : memory'.objects id' = memory.objects id)
    (hheap : ∀ buffer, memory.owner id = some buffer → memory'.heap buffer = memory.heap buffer) :
    Holds memory' id' state := by
  cases h with
  | absent hnone => exact .absent (hobject.trans hnone)
  | movedFrom hraw hmoved => exact .movedFrom (hobject.trans hraw) hmoved
  | holding hload hlive hraw =>
    refine .holding hload ?_ (hobject.trans hraw)
    rw [hheap _ (by rw [owner, hraw]; rfl), hlive]

theorem Holds.exists_object {memory : ObjectMemory} {object : ObjectId} {state : ObjectState}
    (h : Holds memory object (some state)) : ∃ raw, memory.objects object = some raw := by
  cases h with
  | movedFrom hobject _ => exact ⟨_, hobject⟩
  | holding _ _ hobject => exact ⟨_, hobject⟩

def SameFault (fault : MemoryFault) (fault' : ObjectFault) : Prop := fault = .program fault'

def AllocatorFault (fault : MemoryFault) : Prop := ∃ buffer, fault = .bufferInUse buffer

section Steps

variable {memory : ObjectMemory} {objects : Objects} (h : Represents memory objects)
include h

theorem Represents.construct {object : ObjectId} {file : Bytes} {buffer : BufferId} {rom : SNESROM}
    (hvacant : memory.objects object = none) (hload : SNESROM.load file = .ok rom)
    (hfree : memory.heap buffer = none) :
    Represents
      (({ memory with heap := Function.update memory.heap buffer (some file) } :
        ObjectMemory).setObject object (some (.ofLoaded rom buffer)))
      (Function.update objects object (some (.holding rom))) := by
  have hnone : memory.owner object = none := by rw [owner, hvacant]; rfl
  constructor
  · rw [owner_setObject]
    exact h.exclusive.acquire file hnone hfree
  · intro id
    by_cases hid : id = object
    · subst hid
      rw [Function.update_self]
      exact .holding hload (Function.update_self ..) (setObject_objects_self ..)
    · rw [Function.update_of_ne hid]
      refine (h.holds id).frame (setObject_objects_of_ne _ hid _) ?_
      intro owned howned
      obtain ⟨contents, hlive⟩ := h.exclusive.owned_live howned
      apply Function.update_of_ne
      rintro rfl
      rw [hfree] at hlive
      cases hlive

theorem Represents.moveConstruct {object other : ObjectId} {raw : RawSNESROM}
    (hvacant : memory.objects object = none) (hraw : memory.objects other = some raw) :
    Represents ((memory.setObject object (some raw)).setObject other (some raw.movedFrom))
      (Function.update (Function.update objects object (objects other)) other
        (some .movedFrom)) := by
  have hne : object ≠ other := by
    rintro rfl
    rw [hvacant] at hraw
    cases hraw
  have hnone : memory.owner object = none := by rw [owner, hvacant]; rfl
  have howner : memory.owner other = raw.m_actualImageData := by rw [owner, hraw]; rfl
  constructor
  · rw [owner_setObject, owner_setObject, Option.bind_some, Option.bind_some, ← howner]
    exact h.exclusive.transfer other hnone
  · intro id
    by_cases hother : id = other
    · subst hother
      rw [Function.update_self]
      exact .movedFrom (setObject_objects_self ..) rfl
    · rw [Function.update_of_ne hother]
      by_cases hobject : id = object
      · subst hobject
        rw [Function.update_self]
        refine (h.holds other).frame ?_ fun _ _ => rfl
        rw [setObject_objects_of_ne _ hother, setObject_objects_self, hraw]
      · rw [Function.update_of_ne hobject]
        refine (h.holds id).frame ?_ fun _ _ => rfl
        rw [setObject_objects_of_ne _ hother, setObject_objects_of_ne _ hobject]

theorem Represents.destroy {object : ObjectId} {raw : RawSNESROM}
    (hraw : memory.objects object = some raw) :
    ∃ freed, memory.freeImage raw = .ok freed ∧
      Represents (freed.setObject object none) (Function.update objects object none) := by
  have howner : memory.owner object = raw.m_actualImageData := by rw [owner, hraw]; rfl
  have hholds (freed : ObjectMemory) (hobjects : freed.objects = memory.objects)
      (hheap : ∀ id ≠ object, ∀ buffer, memory.owner id = some buffer →
        freed.heap buffer = memory.heap buffer) (id : ObjectId) :
      Holds (freed.setObject object none) id (Function.update objects object none id) := by
    by_cases hid : id = object
    · subst hid
      rw [Function.update_self]
      exact .absent (setObject_objects_self ..)
    · rw [Function.update_of_ne hid]
      refine (h.holds id).frame ?_ (hheap id hid)
      rw [setObject_objects_of_ne _ hid, hobjects]
  cases hbuffer : raw.m_actualImageData with
  | none =>
    refine ⟨memory, by rw [freeImage, hbuffer], ?_, hholds memory rfl fun _ _ _ _ => rfl⟩
    rw [hbuffer] at howner
    rw [owner_setObject, Option.bind_none, ← howner, Function.update_eq_self]
    exact h.exclusive
  | some buffer =>
    rw [hbuffer] at howner
    obtain ⟨contents, hlive⟩ := h.exclusive.owned_live howner
    refine ⟨{ memory with heap := Function.update memory.heap buffer none }, ?_, ?_, ?_⟩
    · simp only [freeImage, hbuffer, free, hlive]
    · rw [owner_setObject]
      exact h.exclusive.release howner
    · refine hholds _ rfl ?_
      intro id hid owned howned
      exact Function.update_of_ne (h.exclusive.ne_of_owner howned howner hid) ..

theorem Represents.vacant (object : ObjectId) :
    Simulates (fun _ _ => memory.objects object = none) SameFault AllocatorFault
      (memory.vacant object) (objects.vacant object) := by
  have hholds := h.holds object
  cases hstate : objects object with
  | none =>
    rw [hstate] at hholds
    cases hholds with
    | absent hnone =>
      rw [ObjectMemory.vacant, Objects.vacant, hstate, hnone]
      exact .ok rfl
  | some state =>
    rw [hstate] at hholds
    obtain ⟨raw, hraw⟩ := hholds.exists_object
    rw [ObjectMemory.vacant, Objects.vacant, hstate, hraw]
    exact .error rfl

theorem Represents.object (object : ObjectId) :
    Simulates (fun raw state => memory.objects object = some raw ∧ objects object = some state)
      SameFault AllocatorFault (memory.object object) (objects.state object) := by
  have hholds := h.holds object
  cases hstate : objects object with
  | none =>
    rw [hstate] at hholds
    cases hholds with
    | absent hnone =>
      rw [ObjectMemory.object, Objects.state, hstate, hnone]
      exact .error rfl
  | some state =>
    rw [hstate] at hholds
    obtain ⟨raw, hraw⟩ := hholds.exists_object
    rw [ObjectMemory.object, Objects.state, hstate, hraw]
    exact .ok ⟨rfl, rfl⟩

theorem Represents.applyAction (action : ObjectAction) :
    Simulates Represents SameFault AllocatorFault (memory.applyAction action)
      (objects.applyAction action) := by
  cases action with
  | construct object file buffer =>
    apply (h.vacant object).bind
    intro _ _ hvacant
    cases hload : SNESROM.load file with
    | error fault => exact .error rfl
    | ok rom =>
      change Simulates _ _ _ (memory.allocate buffer file >>= _) _
      cases hfree : memory.heap buffer with
      | none =>
        simp only [allocate, hfree]
        exact .ok (h.construct hvacant hload hfree)
      | some contents =>
        simp only [allocate, hfree]
        exact .excused ⟨buffer, rfl⟩ _
  | moveConstruct object other =>
    apply (h.vacant object).bind
    intro _ _ hvacant
    apply (h.object other).bind
    intro raw state hboth
    rw [← hboth.2]
    exact .ok (h.moveConstruct hvacant hboth.1)
  | destroy object =>
    apply (h.object object).bind
    intro raw state hboth
    obtain ⟨freed, hfreed, hrepresents⟩ := h.destroy hboth.1
    rw [hfreed]
    exact .ok hrepresents

end Steps

theorem represents_empty : Represents empty Objects.empty where
  exclusive := .empty
  holds := fun _ => .absent rfl

/-- A run over the memory follows the run over the states that its users see. -/
theorem afterActions_simulates (actions : List ObjectAction) :
    Simulates Represents SameFault AllocatorFault (afterActions actions)
      (Objects.afterActions actions) :=
  .foldlM (fun _ _ action h => h.applyAction action) represents_empty actions

theorem afterActions_represents {actions : List ObjectAction} {memory : ObjectMemory}
    (hrun : afterActions actions = .ok memory) :
    ∃ objects, Objects.afterActions actions = .ok objects ∧ Represents memory objects := by
  have hsimulates := afterActions_simulates actions
  rw [hrun] at hsimulates
  exact hsimulates.of_ok

end ObjectMemory

end SnesDisasm
