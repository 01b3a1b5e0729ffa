import SnesDisasm.Load.Moves

/-!
# What objects show while they live

A move leaves the pointer of the SMC header behind, which can outlive the buffer.
-/

namespace SnesDisasm
open Ownership

namespace ObjectMemory

/-- The object shows its state, and none of its pointers dangles. -/
def Shows (memory : ObjectMemory) (object : ObjectId) : Option ObjectState → Prop
  | none => memory.objects object = none
  | some .movedFrom => ∃ raw, memory.objects object = some raw ∧ raw.movedFrom = raw
  | some (.holding rom) => ∃ raw, memory.objects object = some raw ∧
      raw.view memory.heap = some rom

theorem Holds.shows {memory : ObjectMemory} {object : ObjectId} {state : Option ObjectState}
    (h : Holds memory object state) : Shows memory object state := by
  cases h with
  | absent hobject => exact hobject
  | movedFrom hobject hraw => exact ⟨_, hobject, hraw⟩
  | holding hload hlive hobject => exact ⟨_, hobject, RawSNESROM.view_ofLoaded hload hlive⟩

section Lifetimes

variable {file : Bytes} {rom : SNESROM} {buffer : BufferId}

theorem applyAction_construct (memory : ObjectMemory) {object : ObjectId}
    (hload : SNESROM.load file = .ok rom) (hvacant : memory.objects object = none)
    (hfree : memory.heap buffer = none) :
    memory.applyAction (.construct object file buffer) =
      .ok (({ memory with heap := Function.update memory.heap buffer (some file) } :
        ObjectMemory).setObject object (some (.ofLoaded rom buffer))) := by
  simp only [applyAction, ObjectMemory.vacant, hvacant, hload, Except.mapError, allocate, hfree,
    bind, Except.bind, pure, Except.pure]

theorem applyAction_moveConstruct {memory : ObjectMemory} {object other : ObjectId}
    {raw : RawSNESROM} (hvacant : memory.objects object = none)
    (hraw : memory.objects other = some raw) :
    memory.applyAction (.moveConstruct object other) =
      .ok ((memory.setObject object (some raw)).setObject other (some raw.movedFrom)) := by
  simp only [applyAction, ObjectMemory.vacant, hvacant, ObjectMemory.object, hraw, bind,
    Except.bind, pure, Except.pure]

theorem applyAction_destroy_movedFrom {memory : ObjectMemory} {object : ObjectId}
    {raw : RawSNESROM} (hraw : memory.objects object = some raw)
    (hmoved : raw.m_actualImageData = none) :
    memory.applyAction (.destroy object) = .ok (memory.setObject object none) := by
  simp only [applyAction, ObjectMemory.object, hraw, freeImage, hmoved, bind, Except.bind, pure,
    Except.pure]

theorem applyAction_destroy {memory : ObjectMemory} {object : ObjectId}
    (hraw : memory.objects object = some (.ofLoaded rom buffer))
    (hlive : memory.heap buffer = some file) :
    memory.applyAction (.destroy object) =
      .ok (({ memory with heap := Function.update memory.heap buffer none } :
        ObjectMemory).setObject object none) := by
  simp only [applyAction, ObjectMemory.object, hraw, freeImage, RawSNESROM.ofLoaded, free, hlive,
    bind, Except.bind, pure, Except.pure]

structure HandedOver (memory : ObjectMemory) (object other : ObjectId) (file : Bytes)
    (rom : SNESROM) (buffer : BufferId) : Prop where
  heap_eq : memory.heap = Function.update (fun _ => none) buffer (some file)
  object_eq : memory.objects object = some (.ofLoaded rom buffer)
  other_eq : memory.objects other = some (RawSNESROM.ofLoaded rom buffer).movedFrom
  rest_eq : ∀ id, id ≠ object → id ≠ other → memory.objects id = none

theorem HandedOver.live {memory : ObjectMemory} {object other : ObjectId}
    (h : HandedOver memory object other file rom buffer) : memory.heap buffer = some file := by
  rw [h.heap_eq, Function.update_self]

theorem afterActions_concat {actions : List ObjectAction} {memory : ObjectMemory}
    (hrun : afterActions actions = .ok memory) (action : ObjectAction) :
    afterActions (actions ++ [action]) = memory.applyAction action := by
  rw [afterActions, List.foldlM_append]
  change afterActions actions >>= _ = _
  rw [hrun]
  change memory.applyAction action >>= pure = _
  rw [bind_pure]

theorem afterActions_handedOver (hload : SNESROM.load file = .ok rom) (buffer : BufferId)
    {object other : ObjectId} (hne : object ≠ other) :
    ∃ memory, afterActions [.construct other file buffer, .moveConstruct object other] =
      .ok memory ∧ HandedOver memory object other file rom buffer := by
  obtain ⟨loaded, hloaded⟩ : ∃ loaded, loaded = (⟨Function.update (fun _ => none) buffer (some file),
      fun _ => none⟩ : ObjectMemory).setObject other (some (.ofLoaded rom buffer)) := ⟨_, rfl⟩
  have hconstruct : afterActions [.construct other file buffer] = .ok loaded := by
    have hstart : afterActions [] = .ok empty := rfl
    rw [hloaded]
    exact (afterActions_concat hstart _).trans (applyAction_construct empty hload rfl rfl)
  have hother : loaded.objects other = some (.ofLoaded rom buffer) := by
    rw [hloaded, setObject_objects_self]
  have hrest : ∀ id, id ≠ other → loaded.objects id = none := by
    intro id hid
    rw [hloaded, setObject_objects_of_ne _ hid]
  refine ⟨_, (afterActions_concat hconstruct (.moveConstruct object other)).trans
    (applyAction_moveConstruct (hrest object hne) hother), ?_⟩
  refine ⟨?_, ?_, setObject_objects_self .., ?_⟩
  · rw [setObject_heap, setObject_heap, hloaded, setObject_heap]
  · rw [setObject_objects_of_ne _ hne, setObject_objects_self]
  · intro id hobject hid
    rw [setObject_objects_of_ne _ hid, setObject_objects_of_ne _ hobject, hrest id hid]

end Lifetimes

/-- Over every run and every choice of fresh buffers an object shows, without a dangling pointer,
the ROM that was loaded and then passed on to it. One that was moved from, or constructed from an
object without a ROM, holds nothing. -/
theorem objects_show_loaded (actions : List ObjectAction) (memory : ObjectMemory)
    (hrun : afterActions actions = .ok memory) :
    ∃ objects, Objects.afterActions actions = .ok objects ∧
      ∀ object, Shows memory object (objects object) := by
  obtain ⟨objects, hobjects, hrepresents⟩ := afterActions_represents hrun
  exact ⟨objects, hobjects, fun object => (hrepresents.holds object).shows⟩

theorem objects_show_loaded_candidates :
    ∃ memory, afterActions [.construct 1 (SNESROM.candidates 0x20 0) 7, .moveConstruct 0 1] =
        .ok memory ∧
      ∃ objects, Objects.afterActions [.construct 1 (SNESROM.candidates 0x20 0) 7,
          .moveConstruct 0 1] = .ok objects ∧
        ∀ object, Shows memory object (objects object) := by
  obtain ⟨memory, hrun, _⟩ := afterActions_handedOver (SNESROM.load_candidates 0x20 0) 7
    (by decide : (0 : ObjectId) ≠ 1)
  exact ⟨memory, hrun, objects_show_loaded _ memory hrun⟩

/-- Over every run no buffer is freed twice, every live buffer has one owner, and nothing is live
once all objects are destroyed. -/
theorem buffers_are_owned (actions : List ObjectAction) :
    (∀ buffer, afterActions actions ≠ .error (.doubleFree buffer)) ∧
      ∀ memory, afterActions actions = .ok memory →
        Exclusive memory.heap memory.owner ∧
        ((∀ object, memory.objects object = none) → ∀ buffer, memory.heap buffer = none) := by
  constructor
  · intro buffer hrun
    have hsimulates := afterActions_simulates actions
    rw [hrun] at hsimulates
    rcases hsimulates.of_error with ⟨_, h⟩ | ⟨_, _, h⟩ <;> cases h
  · intro memory hrun
    obtain ⟨objects, _, hrepresents⟩ := afterActions_represents hrun
    refine ⟨hrepresents.exclusive, ?_⟩
    intro hnone
    apply hrepresents.exclusive.no_leak
    intro object
    rw [owner, hnone object]
    rfl

theorem buffers_are_owned_candidates :
    ∃ memory, afterActions [.construct 1 (SNESROM.candidates 0x20 0) 7, .moveConstruct 0 1] =
        .ok memory ∧ Exclusive memory.heap memory.owner ∧
      ((∀ object, memory.objects object = none) → ∀ buffer, memory.heap buffer = none) := by
  obtain ⟨memory, hrun, _⟩ := afterActions_handedOver (SNESROM.load_candidates 0x20 0) 7
    (by decide : (0 : ObjectId) ≠ 1)
  exact ⟨memory, hrun, (buffers_are_owned _).2 memory hrun⟩

/-- `testapp` moves a temporary into the disassembler, which shows the loaded ROM. At the end
nothing is left. -/
theorem testapp_frees_image (file : Bytes) (rom : SNESROM) (buffer : BufferId)
    (temporary m_ROM : ObjectId) (hload : SNESROM.load file = .ok rom)
    (hobjects : m_ROM ≠ temporary) :
    ∃ used ended, afterActions [.construct temporary file buffer, .moveConstruct m_ROM temporary,
        .destroy temporary] = .ok used ∧
      Shows used m_ROM (some (.holding rom)) ∧ used.applyAction (.destroy m_ROM) = .ok ended ∧
      (∀ object, ended.objects object = none) ∧ ∀ buffer, ended.heap buffer = none := by
  obtain ⟨memory, hrun, hmemory⟩ := afterActions_handedOver hload buffer hobjects
  have hdestroy := applyAction_destroy_movedFrom hmemory.other_eq rfl
  have hused : (memory.setObject temporary none).objects m_ROM = some (.ofLoaded rom buffer) := by
    rw [setObject_objects_of_ne _ hobjects, hmemory.object_eq]
  refine ⟨_, _, ?_, ?_, applyAction_destroy hused hmemory.live, ?_, ?_⟩
  · exact (afterActions_concat hrun _).trans hdestroy
  · exact ⟨_, hused, RawSNESROM.view_ofLoaded hload hmemory.live⟩
  · intro object
    by_cases hobject : object = m_ROM
    · rw [hobject, setObject_objects_self]
    · rw [setObject_objects_of_ne _ hobject]
      by_cases hother : object = temporary
      · rw [hother]
        exact setObject_objects_self ..
      · exact (setObject_objects_of_ne _ hother _).trans (hmemory.rest_eq object hobject hother)
  · intro id
    by_cases hid : id = buffer
    · rw [hid]
      exact Function.update_self ..
    · refine (Function.update_of_ne hid ..).trans ?_
      rw [setObject_heap, hmemory.heap_eq, Function.update_of_ne hid]

theorem testapp_frees_image_candidates :
    ∃ used ended, afterActions [.construct 1 (SNESROM.candidates 0x20 0) 7, .moveConstruct 0 1,
        .destroy 1] = .ok used ∧
      Shows used 0 (some (.holding (SNESROM.loaded (SNESROM.candidates 0x20 0)))) ∧
      used.applyAction (.destroy 0) = .ok ended ∧
      (∀ object, ended.objects object = none) ∧ ∀ buffer, ended.heap buffer = none :=
  testapp_frees_image _ _ 7 1 0 (SNESROM.load_candidates 0x20 0) (by decide)

/-- The SMC header of a moved-from object points to a freed buffer once the new owner is destroyed,
and into another file once the buffer is allocated again. -/
theorem smc_header_outlives_image (file next : Bytes) (rom nextRom : SNESROM) (pointer : Pointer)
    (buffer : BufferId) (object other : ObjectId) (hload : SNESROM.load file = .ok rom)
    (hnext : SNESROM.load next = .ok nextRom) (hsmc : rom.m_SMCHeader.m_bytes = some pointer)
    (hobjects : object ≠ other) :
    ∃ destroyed reused raw dangling, afterActions [.construct other file buffer,
        .moveConstruct object other, .destroy object] = .ok destroyed ∧
      destroyed.objects other = some raw ∧ raw.m_SMCHeader = some dangling ∧
      destroyed.heap.resolve dangling = none ∧
      destroyed.applyAction (.construct object next buffer) = .ok reused ∧
      reused.objects other = some raw ∧
      reused.heap.resolve dangling = some ⟨next, pointer.offset⟩ := by
  obtain ⟨memory, hrun, hmemory⟩ := afterActions_handedOver hload buffer hobjects
  obtain ⟨destroyed, hdestroyed⟩ : ∃ destroyed, destroyed =
      (({ memory with heap := Function.update memory.heap buffer none } :
        ObjectMemory).setObject object none) := ⟨_, rfl⟩
  have hdestroy := applyAction_destroy hmemory.object_eq hmemory.live
  rw [← hdestroyed] at hdestroy
  have hfreed : destroyed.heap buffer = none := by
    rw [hdestroyed]
    exact Function.update_self ..
  have hvacant : destroyed.objects object = none := by rw [hdestroyed, setObject_objects_self]
  have hraw : destroyed.objects other = some (RawSNESROM.ofLoaded rom buffer).movedFrom := by
    rw [hdestroyed, setObject_objects_of_ne _ hobjects.symm]
    exact hmemory.other_eq
  have hdangling : (RawSNESROM.ofLoaded rom buffer).movedFrom.m_SMCHeader =
      some (pointer.inBuffer buffer) := by
    simp only [RawSNESROM.movedFrom, RawSNESROM.ofLoaded, hsmc, Option.map_some]
  refine ⟨destroyed, _, _, _, (afterActions_concat hrun _).trans hdestroy, hraw, hdangling, ?_,
    applyAction_construct destroyed hnext hvacant hfreed, ?_, ?_⟩
  · simp only [Heap.resolve, Pointer.inBuffer, hfreed, Option.map_none]
  · rw [setObject_objects_of_ne _ hobjects.symm]
    exact hraw
  · simp only [Heap.resolve, Pointer.inBuffer, setObject_heap, Function.update_self,
      Option.map_some]

theorem loaded_smcHeader {file : Bytes} (hsmc : file.length % 1024 ≠ 0) :
    (SNESROM.loaded file).m_SMCHeader.m_bytes = some ⟨file, 0⟩ := by
  have hunprobed : SNESROM.unprobed file = SNESROM.withSMCHeader file := if_neg hsmc
  rw [SNESROM.loaded, hunprobed]
  split <;> rfl

theorem smc_header_outlives_candidates :
    ∃ destroyed reused raw dangling, afterActions [
        .construct 1 (List.replicate 512 0 ++ SNESROM.candidates 0x20 0) 7, .moveConstruct 0 1,
        .destroy 0] = .ok destroyed ∧
      destroyed.objects 1 = some raw ∧ raw.m_SMCHeader = some dangling ∧
      destroyed.heap.resolve dangling = none ∧
      destroyed.applyAction (.construct 0 (SNESROM.candidates 0x20 0) 7) = .ok reused ∧
      reused.objects 1 = some raw ∧
      reused.heap.resolve dangling = some ⟨SNESROM.candidates 0x20 0, 0⟩ := by
  have hlength : (List.replicate 512 0 ++ SNESROM.candidates 0x20 0).length = 0x10200 := by
    rw [List.length_append, List.length_replicate, SNESROM.candidates_length]
  exact smc_header_outlives_image (List.replicate 512 0 ++ SNESROM.candidates 0x20 0)
    (SNESROM.candidates 0x20 0) _ _ ⟨_, 0⟩ 7 0 1
    (SNESROM.load_eq_loaded (by rw [hlength])
      (by rw [SNESROM.headerlessSize_opened, hlength]))
    (SNESROM.load_candidates 0x20 0) (loaded_smcHeader (by rw [hlength]; decide)) (by decide)

end ObjectMemory

end SnesDisasm
