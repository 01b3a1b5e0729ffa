import Mathlib.Logic.Function.Basic
import SnesDisasm.Model.SNESROM

/-!
# ROM objects in memory

The buffers are in a heap and a pointer is a buffer with an offset, so that it can outlive it.
-/

namespace SnesDisasm

abbrev BufferId := Nat

abbrev ObjectId := Nat

abbrev Heap := BufferId → Option Bytes

structure RawPointer where
  buffer : BufferId
  offset : Nat
  deriving DecidableEq, Repr

/-- `none` is an empty vector or a null pointer. -/
structure RawSNESROM where
  m_actualImageData : Option BufferId := none
  m_headerlessImageData : Option RawPointer := none
  m_SNESROMHeader : Option RawPointer := none
  m_SMCHeader : Option RawPointer := none
  deriving DecidableEq, Repr

def Pointer.inBuffer (pointer : Pointer) (buffer : BufferId) : RawPointer :=
  ⟨buffer, pointer.offset⟩

/-- What the constructor leaves. -/
def RawSNESROM.ofLoaded (rom : SNESROM) (buffer : BufferId) : RawSNESROM where
  m_actualImageData := some buffer
  m_headerlessImageData := some (rom.headerless.inBuffer buffer)
  m_SNESROMHeader := rom.m_SNESROMHeader.m_HeaderData.map fun pointer => pointer.inBuffer buffer
  m_SMCHeader := rom.m_SMCHeader.m_bytes.map fun pointer => pointer.inBuffer buffer

/-- What `SNESROM(SNESROM &&other)` leaves of `other`. `SMCHeader` has no move operation, so its
pointer is copied only. -/
def RawSNESROM.movedFrom (other : RawSNESROM) : RawSNESROM :=
  { other with
    m_actualImageData := none
    m_headerlessImageData := none
    m_SNESROMHeader := none }

structure ObjectMemory where
  heap : Heap
  objects : ObjectId → Option RawSNESROM

inductive ObjectFault where
  | constructor (fault : Fault)
  | objectExists (object : ObjectId)
  | noObject (object : ObjectId)
  deriving DecidableEq, Repr

inductive MemoryFault where
  | program (fault : ObjectFault)
  /-- No allocator does this. -/
  | bufferInUse (buffer : BufferId)
  | doubleFree (buffer : BufferId)
  deriving DecidableEq, Repr

inductive ObjectAction where
  /-- With the contents of the file and the buffer that is allocated. -/
  | construct (object : ObjectId) (file : Bytes) (buffer : BufferId)
  /-- `SNESROM(std::move(other))`, also as the member of a `Disasm`. -/
  | moveConstruct (object other : ObjectId)
  | destroy (object : ObjectId)
  deriving DecidableEq, Repr

namespace ObjectMemory

def empty : ObjectMemory := ⟨fun _ => none, fun _ => none⟩

def vacant (memory : ObjectMemory) (object : ObjectId) : Except MemoryFault Unit :=
  match memory.objects object with
  | none => .ok ()
  | some _ => .error (.program (.objectExists object))

def object (memory : ObjectMemory) (object : ObjectId) : Except MemoryFault RawSNESROM :=
  match memory.objects object with
  | none => .error (.program (.noObject object))
  | some raw => .ok raw

def allocate (memory : ObjectMemory) (buffer : BufferId) (file : Bytes) :
    Except MemoryFault ObjectMemory :=
  match memory.heap buffer with
  | none => .ok { memory with heap := Function.update memory.heap buffer (some file) }
  | some _ => .error (.bufferInUse buffer)

def free (memory : ObjectMemory) (buffer : BufferId) : Except MemoryFault ObjectMemory :=
  match memory.heap buffer with
  | none => .error (.doubleFree buffer)
  | some _ => .ok { memory with heap := Function.update memory.heap buffer none }

/-- The destructor of the vector, which is the only member that owns anything. -/
def freeImage (memory : ObjectMemory) (raw : RawSNESROM) : Except MemoryFault ObjectMemory :=
  match raw.m_actualImageData with
  | none => .ok memory
  | some buffer => memory.free buffer

def setObject (memory : ObjectMemory) (object : ObjectId) (raw : Option RawSNESROM) :
    ObjectMemory :=
  { memory with objects := Function.update memory.objects object raw }

def applyAction (memory : ObjectMemory) : ObjectAction → Except MemoryFault ObjectMemory
  | .construct object file buffer => do
      memory.vacant object
      let rom ← (SNESROM.load file).mapError fun fault => .program (.constructor fault)
      let memory ← memory.allocate buffer file
      return memory.setObject object (some (.ofLoaded rom buffer))
  | .moveConstruct object other => do
      memory.vacant object
      let raw ← memory.object other
      return (memory.setObject object (some raw)).setObject other (some raw.movedFrom)
  | .destroy object => do
      let raw ← memory.object object
      let memory ← memory.freeImage raw
      return memory.setObject object none

def afterActions (actions : List ObjectAction) : Except MemoryFault ObjectMemory :=
  actions.foldlM applyAction empty

end ObjectMemory

/-- What a pointer shows: nothing once its buffer is freed. -/
def Heap.resolve (heap : Heap) (pointer : RawPointer) : Option Pointer :=
  (heap pointer.buffer).map fun memory => ⟨memory, pointer.offset⟩

def Heap.resolveOrNull (heap : Heap) : Option RawPointer → Option (Option Pointer)
  | none => some none
  | some pointer => (heap.resolve pointer).map some

/-- The object that the member functions work on, if no pointer dangles. -/
def RawSNESROM.view (raw : RawSNESROM) (heap : Heap) : Option SNESROM := do
  let buffer ← raw.m_actualImageData
  let m_actualImageData ← heap buffer
  let headerless ← raw.m_headerlessImageData
  let m_HeaderData ← heap.resolveOrNull raw.m_SNESROMHeader
  let m_bytes ← heap.resolveOrNull raw.m_SMCHeader
  if headerless.buffer = buffer then
    return ⟨m_actualImageData, headerless.offset, ⟨m_HeaderData⟩, ⟨m_bytes⟩⟩
  else none

end SnesDisasm
