import Bangbang.Base.Bytes
import Bangbang.Memory.GuestMemory

/-!
# Virtqueue descriptor chains and the available ring

The driver publishes the head of a descriptor chain in a slot of the available
ring and advances the ring's index; the device pops heads at its own cursor. The
index and the cursor run freely modulo `2 ^ 16`, the slots modulo the queue
size.

Every load goes through `GuestMemory.readSlice`, so a chain is read from guest
memory which the driver may have filled with anything.
-/

namespace Bangbang.Virtio

open Memory

def virtqueueDescriptorSize : Nat := 16

def virtqueueDescriptorAlignment : Nat := 16

def virtqueueAvailableRingAlignment : Nat := 2

section

structure VirtqueueDescriptor where
  index : UInt16
  (address len : Nat)
  flags : UInt16
  nextIndex : Option UInt16
deriving DecidableEq, Repr

namespace VirtqueueDescriptor

variable (descriptor : VirtqueueDescriptor)

def isWriteOnly : Bool := descriptor.flags &&& 2 ≠ 0

def isIndirect : Bool := descriptor.flags &&& 4 ≠ 0

def hasNext : Bool := descriptor.nextIndex.isSome

end VirtqueueDescriptor

structure VirtqueueDescriptorChain where
  headIndex : UInt16
  descriptors : List VirtqueueDescriptor
deriving DecidableEq, Repr

structure VirtqueueDescriptorChainOptions where
  indirectDescriptors : Bool
deriving DecidableEq, Repr

inductive VirtqueueDescriptorChainError where
  | invalidQueueSize (queueSize : UInt16)
  | unalignedDescriptorTable (descriptorTable alignment : Nat)
  | invalidHeadIndex (headIndex queueSize : UInt16)
  | descriptorTableRangeOverflow (descriptorTable : Nat) (queueSize : UInt16)
  | descriptorTableAccess (descriptorTable : Nat) (queueSize : UInt16)
      (source : GuestMemoryAccessError)
  | descriptorRead (index : UInt16) (source : GuestMemoryAccessError)
  | invalidNextIndex (index nextIndex queueSize : UInt16)
  | unsupportedIndirectDescriptor (index : UInt16)
  | invalidIndirectDescriptorWithNext (index : UInt16)
  | invalidIndirectDescriptorLength (index : UInt16) (len : Nat)
  | indirectDescriptorTableRangeOverflow (index : UInt16) (descriptorTable len : Nat)
  | indirectDescriptorTableAccess (index : UInt16) (descriptorTable len : Nat)
      (source : GuestMemoryAccessError)
  | nestedIndirectDescriptor (index : UInt16)
  | descriptorChainTooLong (headIndex queueSize : UInt16)
  | descriptorChainAllocationFailed (queueSize : UInt16)
deriving DecidableEq, Repr

variable (memory : GuestMemory) (descriptorTable : Nat) (queueSize : UInt16)

/-- A nonzero power of two. -/
def isValidQueueSize : Bool := (List.range 16).any fun exponent => queueSize.toNat = 2 ^ exponent

/-- Load `width` bytes of guest memory. -/
def readBytes (address width : Nat) : Except GuestMemoryAccessError (List UInt8) :=
  match memory.readSlice (List.replicate width 0) address with
  | (.ok (), bytes) => .ok bytes
  | (.error error, _) => .error error

def readU16 (address : Nat) : Except GuestMemoryAccessError UInt16 := do
  let bytes ← readBytes memory address 2
  return UInt16.ofNat (ofLe bytes)

def validateQueueSize : Except VirtqueueDescriptorChainError Unit :=
  rejectIf (!isValidQueueSize queueSize) (.invalidQueueSize queueSize)

def validateDescriptorTableAlignment : Except VirtqueueDescriptorChainError Unit :=
  rejectIf (descriptorTable % virtqueueDescriptorAlignment ≠ 0)
    (.unalignedDescriptorTable descriptorTable virtqueueDescriptorAlignment)

def descriptorTableRange : Except VirtqueueDescriptorChainError GuestMemoryRange :=
  (GuestMemoryRange.new descriptorTable (queueSize.toNat * virtqueueDescriptorSize)).mapError
    fun _ => .descriptorTableRangeOverflow descriptorTable queueSize

def validateDescriptorTableRange : Except VirtqueueDescriptorChainError Unit := do
  let range ← descriptorTableRange descriptorTable queueSize
  (memory.validateMappedRange range).mapError (.descriptorTableAccess descriptorTable queueSize)

def descriptorAddress (queueSize index : UInt16) : Except VirtqueueDescriptorChainError Nat :=
  okOr (checkedAdd descriptorTable (index.toNat * virtqueueDescriptorSize))
    (.descriptorTableRangeOverflow descriptorTable queueSize)

def readDescriptor (queueSize index : UInt16) :
    Except VirtqueueDescriptorChainError VirtqueueDescriptor := do
  let address ← descriptorAddress descriptorTable queueSize index
  let bytes ← (readBytes memory address virtqueueDescriptorSize).mapError (.descriptorRead index)
  let flags := UInt16.ofNat (ofLe ((bytes.drop 12).take 2))
  let next := UInt16.ofNat (ofLe ((bytes.drop 14).take 2))
  return { index, flags
           address := ofLe (bytes.take 8)
           len := ofLe ((bytes.drop 8).take 4)
           nextIndex := if flags &&& 1 ≠ 0 then some next else none }

/-- Follow a chain inside one descriptor table for at most `limit` descriptors,
handing an indirect descriptor and the descriptors before it to `onIndirect`. -/
def walkDescriptors (memory : GuestMemory) (descriptorTable : Nat) (tableSize : UInt16)
    (headIndex queueSize : UInt16)
    (onIndirect : VirtqueueDescriptor → List VirtqueueDescriptor →
      Except VirtqueueDescriptorChainError VirtqueueDescriptorChain) :
    (limit : Nat) → (currentIndex : UInt16) → List VirtqueueDescriptor →
      Except VirtqueueDescriptorChainError VirtqueueDescriptorChain
  | 0, _, _ => .error (.descriptorChainTooLong headIndex queueSize)
  | limit + 1, currentIndex, descriptors => do
    let descriptor ← readDescriptor memory descriptorTable tableSize currentIndex
    if descriptor.isIndirect then onIndirect descriptor descriptors
    else
      match descriptor.nextIndex with
      | none => return { headIndex, descriptors := descriptors ++ [descriptor] }
      | some index =>
        if index < tableSize then
          walkDescriptors memory descriptorTable tableSize headIndex queueSize onIndirect limit index
            (descriptors ++ [descriptor])
        else throw (.invalidNextIndex currentIndex index tableSize)

def validateIndirectDescriptorTable (headIndex : UInt16) (descriptor : VirtqueueDescriptor)
    (queueSize : UInt16) : Except VirtqueueDescriptorChainError UInt16 := do
  rejectIf (descriptor.len = 0 ∨ descriptor.len % virtqueueDescriptorSize ≠ 0)
    (.invalidIndirectDescriptorLength descriptor.index descriptor.len)
  let count := descriptor.len / virtqueueDescriptorSize
  rejectIf (queueSize.toNat < count) (.descriptorChainTooLong headIndex queueSize)
  validateDescriptorTableAlignment descriptor.address
  let range ← (GuestMemoryRange.new descriptor.address descriptor.len).mapError fun _ =>
    .indirectDescriptorTableRangeOverflow descriptor.index descriptor.address descriptor.len
  (memory.validateMappedRange range).mapError
    (.indirectDescriptorTableAccess descriptor.index descriptor.address descriptor.len)
  return UInt16.ofNat count

def readIndirectDescriptorChain (headIndex queueSize : UInt16)
    (options : VirtqueueDescriptorChainOptions) (descriptor : VirtqueueDescriptor)
    (descriptors : List VirtqueueDescriptor) :
    Except VirtqueueDescriptorChainError VirtqueueDescriptorChain := do
  rejectIf (!options.indirectDescriptors) (.unsupportedIndirectDescriptor descriptor.index)
  rejectIf descriptor.hasNext (.invalidIndirectDescriptorWithNext descriptor.index)
  let tableSize ← validateIndirectDescriptorTable memory headIndex descriptor queueSize
  rejectIf (queueSize.toNat < descriptors.length + tableSize.toNat)
    (.descriptorChainTooLong headIndex queueSize)
  walkDescriptors memory descriptor.address tableSize headIndex queueSize
    (fun nested _ => throw (.nestedIndirectDescriptor nested.index)) tableSize.toNat 0 descriptors

/-- Read the chain which starts at `headIndex`; `reserved` says whether the descriptor
list can be allocated. -/
def readDescriptorChainWithOptions (queueSize headIndex : UInt16)
    (options : VirtqueueDescriptorChainOptions) (reserved : Bool) :
    Except VirtqueueDescriptorChainError VirtqueueDescriptorChain := do
  validateQueueSize queueSize
  validateDescriptorTableAlignment descriptorTable
  validateDescriptorTableRange memory descriptorTable queueSize
  rejectIf (¬ headIndex < queueSize) (.invalidHeadIndex headIndex queueSize)
  rejectIf (!reserved) (.descriptorChainAllocationFailed queueSize)
  walkDescriptors memory descriptorTable queueSize headIndex queueSize
    (readIndirectDescriptorChain memory headIndex queueSize options) queueSize.toNat headIndex []

end

inductive VirtqueueAvailableRingError where
  | invalidQueueSize (queueSize : UInt16)
  | unalignedDescriptorTable (descriptorTable alignment : Nat)
  | unalignedAvailableRing (availableRing alignment : Nat)
  | availableRingRangeOverflow (availableRing : Nat) (queueSize : UInt16)
  | availableRingAccess (availableRing : Nat) (queueSize : UInt16) (source : GuestMemoryAccessError)
  | availableRingLengthTooLarge (queueSize availableLen : UInt16)
  | descriptorTable (source : VirtqueueDescriptorChainError)
  | descriptorChain (headIndex : UInt16) (source : VirtqueueDescriptorChainError)
  | noDescriptorChainToUndo
deriving DecidableEq, Repr

/-- The header, the slots, and the event word. -/
def availableRingSize (availableRing : Nat) (queueSize : UInt16) :
    Except VirtqueueAvailableRingError Nat := do
  let size := 4 + queueSize.toNat * 2 + 2
  let _ ← okOr (checkedAdd availableRing size) (.availableRingRangeOverflow availableRing queueSize)
  return size

/-- The checks on the placement of a ring. -/
def validatePlacement (descriptorTable availableRing : Nat) (queueSize : UInt16) :
    Except VirtqueueAvailableRingError Unit := do
  rejectIf (!isValidQueueSize queueSize) (.invalidQueueSize queueSize)
  rejectIf (descriptorTable % virtqueueDescriptorAlignment ≠ 0)
    (.unalignedDescriptorTable descriptorTable virtqueueDescriptorAlignment)
  rejectIf (availableRing % virtqueueAvailableRingAlignment ≠ 0)
    (.unalignedAvailableRing availableRing virtqueueAvailableRingAlignment)
  let _ ← availableRingSize availableRing queueSize
  return ()

structure VirtqueueAvailableRing where
  (descriptorTable availableRing : Nat)
  (queueSize nextAvail : UInt16)
  canUndoPop : Bool
  descriptorChainOptions : VirtqueueDescriptorChainOptions
  placed : validatePlacement descriptorTable availableRing queueSize = .ok ()
deriving DecidableEq, Repr

structure VirtqueueAvailableRingCheckpoint where
  nextAvail : UInt16
deriving DecidableEq, Repr

namespace VirtqueueAvailableRing

section
variable (descriptorTable availableRing : Nat)

def withNextAvail (queueSize nextAvail : UInt16) :
    Except VirtqueueAvailableRingError VirtqueueAvailableRing := do
  let placed ← attach (validatePlacement descriptorTable availableRing queueSize)
  return { descriptorTable, availableRing, queueSize, nextAvail
           canUndoPop := false
           descriptorChainOptions := { indirectDescriptors := false }
           placed := placed.property }

end

variable (ring : VirtqueueAvailableRing)

def withDescriptorChainOptions (options : VirtqueueDescriptorChainOptions) :
    VirtqueueAvailableRing :=
  { ring with descriptorChainOptions := options }

def checkpoint : VirtqueueAvailableRingCheckpoint := { nextAvail := ring.nextAvail }

def restoreCheckpoint (checkpoint : VirtqueueAvailableRingCheckpoint) : VirtqueueAvailableRing :=
  { ring with nextAvail := checkpoint.nextAvail, canUndoPop := false }

def availableRingRange : Except VirtqueueAvailableRingError GuestMemoryRange := do
  let size ← availableRingSize ring.availableRing ring.queueSize
  (GuestMemoryRange.new ring.availableRing size).mapError fun _ =>
    .availableRingRangeOverflow ring.availableRing ring.queueSize

section
variable (memory : GuestMemory) (reserved : Bool)

def validateAvailableRingRange : Except VirtqueueAvailableRingError Unit := do
  let range ← ring.availableRingRange
  (memory.validateMappedRange range).mapError
    (.availableRingAccess ring.availableRing ring.queueSize)

def offsetAddress (offset : Nat) : Except VirtqueueAvailableRingError Nat :=
  okOr (checkedAdd ring.availableRing offset)
    (.availableRingRangeOverflow ring.availableRing ring.queueSize)

def entryAddress (ringIndex : UInt16) : Except VirtqueueAvailableRingError Nat :=
  ring.offsetAddress (ringIndex.toNat * 2 + 4)

def readRingU16 (address : Nat) : Except VirtqueueAvailableRingError UInt16 :=
  (readU16 memory address).mapError (.availableRingAccess ring.availableRing ring.queueSize)

/-- The index which the driver has published up to. -/
def loadAvailableIndex : Except VirtqueueAvailableRingError UInt16 := do
  let address ← ring.offsetAddress 2
  ring.readRingU16 memory address

/-- The number of published heads which the device has not popped. -/
def loadAvailableLen : Except VirtqueueAvailableRingError UInt16 := do
  let availableIndex ← ring.loadAvailableIndex memory
  let availableLen := availableIndex - ring.nextAvail
  rejectIf (ring.queueSize < availableLen)
    (.availableRingLengthTooLarge ring.queueSize availableLen)
  return availableLen

/-- The chain whose head stands in the slot of an index. -/
def readChainAt (index : UInt16) (reserved : Bool) :
    Except VirtqueueAvailableRingError VirtqueueDescriptorChain := do
  let address ← ring.entryAddress (index % ring.queueSize)
  let headIndex ← ring.readRingU16 memory address
  (readDescriptorChainWithOptions memory ring.descriptorTable ring.queueSize headIndex
    ring.descriptorChainOptions reserved).mapError (.descriptorChain headIndex)

/-- What a pop finds before it moves the cursor. -/
def nextDescriptorChain : Except VirtqueueAvailableRingError (Option VirtqueueDescriptorChain) := do
  (validateDescriptorTableRange memory ring.descriptorTable ring.queueSize).mapError
    .descriptorTable
  ring.validateAvailableRingRange memory
  let availableLen ← ring.loadAvailableLen memory
  if availableLen = 0 then return none
  else
    let chain ← ring.readChainAt memory ring.nextAvail reserved
    return some chain

def popDescriptorChain :
    Except VirtqueueAvailableRingError (Option VirtqueueDescriptorChain) × VirtqueueAvailableRing :=
  match ring.nextDescriptorChain memory reserved with
  | .ok (some chain) =>
    (.ok (some chain), { ring with nextAvail := ring.nextAvail + 1, canUndoPop := true })
  | other => (other, ring)

end

def undoPopDescriptorChain : Except VirtqueueAvailableRingError Unit × VirtqueueAvailableRing :=
  if ring.canUndoPop then
    (.ok (), { ring with nextAvail := ring.nextAvail - 1, canUndoPop := false })
  else (.error .noDescriptorChainToUndo, ring)

end VirtqueueAvailableRing

def virtqueueUsedRingAlignment : Nat := 4

inductive VirtqueueUsedRingError where
  | invalidQueueSize (queueSize : UInt16)
  | unalignedUsedRing (usedRing alignment : Nat)
  | invalidDescriptorHead (descriptorHead queueSize : UInt16)
  | invalidElementCount (elementCount : Nat) (queueSize : UInt16)
  | usedRingRangeOverflow (usedRing : Nat) (queueSize : UInt16)
  | usedRingAccess (usedRing : Nat) (queueSize : UInt16) (source : GuestMemoryAccessError)
deriving DecidableEq, Repr

inductive VirtqueueNotificationSuppression where
  | disabled
  | eventIdx (usedEvent availEvent : UInt16)
deriving DecidableEq, Repr

structure VirtqueueUsedRingPublication where
  needsQueueInterrupt : Bool
deriving DecidableEq, Repr

def virtqueueEventIdxNeedsNotification (oldUsed newUsed usedEvent : UInt16) : Bool :=
  newUsed - usedEvent - 1 < newUsed - oldUsed

section
variable (usedRing : Nat) (queueSize : UInt16)

/-- The header, the elements, and the event word. -/
def usedRingSize : Except VirtqueueUsedRingError Nat := do
  let size := 4 + queueSize.toNat * 8 + 2
  let _ ← okOr (checkedAdd usedRing size) (.usedRingRangeOverflow usedRing queueSize)
  return size

/-- The checks on the placement of a used ring. -/
def validateUsedPlacement : Except VirtqueueUsedRingError Unit := do
  rejectIf (!isValidQueueSize queueSize) (.invalidQueueSize queueSize)
  rejectIf (usedRing % virtqueueUsedRingAlignment ≠ 0)
    (.unalignedUsedRing usedRing virtqueueUsedRingAlignment)
  let _ ← usedRingSize usedRing queueSize
  return ()

end

structure VirtqueueUsedRing where
  usedRing : Nat
  (queueSize nextUsed : UInt16)
  placed : validateUsedPlacement usedRing queueSize = .ok ()
deriving DecidableEq, Repr

namespace VirtqueueUsedRing

variable (ring : VirtqueueUsedRing)

def usedRingRange : Except VirtqueueUsedRingError GuestMemoryRange := do
  let size ← usedRingSize ring.usedRing ring.queueSize
  (GuestMemoryRange.new ring.usedRing size).mapError fun _ =>
    .usedRingRangeOverflow ring.usedRing ring.queueSize

variable (memory : GuestMemory) (offset : Nat) (elements : List (UInt16 × UInt32))

def validateMapped : Except VirtqueueUsedRingError Unit := do
  let range ← ring.usedRingRange
  (memory.validateMappedRange range).mapError (.usedRingAccess ring.usedRing ring.queueSize)

def offsetAddress : Except VirtqueueUsedRingError Nat :=
  okOr (checkedAdd ring.usedRing offset) (.usedRingRangeOverflow ring.usedRing ring.queueSize)

/-- Store bytes at an offset of the ring. -/
def storeAt (bytes : List UInt8) : Except VirtqueueUsedRingError Unit × GuestMemory :=
  match ring.offsetAddress offset with
  | .error error => (.error error, memory)
  | .ok address =>
    match memory.writeSlice bytes address with
    | (.error source, memory) => (.error (.usedRingAccess ring.usedRing ring.queueSize source), memory)
    | (.ok (), memory) => (.ok (), memory)

/-- The elements of a publication, from the slot of the next element on. -/
def writeElements (memory : GuestMemory) :
    (elementIndex : UInt16) → List (UInt16 × UInt32) →
      Except VirtqueueUsedRingError Unit × GuestMemory
  | _, [] => (.ok (), memory)
  | elementIndex, (descriptorHead, len) :: elements =>
    let ringIndex := (ring.nextUsed + elementIndex) % ring.queueSize
    match ring.storeAt memory (ringIndex.toNat * 8 + 4)
        (leBytes 4 descriptorHead.toNat ++ leBytes 4 len.toNat) with
    | (.error error, memory) => (.error error, memory)
    | (.ok (), memory) => writeElements memory (elementIndex + 1) elements

/-- Whether to interrupt, after the event word is stored where it is in use. -/
def writeSuppression (nextUsed : UInt16) :
    VirtqueueNotificationSuppression → Except VirtqueueUsedRingError Bool × GuestMemory
  | .disabled => (.ok true, memory)
  | .eventIdx usedEvent availEvent =>
    match ring.storeAt memory (ring.queueSize.toNat * 8 + 4) (leBytes 2 availEvent.toNat) with
    | (.error error, memory) => (.error error, memory)
    | (.ok (), memory) =>
      (.ok (virtqueueEventIdxNeedsNotification ring.nextUsed nextUsed usedEvent), memory)

def validatePublication : Except VirtqueueUsedRingError Unit := do
  rejectIf (elements.isEmpty || ring.queueSize.toNat < elements.length)
    (.invalidElementCount elements.length ring.queueSize)
  elements.forM fun element =>
    rejectIf (¬ element.1 < ring.queueSize) (.invalidDescriptorHead element.1 ring.queueSize)
  ring.validateMapped memory

/-- The elements become visible with the store of the index, which comes last. -/
def publishUsedElementsWithNotification (suppression : VirtqueueNotificationSuppression) :
    Except VirtqueueUsedRingError VirtqueueUsedRingPublication × GuestMemory × VirtqueueUsedRing :=
  match ring.validatePublication memory elements with
  | .error error => (.error error, memory, ring)
  | .ok () =>
    match ring.writeElements memory 0 elements with
    | (.error error, memory) => (.error error, memory, ring)
    | (.ok (), memory) =>
      let nextUsed := ring.nextUsed + UInt16.ofNat elements.length
      match ring.writeSuppression memory nextUsed suppression with
      | (.error error, memory) => (.error error, memory, ring)
      | (.ok needsQueueInterrupt, memory) =>
        match ring.storeAt memory 2 (leBytes 2 nextUsed.toNat) with
        | (.error error, memory) => (.error error, memory, ring)
        | (.ok (), memory) => (.ok ⟨needsQueueInterrupt⟩, memory, { ring with nextUsed })

end VirtqueueUsedRing
end Bangbang.Virtio
