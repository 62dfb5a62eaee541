import Bangbang.Base.Scene
import Bangbang.Virtio.Queue

/-!
# Virtqueues while the guest runs

A device works on a virtqueue while other processors keep storing to guest memory. Here every
single load and store of the queue is an access of its own, with a turn of the guest before it;
the checks and the order of the accesses are those of `Virtio.Queue`.

The guest memory is part of a larger shared state, in which a store may be noticed elsewhere;
`MemoryView` says where the memory is and what becomes of the state when it is stored to. Every
store of the device which succeeds is written down there with its address and its bytes, and
`Records` is the rule for assertions about these stores.
-/

namespace Bangbang.Virtio

open Minds
open Bangbang.Action (mapError check)
open Memory

/-- Guest memory as a part of what is shared. -/
structure MemoryView (μ : Type) where
  memory : μ → GuestMemory
  write : μ → GuestMemory → μ
  /-- The device has stored these bytes at this address. -/
  record : μ → Nat → List UInt8 → μ

/-- A device's program next to a running guest. -/
abbrev Live (μ σ ε : Type) := Action (Scene μ σ) ε

namespace MemoryView

variable {μ σ : Type} (view : MemoryView μ)

/-- Bytes are read after the turn of the others. -/
def load (address width : Nat) : Live μ σ GuestMemoryAccessError (List UInt8) :=
  observe fun shared => readBytes (view.memory shared) address width

/-- Bytes are written after the turn of the others. -/
def store (bytes : List UInt8) (address : Nat) : Live μ σ GuestMemoryAccessError Unit :=
  perform fun shared =>
    match (view.memory shared).writeSlice bytes address with
    | (.ok (), memory) => (.ok (), view.record (view.write shared memory) address bytes)
    | (.error error, memory) => (.error error, view.write shared memory)

/-- A look at the memory's regions. -/
def inspect {ε α : Type} (read : GuestMemory → Except ε α) : Live μ σ ε α :=
  observe fun shared => read (view.memory shared)

/-! ## Descriptor chains -/

/-- The fields of a descriptor. -/
def descriptorOf (index : UInt16) (bytes : List UInt8) : VirtqueueDescriptor :=
  let flags := UInt16.ofNat (ofLe ((bytes.drop 12).take 2))
  let next := UInt16.ofNat (ofLe ((bytes.drop 14).take 2))
  { index, flags
    address := ofLe (bytes.take 8)
    len := ofLe ((bytes.drop 8).take 4)
    nextIndex := if flags &&& 1 ≠ 0 then some next else none }

section
variable (descriptorTable : Nat) (ring : VirtqueueUsedRing)

def readDescriptor (queueSize index : UInt16) :
    Live μ σ VirtqueueDescriptorChainError VirtqueueDescriptor := do
  let address ← check (descriptorAddress descriptorTable queueSize index)
  let bytes ← mapError (.descriptorRead index) (view.load address virtqueueDescriptorSize)
  return descriptorOf index bytes

def walkDescriptors (descriptorTable : Nat) (tableSize headIndex queueSize : UInt16)
    (onIndirect : VirtqueueDescriptor → List VirtqueueDescriptor →
      Live μ σ VirtqueueDescriptorChainError VirtqueueDescriptorChain) :
    (limit : Nat) → (currentIndex : UInt16) → List VirtqueueDescriptor →
      Live μ σ VirtqueueDescriptorChainError VirtqueueDescriptorChain
  | 0, _, _ => throw (.descriptorChainTooLong headIndex queueSize)
  | limit + 1, currentIndex, descriptors => do
    let descriptor ← view.readDescriptor descriptorTable tableSize currentIndex
    if descriptor.isIndirect then onIndirect descriptor descriptors
    else
      match descriptor.nextIndex with
      | none => return { headIndex, descriptors := descriptors ++ [descriptor] }
      | some index =>
        if index < tableSize then
          walkDescriptors descriptorTable tableSize headIndex queueSize onIndirect limit index
            (descriptors ++ [descriptor])
        else throw (.invalidNextIndex currentIndex index tableSize)

def readIndirectDescriptorChain (headIndex queueSize : UInt16)
    (options : VirtqueueDescriptorChainOptions) (descriptor : VirtqueueDescriptor)
    (descriptors : List VirtqueueDescriptor) :
    Live μ σ VirtqueueDescriptorChainError VirtqueueDescriptorChain := do
  check (rejectIf (!options.indirectDescriptors) (.unsupportedIndirectDescriptor descriptor.index))
  check (rejectIf descriptor.hasNext (.invalidIndirectDescriptorWithNext descriptor.index))
  let tableSize ← view.inspect fun memory =>
    validateIndirectDescriptorTable memory headIndex descriptor queueSize
  check (rejectIf (queueSize.toNat < descriptors.length + tableSize.toNat)
    (.descriptorChainTooLong headIndex queueSize))
  view.walkDescriptors descriptor.address tableSize headIndex queueSize
    (fun nested _ => throw (.nestedIndirectDescriptor nested.index)) tableSize.toNat 0 descriptors

def readDescriptorChainWithOptions (queueSize headIndex : UInt16)
    (options : VirtqueueDescriptorChainOptions) (reserved : Bool) :
    Live μ σ VirtqueueDescriptorChainError VirtqueueDescriptorChain := do
  check (validateQueueSize queueSize)
  check (validateDescriptorTableAlignment descriptorTable)
  view.inspect fun memory => validateDescriptorTableRange memory descriptorTable queueSize
  check (rejectIf (¬ headIndex < queueSize) (.invalidHeadIndex headIndex queueSize))
  check (rejectIf (!reserved) (.descriptorChainAllocationFailed queueSize))
  view.walkDescriptors descriptorTable queueSize headIndex queueSize
    (view.readIndirectDescriptorChain headIndex queueSize options) queueSize.toNat headIndex []

/-! ## The available ring -/

def loadAvailableIndex (ring : VirtqueueAvailableRing) :
    Live μ σ VirtqueueAvailableRingError UInt16 :=
  observe fun shared => ring.loadAvailableIndex (view.memory shared)

/-- How many published heads are not yet popped, from an index which was just loaded. -/
def availableLen (ring : VirtqueueAvailableRing) (availableIndex : UInt16) :
    Except VirtqueueAvailableRingError UInt16 := do
  let availableLen := availableIndex - ring.nextAvail
  rejectIf (ring.queueSize < availableLen)
    (.availableRingLengthTooLarge ring.queueSize availableLen)
  return availableLen

def readChainAt (ring : VirtqueueAvailableRing) (index : UInt16) (reserved : Bool) :
    Live μ σ VirtqueueAvailableRingError VirtqueueDescriptorChain := do
  let address ← check (ring.entryAddress (index % ring.queueSize))
  let headIndex ← observe fun shared => ring.readRingU16 (view.memory shared) address
  mapError (.descriptorChain headIndex) (view.readDescriptorChainWithOptions ring.descriptorTable
    ring.queueSize headIndex ring.descriptorChainOptions reserved)

/-- A popped chain, with the ring after it. -/
def popDescriptorChain (ring : VirtqueueAvailableRing) (reserved : Bool) :
    Live μ σ VirtqueueAvailableRingError
      (Option (VirtqueueDescriptorChain × VirtqueueAvailableRing)) := do
  mapError .descriptorTable <| view.inspect fun memory =>
    validateDescriptorTableRange memory ring.descriptorTable ring.queueSize
  view.inspect ring.validateAvailableRingRange
  let availableIndex ← view.loadAvailableIndex ring
  let availableLen ← check (availableLen ring availableIndex)
  if availableLen = 0 then return none
  else
    let chain ← view.readChainAt ring ring.nextAvail reserved
    return some (chain, { ring with nextAvail := ring.nextAvail + 1, canUndoPop := true })

/-- The number of heads which are published and not popped. -/
def availableDescriptorCount (ring : VirtqueueAvailableRing) :
    Live μ σ VirtqueueAvailableRingError UInt16 := do
  view.inspect ring.validateAvailableRingRange
  let availableIndex ← view.loadAvailableIndex ring
  check (availableLen ring availableIndex)

/-! ## The used ring -/

/-- A store at an offset of the ring. -/
def storeAt (offset : Nat) (bytes : List UInt8) : Live μ σ VirtqueueUsedRingError Unit := do
  let address ← check (ring.offsetAddress offset)
  mapError (.usedRingAccess ring.usedRing ring.queueSize) (view.store bytes address)

def writeElements (ring : VirtqueueUsedRing) :
    (elementIndex : UInt16) → List (UInt16 × UInt32) → Live μ σ VirtqueueUsedRingError Unit
  | _, [] => pure ()
  | elementIndex, (descriptorHead, len) :: elements => do
    let ringIndex := (ring.nextUsed + elementIndex) % ring.queueSize
    view.storeAt ring (ringIndex.toNat * 8 + 4)
      (leBytes 4 descriptorHead.toNat ++ leBytes 4 len.toNat)
    writeElements ring (elementIndex + 1) elements

def writeSuppression (nextUsed : UInt16) :
    VirtqueueNotificationSuppression → Live μ σ VirtqueueUsedRingError Bool
  | .disabled => pure true
  | .eventIdx usedEvent availEvent => do
    view.storeAt ring (ring.queueSize.toNat * 8 + 4) (leBytes 2 availEvent.toNat)
    pure (virtqueueEventIdxNeedsNotification ring.nextUsed nextUsed usedEvent)

def publishUsedElementsWithNotification (elements : List (UInt16 × UInt32))
    (suppression : VirtqueueNotificationSuppression) :
    Live μ σ VirtqueueUsedRingError (VirtqueueUsedRingPublication × VirtqueueUsedRing) := do
  view.inspect fun memory => ring.validatePublication memory elements
  view.writeElements ring 0 elements
  let nextUsed := ring.nextUsed + UInt16.ofNat elements.length
  let needsQueueInterrupt ← view.writeSuppression ring nextUsed suppression
  view.storeAt ring 2 (leBytes 2 nextUsed.toNat)
  return (⟨needsQueueInterrupt⟩, { ring with nextUsed })

def publishUsedElementWithNotification (descriptorHead : UInt16) (len : UInt32)
    (suppression : VirtqueueNotificationSuppression) :
    Live μ σ VirtqueueUsedRingError (VirtqueueUsedRingPublication × VirtqueueUsedRing) :=
  view.publishUsedElementsWithNotification ring [(descriptorHead, len)] suppression

end

/-! ## What the accesses keep -/

/-- An assertion which the others cannot break. -/
structure Kept (rely : μ → μ → Prop) (holds : μ → σ → Prop) : Prop where
  reflexive : ∀ shared, rely shared shared
  steady : Steady rely holds

section
variable {view} {rely : μ → μ → Prop} {holds : μ → σ → Prop}

/-- A program which only looks keeps what the others keep. -/
theorem Kept.looks (kept : Kept rely holds) {ε α : Type} {read} :
    Minds rely holds (observe read : Live μ σ ε α) fun _ => True :=
  Minds.observe kept.reflexive kept.steady fun _ _ _ => trivial

theorem Kept.readDescriptor (kept : Kept rely holds) (descriptorTable)
    (queueSize index) :
    Minds rely holds (view.readDescriptor descriptorTable queueSize index) fun _ => True := by
  refine (check fun _ _ => trivial).bind fun address _ => ?_
  exact kept.looks.mapError.bind fun bytes _ => .pure trivial

/-- What is known of a chain which was read from a head. -/
def ReadFrom (headIndex : UInt16) (chain : VirtqueueDescriptorChain) : Prop :=
  chain.headIndex = headIndex ∧ chain.descriptors ≠ []

section
variable (kept : Kept rely holds)
include kept

/-- A walk of a live table reads a chain of its head. -/
theorem Kept.walkDescriptors {descriptorTable tableSize headIndex queueSize onIndirect}
    (indirect : ∀ descriptor descriptors, Minds rely holds (onIndirect descriptor descriptors)
      (ReadFrom headIndex)) (limit) (currentIndex)
    (descriptors) :
    Minds rely holds (view.walkDescriptors descriptorTable tableSize headIndex queueSize onIndirect
      limit currentIndex descriptors) (ReadFrom headIndex) := by
  induction limit generalizing currentIndex descriptors with
  | zero => exact .throw
  | succ limit ih =>
    refine (kept.readDescriptor _ _ _).bind fun descriptor _ => ?_
    split
    · exact indirect _ _
    · split
      · exact .pure ⟨rfl, by simp⟩
      · split
        · exact ih _ _
        · exact .throw

theorem Kept.readIndirectDescriptorChain (headIndex queueSize)
    (options) (descriptor)
    (descriptors) :
    Minds rely holds (view.readIndirectDescriptorChain headIndex queueSize options descriptor
      descriptors) (ReadFrom headIndex) := by
  refine (check fun _ _ => trivial).bind fun _ _ => ?_
  refine (check fun _ _ => trivial).bind fun _ _ => ?_
  refine kept.looks.bind fun tableSize _ => ?_
  refine (check fun _ _ => trivial).bind fun _ _ => ?_
  exact kept.walkDescriptors (fun _ _ => .throw) _ _ _

/-- A chain of a live table is one of its head. -/
theorem Kept.readDescriptorChain (descriptorTable) (queueSize headIndex)
    (options) (reserved) :
    Minds rely holds (view.readDescriptorChainWithOptions descriptorTable queueSize headIndex
      options reserved) (ReadFrom headIndex) := by
  refine (check fun _ _ => trivial).bind fun _ _ => ?_
  refine (check fun _ _ => trivial).bind fun _ _ => ?_
  refine kept.looks.bind fun _ _ => ?_
  refine (check fun _ _ => trivial).bind fun _ _ => ?_
  refine (check fun _ _ => trivial).bind fun _ _ => ?_
  exact kept.walkDescriptors (kept.readIndirectDescriptorChain _ _ _) _ _ _

theorem Kept.readChainAt (ring) (index) (reserved) :
    Minds rely holds (view.readChainAt ring index reserved)
      fun chain => chain.descriptors ≠ [] := by
  refine (check fun _ _ => trivial).bind fun address _ => ?_
  refine kept.looks.bind fun headIndex _ => mapError ?_
  refine (kept.readDescriptorChain _ _ _ _ _).weaken (fun _ _ => id) ?_ fun _ _ _ => id
  exact fun chain _ _ ⟨⟨_, nonempty⟩, holds⟩ => ⟨nonempty, holds⟩

end

theorem availableLen_eq_ok {ring index len} (counted : availableLen ring index = .ok len) :
    len = index - ring.nextAvail := by
  simp only [availableLen, bind_eq_ok] at counted
  obtain ⟨_, -, counted⟩ := counted
  exact (Except.ok.inj counted).symm

/-- A pop loads the published index once. What is known when the index is found past the cursor,
`offered`, holds from there on. -/
theorem popDescriptorChain_amid (kept : Kept rely holds) {offered : μ → σ → Prop}
    (keptOffered : Kept rely offered)
    (weaker : ∀ shared own, offered shared own → holds shared own) (ring)
    (reserved)
    (finds : ∀ shared own index, holds shared own →
      ring.loadAvailableIndex (view.memory shared) = .ok index → index - ring.nextAvail ≠ 0 →
        offered shared own) :
    Amid rely holds (view.popDescriptorChain ring reserved)
      (fun popped shared own => match popped with
        | none => holds shared own
        | some (chain, next) => (chain.descriptors ≠ [] ∧
            next = { ring with nextAvail := ring.nextAvail + 1, canUndoPop := true }) ∧
            offered shared own)
      fun _ => holds := by
  refine Amid.bind kept.looks.mapError fun _ => Amid.and_pre fun _ => ?_
  refine Amid.bind kept.looks fun _ => Amid.and_pre fun _ => ?_
  have loads : Amid rely holds (view.loadAvailableIndex ring) (fun index shared own =>
      holds shared own ∧ (index - ring.nextAvail ≠ 0 → offered shared own)) fun _ => holds := by
    refine Amid.observe kept.reflexive (fun shared own next index starts relies isRead => ?_)
      fun _ _ _ _ starts relies _ => kept.steady _ _ _ starts relies
    have steady := kept.steady _ _ _ starts relies
    exact ⟨steady, finds next own index steady isRead⟩
  refine loads.bind fun index => ?_
  have counts : Amid rely
      (fun shared own => holds shared own ∧ (index - ring.nextAvail ≠ 0 → offered shared own))
      (Action.check (availableLen ring index) : Live μ σ VirtqueueAvailableRingError UInt16)
      (fun len shared own => holds shared own ∧ (len ≠ 0 → offered shared own))
      fun _ => holds := by
    refine Amid.check (fun len shared own counted known => ?_) fun _ _ _ _ known => known.1
    rw [availableLen_eq_ok counted]
    exact known
  refine counts.bind fun len => ?_
  by_cases empty : len = 0
  · rw [if_pos empty]
    exact .pure fun _ _ known => known.1
  · rw [if_neg empty]
    have reads : Amid rely (fun shared own => holds shared own ∧ (len ≠ 0 → offered shared own))
        (view.readChainAt ring ring.nextAvail reserved)
        (fun chain shared own => chain.descriptors ≠ [] ∧ offered shared own) fun _ => holds :=
      (keptOffered.readChainAt ring _ _).weaken (fun _ _ known => known.2 empty)
        (fun _ _ _ => id) fun _ => weaker
    exact reads.bind fun chain => .pure fun _ _ ⟨nonempty, known⟩ => ⟨⟨nonempty, rfl⟩, known⟩

/-! ## What the device stores -/

/-- An assertion about the stores of the device, which the others cannot break, and neither can a
store which is refused. -/
structure Records (view : MemoryView μ) (rely : μ → μ → Prop)
    (holds : List (Nat × List UInt8) → μ → σ → Prop) : Prop where
  reflexive : ∀ shared, rely shared shared
  steady : ∀ stores, Steady rely (holds stores)
  written : ∀ stores shared memory own, holds stores shared own →
    holds stores (view.write shared memory) own
  recorded : ∀ stores shared own address bytes, holds stores shared own →
    holds (stores ++ [(address, bytes)]) (view.record shared address bytes) own

variable {holds : List (Nat × List UInt8) → μ → σ → Prop} (records : view.Records rely holds)
  (stores : List (Nat × List UInt8))
include records

theorem Records.kept : Kept rely (holds stores) := ⟨records.reflexive, records.steady stores⟩

/-- A store is recorded. -/
theorem Records.store (bytes address) :
    Amid rely (holds stores) (view.store bytes address)
      (fun _ => holds (stores ++ [(address, bytes)])) fun _ => holds stores := by
  refine Amid.perform records.reflexive (fun shared own next value last starts relies done => ?_)
    fun shared own next error last starts relies done => ?_
  all_goals
    have steady := records.steady stores _ _ _ starts relies
    split at done <;> cases done
  · exact records.recorded _ _ _ _ _ (records.written _ _ _ _ steady)
  · exact records.written _ _ _ _ steady

variable (ring : VirtqueueUsedRing)

/-- A store at an offset of the ring is recorded. -/
theorem Records.storeAt (offset bytes) :
    Amid rely (holds stores) (view.storeAt ring offset bytes)
      (fun _ => holds (stores ++ [(ring.usedRing + offset, bytes)])) fun _ => holds stores := by
  refine Amid.check_bind (fun address located => ?_) fun _ _ _ _ => id
  rw [VirtqueueUsedRing.offsetAddress, okOr_eq_ok, checkedAdd_eq_some] at located
  obtain ⟨-, rfl⟩ := located
  exact Amid.mapError (records.store stores bytes _)

end
end MemoryView

namespace VirtqueueUsedRing

variable (ring : VirtqueueUsedRing)

/-- The next element of a used ring, as it stands in guest memory. -/
def elementStore (descriptorHead : UInt16) (len : UInt32) : Nat × List UInt8 :=
  (ring.usedRing + ((ring.nextUsed % ring.queueSize).toNat * 8 + 4),
    leBytes 4 descriptorHead.toNat ++ leBytes 4 len.toNat)

/-- The index of a used ring with one more element. -/
def indexStore : Nat × List UInt8 := (ring.usedRing + 2, leBytes 2 (ring.nextUsed + 1).toNat)

end VirtqueueUsedRing

/-- A publication stores the element, then the index, and moves the ring on. One which fails may
have stored the element. -/
theorem MemoryView.Records.publishUsedElement {μ σ : Type} {view : MemoryView μ}
    {rely : μ → μ → Prop} {holds : List (Nat × List UInt8) → μ → σ → Prop} {stores}
    (records : view.Records rely holds) (ring : VirtqueueUsedRing) (descriptorHead len) :
    Amid rely (holds stores)
      (view.publishUsedElementWithNotification ring descriptorHead len .disabled)
      (fun published shared own => published.2 = { ring with nextUsed := ring.nextUsed + 1 } ∧
        holds (stores ++ [ring.elementStore descriptorHead len, ring.indexStore]) shared own)
      fun _ shared own => ∃ begun, begun <+: [ring.elementStore descriptorHead len] ∧
        holds (stores ++ begun) shared own := by
  have unstored : ∀ shared own, holds stores shared own →
      ∃ begun, begun <+: [ring.elementStore descriptorHead len] ∧
        holds (stores ++ begun) shared own :=
    fun shared own known => ⟨[], List.nil_prefix, by simpa using known⟩
  refine Amid.bind ((records.kept stores).looks.weaken (fun _ _ => id) (fun _ _ _ known => known.2)
    fun _ => unstored) fun _ => ?_
  have element : Amid rely (holds stores)
      (view.writeElements ring 0 [(descriptorHead, len)] : Live μ σ VirtqueueUsedRingError Unit)
      (fun _ => holds (stores ++ [ring.elementStore descriptorHead len])) fun _ => holds stores := by
    rw [writeElements, UInt16.add_zero]
    exact (records.storeAt stores ring _ _).bind fun _ => .pure fun _ _ => id
  refine Amid.bind (element.weaken (fun _ _ => id) (fun _ _ _ => id) fun _ => unstored) fun _ => ?_
  refine Amid.bind (Amid.pure fun _ _ => id : Amid rely _ _
    (fun _ => holds (stores ++ [ring.elementStore descriptorHead len])) _) fun _ => ?_
  have index := records.storeAt (stores ++ [ring.elementStore descriptorHead len]) ring 2
    (leBytes 2 (ring.nextUsed + 1).toNat)
  refine Amid.bind (index.weaken (fun _ _ => id) (fun _ _ _ => id)
    fun _ shared own known => ⟨_, List.prefix_refl _, known⟩) fun _ => ?_
  exact .pure fun _ _ known => ⟨rfl, by simpa [VirtqueueUsedRing.indexStore] using known⟩

end Bangbang.Virtio
