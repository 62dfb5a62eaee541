import Bangbang.Base.Action
import Bangbang.Base.Table
import Bangbang.Memory.Range

/-!
# The MMIO dispatcher

A bus keeps the published regions in the order of their addresses, and a dispatcher has a
bus, the published handlers by region identifier, and a record for each owned
registration. An unpublished registration keeps its handler in its record. The handlers
are of any type; `HandlerBehaviour` says what a read and a write do to one. The provenance
of dispatchers and owners, which the source compares by pointer, is a number. Whether the
lists of a registration could be reserved is an argument of the call. The guest logger is
left out.
-/

namespace Bangbang.Mmio

open Memory

abbrev MmioRegionId := BitVec 64

structure MmioRegion where
  id : MmioRegionId
  range : GuestMemoryRange
deriving DecidableEq

structure MmioRegionRequest where
  (start size : Nat)
deriving DecidableEq

structure MmioAccess where
  region : MmioRegion
  range : GuestMemoryRange
  offset : Nat
deriving DecidableEq

def MmioAccess.regionId (access : MmioAccess) : MmioRegionId := access.region.id

inductive MmioBusError where
  | leasedRegionId (regionId : MmioRegionId)
  | invalidRegionRange (start size : Nat) (source : GuestMemoryError)
  | invalidAccessRange (start size : Nat) (source : GuestMemoryError)
  | overlappingRegion (existing new : MmioRegion)
  | unownedAccess (range : GuestMemoryRange)
deriving DecidableEq

def MmioRegion.new (id : MmioRegionId) (start size : Nat) : Except GuestMemoryError MmioRegion := do
  return { id, range := ← GuestMemoryRange.new start size }

def rangeContainsRange (container candidate : GuestMemoryRange) : Bool :=
  container.start ≤ candidate.start && candidate.endExclusive ≤ container.endExclusive

def rejectOverlap (existing : Option MmioRegion) (new : MmioRegion) : Except MmioBusError Unit :=
  match existing with
  | some existing =>
    rejectIf (existing.range.overlaps new.range) (.overlappingRegion existing new)
  | none => .ok ()

structure MmioBus where
  regions : List MmioRegion
deriving DecidableEq

namespace MmioBus

variable (bus : MmioBus)

/-- The number of leading regions which pass a test. -/
def partitionPoint (test : MmioRegion → Bool) : Nat := (bus.regions.takeWhile test).length

def insert (id : MmioRegionId) (start size : Nat) : Except MmioBusError (MmioBus × MmioRegion) := do
  let region ← (MmioRegion.new id start size).mapError (.invalidRegionRange start size)
  let insertionIndex := bus.partitionPoint fun existing =>
    existing.range.start < region.range.start
  rejectOverlap ((checkedSub insertionIndex 1).bind (bus.regions[·]?)) region
  rejectOverlap bus.regions[insertionIndex]? region
  return (⟨bus.regions.insertIdx insertionIndex region⟩, region)

def lookup (start size : Nat) : Except MmioBusError MmioAccess := do
  let accessRange ← (GuestMemoryRange.new start size).mapError (.invalidAccessRange start size)
  let candidateIndex ← okOr
    (checkedSub (bus.partitionPoint fun region => region.range.start ≤ accessRange.start) 1)
    (.unownedAccess accessRange)
  let region ← okOr bus.regions[candidateIndex]? (.unownedAccess accessRange)
  rejectIf (¬ rangeContainsRange region.range accessRange) (.unownedAccess accessRange)
  return { region, range := accessRange, offset := accessRange.start - region.range.start }

section
variable (regionId : MmioRegionId) (regions : List MmioRegion)

def containsExactRegions : Bool :=
  (bus.regions.filter fun region => region.id = regionId).length = regions.length ∧
    regions.all fun candidate => bus.regions.any fun region => region = candidate

def removeExactRegions : MmioBus :=
  ⟨bus.regions.filter fun region => ¬ regions.any fun candidate => candidate = region⟩

/-- Some published region has the identifier. -/
def hasRegionId : Bool := bus.regions.any fun region => region.id = regionId

end

/-- Insert regions one after the other; a failure names the position of the request. -/
def insertAll (regionId : MmioRegionId) :
    MmioBus → Nat → List MmioRegionRequest →
      Except (Nat × MmioBusError) (MmioBus × List MmioRegion)
  | bus, _, [] => .ok (bus, [])
  | bus, index, request :: requests => do
      let (bus, region) ← (bus.insert regionId request.start request.size).mapError (index, ·)
      let (bus, regions) ← insertAll regionId bus (index + 1) requests
      return (bus, region :: regions)

end MmioBus

inductive MmioOperationKind where
  | read
  | write
deriving DecidableEq

def maxMmioAccessBytes : Nat := 8

/-- The bytes of an access, of a length which the machine supports. -/
structure MmioAccessBytes where
  bytes : List UInt8
  supported : bytes.length = 1 ∨ bytes.length = 2 ∨ bytes.length = 4 ∨
    bytes.length = maxMmioAccessBytes
deriving DecidableEq

def MmioAccessBytes.len (data : MmioAccessBytes) : Nat := data.bytes.length

inductive MmioOperation where
  | read (access : MmioAccess) (data : MmioAccessBytes)
  | write (access : MmioAccess) (data : MmioAccessBytes)
deriving DecidableEq

def MmioOperation.access : MmioOperation → MmioAccess
  | .read access _ | .write access _ => access

structure MmioHandlerError where
  message : String
deriving DecidableEq

/-- What a handler answers and what becomes of it. -/
structure HandlerBehaviour (H : Type) where
  read : H → MmioAccess → Except MmioHandlerError MmioAccessBytes × H
  write : H → MmioAccess → MmioAccessBytes → Except MmioHandlerError Unit × H

inductive MmioDispatchOutcome where
  | read (data : MmioAccessBytes)
  | write
deriving DecidableEq

inductive MmioDispatchError where
  | leasedHandler (regionId : MmioRegionId)
  | duplicateHandler (regionId : MmioRegionId)
  | missingHandler (regionId : MmioRegionId)
  | unregisteredAccess (range : GuestMemoryRange) (regionId : MmioRegionId) (source : MmioBusError)
  | accessMismatch (range : GuestMemoryRange) (expectedRegionId actualRegionId : MmioRegionId)
  | handlerFailed (regionId : MmioRegionId) (kind : MmioOperationKind) (source : MmioHandlerError)
  | readDataLengthMismatch (access : MmioAccess) (expected actual : Nat)
deriving DecidableEq

inductive MmioRegistrationError where
  | emptyRegionBatch
  | existingHandler (regionId : MmioRegionId)
  | existingRegionId (regionId : MmioRegionId)
  | generationExhausted
  | regionMetadataAllocation
  | region (index : Nat) (source : MmioBusError)
deriving DecidableEq

inductive MmioRegistrationReleaseError where
  | wrongDispatcher
  | wrongOwner
  | staleLease (regionId : MmioRegionId)
  | registrationMismatch (regionId : MmioRegionId)
deriving DecidableEq

structure MmioRegistrationLease where
  (dispatcher owner generation : Nat)
  regionId : MmioRegionId
  regions : List MmioRegion
deriving DecidableEq

structure MmioRegistrationRecord (H : Type) where
  owner : Nat
  regionId : MmioRegionId
  regions : List MmioRegion
  suspendedHandler : Option H

/-- Whether the two lists of a registration could be reserved. -/
structure RegionReservations where
  (registered record : Bool)
deriving DecidableEq

structure MmioRegistrationPlan where
  bus : MmioBus
  (generation nextGeneration : Nat)
  (regions recordRegions : List MmioRegion)

structure MmioDispatcher (H : Type) where
  bus : MmioBus
  handlers : Table MmioRegionId H
  (provenance nextRegistrationGeneration : Nat)
  registrations : Table Nat (MmioRegistrationRecord H)

namespace MmioDispatcher

variable {H : Type}

def new (provenance : Nat) : MmioDispatcher H where
  bus := ⟨[]⟩
  handlers := ∅
  provenance := provenance
  nextRegistrationGeneration := 0
  registrations := ∅

variable (reserves : RegionReservations) (dispatcher : MmioDispatcher H) (owner : Nat)
  (lease : MmioRegistrationLease) (regionId : MmioRegionId)

def hasLeasedRegionId : Bool :=
  dispatcher.registrations.values.any fun registration => registration.regionId = regionId

def insertRegion (id : MmioRegionId) (start size : Nat) :
    Action (MmioDispatcher H) MmioBusError MmioRegion := do
  let dispatcher ← get
  .check (rejectIf (dispatcher.hasLeasedRegionId id) (.leasedRegionId id))
  let (bus, region) ← .check (dispatcher.bus.insert id start size)
  modify fun dispatcher => { dispatcher with bus }
  return region

def registerHandler (handler : H) : Action (MmioDispatcher H) MmioDispatchError Unit := do
  let dispatcher ← get
  .check (rejectIf (dispatcher.hasLeasedRegionId regionId) (.leasedHandler regionId))
  .check (rejectIf (dispatcher.handlers.lookup regionId).isSome (.duplicateHandler regionId))
  modify fun dispatcher => { dispatcher with
    handlers := dispatcher.handlers.insert regionId handler }

def planOwnedHandler (requests : List MmioRegionRequest) :
    Except MmioRegistrationError MmioRegistrationPlan := do
  rejectIf requests.isEmpty .emptyRegionBatch
  rejectIf (dispatcher.handlers.lookup regionId).isSome (.existingHandler regionId)
  rejectIf (dispatcher.bus.hasRegionId regionId) (.existingRegionId regionId)
  let nextGeneration ← okOr (checkedAdd dispatcher.nextRegistrationGeneration 1)
    .generationExhausted
  rejectIf (reserves.registered = false) .regionMetadataAllocation
  let (bus, registered) ← (dispatcher.bus.insertAll regionId 0 requests).mapError
    fun (index, source) => MmioRegistrationError.region index source
  let regions := registered.mergeSort fun first second => first.range.start ≤ second.range.start
  rejectIf (reserves.record = false) .regionMetadataAllocation
  return {
    bus
    generation := dispatcher.nextRegistrationGeneration
    nextGeneration
    regions
    recordRegions := regions }

def registerOwnedHandler (requests : List MmioRegionRequest) (handler : H) :
    Action (MmioDispatcher H) MmioRegistrationError MmioRegistrationLease := do
  let dispatcher ← get
  let plan ← .check (dispatcher.planOwnedHandler reserves regionId requests)
  modify fun dispatcher => { dispatcher with bus := plan.bus }
  modify fun dispatcher => { dispatcher with
    handlers := dispatcher.handlers.insert regionId handler }
  modify fun dispatcher => { dispatcher with
    registrations := dispatcher.registrations.insert plan.generation
      { owner, regionId, regions := plan.recordRegions, suspendedHandler := none } }
  modify fun dispatcher => { dispatcher with nextRegistrationGeneration := plan.nextGeneration }
  return {
    dispatcher := dispatcher.provenance
    owner
    generation := plan.generation
    regionId
    regions := plan.regions }

/-- The record of a lease, when the lease is of this dispatcher and owner. -/
def ownedRecord (dispatcher : MmioDispatcher H) (owner : Nat) (lease : MmioRegistrationLease) :
    Except MmioRegistrationReleaseError (MmioRegistrationRecord H) := do
  rejectIf (dispatcher.provenance ≠ lease.dispatcher) .wrongDispatcher
  rejectIf (owner ≠ lease.owner) .wrongOwner
  let record ← okOr (dispatcher.registrations.lookup lease.generation) (.staleLease lease.regionId)
  rejectIf (record.owner ≠ owner) .wrongOwner
  return record

def unpublishOwnedHandler (owner : Nat) (lease : MmioRegistrationLease) :
    Action (MmioDispatcher H) MmioRegistrationReleaseError Unit := do
  let dispatcher ← get
  let record ← .check (dispatcher.ownedRecord owner lease)
  .check (rejectIf (record.regionId ≠ lease.regionId ∨ record.regions ≠ lease.regions)
    (.registrationMismatch lease.regionId))
  .check (rejectIf (record.suspendedHandler.isSome ∨
    ¬ (dispatcher.handlers.lookup record.regionId).isSome ∨
    ¬ dispatcher.bus.containsExactRegions record.regionId record.regions)
    (.registrationMismatch lease.regionId))
  modify fun dispatcher => { dispatcher with
    bus := dispatcher.bus.removeExactRegions record.regions }
  let removedHandler ← .check (okOr (dispatcher.handlers.lookup record.regionId)
    (.registrationMismatch lease.regionId))
  modify fun dispatcher => { dispatcher with
    handlers := dispatcher.handlers.erase record.regionId }
  modify fun dispatcher => { dispatcher with
    registrations := dispatcher.registrations.insert lease.generation
      { record with suspendedHandler := some removedHandler } }

/-- The checks which a suspended registration has to pass. -/
def suspendedRecord (dispatcher : MmioDispatcher H) (owner : Nat) (lease : MmioRegistrationLease) :
    Except MmioRegistrationReleaseError (MmioRegistrationRecord H) := do
  let record ← dispatcher.ownedRecord owner lease
  rejectIf (record.regionId ≠ lease.regionId ∨ record.regions ≠ lease.regions ∨
    record.suspendedHandler.isNone ∨ (dispatcher.handlers.lookup record.regionId).isSome ∨
    dispatcher.bus.hasRegionId record.regionId) (.registrationMismatch lease.regionId)
  return record

/-- Put the regions of a registration back on a bus, one after the other. -/
def reinsertRegions (regionId : MmioRegionId) :
    List MmioRegion → MmioBus → Except MmioRegistrationReleaseError MmioBus
  | [], bus => .ok bus
  | region :: regions, bus => do
      let (bus, _) ← (bus.insert region.id region.range.start region.range.size).mapError
        fun _ => .registrationMismatch regionId
      reinsertRegions regionId regions bus

def republishOwnedHandler (owner : Nat) (lease : MmioRegistrationLease) :
    Action (MmioDispatcher H) MmioRegistrationReleaseError Unit := do
  let dispatcher ← get
  let record ← .check (dispatcher.suspendedRecord owner lease)
  let bus ← .check (reinsertRegions lease.regionId lease.regions dispatcher.bus)
  let handler ← .check (okOr record.suspendedHandler (.registrationMismatch lease.regionId))
  modify fun dispatcher => { dispatcher with
    registrations := dispatcher.registrations.insert lease.generation
      { record with suspendedHandler := none } }
  modify fun dispatcher => { dispatcher with bus }
  modify fun dispatcher => { dispatcher with
    handlers := dispatcher.handlers.insert lease.regionId handler }

def releaseUnpublishedHandler : Action (MmioDispatcher H) MmioRegistrationReleaseError Unit := do
  let dispatcher ← get
  let _ ← .check (dispatcher.suspendedRecord owner lease)
  modify fun dispatcher => { dispatcher with
    registrations := dispatcher.registrations.erase lease.generation }

def releaseOwnedHandler : Action (MmioDispatcher H) MmioRegistrationReleaseError Unit := do
  unpublishOwnedHandler owner lease
  try releaseUnpublishedHandler owner lease
  catch source =>
    try republishOwnedHandler owner lease catch _ => pure ()
    throw source

end MmioDispatcher

namespace MmioDispatcher

variable {H : Type}

def validateOperationAccess (dispatcher : MmioDispatcher H) (access : MmioAccess) :
    Except MmioDispatchError Unit := do
  let resolved ← (dispatcher.bus.lookup access.range.start access.range.size).mapError
    (.unregisteredAccess access.range access.regionId)
  rejectIf (resolved ≠ access) (.accessMismatch access.range resolved.regionId access.regionId)

def dispatch (behaviour : HandlerBehaviour H) (operation : MmioOperation) :
    Action (MmioDispatcher H) MmioDispatchError MmioDispatchOutcome := do
  let regionId := operation.access.regionId
  let dispatcher ← get
  .check (dispatcher.validateOperationAccess operation.access)
  let handler ← .check (okOr (dispatcher.handlers.lookup regionId) (.missingHandler regionId))
  match operation with
  | .read access data => do
      let (result, handler) := behaviour.read handler access
      modify fun dispatcher => { dispatcher with
        handlers := dispatcher.handlers.insert regionId handler }
      let answer ← .check (result.mapError (.handlerFailed regionId .read))
      .check (rejectIf (answer.len ≠ data.len) (.readDataLengthMismatch access data.len answer.len))
      return .read answer
  | .write access data => do
      let (result, handler) := behaviour.write handler access data
      modify fun dispatcher => { dispatcher with
        handlers := dispatcher.handlers.insert regionId handler }
      .check (result.mapError (.handlerFailed regionId .write))
      return .write

end MmioDispatcher
end Bangbang.Mmio
