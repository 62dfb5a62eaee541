import Bangbang.Base.Action
import Bangbang.Base.Table
import Bangbang.Memory.GuestMemory

/-!
# The PCI BAR allocator

An allocator hands out aligned power-of-two ranges of one address space. It keeps the
free ranges as a sorted list and the allocated ones in a table by generation; a lease
names its allocator, its generation and its range. The provenance of an allocator, which
the source compares by pointer, is a number. Whether a list could be reserved is an
argument of each call.
-/

namespace Bangbang.Pci

open Memory

def pciBarMinimumSize : Nat := 16

inductive PciBarAddressSpace where
  | memory32
  | memory64
deriving DecidableEq, Repr

structure PciBarLease where
  (allocator generation : Nat)
  addressSpace : PciBarAddressSpace
  range : GuestMemoryRange
deriving DecidableEq, Repr

structure PciBarAllocation where
  addressSpace : PciBarAddressSpace
  range : GuestMemoryRange
deriving DecidableEq, Repr

inductive PciBarAllocationError where
  | invalidSize (size : Nat)
  | addressOverflow
  | exhausted (size : Nat)
  | unalignedExactRange
  | exactRangeOutsideCapacity
  | exactRangeOccupied
  | generationExhausted
  | metadataAllocation
  | invalidRange (source : GuestMemoryError)
deriving DecidableEq, Repr

inductive PciBarReleaseError where
  | wrongAllocator
  | staleLease
  | leaseMismatch
  | allocatorStateMismatch
deriving DecidableEq, Repr

structure PciBarAllocator where
  provenance : Nat
  addressSpace : PciBarAddressSpace
  capacity : GuestMemoryRange
  free : List GuestMemoryRange
  allocations : Table Nat PciBarAllocation
  nextGeneration : Nat

def sortByStart (ranges : List GuestMemoryRange) : List GuestMemoryRange :=
  ranges.mergeSort fun first second => first.start ≤ second.start

/-- The first free range with room for an aligned block, and the block. -/
def selectFree (size : Nat) :
    List GuestMemoryRange → Except PciBarAllocationError (GuestMemoryRange × GuestMemoryRange)
  | [] => .error (.exhausted size)
  | range :: ranges => do
      let start ← okOr (alignUp range.start size) .addressOverflow
      let stop ← okOr (checkedAdd start size) .addressOverflow
      if stop ≤ range.endExclusive then do
        let allocation ← (GuestMemoryRange.new start size).mapError .invalidRange
        return (range, allocation)
      else selectFree size ranges

/-- The range between two addresses, unless it is empty. -/
def leftover (start stop : Nat) : Except PciBarAllocationError (List GuestMemoryRange) :=
  if start < stop then do
    let range ← (GuestMemoryRange.new start (stop - start)).mapError
      PciBarAllocationError.invalidRange
    return [range]
  else return []

/-- What is left of a free range; only the selected one loses the allocation. -/
def carve (selectedFree allocation range : GuestMemoryRange) :
    Except PciBarAllocationError (List GuestMemoryRange) :=
  if range ≠ selectedFree then return [range]
  else do
    let before ← leftover range.start allocation.start
    let after ← leftover allocation.endExclusive range.endExclusive
    return before ++ after

/-- The merge loop, with the last coalesced range as its first argument. -/
def coalesceFrom : GuestMemoryRange → List GuestMemoryRange → Option (List GuestMemoryRange)
  | previous, [] => some [previous]
  | previous, range :: ranges =>
    if previous.overlaps range then none
    else if previous.isAdjacentTo range then do
      let merged ← (GuestMemoryRange.new previous.start
        (range.endExclusive - previous.start)).toOption
      coalesceFrom merged ranges
    else do
      let coalesced ← coalesceFrom range ranges
      return previous :: coalesced

def coalesceRanges (reserves : Bool) (ranges : List GuestMemoryRange) :
    Option (List GuestMemoryRange) := do
  guard reserves
  match ranges with
  | [] => return []
  | range :: ranges => coalesceFrom range ranges

namespace PciBarAllocator

def new (provenance : Nat) (addressSpace : PciBarAddressSpace) (capacity : GuestMemoryRange) :
    PciBarAllocator :=
  { provenance, addressSpace, capacity, free := [capacity], allocations := ∅, nextGeneration := 0 }

variable (allocator : PciBarAllocator)

variable (reserves : Bool) (allocation : GuestMemoryRange)

def planReservation (selectedFree allocation : GuestMemoryRange) :
    Except PciBarAllocationError (List GuestMemoryRange) := do
  let _ ← okOr (checkedAdd allocator.nextGeneration 1) .generationExhausted
  rejectIf (reserves = false) .metadataAllocation
  let pieces ← allocator.free.mapM (carve selectedFree allocation)
  return sortByStart pieces.flatten

def validateExactRange : Except PciBarAllocationError GuestMemoryRange := do
  rejectIf (allocation.size < pciBarMinimumSize ∨ ¬ isPowerOfTwo allocation.size)
    (.invalidSize allocation.size)
  (allocation.validateAlignment allocation.size).mapError fun _ => .unalignedExactRange
  rejectIf (allocation.start < allocator.capacity.start ∨
    allocator.capacity.endExclusive < allocation.endExclusive) .exactRangeOutsideCapacity
  okOr (allocator.free.find? fun range =>
    range.start ≤ allocation.start && allocation.endExclusive ≤ range.endExclusive)
    .exactRangeOccupied

def commitReservation (nextFree : List GuestMemoryRange) :
    Action PciBarAllocator PciBarAllocationError PciBarLease := do
  let allocator ← get
  let nextGeneration ← .check (okOr (checkedAdd allocator.nextGeneration 1) .generationExhausted)
  let generation := allocator.nextGeneration
  modify fun allocator => { allocator with free := nextFree }
  modify fun allocator => { allocator with
    allocations := allocator.allocations.insert generation ⟨allocator.addressSpace, allocation⟩ }
  modify fun allocator => { allocator with nextGeneration }
  return ⟨allocator.provenance, generation, allocator.addressSpace, allocation⟩

def allocate (size : Nat) : Action PciBarAllocator PciBarAllocationError PciBarLease := do
  .check (rejectIf (size < pciBarMinimumSize ∨ ¬ isPowerOfTwo size) (.invalidSize size))
  let allocator ← get
  let (selectedFree, allocation) ← .check (selectFree size allocator.free)
  let nextFree ← .check (allocator.planReservation reserves selectedFree allocation)
  commitReservation allocation nextFree

def validateExactReservation : Except PciBarAllocationError Unit := do
  let selectedFree ← allocator.validateExactRange allocation
  let _ ← allocator.planReservation reserves selectedFree allocation
  return

def reserveExact : Action PciBarAllocator PciBarAllocationError PciBarLease := do
  let allocator ← get
  let selectedFree ← .check (allocator.validateExactRange allocation)
  let nextFree ← .check (allocator.planReservation reserves selectedFree allocation)
  commitReservation allocation nextFree

def release (lease : PciBarLease) : Action PciBarAllocator PciBarReleaseError Unit := do
  let allocator ← get
  .check (rejectIf (allocator.provenance ≠ lease.allocator) .wrongAllocator)
  let allocation ← .check (okOr (allocator.allocations.lookup lease.generation) .staleLease)
  .check (rejectIf (allocation.addressSpace ≠ lease.addressSpace ∨ allocation.range ≠ lease.range)
    .leaseMismatch)
  let ranges := sortByStart (allocator.free ++ [allocation.range])
  let free ← .check (okOr (coalesceRanges reserves ranges) .allocatorStateMismatch)
  modify fun allocator => { allocator with
    allocations := allocator.allocations.erase lease.generation }
  modify fun allocator => { allocator with free }

end PciBarAllocator

inductive PciBarCall where
  | allocate (reserves : Bool) (size : Nat)
  | validateExactReservation (reserves : Bool) (allocation : GuestMemoryRange)
  | reserveExact (reserves : Bool) (allocation : GuestMemoryRange)
  | release (reserves : Bool) (lease : PciBarLease)
deriving DecidableEq, Repr

inductive PciBarResult where
  | leased (result : Except PciBarAllocationError PciBarLease)
  | validated (result : Except PciBarAllocationError Unit)
  | released (result : Except PciBarReleaseError Unit)
deriving DecidableEq, Repr

def PciBarResult.failed : PciBarResult → Bool
  | .leased (.error _) | .validated (.error _) | .released (.error _) => true
  | .leased (.ok _) | .validated (.ok _) | .released (.ok _) => false

def PciBarAllocator.serve (allocator : PciBarAllocator) :
    PciBarCall → PciBarResult × PciBarAllocator
  | .allocate reserves size => ((allocate reserves size).outcome allocator).map .leased id
  | .validateExactReservation reserves allocation =>
    (.validated (allocator.validateExactReservation reserves allocation), allocator)
  | .reserveExact reserves allocation =>
    ((reserveExact reserves allocation).outcome allocator).map .leased id
  | .release reserves lease => ((release reserves lease).outcome allocator).map .released id

/-- An allocator with what it answered, newest first. -/
structure PciBarSession where
  allocator : PciBarAllocator
  history : List (PciBarCall × PciBarResult)

def PciBarSession.start (allocator : PciBarAllocator) : PciBarSession := ⟨allocator, []⟩

def PciBarSession.call (session : PciBarSession) (call : PciBarCall) : PciBarSession :=
  let (result, allocator) := session.allocator.serve call
  ⟨allocator, (call, result) :: session.history⟩

def PciBarSession.run (session : PciBarSession) (calls : List PciBarCall) : PciBarSession :=
  calls.foldl PciBarSession.call session

end Bangbang.Pci
