import Bangbang.Memory.DirtyTracker

/-!
# Process-owned guest memory

Guest memory is an ordered list of regions, each a window into a host mapping.
Mappings are named by their identity; `Contents` gives the bytes of all of them.
A region inserted inside a shared reservation is a window into the reservation's
retained mapping, every other region receives a fresh mapping of zeros.

Host resources are outside this model. The result of each request for one is an
argument of the operation which makes it, so statements hold for every result.
-/

namespace Bangbang.Memory

inductive GuestMemoryBacking where
  | anonymous
  | shared
deriving DecidableEq, Repr

inductive GuestMemoryAllocationError where
  | invalidLayout (source : GuestMemoryError)
  | protectedLazyMutation
  | invalidHostPageSize
  | sizeTooLarge (range : GuestMemoryRange)
  | regionMetadataAllocationFailed
  | dirtyTrackingMetadata (source : GuestMemoryDirtyTrackerError)
  | anonymousMmapFailed (size : Nat)
  | anonymousMmapReturnedNull (size : Nat)
  | sharedResourceLimitQueryFailed
  | sharedFileSizeLimitExceeded (size : Nat)
  | sharedFileDescriptorLimitExceeded (regions : Nat)
  | sharedNameGenerationFailed
  | sharedBackingCreateFailed
  | sharedBackingUnlinkFailed
  | sharedBackingResizeFailed (size : Nat)
  | sharedBackingSizeTooLarge (size : Nat)
  | sharedBackingReservationMissing (size : Nat)
  | sharedMmapFailed (size : Nat)
  | sharedMmapReturnedNull (size : Nat)
  | mappingIdentityExhausted
  | privateFileInspectFailed
  | privateFileOffsetUnaligned
  | privateFileOffsetTooLarge
  | privateFileRangeBeyondEnd
  | privateFileMmapFailed
deriving DecidableEq, Repr

inductive GuestMemoryRegionRemovalError where
  | protectedLazyMutation
  | missingRange (range : GuestMemoryRange)
deriving DecidableEq, Repr

inductive GuestMemoryAccessError where
  | addressOverflow (start size : Nat)
  | unmappedRange (range : GuestMemoryRange)
  | dirtyTrackingState
deriving DecidableEq, Repr

structure GuestMemoryMapping where
  (identity size : Nat)
deriving DecidableEq, Repr

structure GuestMemoryRegion where
  range : GuestMemoryRange
  mapping : GuestMemoryMapping
  (mappingOffset hostSize : Nat)
deriving DecidableEq, Repr

/-- The byte at each position of each mapping. -/
abbrev Contents := Nat → Nat → UInt8

namespace Contents

variable (contents : Contents)

def write (identity offset : Nat) (bytes : List UInt8) : Contents :=
  fun other position =>
    if other = identity ∧ offset ≤ position then
      bytes[position - offset]?.getD (contents other position)
    else contents other position

def read (identity offset size : Nat) : List UInt8 :=
  (List.range size).map fun index => contents identity (offset + index)

/-- Replace some positions of one mapping by zeros. -/
def zero (identity : Nat) (zeroed : Nat → Bool) : Contents :=
  fun other position =>
    if other = identity ∧ zeroed position then 0 else contents other position

end Contents

structure GuestMemory where
  (regions sharedReservations : List GuestMemoryRegion)
  dirtyTracker : Option GuestMemoryDirtyTracker
  backing : GuestMemoryBacking
  protectedLazy : Bool
  contents : Contents
  nextIdentity : Nat

/-- The host's answers to one request for a new region. -/
structure InsertEnvironment where
  hostPageSize : Option Nat
  (sharedResources map : Except GuestMemoryAllocationError Unit)
  metadata : Bool
  tracker : RegionMemory

def hostPageSize (system : Option Nat) : Except GuestMemoryAllocationError Nat := do
  let pageSize ← okOr system .invalidHostPageSize
  rejectIf (pageSize = 0 ∨ !isPowerOfTwo pageSize) .invalidHostPageSize
  return pageSize

def allocationHostSize (range : GuestMemoryRange) : Except GuestMemoryAllocationError Nat := do
  rejectIf (wordLimit ≤ range.size) (.sizeTooLarge range)
  return range.size

def validateAllocationRange (range : GuestMemoryRange) (pageSize : Nat) :
    Except GuestMemoryAllocationError Nat := do
  (range.validateAlignment pageSize).mapError .invalidLayout
  allocationHostSize range

def validateAllocationRanges (layout : GuestMemoryLayout) (pageSize : Nat) :
    Except GuestMemoryAllocationError Unit := do
  rejectIf (pageSize = 0 ∨ !isPowerOfTwo pageSize) .invalidHostPageSize
  layout.ranges.forM fun range => do
    let _ ← validateAllocationRange range pageSize
    return ()

def overlappingRangesError (first second : GuestMemoryRange) : GuestMemoryError :=
  if first.start ≤ second.start then .overlappingRange first second
  else .overlappingRange second first

def guestMemoryRangeContains (outer inner : GuestMemoryRange) : Bool :=
  outer.start ≤ inner.start && inner.endExclusive ≤ outer.endExclusive

namespace GuestMemory

section
variable (backing : GuestMemoryBacking) (memory : GuestMemory) (range : GuestMemoryRange)
  (pageSize : Nat) (environment : InsertEnvironment)

def emptyWithBacking : GuestMemory where
  regions := []
  sharedReservations := []
  dirtyTracker := none
  backing
  protectedLazy := false
  contents := fun _ _ => 0
  nextIdentity := 0

/-- Map one region after the other; `map` answers the request of each. -/
def mapRegions (map : Nat → Except GuestMemoryAllocationError Unit) :
    Nat → List GuestMemoryRange → Except GuestMemoryAllocationError (List GuestMemoryRegion)
  | _, [] => .ok []
  | identity, range :: ranges => do
    let hostSize ← allocationHostSize range
    map identity
    let regions ← mapRegions map (identity + 1) ranges
    return { range, mapping := { identity, size := hostSize }, mappingOffset := 0, hostSize } ::
      regions

def allocateWithMapper (layout : GuestMemoryLayout) (pageSize : Nat) (backing : GuestMemoryBacking)
    (metadata : Bool) (map : Nat → Except GuestMemoryAllocationError Unit) :
    Except GuestMemoryAllocationError GuestMemory := do
  validateAllocationRanges layout pageSize
  rejectIf (!metadata) .regionMetadataAllocationFailed
  let regions ← mapRegions map 0 layout.ranges
  return { emptyWithBacking backing with regions, nextIdentity := regions.length }

/-- The extents of a private file lie inside it on page boundaries. -/
def validatePrivateExtent (pageSize fileLength : Nat) (extent : GuestMemoryRange × Nat) :
    Except GuestMemoryAllocationError Unit := do
  rejectIf (extent.2 % pageSize ≠ 0) .privateFileOffsetUnaligned
  let hostSize ← allocationHostSize extent.1
  rejectIf (2 ^ 63 ≤ extent.2) .privateFileOffsetTooLarge
  rejectIf ((checkedAdd extent.2 hostSize).all (fileLength < ·)) .privateFileRangeBeyondEnd

/-- Private mappings of the extents of a file, which is known by its bytes. -/
def fromPrivateFileRanges (ranges : List (GuestMemoryRange × Nat)) (file : Option (List UInt8))
    (backing : GuestMemoryBacking) (system : Option Nat) (layoutMetadata metadata : Bool)
    (map : Nat → Except GuestMemoryAllocationError Unit) :
    Except GuestMemoryAllocationError GuestMemory := do
  let pageSize ← hostPageSize system
  rejectIf (!layoutMetadata) .regionMetadataAllocationFailed
  let layout ← (GuestMemoryLayout.new (ranges.map Prod.fst)).mapError .invalidLayout
  validateAllocationRanges layout pageSize
  let bytes ← okOr file .privateFileInspectFailed
  rejectIf (!metadata) .regionMetadataAllocationFailed
  ranges.forM (validatePrivateExtent pageSize bytes.length)
  let regions ← mapRegions map 0 layout.ranges
  return { emptyWithBacking backing with
    regions
    nextIdentity := regions.length
    contents := fun identity position =>
      ((ranges[identity]?).bind fun extent => bytes[extent.2 + position]?).getD 0 }

def enableDirtyTracking (system : Option Nat) (trackerMemory : Nat → RegionMemory) :
    Except GuestMemoryDirtyTrackerError GuestMemoryDirtyTracker × GuestMemory :=
  if memory.protectedLazy then (.error .protectedLazyMemory, memory)
  else
    match memory.dirtyTracker with
    | some tracker => (.ok tracker, memory)
    | none =>
      match system with
      | none => (.error (.invalidPageSize 0), memory)
      | some pageSize =>
        match GuestMemoryDirtyTracker.new (memory.regions.map (·.range)) pageSize trackerMemory with
        | .error error => (.error error, memory)
        | .ok tracker => (.ok tracker, { memory with dirtyTracker := some tracker })

/-- Reject a range which overlaps a neighbour. -/
def rejectOverlap (neighbour : Option GuestMemoryRegion) (range : GuestMemoryRange)
    (error : GuestMemoryRange → GuestMemoryError) : Except GuestMemoryAllocationError Unit :=
  match neighbour with
  | some neighbour =>
    rejectIf (neighbour.range.overlaps range) (.invalidLayout (error neighbour.range))
  | none => .ok ()

/-- The number of leading regions which start below a range. -/
def partitionPoint (regions : List GuestMemoryRegion) (range : GuestMemoryRange) : Nat :=
  (regions.takeWhile (·.range.start < range.start)).length

def validateInsertRegion : Except GuestMemoryAllocationError Nat := do
  let _ ← validateAllocationRange range pageSize
  let insertIndex := partitionPoint memory.regions range
  rejectOverlap ((checkedSub insertIndex 1).bind (memory.regions[·]?)) range
    fun previous => overlappingRangesError previous range
  rejectOverlap memory.regions[insertIndex]? range
    fun next => overlappingRangesError range next
  memory.sharedReservations.forM fun reservation =>
    rejectIf (reservation.range.overlaps range ∧
        !guestMemoryRangeContains reservation.range range)
      (.invalidLayout (overlappingRangesError reservation.range range))
  return insertIndex

/-- The host's answers to one request for a shared reservation. -/
structure ReserveEnvironment where
  hostPageSize : Option Nat
  sharedResources : Except GuestMemoryAllocationError Unit
  metadata : Bool
  (file map : Except GuestMemoryAllocationError Unit)

/-- The position and window of a new reservation, whose mapping is in place. -/
def prepareReservation (environment : ReserveEnvironment) :
    Except GuestMemoryAllocationError (Nat × GuestMemoryRegion) := do
  rejectIf memory.protectedLazy .protectedLazyMutation
  let pageSize ← hostPageSize environment.hostPageSize
  let hostSize ← validateAllocationRange range pageSize
  memory.regions.forM fun region =>
    rejectIf (region.range.overlaps range)
      (.invalidLayout (overlappingRangesError region.range range))
  memory.sharedReservations.forM fun reservation =>
    rejectIf (reservation.range.overlaps range)
      (.invalidLayout (overlappingRangesError reservation.range range))
  environment.sharedResources
  rejectIf (!environment.metadata) .regionMetadataAllocationFailed
  environment.file
  environment.map
  return (memory.sharedReservations.findIdx (range.start < ·.range.start),
    { range, mapping := { identity := memory.nextIdentity, size := hostSize },
      mappingOffset := 0, hostSize })

def reserveSharedRegion (environment : ReserveEnvironment)
    : Except GuestMemoryAllocationError Unit × GuestMemory :=
  match memory.prepareReservation range environment with
  | .error error => (.error error, memory)
  | .ok (insertIndex, reservation) =>
    (.ok (), { memory with
      sharedReservations := memory.sharedReservations.insertIdx insertIndex reservation
      contents := memory.contents.zero memory.nextIdentity fun _ => true
      nextIdentity := memory.nextIdentity + 1 })

def sharedReservationContaining : Option GuestMemoryRegion :=
  memory.sharedReservations.find? (guestMemoryRangeContains ·.range range)

/-- Track and add a region which is ready for use. -/
def insertPreparedRegion (insertIndex : Nat) (region : GuestMemoryRegion) (metadata : Bool)
    (trackerMemory : RegionMemory) : Except GuestMemoryAllocationError Unit × GuestMemory :=
  if metadata then
    match memory.dirtyTracker with
    | some tracker =>
      match tracker.insertRegion region.range true trackerMemory with
      | (.error source, tracker) =>
        (.error (.dirtyTrackingMetadata source), { memory with dirtyTracker := some tracker })
      | (.ok (), tracker) =>
        (.ok (), { memory with
          dirtyTracker := some tracker
          regions := memory.regions.insertIdx insertIndex region })
    | none =>
      (.ok (), { memory with regions := memory.regions.insertIdx insertIndex region })
  else (.error .regionMetadataAllocationFailed, memory)

/-- The window of a shared reservation for a range inside it. -/
def reservationView (reservation : GuestMemoryRegion) (range : GuestMemoryRange) :
    Except GuestMemoryAllocationError GuestMemoryRegion := do
  let mappingOffset := range.start - reservation.range.start
  let hostSize ← allocationHostSize range
  let mappingEnd ← okOr (checkedAdd mappingOffset hostSize) (.sizeTooLarge range)
  rejectIf (reservation.mapping.size < mappingEnd) (.sizeTooLarge range)
  return { range, mapping := reservation.mapping, mappingOffset, hostSize }

/-- The mapper of a backing; a shared one needs its descriptor beforehand. -/
def prepareMapper : Except GuestMemoryAllocationError Unit :=
  match backing with
  | .anonymous => .ok ()
  | .shared => environment.sharedResources

/-- Map a fresh region of zeros; a refused mapping leaves nothing behind. -/
def allocateRegion : Except GuestMemoryAllocationError (GuestMemoryRegion × GuestMemory) := do
  prepareMapper memory.backing environment
  let _ ← memory.validateInsertRegion range pageSize
  let hostSize ← validateAllocationRange range pageSize
  environment.map
  let identity := memory.nextIdentity
  return ({ range, mapping := { identity, size := hostSize }, mappingOffset := 0, hostSize },
    { memory with
      contents := memory.contents.zero identity fun _ => true
      nextIdentity := identity + 1 })

/-- The region to insert, with its mapping in place. -/
def prepareRegion : Except GuestMemoryAllocationError (Nat × GuestMemoryRegion × GuestMemory) := do
  rejectIf memory.protectedLazy .protectedLazyMutation
  let pageSize ← hostPageSize environment.hostPageSize
  let insertIndex ← memory.validateInsertRegion range pageSize
  match memory.sharedReservationContaining range with
  | some reservation =>
    let region ← reservationView reservation range
    return (insertIndex, region, memory)
  | none =>
    let (region, memory) ← memory.allocateRegion range pageSize environment
    return (insertIndex, region, memory)

def insertRegion : Except GuestMemoryAllocationError Unit × GuestMemory :=
  match memory.prepareRegion range environment with
  | .error error => (.error error, memory)
  | .ok (insertIndex, region, memory) =>
    memory.insertPreparedRegion insertIndex region environment.metadata environment.tracker

end

def removeRegion (memory : GuestMemory) (range : GuestMemoryRange) :
    Except GuestMemoryRegionRemovalError Unit × GuestMemory :=
  if memory.protectedLazy then (.error .protectedLazyMutation, memory)
  else
    match memory.regions.findIdx? (·.range == range) with
    | none => (.error (.missingRange range), memory)
    | some index =>
      (.ok (), { memory with
        dirtyTracker := memory.dirtyTracker.map fun tracker => (tracker.removeRegion range).2
        regions := memory.regions.eraseIdx index })

end GuestMemory

structure GuestMemorySegment where
  (offset size : Nat)
deriving DecidableEq, Repr

def accessRange (start size : Nat) :
    Except GuestMemoryAccessError (Option GuestMemoryRange) :=
  if empty : size = 0 then .ok none
  else if bounded : start + size < wordLimit then
    .ok (some ⟨start, size, Nat.pos_of_ne_zero empty, bounded⟩)
  else .error (.addressOverflow start size)

def accessSegment (region : GuestMemoryRegion) (current stop : Nat) : GuestMemorySegment where
  offset := current - region.range.start
  size := min (region.range.endExclusive - current) (stop - current)

def advanceAddress (address size : Nat) : Except GuestMemoryAccessError Nat :=
  okOr (checkedAdd address size) (.addressOverflow address size)

/-- Walk the regions from `current`, the first address not yet found mapped. -/
def validateMappedFrom (range : GuestMemoryRange) (current : Nat) :
    List GuestMemoryRegion → Except GuestMemoryAccessError Unit
  | [] => .error (.unmappedRange range)
  | region :: regions =>
    if region.range.endExclusive ≤ current then validateMappedFrom range current regions
    else if !region.range.contains current then .error (.unmappedRange range)
    else do
      let segment := accessSegment region current range.endExclusive
      let current ← advanceAddress current segment.size
      if current = range.endExclusive then return ()
      else validateMappedFrom range current regions

/-- Copy a source into the regions it covers. -/
def writeRegions (stop current : Nat) (remaining : List UInt8) (contents : Contents) :
    List GuestMemoryRegion → Except GuestMemoryAccessError Unit × Contents
  | [] => (.ok (), contents)
  | region :: regions =>
    if remaining.isEmpty then (.ok (), contents)
    else if region.range.endExclusive ≤ current then
      writeRegions stop current remaining contents regions
    else
      let segment := accessSegment region current stop
      let contents := contents.write region.mapping.identity
        (region.mappingOffset + segment.offset) (remaining.take segment.size)
      match advanceAddress current segment.size with
      | .error error => (.error error, contents)
      | .ok current => writeRegions stop current (remaining.drop segment.size) contents regions

/-- Copy the regions which a destination covers into it. -/
def readRegions (contents : Contents) (stop current : Nat) (remaining : List UInt8) :
    List GuestMemoryRegion → Except GuestMemoryAccessError Unit × List UInt8
  | [] => (.ok (), remaining)
  | region :: regions =>
    if remaining.isEmpty then (.ok (), remaining)
    else if region.range.endExclusive ≤ current then
      readRegions contents stop current remaining regions
    else
      let segment := accessSegment region current stop
      let piece := contents.read region.mapping.identity
        (region.mappingOffset + segment.offset) segment.size
      match advanceAddress current segment.size with
      | .error error => (.error error, piece ++ remaining.drop segment.size)
      | .ok current =>
        let (result, rest) :=
          readRegions contents stop current (remaining.drop segment.size) regions
        (result, piece ++ rest)

namespace GuestMemory

variable (memory : GuestMemory) (range : GuestMemoryRange)

def validateMappedRange : Except GuestMemoryAccessError Unit :=
  validateMappedFrom range range.start memory.regions

/-- Mark a range before its bytes change. -/
def markDirty : Except GuestMemoryAccessError Unit × GuestMemory :=
  match memory.dirtyTracker with
  | none => (.ok (), memory)
  | some tracker =>
    let (result, tracker) := tracker.markRange range
    (result.mapError fun _ => .dirtyTrackingState, { memory with dirtyTracker := some tracker })

def writeSlice (source : List UInt8) (guestAddress : Nat) :
    Except GuestMemoryAccessError Unit × GuestMemory :=
  match accessRange guestAddress source.length with
  | .error error => (.error error, memory)
  | .ok none => (.ok (), memory)
  | .ok (some range) =>
    match memory.validateMappedRange range with
    | .error error => (.error error, memory)
    | .ok () =>
      match memory.markDirty range with
      | (.error error, memory) => (.error error, memory)
      | (.ok (), memory) =>
        let (result, contents) :=
          writeRegions range.endExclusive range.start source memory.contents memory.regions
        (result, { memory with contents })

def readSlice (destination : List UInt8) (guestAddress : Nat) :
    Except GuestMemoryAccessError Unit × List UInt8 :=
  match accessRange guestAddress destination.length with
  | .error error => (.error error, destination)
  | .ok none => (.ok (), destination)
  | .ok (some range) =>
    match memory.validateMappedRange range with
    | .error error => (.error error, destination)
    | .ok () =>
      readRegions memory.contents range.endExclusive range.start destination memory.regions

end GuestMemory

inductive GuestMemoryDiscardFailureKind where
  | rangeValidation
  | unsupportedTarget
  | invalidHostPageSize
  | hostAddress
  | zeroAdvice
  | freeAdvice
  | sharedReclaim
  | privateFileReclaim
deriving DecidableEq, Repr

/-- Byte accounting of one discard, with the number of failures of each kind. -/
structure GuestMemoryDiscardOutcome where
  (requestedBytes advisedBytes skippedBytes failedBytes : Nat)
  failures : GuestMemoryDiscardFailureKind → Nat

namespace GuestMemoryDiscardOutcome

def new (requestedBytes : Nat) : GuestMemoryDiscardOutcome := ⟨requestedBytes, 0, 0, 0, fun _ => 0⟩

variable (outcome : GuestMemoryDiscardOutcome) (bytes : Nat) (kind : GuestMemoryDiscardFailureKind)

def withFailure : GuestMemoryDiscardOutcome :=
  { outcome with
    failures := fun other =>
      if other = kind then saturatingAdd (outcome.failures kind) 1 else outcome.failures other }

def failAll : GuestMemoryDiscardOutcome :=
  { outcome with failedBytes := outcome.requestedBytes }.withFailure kind

def recordSkipped : GuestMemoryDiscardOutcome :=
  { outcome with skippedBytes := saturatingAdd outcome.skippedBytes bytes }

def recordAdvised : GuestMemoryDiscardOutcome :=
  { outcome with advisedBytes := saturatingAdd outcome.advisedBytes bytes }

def recordFailed : GuestMemoryDiscardOutcome :=
  { outcome with failedBytes := saturatingAdd outcome.failedBytes bytes }.withFailure kind

end GuestMemoryDiscardOutcome

/-- The host side of one discard: its page size, the base address of each
mapping, the result of reclaiming the interior of each region, and the positions
which a failing reclaim has already replaced by zeros. -/
structure DiscardAdviser where
  hostPageSize : Except GuestMemoryDiscardFailureKind Nat
  address : Nat → Nat
  reclaim : GuestMemoryRange → Except GuestMemoryDiscardFailureKind Unit
  residue : Nat → Nat → Bool

def alignUp (value alignment : Nat) : Option Nat := do
  let mask ← checkedSub alignment 1
  let rounded ← checkedAdd value mask
  return rounded - rounded % alignment

theorem alignUp_eq_some {value alignment next : Nat} (aligned : alignUp value alignment = some next) :
    value ≤ next ∧ alignment ∣ next ∧ next < wordLimit ∧ next < value + alignment := by
  simp only [alignUp, Option.bind_eq_bind, Option.bind_eq_some_iff, checkedSub_eq_some,
    checkedAdd_eq_some, Option.pure_def, Option.some.injEq] at aligned
  obtain ⟨_, ⟨positive, rfl⟩, _, ⟨bounded, rfl⟩, rfl⟩ := aligned
  have remainder := Nat.mod_lt (value + (alignment - 1)) positive
  exact ⟨by omega, Nat.dvd_sub_mod _, by omega, by omega⟩

def alignDown (value alignment : Nat) : Nat := value - value % alignment

def discardSegment (region : GuestMemoryRegion) (requested : GuestMemoryRange) :
    Option GuestMemorySegment :=
  let start := max region.range.start requested.start
  let stop := min region.range.endExclusive requested.endExclusive
  if stop ≤ start then none
  else some { offset := start - region.range.start, size := stop - start }

/-- What a discard does with its part of one region. -/
inductive Advice where
  | failed (bytes : Nat)
  | skipped (bytes : Nat)
  | interior (skipped start size : Nat)
deriving DecidableEq, Repr

/-- The page-aligned interior of a segment, as host addresses. -/
def adviseSegment (pageSize mappingStart hostSize : Nat) (segment : GuestMemorySegment) : Advice :=
  match checkedAdd segment.offset segment.size with
  | none => .failed segment.size
  | some stop =>
    if hostSize < stop then .failed segment.size
    else
      let segmentStart := mappingStart + segment.offset
      match checkedAdd segmentStart segment.size, alignUp segmentStart pageSize with
      | some segmentEnd, some adviceStart =>
        let adviceEnd := alignDown segmentEnd pageSize
        if adviceEnd ≤ adviceStart then .skipped segment.size
        else .interior (segment.size - (adviceEnd - adviceStart)) adviceStart
          (adviceEnd - adviceStart)
      | _, _ => .failed segment.size

namespace GuestMemory

variable (memory : GuestMemory) (adviser : DiscardAdviser)

/-- Mark the interior of a region before it is reclaimed. -/
def markInterior (region : GuestMemoryRegion) (offset size : Nat) :
    Except GuestMemoryDiscardFailureKind Unit × GuestMemory :=
  match memory.dirtyTracker with
  | none => (.ok (), memory)
  | some _ =>
    match checkedAdd region.range.start offset with
    | none => (.error .hostAddress, memory)
    | some start =>
      match GuestMemoryRange.new start size with
      | .error _ => (.error .hostAddress, memory)
      | .ok range =>
        let (result, memory) := memory.markDirty range
        (result.mapError fun _ => .rangeValidation, memory)

def reclaimInterior (region : GuestMemoryRegion) (offset size : Nat)
    : Except GuestMemoryDiscardFailureKind Unit × GuestMemory :=
  match checkedAdd region.mappingOffset offset with
  | none => (.error .hostAddress, memory)
  | some mappingOffset =>
    let result := adviser.reclaim region.range
    let identity := region.mapping.identity
    let zeroed := fun position =>
      decide (mappingOffset ≤ position ∧ position < mappingOffset + size) &&
        (result.isOk || adviser.residue identity position)
    (result, { memory with contents := memory.contents.zero identity zeroed })

def discardRegion (pageSize : Nat) (requested : GuestMemoryRange)
    (state : GuestMemoryDiscardOutcome × GuestMemory) (region : GuestMemoryRegion) :
    GuestMemoryDiscardOutcome × GuestMemory :=
  let (outcome, memory) := state
  match discardSegment region requested with
  | none => (outcome, memory)
  | some segment =>
    let mappingStart := adviser.address region.mapping.identity + region.mappingOffset
    match adviseSegment pageSize mappingStart region.hostSize segment with
    | .failed bytes => (outcome.recordFailed bytes .hostAddress, memory)
    | .skipped bytes => (outcome.recordSkipped bytes, memory)
    | .interior skipped start size =>
      let outcome := outcome.recordSkipped skipped
      let offset := start - mappingStart
      if start = 0 then (outcome.recordFailed size .hostAddress, memory)
      else
        match memory.markInterior region offset size with
        | (.error kind, memory) => (outcome.recordFailed size kind, memory)
        | (.ok (), memory) =>
          match memory.reclaimInterior adviser region offset size with
          | (.error kind, memory) => (outcome.recordFailed size kind, memory)
          | (.ok (), memory) => (outcome.recordAdvised size, memory)

def discardRange (range : GuestMemoryRange) (adviser : DiscardAdviser) :
    GuestMemoryDiscardOutcome × GuestMemory :=
  let outcome := GuestMemoryDiscardOutcome.new range.size
  if memory.protectedLazy then (outcome.failAll .unsupportedTarget, memory)
  else
    match memory.validateMappedRange range, adviser.hostPageSize with
    | .error _, _ => (outcome.failAll .rangeValidation, memory)
    | .ok (), .error kind => (outcome.failAll kind, memory)
    | .ok (), .ok pageSize =>
      if pageSize = 0 ∨ !isPowerOfTwo pageSize then (outcome.failAll .invalidHostPageSize, memory)
      else memory.regions.foldl (discardRegion adviser pageSize range) (outcome, memory)

end GuestMemory
end Bangbang.Memory
