import Bangbang.Base.Bitmap
import Bangbang.Memory.Range

/-!
# The dirty-page tracker

One bitmap per guest-memory region records which pages were written since the
last clear. Storage for metadata may run out: an operation takes the outcome of
each of its reservations as an argument. Mutating operations return the tracker
beside their result, so a failing one shows what it leaves behind.
-/

namespace Bangbang.Memory

inductive GuestMemoryDirtyTrackerError where
  | protectedLazyMemory
  | invalidPageSize (pageSize : Nat)
  | unalignedRegion (range : GuestMemoryRange) (pageSize : Nat)
  | emptyRegions
  | unorderedOrOverlappingRegion (range : GuestMemoryRange)
  | pageCountOverflow (range : GuestMemoryRange)
  | metadataAllocationFailed
deriving DecidableEq, Repr

inductive GuestMemoryDirtyTrackerAccessError where
  | untrackedRange (range : GuestMemoryRange)
  | metadataAllocationFailed
  | invalidState (message : String)
deriving DecidableEq, Repr

/-- One region's bitmap, one bit for each page. -/
structure DirtyRegion where
  range : GuestMemoryRange
  words : List (BitVec 64)
deriving DecidableEq, Repr

/-- Whether the reservations of one insertion succeed. -/
structure RegionMemory where
  (regions words : Bool)
deriving DecidableEq, Repr

def bitmapLocation (pageIndex : Nat) : Nat × BitVec 64 :=
  (pageIndex / 64, 1#64 <<< (pageIndex % 64))

def initialWord (pageCount wordIndex : Nat) : BitVec 64 :=
  let remaining := pageCount - wordIndex * 64
  if 64 ≤ remaining then BitVec.allOnes 64
  else if remaining = 0 then 0#64
  else 1#64 <<< remaining - 1#64

namespace DirtyRegion

def new (range : GuestMemoryRange) (pageSize : Nat) (initiallyDirty wordsReserved : Bool) :
    Except GuestMemoryDirtyTrackerError DirtyRegion := do
  (range.validateAlignment pageSize).mapError fun _ => .unalignedRegion range pageSize
  let pageCount := range.size / pageSize
  rejectIf (wordLimit ≤ pageCount) (.pageCountOverflow range)
  let wordCount ← okOr ((checkedAdd pageCount 63).map (· / 64)) (.pageCountOverflow range)
  rejectIf (!wordsReserved) .metadataAllocationFailed
  return {
    range
    words := (List.range wordCount).map fun wordIndex =>
      if initiallyDirty then initialWord pageCount wordIndex else 0#64 }

def markPage (words : List (BitVec 64)) (pageIndex : Nat) : List (BitVec 64) :=
  let (wordIndex, bit) := bitmapLocation pageIndex
  words.modify wordIndex (· ||| bit)

variable (region : DirtyRegion)

def markIntersection (requested : GuestMemoryRange) (pageSize : Nat) : DirtyRegion :=
  let start := max region.range.start requested.start
  let stop := min region.range.endExclusive requested.endExclusive
  if stop ≤ start then region
  else
    let firstPage := (start - region.range.start) / pageSize
    let lastPage := (stop - 1 - region.range.start) / pageSize
    { region with
      words := (List.range' firstPage (lastPage + 1 - firstPage)).foldl markPage region.words }

/-- Append the pages of one bitmap word. `reserve` says, for each number of
pages collected so far, whether there is room for one more. -/
def appendWordPages (reserve : Nat → Bool) (range : GuestMemoryRange) (pageSize wordIndex : Nat)
    (remaining : BitVec 64) (pages : List Nat) :
    Except GuestMemoryDirtyTrackerAccessError (List Nat) :=
  if remaining = 0#64 then .ok pages
  else do
    let bitIndex := remaining.ctz.toNat
    let pageIndex ← okOr ((checkedMul wordIndex 64).bind (checkedAdd · bitIndex))
      (.invalidState "dirty-page index overflowed")
    let offset ← okOr (checkedMul pageIndex pageSize) (.invalidState "dirty-page offset overflowed")
    let page ← okOr (checkedAdd range.start offset) (.invalidState "dirty-page address overflowed")
    rejectIf (!range.contains page) (.invalidState "dirty-page metadata exceeded its region")
    rejectIf (!reserve pages.length) .metadataAllocationFailed
    appendWordPages reserve range pageSize wordIndex (remaining &&& (remaining - 1#64))
      (pages ++ [page])
termination_by remaining.toNat
decreasing_by exact Bitmap.clearLowest_lt ‹_›

def appendDirtyPages (reserve : Nat → Bool) (region : DirtyRegion) (pageSize : Nat)
    (pages : List Nat) : Except GuestMemoryDirtyTrackerAccessError (List Nat) :=
  region.words.zipIdx.foldlM (fun pages (word, wordIndex) =>
    appendWordPages reserve region.range pageSize wordIndex word pages) pages

def clear : DirtyRegion := { region with words := region.words.map fun _ => 0#64 }

end DirtyRegion

def validatePageSize (pageSize : Nat) : Except GuestMemoryDirtyTrackerError Unit :=
  rejectIf (pageSize = 0 ∨ !isPowerOfTwo pageSize) (.invalidPageSize pageSize)

/-- The index before the first region which starts above a range. -/
def validateInsertPosition (range : GuestMemoryRange) :
    List DirtyRegion → Except GuestMemoryDirtyTrackerError Nat
  | [] => .ok 0
  | region :: regions =>
    if region.range.overlaps range then .error (.unorderedOrOverlappingRegion range)
    else if range.start < region.range.start then .ok 0
    else do
      let index ← validateInsertPosition range regions
      return index + 1

/-- Walk the regions from `current`, the first address not yet found tracked. -/
def validateTrackedFrom (range : GuestMemoryRange) (current : Nat) :
    List DirtyRegion → Except GuestMemoryDirtyTrackerAccessError Unit
  | [] => .error (.untrackedRange range)
  | region :: regions =>
    if region.range.endExclusive ≤ current then validateTrackedFrom range current regions
    else if current < region.range.start then .error (.untrackedRange range)
    else
      let current := min region.range.endExclusive range.endExclusive
      if current = range.endExclusive then .ok () else validateTrackedFrom range current regions

def validateTrackedRange (regions : List DirtyRegion) (range : GuestMemoryRange) :
    Except GuestMemoryDirtyTrackerAccessError Unit :=
  validateTrackedFrom range range.start regions

structure GuestMemoryDirtyTracker where
  (pageSize epoch : Nat)
  regions : List DirtyRegion
deriving DecidableEq, Repr

structure GuestMemoryDirtySnapshot where
  (pageSize epoch : Nat)
  pages : List Nat
deriving DecidableEq, Repr

def saturatingAdd (left right : Nat) : Nat := min (left + right) (wordLimit - 1)

namespace GuestMemoryDirtyTracker

/-- Append the regions of a new tracker in the order given. -/
def newRegions (pageSize : Nat) (memory : Nat → RegionMemory) :
    List DirtyRegion → List GuestMemoryRange →
      Except GuestMemoryDirtyTrackerError (List DirtyRegion)
  | regions, [] => .ok regions
  | regions, range :: ranges => do
    let index ← validateInsertPosition range regions
    rejectIf (index ≠ regions.length) (.unorderedOrOverlappingRegion range)
    rejectIf (!(memory regions.length).regions) .metadataAllocationFailed
    let region ← DirtyRegion.new range pageSize false (memory regions.length).words
    newRegions pageSize memory (regions ++ [region]) ranges

def new (ranges : List GuestMemoryRange) (pageSize : Nat) (memory : Nat → RegionMemory) :
    Except GuestMemoryDirtyTrackerError GuestMemoryDirtyTracker := do
  validatePageSize pageSize
  let regions ← newRegions pageSize memory [] ranges
  rejectIf regions.isEmpty .emptyRegions
  return { pageSize, epoch := 0, regions }

variable (reserve : Nat → Bool) (tracker : GuestMemoryDirtyTracker) (range : GuestMemoryRange)
  (initiallyDirty : Bool) (memory : RegionMemory)

def markRange : Except GuestMemoryDirtyTrackerAccessError Unit × GuestMemoryDirtyTracker :=
  match validateTrackedRange tracker.regions range with
  | .error error => (.error error, tracker)
  | .ok () =>
    (.ok (), { tracker with
      regions := tracker.regions.map (·.markIntersection range tracker.pageSize) })

def dirtyPages : Except GuestMemoryDirtyTrackerAccessError (List Nat) :=
  tracker.regions.foldlM (fun pages region =>
    region.appendDirtyPages reserve tracker.pageSize pages) []

def snapshotQuiesced : Except GuestMemoryDirtyTrackerAccessError GuestMemoryDirtySnapshot := do
  let epoch := tracker.epoch
  let pages ← tracker.regions.foldlM (fun pages region =>
    region.appendDirtyPages reserve tracker.pageSize pages) []
  rejectIf (tracker.epoch ≠ epoch)
    (.invalidState "dirty-page epoch changed during a quiesced snapshot")
  return { pageSize := tracker.pageSize, epoch, pages }

/-- The position and bitmap of a new region, before the tracker changes. -/
def prepareRegion : Except GuestMemoryDirtyTrackerError (Nat × DirtyRegion) := do
  let index ← validateInsertPosition range tracker.regions
  rejectIf (!memory.regions) .metadataAllocationFailed
  let region ← DirtyRegion.new range tracker.pageSize initiallyDirty memory.words
  return (index, region)

def insertRegion : Except GuestMemoryDirtyTrackerError Unit × GuestMemoryDirtyTracker :=
  match tracker.prepareRegion range initiallyDirty memory with
  | .error error => (.error error, tracker)
  | .ok (index, region) =>
    (.ok (), { tracker with regions := tracker.regions.insertIdx index region })

def removeRegion : Bool × GuestMemoryDirtyTracker :=
  match tracker.regions.findIdx? (·.range == range) with
  | none => (false, tracker)
  | some index => (true, { tracker with regions := tracker.regions.eraseIdx index })

def clearQuiesced : Nat × GuestMemoryDirtyTracker :=
  (saturatingAdd tracker.epoch 1, { tracker with
    regions := tracker.regions.map DirtyRegion.clear
    epoch := saturatingAdd tracker.epoch 1 })

end GuestMemoryDirtyTracker
end Bangbang.Memory
