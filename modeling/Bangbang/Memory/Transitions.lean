import Bangbang.Memory.AddressMap

/-!
# What each guest-memory call does

`Follows` says once what a successful call does to the address map, the regions,
and the dirty pages; `Keeps` says what a failed one leaves alone. Every call is
shown to be one of the two, and nothing later looks inside a call again.
-/

namespace Bangbang.Memory

open GuestMemoryDirtyTracker List

/-- A successful guest-memory call. A discard is described by the range which was
requested and the addresses whose bytes it replaced by zeros. -/
inductive MemoryEvent where
  | insert (range : GuestMemoryRange)
  | remove (range : GuestMemoryRange)
  | write (start : Nat) (bytes : List UInt8)
  | discard (requested : GuestMemoryRange) (zeroed : Nat → Bool)
  | clear

namespace MemoryEvent

variable (reserved : Nat → Bool) (address : Nat)

/-- The value of an address after an event. Inserting and removing a region does
not change the bytes of a shared reservation. -/
def update (event : MemoryEvent) (value : Option UInt8) : Option UInt8 :=
  match event with
  | .insert range => if range.contains address && !reserved address then some 0 else value
  | .remove range => if range.contains address && !reserved address then none else value
  | .write start bytes =>
    if start ≤ address ∧ address < start + bytes.length then some (bytes.getD (address - start) 0)
    else value
  | .discard _ zeroed => if zeroed address then some 0 else value
  | .clear => value

/-- Whether an event may give an address another byte. -/
def Touches : MemoryEvent → Prop
  | .insert range => range.contains address = true
  | .write start bytes => start ≤ address ∧ address < start + bytes.length
  | .discard _ zeroed => zeroed address = true
  | .remove _ | .clear => False

/-- Whether a range is a region after an event. -/
def Shows (range : GuestMemoryRange) (before : Prop) : MemoryEvent → Prop
  | .insert other => range = other ∨ before
  | .remove other => range ≠ other ∧ before
  | .write .. | .discard .. | .clear => before

/-- The event makes a new region of an address. -/
def Inserts : MemoryEvent → Prop
  | .insert range => range.contains address = true
  | _ => False

/-- The event starts the history of the tracker again. -/
def Clears : MemoryEvent → Prop
  | .clear => True
  | _ => False

/-- The byte of an address after a history, the newest event first. -/
def lastByte (initial : Option UInt8) (address : Nat) (history : List MemoryEvent) : Option UInt8 :=
  history.foldr (update reserved address) initial

end MemoryEvent

namespace GuestMemory

variable {memory next : GuestMemory} {range : GuestMemoryRange}

/-- The page of an address is dirty in the memory's tracker. -/
def DirtyAt (memory : GuestMemory) (address : Nat) : Prop :=
  ∃ tracker ∈ memory.dirtyTracker, tracker.DirtyAt address

/-- A current region holds an address. -/
def Mapped (memory : GuestMemory) (address : Nat) : Prop :=
  ∃ range ∈ memory.ranges, range.contains address = true

/-- What one successful call does. -/
structure Follows (memory : GuestMemory) (event : MemoryEvent) (next : GuestMemory) : Prop where
  wf : next.Wf
  reservations : next.sharedReservations = memory.sharedReservations
  tracking : next.dirtyTracker.isSome = memory.dirtyTracker.isSome
  ranges : ∀ range, range ∈ next.ranges ↔ event.Shows range (range ∈ memory.ranges)
  value : ∀ address, next.valueAt address =
    event.update memory.reserved address (memory.valueAt address)
  touched : memory.dirtyTracker.isSome = true → ∀ address, event.Touches address →
    next.Mapped address → next.DirtyAt address
  dirty : ¬ event.Clears → ∀ address, memory.DirtyAt address → next.Mapped address →
    next.DirtyAt address

/-- A failed call changes no byte, no region, and no dirty page. -/
structure Keeps (memory next : GuestMemory) : Prop where
  wf : next.Wf
  regions : next.regions = memory.regions
  reservations : next.sharedReservations = memory.sharedReservations
  tracker : next.dirtyTracker = memory.dirtyTracker
  value : ∀ address, next.valueAt address = memory.valueAt address

theorem Wf.keeps (wf : memory.Wf) : Keeps memory memory :=
  ⟨wf, rfl, rfl, rfl, fun _ => rfl⟩

section
variable {index region ready}

/-- A prepared region and a tracker which mirrors it give a well-formed memory. -/
theorem Prepared.wf_inserted (prepared : Prepared memory range index region ready)
    {tracker}
    (tracked : ∀ current ∈ tracker, current.ranges = memory.ranges.insertIdx index range ∧
      ∃ history, current.Faithful history) :
    Wf { ready with
      dirtyTracker := tracker
      regions := ready.regions.insertIdx index region } := by
  obtain ⟨contents, nextIdentity, rfl⟩ : ∃ contents nextIdentity,
      ready = { memory with contents, nextIdentity } := ⟨_, _, prepared.same⟩
  obtain ⟨rfl, fits, -, wf, fresh, placed, views, -, -⟩ := prepared
  have inside : index ≤ memory.regions.length := by simpa [ranges] using fits.inside
  have sameRanges : (memory.regions.insertIdx index region).map (·.range) =
      memory.ranges.insertIdx index region.range := map_insertIdx ..
  have windowCases : ∀ window ∈ memory.regions.insertIdx index region ++ memory.sharedReservations,
      window ∈ region :: memory.windows := by
    intro window member
    rw [mem_append, mem_insertIdx inside, or_assoc] at member
    exact mem_cons.mpr (member.imp_right mem_append.mpr)
  refine ⟨?_, wf.reservationsOrdered, wf.based, ?_, fun window member => ?_, fun window member => ?_,
    fun current isTracker => ?_⟩
  · change Ordered ((memory.regions.insertIdx index region).map (·.range))
    rw [sameRanges]
    exact wf.ordered.insertIdx fits
  · obtain ⟨base, placed⟩ := placed
    exact ⟨base, fun window member => placed window (windowCases window member)⟩
  · rcases mem_cons.mp (windowCases window member) with rfl | earlier
    · exact fresh
    · exact wf.fresh window earlier
  · rcases (mem_insertIdx inside).mp member with rfl | earlier
    · exact views
    · exact wf.views window earlier
  · obtain ⟨tracks, faithful⟩ := tracked current isTracker
    exact ⟨tracks.trans sameRanges.symm, faithful⟩

/-- The address map of a memory which gained a prepared region. -/
theorem Prepared.valueAt_inserted (prepared : Prepared memory range index region ready)
    {tracker}
    (wf : Wf { ready with
      dirtyTracker := tracker
      regions := ready.regions.insertIdx index region }) (address : Nat) :
    valueAt { ready with
      dirtyTracker := tracker
      regions := ready.regions.insertIdx index region } address =
        (MemoryEvent.insert range).update memory.reserved address (memory.valueAt address) := by
  have inside : index ≤ ready.regions.length := by
    rw [prepared.same]
    simpa [ranges] using prepared.fits.inside
  have windowIff : ∀ window,
      window ∈ windows { ready with
        dirtyTracker := tracker
        regions := ready.regions.insertIdx index region } ↔
      window = region ∨ window ∈ ready.windows := by
    intro window
    simp only [windows, mem_append, mem_insertIdx inside, or_assoc]
  have sameRange := prepared.spans
  rw [MemoryEvent.update]
  by_cases contained : range.contains address = true
  · rw [wf.valueAt_eq ((windowIff region).mpr (.inl rfl)) (by rwa [sameRange]),
      prepared.initial address contained]
    cases memory.reserved address <;> simp [contained]
  · rw [prepared.wf.valueAt_eq_of_windows wf rfl fun window shows => ?_, prepared.kept address]
    · simp [contained]
    · rw [windowIff]
      refine or_iff_right ?_
      rintro rfl
      exact contained (sameRange ▸ shows)

/-- A prepared insertion has changed nothing yet. -/
theorem Prepared.keeps (prepared : Prepared memory range index region ready) :
    Keeps memory ready := by
  refine ⟨prepared.wf, ?_, ?_, ?_, prepared.kept⟩ <;> rw [prepared.same]

variable {environment}

/-- A preparation finds the place of its range. -/
theorem prepareRegion_eq_ok (wf : memory.Wf)
    (made : memory.prepareRegion range environment = .ok (index, region, ready)) :
    Prepared memory range index region ready := by
  simp only [prepareRegion, bind_eq_ok] at made
  obtain ⟨_, -, pageSize, -, _, valid, made⟩ := made
  cases found : memory.sharedReservationContaining range with
  | some reservation =>
    simp only [found, bind_eq_ok, pure_eq_ok, Prod.mk.injEq] at made
    obtain ⟨_, view, rfl, rfl, rfl⟩ := made
    exact prepared_view wf (fitsAt_of_validateInsertRegion wf valid).1 found view
  | none =>
    simp only [found, bind_eq_ok, pure_eq_ok, Prod.mk.injEq] at made
    obtain ⟨⟨_, _⟩, allocated, rfl, rfl, rfl⟩ := made
    exact prepared_fresh wf valid found allocated

/-- A prepared region which is inserted follows the event. -/
theorem Prepared.follows (prepared : Prepared memory range index region ready)
    {tracker}
    (tracked : ∀ current ∈ tracker, current.ranges = memory.ranges.insertIdx index range ∧
      ∃ history, current.Faithful history)
    (tracking : tracker.isSome = memory.dirtyTracker.isSome)
    (dirtied : ∀ current ∈ tracker, ∀ address, range.contains address = true →
      current.DirtyAt address)
    (dirty : ∀ address, memory.DirtyAt address → ∃ current ∈ tracker, current.DirtyAt address) :
    Follows memory (.insert range) { ready with
      dirtyTracker := tracker
      regions := ready.regions.insertIdx index region } := by
  have wf := prepared.wf_inserted tracked
  refine ⟨wf, prepared.keeps.reservations, tracking, fun other => ?_,
    prepared.valueAt_inserted wf, fun isTracked address touches _ => ?_,
    fun _ address wasDirty _ => dirty address wasDirty⟩
  · rw [ranges, prepared.keeps.regions, map_insertIdx, prepared.spans]
    exact mem_insertIdx prepared.fits.inside
  · rw [← tracking, Option.isSome_iff_exists] at isTracked
    obtain ⟨current, isCurrent⟩ := isTracked
    exact ⟨current, isCurrent, dirtied current isCurrent address touches⟩

variable {trackerMemory metadata}

/-- Adding a prepared region dirties it and nothing else. -/
theorem Prepared.insertPreparedRegion_follows
    (prepared : Prepared memory range index region ready) (wf : memory.Wf)
    (inserted : ready.insertPreparedRegion index region metadata trackerMemory = (.ok (), next)) :
    Follows memory (.insert range) next := by
  unfold insertPreparedRegion at inserted
  have sameTracker := prepared.keeps.tracker
  split at inserted
  case isFalse => simp at inserted
  case isTrue =>
    split at inserted
    case h_1 tracker isTracker =>
      rw [sameTracker] at isTracker
      obtain ⟨sameRanges, history, faithful⟩ := wf.tracked tracker isTracker
      split at inserted
      · simp at inserted
      case h_2 later trackedInsert =>
        obtain ⟨-, rfl⟩ := Prod.mk.inj inserted
        rw [prepared.spans] at trackedInsert
        refine prepared.follows ?_ (by simp [isTracker]) ?_ ?_
        · rintro current ⟨⟩
          refine ⟨?_, _, faithful.insertRegion trackedInsert⟩
          obtain ⟨position, added, valid, made, rfl⟩ :=
            GuestMemoryDirtyTracker.insertRegion_eq_ok trackedInsert
          have fits := fitsAt_of_validateInsertPosition faithful.ordered valid
          -- Both lists have one place for the range.
          rw [← GuestMemoryDirtyTracker.ranges, sameRanges] at fits
          obtain rfl := fits.unique prepared.fits
          rw [GuestMemoryDirtyTracker.ranges, List.map_insertIdx, ← sameRanges,
            (DirtyRegion.new_eq_ok made).1]
          rfl
        · rintro current ⟨⟩ address contained
          exact GuestMemoryDirtyTracker.dirtyAt_of_insertRegion faithful trackedInsert contained
        · rintro address ⟨current, isCurrent, wasDirty⟩
          obtain rfl : tracker = current := by
            rw [isTracker] at isCurrent
            exact Option.mem_some_iff.mp isCurrent
          exact ⟨later, rfl, wasDirty.insertRegion faithful trackedInsert⟩
    case h_2 untracked =>
      obtain ⟨-, rfl⟩ := Prod.mk.inj inserted
      rw [sameTracker] at untracked
      refine prepared.follows ?_ (by rw [sameTracker]) ?_ ?_
      · simp [sameTracker, untracked]
      · simp [sameTracker, untracked]
      · simp [DirtyAt, untracked]

variable {error}

/-- An insertion which fails after its preparation keeps the memory. -/
theorem Prepared.insertPreparedRegion_keeps (prepared : Prepared memory range index region ready)
    (failed : ready.insertPreparedRegion index region metadata trackerMemory = (.error error, next))
    : Keeps memory next := by
  unfold insertPreparedRegion at failed
  split at failed
  case isFalse =>
    obtain ⟨-, rfl⟩ := Prod.mk.inj failed
    exact prepared.keeps
  case isTrue =>
    split at failed
    case h_1 tracker isTracker =>
      split at failed
      case h_1 source later refused =>
        obtain ⟨-, rfl⟩ := Prod.mk.inj failed
        obtain rfl := insertRegion_error refused
        rw [← isTracker]
        exact prepared.keeps
      · simp at failed
    · simp at failed

/-- A successful insertion follows its event. -/
theorem insertRegion_follows (wf : memory.Wf)
    (inserted : memory.insertRegion range environment = (.ok (), next)) :
    Follows memory (.insert range) next := by
  unfold insertRegion at inserted
  split at inserted
  · simp at inserted
  case h_2 made => exact (prepareRegion_eq_ok wf made).insertPreparedRegion_follows wf inserted

/-- A failed insertion keeps the memory. -/
theorem insertRegion_keeps (wf : memory.Wf)
    (failed : memory.insertRegion range environment = (.error error, next)) :
    Keeps memory next := by
  unfold insertRegion at failed
  split at failed
  · obtain ⟨-, rfl⟩ := Prod.mk.inj failed
    exact wf.keeps
  case h_2 made => exact (prepareRegion_eq_ok wf made).insertPreparedRegion_keeps failed

end

section

/-- What a removal requires and changes. -/
theorem removeRegion_eq_ok (removed : memory.removeRegion range = (.ok (), next)) :
    range ∈ memory.ranges ∧ next = { memory with
      dirtyTracker := memory.dirtyTracker.map fun tracker => (tracker.removeRegion range).2
      regions := memory.regions.eraseIdx (memory.regions.findIdx (·.range == range)) } := by
  unfold removeRegion at removed
  split at removed
  · simp at removed
  · split at removed
    · simp at removed
    case h_2 index found =>
      obtain ⟨-, rfl⟩ := Prod.mk.inj removed
      obtain ⟨inside, rfl⟩ := findIdx?_eq_some_iff_findIdx_eq.mp found
      refine ⟨?_, rfl⟩
      have same := beq_iff_eq.mp (findIdx_getElem (w := inside))
      exact mem_map.mpr ⟨_, getElem_mem inside, same⟩

variable (wf : memory.Wf)
include wf

/-- A tracker and a memory which have the same regions lose the same one. -/
theorem Wf.tracked_remove {tracker}
    (isTracker : tracker ∈ memory.dirtyTracker) :
    (tracker.removeRegion range).2.ranges =
        memory.ranges.eraseIdx (memory.ranges.findIdx (· == range)) ∧
      ∃ history, (tracker.removeRegion range).2.Faithful history := by
  obtain ⟨sameRanges, history, faithful⟩ := wf.tracked tracker isTracker
  constructor
  · rw [removeRegion_eq, ← sameRanges]
    exact map_eraseIdx_findIdx (fun region : DirtyRegion => region.range) tracker.regions range
  · cases result : tracker.removeRegion range with
    | mk removed later =>
      cases removed with
      | true => exact ⟨_, faithful.removeRegion result⟩
      | false =>
        obtain rfl := removeRegion_false result
        exact ⟨history, faithful⟩

/-- A successful removal follows its event. -/
theorem removeRegion_follows (removed : memory.removeRegion range = (.ok (), next)) :
    Follows memory (.remove range) next := by
  obtain ⟨present, rfl⟩ := removeRegion_eq_ok removed
  have sameRanges : (memory.regions.eraseIdx
      (memory.regions.findIdx (·.range == range))).map (·.range) =
      memory.ranges.eraseIdx (memory.ranges.findIdx (· == range)) :=
    map_eraseIdx_findIdx (fun region : GuestMemoryRegion => region.range) memory.regions range
  have others : ∀ region, region ∈ memory.regions.eraseIdx
      (memory.regions.findIdx (·.range == range)) ↔
      region.range ≠ range ∧ region ∈ memory.regions := fun region => wf.ordered.mem_eraseIdx
  generalize memory.regions.eraseIdx (memory.regions.findIdx (·.range == range)) = erased at *
  have fewerWindows : ∀ window ∈ erased ++ memory.sharedReservations,
      window ∈ memory.windows := fun window member =>
    mem_append.mpr ((mem_append.mp member).imp_left fun kept =>
      ((others window).mp kept).2)
  have nextWf : Wf { memory with
      dirtyTracker := memory.dirtyTracker.map fun tracker => (tracker.removeRegion range).2
      regions := erased } := by
    refine ⟨?_, wf.reservationsOrdered, wf.based, ?_, ?_, ?_, ?_⟩
    · change Ordered (erased.map (·.range))
      rw [sameRanges]
      exact wf.ordered.eraseIdx _
    · obtain ⟨base, placed⟩ := wf.placed
      exact ⟨base, fun window member => placed window (fewerWindows window member)⟩
    · exact fun window member => wf.fresh window (fewerWindows window member)
    · exact fun region member => wf.views region ((others region).mp member).2
    · rintro later isTracker
      obtain ⟨tracker, tracked, rfl⟩ := Option.map_eq_some_iff.mp isTracker
      obtain ⟨tracks, faithful⟩ := wf.tracked_remove tracked
      exact ⟨tracks.trans sameRanges.symm, faithful⟩
  have rangeIff : ∀ other, other ∈ erased.map (·.range) ↔ other ≠ range ∧ other ∈ memory.ranges := by
    intro other
    rw [mem_map, ranges, mem_map]
    constructor
    · rintro ⟨region, member, rfl⟩
      obtain ⟨different, kept⟩ := (others region).mp member
      exact ⟨different, region, kept, rfl⟩
    · rintro ⟨different, region, kept, rfl⟩
      exact ⟨region, (others region).mpr ⟨different, kept⟩, rfl⟩
  refine ⟨nextWf, rfl, by simp, rangeIff, fun address => ?_, fun _ _ touches => touches.elim, ?_⟩
  · rw [MemoryEvent.update]
    cases contained : range.contains address with
    | false =>
      refine wf.valueAt_eq_of_windows nextWf rfl fun window shows => ?_
      rw [windows, windows, mem_append, mem_append, others, and_iff_right]
      rintro same
      simp [← same, shows] at contained
    | true =>
      cases isReserved : memory.reserved address with
      | true =>
        obtain ⟨reservation, member, shows⟩ := any_eq_true.mp isReserved
        rw [wf.valueAt_eq (mem_append_right _ member) shows,
          nextWf.valueAt_eq (mem_append_right _ member) shows]
        rfl
      | false =>
        refine valueAt_eq_none fun window member => Bool.eq_false_iff.mpr fun shows => ?_
        rcases mem_append.mp member with kept | reservation
        · obtain ⟨different, earlier⟩ := (others window).mp kept
          exact different (wf.ordered.range_unique (mem_map_of_mem earlier) present shows contained)
        · exact any_eq_false.mp isReserved window reservation shows
  · rintro - address ⟨tracker, isTracker, wasDirty⟩ ⟨kept, keptMember, contained⟩
    obtain ⟨different, earlier⟩ := (rangeIff kept).mp keptMember
    refine ⟨_, Option.map_eq_some_iff.mpr ⟨tracker, isTracker, rfl⟩, wasDirty.removeRegion ?_⟩
    exact Bool.eq_false_iff.mpr fun inRemoved =>
      different (wf.ordered.range_unique earlier present contained inRemoved)

/-- A failed removal keeps the memory. -/
theorem removeRegion_keeps {error}
    (failed : memory.removeRegion range = (.error error, next)) : Keeps memory next := by
  unfold removeRegion at failed
  split at failed
  · obtain ⟨-, rfl⟩ := Prod.mk.inj failed
    exact wf.keeps
  · split at failed
    · obtain ⟨-, rfl⟩ := Prod.mk.inj failed
      exact wf.keeps
    · simp at failed

end

section

/-- A tracker which gained some dirty addresses and lost none. -/
structure Marked (memory : GuestMemory) (touched : Nat → Prop)
    (tracker : Option GuestMemoryDirtyTracker) : Prop where
  tracking : tracker.isSome = memory.dirtyTracker.isSome
  tracked : ∀ current ∈ tracker, current.ranges = memory.ranges ∧
    ∃ history, current.Faithful history
  dirtied : ∀ current ∈ tracker, ∀ address, touched address → memory.Mapped address →
    current.DirtyAt address
  dirty : ∀ address, memory.DirtyAt address → ∃ current ∈ tracker, current.DirtyAt address

variable {touched : Nat → Prop}

theorem Wf.unmarked (wf : memory.Wf) (untouched : ∀ address, ¬ touched address) :
    Marked memory touched memory.dirtyTracker :=
  ⟨rfl, wf.tracked, fun _ _ address touches => absurd touches (untouched address),
    fun _ wasDirty => wasDirty⟩

theorem Marked.mono {wider narrower : Nat → Prop} {tracker}
    (marked : Marked memory wider tracker) (narrows : ∀ address, narrower address → wider address) :
    Marked memory narrower tracker :=
  ⟨marked.tracking, marked.tracked, fun current isCurrent address touches =>
    marked.dirtied current isCurrent address (narrows address touches), marked.dirty⟩

/-- Marking succeeds where the regions cover the range. -/
theorem Wf.markDirty (wf : memory.Wf)
    (covered : Covers memory.ranges range.start range.endExclusive) :
    ∃ tracker, memory.markDirty range = (.ok (), { memory with dirtyTracker := tracker }) ∧
      Marked memory (fun address => range.contains address = true) tracker := by
  cases isTracker : memory.dirtyTracker with
  | none =>
    have unmarked : memory.markDirty range = (.ok (), memory) := by
      simp only [GuestMemory.markDirty, isTracker]
    exact ⟨memory.dirtyTracker, unmarked, rfl, by simp [isTracker], by simp [isTracker],
      by simp [DirtyAt, isTracker]⟩
  | some tracker =>
    obtain ⟨sameRanges, history, faithful⟩ := wf.tracked tracker isTracker
    have valid : validateTrackedRange tracker.regions range = .ok () := by
      rw [validateTrackedRange, validateTrackedFrom_eq_ok, ← GuestMemoryDirtyTracker.ranges,
        sameRanges, coversFrom_iff wf.ordered range.start_lt_endExclusive]
      exact covered
    obtain ⟨later, marked⟩ : ∃ later, tracker.markRange range = (.ok (), later) :=
      ⟨_, by rw [GuestMemoryDirtyTracker.markRange, valid]⟩
    have laterRanges : later.ranges = memory.ranges := by
      rw [GuestMemoryDirtyTracker.markRange_eq_ok marked, ← sameRanges]
      simp [GuestMemoryDirtyTracker.ranges, DirtyRegion.range_markIntersection]
    refine ⟨some later, ?_, by simp [isTracker], ?_, ?_, ?_⟩
    · simp only [GuestMemory.markDirty, isTracker, marked]
      rfl
    · rintro current ⟨⟩
      exact ⟨laterRanges, _, faithful.markRange marked⟩
    · rintro current ⟨⟩ address requested ⟨tracked, member, contained⟩
      exact GuestMemoryDirtyTracker.dirtyAt_of_markRange faithful marked requested
        (sameRanges ▸ member) contained
    · rintro address ⟨current, isCurrent, wasDirty⟩
      obtain rfl : tracker = current := Option.mem_some_iff.mp (isTracker ▸ isCurrent)
      exact ⟨later, rfl, wasDirty.markRange faithful marked⟩

theorem Wf.withContents (wf : memory.Wf) {tracker}
    (marked : Marked memory touched tracker) (contents : Contents)
    : Wf { memory with dirtyTracker := tracker, contents } :=
  ⟨wf.ordered, wf.reservationsOrdered, wf.based, wf.placed, wf.fresh, wf.views, marked.tracked⟩

/-- Bytes which change behind marked pages. -/
theorem Marked.follows {event} {tracker}
    (marked : Marked memory event.Touches tracker) (wf : memory.Wf) (contents : Contents)
    (sameRanges : ∀ range, event.Shows range (range ∈ memory.ranges) ↔ range ∈ memory.ranges)
    (value : ∀ address, valueAt { memory with dirtyTracker := tracker, contents } address =
      event.update memory.reserved address (memory.valueAt address)) :
    Follows memory event { memory with dirtyTracker := tracker, contents } := by
  refine ⟨wf.withContents marked contents, rfl, marked.tracking, fun range => (sameRanges range).symm,
    value, fun isTracked address touches mapped => ?_, fun _ address wasDirty _ =>
      marked.dirty address wasDirty⟩
  rw [← marked.tracking, Option.isSome_iff_exists] at isTracked
  obtain ⟨current, isCurrent⟩ := isTracked
  exact ⟨current, isCurrent, marked.dirtied current isCurrent address touches mapped⟩

end

section
variable {source : List UInt8} {start}

theorem accessRange_eq_none {size} (empty : accessRange start size = .ok none) : size = 0 := by
  unfold accessRange at empty
  split at empty
  · assumption
  · split at empty <;> simp at empty

theorem accessRange_eq_some {size} (nonempty : accessRange start size = .ok (some range)) :
    range.start = start ∧ range.endExclusive = start + size := by
  unfold accessRange at nonempty
  split at nonempty
  · simp at nonempty
  · split at nonempty
    · obtain rfl := Option.some.inj (Except.ok.inj nonempty)
      exact ⟨rfl, rfl⟩
    · simp at nonempty

/-- A range is mapped when its addresses are covered. -/
theorem validateMappedRange_eq_ok (wf : memory.Wf) {done} :
    memory.validateMappedRange range = .ok done ↔
      Covers memory.ranges range.start range.endExclusive := by
  rw [validateMappedRange, validateMappedFrom_eq_ok range.start_lt_endExclusive,
    ← coversFrom_iff wf.ordered range.start_lt_endExclusive]
  rfl

/-- The address map after the bytes of a covered range are written. -/
theorem valueAt_written {tracker}
    {written} (writtenWf : Wf { memory with dirtyTracker := tracker, contents := written })
    (covered : Covers memory.ranges start (start + source.length))
    {base} (placed : Placed base memory.windows)
    (replaced : ∀ region ∈ memory.regions, ∀ address, region.range.contains address = true →
      start ≤ address → address < start + source.length →
      written region.mapping.identity (region.location address) = source.getD (address - start) 0)
    (kept : ∀ identity position, (∀ region ∈ memory.regions, region.mapping.identity = identity →
        region.range.contains (base identity + position) = true →
        ¬ (start ≤ base identity + position ∧ base identity + position < start + source.length)) →
      written identity position = memory.contents identity position) (address : Nat) :
    valueAt { memory with dirtyTracker := tracker, contents := written } address =
      (MemoryEvent.write start source).update memory.reserved address (memory.valueAt address) := by
  rw [MemoryEvent.update]
  split
  case isTrue inside =>
    obtain ⟨_, member, contained⟩ := covered address inside.1 inside.2
    obtain ⟨region, inRegions, rfl⟩ := mem_map.mp member
    rw [writtenWf.valueAt_eq (mem_append_left _ inRegions) contained,
      ← replaced region inRegions address contained inside.1 inside.2]
  case isFalse outside =>
    refine valueAt_congr rfl fun window member contained => kept _ _ fun region _ _ _ inside => ?_
    rw [placed.base_add_location member (GuestMemoryRange.contains_iff.mp contained).1] at inside
    exact outside inside

variable (wf : memory.Wf)
include wf

/-- A successful write follows its event. -/
theorem writeSlice_follows (wrote : memory.writeSlice source start = (.ok (), next)) :
    Follows memory (.write start source) next := by
  unfold writeSlice at wrote
  split at wrote
  · simp at wrote
  case h_2 empty =>
    obtain ⟨-, rfl⟩ := Prod.mk.inj wrote
    have nothing : source.length = 0 := accessRange_eq_none empty
    refine (wf.unmarked fun address touches => ?_).follows wf memory.contents (fun _ => Iff.rfl)
      fun address => ?_
    · simp only [MemoryEvent.Touches] at touches
      omega
    · rw [MemoryEvent.update, if_neg (by omega)]
  case h_3 range nonempty =>
    obtain ⟨rfl, stop⟩ := accessRange_eq_some nonempty
    split at wrote
    · simp at wrote
    case h_2 mapped =>
      have covered := (validateMappedRange_eq_ok wf).mp mapped
      obtain ⟨tracker, marks, marked⟩ := wf.markDirty covered
      obtain ⟨base, placed⟩ := wf.placed
      obtain ⟨written, writes, replaced, kept⟩ := @writeRegions_eq memory.contents memory.regions
        source _ _ base wf.ordered covered
        (fun region member => placed region (mem_append_left _ member)) stop.symm
        range.endExclusive_lt
      simp only [marks, writes, Prod.mk.injEq, true_and] at wrote
      subst wrote
      rw [stop] at covered replaced kept
      refine Marked.follows (marked.mono fun address touches => ?_) wf written (fun _ => Iff.rfl)
        (valueAt_written (wf.withContents marked written) covered placed replaced kept)
      rw [GuestMemoryRange.contains_iff, stop]
      exact touches

/-- A failed write changes nothing at all. -/
theorem writeSlice_error {error}
    (failed : memory.writeSlice source start = (.error error, next)) : next = memory := by
  unfold writeSlice at failed
  split at failed
  · exact (Prod.mk.inj failed).2.symm
  · simp at failed
  case h_3 range nonempty =>
    obtain ⟨rfl, stop⟩ := accessRange_eq_some nonempty
    split at failed
    · exact (Prod.mk.inj failed).2.symm
    case h_2 mapped =>
      -- Nothing past the validation fails.
      have covered := (validateMappedRange_eq_ok wf).mp mapped
      obtain ⟨tracker, marks, -⟩ := wf.markDirty covered
      obtain ⟨base, placed⟩ := wf.placed
      obtain ⟨written, writes, -⟩ := @writeRegions_eq memory.contents memory.regions
        source _ _ base wf.ordered covered
        (fun region member => placed region (mem_append_left _ member)) stop.symm
        range.endExclusive_lt
      simp [marks, writes] at failed

/-- A write over covered addresses succeeds. -/
theorem Wf.writeSlice_covered (bounded : start + source.length < wordLimit)
    (covered : Covers memory.ranges start (start + source.length)) :
    ∃ next, memory.writeSlice source start = (.ok (), next) := by
  cases wrote : memory.writeSlice source start with
  | mk result next =>
    cases result with
    | ok done => exact ⟨next, rfl⟩
    | error error =>
      exfalso
      unfold writeSlice at wrote
      split at wrote
      case h_1 refused =>
        unfold accessRange at refused
        split at refused
        · simp at refused
        · simp at refused
      · simp at wrote
      case h_3 range nonempty =>
        obtain ⟨rfl, stop⟩ := accessRange_eq_some nonempty
        rw [← stop] at covered
        have mapped : memory.validateMappedRange range = .ok () :=
          (validateMappedRange_eq_ok wf).mpr covered
        obtain ⟨tracker, marks, -⟩ := wf.markDirty covered
        obtain ⟨base, placed⟩ := wf.placed
        obtain ⟨written, writes, -⟩ := @writeRegions_eq memory.contents memory.regions
          source _ _ base wf.ordered covered
          (fun region member => placed region (mem_append_left _ member)) stop.symm
          range.endExclusive_lt
        simp [mapped, marks, writes] at wrote

end
end GuestMemory
end Bangbang.Memory
