import Bangbang.Memory.Access

/-!
# Guest addresses and the bytes they denote

The regions, mappings, and shared reservations of a guest memory amount to a
partial map from guest addresses to bytes, `valueAt`. A shared reservation keeps
its bytes while no region shows them, so an address inside a reservation has a
byte before and after a region is inserted there; `byteAt` is the part of the
map which current regions show.

`Wf` is the invariant under which the map is well defined, and `Prepared` says
what a region brings along before it is inserted.
-/

namespace Bangbang.Memory

open GuestMemoryRange List

namespace GuestMemory

variable {memory next : GuestMemory} {address : Nat}

section
variable (memory : GuestMemory) (address : Nat)

/-- The ranges of all regions. -/
def ranges : List GuestMemoryRange := memory.regions.map (·.range)

/-- Everything which gives guest addresses a host byte. -/
def windows : List GuestMemoryRegion := memory.regions ++ memory.sharedReservations

/-- The byte which a guest access at an address finds. -/
def byteAt : Option UInt8 :=
  (memory.regions.find? (·.range.contains address)).map fun region =>
    memory.contents region.mapping.identity (region.location address)

/-- The byte which an address has, whether or not a region shows it. -/
def valueAt : Option UInt8 :=
  (memory.windows.find? (·.range.contains address)).map fun window =>
    memory.contents window.mapping.identity (window.location address)

/-- Whether an address lies in a shared reservation. -/
def reserved : Bool := memory.sharedReservations.any (·.range.contains address)

end

/-- The invariant of a guest memory: ordered regions which the tracker mirrors,
placed windows, and regions which show the reservation they lie in. -/
structure Wf (memory : GuestMemory) : Prop where
  ordered : Ordered memory.ranges
  reservationsOrdered : Ordered (memory.sharedReservations.map (·.range))
  based : ∀ reservation ∈ memory.sharedReservations, reservation.mappingOffset = 0
  placed : ∃ base, Placed base memory.windows
  fresh : ∀ window ∈ memory.windows, window.mapping.identity < memory.nextIdentity
  views : ∀ region ∈ memory.regions, ∀ reservation ∈ memory.sharedReservations,
    region.range.overlaps reservation.range = true →
    region.mapping.identity = reservation.mapping.identity
  tracked : ∀ tracker ∈ memory.dirtyTracker, tracker.ranges = memory.ranges ∧
    ∃ history, tracker.Faithful history

variable {first second : GuestMemoryRegion}

/-- Windows which show one address show it through one mapping. -/
theorem Wf.identity_unique (wf : memory.Wf) (firstMember : first ∈ memory.windows)
    (secondMember : second ∈ memory.windows) (inFirst : first.range.contains address = true)
    (inSecond : second.range.contains address = true) :
    first.mapping.identity = second.mapping.identity := by
  rcases mem_append.mp firstMember with firstRegion | firstReservation <;>
    rcases mem_append.mp secondMember with secondRegion | secondReservation
  · rw [wf.ordered.eq_of_contains firstRegion secondRegion inFirst inSecond]
  · exact wf.views first firstRegion second secondReservation
      (overlaps_of_contains inFirst inSecond)
  · exact (wf.views second secondRegion first firstReservation
      (overlaps_of_contains inSecond inFirst)).symm
  · rw [wf.reservationsOrdered.eq_of_contains firstReservation secondReservation inFirst inSecond]

/-- An address has one cell. -/
theorem Wf.cell_unique (wf : memory.Wf) (firstMember : first ∈ memory.windows)
    (secondMember : second ∈ memory.windows) (inFirst : first.range.contains address = true)
    (inSecond : second.range.contains address = true) :
    first.mapping.identity = second.mapping.identity ∧
      first.location address = second.location address := by
  obtain ⟨base, placed⟩ := wf.placed
  have same := wf.identity_unique firstMember secondMember inFirst inSecond
  have firstHome := placed.base_add_location firstMember (contains_iff.mp inFirst).1
  have secondHome :=
    placed.base_add_location secondMember (contains_iff.mp inSecond).1
  rw [same] at firstHome
  exact ⟨same, by omega⟩

/-- The value of an address is that of its cell. -/
theorem Wf.valueAt_eq (wf : memory.Wf) {window} (member : window ∈ memory.windows)
    (contained : window.range.contains address = true) :
    memory.valueAt address =
      some (memory.contents window.mapping.identity (window.location address)) := by
  unfold valueAt
  cases found : memory.windows.find? (·.range.contains address) with
  | none => exact absurd contained (find?_eq_none.mp found window member)
  | some first =>
    obtain ⟨sameMapping, sameLocation⟩ := wf.cell_unique (mem_of_find?_eq_some found) member
      (by simpa using find?_some found) contained
    rw [Option.map_some, sameMapping, sameLocation]

/-- Memories with the same windows have the same value at an address when those
windows show the same byte. -/
theorem valueAt_congr (sameWindows : next.windows = memory.windows)
    (sameByte : ∀ window ∈ memory.windows, window.range.contains address = true →
      next.contents window.mapping.identity (window.location address) =
        memory.contents window.mapping.identity (window.location address)) :
    next.valueAt address = memory.valueAt address := by
  unfold valueAt
  rw [sameWindows]
  cases found : memory.windows.find? (·.range.contains address) with
  | none => rfl
  | some window =>
    rw [Option.map_some, Option.map_some, sameByte window (mem_of_find?_eq_some found)
      (by simpa using find?_some found)]

theorem valueAt_eq_none (outside : ∀ window ∈ memory.windows, window.range.contains address = false) :
    memory.valueAt address = none := by
  have absent : memory.windows.find? (·.range.contains address) = none := by
    rw [find?_eq_none]
    simpa using outside
  rw [valueAt, absent, Option.map_none]

/-- Memories with the same bytes have the same value at an address which the same
windows show. -/
theorem Wf.valueAt_eq_of_windows (wf : memory.Wf) (nextWf : next.Wf)
    (sameContents : next.contents = memory.contents)
    (sameWindows : ∀ window : GuestMemoryRegion, window.range.contains address = true →
      (window ∈ next.windows ↔ window ∈ memory.windows)) :
    next.valueAt address = memory.valueAt address := by
  by_cases present : ∃ window ∈ memory.windows, window.range.contains address = true
  · obtain ⟨window, member, contained⟩ := present
    rw [wf.valueAt_eq member contained,
      nextWf.valueAt_eq ((sameWindows window contained).mpr member) contained, sameContents]
  · simp only [not_exists, not_and, Bool.not_eq_true] at present
    rw [valueAt_eq_none present, valueAt_eq_none fun window member => ?_]
    refine Bool.eq_false_iff.mpr fun contained => ?_
    have := present window ((sameWindows window contained).mp member)
    simp [contained] at this

/-- A guest access finds the value of the address. -/
theorem byteAt_eq_some (wf : memory.Wf) {byte} :
    memory.byteAt address = some byte ↔
      (∃ range ∈ memory.ranges, range.contains address = true) ∧
        memory.valueAt address = some byte := by
  unfold byteAt
  cases found : memory.regions.find? (·.range.contains address) with
  | none =>
    have absent : ¬ ∃ range ∈ memory.ranges, range.contains address = true := by
      rintro ⟨_, member, contained⟩
      obtain ⟨region, inRegions, rfl⟩ := mem_map.mp member
      exact find?_eq_none.mp found region inRegions contained
    simp [absent]
  | some region =>
    have member := mem_of_find?_eq_some found
    have contained : region.range.contains address = true := by
      simpa using find?_some found
    have present : ∃ range ∈ memory.ranges, range.contains address = true :=
      ⟨region.range, mem_map_of_mem member, contained⟩
    rw [wf.valueAt_eq (mem_append_left _ member) contained]
    simp [present]

section
variable {range : GuestMemoryRange}

/-- A range which is accepted overlaps no neighbour. -/
theorem rejectOverlap_eq_ok {neighbour error done}
    (accepted : rejectOverlap neighbour range error = .ok done) :
    ∀ region, neighbour = some region → region.range.overlaps range = false := by
  rintro region rfl
  simpa [rejectOverlap] using accepted

variable {pageSize index : Nat}

/-- A validated position separates the regions below and above the range. -/
theorem fitsAt_of_validateInsertRegion (wf : memory.Wf)
    (valid : memory.validateInsertRegion range pageSize = .ok index) :
    FitsAt memory.ranges index range ∧ ∀ reservation ∈ memory.sharedReservations,
      reservation.range.overlaps range = true →
      guestMemoryRangeContains reservation.range range = true := by
  simp only [validateInsertRegion, bind_eq_ok, pure_eq_ok] at valid
  obtain ⟨_, _, _, previous, _, following, _, reservations, rfl⟩ := valid
  refine ⟨fitsAt_takeWhile wf.ordered (rejectOverlap_eq_ok previous)
    (rejectOverlap_eq_ok following), fun reservation member overlaps => ?_⟩
  have accepted := forM_eq_ok.mp reservations reservation member
  simpa [overlaps] using accepted

/-- A region is ready to be inserted: it fits, its window is placed beside the
others, and its bytes are those of its reservation or zeros. -/
structure Prepared (memory : GuestMemory) (range : GuestMemoryRange) (index : Nat)
    (region : GuestMemoryRegion) (ready : GuestMemory) : Prop where
  spans : region.range = range
  fits : FitsAt memory.ranges index range
  same : ready = { memory with contents := ready.contents, nextIdentity := ready.nextIdentity }
  wf : ready.Wf
  fresh : region.mapping.identity < ready.nextIdentity
  placed : ∃ base, Placed base (region :: ready.windows)
  views : ∀ reservation ∈ memory.sharedReservations, range.overlaps reservation.range = true →
    region.mapping.identity = reservation.mapping.identity
  kept : ∀ address, ready.valueAt address = memory.valueAt address
  initial : ∀ address, range.contains address = true →
    some (ready.contents region.mapping.identity (region.location address)) =
      if memory.reserved address then memory.valueAt address else some 0

theorem guestMemoryRangeContains_iff {outer inner} :
    guestMemoryRangeContains outer inner = true ↔
      outer.start ≤ inner.start ∧ inner.endExclusive ≤ outer.endExclusive := by
  simp [guestMemoryRangeContains]

/-- Overlapping ranges have an address in common. -/
theorem exists_common {first second : GuestMemoryRange} (overlaps : first.overlaps second = true) :
    ∃ address, first.contains address = true ∧ second.contains address = true := by
  rw [overlaps_iff] at overlaps
  have := first.start_lt_endExclusive
  have := second.start_lt_endExclusive
  refine ⟨max first.start second.start, ?_, ?_⟩ <;>
  · rw [contains_iff]
    omega

variable (wf : memory.Wf)
include wf

/-- A view of a reservation shows the reservation's bytes. -/
theorem prepared_view {index : Nat} (fits : FitsAt memory.ranges index range)
    {reservation region : GuestMemoryRegion}
    (found : memory.sharedReservationContaining range = some reservation)
    (made : reservationView reservation range = .ok region) :
    Prepared memory range index region memory := by
  have member := mem_of_find?_eq_some found
  have window : reservation ∈ memory.windows := mem_append_right _ member
  have based := wf.based reservation member
  have holds := guestMemoryRangeContains_iff.mp (by simpa using find?_some found)
  simp only [reservationView, allocationHostSize, bind_eq_ok, rejectIf_eq_ok, okOr_eq_ok,
    pure_eq_ok] at made
  obtain ⟨_, _, _, _, _, _, rfl⟩ := made
  have contained : ∀ address, range.contains address = true →
      reservation.range.contains address = true := by
    simp only [contains_iff]
    omega
  refine ⟨rfl, fits, rfl, wf, wf.fresh reservation window, ?_, ?_, fun _ => rfl, ?_⟩
  · obtain ⟨base, placed⟩ := wf.placed
    have home := placed reservation window
    refine ⟨base, forall_mem_cons.mpr ⟨?_, placed⟩⟩
    simp only
    omega
  · intro other otherMember overlaps
    obtain ⟨address, inRange, inOther⟩ := exists_common overlaps
    rw [wf.reservationsOrdered.eq_of_contains member otherMember (contained address inRange)
      inOther]
  · intro address inRange
    have reserved : memory.reserved address = true :=
      any_eq_true.mpr ⟨reservation, member, contained address inRange⟩
    rw [if_pos reserved, wf.valueAt_eq window (contained address inRange)]
    rw [contains_iff] at inRange
    simp only [GuestMemoryRegion.location, based]
    congr 2
    omega

/-- Zeroing a fresh mapping changes no address. -/
theorem Wf.withFresh :
    let ready := { memory with
      contents := memory.contents.zero memory.nextIdentity fun _ => true
      nextIdentity := memory.nextIdentity + 1 }
    ready.Wf ∧ ∀ address, ready.valueAt address = memory.valueAt address := by
  refine ⟨⟨wf.ordered, wf.reservationsOrdered, wf.based, wf.placed, fun window member => ?_,
    wf.views, wf.tracked⟩, fun address => valueAt_congr rfl fun window member _ => ?_⟩
  · exact Nat.lt_succ_of_lt (wf.fresh window member)
  · have older := wf.fresh window member
    simp [Contents.zero, Nat.ne_of_lt older]

/-- A fresh mapping shows zeros. -/
theorem prepared_fresh (valid : memory.validateInsertRegion range pageSize = .ok index)
    (alone : memory.sharedReservationContaining range = none) {environment region ready}
    (made : memory.allocateRegion range pageSize environment = .ok (region, ready)) :
    Prepared memory range index region ready := by
  obtain ⟨fits, wholes⟩ := fitsAt_of_validateInsertRegion wf valid
  have apart : ∀ reservation ∈ memory.sharedReservations,
      reservation.range.overlaps range = false := by
    intro reservation member
    refine Bool.eq_false_iff.mpr fun overlaps => ?_
    have := find?_eq_none.mp alone reservation member
    exact this (wholes reservation member overlaps)
  simp only [allocateRegion, bind_eq_ok, pure_eq_ok, Prod.mk.injEq] at made
  obtain ⟨_, _, _, _, hostSize, _, _, _, rfl, rfl⟩ := made
  obtain ⟨readyWf, kept⟩ := wf.withFresh
  refine ⟨rfl, fits, rfl, readyWf, Nat.lt_succ_self _, ?_, ?_, kept, ?_⟩
  · obtain ⟨base, placed⟩ := wf.placed
    refine ⟨Function.update base memory.nextIdentity range.start,
      forall_mem_cons.mpr ⟨by simp, fun window member => ?_⟩⟩
    have older := wf.fresh window member
    rw [Function.update_of_ne (Nat.ne_of_lt older)]
    exact placed window member
  · intro reservation member overlaps
    have := apart reservation member
    rw [← Bool.not_eq_true, overlaps_iff] at this
    rw [overlaps_iff] at overlaps
    omega
  · intro address inRange
    have notReserved : memory.reserved address = false := by
      rw [reserved, any_eq_false]
      intro reservation member inReservation
      have := apart reservation member
      rw [overlaps_of_contains inReservation inRange] at this
      simp at this
    simp [notReserved, Contents.zero]

end
end GuestMemory
end Bangbang.Memory
