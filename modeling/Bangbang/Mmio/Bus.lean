import Bangbang.Mmio.Dispatcher

/-!
# The bus as a set of regions

Insertion and lookup search among the neighbours of one position. On a bus whose regions
ascend without overlap both are about the whole set: an insertion adds a region which
meets no other, and a lookup finds the one region around the access.
-/

namespace Bangbang.Mmio

open Memory GuestMemoryRange List

namespace MmioBus

/-- The regions ascend without overlap. -/
def Sorted (bus : MmioBus) : Prop := Ordered (bus.regions.map MmioRegion.range)

variable {bus next : MmioBus} {id start size region}

/-- Regions of a sorted bus are the same or do not meet. -/
theorem Sorted.apart (sorted : bus.Sorted) {first second} (isFirst : first ∈ bus.regions)
    (isSecond : second ∈ bus.regions) (different : first ≠ second) :
    first.range.overlaps second.range = false := by
  rw [← Bool.not_eq_true, overlaps_iff]
  rintro ⟨below, above⟩
  have nonempty := first.range.start_lt_endExclusive
  have otherNonempty := second.range.start_lt_endExclusive
  -- The larger start would be in both regions.
  have inFirst : first.range.contains (max first.range.start second.range.start) = true :=
    contains_iff.mpr (by omega)
  have inSecond : second.range.contains (max first.range.start second.range.start) = true :=
    contains_iff.mpr (by omega)
  exact different (Ordered.eq_of_contains sorted isFirst isSecond inFirst inSecond)

/-- A bus which loses regions stays sorted. -/
theorem Sorted.filter (sorted : bus.Sorted) (test : MmioRegion → Bool) :
    Sorted ⟨bus.regions.filter test⟩ :=
  List.Pairwise.sublist (filter_sublist.map _) sorted

theorem rejectOverlap_eq_ok {existing done} :
    rejectOverlap existing region = .ok done ↔
      ∀ other, existing = some other → other.range.overlaps region.range = false := by
  cases existing <;> simp [rejectOverlap]

theorem new_eq_ok : MmioRegion.new id start size = .ok region ↔
    0 < size ∧ start + size < wordLimit ∧ region.id = id ∧ region.range.start = start ∧
      region.range.size = size := by
  simp only [MmioRegion.new, bind_eq_ok, pure_eq_ok]
  constructor
  · rintro ⟨range, made, rfl⟩
    obtain ⟨rfl, rfl⟩ := new_eq_ok made
    exact ⟨range.positive, range.bounded, rfl, rfl, rfl⟩
  · rintro ⟨_, _, rfl, rfl, rfl⟩
    exact ⟨region.range, new_self _, rfl⟩

/-- An inserted region meets no other, and is added to the set. -/
theorem insert_eq_ok (sorted : bus.Sorted) (inserted : bus.insert id start size = .ok (next, region)) :
    region.id = id ∧ region.range.start = start ∧ region.range.size = size ∧ next.Sorted ∧
      (∀ other ∈ bus.regions, other.range.overlaps region.range = false) ∧
        ∀ other, other ∈ next.regions ↔ other = region ∨ other ∈ bus.regions := by
  simp only [MmioBus.insert, bind_eq_ok, mapError_eq_ok, rejectOverlap_eq_ok, new_eq_ok, pure_eq_ok,
    Prod.mk.injEq] at inserted
  obtain ⟨made, ⟨_, _, isId, starts, sized⟩, _, previous, _, following, rfl, rfl⟩ := inserted
  have fits := fitsAt_takeWhile sorted previous following
  have inside : bus.partitionPoint (fun existing => existing.range.start < made.range.start) ≤
      bus.regions.length := by simpa [partitionPoint] using fits.inside
  refine ⟨isId, starts, sized, ?_, ?_, ?_⟩
  · have ordered := sorted.insertIdx fits
    rwa [← map_insertIdx] at ordered
  · intro other isOther
    exact fits.apart (mem_map_of_mem isOther)
  · intro other
    exact mem_insertIdx inside

/-- A range which overlaps no region is inserted. -/
theorem insert_isOk (id : MmioRegionId) {range}
    (apart : ∀ other ∈ bus.regions, other.range.overlaps range = false) :
    ∃ next, bus.insert id range.start range.size = .ok (next, ⟨id, range⟩) := by
  have made : MmioRegion.new id range.start range.size = .ok ⟨id, range⟩ :=
    new_eq_ok.mpr ⟨range.positive, range.bounded, rfl, rfl, rfl⟩
  have free : ∀ existing : Option MmioRegion, (∀ other, existing = some other → other ∈ bus.regions) →
      rejectOverlap existing ⟨id, range⟩ = .ok () := by
    intro existing isRegion
    exact rejectOverlap_eq_ok.mpr fun other found => apart other (isRegion other found)
  have previous := free ((checkedSub (bus.partitionPoint fun existing =>
    existing.range.start < range.start) 1).bind (bus.regions[·]?)) fun other found => by
      obtain ⟨index, _, found⟩ := Option.bind_eq_some_iff.mp found
      exact mem_of_getElem? found
  have following := free bus.regions[bus.partitionPoint fun existing =>
    existing.range.start < range.start]? fun other found => mem_of_getElem? found
  simp only [MmioBus.insert, made, Except.mapError, ok_bind, previous, following]
  exact ⟨_, rfl⟩

section
variable {regions}

/-- Inserted requests are regions of the batch, apart from one another and from the bus. -/
theorem insertAll_eq_ok {requests index} (sorted : bus.Sorted)
    (inserted : bus.insertAll id index requests = .ok (next, regions)) :
    next.Sorted ∧ (∀ region ∈ regions, region.id = id ∧
        ∃ request ∈ requests, region.range.start = request.start ∧
          region.range.size = request.size) ∧
      (∀ request ∈ requests, ∃ region ∈ regions, region.id = id ∧
        region.range.start = request.start ∧ region.range.size = request.size) ∧
      (∀ region ∈ regions, ∀ other ∈ bus.regions, other.range.overlaps region.range = false) ∧
        (regions.Pairwise fun first second => first.range.overlaps second.range = false) ∧
          ∀ other, other ∈ next.regions ↔ other ∈ regions ∨ other ∈ bus.regions := by
  induction requests generalizing bus index regions with
  | nil =>
    simp only [insertAll, Except.ok.injEq, Prod.mk.injEq] at inserted
    obtain ⟨rfl, rfl⟩ := inserted
    exact ⟨sorted, nofun, nofun, nofun, .nil, by simp⟩
  | cons request requests ih =>
    simp only [insertAll, bind_eq_ok, mapError_eq_ok, pure_eq_ok, Prod.mk.injEq, Prod.exists]
      at inserted
    obtain ⟨middle, region, first, _, rest, later, rfl, rfl⟩ := inserted
    obtain ⟨isId, starts, sized, sortedMiddle, apart, members⟩ := insert_eq_ok sorted first
    obtain ⟨sortedNext, valid, complete, apartRest, disjoint, membersRest⟩ := ih sortedMiddle later
    refine ⟨sortedNext, ?_, ?_, ?_, ?_, ?_⟩
    · refine forall_mem_cons.mpr ⟨⟨isId, request, by simp, starts, sized⟩, fun other isOther => ?_⟩
      obtain ⟨isId, source, isSource, same⟩ := valid other isOther
      exact ⟨isId, source, mem_cons_of_mem _ isSource, same⟩
    · refine forall_mem_cons.mpr ⟨⟨region, mem_cons_self, isId, starts, sized⟩,
        fun other isOther => ?_⟩
      obtain ⟨made, isMade, same⟩ := complete other isOther
      exact ⟨made, mem_cons_of_mem _ isMade, same⟩
    · refine forall_mem_cons.mpr ⟨apart, fun other isOther old isOld => ?_⟩
      exact apartRest other isOther old ((members old).mpr (.inr isOld))
    · refine pairwise_cons.mpr ⟨fun other isOther => ?_, disjoint⟩
      exact apartRest other isOther region ((members region).mpr (.inl rfl))
    · intro other
      rw [membersRest, members, mem_cons]
      tauto

theorem MmioRegion.ext_of_range {first second : MmioRegion} (sameId : first.id = second.id)
    (sameStart : first.range.start = second.range.start)
    (sameSize : first.range.size = second.range.size) : first = second := by
  have ends : first.range.endExclusive = second.range.endExclusive := by
    rw [endExclusive, endExclusive, sameStart, sameSize]
  have sameRange := eq_of_start_of_endExclusive sameStart ends
  cases first
  cases second
  simp_all

/-- Regions which were put back are on the bus again. -/
theorem reinsertRegions_eq_ok (sorted : bus.Sorted)
    (inserted : MmioDispatcher.reinsertRegions id regions bus = .ok next) :
    next.Sorted ∧ ∀ other, other ∈ next.regions ↔ other ∈ regions ∨ other ∈ bus.regions := by
  induction regions generalizing bus with
  | nil =>
    simp only [MmioDispatcher.reinsertRegions, Except.ok.injEq] at inserted
    subst inserted
    exact ⟨sorted, by simp⟩
  | cons region regions ih =>
    simp only [MmioDispatcher.reinsertRegions, bind_eq_ok, mapError_eq_ok, Prod.exists] at inserted
    obtain ⟨middle, added, first, rest⟩ := inserted
    obtain ⟨isId, starts, sized, sortedMiddle, _, members⟩ := insert_eq_ok sorted first
    obtain rfl := MmioRegion.ext_of_range isId starts sized
    obtain ⟨sortedNext, membersRest⟩ := ih sortedMiddle rest
    refine ⟨sortedNext, fun other => ?_⟩
    rw [membersRest, members, mem_cons]
    tauto

/-- Regions which meet neither one another nor the bus can be put back. -/
theorem reinsertRegions_isOk (id : MmioRegionId) (sorted : bus.Sorted)
    (apart : ∀ region ∈ regions, ∀ other ∈ bus.regions, other.range.overlaps region.range = false)
    (disjoint : regions.Pairwise fun first second => first.range.overlaps second.range = false) :
    ∃ next, MmioDispatcher.reinsertRegions id regions bus = .ok next := by
  induction regions generalizing bus with
  | nil => exact ⟨bus, rfl⟩
  | cons region regions ih =>
    obtain ⟨others, disjoint⟩ := pairwise_cons.mp disjoint
    obtain ⟨apartFirst, apartRest⟩ := forall_mem_cons.mp apart
    obtain ⟨middle, inserted⟩ := insert_isOk region.id apartFirst
    obtain ⟨_, _, _, sortedMiddle, _, members⟩ := insert_eq_ok sorted inserted
    have apartMiddle : ∀ later ∈ regions, ∀ other ∈ middle.regions,
        other.range.overlaps later.range = false := by
      intro later isLater other isOther
      rcases (members other).mp isOther with rfl | old
      · exact others later isLater
      · exact apartRest later isLater other old
    obtain ⟨next, made⟩ := ih sortedMiddle apartMiddle disjoint
    refine ⟨next, ?_⟩
    rw [MmioDispatcher.reinsertRegions, inserted]
    exact made

end

/-- A lookup finds the region around an access. -/
theorem lookup_eq_ok (sorted : bus.Sorted) {access} :
    bus.lookup start size = .ok access ↔
      0 < size ∧ start + size < wordLimit ∧ access.range.start = start ∧
        access.range.size = size ∧ access.region ∈ bus.regions ∧
          access.region.range.start ≤ start ∧ start + size ≤ access.region.range.endExclusive ∧
            access.offset = start - access.region.range.start := by
  simp only [MmioBus.lookup, bind_eq_ok, mapError_eq_ok, okOr_eq_ok, rejectIf_eq_ok, pure_eq_ok,
    checkedSub_eq_some, not_not, rangeContainsRange, Bool.and_eq_true, decide_eq_true_eq]
  constructor
  · rintro ⟨range, made, index, ⟨_, rfl⟩, region, found, _, ⟨below, above⟩, rfl⟩
    obtain ⟨rfl, rfl⟩ := GuestMemoryRange.new_eq_ok made
    exact ⟨range.positive, range.bounded, rfl, rfl, List.mem_of_getElem? found, below, above, rfl⟩
  · rintro ⟨positive, bounded, rfl, rfl, isRegion, below, above, isOffset⟩
    -- The region splits the bus into regions at or below the access and regions above it.
    obtain ⟨low, high, split⟩ := List.append_of_mem isRegion
    have ordered := sorted
    rw [Sorted, split, List.map_append, List.map_cons, Ordered, List.pairwise_append,
      List.pairwise_cons] at ordered
    obtain ⟨_, ⟨highAbove, _⟩, lowBelow⟩ := ordered
    have nonempty := access.region.range.start_lt_endExclusive
    have taken : bus.partitionPoint (fun region => region.range.start ≤ access.range.start) =
        low.length + 1 := by
      have passes : ∀ region ∈ low, decide (region.range.start ≤ access.range.start) = true := by
        intro region isLow
        have := lowBelow region.range (List.mem_map_of_mem isLow) access.region.range (by simp)
        have := region.range.start_lt_endExclusive
        exact decide_eq_true (by omega)
      have stops : high.takeWhile (fun region => region.range.start ≤ access.range.start) = [] := by
        cases high with
        | nil => rfl
        | cons region high =>
          have := highAbove region.range (by simp)
          rw [List.takeWhile_cons_of_neg]
          simp only [decide_eq_true_eq]
          omega
      rw [partitionPoint, split, List.takeWhile_append_of_pos passes,
        List.takeWhile_cons_of_pos (by simpa using below), stops]
      simp
    refine ⟨access.range, GuestMemoryRange.new_self _, low.length, ⟨by omega, by omega⟩,
      access.region, by rw [split]; simp, (), ⟨below, above⟩, ?_⟩
    rw [← isOffset]

end MmioBus
end Bangbang.Mmio
