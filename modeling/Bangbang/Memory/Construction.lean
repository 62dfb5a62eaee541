import Bangbang.Memory.AddressMap

/-!
# Guest memories which the constructors build

Allocation, private file mappings, shared reservations, and dirty tracking all
arrive at well-formed memories: every mapping they ask for is a fresh one.
-/

namespace Bangbang.Memory

namespace GuestMemory

variable {memory next : GuestMemory} {range}

section
variable {map : Nat → Except GuestMemoryAllocationError Unit} {ranges regions}

/-- Regions are mapped at their ranges, each with a mapping of its own. -/
theorem mapRegions_eq_ok {identity} (mapped : mapRegions map identity ranges = .ok regions) :
    regions.map (·.range) = ranges ∧ ∀ region ∈ regions, region.mappingOffset = 0 ∧
      identity ≤ region.mapping.identity ∧ region.mapping.identity < identity + regions.length ∧
      ranges[region.mapping.identity - identity]? = some region.range := by
  induction ranges generalizing identity regions with
  | nil =>
    cases mapped
    simp
  | cons range ranges ih =>
    simp only [mapRegions, bind_eq_ok, pure_eq_ok] at mapped
    obtain ⟨hostSize, -, _, -, rest, mappedRest, rfl⟩ := mapped
    obtain ⟨sameRanges, placed⟩ := ih mappedRest
    refine ⟨by simp [sameRanges], List.forall_mem_cons.mpr ⟨by simp, fun region member => ?_⟩⟩
    obtain ⟨offset, low, high, found⟩ := placed region member
    refine ⟨offset, by omega, by simp; omega, ?_⟩
    rw [show region.mapping.identity - identity =
      region.mapping.identity - (identity + 1) + 1 by omega, List.getElem?_cons_succ, found]

/-- Fresh mappings for ordered ranges give a well-formed memory. -/
theorem wf_of_mapRegions {layout} (made : GuestMemoryLayout.new ranges = .ok layout)
    (mapped : mapRegions map 0 layout.ranges = .ok regions) (backing : GuestMemoryBacking)
    (contents : Contents) :
    Wf { emptyWithBacking backing with regions, nextIdentity := regions.length, contents } := by
  obtain ⟨sameRanges, placed⟩ := mapRegions_eq_ok mapped
  refine ⟨?_, .nil, nofun, ?_, fun window member => ?_, fun _ _ => nofun, nofun⟩
  · change Ordered (regions.map (·.range))
    rw [sameRanges]
    exact (GuestMemoryLayout.new_ordered made).2
  · refine ⟨fun identity => ((layout.ranges[identity]?).map (·.start)).getD 0,
      fun window member => ?_⟩
    obtain ⟨offset, -, -, found⟩ := placed window (by simpa [windows, emptyWithBacking] using member)
    rw [Nat.sub_zero] at found
    simp [found, offset]
  · obtain ⟨-, -, high, -⟩ := placed window (by simpa [windows, emptyWithBacking] using member)
    simpa using high

theorem emptyWithBacking_wf (backing : GuestMemoryBacking) : (emptyWithBacking backing).Wf :=
  ⟨.nil, .nil, nofun, ⟨fun _ => 0, nofun⟩, nofun, nofun, nofun⟩

variable {backing}

/-- An allocated memory is well formed. -/
theorem allocateWithMapper_wf {layout} (made : GuestMemoryLayout.new ranges = .ok layout)
    {pageSize metadata}
    (allocated : allocateWithMapper layout pageSize backing metadata map = .ok memory) :
    memory.Wf := by
  simp only [allocateWithMapper, bind_eq_ok, pure_eq_ok] at allocated
  obtain ⟨_, -, _, -, regions, mapped, rfl⟩ := allocated
  exact wf_of_mapRegions made mapped backing _

/-- A memory of private files is well formed. -/
theorem fromPrivateFileRanges_wf {extents file system layoutMetadata metadata}
    (built : fromPrivateFileRanges extents file backing system layoutMetadata metadata map =
      .ok memory) : memory.Wf := by
  simp only [fromPrivateFileRanges, bind_eq_ok, mapError_eq_ok, pure_eq_ok] at built
  obtain ⟨_, -, _, -, layout, made, _, -, _, -, _, -, _, -, regions, mapped, rfl⟩ := built
  exact wf_of_mapRegions made mapped backing _

end

/-- Tracking which is enabled, or fails, leaves the memory well formed. -/
theorem enableDirtyTracking_wf (wf : memory.Wf) {system trackerMemory result}
    (enabled : memory.enableDirtyTracking system trackerMemory = (result, next)) : next.Wf := by
  obtain rfl : (memory.enableDirtyTracking system trackerMemory).2 = next :=
    congrArg Prod.snd enabled
  unfold enableDirtyTracking
  split
  · exact wf
  · split
    · exact wf
    · split
      · exact wf
      · split
        · exact wf
        case h_2 tracker made =>
          refine ⟨wf.ordered, wf.reservationsOrdered, wf.based, wf.placed, wf.fresh, wf.views, ?_⟩
          rintro current ⟨⟩
          exact ⟨GuestMemoryDirtyTracker.new_ranges made, _, .new made⟩

/-- The first reservation above a range separates the reservations around it. -/
theorem fitsAt_findIdx {reservations : List GuestMemoryRegion}
    (ordered : Ordered (reservations.map (·.range)))
    (apart : ∀ reservation ∈ reservations, reservation.range.overlaps range = false) :
    FitsAt (reservations.map (·.range))
      (reservations.findIdx (range.start < ·.range.start)) range := by
  induction reservations with
  | nil => exact ⟨Nat.le_refl 0, by simp, by simp⟩
  | cons first reservations ih =>
    obtain ⟨firstApart, othersApart⟩ := List.forall_mem_cons.mp apart
    rw [List.findIdx_cons]
    by_cases below : range.start < first.range.start
    · simp only [below, decide_true, cond_true]
      exact .zero ordered firstApart (Nat.le_of_lt below)
    · simp only [below, decide_false, cond_false]
      exact (ih (List.Pairwise.of_cons ordered) othersApart).succ firstApart (Nat.le_of_not_lt below)

/-- A reserved aperture, or a failed reservation, leaves the memory well formed. -/
theorem reserveSharedRegion_wf (wf : memory.Wf) {environment result}
    (reserves : memory.reserveSharedRegion range environment = (result, next)) : next.Wf := by
  obtain rfl : (memory.reserveSharedRegion range environment).2 = next :=
    congrArg Prod.snd reserves
  clear reserves
  unfold reserveSharedRegion
  split
  · exact wf
  case h_2 index reservation prepared =>
    simp only [prepareReservation, bind_eq_ok, pure_eq_ok, Prod.mk.injEq, forM_eq_ok,
      rejectIf_eq_ok, Bool.not_eq_true] at prepared
    obtain ⟨_, -, _, -, hostSize, -, _, apartRegions, _, apart, _, -, _, -, _, -, _, -, rfl, rfl⟩ :=
      prepared
    have fits := fitsAt_findIdx wf.reservationsOrdered apart
    have inside : memory.sharedReservations.findIdx (range.start < ·.range.start) ≤
        memory.sharedReservations.length := by simpa using fits.inside
    generalize memory.sharedReservations.findIdx (range.start < ·.range.start) = index at *
    let reservation : GuestMemoryRegion :=
      { range, mapping := ⟨memory.nextIdentity, hostSize⟩, mappingOffset := 0, hostSize }
    have windowCases : ∀ window ∈ memory.regions ++
        memory.sharedReservations.insertIdx index reservation,
        window = reservation ∨ window ∈ memory.windows := by
      intro window member
      rw [List.mem_append, List.mem_insertIdx inside, or_left_comm] at member
      exact member.imp_right List.mem_append.mpr
    refine ⟨wf.ordered, ?_, ?_, ?_, ?_, ?_, wf.tracked⟩
    · change Ordered ((memory.sharedReservations.insertIdx index reservation).map (·.range))
      rw [List.map_insertIdx]
      exact wf.reservationsOrdered.insertIdx fits
    · intro other member
      rcases (List.mem_insertIdx inside).mp member with rfl | earlier
      · rfl
      · exact wf.based other earlier
    · obtain ⟨base, placed⟩ := wf.placed
      refine ⟨Function.update base memory.nextIdentity range.start, fun window member => ?_⟩
      rcases windowCases window member with rfl | earlier
      · simp [reservation]
      · rw [Function.update_of_ne (Nat.ne_of_lt (wf.fresh window earlier))]
        exact placed window earlier
    · intro window member
      rcases windowCases window member with rfl | earlier
      · exact Nat.lt_succ_self _
      · exact Nat.lt_succ_of_lt (wf.fresh window earlier)
    · intro region regionMember other member overlaps
      rcases (List.mem_insertIdx inside).mp member with rfl | earlier
      · rw [apartRegions region regionMember] at overlaps
        simp at overlaps
      · exact wf.views region regionMember other earlier overlaps

end GuestMemory
end Bangbang.Memory
