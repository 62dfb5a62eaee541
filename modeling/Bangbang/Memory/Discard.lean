import Bangbang.Memory.Transitions

/-!
# Discarding guest memory

A discard advises the host to reclaim the page-aligned interior of every region
it meets. `discarded` says from the request and the host's answers which
addresses become zeros; all of them are marked first, whatever the host answers.
-/

namespace Bangbang.Memory

open GuestMemoryRange

namespace GuestMemory

section
variable {memory next : GuestMemory} {range requested : GuestMemoryRange}
  {adviser : DiscardAdviser} {pageSize : Nat}

/-- The guest addresses of a region which a discard advises the host to reclaim. -/
def interior (adviser : DiscardAdviser) (pageSize : Nat) (requested : GuestMemoryRange)
    (region : GuestMemoryRegion) (address : Nat) : Bool :=
  let mappingStart := adviser.address region.mapping.identity + region.mappingOffset
  match (discardSegment region requested).map
      (adviseSegment pageSize mappingStart region.hostSize) with
  | some (.interior _ start size) =>
    decide (start ≠ 0 ∧ region.mappingOffset + (start - mappingStart) < wordLimit ∧
      region.range.start + (start - mappingStart) ≤ address ∧
      address < region.range.start + (start - mappingStart) + size)
  | _ => false

/-- The addresses which a discard of one region replaces by zeros: its interior,
or what a failing reclaim had reached. -/
def discards (adviser : DiscardAdviser) (pageSize : Nat) (requested : GuestMemoryRange)
    (region : GuestMemoryRegion) (address : Nat) : Bool :=
  interior adviser pageSize requested region address &&
    ((adviser.reclaim region.range).isOk ||
      adviser.residue region.mapping.identity (region.location address))

/-- The addresses which a discard replaces by zeros. -/
def discarded (memory : GuestMemory) (requested : GuestMemoryRange) (adviser : DiscardAdviser)
    (address : Nat) : Bool :=
  match adviser.hostPageSize with
  | .error _ => false
  | .ok pageSize =>
    !memory.protectedLazy && (memory.validateMappedRange requested).isOk &&
      !decide (pageSize = 0 ∨ !isPowerOfTwo pageSize) &&
      memory.regions.any (discards adviser pageSize requested · address)

variable {segment : GuestMemorySegment}

/-- The interior of a segment, as offsets into the region. -/
theorem adviseSegment_interior {mappingStart hostSize skipped start size} (positive : 0 < pageSize)
    (advice : adviseSegment pageSize mappingStart hostSize segment = .interior skipped start size) :
    mappingStart + segment.offset ≤ start ∧ 0 < size ∧
      start + size ≤ mappingStart + segment.offset + segment.size := by
  unfold adviseSegment at advice
  split at advice
  · simp at advice
  · split at advice
    · simp at advice
    · simp only at advice
      split at advice
      case h_1 segmentEnd adviceStart ends starts =>
        split at advice
        · simp at advice
        · simp only [Advice.interior.injEq] at advice
          obtain ⟨-, rfl, rfl⟩ := advice
          rw [checkedAdd_eq_some] at ends
          obtain ⟨above, -⟩ := alignUp_eq_some starts
          have remainder := Nat.mod_lt segmentEnd positive
          unfold alignDown at *
          omega
      · simp at advice

variable {region : GuestMemoryRegion}

/-- A segment lies in its region and in the requested range. -/
theorem discardSegment_eq_some (found : discardSegment region requested = some segment) :
    segment.offset + segment.size ≤ region.range.size ∧
      requested.start ≤ region.range.start + segment.offset ∧
      region.range.start + segment.offset + segment.size ≤ requested.endExclusive := by
  simp only [discardSegment] at found
  split at found
  · simp at found
  · obtain rfl := Option.some.inj found
    simp only [endExclusive] at *
    omega

theorem covers_region (member : region ∈ memory.regions) (low : region.range.start ≤ range.start)
    (high : range.endExclusive ≤ region.range.endExclusive) :
    Covers memory.ranges range.start range.endExclusive := fun address above below =>
  ⟨region.range, List.mem_map_of_mem member, GuestMemoryRange.contains_iff.mpr (by omega)⟩

/-- The part of a region which a discard reclaims is marked. -/
theorem Wf.markInterior (wf : memory.Wf) (member : region ∈ memory.regions) {offset size}
    (positive : 0 < size) (inside : offset + size ≤ region.range.size) :
    ∃ tracker, memory.markInterior region offset size =
        (.ok (), { memory with dirtyTracker := tracker }) ∧
      Marked memory (fun address => region.range.start + offset ≤ address ∧
        address < region.range.start + offset + size) tracker := by
  have bounded := region.range.bounded
  let reclaimed : GuestMemoryRange := ⟨region.range.start + offset, size, positive, by omega⟩
  have made : new (region.range.start + offset) size = .ok reclaimed := by
    rw [new, dif_neg (by omega), dif_pos (by omega)]
  have covered : Covers memory.ranges reclaimed.start reclaimed.endExclusive := by
    refine covers_region member (Nat.le_add_right _ _) ?_
    change region.range.start + offset + size ≤ region.range.start + region.range.size
    omega
  obtain ⟨tracker, marks, marked⟩ := wf.markDirty covered
  cases isTracker : memory.dirtyTracker with
  | none =>
    have unmarked : memory.markInterior region offset size = (.ok (), memory) := by
      simp only [GuestMemory.markInterior, isTracker]
    exact ⟨memory.dirtyTracker, unmarked, rfl, by simp [isTracker], by simp [isTracker],
      fun _ wasDirty => wasDirty⟩
  | some current =>
    refine ⟨tracker, ?_, marked.mono fun address inside =>
      contains_iff.mpr inside⟩
    have start : checkedAdd region.range.start offset = some (region.range.start + offset) := by
      rw [checkedAdd_eq_some]
      omega
    simp only [GuestMemory.markInterior, isTracker, start, made, marks]
    rfl

/-- A memory in which some addresses became zeros behind marked pages. -/
structure Discards (memory : GuestMemory) (zeroed : Nat → Bool) (next : GuestMemory) : Prop where
  same : next = { memory with dirtyTracker := next.dirtyTracker, contents := next.contents }
  marked : Marked memory (fun address => zeroed address = true) next.dirtyTracker
  value : ∀ address, next.valueAt address =
    if zeroed address then some 0 else memory.valueAt address

/-- A discard keeps the memory well formed. -/
theorem Discards.wf {zeroed} (discards : Discards memory zeroed next) (wf : memory.Wf) :
    next.Wf := by
  rw [discards.same]
  exact wf.withContents discards.marked next.contents

theorem Wf.discards_nothing (wf : memory.Wf) {zeroed}
    (nothing : ∀ address, zeroed address = false) : Discards memory zeroed memory :=
  ⟨rfl, wf.unmarked (by simp [nothing]), by simp [nothing]⟩

/-- Two discards zero what either of them zeroes. -/
theorem Discards.trans {first second middle} (earlier : Discards memory first middle)
    (later : Discards middle second next) :
    Discards memory (fun address => first address || second address) next := by
  have middleRanges : middle.ranges = memory.ranges := by
    rw [earlier.same]
    rfl
  refine ⟨?_, ⟨later.marked.tracking.trans earlier.marked.tracking, ?_, ?_, ?_⟩, fun address => ?_⟩
  · have := later.same
    rw [earlier.same] at this
    exact this
  · exact fun current isCurrent => middleRanges ▸ later.marked.tracked current isCurrent
  · intro current isCurrent address zeroed mapped
    rcases Bool.or_eq_true _ _ |>.mp zeroed with inFirst | inSecond
    · have isTracked : middle.dirtyTracker.isSome = true := by
        rw [← later.marked.tracking]
        exact Option.isSome_of_mem isCurrent
      obtain ⟨between, isBetween⟩ := Option.isSome_iff_exists.mp isTracked
      obtain ⟨other, isOther, dirty⟩ := later.marked.dirty address
        ⟨between, isBetween, earlier.marked.dirtied between isBetween address inFirst mapped⟩
      exact Option.mem_unique isOther isCurrent ▸ dirty
    · refine later.marked.dirtied current isCurrent address inSecond ?_
      rwa [Mapped, middleRanges]
  · exact fun address wasDirty => later.marked.dirty address (earlier.marked.dirty address wasDirty)
  · rw [later.value, earlier.value]
    cases first address <;> cases second address <;> rfl

variable (wf : memory.Wf)
include wf

/-- Reclaiming the interior of a region zeros what the host has reached. -/
theorem Wf.reclaimInterior (adviser : DiscardAdviser) (member : region ∈ memory.regions)
    {offset size} (inside : offset + size ≤ region.range.size) {tracker}
    (marked : Marked memory (fun address => region.range.start + offset ≤ address ∧
      address < region.range.start + offset + size) tracker) :
    Discards memory
      (fun address => decide (region.mappingOffset + offset < wordLimit ∧
          region.range.start + offset ≤ address ∧ address < region.range.start + offset + size) &&
        ((adviser.reclaim region.range).isOk ||
          adviser.residue region.mapping.identity (region.location address)))
      (GuestMemory.reclaimInterior { memory with dirtyTracker := tracker } adviser region offset
        size).2 := by
  unfold GuestMemory.reclaimInterior
  cases sum : checkedAdd region.mappingOffset offset with
  | none =>
    have overflow : ¬ region.mappingOffset + offset < wordLimit := by
      simpa [checkedAdd] using sum
    refine ⟨rfl, marked.mono fun address zeroed => ?_, fun address => ?_⟩
    · simp [overflow] at zeroed
    · simp only [overflow, false_and, decide_false, Bool.false_and, Bool.false_eq_true, if_false]
      rfl
  | some position =>
    obtain ⟨bounded, rfl⟩ := checkedAdd_eq_some.mp sum
    dsimp only
    refine ⟨rfl, marked.mono fun address zeroed => ?_, fun address => ?_⟩
    · simp only [Bool.and_eq_true, decide_eq_true_eq] at zeroed
      exact zeroed.1.2
    · obtain ⟨base, placed⟩ := wf.placed
      have window : region ∈ memory.windows := List.mem_append_left _ member
      have home := placed region window
      split
      case isTrue zeroed =>
        simp only [Bool.and_eq_true, decide_eq_true_eq] at zeroed
        obtain ⟨⟨-, low, high⟩, reached⟩ := zeroed
        have contained : region.range.contains address = true := by
          rw [contains_iff, endExclusive]
          omega
        rw [(wf.withContents marked _).valueAt_eq window contained]
        simp only [Contents.zero, reached, Bool.and_true, decide_eq_true_eq, true_and]
        rw [if_pos (by unfold GuestMemoryRegion.location; omega)]
      case isFalse kept =>
        refine valueAt_congr rfl fun other otherMember contained => ?_
        have found := placed.base_add_location otherMember
          (contains_iff.mp contained).1
        simp only [Contents.zero, Bool.and_eq_true, decide_eq_true_eq]
        refine if_neg ?_
        rintro ⟨sameMapping, ⟨low, high⟩, reached⟩
        rw [sameMapping] at found
        -- The other window shows the same cell, so it shows the interior.
        have sameLocation : region.location address = other.location address := by
          unfold GuestMemoryRegion.location at *
          omega
        refine kept ?_
        rw [sameLocation, reached, Bool.and_true, decide_eq_true_eq]
        omega

/-- The discard of a region zeroes what the host reclaimed of it. -/
theorem discardRegion_discards (member : region ∈ memory.regions) (positive : 0 < pageSize)
    (outcome : GuestMemoryDiscardOutcome) :
    Discards memory (discards adviser pageSize requested region)
      (discardRegion adviser pageSize requested (outcome, memory) region).2 := by
  unfold discardRegion
  cases found : discardSegment region requested with
  | none => exact wf.discards_nothing (by simp [discards, interior, found])
  | some segment =>
    simp only
    cases advice : adviseSegment pageSize
        (adviser.address region.mapping.identity + region.mappingOffset) region.hostSize
        segment with
    | failed | skipped => exact wf.discards_nothing (by simp [discards, interior, found, advice])
    | interior skipped start size =>
      simp only
      split
      case isTrue null =>
        exact wf.discards_nothing (by simp [discards, interior, found, advice, null])
      case isFalse notNull =>
        obtain ⟨low, sizePositive, high⟩ := adviseSegment_interior positive advice
        obtain ⟨insideRegion, -, -⟩ := discardSegment_eq_some found
        obtain ⟨offset, isOffset⟩ : ∃ offset, start - (adviser.address region.mapping.identity +
          region.mappingOffset) = offset := ⟨_, rfl⟩
        have inside : offset + size ≤ region.range.size := by omega
        obtain ⟨tracker, marks, marked⟩ := wf.markInterior member sizePositive inside
        have reclaimed := wf.reclaimInterior adviser member inside marked
        have same : discards adviser pageSize requested region = fun address =>
            decide (region.mappingOffset + offset < wordLimit ∧
              region.range.start + offset ≤ address ∧
              address < region.range.start + offset + size) &&
            ((adviser.reclaim region.range).isOk ||
              adviser.residue region.mapping.identity (region.location address)) := by
          funext address
          simp [discards, interior, found, advice, notNull, isOffset]
        rw [same]
        simp only [isOffset, marks]
        split
        case h_1 result => rwa [result] at reclaimed
        case h_2 result => rwa [result] at reclaimed

/-- The discard of several regions zeroes what the host reclaimed of any. -/
theorem foldl_discardRegion {regions : List GuestMemoryRegion}
    (members : ∀ region ∈ regions, region ∈ memory.regions) (positive : 0 < pageSize)
    (outcome : GuestMemoryDiscardOutcome) :
    Discards memory (fun address => regions.any (discards adviser pageSize requested · address))
      (regions.foldl (discardRegion adviser pageSize requested) (outcome, memory)).2 := by
  induction regions generalizing memory outcome with
  | nil => exact wf.discards_nothing (by simp)
  | cons region regions ih =>
    have step : Discards memory (discards adviser pageSize requested region)
        (discardRegion adviser pageSize requested (outcome, memory) region).2 :=
      discardRegion_discards wf (members region List.mem_cons_self) positive outcome
    have sameRegions := congrArg GuestMemory.regions step.same
    rw [List.foldl_cons]
    generalize discardRegion adviser pageSize requested (outcome, memory) region = middle at *
    obtain ⟨middleOutcome, middle⟩ := middle
    refine step.trans (ih (step.wf wf) (fun other member => ?_) middleOutcome)
    rw [sameRegions]
    exact members other (List.mem_cons_of_mem _ member)

omit wf in
/-- Nothing outside the requested range is discarded. -/
theorem contains_of_discarded {address} (zeroed : memory.discarded requested adviser address = true) :
    requested.contains address = true := by
  unfold discarded at zeroed
  split at zeroed
  · cases zeroed
  case h_2 pageSize _ =>
    simp only [Bool.and_eq_true, Bool.not_eq_true', decide_eq_false_iff_not, not_or,
      List.any_eq_true, discards] at zeroed
    obtain ⟨⟨_, pageSizeNonzero, _⟩, region, _, inside, _⟩ := zeroed
    unfold interior at inside
    cases found : discardSegment region requested with
    | none => simp [found] at inside
    | some segment =>
      simp only [found, Option.map_some] at inside
      split at inside
      case h_1 advice =>
        obtain ⟨low, _, high⟩ := adviseSegment_interior (Nat.pos_of_ne_zero pageSizeNonzero)
          (Option.some.inj advice)
        obtain ⟨_, above, below⟩ := discardSegment_eq_some found
        rw [decide_eq_true_eq] at inside
        rw [contains_iff]
        omega
      case h_2 => cases inside

/-- A discard zeros exactly the addresses that `discarded` names. -/
theorem discardRange_follows {outcome : GuestMemoryDiscardOutcome}
    (result : memory.discardRange requested adviser = (outcome, next)) :
    Follows memory (.discard requested (memory.discarded requested adviser)) next := by
  have whole : Discards memory (memory.discarded requested adviser)
      (memory.discardRange requested adviser).2 := by
    unfold discardRange
    split
    case isTrue lazy =>
      refine wf.discards_nothing fun address => ?_
      unfold discarded
      split <;> simp [lazy]
    case isFalse eager =>
      split
      case h_1 refused =>
        refine wf.discards_nothing fun address => ?_
        unfold discarded
        split <;> simp [refused, Except.isOk, Except.toBool]
      case h_2 unavailable =>
        exact wf.discards_nothing fun address => by simp [discarded, unavailable]
      case h_3 pageSize mapped available =>
        split
        case isTrue invalid =>
          refine wf.discards_nothing fun address => ?_
          simp only [discarded, available, decide_eq_true invalid, Bool.not_true, Bool.and_false,
            Bool.false_and]
        case isFalse valid =>
          have same : memory.discarded requested adviser = fun address =>
              memory.regions.any (discards adviser pageSize requested · address) := by
            funext address
            simp only [discarded, available, decide_eq_false valid, mapped, eager, Except.isOk,
              Except.toBool, Bool.not_false, Bool.and_true, Bool.true_and]
          rw [same]
          exact foldl_discardRegion wf (fun _ member => member)
            (Nat.pos_of_ne_zero (not_or.mp valid).1) _
  have whole : Discards memory (memory.discarded requested adviser) next := by rwa [result] at whole
  rw [whole.same]
  exact Marked.follows whole.marked wf _ (fun _ => Iff.rfl) (whole.same ▸ whole.value)

end
end GuestMemory
end Bangbang.Memory
