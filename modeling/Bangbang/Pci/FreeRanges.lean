import Bangbang.Pci.BarAllocator

/-!
# Free ranges

A list of ranges stands for the addresses which it holds. When the ranges increase and
leave a gap between any two of them, a block of addresses is held only if one range has
all of it. Carving an allocation out, merging a released range back and selecting a block
are described by the addresses alone.
-/

namespace Bangbang.Pci

open Memory GuestMemoryRange List

section
variable (ranges : List GuestMemoryRange)

/-- Some range has the address. -/
def Holds (address : Nat) : Prop := ∃ range ∈ ranges, range.contains address = true

/-- Ranges which increase and leave a gap between any two of them. -/
def Separated : Prop := ranges.Pairwise fun lower upper => lower.endExclusive < upper.start

/-- Every address of a block is held. -/
def HoldsBlock (start size : Nat) : Prop :=
  ∀ address, start ≤ address → address < start + size → Holds ranges address

end

section
variable {ranges others : List GuestMemoryRange} {range address}

theorem holds_iff : Holds ranges address ↔
    ∃ range ∈ ranges, range.start ≤ address ∧ address < range.endExclusive := by
  simp only [Holds, contains_iff]

@[simp] theorem not_holds_nil : ¬ Holds [] address := by
  simp [Holds]

@[simp] theorem holds_cons :
    Holds (range :: ranges) address ↔ range.contains address = true ∨ Holds ranges address := by
  simp [Holds]

@[simp] theorem holds_append :
    Holds (ranges ++ others) address ↔ Holds ranges address ∨ Holds others address := by
  simp [Holds, or_and_right, exists_or]

theorem holds_of_perm (permuted : ranges.Perm others) :
    Holds ranges address ↔ Holds others address := by
  simp only [Holds, permuted.mem_iff]

/-- Separated ranges have a gap between them. -/
theorem Separated.apart (separated : Separated ranges) {first second} (isFirst : first ∈ ranges)
    (isSecond : second ∈ ranges) (different : first ≠ second) :
    first.endExclusive < second.start ∨ second.endExclusive < first.start := by
  have either : ranges.Pairwise fun (first second : GuestMemoryRange) =>
      first.endExclusive < second.start ∨ second.endExclusive < first.start :=
    List.Pairwise.imp Or.inl separated
  have symmetric : Std.Symm fun (first second : GuestMemoryRange) =>
      first.endExclusive < second.start ∨ second.endExclusive < first.start :=
    ⟨fun _ _ => Or.symm⟩
  exact either.forall isFirst isSecond different

/-- A block which separated ranges hold lies inside one of them. -/
theorem Separated.exists_around (separated : Separated ranges) {start size} (nonempty : 0 < size)
    (held : HoldsBlock ranges start size) :
    ∃ range ∈ ranges, range.start ≤ start ∧ start + size ≤ range.endExclusive := by
  obtain ⟨range, isRange, below, above⟩ := holds_iff.mp (held start (by omega) (by omega))
  refine ⟨range, isRange, below, ?_⟩
  by_contra short
  -- The address where the range ends is held by another range, which touches this one.
  obtain ⟨other, isOther, otherBelow, otherAbove⟩ :=
    holds_iff.mp (held range.endExclusive (by omega) (by omega))
  have different : range ≠ other := by
    rintro rfl
    omega
  rcases separated.apart isRange isOther different with apart | apart
  · omega
  · omega

theorem holdsBlock_of_around {start size} (isRange : range ∈ ranges) (below : range.start ≤ start)
    (above : start + size ≤ range.endExclusive) : HoldsBlock ranges start size := by
  intro address first last
  exact holds_iff.mpr ⟨range, isRange, by omega, by omega⟩

end

section
variable {selected allocation range : GuestMemoryRange}

theorem exists_new (start size : Nat) (positive : 0 < size) (bounded : start + size < wordLimit) :
    ∃ range, GuestMemoryRange.new start size = .ok range ∧ range.start = start ∧
      range.size = size := by
  refine ⟨⟨start, size, positive, bounded⟩, ?_, rfl, rfl⟩
  rw [new, dif_neg (by omega), dif_pos bounded]

/-- What is left of a range is a range, or nothing. -/
theorem leftover_eq_ok (start : Nat) {stop} (bounded : stop < wordLimit) :
    ∃ pieces, leftover start stop = .ok pieces ∧ Separated pieces ∧
      (∀ piece ∈ pieces, start ≤ piece.start ∧ piece.endExclusive ≤ stop) ∧
        ∀ address, Holds pieces address ↔ start ≤ address ∧ address < stop := by
  unfold leftover
  split
  · rename_i nonempty
    obtain ⟨piece, made, atStart, ofSize⟩ := exists_new start (stop - start) (by omega)
      (by omega)
    have stops : piece.endExclusive = stop := by
      unfold endExclusive
      omega
    refine ⟨[piece], by simp [made, Except.mapError, pure, Except.pure],
      pairwise_singleton _ _, ?_, ?_⟩
    · simp [atStart, stops]
    · intro address
      simp [contains_iff, atStart, stops]
  · refine ⟨[], rfl, .nil, nofun, fun address => ?_⟩
    simp only [not_holds_nil, false_iff]
    omega

/-- What is left of one range. -/
theorem carve_eq_ok (below : selected.start ≤ allocation.start)
    (above : allocation.endExclusive ≤ selected.endExclusive) (range : GuestMemoryRange) :
    ∃ pieces, carve selected allocation range = .ok pieces ∧ Separated pieces ∧
      (∀ piece ∈ pieces, range.start ≤ piece.start ∧ piece.endExclusive ≤ range.endExclusive) ∧
        ∀ address, Holds pieces address ↔ range.contains address = true ∧
          ¬ (range = selected ∧ allocation.contains address = true) := by
  unfold carve
  split
  · rename_i different
    refine ⟨[range], rfl, pairwise_singleton _ _, by simp, fun address => ?_⟩
    simp [different]
  · rename_i same
    obtain rfl : range = selected := not_not.mp same
    have first := allocation.start_lt_endExclusive
    have last := range.endExclusive_lt
    obtain ⟨left, madeLeft, separatedLeft, insideLeft, holdsLeft⟩ :=
      leftover_eq_ok range.start (by omega : allocation.start < wordLimit)
    obtain ⟨right, madeRight, separatedRight, insideRight, holdsRight⟩ :=
      leftover_eq_ok allocation.endExclusive last
    refine ⟨left ++ right, by simp [madeLeft, madeRight, pure, Except.pure], ?_, ?_, ?_⟩
    · refine pairwise_append.mpr ⟨separatedLeft, separatedRight, ?_⟩
      intro lower isLower upper isUpper
      have := insideLeft lower isLower
      have := insideRight upper isUpper
      omega
    · intro piece isPiece
      rcases mem_append.mp isPiece with isLeft | isRight
      · have := insideLeft piece isLeft
        omega
      · have := insideRight piece isRight
        omega
    · intro address
      simp only [holds_append, holdsLeft, holdsRight, contains_iff, true_and]
      omega

variable {ranges}

/-- What is left of every range, in the same order. -/
theorem mapM_carve (below : selected.start ≤ allocation.start)
    (above : allocation.endExclusive ≤ selected.endExclusive) (separated : Separated ranges) :
    ∃ pieces, ranges.mapM (carve selected allocation) = .ok pieces ∧ Separated pieces.flatten ∧
      (∀ piece ∈ pieces.flatten, ∃ range ∈ ranges,
        range.start ≤ piece.start ∧ piece.endExclusive ≤ range.endExclusive) ∧
        ∀ address, Holds pieces.flatten address ↔ ∃ range ∈ ranges,
          range.contains address = true ∧
            ¬ (range = selected ∧ allocation.contains address = true) := by
  induction ranges with
  | nil => exact ⟨[], rfl, .nil, nofun, by simp⟩
  | cons range ranges ih =>
    obtain ⟨apart, separated⟩ := pairwise_cons.mp separated
    obtain ⟨first, made, separatedFirst, insideFirst, holdsFirst⟩ :=
      carve_eq_ok below above range
    obtain ⟨rest, madeRest, separatedRest, insideRest, holdsRest⟩ := ih separated
    refine ⟨first :: rest, by simp [mapM_cons, made, madeRest, pure, Except.pure], ?_, ?_, ?_⟩
    · refine pairwise_append.mpr ⟨separatedFirst, separatedRest, ?_⟩
      intro lower isLower upper isUpper
      obtain ⟨around, isAround, starts, _⟩ := insideRest upper isUpper
      have ends := (insideFirst lower isLower).2
      have gap := apart around isAround
      omega
    · intro piece isPiece
      rcases mem_append.mp isPiece with isFirst | isRest
      · exact ⟨range, mem_cons_self, insideFirst piece isFirst⟩
      · obtain ⟨around, isAround, inside⟩ := insideRest piece isRest
        exact ⟨around, mem_cons_of_mem _ isAround, inside⟩
    · intro address
      rw [flatten_cons, holds_append, holdsFirst, holdsRest]
      simp

/-- Carving an allocation out of the range which has it takes exactly its addresses. -/
theorem mapM_carve_selected (below : selected.start ≤ allocation.start)
    (above : allocation.endExclusive ≤ selected.endExclusive) (separated : Separated ranges)
    (isFree : selected ∈ ranges) :
    ∃ pieces, ranges.mapM (carve selected allocation) = .ok pieces ∧ Separated pieces.flatten ∧
      ∀ address, Holds pieces.flatten address ↔
        Holds ranges address ∧ ¬ allocation.contains address = true := by
  obtain ⟨pieces, made, separatedPieces, _, holds⟩ := mapM_carve below above separated
  refine ⟨pieces, made, separatedPieces, fun address => (holds address).trans ?_⟩
  constructor
  · rintro ⟨range, isRange, contained, kept⟩
    refine ⟨⟨range, isRange, contained⟩, fun taken => kept ⟨?_, taken⟩⟩
    -- The allocation lies in the selected range, so no other range has its addresses.
    by_contra different
    rw [contains_iff] at contained taken
    rcases separated.apart isRange isFree different with apart | apart
    · omega
    · omega
  · rintro ⟨⟨range, isRange, contained⟩, kept⟩
    exact ⟨range, isRange, contained, fun taken => kept taken.2⟩

end

section
variable {ranges : List GuestMemoryRange} {previous}

theorem sortByStart_perm (ranges : List GuestMemoryRange) : (sortByStart ranges).Perm ranges :=
  mergeSort_perm ..

/-- Separated ranges are sorted already. -/
theorem sortByStart_of_separated (separated : Separated ranges) : sortByStart ranges = ranges := by
  refine mergeSort_of_pairwise (separated.imp fun {lower upper} apart => ?_)
  have := lower.start_lt_endExclusive
  exact decide_eq_true (by omega)

/-- Sorting ranges which do not overlap puts them one after the other. -/
theorem ordered_sortByStart
    (disjoint : ranges.Pairwise fun first second => first.overlaps second = false) :
    Ordered (sortByStart ranges) := by
  have ordered := @ordered_mergeSort GuestMemoryRange id ranges disjoint
  rwa [map_id] at ordered

/-- The merge loop keeps the addresses and leaves gaps. -/
theorem coalesceFrom_eq_some (ordered : Ordered (previous :: ranges)) :
    ∃ coalesced, coalesceFrom previous ranges = some coalesced ∧ Separated coalesced ∧
      (∀ range ∈ coalesced, previous.start ≤ range.start) ∧
        ∀ address, Holds coalesced address ↔ Holds (previous :: ranges) address := by
  induction ranges generalizing previous with
  | nil => exact ⟨[previous], rfl, pairwise_singleton _ _, by simp, fun _ => Iff.rfl⟩
  | cons range ranges ih =>
    obtain ⟨above, rest⟩ := pairwise_cons.mp ordered
    obtain ⟨later, _⟩ := pairwise_cons.mp rest
    have follows := above range mem_cons_self
    have nonempty := previous.start_lt_endExclusive
    have rangeNonempty := range.start_lt_endExclusive
    have apart : previous.overlaps range = false := by
      rw [← Bool.not_eq_true, overlaps_iff]
      omega
    rw [coalesceFrom, apart]
    by_cases adjacent : previous.isAdjacentTo range = true
    · have touches : previous.endExclusive = range.start := by
        simp only [isAdjacentTo, Bool.or_eq_true, beq_iff_eq] at adjacent
        omega
      have bounded := range.endExclusive_lt
      obtain ⟨merged, made, starts, sized⟩ := exists_new previous.start
        (range.endExclusive - previous.start) (by omega) (by omega)
      have stops : merged.endExclusive = range.endExclusive := by
        rw [endExclusive, starts, sized]
        omega
      have orderedMerged : Ordered (merged :: ranges) := by
        refine pairwise_cons.mpr ⟨fun upper isUpper => ?_, (pairwise_cons.mp rest).2⟩
        rw [stops]
        exact later upper isUpper
      obtain ⟨coalesced, result, separated, lowest, holds⟩ := ih orderedMerged
      refine ⟨coalesced, ?_, separated, by rwa [← starts], fun address => ?_⟩
      · simp [adjacent, made, Except.toOption, result]
      · rw [holds, holds_cons, holds_cons, holds_cons, contains_iff,
          contains_iff, contains_iff, starts, stops, ← or_assoc]
        refine or_congr_left ?_
        omega
    · have gap : previous.endExclusive < range.start := by
        simp only [isAdjacentTo, Bool.or_eq_true, beq_iff_eq] at adjacent
        omega
      obtain ⟨coalesced, result, separated, lowest, holds⟩ := ih rest
      refine ⟨previous :: coalesced, ?_, ?_, ?_, fun address => ?_⟩
      · simp [adjacent, result]
      · refine pairwise_cons.mpr ⟨fun upper isUpper => ?_, separated⟩
        exact Nat.lt_of_lt_of_le gap (lowest upper isUpper)
      · refine forall_mem_cons.mpr ⟨Nat.le_refl _, fun upper isUpper => ?_⟩
        have := lowest upper isUpper
        omega
      · rw [holds_cons, holds, holds_cons, holds_cons, holds_cons]

/-- Coalescing separates the ranges and keeps what they hold. -/
theorem coalesceRanges_eq_some (ordered : Ordered ranges) :
    ∃ coalesced, coalesceRanges true ranges = some coalesced ∧ Separated coalesced ∧
      ∀ address, Holds coalesced address ↔ Holds ranges address := by
  cases ranges with
  | nil => exact ⟨[], rfl, .nil, fun _ => Iff.rfl⟩
  | cons range ranges =>
    obtain ⟨coalesced, result, separated, _, holds⟩ := coalesceFrom_eq_some ordered
    exact ⟨coalesced, result, separated, holds⟩

end

section
variable {size ranges}

/-- An aligned start at or above a value is not below the rounded value. -/
theorem alignUp_le {value next start} (aligned : alignUp value size = some next)
    (divides : size ∣ start) (above : value ≤ start) : next ≤ start := by
  obtain ⟨_, ⟨low, rfl⟩, _, close⟩ := alignUp_eq_some aligned
  obtain ⟨high, rfl⟩ := divides
  have less : size * low < size * (high + 1) := by
    rw [Nat.mul_succ]
    omega
  exact Nat.mul_le_mul_left size (Nat.lt_succ_iff.mp (Nat.lt_of_mul_lt_mul_left less))

theorem alignUp_eq_none {value} (positive : 0 < size) (overflows : alignUp value size = none) :
    wordLimit < value + size := by
  by_contra fits
  have mask : checkedSub size 1 = some (size - 1) := checkedSub_eq_some.mpr ⟨by omega, rfl⟩
  have sum : checkedAdd value (size - 1) = some (value + (size - 1)) :=
    checkedAdd_eq_some.mpr ⟨by omega, rfl⟩
  simp [alignUp, mask, sum] at overflows

/-- The selected block is aligned, lies in its range, and no lower block would do. -/
theorem selectFree_eq_ok {selected allocation} (ordered : Ordered ranges)
    (found : selectFree size ranges = .ok (selected, allocation)) :
    selected ∈ ranges ∧ allocation.size = size ∧ size ∣ allocation.start ∧
      selected.start ≤ allocation.start ∧ allocation.endExclusive ≤ selected.endExclusive ∧
        ∀ range ∈ ranges, ∀ start, size ∣ start → range.start ≤ start →
          start + size ≤ range.endExclusive → allocation.start ≤ start := by
  induction ranges with
  | nil => cases found
  | cons range ranges ih =>
    obtain ⟨above, rest⟩ := pairwise_cons.mp ordered
    simp only [selectFree, bind_eq_ok, okOr_eq_ok, checkedAdd_eq_some] at found
    obtain ⟨start, aligned, _, ⟨fits, rfl⟩, found⟩ := found
    obtain ⟨starts, divides, _, _⟩ := alignUp_eq_some aligned
    split at found
    · rename_i room
      simp only [bind_eq_ok, mapError_eq_ok, pure_eq_ok, Prod.mk.injEq] at found
      obtain ⟨block, made, rfl, rfl⟩ := found
      obtain ⟨rfl, rfl⟩ := new_eq_ok made
      refine ⟨mem_cons_self, rfl, divides, starts, room, ?_⟩
      intro other isOther candidate divisible inside _
      refine alignUp_le aligned divisible ?_
      rcases mem_cons.mp isOther with rfl | later
      · exact inside
      · have gap := above other later
        omega
    · rename_i small
      obtain ⟨isFree, sized, aligned', below, stops, least⟩ := ih rest found
      refine ⟨mem_cons_of_mem _ isFree, sized, aligned', below, stops, ?_⟩
      intro other isOther candidate divisible inside ends
      rcases mem_cons.mp isOther with rfl | later
      · have lowest := alignUp_le aligned divisible inside
        omega
      · exact least other later candidate divisible inside ends

/-- No range has room for an aligned block when none is selected. -/
theorem selectFree_eq_error {error} (positive : 0 < size) (ordered : Ordered ranges)
    (failed : selectFree size ranges = .error error) :
    ∀ range ∈ ranges, ∀ start, size ∣ start → range.start ≤ start →
      ¬ start + size ≤ range.endExclusive := by
  induction ranges with
  | nil => nofun
  | cons range ranges ih =>
    obtain ⟨above, rest⟩ := pairwise_cons.mp ordered
    -- The starts increase, so an overflow here is an overflow at every later range.
    have later : ∀ other ∈ range :: ranges, range.start ≤ other.start := by
      refine forall_mem_cons.mpr ⟨Nat.le_refl _, fun other isOther => ?_⟩
      have gap := above other isOther
      have nonempty := range.start_lt_endExclusive
      omega
    intro other isOther candidate divisible inside ends
    have starts := later other isOther
    have bounded := other.endExclusive_lt
    simp only [selectFree, bind_eq_error, okOr_eq_error, okOr_eq_ok] at failed
    rcases failed with ⟨overflows, _⟩ | ⟨start, aligned, failed⟩
    · have := alignUp_eq_none positive overflows
      omega
    have lowest := alignUp_le aligned divisible (by omega : range.start ≤ candidate)
    rcases failed with ⟨overflows, _⟩ | ⟨stop, isStop, failed⟩
    · have := checkedAdd_eq_some.mpr ⟨(by omega : start + size < wordLimit), rfl⟩
      rw [overflows] at this
      cases this
    · obtain ⟨fits, rfl⟩ := checkedAdd_eq_some.mp isStop
      split at failed
      · obtain ⟨block, made, _⟩ := exists_new start size positive fits
        simp [made, Except.mapError, pure, Except.pure] at failed
      · rename_i small
        rcases mem_cons.mp isOther with rfl | isLater
        · omega
        · exact ih rest failed other isLater candidate divisible inside ends

end
end Bangbang.Pci
