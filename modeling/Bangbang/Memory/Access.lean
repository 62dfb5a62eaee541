import Bangbang.Memory.DirtyHistory
import Bangbang.Memory.GuestMemory

/-!
# Reading and writing guest memory

An access walks the ordered regions and copies one segment of each. Over regions
which cover the accessed addresses the walk amounts to one byte map: a read
returns the byte of every address, a write replaces the bytes of exactly the
accessed addresses.

Two windows never show the same host byte under different addresses because
every mapping has one guest address at which it starts (`Placed`).
-/

namespace Bangbang.Memory

open GuestMemoryRange List

namespace GuestMemoryRegion

/-- The position of a guest address in the region's mapping. -/
def location (region : GuestMemoryRegion) (address : Nat) : Nat :=
  region.mappingOffset + (address - region.range.start)

end GuestMemoryRegion

/-- Every mapping starts at one guest address, whichever window shows it. -/
def Placed (base : Nat → Nat) (regions : List GuestMemoryRegion) : Prop :=
  ∀ region ∈ regions, region.range.start = base region.mapping.identity + region.mappingOffset

/-- The location of an address counts from the base of its mapping. -/
theorem Placed.base_add_location {base regions} (placed : Placed base regions) {region}
    (member : region ∈ regions) {address} (above : region.range.start ≤ address) :
    base region.mapping.identity + region.location address = address := by
  have := placed region member
  unfold GuestMemoryRegion.location
  omega

section
variable {contents : Contents} {regions : List GuestMemoryRegion} {range : GuestMemoryRange}

/-- A tracked range is one which the regions cover. -/
theorem validateTrackedFrom_eq_ok {regions current done} :
    validateTrackedFrom range current regions = .ok done ↔
      coversFrom range.endExclusive current (regions.map (·.range)) = true := by
  induction regions generalizing current with
  | nil => simp [validateTrackedFrom, coversFrom]
  | cons region regions ih =>
    rw [validateTrackedFrom, map_cons, coversFrom]
    split
    · exact ih
    · split
      · simp
      · simp only
        by_cases last : range.endExclusive ≤ region.range.endExclusive
        · simp [last]
        · rw [if_neg (by omega), if_neg last, show min region.range.endExclusive
            range.endExclusive = region.range.endExclusive by omega]
          exact ih

/-- A mapped range is one which the regions cover. -/
theorem validateMappedFrom_eq_ok {current done} (before : current < range.endExclusive) :
    validateMappedFrom range current regions = .ok done ↔
      coversFrom range.endExclusive current (regions.map (·.range)) = true := by
  induction regions generalizing current with
  | nil => simp [validateMappedFrom, coversFrom]
  | cons region regions ih =>
    have bounded := range.endExclusive_lt
    rw [validateMappedFrom, List.map_cons, coversFrom]
    split
    · exact ih before
    case isFalse reaches =>
      split
      case isTrue outside =>
        have gap : current < region.range.start := by
          simp only [GuestMemoryRange.contains, Bool.not_and, Bool.or_eq_true,
            Bool.not_eq_true', decide_eq_false_iff_not] at outside
          omega
        simp [gap]
      case isFalse inside =>
        simp only [Bool.not_eq_true', Bool.not_eq_false, GuestMemoryRange.contains_iff] at inside
        have advanced : advanceAddress current
            (accessSegment region current range.endExclusive).size =
            .ok (min region.range.endExclusive range.endExclusive) := by
          rw [advanceAddress, okOr_eq_ok, checkedAdd_eq_some, accessSegment]
          simp only
          omega
        rw [if_neg (by omega)]
        simp only [advanced, ok_bind]
        by_cases last : range.endExclusive ≤ region.range.endExclusive
        · rw [if_pos (by omega), if_pos last]
          simp [pure_eq_ok]
        · rw [if_neg (by omega), if_neg last, show min region.range.endExclusive
            range.endExclusive = region.range.endExclusive by omega]
          exact ih (by omega)

/-- The segment of the first region which reaches past a covered address. -/
theorem accessSegment_of_covers {region current stop}
    (ordered : Ordered ((region :: regions).map (·.range)))
    (covers : Covers ((region :: regions).map (·.range)) current stop)
    (reaches : current < region.range.endExclusive) (nonempty : current < stop)
    (bounded : stop < wordLimit) :
    region.range.start ≤ current ∧ 0 < (accessSegment region current stop).size ∧
      current + (accessSegment region current stop).size ≤ stop ∧
      current + (accessSegment region current stop).size ≤ region.range.endExclusive ∧
      advanceAddress current (accessSegment region current stop).size =
        .ok (current + (accessSegment region current stop).size) ∧
      Covers (regions.map (·.range)) (current + (accessSegment region current stop).size) stop := by
  have starts := covers.head ordered reaches nonempty
  have size : (accessSegment region current stop).size =
      min (region.range.endExclusive - current) (stop - current) := rfl
  refine ⟨starts, by omega, by omega, by omega, ?_, ?_⟩
  · rw [advanceAddress, okOr_eq_ok, checkedAdd_eq_some]
    omega
  · intro address above below
    have past : Covers ((region :: regions).map (·.range)) region.range.endExclusive stop :=
      fun other otherAbove otherBelow => covers other (by omega) otherBelow
    exact past.tail (Nat.le_refl _) address (by omega) below

variable {remaining : List UInt8} {stop current : Nat}

/-- A read over covered addresses returns the byte of each of them. -/
theorem readRegions_eq {value} (ordered : Ordered (regions.map (·.range)))
    (covers : Covers (regions.map (·.range)) current stop)
    (shows : ∀ region ∈ regions, ∀ address, region.range.contains address = true →
      contents region.mapping.identity (region.location address) = value address)
    (length : current + remaining.length = stop) (bounded : stop < wordLimit) :
    readRegions contents stop current remaining regions =
      (.ok (), (List.range' current remaining.length).map value) := by
  induction regions generalizing current remaining with
  | nil =>
    have empty : remaining = [] := by
      rw [← length_eq_zero_iff]
      refine Nat.eq_zero_of_not_pos fun positive => ?_
      obtain ⟨_, member, _⟩ := covers current (Nat.le_refl _) (by omega)
      simp at member
    simp [readRegions, empty]
  | cons region regions ih =>
    have others : ∀ other ∈ regions, ∀ address, other.range.contains address = true →
        contents other.mapping.identity (other.location address) = value address :=
      fun other member => shows other (mem_cons_of_mem _ member)
    have tailOrdered : Ordered (regions.map (·.range)) := List.Pairwise.of_cons ordered
    rw [readRegions]
    split
    case isTrue empty => simp [isEmpty_iff.mp empty]
    case isFalse nonempty =>
      have positive : 0 < remaining.length := by
        simpa [length_pos_iff] using nonempty
      split
      case isTrue past => exact ih tailOrdered (covers.tail past) others length
      case isFalse reaches =>
        obtain ⟨starts, segmentPositive, insideStop, insideRegion, advanced, rest⟩ :=
          accessSegment_of_covers ordered covers (by omega) (by omega) bounded
        have offset : (accessSegment region current stop).offset =
            current - region.range.start := rfl
        generalize accessSegment region current stop = segment at *
        simp only [advanced]
        have restLength : current + segment.size + (remaining.drop segment.size).length = stop := by
          rw [length_drop]
          omega
        have tail := ih tailOrdered rest others restLength
        have piece : contents.read region.mapping.identity (region.mappingOffset + segment.offset)
            segment.size = (range' current segment.size).map value := by
          rw [range'_eq_map_range, Contents.read, map_map]
          refine map_congr_left fun index member => ?_
          have inside := mem_range.mp member
          rw [Function.comp, ← shows region mem_cons_self (current + index)
            (contains_iff.mpr (by omega)), GuestMemoryRegion.location, offset]
          congr 1
          omega
        rw [tail, piece]
        simp only [length_drop, ← map_append, Prod.mk.injEq, true_and]
        congr 1
        rw [range'_append_1]
        congr 1
        omega

variable {bytes : List UInt8}

theorem Contents.write_inside {identity offset position} (above : offset ≤ position)
    (below : position < offset + bytes.length) :
    contents.write identity offset bytes identity position = bytes.getD (position - offset) 0 := by
  have inside : position - offset < bytes.length := by omega
  simp [Contents.write, above, getElem?_eq_getElem inside]

theorem Contents.write_outside {identity offset other position}
    (outside : other = identity → ¬ (offset ≤ position ∧ position < offset + bytes.length)) :
    contents.write identity offset bytes other position = contents other position := by
  unfold Contents.write
  split
  case isTrue inside =>
    have past : bytes.length ≤ position - offset := by
      have := outside inside.1
      omega
    rw [getElem?_eq_none past, Option.getD_none]
  case isFalse => rfl

/-- A write over covered addresses replaces their bytes and no others. -/
theorem writeRegions_eq {base} (ordered : Ordered (regions.map (·.range)))
    (covers : Covers (regions.map (·.range)) current stop) (placed : Placed base regions)
    (length : current + remaining.length = stop) (bounded : stop < wordLimit) :
    ∃ written, writeRegions stop current remaining contents regions = (.ok (), written) ∧
      (∀ region ∈ regions, ∀ address, region.range.contains address = true →
        current ≤ address → address < stop →
        written region.mapping.identity (region.location address) =
          remaining.getD (address - current) 0) ∧
      ∀ identity position,
        (∀ region ∈ regions, region.mapping.identity = identity →
          region.range.contains (base identity + position) = true →
          ¬ (current ≤ base identity + position ∧ base identity + position < stop)) →
        written identity position = contents identity position := by
  induction regions generalizing current remaining contents with
  | nil => exact ⟨contents, rfl, by simp, fun _ _ _ => rfl⟩
  | cons region regions ih =>
    have tailOrdered : Ordered (regions.map (·.range)) := List.Pairwise.of_cons ordered
    have tailPlaced : Placed base regions := fun other member =>
      placed other (mem_cons_of_mem _ member)
    have above : ∀ other ∈ regions, region.range.endExclusive ≤ other.range.start := by
      intro other member
      exact (pairwise_cons.mp ordered).1 _ (mem_map_of_mem member)
    rw [writeRegions]
    split
    case isTrue empty =>
      have : remaining.length = 0 := by simp [isEmpty_iff.mp empty]
      exact ⟨contents, rfl, fun _ _ _ _ _ _ => by omega, fun _ _ _ => rfl⟩
    case isFalse nonempty =>
      have positive : 0 < remaining.length := by
        simpa [length_pos_iff] using nonempty
      split
      case isTrue past =>
        obtain ⟨written, result, replaced, kept⟩ :=
          ih tailOrdered (covers.tail past) tailPlaced length
        refine ⟨written, result, fun other member address contained low high => ?_,
          fun identity position outside =>
            kept identity position fun other member =>
              outside other (mem_cons_of_mem _ member)⟩
        rcases mem_cons.mp member with rfl | later
        · rw [contains_iff] at contained
          omega
        · exact replaced other later address contained low high
      case isFalse reaches =>
        obtain ⟨starts, segmentPositive, insideStop, insideRegion, advanced, rest⟩ :=
          accessSegment_of_covers ordered covers (by omega) (by omega) bounded
        have offset : (accessSegment region current stop).offset =
            current - region.range.start := rfl
        have size : (accessSegment region current stop).size =
            min (region.range.endExclusive - current) (stop - current) := rfl
        generalize accessSegment region current stop = segment at *
        have segmentLength : (remaining.take segment.size).length = segment.size := by
          rw [length_take]
          omega
        have restLength : current + segment.size + (remaining.drop segment.size).length = stop := by
          rw [length_drop]
          omega
        have home := placed region mem_cons_self
        simp only [advanced]
        obtain ⟨written, result, replaced, kept⟩ := ih tailOrdered rest tailPlaced restLength
        refine ⟨written, result, fun other member address contained low high => ?_,
          fun identity position outside => ?_⟩
        · rw [contains_iff] at contained
          rcases mem_cons.mp member with rfl | later
          · -- The segment holds every accessed address of this region, and the
            -- rest of the walk does not come back to it.
            have found := placed.base_add_location mem_cons_self contained.1
            rw [kept _ _ (by rw [found]; omega), GuestMemoryRegion.location,
              Contents.write_inside (by omega) (by omega)]
            rw [getD_eq_getElem?_getD, getElem?_take_of_lt (by omega), getD_eq_getElem?_getD]
            congr 2
            omega
          · have := above other later
            rw [replaced other later address (contains_iff.mpr contained)
              (by omega) high, getD_eq_getElem?_getD, getElem?_drop, getD_eq_getElem?_getD]
            congr 2
            omega
        · rw [kept identity position fun other member same contained inside =>
            outside other (mem_cons_of_mem _ member) same contained ⟨by omega, inside.2⟩]
          refine Contents.write_outside ?_
          rintro rfl inside
          refine outside region mem_cons_self rfl
            (contains_iff.mpr ?_) ?_ <;> omega

end
end Bangbang.Memory
