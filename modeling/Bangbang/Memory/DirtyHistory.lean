import Bangbang.Base.Runs
import Bangbang.Memory.DirtyTracker

/-!
# What the dirty tracker reports

After any sequence of tracker operations, failing ones included, the reported
pages are exactly those which `DirtySince` derives from the successful
operations. `Faithful` is the invariant which each operation keeps.
-/

namespace Bangbang.Memory

open Bitmap GuestMemoryRange List GuestMemoryDirtyTracker

/-- A page of a region meets a requested range. -/
def Touches (requested : GuestMemoryRange) (pageSize page : Nat) : Prop :=
  page < requested.endExclusive ∧ requested.start < page + pageSize

/-- A page address of a region: a whole number of pages from its start. -/
def IsPage (range : GuestMemoryRange) (pageSize page : Nat) : Prop :=
  ∃ index < range.size / pageSize, page = range.start + index * pageSize

namespace DirtyRegion

variable {region : DirtyRegion} {pageSize : Nat}

/-- A page is marked. -/
def isDirty (region : DirtyRegion) (index : Nat) : Bool := Bitmap.test region.words index

/-- The bitmap has a bit for each page and no bit set beyond the last one. -/
structure Wf (pageSize : Nat) (region : DirtyRegion) : Prop where
  alignedStart : pageSize ∣ region.range.start
  alignedSize : pageSize ∣ region.range.size
  covers : ∀ index < region.range.size / pageSize, index / 64 < region.words.length
  confined : ∀ index, region.isDirty index = true → index < region.range.size / pageSize

/-- Pages lie inside their region. -/
theorem Wf.page_end_le (wf : region.Wf pageSize) {index}
    (inside : index < region.range.size / pageSize) :
    index * pageSize + pageSize ≤ region.range.size := by
  have whole := Nat.div_mul_cancel wf.alignedSize
  have := Nat.mul_le_mul_right pageSize (Nat.succ_le_of_lt inside)
  rw [Nat.succ_mul] at this
  omega

/-- An initial word holds the bits of the pages which exist. -/
theorem getLsbD_initialWord (pageCount wordIndex) {position} (small : position < 64) :
    (initialWord pageCount wordIndex).getLsbD position =
      decide (wordIndex * 64 + position < pageCount) := by
  unfold initialWord
  simp only
  split
  case isTrue full =>
    simp only [BitVec.getLsbD_allOnes, small, decide_true]
    exact (decide_eq_true (by omega)).symm
  case isFalse notFull =>
    split
    case isTrue empty =>
      simp only [BitVec.getLsbD_zero]
      exact (decide_eq_false (by omega)).symm
    case isFalse some =>
      generalize remaining : pageCount - wordIndex * 64 = count at *
      have power : 2 ^ count < 2 ^ 64 := Nat.pow_lt_pow_right (by decide) (by omega)
      have positive : 0 < 2 ^ count := Nat.two_pow_pos count
      have value : (1#64 <<< count - 1#64).toNat = 2 ^ count - 1 := by
        rw [BitVec.toNat_sub, BitVec.toNat_shiftLeft]
        simp only [BitVec.toNat_ofNat, Nat.shiftLeft_eq]
        omega
      rw [← BitVec.testBit_toNat, value, Nat.testBit_two_pow_sub_one]
      exact decide_eq_decide.mpr (by omega)

/-- A new bitmap is uniformly clean or dirty. -/
theorem new_eq_ok {range initiallyDirty wordsReserved}
    (made : new range pageSize initiallyDirty wordsReserved = .ok region) :
    region.range = range ∧ region.Wf pageSize ∧
      ∀ index < range.size / pageSize, region.isDirty index = initiallyDirty := by
  simp only [new, bind_eq_ok, rejectIf_eq_ok, okOr_eq_ok, pure_eq_ok, Option.map_eq_some_iff,
    checkedAdd_eq_some] at made
  obtain ⟨_, aligned, _, _, wordCount, ⟨_, ⟨_, rfl⟩, rfl⟩, _, _, rfl⟩ := made
  obtain ⟨_, _, alignedStart, alignedSize⟩ :=
    GuestMemoryRange.validateAlignment_eq_ok.mp (mapError_eq_ok.mp aligned)
  -- Each bit of the new words says whether its page exists and starts dirty.
  have bit : ∀ index, Bitmap.test ((List.range ((range.size / pageSize + 63) / 64)).map
      fun wordIndex => if initiallyDirty then initialWord (range.size / pageSize) wordIndex
        else 0#64) index = (initiallyDirty && decide (index < range.size / pageSize)) := by
    intro index
    have small : index % 64 < 64 := Nat.mod_lt _ (by decide)
    unfold Bitmap.test
    rw [List.getElem?_map]
    by_cases inside : index / 64 < (range.size / pageSize + 63) / 64
    · rw [List.getElem?_range inside, Option.map_some]
      cases initiallyDirty
      · simp
      · simp only [if_true, getLsbD_initialWord _ _ small, Bool.true_and]
        exact decide_eq_decide.mpr (by omega)
    · rw [List.getElem?_eq_none (by simpa using inside), Option.map_none]
      simp only [show ¬ index < range.size / pageSize by omega, decide_false, Bool.and_false]
  refine ⟨rfl, ⟨alignedStart, alignedSize, fun index inside => ?_, fun index dirty => ?_⟩,
    fun index inside => ?_⟩
  · change index < range.size / pageSize at inside
    simp only [List.length_map, List.length_range]
    omega
  · rw [isDirty, bit] at dirty
    simpa using (Bool.and_eq_true_iff.mp dirty).2
  · rw [isDirty, bit]
    simp [inside]

section
variable (wf : region.Wf pageSize)
include wf

section
variable (positive : 0 < pageSize)
include positive

/-- The page indices which a marking loop visits. -/
theorem first_le_and_le_last {requested index} (inside : index < region.range.size / pageSize) :
    ((max region.range.start requested.start - region.range.start) / pageSize ≤ index ∧
      index ≤ (min region.range.endExclusive requested.endExclusive - 1 -
        region.range.start) / pageSize) ∧
      max region.range.start requested.start <
        min region.range.endExclusive requested.endExclusive ↔
    Touches requested pageSize (region.range.start + index * pageSize) := by
  have pageEnd := wf.page_end_le inside
  have nonempty := requested.start_lt_endExclusive
  rw [← Nat.lt_succ_iff, Nat.div_lt_iff_lt_mul positive, Nat.le_div_iff_mul_le positive,
    Nat.succ_mul]
  simp only [Touches, endExclusive] at *
  omega

/-- Marking sets exactly the bits of the pages which the request meets. -/
theorem isDirty_markIntersection (requested) {index}
    (inside : index < region.range.size / pageSize) :
    (region.markIntersection requested pageSize).isDirty index = true ↔
      region.isDirty index = true ∨
        Touches requested pageSize (region.range.start + index * pageSize) := by
  rw [← first_le_and_le_last wf positive inside]
  unfold markIntersection
  simp only
  split
  case isTrue apart =>
    simp only [Nat.not_lt.mpr apart, and_false, or_false]
  case isFalse meets =>
    have covered := wf.covers index inside
    rw [isDirty, show markPage = insert from rfl, test_foldl_insert]
    simp only [Bool.or_eq_true, Bool.and_eq_true, decide_eq_true_eq, mem_range'_1, covered,
      and_true, Nat.lt_of_not_le meets]
    exact or_congr Iff.rfl (by omega)

theorem Wf.markIntersection (requested) :
    (region.markIntersection requested pageSize).Wf pageSize := by
  unfold DirtyRegion.markIntersection
  simp only
  split
  case isTrue => exact wf
  case isFalse meets =>
    refine ⟨wf.alignedStart, wf.alignedSize, fun index inside => ?_, fun index dirty => ?_⟩
    · rw [show markPage = insert from rfl, length_foldl_insert]
      exact wf.covers index inside
    · rw [isDirty, show markPage = insert from rfl, test_foldl_insert] at dirty
      simp only [Bool.or_eq_true, Bool.and_eq_true, decide_eq_true_eq, mem_range'_1] at dirty
      rcases dirty with before | ⟨visited, _⟩
      · exact wf.confined index before
      · -- The last page visited holds an address of the region.
        have last : index ≤ (min region.range.endExclusive requested.endExclusive - 1 -
            region.range.start) / pageSize := by omega
        rw [Nat.le_div_iff_mul_le positive] at last
        rw [Nat.lt_div_iff_mul_lt' wf.alignedSize, Nat.mul_comm]
        simp only [endExclusive] at *
        omega

end

theorem Wf.clear : region.clear.Wf pageSize where
  alignedStart := wf.alignedStart
  alignedSize := wf.alignedSize
  covers index inside := by
    rw [DirtyRegion.clear, length_map]
    exact wf.covers index inside
  confined index dirty := by
    rw [isDirty, DirtyRegion.clear, test_map_zero] at dirty
    simp at dirty

end

theorem range_markIntersection (region : DirtyRegion) (requested : GuestMemoryRange)
    (pageSize : Nat) : (region.markIntersection requested pageSize).range = region.range := by
  unfold markIntersection
  simp only
  split <;> rfl

end DirtyRegion

open DirtyRegion

section

/-- A collection returns `expected`, unless storage for some page ran out. -/
def Collects (reserve : Nat → Bool) (expected : List Nat)
    (result : Except GuestMemoryDirtyTrackerAccessError (List Nat)) : Prop :=
  result = .ok expected ∨
    ((∃ count, reserve count = false) ∧ result = .error .metadataAllocationFailed)

variable {reserve : Nat → Bool}

/-- Collections are made one after the other. -/
theorem Collects.bind {middle expected first rest} (collects : Collects reserve middle first)
    (restCollects : Collects reserve expected (rest middle)) :
    Collects reserve expected (first >>= rest) := by
  rcases collects with rfl | ⟨refused, rfl⟩
  · exact restCollects
  · exact .inr ⟨refused, rfl⟩

/-- Collecting piece by piece appends the pages of each piece in order. -/
theorem collects_foldlM {α : Type} {items : List α} {pagesOf : α → List Nat}
    {collect : List Nat → α → Except GuestMemoryDirtyTrackerAccessError (List Nat)}
    (each : ∀ item ∈ items, ∀ pages, Collects reserve (pages ++ pagesOf item) (collect pages item))
    (pages) : Collects reserve (pages ++ items.flatMap pagesOf) (items.foldlM collect pages) := by
  induction items generalizing pages with
  | nil => exact .inl (by simp [pure, Except.pure])
  | cons item items ih =>
    rw [foldlM_cons, flatMap_cons, ← append_assoc]
    exact (each item mem_cons_self pages).bind
      (ih (fun other member => each other (mem_cons_of_mem _ member)) _)

namespace DirtyRegion

variable {region : DirtyRegion} {pageSize : Nat}

/-- The page addresses of the bits of one word. -/
def wordPages (range : GuestMemoryRange) (pageSize wordIndex : Nat) (word : BitVec 64) : List Nat :=
  (Bitmap.bits word).map fun position => range.start + (wordIndex * 64 + position) * pageSize

/-- The dirty page addresses of a region. -/
def pages (region : DirtyRegion) (pageSize : Nat) : List Nat :=
  (Bitmap.members region.words).map (region.range.start + · * pageSize)

variable {range : GuestMemoryRange}

/-- The checks on one page of a region all pass. -/
theorem page_checks {wordIndex position} (positive : 0 < pageSize)
    (inside : (wordIndex * 64 + position) * pageSize < range.size) :
    (checkedMul wordIndex 64).bind (checkedAdd · position) = some (wordIndex * 64 + position) ∧
      checkedMul (wordIndex * 64 + position) pageSize =
        some ((wordIndex * 64 + position) * pageSize) ∧
      checkedAdd range.start ((wordIndex * 64 + position) * pageSize) =
        some (range.start + (wordIndex * 64 + position) * pageSize) ∧
      range.contains (range.start + (wordIndex * 64 + position) * pageSize) = true := by
  have bounded := range.bounded
  have indexBounded : wordIndex * 64 + position ≤ (wordIndex * 64 + position) * pageSize :=
    Nat.le_mul_of_pos_right _ positive
  refine ⟨?_, ?_, ?_, ?_⟩
  · rw [checkedMul, if_pos (by omega), Option.bind_some, checkedAdd, if_pos (by omega)]
  · rw [checkedMul, if_pos (by omega)]
  · rw [checkedAdd, if_pos (by omega)]
  · rw [contains_iff, endExclusive]
    omega

/-- The pages of a word are appended in order, while memory lasts. -/
theorem appendWordPages_collects {wordIndex remaining}
    (inside : ∀ position ∈ Bitmap.bits remaining,
      (wordIndex * 64 + position) * pageSize < range.size) (positive : 0 < pageSize) (pages) :
    Collects reserve (pages ++ wordPages range pageSize wordIndex remaining)
      (appendWordPages reserve range pageSize wordIndex remaining pages) := by
  fun_induction appendWordPages reserve range pageSize wordIndex remaining pages with
  | case1 pages => exact .inl (by simp [wordPages])
  | case2 remaining pages nonzero bitIndex ih =>
    rw [bits_eq_cons nonzero] at inside
    obtain ⟨index, offset, page, contained⟩ :=
      page_checks positive (inside _ mem_cons_self)
    cases room : reserve pages.length with
    | false =>
      refine .inr ⟨⟨_, room⟩, ?_⟩
      simp [index, offset, page, contained, okOr, rejectIf, bitIndex]
    | true =>
      have rest := ih (range.start + (wordIndex * 64 + bitIndex) * pageSize)
        fun position member => inside position (mem_cons_of_mem _ member)
      simp only [index, offset, page, contained, okOr, rejectIf, bitIndex, ok_bind,
        Bool.not_true, Bool.false_eq_true, if_false]
      simpa [wordPages, bits_eq_cons nonzero, bitIndex] using rest

/-- The pages of a region are appended in order, while memory lasts. -/
theorem appendDirtyPages_collects (wf : region.Wf pageSize) (positive : 0 < pageSize) (pages) :
    Collects reserve (pages ++ region.pages pageSize)
      (region.appendDirtyPages reserve pageSize pages) := by
  have split : region.pages pageSize = region.words.zipIdx.flatMap fun item =>
      wordPages region.range pageSize item.2 item.1 := by
    simp [DirtyRegion.pages, Bitmap.members, wordPages, List.map_flatMap, Function.comp_def]
  rw [split]
  refine collects_foldlM (fun item member pages => ?_) pages
  obtain ⟨word, wordIndex⟩ := item
  refine appendWordPages_collects (fun position isSet => ?_) positive pages
  have dirty : region.isDirty (wordIndex * 64 + position) = true := by
    rw [isDirty, ← Bitmap.mem_members, Bitmap.members, List.mem_flatMap]
    exact ⟨(word, wordIndex), member, List.mem_map_of_mem isSet⟩
  have pageEnd := wf.page_end_le (wf.confined _ dirty)
  change (wordIndex * 64 + position) * pageSize < _
  omega

/-- The collected pages are the region's pages whose bits are set. -/
theorem mem_pages (wf : region.Wf pageSize) {page} :
    page ∈ region.pages pageSize ↔ ∃ index < region.range.size / pageSize,
      region.isDirty index = true ∧ page = region.range.start + index * pageSize := by
  simp only [pages, mem_map, mem_members]
  constructor
  · rintro ⟨index, dirty, rfl⟩
    exact ⟨index, wf.confined index dirty, dirty, rfl⟩
  · rintro ⟨index, _, dirty, rfl⟩
    exact ⟨index, dirty, rfl⟩

/-- The pages of a region are reported in ascending order. -/
theorem pairwise_pages (positive : 0 < pageSize) : (region.pages pageSize).Pairwise (· < ·) := by
  refine (pairwise_members region.words).map _ fun first second less => ?_
  exact Nat.add_lt_add_left (Nat.mul_lt_mul_of_pos_right less positive) _

/-- The collected pages lie inside the region. -/
theorem contains_of_mem_pages (wf : region.Wf pageSize) (positive : 0 < pageSize) {page}
    (member : page ∈ region.pages pageSize) : region.range.contains page = true := by
  obtain ⟨index, inside, _, rfl⟩ := (mem_pages wf).mp member
  have pageEnd := wf.page_end_le inside
  rw [contains_iff, endExclusive]
  omega

end DirtyRegion
end

section

/-- A successful tracker operation. -/
inductive TrackerEvent where
  | create (ranges : List GuestMemoryRange)
  | insert (range : GuestMemoryRange) (initiallyDirty : Bool)
  | remove (range : GuestMemoryRange)
  | mark (range : GuestMemoryRange)
  | clear
deriving DecidableEq, Repr

section
variable (range : GuestMemoryRange) (pageSize page : Nat)

/-- The events which make the pages of a region clean: a clear, and an insertion
of the region itself. -/
def Resets : TrackerEvent → Prop
  | .clear => True
  | .insert other _ => other = range
  | _ => False

/-- The events which make one page of a region dirty: a mark which meets the
page, and a dirty insertion of the region. -/
def Dirties : TrackerEvent → Prop
  | .mark requested => Touches requested pageSize page
  | .insert other initiallyDirty => other = range ∧ initiallyDirty = true
  | _ => False

/-- A page of a region was made dirty and neither a clear nor an insertion of
the region came later. -/
def DirtySince (history : List TrackerEvent) : Prop :=
  Since (Resets range) (Dirties range pageSize page) history

/-- The events after which a region is tracked: it was among the first ones, or inserted. -/
def Tracks : TrackerEvent → Prop
  | .create ranges => range ∈ ranges
  | .insert other _ => other = range
  | _ => False

/-- A region was tracked and has not been removed since. -/
def TrackedSince (history : List TrackerEvent) : Prop :=
  Since (· = .remove range) (Tracks range) history

end

variable {range : GuestMemoryRange}

/-- A page is dirty after an event by that event, or was before and is not reset. -/
theorem dirtySince_cons {pageSize page event history} :
    DirtySince range pageSize page (event :: history) ↔
      Dirties range pageSize page event ∨
        (¬ Resets range event ∧ DirtySince range pageSize page history) :=
  since_cons

/-- A range is tracked after an event by that event, or was before and is not removed. -/
theorem trackedSince_cons {event history} :
    TrackedSince range (event :: history) ↔
      Tracks range event ∨ (event ≠ .remove range ∧ TrackedSince range history) :=
  since_cons

namespace GuestMemoryDirtyTracker

/-- The region ranges of a tracker. -/
def ranges (tracker : GuestMemoryDirtyTracker) : List GuestMemoryRange :=
  tracker.regions.map (·.range)

/-- A tracker together with its successful operations, the newest first. Every
operation may also fail. -/
inductive Reaches : GuestMemoryDirtyTracker → List TrackerEvent → Prop where
  | new {ranges pageSize memory tracker} (made : new ranges pageSize memory = .ok tracker) :
      Reaches tracker [.create ranges]
  | insertRegion {tracker next history} (prior : Reaches tracker history)
      {range initiallyDirty memory}
      (inserted : tracker.insertRegion range initiallyDirty memory = (.ok (), next)) :
      Reaches next (.insert range initiallyDirty :: history)
  | insertRegionFailed {tracker next history} (prior : Reaches tracker history)
      {range initiallyDirty memory error}
      (failed : tracker.insertRegion range initiallyDirty memory = (.error error, next)) :
      Reaches next history
  | removeRegion {tracker next history} (prior : Reaches tracker history) {range}
      (removed : tracker.removeRegion range = (true, next)) :
      Reaches next (.remove range :: history)
  | removeRegionMissing {tracker next history} (prior : Reaches tracker history) {range}
      (missing : tracker.removeRegion range = (false, next)) : Reaches next history
  | markRange {tracker next history} (prior : Reaches tracker history) {range}
      (marked : tracker.markRange range = (.ok (), next)) : Reaches next (.mark range :: history)
  | markRangeFailed {tracker next history} (prior : Reaches tracker history) {range error}
      (failed : tracker.markRange range = (.error error, next)) : Reaches next history
  | clearQuiesced {tracker next history} (prior : Reaches tracker history) {epoch}
      (cleared : tracker.clearQuiesced = (epoch, next)) : Reaches next (.clear :: history)

/-- The bitmaps of ordered, well-formed regions say what the history says. -/
structure Faithful (tracker : GuestMemoryDirtyTracker) (history : List TrackerEvent) : Prop where
  positive : 0 < tracker.pageSize
  ordered : Ordered tracker.ranges
  wf : ∀ region ∈ tracker.regions, region.Wf tracker.pageSize
  dirty : ∀ region ∈ tracker.regions, ∀ index < region.range.size / tracker.pageSize,
    region.isDirty index = true ↔ DirtySince region.range tracker.pageSize
      (region.range.start + index * tracker.pageSize) history

end GuestMemoryDirtyTracker

/-- An insertion position separates the regions below and above the range. -/
theorem fitsAt_of_validateInsertPosition {regions index} (ordered : Ordered (regions.map (·.range)))
    (valid : validateInsertPosition range regions = .ok index) :
    FitsAt (regions.map (·.range)) index range := by
  induction regions generalizing index with
  | nil =>
    cases valid
    exact ⟨Nat.le_refl 0, by simp, by simp⟩
  | cons region regions ih =>
    rw [validateInsertPosition] at valid
    split at valid
    · simp at valid
    case isFalse apart =>
      have apart := Bool.eq_false_iff.mpr apart
      split at valid
      case isTrue below =>
        cases valid
        exact .zero ordered apart (Nat.le_of_lt below)
      case isFalse above =>
        simp only [bind_eq_ok, pure_eq_ok] at valid
        obtain ⟨rest, found, rfl⟩ := valid
        exact (ih (List.Pairwise.of_cons ordered) found).succ apart (Nat.le_of_not_lt above)

namespace GuestMemoryDirtyTracker

variable {tracker next : GuestMemoryDirtyTracker} {history : List TrackerEvent}
  {range : GuestMemoryRange} {error : GuestMemoryDirtyTrackerAccessError}

theorem validateTrackedFrom_error {current regions}
    (failed : validateTrackedFrom range current regions = .error error) :
    error = .untrackedRange range := by
  induction regions generalizing current with
  | nil =>
    cases failed
    rfl
  | cons region regions ih =>
    rw [validateTrackedFrom] at failed
    split at failed
    · exact ih failed
    · split at failed
      · cases failed
        rfl
      · simp only at failed
        split at failed
        · simp at failed
        · exact ih failed

variable {initiallyDirty : Bool} {memory : RegionMemory}

/-- What an insertion requires and changes. -/
theorem insertRegion_eq_ok
    (inserted : tracker.insertRegion range initiallyDirty memory = (.ok (), next)) :
    ∃ index region, validateInsertPosition range tracker.regions = .ok index ∧
      DirtyRegion.new range tracker.pageSize initiallyDirty memory.words = .ok region ∧
      next = { tracker with regions := tracker.regions.insertIdx index region } := by
  unfold insertRegion at inserted
  split at inserted
  case h_1 => simp at inserted
  case h_2 index region prepared =>
    simp only [prepareRegion, bind_eq_ok, rejectIf_eq_ok, pure_eq_ok, Prod.mk.injEq] at prepared
    obtain ⟨_, valid, _, _, _, made, rfl, rfl⟩ := prepared
    simp only [Prod.mk.injEq, true_and] at inserted
    exact ⟨_, _, valid, made, inserted.symm⟩

/-- A failed insertion changes nothing. -/
theorem insertRegion_error {error}
    (failed : tracker.insertRegion range initiallyDirty memory = (.error error, next)) :
    next = tracker := by
  unfold insertRegion at failed
  split at failed
  · exact (Prod.mk.inj failed).2.symm
  · simp at failed

theorem removeRegion_false (missing : tracker.removeRegion range = (false, next)) :
    next = tracker := by
  unfold removeRegion at missing
  split at missing
  · exact (Prod.mk.inj missing).2.symm
  · simp at missing

/-- A failed mark changes nothing. -/
theorem markRange_error (failed : tracker.markRange range = (.error error, next)) :
    next = tracker ∧ error = .untrackedRange range := by
  unfold markRange at failed
  split at failed
  case h_1 found =>
    obtain ⟨sameError, sameTracker⟩ := Prod.mk.inj failed
    cases sameError
    exact ⟨sameTracker.symm, validateTrackedFrom_error found⟩
  case h_2 => simp at failed

theorem markRange_eq_ok (marked : tracker.markRange range = (.ok (), next)) :
    next = { tracker with
      regions := tracker.regions.map (·.markIntersection range tracker.pageSize) } := by
  unfold markRange at marked
  split at marked
  · simp at marked
  · exact (Prod.mk.inj marked).2.symm

section
variable (faithful : Faithful tracker history)
include faithful

/-- A new region keeps the invariant under any history which says the same of
the other regions and is uniform on the new one. -/
theorem Faithful.insertIdx {later initiallyDirty wordsReserved index region}
    (valid : validateInsertPosition range tracker.regions = .ok index)
    (made : DirtyRegion.new range tracker.pageSize initiallyDirty wordsReserved = .ok region)
    (others : ∀ other ≠ range, ∀ page, DirtySince other tracker.pageSize page later ↔
      DirtySince other tracker.pageSize page history)
    (uniform : ∀ page, DirtySince range tracker.pageSize page later ↔ initiallyDirty = true) :
    Faithful { tracker with regions := tracker.regions.insertIdx index region } later := by
  obtain ⟨rfl, wf, allDirty⟩ := new_eq_ok made
  have fits := fitsAt_of_validateInsertPosition faithful.ordered valid
  have inside : index ≤ tracker.regions.length := by simpa using fits.inside
  refine ⟨faithful.positive, ?_, fun other member => ?_, fun other member page pageInside => ?_⟩
  · rw [ranges, map_insertIdx]
    exact faithful.ordered.insertIdx fits
  · rcases (mem_insertIdx inside).mp member with rfl | earlier
    · exact wf
    · exact faithful.wf other earlier
  · rcases (mem_insertIdx inside).mp member with rfl | earlier
    · rw [allDirty page pageInside]
      exact (uniform _).symm
    · have different : other.range ≠ region.range := by
        intro same
        exact fits.not_mem (same ▸ mem_map_of_mem earlier)
      rw [others _ different]
      exact faithful.dirty other earlier page pageInside

/-- An insertion is recorded. -/
theorem Faithful.insertRegion {memory}
    (inserted : tracker.insertRegion range initiallyDirty memory = (.ok (), next)) :
    Faithful next (.insert range initiallyDirty :: history) := by
  obtain ⟨index, region, valid, made, rfl⟩ := insertRegion_eq_ok inserted
  refine faithful.insertIdx valid made (fun other different page => ?_) fun page => ?_
  · simp [dirtySince_cons, Dirties, Resets, different.symm]
  · simp [dirtySince_cons, Dirties, Resets]

/-- A removal is recorded. -/
theorem Faithful.removeRegion (removed : tracker.removeRegion range = (true, next)) :
    Faithful next (.remove range :: history) := by
  unfold GuestMemoryDirtyTracker.removeRegion at removed
  split at removed
  · simp at removed
  case h_2 index found =>
    obtain ⟨_, rfl⟩ := Prod.mk.inj removed
    have members := (eraseIdx_sublist tracker.regions index).subset
    refine ⟨faithful.positive, ?_, fun region member => faithful.wf region (members member),
      fun region member page inside => ?_⟩
    · exact faithful.ordered.sublist ((eraseIdx_sublist tracker.regions index).map _)
    · rw [dirtySince_cons]
      simpa [Dirties, Resets] using faithful.dirty region (members member) page inside

/-- A mark is recorded. -/
theorem Faithful.markRange (marked : tracker.markRange range = (.ok (), next)) :
    Faithful next (.mark range :: history) := by
  obtain rfl := markRange_eq_ok marked
  refine ⟨faithful.positive, ?_, fun marked member => ?_, fun marked member page inside => ?_⟩
  · have same : (tracker.regions.map (·.markIntersection range tracker.pageSize)).map (·.range) =
        tracker.ranges := by
      simp [ranges, range_markIntersection]
    rw [ranges, same]
    exact faithful.ordered
  · obtain ⟨region, original, rfl⟩ := mem_map.mp member
    exact (faithful.wf region original).markIntersection faithful.positive range
  · obtain ⟨region, original, rfl⟩ := mem_map.mp member
    rw [range_markIntersection] at inside ⊢
    rw [isDirty_markIntersection (faithful.wf region original) faithful.positive _ inside,
      faithful.dirty region original page inside, dirtySince_cons]
    simp [Dirties, Resets, or_comm]

/-- A reset is recorded. -/
theorem Faithful.clearQuiesced : Faithful tracker.clearQuiesced.2 (.clear :: history) := by
  refine ⟨faithful.positive, ?_, fun cleared member => ?_, fun cleared member page inside => ?_⟩
  · have same : (tracker.regions.map clear).map (·.range) = tracker.ranges := by
      simp [ranges, clear]
    change Ordered ((tracker.regions.map clear).map (·.range))
    rw [same]
    exact faithful.ordered
  · obtain ⟨region, original, rfl⟩ := mem_map.mp member
    exact (faithful.wf region original).clear
  · obtain ⟨region, original, rfl⟩ := mem_map.mp member
    rw [dirtySince_cons, isDirty, clear, test_map_zero]
    simp [Dirties, Resets]

end

variable {memory : Nat → RegionMemory} {pageSize} {regions result : List DirtyRegion} {added}

section
variable (made : newRegions pageSize memory regions added = .ok result)
include made

/-- Appending a region which starts above all others. -/
theorem newRegions_eq_ok (faithful : ∀ epoch, Faithful ⟨pageSize, epoch, regions⟩ []) :
    ∀ epoch, Faithful ⟨pageSize, epoch, result⟩ [] := by
  induction added generalizing regions with
  | nil =>
    cases made
    exact faithful
  | cons range added ih =>
    simp only [newRegions, bind_eq_ok, rejectIf_eq_ok] at made
    obtain ⟨index, valid, _, last, _, _, region, created, rest⟩ := made
    refine ih rest fun epoch => ?_
    have inserted := (faithful epoch).insertIdx valid created (fun _ _ _ => Iff.rfl)
      (fun page => by simp [DirtySince])
    rwa [not_not.mp last, insertIdx_length_self] at inserted

theorem newRegions_ranges : result.map (·.range) = regions.map (·.range) ++ added := by
  induction added generalizing regions with
  | nil =>
    cases made
    simp
  | cons range added ih =>
    simp only [newRegions, bind_eq_ok] at made
    obtain ⟨_, _, _, _, _, _, region, created, rest⟩ := made
    rw [ih rest, map_append, append_assoc, map_singleton, (new_eq_ok created).1]
    rfl

end

variable {ranges}

section
variable (made : new ranges pageSize memory = .ok tracker)
include made

theorem new_ranges : tracker.ranges = ranges := by
  simp only [new, bind_eq_ok, pure_eq_ok] at made
  obtain ⟨_, _, regions, created, _, _, rfl⟩ := made
  exact newRegions_ranges created

/-- A new tracker is clean. -/
theorem Faithful.new : Faithful tracker [.create ranges] := by
  simp only [GuestMemoryDirtyTracker.new, validatePageSize, bind_eq_ok, rejectIf_eq_ok,
    pure_eq_ok] at made
  obtain ⟨_, valid, regions, created, _, _, rfl⟩ := made
  have positive : 0 < pageSize := by
    refine Nat.pos_of_ne_zero fun zero => valid (.inl zero)
  have clean := newRegions_eq_ok created (fun epoch => ⟨positive, .nil, by simp, by simp⟩) 0
  refine ⟨positive, clean.ordered, clean.wf, fun region member index inside => ?_⟩
  rw [clean.dirty region member index inside, dirtySince_cons]
  simp [Dirties, Resets]

end

/-- Every reachable tracker says what its history says. -/
theorem Reaches.faithful (reaches : Reaches tracker history) : Faithful tracker history := by
  induction reaches with
  | new made => exact .new made
  | insertRegion _ inserted ih => exact ih.insertRegion inserted
  | insertRegionFailed _ failed ih => exact insertRegion_error failed ▸ ih
  | removeRegion _ removed ih => exact ih.removeRegion removed
  | removeRegionMissing _ missing ih => exact removeRegion_false missing ▸ ih
  | markRange _ marked ih => exact ih.markRange marked
  | markRangeFailed _ failed ih => exact (markRange_error failed).1 ▸ ih
  | clearQuiesced _ cleared ih => exact (Prod.mk.inj cleared).2 ▸ ih.clearQuiesced

/-- All dirty pages, region by region. -/
def allPages (tracker : GuestMemoryDirtyTracker) : List Nat :=
  tracker.regions.flatMap (·.pages tracker.pageSize)

/-- All dirty pages are collected, while memory lasts. -/
theorem Faithful.dirtyPages_collects (faithful : Faithful tracker history) (reserve : Nat → Bool) :
    Collects reserve tracker.allPages (tracker.dirtyPages reserve) := by
  exact collects_foldlM (fun region member pages =>
    appendDirtyPages_collects (faithful.wf region member) faithful.positive pages) []

theorem snapshotQuiesced_eq (reserve : Nat → Bool) (tracker : GuestMemoryDirtyTracker) :
    tracker.snapshotQuiesced reserve = (tracker.dirtyPages reserve).map fun pages =>
      { pageSize := tracker.pageSize, epoch := tracker.epoch, pages } := by
  unfold snapshotQuiesced dirtyPages
  cases tracker.regions.foldlM (fun pages region =>
    region.appendDirtyPages reserve tracker.pageSize pages) [] <;> simp [Except.map, rejectIf]

/-- All dirty pages are reported in ascending order. -/
theorem Faithful.pairwise_allPages (faithful : Faithful tracker history) :
    tracker.allPages.Pairwise (· < ·) := by
  have separate := faithful.ordered
  rw [Ordered, ranges, pairwise_map] at separate
  rw [allPages, pairwise_flatMap]
  refine ⟨fun region _ => pairwise_pages faithful.positive, ?_⟩
  refine separate.imp_of_mem fun {lower upper} lowerMember upperMember below page inLower other
    inUpper => ?_
  have low := contains_of_mem_pages (faithful.wf lower lowerMember) faithful.positive
    inLower
  have high := contains_of_mem_pages (faithful.wf upper upperMember) faithful.positive
    inUpper
  rw [contains_iff] at low high
  omega

/-- A page is reported when it is dirty since its last reset. -/
theorem Faithful.mem_allPages (faithful : Faithful tracker history) {page} :
    page ∈ tracker.allPages ↔ ∃ range ∈ tracker.ranges, IsPage range tracker.pageSize page ∧
      DirtySince range tracker.pageSize page history := by
  simp only [allPages, mem_flatMap]
  constructor
  · rintro ⟨region, member, inPages⟩
    obtain ⟨index, inside, dirty, rfl⟩ := (mem_pages (faithful.wf region member)).mp inPages
    exact ⟨region.range, mem_map_of_mem member, ⟨index, inside, rfl⟩,
      (faithful.dirty region member index inside).mp dirty⟩
  · rintro ⟨_, member, ⟨index, inside, rfl⟩, since⟩
    obtain ⟨region, tracked, rfl⟩ := mem_map.mp member
    refine ⟨region, tracked, (mem_pages (faithful.wf region tracked)).mpr ?_⟩
    exact ⟨index, inside, (faithful.dirty region tracked index inside).mpr since, rfl⟩

section

/-- The page of an address in a tracked region is dirty. -/
def DirtyAt (tracker : GuestMemoryDirtyTracker) (address : Nat) : Prop :=
  ∃ region ∈ tracker.regions, region.range.contains address = true ∧
    region.isDirty ((address - region.range.start) / tracker.pageSize) = true

/-- The page which holds an address of an aligned region. -/
theorem page_of_contains {region : DirtyRegion} {pageSize address}
    (wf : region.Wf pageSize) (positive : 0 < pageSize)
    (contained : region.range.contains address = true) :
    (address - region.range.start) / pageSize < region.range.size / pageSize ∧
      region.range.start + (address - region.range.start) / pageSize * pageSize ≤ address ∧
      address <
        region.range.start + (address - region.range.start) / pageSize * pageSize + pageSize := by
  rw [contains_iff, endExclusive] at contained
  have whole := Nat.div_add_mod (address - region.range.start) pageSize
  have small := Nat.mod_lt (address - region.range.start) positive
  rw [Nat.mul_comm] at whole
  exact ⟨Nat.div_lt_div_of_lt_of_dvd wf.alignedSize (by omega), by omega, by omega⟩

variable {address : Nat}

section
variable (faithful : Faithful tracker history)
include faithful

/-- A mark keeps what is dirty. -/
theorem DirtyAt.markRange (dirty : tracker.DirtyAt address)
    (marked : tracker.markRange range = (.ok (), next)) : next.DirtyAt address := by
  obtain rfl := markRange_eq_ok marked
  obtain ⟨region, member, contained, isDirty⟩ := dirty
  have wf := faithful.wf region member
  refine ⟨_, mem_map_of_mem member, ?_, ?_⟩
  · rwa [range_markIntersection]
  · rw [range_markIntersection, isDirty_markIntersection wf
      faithful.positive _ (page_of_contains wf faithful.positive contained).1]
    exact .inl isDirty

/-- Every tracked address of a marked range is dirty. -/
theorem dirtyAt_of_markRange (marked : tracker.markRange range = (.ok (), next))
    (requested : range.contains address = true) {tracked}
    (member : tracked ∈ tracker.ranges) (contained : tracked.contains address = true) :
    next.DirtyAt address := by
  obtain rfl := markRange_eq_ok marked
  obtain ⟨region, regionMember, rfl⟩ := mem_map.mp member
  have wf := faithful.wf region regionMember
  obtain ⟨inside, low, high⟩ := page_of_contains wf faithful.positive contained
  refine ⟨_, mem_map_of_mem regionMember, ?_, ?_⟩
  · rwa [range_markIntersection]
  · rw [range_markIntersection, isDirty_markIntersection wf faithful.positive _ inside]
    rw [contains_iff] at requested
    exact .inr ⟨by omega, by omega⟩

variable {memory : RegionMemory}

/-- An insertion keeps what is dirty. -/
theorem DirtyAt.insertRegion {initiallyDirty} (dirty : tracker.DirtyAt address)
    (inserted : tracker.insertRegion range initiallyDirty memory = (.ok (), next)) :
    next.DirtyAt address := by
  obtain ⟨index, region, valid, _, rfl⟩ := insertRegion_eq_ok inserted
  obtain ⟨other, member, holds⟩ := dirty
  have fits := fitsAt_of_validateInsertPosition faithful.ordered valid
  have inside : index ≤ tracker.regions.length := by simpa using fits.inside
  exact ⟨other, (mem_insertIdx inside).mpr (.inr member), holds⟩

/-- Every address of a region inserted dirty is dirty. -/
theorem dirtyAt_of_insertRegion
    (inserted : tracker.insertRegion range true memory = (.ok (), next))
    (contained : range.contains address = true) : next.DirtyAt address := by
  obtain ⟨index, region, valid, made, rfl⟩ := insertRegion_eq_ok inserted
  obtain ⟨rfl, wf, uniform⟩ := new_eq_ok made
  have fits := fitsAt_of_validateInsertPosition faithful.ordered valid
  have inside : index ≤ tracker.regions.length := by simpa using fits.inside
  exact ⟨region, (mem_insertIdx inside).mpr (.inl rfl), contained,
    uniform _ (page_of_contains wf faithful.positive contained).1⟩

end

theorem removeRegion_eq (tracker : GuestMemoryDirtyTracker) (range : GuestMemoryRange) :
    (tracker.removeRegion range).2 = { tracker with
      regions := tracker.regions.eraseIdx (tracker.regions.findIdx (·.range == range)) } := by
  unfold removeRegion
  cases found : tracker.regions.findIdx? (·.range == range) with
  | none =>
    rw [findIdx?_eq_none_iff_findIdx_eq.mp found, eraseIdx_of_length_le (Nat.le_refl _)]
  | some index => rw [(findIdx?_eq_some_iff_findIdx_eq.mp found).2]

/-- A removal keeps what is dirty elsewhere. -/
theorem DirtyAt.removeRegion (dirty : tracker.DirtyAt address)
    (outside : range.contains address = false) : (tracker.removeRegion range).2.DirtyAt address := by
  obtain ⟨region, member, contained, isDirty⟩ := dirty
  rw [removeRegion_eq]
  refine ⟨region, ?_, contained, isDirty⟩
  obtain ⟨position, inside, rfl⟩ := mem_iff_getElem.mp member
  refine mem_eraseIdx_iff_getElem?.mpr ⟨position, ?_, getElem?_eq_getElem inside⟩
  -- The erased region is the removed range, which does not hold the address.
  rintro rfl
  have erased := beq_iff_eq.mp (findIdx_getElem (w := inside))
  simp [erased, outside] at contained

/-- A dirty address lies in a reported page. -/
theorem Faithful.exists_page (faithful : Faithful tracker history)
    (dirty : tracker.DirtyAt address) :
    ∃ page ∈ tracker.allPages, page ≤ address ∧ address < page + tracker.pageSize := by
  obtain ⟨region, member, contained, isDirty⟩ := dirty
  have wf := faithful.wf region member
  obtain ⟨inside, low, high⟩ := page_of_contains wf faithful.positive contained
  refine ⟨_, mem_flatMap.mpr ⟨region, member, (mem_pages wf).mpr
    ⟨_, inside, isDirty, rfl⟩⟩, low, high⟩

end

section
variable (faithful : Faithful tracker history)
include faithful

/-- An insertion adds its range to the tracked ones. -/
theorem Faithful.mem_insertRegion {memory : RegionMemory} {other}
    (inserted : tracker.insertRegion range initiallyDirty memory = (.ok (), next)) :
    other ∈ next.ranges ↔ other = range ∨ other ∈ tracker.ranges := by
  obtain ⟨index, region, valid, made, rfl⟩ := insertRegion_eq_ok inserted
  have fits := fitsAt_of_validateInsertPosition faithful.ordered valid
  rw [ranges, map_insertIdx, (new_eq_ok made).1]
  exact mem_insertIdx fits.inside

/-- A removal takes its range, which is tracked once, out of the tracked ones. -/
theorem Faithful.mem_removeRegion {other}
    (removed : tracker.removeRegion range = (true, next)) :
    other ∈ next.ranges ↔ other ≠ range ∧ other ∈ tracker.ranges := by
  have isNext := tracker.removeRegion_eq range
  rw [removed] at isNext
  subst isNext
  simp only [ranges, mem_map, Ordered.mem_eraseIdx faithful.ordered]
  constructor
  · rintro ⟨region, ⟨different, member⟩, rfl⟩
    exact ⟨different, region, member, rfl⟩
  · rintro ⟨different, region, member, rfl⟩
    exact ⟨region, ⟨different, member⟩, rfl⟩

end

/-- The tracked ranges are those which the history says. -/
theorem Reaches.mem_ranges (reaches : Reaches tracker history) :
    range ∈ tracker.ranges ↔ TrackedSince range history := by
  induction reaches with
  | new made =>
    rw [new_ranges made, trackedSince_cons]
    simp [Tracks, TrackedSince]
  | insertRegion prior inserted ih =>
    rw [prior.faithful.mem_insertRegion inserted, trackedSince_cons, ← ih]
    simp [Tracks, eq_comm]
  | insertRegionFailed _ failed ih => exact insertRegion_error failed ▸ ih
  | removeRegion prior removed ih =>
    rw [prior.faithful.mem_removeRegion removed, trackedSince_cons, ← ih]
    simp [Tracks, eq_comm]
  | removeRegionMissing _ missing ih => exact removeRegion_false missing ▸ ih
  | markRange _ marked ih =>
    obtain rfl := markRange_eq_ok marked
    rw [trackedSince_cons, ← ih]
    simp [Tracks, ranges, range_markIntersection]
  | markRangeFailed _ failed ih => exact (markRange_error failed).1 ▸ ih
  | clearQuiesced _ cleared ih =>
    obtain ⟨_, rfl⟩ := Prod.mk.inj cleared
    rw [trackedSince_cons, ← ih]
    simp [Tracks, ranges, clear]

/-- After any history, the tracker has exactly the regions which the history leaves, and a query
reports exactly the pages of those regions which the history makes dirty, ascending and without
repetition, unless storage for the report runs out; failing operations leave the tracker as it
was. -/
theorem dirtyPages_reports (reaches : Reaches tracker history) :
    (∀ range, range ∈ tracker.ranges ↔ TrackedSince range history) ∧
    (∃ pages : List Nat, pages.Pairwise (· < ·) ∧
      (∀ page, page ∈ pages ↔ ∃ range, TrackedSince range history ∧
        IsPage range tracker.pageSize page ∧ DirtySince range tracker.pageSize page history) ∧
      ∀ reserve, Collects reserve pages (tracker.dirtyPages reserve) ∧
        Collects reserve pages ((tracker.snapshotQuiesced reserve).map (·.pages))) ∧
    (∀ range next error, tracker.markRange range = (.error error, next) →
      next = tracker ∧ error = .untrackedRange range) ∧
    (∀ range initiallyDirty memory next error,
      tracker.insertRegion range initiallyDirty memory = (.error error, next) →
      next = tracker) := by
  have faithful := reaches.faithful
  refine ⟨fun range => reaches.mem_ranges, ⟨tracker.allPages, faithful.pairwise_allPages,
    fun page => ?_, fun reserve => ⟨faithful.dirtyPages_collects reserve, ?_⟩⟩,
    fun _ _ _ failed => markRange_error failed, fun _ _ _ _ _ failed => insertRegion_error failed⟩
  · simp only [faithful.mem_allPages, reaches.mem_ranges]
  · rw [snapshotQuiesced_eq]
    rcases faithful.dirtyPages_collects reserve with found | ⟨refused, failed⟩
    · exact .inl (by rw [found]; rfl)
    · exact .inr ⟨refused, by rw [failed]; rfl⟩

/-- Two pages of guest memory. -/
def twoPages : GuestMemoryRange := ⟨0x1000, 0x2000, by decide, by decide⟩

/-- The last byte of the second page. -/
def secondPage : GuestMemoryRange := ⟨0x2fff, 1, by decide, by decide⟩

/-- One page above the two. -/
def thirdPage : GuestMemoryRange := ⟨0x3000, 0x1000, by decide, by decide⟩

/-- Two pages whose second one was marked, and a third one inserted dirty. -/
def markedTracker : GuestMemoryDirtyTracker :=
  ⟨0x1000, 0, [⟨twoPages, [2#64]⟩, ⟨thirdPage, [1#64]⟩]⟩

theorem dirtyPages_reports_marked : thirdPage ∈ markedTracker.ranges ∧ ∃ pages : List Nat,
    (∀ page, page ∈ pages ↔ ∃ range,
      TrackedSince range [.insert thirdPage true, .mark secondPage, .create [twoPages]] ∧
        IsPage range 0x1000 page ∧
        DirtySince range 0x1000 page [.insert thirdPage true, .mark secondPage, .create [twoPages]]) ∧
    ∀ reserve, Collects reserve pages (markedTracker.dirtyPages reserve) := by
  have made : new [twoPages] 0x1000 (fun _ => ⟨true, true⟩) =
      .ok ⟨0x1000, 0, [⟨twoPages, [0#64]⟩]⟩ := by
    decide
  have marked : markRange ⟨0x1000, 0, [⟨twoPages, [0#64]⟩]⟩ secondPage =
      (.ok (), ⟨0x1000, 0, [⟨twoPages, [2#64]⟩]⟩) := by
    decide
  have inserted : insertRegion ⟨0x1000, 0, [⟨twoPages, [2#64]⟩]⟩ thirdPage true ⟨true, true⟩ =
      (.ok (), markedTracker) := by
    decide
  obtain ⟨_, ⟨pages, _, reported, collects⟩, _⟩ :=
    dirtyPages_reports (.insertRegion (.markRange (.new made) marked) inserted)
  exact ⟨by decide, pages, reported, fun reserve => (collects reserve).1⟩

end GuestMemoryDirtyTracker
end
end Bangbang.Memory
