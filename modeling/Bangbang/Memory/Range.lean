import Bangbang.Base.Fallible
import Mathlib.Data.List.Basic
import Mathlib.Data.List.InsertIdx

/-!
# Guest address ranges

Guest addresses are 64-bit machine words, represented by numbers below
`wordLimit`. A range carries the two facts its constructor checks: it is not
empty, and its exclusive end is an address.
-/

namespace Bangbang.Memory

open List

structure GuestMemoryRange where
  (start size : Nat)
  positive : 0 < size
  bounded : start + size < wordLimit
deriving DecidableEq, Repr

open GuestMemoryRange

inductive GuestMemoryError where
  | emptyLayout
  | emptyRange (start : Nat)
  | addressOverflow (start size : Nat)
  | invalidAlignment (alignment : Nat)
  | unalignedRange (range : GuestMemoryRange) (alignment : Nat)
  | unorderedRange (previous next : GuestMemoryRange)
  | overlappingRange (previous next : GuestMemoryRange)
deriving DecidableEq, Repr

def isPowerOfTwo (value : Nat) : Bool := value != 0 && 2 ^ value.log2 == value

def validateAlignment (alignment : Nat) : Except GuestMemoryError Unit :=
  rejectIf (alignment = 0 ∨ !isPowerOfTwo alignment) (.invalidAlignment alignment)

namespace GuestMemoryRange

def new (start size : Nat) : Except GuestMemoryError GuestMemoryRange :=
  if empty : size = 0 then .error (.emptyRange start)
  else if bounded : start + size < wordLimit then
    .ok ⟨start, size, Nat.pos_of_ne_zero empty, bounded⟩
  else .error (.addressOverflow start size)

def endExclusive (range : GuestMemoryRange) : Nat := range.start + range.size

def overlaps (range other : GuestMemoryRange) : Bool :=
  range.start < other.endExclusive && other.start < range.endExclusive

def isAdjacentTo (range other : GuestMemoryRange) : Bool :=
  range.endExclusive == other.start || other.endExclusive == range.start

def contains (range : GuestMemoryRange) (address : Nat) : Bool :=
  range.start ≤ address && address < range.endExclusive

def validateAlignment (range : GuestMemoryRange) (alignment : Nat) :
    Except GuestMemoryError Unit := do
  Memory.validateAlignment alignment
  rejectIf (¬ (alignment ∣ range.start ∧ alignment ∣ range.size)) (.unalignedRange range alignment)

variable {range other : GuestMemoryRange} {address : Nat}

theorem start_lt_endExclusive (range : GuestMemoryRange) : range.start < range.endExclusive :=
  Nat.lt_add_of_pos_right range.positive

theorem endExclusive_lt (range : GuestMemoryRange) : range.endExclusive < wordLimit :=
  range.bounded

theorem contains_iff :
    range.contains address = true ↔ range.start ≤ address ∧ address < range.endExclusive := by
  simp [contains]

/-- Ranges which hold a common address overlap. -/
theorem overlaps_of_contains (inRange : range.contains address = true)
    (inOther : other.contains address = true) : range.overlaps other = true := by
  simp only [contains, overlaps, Bool.and_eq_true, decide_eq_true_eq] at *
  omega

/-- Ranges overlap when each starts before the other ends. -/
theorem overlaps_iff :
    range.overlaps other = true ↔
      range.start < other.endExclusive ∧ other.start < range.endExclusive := by
  simp [overlaps]

theorem overlaps_comm (range other : GuestMemoryRange) :
    range.overlaps other = other.overlaps range := Bool.and_comm _ _

/-- A range is determined by its ends. -/
theorem eq_of_start_of_endExclusive (sameStart : range.start = other.start)
    (sameEnd : range.endExclusive = other.endExclusive) : range = other := by
  obtain ⟨start, size, _, _⟩ := range
  obtain ⟨otherStart, otherSize, _, _⟩ := other
  simp only [endExclusive] at sameStart sameEnd
  subst sameStart
  have : size = otherSize := by omega
  subst this
  rfl

theorem new_eq_ok {start size} (made : new start size = .ok range) :
    range.start = start ∧ range.size = size := by
  unfold new at made
  split at made
  · simp at made
  · split at made
    · cases made
      exact ⟨rfl, rfl⟩
    · simp at made

theorem new_self (range) : new range.start range.size = .ok range := by
  have positive := range.positive
  rw [new, dif_neg (by omega), dif_pos range.bounded]

/-- A range is aligned when both its start and its size are. -/
theorem validateAlignment_eq_ok {alignment done} :
    range.validateAlignment alignment = .ok done ↔
      0 < alignment ∧ isPowerOfTwo alignment = true ∧
        alignment ∣ range.start ∧ alignment ∣ range.size := by
  simp only [validateAlignment, Memory.validateAlignment, bind_eq_ok, rejectIf_eq_ok]
  simp only [not_or, Bool.not_eq_true', Bool.not_eq_false, not_not, exists_const,
    Nat.pos_iff_ne_zero, and_assoc]

end GuestMemoryRange

/-- Ascending ranges, none of which meets another. -/
def Ordered (ranges : List GuestMemoryRange) : Prop :=
  ranges.Pairwise fun lower upper => lower.endExclusive ≤ upper.start

/-- A range fits between the ranges before and after an index. -/
structure FitsAt (ranges : List GuestMemoryRange) (index : Nat) (range : GuestMemoryRange) :
    Prop where
  inside : index ≤ ranges.length
  before : ∀ lower ∈ ranges.take index, lower.endExclusive ≤ range.start
  after : ∀ upper ∈ ranges.drop index, range.endExclusive ≤ upper.start

variable {α : Type} {index : Nat}

theorem insertIdx_eq_append {items : List α} (item : α) (inside : index ≤ items.length) :
    items.insertIdx index item = items.take index ++ item :: items.drop index := by
  induction index generalizing items with
  | zero => rfl
  | succ index ih =>
    cases items with
    | nil => simp at inside
    | cons first items => simpa using ih (by simpa using inside)

variable {ranges : List GuestMemoryRange} {range : GuestMemoryRange}

/-- A range which fits at an index keeps the order. -/
theorem Ordered.insertIdx (ordered : Ordered ranges) (fits : FitsAt ranges index range) :
    Ordered (ranges.insertIdx index range) := by
  rw [insertIdx_eq_append range fits.inside]
  refine pairwise_append.mpr ⟨ordered.sublist (take_sublist _ _),
    pairwise_cons.mpr ⟨fits.after, ordered.sublist (drop_sublist _ _)⟩, ?_⟩
  intro lower member upper upperMember
  rcases mem_cons.mp upperMember with rfl | later
  · exact fits.before lower member
  · have below := fits.before lower member
    have above := fits.after upper later
    have := range.start_lt_endExclusive
    omega

theorem Ordered.eraseIdx (ordered : Ordered ranges) (index) : Ordered (ranges.eraseIdx index) :=
  ordered.sublist (eraseIdx_sublist ..)

variable {rangeOf : α → GuestMemoryRange}

/-- Items of ordered ranges have distinct ranges, so erasing one leaves exactly
the others. -/
theorem Ordered.mem_eraseIdx {items : List α} (ordered : Ordered (items.map rangeOf)) {item : α} :
    item ∈ items.eraseIdx (items.findIdx (rangeOf · == range)) ↔
      rangeOf item ≠ range ∧ item ∈ items := by
  induction items with
  | nil => simp
  | cons first items ih =>
    obtain ⟨above, tailOrdered⟩ := pairwise_cons.mp ordered
    rw [findIdx_cons]
    by_cases found : rangeOf first = range
    · have different : item ∈ items → rangeOf item ≠ range := by
        intro member same
        have below := above (rangeOf item) (mem_map_of_mem member)
        have := range.start_lt_endExclusive
        rw [found, same] at below
        omega
      simp only [found, beq_self_eq_true, cond_true, eraseIdx_cons_zero, mem_cons]
      refine ⟨fun member => ⟨different member, .inr member⟩, ?_⟩
      rintro ⟨other, rfl | member⟩
      · exact absurd found other
      · exact member
    · simp only [beq_eq_false_iff_ne.mpr found, cond_false, eraseIdx_cons_succ,
        mem_cons, ih tailOrdered]
      refine ⟨?_, fun ⟨other, member⟩ => member.imp_right fun later => ⟨other, later⟩⟩
      rintro (rfl | ⟨other, member⟩)
      · exact ⟨found, .inl rfl⟩
      · exact ⟨other, .inr member⟩

/-- Erasing the item of a range erases that range. -/
theorem map_eraseIdx_findIdx (rangeOf : α → GuestMemoryRange) (items : List α)
    (range : GuestMemoryRange) :
    (items.eraseIdx (items.findIdx (rangeOf · == range))).map rangeOf =
      (items.map rangeOf).eraseIdx ((items.map rangeOf).findIdx (· == range)) := by
  rw [eraseIdx_map, findIdx_map]
  rfl

variable {first range : GuestMemoryRange}

/-- A range below the first of ordered ranges fits before all of them. -/
theorem FitsAt.zero (ordered : Ordered (first :: ranges)) (apart : first.overlaps range = false)
    (below : range.start ≤ first.start) : FitsAt (first :: ranges) 0 range := by
  rw [← Bool.not_eq_true, overlaps_iff] at apart
  have := first.start_lt_endExclusive
  refine ⟨Nat.zero_le _, by simp, forall_mem_cons.mpr ⟨by omega, fun upper member => ?_⟩⟩
  have := (pairwise_cons.mp ordered).1 upper member
  omega

theorem FitsAt.succ (fits : FitsAt ranges index range) (apart : first.overlaps range = false)
    (above : first.start ≤ range.start) : FitsAt (first :: ranges) (index + 1) range := by
  rw [← Bool.not_eq_true, overlaps_iff] at apart
  have := range.start_lt_endExclusive
  refine ⟨by simpa using fits.inside, ?_, by simpa using fits.after⟩
  exact forall_mem_cons.mpr ⟨by omega, fits.before⟩

/-- A range which fits is none of the ranges already there. -/
theorem FitsAt.not_mem (fits : FitsAt ranges index range) : range ∉ ranges := by
  intro member
  rw [← take_append_drop index ranges, mem_append] at member
  have := range.start_lt_endExclusive
  rcases member with lower | upper
  · have := fits.before range lower
    omega
  · have := fits.after range upper
    omega

/-- A range which fits overlaps no other. -/
theorem FitsAt.apart {range other} (fits : FitsAt ranges index range) (isOther : other ∈ ranges) :
    other.overlaps range = false := by
  rw [← Bool.not_eq_true, overlaps_iff]
  rw [← take_append_drop index ranges, mem_append] at isOther
  rcases isOther with lower | upper
  · have := fits.before other lower
    omega
  · have := fits.after other upper
    omega

/-- A range fits at one index only. -/
theorem FitsAt.unique {first second} (fitsFirst : FitsAt ranges first range)
    (fitsSecond : FitsAt ranges second range) : first = second := by
  -- An index between the two would hold a range both below and above.
  have notLess : ∀ {low high : Nat}, FitsAt ranges low range → FitsAt ranges high range →
      ¬ low < high := by
    intro low high fitsLow fitsHigh less
    have inside : low < ranges.length := Nat.lt_of_lt_of_le less fitsHigh.inside
    have below := fitsHigh.before ranges[low] (mem_take_iff_getElem.mpr ⟨low, by omega, rfl⟩)
    have above := fitsLow.after ranges[low] (mem_drop_iff_getElem.mpr ⟨0, by omega, by simp⟩)
    have := range.start_lt_endExclusive
    have := ranges[low].start_lt_endExclusive
    omega
  have := notLess fitsFirst fitsSecond
  have := notLess fitsSecond fitsFirst
  omega

/-- Items which end below the range: the last of them does, and it starts above the ends
of the others. -/
theorem below_of_last {items : List α} (ordered : Ordered (items.map rangeOf))
    (starts : ∀ item ∈ items, (rangeOf item).start < range.start)
    (last : ∀ item, items.getLast? = some item → (rangeOf item).overlaps range = false) :
    ∀ item ∈ items, (rangeOf item).endExclusive ≤ range.start := by
  have nonempty := range.start_lt_endExclusive
  rcases eq_nil_or_concat items with rfl | ⟨others, final, rfl⟩
  · simp
  · have apart := last final (by simp)
    have finalStarts := starts final (by simp)
    simp only [overlaps, Bool.and_eq_false_iff, decide_eq_false_iff_not] at apart
    intro item member
    rcases mem_append.mp (concat_eq_append ▸ member) with earlier | isFinal
    · rw [concat_eq_append, map_append, Ordered, pairwise_append] at ordered
      have := ordered.2.2 (rangeOf item) (mem_map_of_mem earlier) (rangeOf final) (by simp)
      omega
    · rw [mem_singleton.mp isFinal]
      omega

/-- Non-overlapping neighbours of the partition point leave room for the range. -/
theorem fitsAt_takeWhile {items : List α} (ordered : Ordered (items.map rangeOf))
    (previous : ∀ item,
      (checkedSub (items.takeWhile fun item => (rangeOf item).start < range.start).length 1).bind
        (items[·]?) = some item → (rangeOf item).overlaps range = false)
    (following : ∀ item,
      items[(items.takeWhile fun item => (rangeOf item).start < range.start).length]? = some item →
        (rangeOf item).overlaps range = false) :
    FitsAt (items.map rangeOf)
      (items.takeWhile fun item => (rangeOf item).start < range.start).length range := by
  -- The list splits at the partition point into items which start below the range and items
  -- the first of which does not.
  have split : (items.takeWhile fun item => decide ((rangeOf item).start < range.start)) ++
      (items.dropWhile fun item => decide ((rangeOf item).start < range.start)) = items :=
    List.takeWhile_append_dropWhile
  have starts : ∀ item ∈ items.takeWhile fun item => decide ((rangeOf item).start < range.start),
      (rangeOf item).start < range.start := fun item member => by
    simpa using List.all_eq_true.mp List.all_takeWhile item member
  have notBelow : ∀ item,
      (items.dropWhile fun item => decide ((rangeOf item).start < range.start)).head? = some item →
      range.start ≤ (rangeOf item).start := fun item found => by
    have := List.head?_dropWhile_not (fun item : α =>
      decide ((rangeOf item).start < range.start)) items
    simpa [found] using this
  generalize (items.takeWhile fun item => decide ((rangeOf item).start < range.start)) = low at *
  generalize (items.dropWhile fun item => decide ((rangeOf item).start < range.start)) = high at *
  subst split
  rw [List.map_append, Ordered, List.pairwise_append] at ordered
  refine ⟨by simp, ?_, ?_⟩
  · rw [← List.map_take, List.take_left, List.forall_mem_map]
    refine below_of_last ordered.1 starts fun item found => previous item ?_
    rw [List.getLast?_eq_getElem?] at found
    have inside := (List.getElem?_eq_some_iff.mp found).1
    rw [checkedSub, if_pos (by omega), Option.bind_some, List.getElem?_append_left inside, found]
  · rw [← List.map_drop, List.drop_left, List.forall_mem_map]
    cases high with
    | nil => simp
    | cons item high =>
      have apart := following item (by simp)
      simpa using (FitsAt.zero ordered.2.1 apart (notBelow item rfl)).after

/-- Sorting items whose ranges do not overlap puts them one after the other. -/
theorem ordered_mergeSort {items : List α}
    (disjoint : items.Pairwise fun first second =>
      (rangeOf first).overlaps (rangeOf second) = false) :
    Ordered ((items.mergeSort fun first second =>
      (rangeOf first).start ≤ (rangeOf second).start).map rangeOf) := by
  have sorted : (items.mergeSort fun first second =>
      decide ((rangeOf first).start ≤ (rangeOf second).start)).Pairwise fun first second =>
        decide ((rangeOf first).start ≤ (rangeOf second).start) = true :=
    pairwise_mergeSort (by simpa using fun _ _ _ => Nat.le_trans)
      (by simpa using fun _ _ => Nat.le_total _ _) items
  have apart := ((mergeSort_perm items fun first second =>
    decide ((rangeOf first).start ≤ (rangeOf second).start)).pairwise_iff ?_).mpr disjoint
  · refine pairwise_map.mpr ((sorted.and apart).imp fun {lower upper} both => ?_)
    obtain ⟨starts, apart⟩ := both
    rw [← Bool.not_eq_true, overlaps_iff] at apart
    have := (rangeOf upper).start_lt_endExclusive
    have := of_decide_eq_true starts
    omega
  · intro first second apart
    rw [← Bool.not_eq_true, overlaps_iff] at apart ⊢
    omega

/-- Ordered items with the same members are the same list. -/
theorem Ordered.eq_of_mem_iff {first second : List α} (orderedFirst : Ordered (first.map rangeOf))
    (orderedSecond : Ordered (second.map rangeOf)) (same : ∀ item, item ∈ first ↔ item ∈ second) :
    first = second := by
  have distinct : ∀ {items : List α}, Ordered (items.map rangeOf) → items.Nodup := by
    intro items ordered
    refine (pairwise_map.mp ordered).imp fun {lower upper} below equal => ?_
    subst equal
    have := (rangeOf lower).start_lt_endExclusive
    omega
  refine List.Perm.eq_of_pairwise ?_ (pairwise_map.mp orderedFirst)
    (pairwise_map.mp orderedSecond)
    ((perm_ext_iff_of_nodup (distinct orderedFirst) (distinct orderedSecond)).mpr same)
  intro lower upper _ _ below above
  have := (rangeOf lower).start_lt_endExclusive
  have := (rangeOf upper).start_lt_endExclusive
  omega

/-- Items with ordered ranges hold an address at most once. -/
theorem Ordered.eq_of_contains {items : List α} (ordered : Ordered (items.map rangeOf))
    {first second : α} (firstMember : first ∈ items) (secondMember : second ∈ items)
    {address : Nat} (inFirst : (rangeOf first).contains address = true)
    (inSecond : (rangeOf second).contains address = true) : first = second := by
  rw [contains_iff] at inFirst inSecond
  induction items with
  | nil => simp at firstMember
  | cons item items ih =>
    obtain ⟨below, rest⟩ := pairwise_cons.mp ordered
    rcases mem_cons.mp firstMember with rfl | firstLater <;>
      rcases mem_cons.mp secondMember with rfl | secondLater
    · rfl
    · have := below _ (mem_map_of_mem secondLater)
      omega
    · have := below _ (mem_map_of_mem firstLater)
      omega
    · exact ih rest firstLater secondLater

/-- An address lies in one range only. -/
theorem Ordered.range_unique (ordered : Ordered ranges) {first second : GuestMemoryRange}
    (firstMember : first ∈ ranges) (secondMember : second ∈ ranges) {address : Nat}
    (inFirst : first.contains address = true) (inSecond : second.contains address = true) :
    first = second :=
  @Ordered.eq_of_contains GuestMemoryRange id ranges (by simpa using ordered) first second
    firstMember secondMember address inFirst inSecond

/-- Walk ordered ranges from `current` until `stop` is reached without a gap. -/
def coversFrom (stop current : Nat) : List GuestMemoryRange → Bool
  | [] => false
  | range :: ranges =>
    if range.endExclusive ≤ current then coversFrom stop current ranges
    else if current < range.start then false
    else if stop ≤ range.endExclusive then true
    else coversFrom stop range.endExclusive ranges

/-- An address between the ends of a walk lies in some range. -/
def Covers (ranges : List GuestMemoryRange) (first stop : Nat) : Prop :=
  ∀ address, first ≤ address → address < stop → ∃ range ∈ ranges, range.contains address = true

variable {first stop : Nat}

section
variable (covers : Covers (range :: ranges) first stop)
include covers

/-- Addresses which the first range does not reach are covered by the others. -/
theorem Covers.tail (past : range.endExclusive ≤ first) : Covers ranges first stop := by
  intro address above below
  obtain ⟨found, member, contained⟩ := covers address above below
  rcases mem_cons.mp member with rfl | later
  · rw [contains_iff] at contained
    omega
  · exact ⟨found, later, contained⟩

/-- The first range which reaches past a covered address contains it. -/
theorem Covers.head (ordered : Ordered (range :: ranges)) (reaches : first < range.endExclusive)
    (nonempty : first < stop) : range.start ≤ first := by
  obtain ⟨found, member, contained⟩ := covers first (Nat.le_refl _) nonempty
  rw [contains_iff] at contained
  rcases mem_cons.mp member with rfl | later
  · exact contained.1
  · have := (pairwise_cons.mp ordered).1 found later
    omega

end

/-- The walk of ordered ranges finds out whether they cover an interval. -/
theorem coversFrom_iff (ordered : Ordered ranges) {current stop} (nonempty : current < stop) :
    coversFrom stop current ranges = true ↔ Covers ranges current stop := by
  induction ranges generalizing current with
  | nil =>
    simp only [coversFrom, Bool.false_eq_true, false_iff]
    intro covers
    obtain ⟨_, member, _⟩ := covers current (Nat.le_refl _) nonempty
    simp at member
  | cons range ranges ih =>
    have rest : ∀ {first : Nat}, first < stop → _ := ih (List.Pairwise.of_cons ordered)
    have widen : ∀ {first : Nat}, Covers ranges first stop → Covers (range :: ranges) first stop :=
      fun covers address above below =>
        have ⟨found, member, contained⟩ := covers address above below
        ⟨found, mem_cons_of_mem _ member, contained⟩
    rw [coversFrom]
    split
    case isTrue past => exact ⟨fun walked => widen ((rest nonempty).mp walked),
      fun covers => (rest nonempty).mpr (covers.tail past)⟩
    case isFalse reaches =>
      split
      case isTrue gap =>
        simp only [Bool.false_eq_true, false_iff]
        intro covers
        have := covers.head ordered (by omega) nonempty
        omega
      case isFalse starts =>
        split
        case isTrue last =>
          simp only [true_iff]
          intro address above below
          exact ⟨range, mem_cons_self, contains_iff.mpr (by omega)⟩
        case isFalse more =>
          rw [rest (by omega)]
          constructor
          · intro covers address above below
            by_cases inside : address < range.endExclusive
            · exact ⟨range, mem_cons_self, contains_iff.mpr (by omega)⟩
            · exact widen covers address (by omega) below
          · intro covers
            refine Covers.tail (fun address above below => ?_) (Nat.le_refl _)
            exact covers address (by omega) below

section

structure GuestMemoryLayout where
  ranges : List GuestMemoryRange
deriving DecidableEq, Repr

/-- Each range lies above the one before it. -/
def validateSuccessors : Option GuestMemoryRange → List GuestMemoryRange →
    Except GuestMemoryError Unit
  | _, [] => .ok ()
  | previous, range :: ranges => do
    match previous with
    | some previous =>
      rejectIf (range.start < previous.start) (.unorderedRange previous range)
      rejectIf (previous.overlaps range) (.overlappingRange previous range)
    | none => pure ()
    validateSuccessors (some range) ranges

def GuestMemoryLayout.new (ranges : List GuestMemoryRange) :
    Except GuestMemoryError GuestMemoryLayout := do
  rejectIf ranges.isEmpty .emptyLayout
  validateSuccessors none ranges
  return { ranges }

variable {ranges : List GuestMemoryRange}

/-- Ranges which are accepted one after the other are ordered. -/
theorem ordered_of_validateSuccessors {previous done}
    (valid : validateSuccessors previous ranges = .ok done) :
    Ordered ranges ∧ ∀ lower ∈ previous, ∀ upper ∈ ranges, lower.endExclusive ≤ upper.start := by
  induction ranges generalizing previous with
  | nil => exact ⟨.nil, by simp⟩
  | cons range ranges ih =>
    cases previous with
    | none =>
      obtain ⟨ordered, below⟩ := ih valid
      exact ⟨pairwise_cons.mpr ⟨below range rfl, ordered⟩, by simp⟩
    | some lower =>
      simp only [validateSuccessors, bind_eq_ok, rejectIf_eq_ok,
        overlaps_iff] at valid
      obtain ⟨_, notBelow, _, apart, rest⟩ := valid
      obtain ⟨ordered, below⟩ := ih rest
      refine ⟨pairwise_cons.mpr ⟨below range rfl, ordered⟩, ?_⟩
      rintro _ ⟨⟩
      have rangeNonempty := range.start_lt_endExclusive
      have step : lower.endExclusive ≤ range.start := by omega
      refine forall_mem_cons.mpr ⟨step, fun upper member => ?_⟩
      have := below range rfl upper member
      omega

/-- A layout's ranges ascend without overlap. -/
theorem GuestMemoryLayout.new_ordered {layout} (made : GuestMemoryLayout.new ranges = .ok layout) :
    layout.ranges = ranges ∧ Ordered layout.ranges := by
  simp only [GuestMemoryLayout.new, bind_eq_ok, pure_eq_ok] at made
  obtain ⟨_, _, _, valid, rfl⟩ := made
  exact ⟨rfl, (ordered_of_validateSuccessors valid).1⟩

end
end Bangbang.Memory
