import Bangbang.Memory.GuestMemory
import Mathlib.Order.Bounds.Defs

/-!
# Placement of the hotplug window

The window of a device is placed above the devices of the 64-bit space. A candidate which
meets reserved ranges is moved past the one which ends last, and aligned again. No address
which is passed over would do, so that the first candidate which meets none is the least
address at which the window fits (`allocateVirtioMemRegion_first_fit`).
-/

namespace Bangbang.MemoryHotplug

open Memory GuestMemoryRange

/-- Why a device could not be prepared. -/
inductive VirtioMemPrepareError where
  | sizeOverflow (field : String) (mib : Nat)
  | regionAddressOverflow (address regionSize : Nat)
  | regionAlignmentOverflow (address alignment : Nat)
  | regionUnavailable (regionSize alignment addressSpaceEnd : Nat)
deriving DecidableEq, Repr

def virtioMemDefaultRegionAddress : Nat := 512 * 2 ^ 30

/-- The start of system memory and its greatest size. -/
def virtioMemRegionAddressSpaceEnd : Nat := 0x80000000 + 0x00ff80000000

def alignVirtioMemRegionAddress (address alignment : Nat) : Except VirtioMemPrepareError Nat :=
  let remainder := address % alignment
  if remainder = 0 then .ok address
  else okOr (checkedAdd address (alignment - remainder))
    (.regionAlignmentOverflow address alignment)

/-- The last of the ranges which end last. -/
def lastEnding : List GuestMemoryRange → Option GuestMemoryRange
  | [] => none
  | range :: ranges =>
    match lastEnding ranges with
    | none => some range
    | some last => if last.endExclusive < range.endExclusive then some range else some last

theorem lastEnding_eq_none {ranges} (empty : lastEnding ranges = none) : ranges = [] := by
  cases ranges with
  | nil => rfl
  | cons range ranges =>
    rw [lastEnding] at empty
    split at empty
    · cases empty
    · split at empty <;> cases empty

theorem lastEnding_mem {ranges last} (found : lastEnding ranges = some last) : last ∈ ranges := by
  induction ranges generalizing last with
  | nil => cases found
  | cons range ranges ih =>
    rw [lastEnding] at found
    split at found
    · exact Option.some.inj found ▸ List.mem_cons_self
    case h_2 other isLast =>
      split at found
      · exact Option.some.inj found ▸ List.mem_cons_self
      · exact Option.some.inj found ▸ List.mem_cons_of_mem _ (ih isLast)

/-- The reserved range which a candidate is moved past. -/
def blocking (candidate : GuestMemoryRange) (reserved : List GuestMemoryRange) :
    Option GuestMemoryRange :=
  lastEnding (reserved.filter candidate.overlaps)

/-- What blocks a candidate is reserved and overlaps it. -/
theorem blocking_overlaps {candidate range reserved}
    (blocked : blocking candidate reserved = some range) :
    range ∈ reserved ∧ candidate.start < range.endExclusive ∧
      range.start < candidate.endExclusive := by
  obtain ⟨member, overlaps⟩ := List.mem_filter.mp (lastEnding_mem blocked)
  rw [GuestMemoryRange.overlaps, Bool.and_eq_true, decide_eq_true_iff,
    decide_eq_true_iff] at overlaps
  exact ⟨member, overlaps⟩

/-- Alignment only moves an address up. -/
theorem le_alignVirtioMemRegionAddress {address alignment next}
    (aligned : alignVirtioMemRegionAddress address alignment = .ok next) : address ≤ next := by
  rw [alignVirtioMemRegionAddress] at aligned
  split at aligned
  · exact Nat.le_of_eq (Except.ok.inj aligned)
  · obtain ⟨-, rfl⟩ := checkedAdd_eq_some.mp (okOr_eq_ok.mp aligned)
    exact Nat.le_add_right _ _

/-- The loop of the placement, from one candidate on. -/
def placeFrom (regionSize alignment : Nat) (reserved : List GuestMemoryRange) (address : Nat) :
    Except VirtioMemPrepareError Nat :=
  if wordLimit ≤ address + regionSize then .error (.regionAddressOverflow address regionSize)
  else if virtioMemRegionAddressSpaceEnd < address + regionSize then
    .error (.regionUnavailable regionSize alignment virtioMemRegionAddressSpaceEnd)
  else
    match made : GuestMemoryRange.new address regionSize with
    | .error _ => .error (.regionAddressOverflow address regionSize)
    | .ok candidate =>
      match blocked : blocking candidate reserved with
      | none => .ok address
      | some overlap =>
        match moved : alignVirtioMemRegionAddress overlap.endExclusive alignment with
        | .error error => .error error
        | .ok next => placeFrom regionSize alignment reserved next
termination_by virtioMemRegionAddressSpaceEnd - address
decreasing_by
  have past := le_alignVirtioMemRegionAddress moved
  have overlaps := (blocking_overlaps blocked).2.1
  obtain ⟨start, size⟩ := GuestMemoryRange.new_eq_ok made
  have positive := candidate.positive
  omega

def allocateVirtioMemRegion (regionSize alignment : Nat) (reserved : List GuestMemoryRange) :
    Except VirtioMemPrepareError Nat := do
  let address ← alignVirtioMemRegionAddress virtioMemDefaultRegionAddress alignment
  placeFrom regionSize alignment reserved address

/-- The window may be placed at an address. -/
structure Placeable (regionSize alignment : Nat) (reserved : List GuestMemoryRange)
    (address : Nat) : Prop where
  above : virtioMemDefaultRegionAddress ≤ address
  aligned : alignment ∣ address
  inside : address + regionSize ≤ virtioMemRegionAddressSpaceEnd
  apart : ∀ range ∈ reserved, address + regionSize ≤ range.start ∨ range.endExclusive ≤ address

/-- An answer is the least address at which the window may be placed, and there is none
where the answer is an error. -/
def FirstFit (regionSize alignment : Nat) (reserved : List GuestMemoryRange) :
    Except VirtioMemPrepareError Nat → Prop
  | .ok address => IsLeast { address | Placeable regionSize alignment reserved address } address
  | .error _ => ∀ address, ¬ Placeable regionSize alignment reserved address

section
variable {regionSize alignment address : Nat} {reserved : List GuestMemoryRange}

/-- The aligned address is the next multiple, and only a multiple past the address space is
missed. -/
theorem alignVirtioMemRegionAddress_spec (positive : 0 < alignment) (address : Nat) :
    match alignVirtioMemRegionAddress address alignment with
    | .ok next => alignment ∣ next ∧ ∀ multiple, alignment ∣ multiple → address ≤ multiple →
        next ≤ multiple
    | .error _ => ∀ multiple, alignment ∣ multiple → address ≤ multiple → wordLimit ≤ multiple := by
  have split := Nat.div_add_mod address alignment
  have small := Nat.mod_lt address positive
  rw [alignVirtioMemRegionAddress]
  by_cases whole : address % alignment = 0
  · rw [if_pos whole]
    exact ⟨Nat.dvd_of_mod_eq_zero whole, fun _ _ => id⟩
  · rw [if_neg whole]
    have next : address + (alignment - address % alignment) =
        alignment * (address / alignment + 1) := by
      rw [Nat.mul_succ]
      omega
    have least : ∀ multiple, alignment ∣ multiple → address ≤ multiple →
        address + (alignment - address % alignment) ≤ multiple := by
      rintro _ ⟨factor, rfl⟩ above
      rw [next]
      refine Nat.mul_le_mul_left _ (Nat.lt_of_mul_lt_mul_left (a := alignment) ?_)
      omega
    by_cases fits : address + (alignment - address % alignment) < wordLimit
    · rw [checkedAdd, if_pos fits]
      exact ⟨next ▸ Nat.dvd_mul_right _ _, least⟩
    · rw [checkedAdd, if_neg fits]
      exact fun multiple divides above =>
        Nat.le_trans (Nat.not_lt.mp fits) (least multiple divides above)

theorem spaceEnd_lt_wordLimit : virtioMemRegionAddressSpaceEnd < wordLimit := by decide

theorem Placeable.lt_wordLimit (placeable : Placeable regionSize alignment reserved address) :
    address < wordLimit := by
  have := placeable.inside
  have := spaceEnd_lt_wordLimit
  omega

/-- No address before the end of a blocking range would do. -/
theorem moves (address : Nat) (candidate overlap : GuestMemoryRange)
    (made : GuestMemoryRange.new address regionSize = .ok candidate)
    (blocked : blocking candidate reserved = some overlap)
    (least : ∀ other, Placeable regionSize alignment reserved other → address ≤ other)
    (other : Nat) (placeable : Placeable regionSize alignment reserved other) :
    overlap.endExclusive ≤ other := by
  obtain ⟨member, -, meets⟩ := blocking_overlaps blocked
  obtain ⟨start, size⟩ := new_eq_ok made
  rw [endExclusive, start, size] at meets
  have := least other placeable
  rcases placeable.apart overlap member with before | after
  · omega
  · exact after

/-- The loop finds the least place from a candidate on. -/
theorem placeFrom_firstFit (positive : 0 < regionSize) (alignmentPositive : 0 < alignment)
    (above : virtioMemDefaultRegionAddress ≤ address) (aligned : alignment ∣ address)
    (least : ∀ other, Placeable regionSize alignment reserved other → address ≤ other) :
    FirstFit regionSize alignment reserved (placeFrom regionSize alignment reserved address) := by
  have spaceEnd := spaceEnd_lt_wordLimit
  -- Once the window does not fit at a candidate, it fits at no later address.
  have beyond : ∀ candidate, (∀ other, Placeable regionSize alignment reserved other →
      candidate ≤ other) → virtioMemRegionAddressSpaceEnd < candidate + regionSize →
      ∀ other, ¬ Placeable regionSize alignment reserved other := by
    intro candidate least outside other placeable
    have := least other placeable
    have := placeable.inside
    omega
  fun_induction placeFrom regionSize alignment reserved address with
  | case1 address overflows => exact beyond address least (by omega)
  | case2 address _ outside => exact beyond address least outside
  | case3 address _ _ error refused =>
    rw [new, dif_neg (by omega), dif_pos (by omega)] at refused
    cases refused
  | case4 address _ inside candidate made free =>
    refine ⟨⟨above, aligned, by omega, fun range member => ?_⟩, least⟩
    have apart := List.filter_eq_nil_iff.mp (lastEnding_eq_none free) range member
    obtain ⟨start, size⟩ := new_eq_ok made
    simp only [overlaps, Bool.and_eq_true, decide_eq_true_eq, not_and, Nat.not_lt] at apart
    simp only [endExclusive, start, size] at apart ⊢
    omega
  | case5 address _ inside candidate made overlap blocked error overflows =>
    intro other placeable
    have past := moves address candidate overlap made blocked least other placeable
    have spec := alignVirtioMemRegionAddress_spec alignmentPositive overlap.endExclusive
    rw [overflows] at spec
    exact absurd placeable.lt_wordLimit (Nat.not_lt.mpr (spec other placeable.aligned past))
  | case6 address _ inside candidate made overlap blocked next moved ih =>
    have spec := alignVirtioMemRegionAddress_spec alignmentPositive overlap.endExclusive
    rw [moved] at spec
    have past := le_alignVirtioMemRegionAddress moved
    have overlaps := (blocking_overlaps blocked).2.1
    rw [(new_eq_ok made).1] at overlaps
    refine ih (by omega) spec.1 fun other placeable => spec.2 other placeable.aligned ?_
    exact moves address candidate overlap made blocked least other placeable

end

/-- The window is placed at the least aligned address above the default one where it lies
inside the address space and meets no reserved range, and the placement fails exactly where
there is none. -/
theorem allocateVirtioMemRegion_first_fit {regionSize alignment : Nat} (positive : 0 < regionSize)
    (alignmentPositive : 0 < alignment) (reserved : List GuestMemoryRange) :
    FirstFit regionSize alignment reserved
      (allocateVirtioMemRegion regionSize alignment reserved) := by
  have spec := alignVirtioMemRegionAddress_spec alignmentPositive virtioMemDefaultRegionAddress
  rw [allocateVirtioMemRegion]
  cases aligned : alignVirtioMemRegionAddress virtioMemDefaultRegionAddress alignment with
  | error error =>
    rw [aligned] at spec
    exact fun address placeable => absurd placeable.lt_wordLimit
      (Nat.not_lt.mpr (spec address placeable.aligned placeable.above))
  | ok address =>
    rw [aligned] at spec
    exact placeFrom_firstFit positive alignmentPositive (le_alignVirtioMemRegionAddress aligned)
      spec.1 fun other placeable => spec.2 other placeable.aligned placeable.above

/-- A window of 2 MiB with nothing reserved stands at the default address. -/
theorem allocateVirtioMemRegion_first_fit_free : ∃ address,
    allocateVirtioMemRegion 0x200000 0x200000 [] = .ok address ∧
      IsLeast { address | Placeable 0x200000 0x200000 [] address } address := by
  have fits := allocateVirtioMemRegion_first_fit (show 0 < 0x200000 by decide)
    (show 0 < 0x200000 by decide) []
  have placeable : Placeable 0x200000 0x200000 [] virtioMemDefaultRegionAddress :=
    ⟨Nat.le_refl _, by decide, by decide, by simp⟩
  cases placed : allocateVirtioMemRegion 0x200000 0x200000 [] with
  | error error =>
    rw [placed] at fits
    exact absurd placeable (fits _)
  | ok address =>
    rw [placed] at fits
    exact ⟨address, rfl, fits⟩

/-- An empty window fits everywhere and is placed nowhere. -/
theorem empty_window_refused :
    Placeable 0 1 [] virtioMemDefaultRegionAddress ∧
      allocateVirtioMemRegion 0 1 [] =
        .error (.regionAddressOverflow virtioMemDefaultRegionAddress 0) := by
  refine ⟨⟨Nat.le_refl _, Nat.one_dvd _, by decide, by simp⟩, ?_⟩
  have aligned : alignVirtioMemRegionAddress virtioMemDefaultRegionAddress 1 =
      .ok virtioMemDefaultRegionAddress := rfl
  rw [allocateVirtioMemRegion, aligned, ok_bind, placeFrom, if_neg (by decide), if_neg (by decide)]
  rfl

end Bangbang.MemoryHotplug
