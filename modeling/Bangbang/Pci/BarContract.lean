import Bangbang.Pci.FreeRanges
import Mathlib.Order.Bounds.Defs

/-!
# The contract of the BAR allocator

The free ranges and the leased ones are a partition of the capacity. `Serves` says once
what a call may do to an allocator; every reachable allocator keeps the partition, its live
allocations are the leases which its history handed out and did not take back, and a lease is
released at most once.
-/

namespace Bangbang.Pci

open Memory Bangbang.Action GuestMemoryRange List

section
variable {first second : GuestMemoryRange}

theorem overlaps_eq_false_iff : first.overlaps second = false ↔
    ∀ address, first.contains address = true → ¬ second.contains address = true := by
  constructor
  · intro apart address inFirst inSecond
    rw [overlaps_of_contains inFirst inSecond] at apart
    cases apart
  · intro apart
    rw [← Bool.not_eq_true, overlaps_iff]
    rintro ⟨below, above⟩
    have := first.start_lt_endExclusive
    have := second.start_lt_endExclusive
    -- The larger start would be in both ranges.
    refine apart (max first.start second.start) ?_ ?_
    · exact contains_iff.mpr (by omega)
    · exact contains_iff.mpr (by omega)

variable {ranges others : List GuestMemoryRange}

/-- Separated ranges do not overlap. -/
theorem Separated.disjoint (separated : Separated ranges) :
    ranges.Pairwise fun first second => first.overlaps second = false := by
  refine separated.imp fun {lower upper} apart => ?_
  rw [← Bool.not_eq_true, overlaps_iff]
  omega

theorem Separated.ordered (separated : Separated ranges) : Ordered ranges :=
  separated.imp Nat.le_of_lt

/-- Separated ranges which hold the same addresses are the same. -/
theorem Separated.mem_of_holds (separated : Separated ranges) (separatedOthers : Separated others)
    (same : ∀ address, Holds ranges address ↔ Holds others address) {range}
    (isRange : range ∈ ranges) : range ∈ others := by
  obtain ⟨other, isOther, below, above⟩ := separatedOthers.exists_around range.positive
    fun address first last => (same address).mp (holds_iff.mpr ⟨range, isRange, first, last⟩)
  obtain ⟨around, isAround, starts, ends⟩ := separated.exists_around other.positive
    fun address first last => (same address).mpr (holds_iff.mpr ⟨other, isOther, first, last⟩)
  have nonempty := range.positive
  unfold endExclusive at above ends
  -- The range lies in the other one, which lies in a range of the first list.
  obtain rfl : range = around := by
    by_contra different
    have apart := separated.apart isRange isAround different
    unfold endExclusive at apart
    omega
  have equal : range = other := by
    cases range
    cases other
    simp only [mk.injEq]
    dsimp only at below above starts ends
    omega
  exact equal ▸ isOther

/-- Separated ranges are determined by the addresses which they hold. -/
theorem Separated.eq_of_holds (separated : Separated ranges) (separatedOthers : Separated others)
    (same : ∀ address, Holds ranges address ↔ Holds others address) : ranges = others := by
  have ordered {ranges} (separated : Separated ranges) : Ordered (ranges.map id) := by
    rw [map_id]
    exact separated.ordered
  exact Ordered.eq_of_mem_iff (ordered separated) (ordered separatedOthers) fun range =>
    ⟨separated.mem_of_holds separatedOthers same,
      separatedOthers.mem_of_holds separated fun address => (same address).symm⟩

end

namespace PciBarAllocator

/-- The leased ranges. -/
def leased (allocator : PciBarAllocator) : List GuestMemoryRange :=
  allocator.allocations.values.map PciBarAllocation.range

/-- The free and the leased ranges share the capacity out. -/
structure Partitioned (allocator : PciBarAllocator) : Prop where
  separated : Separated allocator.free
  disjoint : allocator.leased.Pairwise fun first second => first.overlaps second = false
  apart : ∀ address, Holds allocator.free address → ¬ Holds allocator.leased address
  covers : ∀ address, allocator.capacity.contains address = true ↔
    Holds allocator.free address ∨ Holds allocator.leased address
  issued : ∀ generation, allocator.nextGeneration ≤ generation →
    allocator.allocations.lookup generation = none

/-- A lease of a live allocation. -/
def Live (allocator : PciBarAllocator) (lease : PciBarLease) : Prop :=
  lease.allocator = allocator.provenance ∧
    allocator.allocations.lookup lease.generation = some ⟨lease.addressSpace, lease.range⟩

/-- What a call may do. -/
inductive Serves (allocator : PciBarAllocator) :
    PciBarCall → PciBarResult → PciBarAllocator → Prop where
  | refuse {call result} (failed : result.failed = true) : Serves allocator call result allocator
  | validate {reserves range} : Serves allocator (.validateExactReservation reserves range)
      (.validated (.ok ())) allocator
  | lease {call allocation nextFree} (leases : ∀ reserves lease, call ≠ .release reserves lease)
      (within : ∀ address, allocation.contains address = true → Holds allocator.free address)
      (separated : Separated nextFree)
      (carved : ∀ address, Holds nextFree address ↔
        Holds allocator.free address ∧ ¬ allocation.contains address = true) :
      Serves allocator call
        (.leased (.ok ⟨allocator.provenance, allocator.nextGeneration, allocator.addressSpace,
          allocation⟩))
        { allocator with
          free := nextFree
          allocations := allocator.allocations.insert allocator.nextGeneration
            ⟨allocator.addressSpace, allocation⟩
          nextGeneration := allocator.nextGeneration + 1 }
  | release {reserves lease free} (live : allocator.Live lease) (separated : Separated free)
      (merged : ∀ address, Holds free address ↔
        Holds allocator.free address ∨ lease.range.contains address = true) :
      Serves allocator (.release reserves lease) (.released (.ok ()))
        { allocator with allocations := allocator.allocations.erase lease.generation, free }

variable {allocator after : PciBarAllocator} {call : PciBarCall} {result}

/-- A refused call changes nothing. -/
theorem Serves.unchanged (serves : allocator.Serves call result after)
    (failed : result.failed = true) : after = allocator := by
  cases serves with
  | refuse | validate => rfl
  | lease | release => cases failed

/-- No call changes the capacity. -/
theorem Serves.capacity (serves : allocator.Serves call result after) :
    after.capacity = allocator.capacity := by
  cases serves with
  | refuse | validate | lease | release => rfl

/-- What is free and what is leased are complements in the capacity. -/
theorem Partitioned.complement (partitioned : allocator.Partitioned) (address) :
    (Holds allocator.free address ↔
      allocator.capacity.contains address = true ∧ ¬ Holds allocator.leased address) ∧
    (Holds allocator.leased address ↔
      allocator.capacity.contains address = true ∧ ¬ Holds allocator.free address) := by
  have apart := partitioned.apart address
  rw [partitioned.covers]
  tauto

theorem overlaps_symm {first second : GuestMemoryRange} (apart : first.overlaps second = false) :
    second.overlaps first = false := by
  rw [overlaps_comm]
  exact apart

section
variable {lease other : PciBarLease} (live : allocator.Live lease)
include live

/-- A live lease has its range among the leased ones, apart from the others. -/
theorem Live.leased_perm : allocator.leased.Perm (lease.range ::
    leased { allocator with allocations := allocator.allocations.erase lease.generation }) :=
  (Table.values_perm_erase live.2).map _

/-- A live lease is apart from the others. -/
theorem Partitioned.pairwise_live (partitioned : allocator.Partitioned) :
    (lease.range :: leased { allocator with
      allocations := allocator.allocations.erase lease.generation }).Pairwise
        fun first second => first.overlaps second = false :=
  (live.leased_perm.pairwise_iff overlaps_symm).mp partitioned.disjoint

/-- Live leases of one generation are the same lease. -/
theorem Live.eq (liveOther : allocator.Live other) (same : lease.generation = other.generation) :
    lease = other := by
  have found := liveOther.2
  rw [← same, live.2, Option.some.injEq, PciBarAllocation.mk.injEq] at found
  obtain ⟨space, range⟩ := found
  have provenance := live.1.trans liveOther.1.symm
  cases lease
  cases other
  simp_all

/-- A live lease has a generation which has been issued. -/
theorem Partitioned.generation_lt (partitioned : allocator.Partitioned) :
    lease.generation < allocator.nextGeneration := by
  by_contra newer
  have found := live.2
  rw [partitioned.issued _ (not_lt.mp newer)] at found
  cases found

/-- Two live leases do not overlap. -/
theorem Partitioned.live_apart (partitioned : allocator.Partitioned)
    (liveOther : allocator.Live other) (different : lease ≠ other) :
    lease.range.overlaps other.range = false := by
  refine (pairwise_cons.mp (partitioned.pairwise_live live)).1 other.range ?_
  have kept := Table.lookup_erase_eq_some.mpr
    ⟨fun same => different (live.eq liveOther same.symm), liveOther.2⟩
  exact mem_map.mpr ⟨_, Table.mem_values_of_lookup kept, rfl⟩

end

/-- The leased addresses are those of the live leases. -/
theorem holds_leased {address} : Holds allocator.leased address ↔
    ∃ lease, allocator.Live lease ∧ lease.range.contains address = true := by
  constructor
  · rintro ⟨range, isLeased, contained⟩
    obtain ⟨allocation, isValue, rfl⟩ := mem_map.mp isLeased
    obtain ⟨⟨generation, allocation⟩, stored, rfl⟩ := mem_map.mp isValue
    exact ⟨⟨allocator.provenance, generation, allocation.addressSpace, allocation.range⟩,
      ⟨rfl, AList.mem_lookup_iff.mpr stored⟩, contained⟩
  · rintro ⟨lease, live, contained⟩
    exact ⟨lease.range, mem_map_of_mem (Table.mem_values_of_lookup live.2), contained⟩

/-- A new allocator has everything free. -/
theorem Partitioned.new (provenance addressSpace capacity) :
    (new provenance addressSpace capacity).Partitioned where
  separated := List.pairwise_singleton _ _
  disjoint := .nil
  apart := by simp [leased, PciBarAllocator.new]
  covers := by simp [leased, PciBarAllocator.new]
  issued _ _ := rfl

/-- Every call keeps the partition. -/
theorem Partitioned.serves (partitioned : allocator.Partitioned)
    (serves : allocator.Serves call result after) : after.Partitioned := by
  cases serves with
  | refuse | validate => exact partitioned
  | @lease _ allocation nextFree leases within separated carved =>
    have fresh := partitioned.issued _ (Nat.le_refl allocator.nextGeneration)
    have isLeased : leased { allocator with
        free := nextFree
        allocations := allocator.allocations.insert allocator.nextGeneration
          ⟨allocator.addressSpace, allocation⟩
        nextGeneration := allocator.nextGeneration + 1 } = allocation :: allocator.leased := by
      rw [leased, Table.values_insert fresh]
      rfl
    refine ⟨separated, ?_, ?_, ?_, ?_⟩
    · rw [isLeased]
      refine pairwise_cons.mpr ⟨fun range isLeased => ?_, partitioned.disjoint⟩
      refine overlaps_eq_false_iff.mpr fun address taken contained => ?_
      exact partitioned.apart address (within address taken) ⟨range, isLeased, contained⟩
    · intro address free
      obtain ⟨wasFree, untaken⟩ := (carved address).mp free
      rw [isLeased, holds_cons, not_or]
      exact ⟨untaken, partitioned.apart address wasFree⟩
    · intro address
      rw [isLeased, holds_cons]
      refine (partitioned.covers address).trans ?_
      have := carved address
      tauto
    · intro generation above
      rw [AList.lookup_insert_ne (by dsimp only at above; omega)]
      exact partitioned.issued generation (by dsimp only at above; omega)
  | @release _ lease free live separated merged =>
    have shares := live.leased_perm
    obtain ⟨others, disjoint⟩ := pairwise_cons.mp (partitioned.pairwise_live live)
    refine ⟨separated, disjoint, ?_, ?_, ?_⟩
    · rintro address free ⟨range, isLeased, contained⟩
      rcases (merged address).mp free with wasFree | released
      · refine partitioned.apart address wasFree ((holds_of_perm shares).mpr ?_)
        exact ⟨range, mem_cons_of_mem _ isLeased, contained⟩
      · exact overlaps_eq_false_iff.mp (others range isLeased) address released contained
    · intro address
      refine (partitioned.covers address).trans ?_
      rw [holds_of_perm shares, holds_cons, merged]
      exact or_assoc.symm
    · intro generation above
      by_cases same : generation = lease.generation
      · rw [same]
        exact AList.lookup_erase _ _
      · rw [AList.lookup_erase_ne same]
        exact partitioned.issued generation above

section
variable {selected allocation : GuestMemoryRange} {nextFree reserves} {size : Nat}

theorem holds_of_around (isFree : selected ∈ allocator.free)
    (below : selected.start ≤ allocation.start)
    (above : allocation.endExclusive ≤ selected.endExclusive) :
    ∀ address, allocation.contains address = true → Holds allocator.free address := by
  intro address contained
  rw [contains_iff] at contained
  exact holds_iff.mpr ⟨selected, isFree, by omega, by omega⟩

section
variable (partitioned : allocator.Partitioned)
include partitioned

/-- A plan takes the allocation out of the free ranges. -/
theorem planReservation_eq_ok (isFree : selected ∈ allocator.free)
    (below : selected.start ≤ allocation.start)
    (above : allocation.endExclusive ≤ selected.endExclusive) :
    allocator.planReservation reserves selected allocation = .ok nextFree →
      allocator.nextGeneration + 1 < wordLimit ∧ Separated nextFree ∧
        ∀ address, Holds nextFree address ↔
          Holds allocator.free address ∧ ¬ allocation.contains address = true := by
  intro planned
  obtain ⟨pieces, made, separated, holds⟩ :=
    mapM_carve_selected below above partitioned.separated isFree
  simp only [planReservation, bind_eq_ok, okOr_eq_ok, checkedAdd_eq_some, made, pure_eq_ok,
    Except.ok.injEq, exists_eq_left', sortByStart_of_separated separated] at planned
  obtain ⟨_, ⟨room, _⟩, _, _, rfl⟩ := planned
  exact ⟨room, separated, holds⟩

/-- With a generation left and memory for the list, a reservation goes through. -/
theorem planReservation_isOk (isFree : selected ∈ allocator.free)
    (below : selected.start ≤ allocation.start)
    (above : allocation.endExclusive ≤ selected.endExclusive)
    (room : allocator.nextGeneration + 1 < wordLimit) :
    ∃ nextFree, allocator.planReservation true selected allocation = .ok nextFree := by
  obtain ⟨pieces, made, _⟩ := mapM_carve_selected below above partitioned.separated isFree
  have counted := checkedAdd_eq_some.mpr ⟨room, rfl⟩
  exact ⟨_, by simp [planReservation, counted, okOr, rejectIf, made, pure, Except.pure]; rfl⟩

omit partitioned in
theorem commitReservation_outcome (room : allocator.nextGeneration + 1 < wordLimit) :
    (commitReservation allocation nextFree).outcome allocator =
      (.ok ⟨allocator.provenance, allocator.nextGeneration, allocator.addressSpace, allocation⟩,
        { allocator with
          free := nextFree
          allocations := allocator.allocations.insert allocator.nextGeneration
            ⟨allocator.addressSpace, allocation⟩
          nextGeneration := allocator.nextGeneration + 1 }) := by
  have counted := checkedAdd_eq_some.mpr ⟨room, rfl⟩
  simp only [commitReservation, outcome_bind, outcome_get, outcome_check,
    counted, okOr, outcome_modify, outcome_pure]

/-- A reservation inside a free range is made, or nothing changes. -/
theorem reserve_ensures (isFree : selected ∈ allocator.free)
    (below : selected.start ≤ allocation.start)
    (above : allocation.endExclusive ≤ selected.endExclusive) (call)
    (leases : ∀ reserves lease, call ≠ .release reserves lease) :
    Action.Ensures (do
        let nextFree ← .check (allocator.planReservation reserves selected allocation)
        commitReservation allocation nextFree) allocator
      (fun lease after => allocator.Serves call (.leased (.ok lease)) after ∧
        lease.range = allocation)
      (fun _ after => after = allocator ∧
        (reserves = false ∨ wordLimit ≤ allocator.nextGeneration + 1)) := by
  rw [ensures_bind, ensures_check]
  constructor
  · intro error failed
    refine ⟨rfl, ?_⟩
    by_contra possible
    rw [not_or, Bool.not_eq_false, not_le] at possible
    obtain ⟨rfl, room⟩ := possible
    obtain ⟨nextFree, planned⟩ := planReservation_isOk partitioned isFree below above room
    rw [planned] at failed
    cases failed
  · intro nextFree planned
    obtain ⟨room, separated, holds⟩ := planReservation_eq_ok partitioned isFree below above planned
    unfold Action.Ensures
    rw [commitReservation_outcome room]
    exact ⟨.lease leases (holds_of_around isFree below above) separated holds, rfl⟩

/-- The sizes which the allocator accepts. -/
def ValidBarSize (size : Nat) : Prop := pciBarMinimumSize ≤ size ∧ isPowerOfTwo size = true

/-- An aligned block of free addresses. -/
def Available (allocator : PciBarAllocator) (size start : Nat) : Prop :=
  size ∣ start ∧ HoldsBlock allocator.free start size

omit partitioned in
theorem ValidBarSize.positive (valid : ValidBarSize size) : 0 < size := by
  have := valid.1
  unfold pciBarMinimumSize at this
  omega

/-- A start is available when a free range has room there. -/
theorem available_iff (positive : 0 < size) {start} :
    allocator.Available size start ↔ size ∣ start ∧
      ∃ range ∈ allocator.free, range.start ≤ start ∧ start + size ≤ range.endExclusive := by
  refine and_congr_right fun _ => ⟨partitioned.separated.exists_around positive, ?_⟩
  rintro ⟨range, isFree, below, above⟩
  exact holdsBlock_of_around isFree below above

/-- An allocation takes the least available start. -/
theorem allocate_ensures :
    (allocate reserves size).Ensures allocator
      (fun lease after =>
        allocator.Serves (.allocate reserves size) (.leased (.ok lease)) after ∧
          lease.range.size = size ∧ IsLeast { start | allocator.Available size start }
            lease.range.start)
      (fun _ after => after = allocator ∧
        (¬ ValidBarSize size ∨ (∀ start, ¬ allocator.Available size start) ∨
          reserves = false ∨ wordLimit ≤ allocator.nextGeneration + 1)) := by
  simp only [allocate, ensures_bind, ensures_rejectIf, ensures_get]
  constructor
  · intro invalid
    refine ⟨trivial, .inl fun valid => ?_⟩
    rcases invalid with small | odd
    · exact absurd valid.1 (by omega)
    · exact odd valid.2
  intro accepted
  have valid : ValidBarSize size := by
    rw [not_or, not_lt, not_not] at accepted
    exact accepted
  rw [ensures_check]
  constructor
  · intro error failed
    refine ⟨rfl, .inr (.inl fun start available => ?_)⟩
    obtain ⟨divides, range, isFree, below, above⟩ :=
      (available_iff partitioned valid.positive).mp available
    exact selectFree_eq_error valid.positive partitioned.separated.ordered failed range isFree start
      divides below above
  · rintro ⟨selected, allocation⟩ found
    obtain ⟨isFree, rfl, divides, below, above, least⟩ :=
      selectFree_eq_ok partitioned.separated.ordered found
    refine ensures_bind.mp ((reserve_ensures partitioned isFree below above
      (.allocate reserves allocation.size) fun _ _ => by rintro ⟨⟩).mono ?_ ?_)
    · rintro lease after ⟨serves, rfl⟩
      refine ⟨serves, rfl, ?_, ?_⟩
      · exact (available_iff partitioned valid.positive).mpr ⟨divides, selected, isFree, below, above⟩
      · intro start available
        obtain ⟨divisible, range, isRange, starts, ends⟩ :=
          (available_iff partitioned valid.positive).mp available
        exact least range isRange start divisible starts ends
    · rintro error after ⟨same, reason⟩
      exact ⟨same, .inr (.inr reason)⟩

/-- The ranges which may be reserved. -/
def Reservable (allocator : PciBarAllocator) (range : GuestMemoryRange) : Prop :=
  ValidBarSize range.size ∧ allocator.Available range.size range.start

omit partitioned in
/-- A range which may be reserved lies in a free range. -/
theorem validateExactRange_eq_ok
    (found : allocator.validateExactRange allocation = .ok selected) :
    selected ∈ allocator.free ∧ selected.start ≤ allocation.start ∧
      allocation.endExclusive ≤ selected.endExclusive ∧ allocator.Reservable allocation := by
  simp only [validateExactRange, bind_eq_ok, rejectIf_eq_ok, mapError_eq_ok, okOr_eq_ok,
    validateAlignment_eq_ok, not_or, not_lt, not_not] at found
  obtain ⟨_, valid, _, ⟨_, _, divides, _⟩, _, _, found⟩ := found
  have around := find?_some found
  simp only [Bool.and_eq_true, decide_eq_true_eq] at around
  have isFree := mem_of_find?_eq_some found
  exact ⟨isFree, around.1, around.2, valid, divides, holdsBlock_of_around isFree around.1 around.2⟩

theorem validateExactRange_eq_error {error}
    (failed : allocator.validateExactRange allocation = .error error) :
    ¬ allocator.Reservable allocation := by
  rintro ⟨valid, available⟩
  obtain ⟨divides, range, isFree, below, above⟩ :=
    (available_iff partitioned allocation.positive).mp available
  have aligned : allocation.validateAlignment allocation.size = .ok () :=
    validateAlignment_eq_ok.mpr
      ⟨allocation.positive, valid.2, divides, dvd_refl _⟩
  -- The addresses of a free range are addresses of the capacity.
  have inside : ∀ address, range.contains address = true →
      allocator.capacity.start ≤ address ∧ address < allocator.capacity.endExclusive := by
    intro address contained
    exact contains_iff.mp
      ((partitioned.covers address).mpr (.inl ⟨range, isFree, contained⟩))
  have nonempty := range.start_lt_endExclusive
  have first := inside range.start (contains_iff.mpr (by omega))
  have last := inside (range.endExclusive - 1) (contains_iff.mpr (by omega))
  have ends : allocation.endExclusive ≤ range.endExclusive := above
  have found : (allocator.free.find? fun range =>
      range.start ≤ allocation.start && allocation.endExclusive ≤ range.endExclusive) ≠ none := by
    intro missing
    have rejected := find?_eq_none.mp missing range isFree
    simp only [Bool.and_eq_true, decide_eq_true_eq] at rejected
    exact rejected ⟨below, ends⟩
  simp only [validateExactRange, bind_eq_error, rejectIf_eq_error, aligned, Except.mapError,
    reduceCtorEq, okOr_eq_error, found, false_and, and_false, exists_false, or_false,
    false_or] at failed
  rcases failed with ⟨invalid, _⟩ | ⟨_, _, _, _, outside, _⟩
  · rcases invalid with small | odd
    · exact absurd valid.1 (by omega)
    · exact odd valid.2
  · omega

/-- A reservation takes exactly its range. -/
theorem reserveExact_ensures :
    (reserveExact reserves allocation).Ensures allocator
      (fun lease after =>
        allocator.Serves (.reserveExact reserves allocation) (.leased (.ok lease)) after ∧
          lease.range = allocation ∧ allocator.Reservable allocation)
      (fun _ after => after = allocator ∧ (¬ allocator.Reservable allocation ∨
        reserves = false ∨ wordLimit ≤ allocator.nextGeneration + 1)) := by
  rw [reserveExact, ensures_bind, ensures_get, ensures_bind,
    ensures_check]
  constructor
  · intro error failed
    exact ⟨rfl, .inl (validateExactRange_eq_error partitioned failed)⟩
  · intro selected found
    obtain ⟨isFree, below, above, reservable⟩ := validateExactRange_eq_ok found
    refine (reserve_ensures partitioned isFree below above (.reserveExact reserves allocation)
      fun _ _ => nofun).mono ?_ ?_
    · rintro lease after ⟨serves, isRange⟩
      exact ⟨serves, isRange, reservable⟩
    · rintro error after ⟨same, reason⟩
      exact ⟨same, .inr reason⟩

end

variable (partitioned : allocator.Partitioned)
include partitioned

/-- A release gives back a live lease. -/
theorem release_ensures {lease} :
    (release reserves lease).Ensures allocator
      (fun _ after => allocator.Serves (.release reserves lease) (.released (.ok ())) after ∧
        allocator.Live lease)
      (fun error after => after = allocator ∧
        (¬ allocator.Live lease ∧ error ≠ .allocatorStateMismatch ∨
          reserves = false ∧ error = .allocatorStateMismatch)) := by
  simp only [release, ensures_bind, ensures_get, ensures_rejectIf,
    ensures_okOr]
  refine ⟨fun foreign => ⟨trivial, .inl ⟨fun live => foreign live.1.symm, by simp⟩⟩, fun own => ?_⟩
  refine ⟨fun stale => ⟨trivial, .inl ⟨fun live => ?_, by simp⟩⟩, fun allocation found => ?_⟩
  · rw [live.2] at stale
    cases stale
  refine ⟨fun different => ⟨trivial, .inl ⟨fun live => ?_, by simp⟩⟩, fun same => ?_⟩
  · rw [live.2, Option.some.injEq] at found
    subst found
    simp at different
  rw [not_or, not_not, not_not] at same
  obtain ⟨space, range⟩ := allocation
  obtain ⟨rfl, rfl⟩ : space = lease.addressSpace ∧ range = lease.range := same
  have live : allocator.Live lease := ⟨(not_not.mp own).symm, found⟩
  have disjoint : (allocator.free ++ [lease.range]).Pairwise
      fun first second => first.overlaps second = false := by
    refine pairwise_append.mpr ⟨partitioned.separated.disjoint, pairwise_singleton _ _, ?_⟩
    intro range isFree other isOther
    rw [mem_singleton] at isOther
    subst isOther
    refine overlaps_eq_false_iff.mpr fun address inFree inLeased => ?_
    exact partitioned.apart address ⟨range, isFree, inFree⟩
      ⟨_, mem_map_of_mem (Table.mem_values_of_lookup found), inLeased⟩
  obtain ⟨coalesced, merged, separated, holds⟩ :=
    coalesceRanges_eq_some (ordered_sortByStart disjoint)
  cases reserves with
  | false => exact ⟨fun _ => ⟨trivial, .inr ⟨rfl, trivial⟩⟩, fun _ impossible => by cases impossible⟩
  | true =>
    refine ⟨fun refused => ?_, fun free isFree => ?_⟩
    · rw [merged] at refused
      cases refused
    rw [merged, Option.some.injEq] at isFree
    subst isFree
    refine ⟨.release live separated fun address => ?_, live⟩
    rw [holds, holds_of_perm (sortByStart_perm _), holds_append, holds_cons]
    simp

/-- Every call does what it may do. -/
theorem serve_serves (call) :
    allocator.Serves call (allocator.serve call).1 (allocator.serve call).2 := by
  cases call with
  | allocate reserves size =>
    change allocator.Serves _ (.leased ((allocate reserves size).outcome allocator).1)
      ((allocate reserves size).outcome allocator).2
    rcases (allocate_ensures partitioned).cases with
      ⟨lease, isOk, serves, _⟩ | ⟨error, isError, same, _⟩
    · rw [isOk]
      exact serves
    · rw [isError, same]
      exact .refuse rfl
  | validateExactReservation reserves range =>
    change allocator.Serves _ (.validated (allocator.validateExactReservation reserves range))
      allocator
    cases allocator.validateExactReservation reserves range with
    | error error => exact .refuse rfl
    | ok done => exact .validate
  | reserveExact reserves range =>
    change allocator.Serves _ (.leased ((reserveExact reserves range).outcome allocator).1)
      ((reserveExact reserves range).outcome allocator).2
    rcases (reserveExact_ensures partitioned).cases with
      ⟨lease, isOk, serves, _⟩ | ⟨error, isError, same, _⟩
    · rw [isOk]
      exact serves
    · rw [isError, same]
      exact .refuse rfl
  | release reserves lease =>
    change allocator.Serves _ (.released ((release reserves lease).outcome allocator).1)
      ((release reserves lease).outcome allocator).2
    rcases (release_ensures partitioned).cases with
      ⟨done, isOk, serves, _⟩ | ⟨error, isError, same, _⟩
    · rw [isOk]
      exact serves
    · rw [isError, same]
      exact .refuse rfl

end

/-- What an allocator promises for its outstanding leases. -/
structure Contract (allocator : PciBarAllocator) (Outstanding : PciBarLease → Prop) : Prop where
  disjoint : ∀ first second, Outstanding first → Outstanding second → first ≠ second →
    first.range.overlaps second.range = false
  apart : ∀ range ∈ allocator.free, ∀ lease, Outstanding lease →
    range.overlaps lease.range = false
  covers : ∀ address, allocator.capacity.contains address = true ↔
    Holds allocator.free address ∨ ∃ lease, Outstanding lease ∧ lease.range.contains address = true
  separated : Separated allocator.free
  /-- With memory for the list and a generation left, the lowest block is leased, and a
  request fails when there is none. -/
  allocates : ∀ size, ValidBarSize size → allocator.nextGeneration + 1 < wordLimit →
    match (allocate true size).outcome allocator with
    | (.ok lease, after) => lease.range.size = size ∧
        IsLeast { start | allocator.Available size start } lease.range.start ∧ after.Live lease
    | (.error _, _) => ∀ start, ¬ allocator.Available size start
  reserves : ∀ range, allocator.nextGeneration + 1 < wordLimit →
    ((∃ lease after, (reserveExact true range).outcome allocator = (.ok lease, after) ∧
      lease.range = range ∧ after.Live lease) ↔ allocator.Reservable range)
  /-- With memory for the list, an outstanding lease can be released. -/
  releases : ∀ lease, Outstanding lease → ((release true lease).outcome allocator).1 = .ok ()
  unchanged : ∀ call, (allocator.serve call).1.failed = true → (allocator.serve call).2 = allocator
  /-- A release fails with a state mismatch only without memory for the list. -/
  consistent : ∀ reserves lease,
    ((release reserves lease).outcome allocator).1 = .error .allocatorStateMismatch →
      reserves = false

/-- A lease which a call hands out is live. -/
theorem Serves.live {lease} (serves : allocator.Serves call (.leased (.ok lease)) after) :
    after.Live lease := by
  cases serves with
  | refuse failed => cases failed
  | lease => exact ⟨rfl, AList.lookup_insert _⟩

/-- A partitioned allocator keeps the contract. -/
theorem Partitioned.contract (partitioned : allocator.Partitioned) {Outstanding}
    (outstanding : ∀ lease, Outstanding lease ↔ allocator.Live lease) :
    allocator.Contract Outstanding := by
  constructor
  case disjoint =>
    intro first second isFirst isSecond
    exact partitioned.live_apart ((outstanding first).mp isFirst) ((outstanding second).mp isSecond)
  case apart =>
    intro range isFree lease isLease
    refine overlaps_eq_false_iff.mpr fun address inFree inLeased => ?_
    exact partitioned.apart address ⟨range, isFree, inFree⟩
      (holds_leased.mpr ⟨lease, (outstanding lease).mp isLease, inLeased⟩)
  case covers =>
    intro address
    simp only [partitioned.covers address, holds_leased, outstanding]
  case separated => exact partitioned.separated
  case allocates =>
    intro size valid room
    rcases (allocate_ensures partitioned).cases with
      ⟨lease, isOk, serves, sized, least⟩ | ⟨error, isError, _, reason⟩
    · rw [← Prod.mk.eta (p := (allocate true size).outcome allocator), isOk]
      exact ⟨sized, least, serves.live⟩
    · rw [← Prod.mk.eta (p := (allocate true size).outcome allocator), isError]
      rcases reason with invalid | full | impossible | exhausted
      · exact absurd valid invalid
      · exact full
      · cases impossible
      · omega
  case reserves =>
    intro range room
    rcases (reserveExact_ensures partitioned).cases with
      ⟨lease, isOk, serves, isRange, reservable⟩ | ⟨error, isError, _, reason⟩
    · exact ⟨fun _ => reservable, fun _ => ⟨lease, _, Prod.ext isOk rfl, isRange, serves.live⟩⟩
    · constructor
      · rintro ⟨lease, after, isOk, -⟩
        rw [isOk] at isError
        cases isError
      · intro reservable
        rcases reason with refused | impossible | exhausted
        · exact absurd reservable refused
        · cases impossible
        · omega
  case releases =>
    intro lease isLease
    rcases (release_ensures partitioned).cases with
      ⟨done, isOk, _⟩ | ⟨error, _, _, ⟨stale, _⟩ | ⟨impossible, _⟩⟩
    · exact isOk
    · exact absurd ((outstanding lease).mp isLease) stale
    · cases impossible
  case unchanged =>
    intro call failed
    exact (serve_serves partitioned call).unchanged failed
  case consistent =>
    intro reserves lease mismatch
    rcases (release_ensures partitioned).cases with
      ⟨done, isOk, _⟩ | ⟨error, isError, _, ⟨_, other⟩ | ⟨unreserved, _⟩⟩
    · rw [isOk] at mismatch
      cases mismatch
    · rw [isError] at mismatch
      cases mismatch
      exact absurd rfl other
    · exact unreserved

end PciBarAllocator

/-- The lease which a call released. -/
def releasedBy : PciBarCall × PciBarResult → Option PciBarLease
  | (.release _ lease, .released (.ok _)) => some lease
  | _ => none

/-- The lease which a call handed out. -/
def leasedBy : PciBarCall × PciBarResult → Option PciBarLease
  | (_, .leased (.ok lease)) => some lease
  | _ => none

/-- A lease was handed out and has not been released. -/
def Outstanding (history : List (PciBarCall × PciBarResult)) (lease : PciBarLease) : Prop :=
  lease ∈ history.filterMap leasedBy ∧ lease ∉ history.filterMap releasedBy

namespace PciBarSession

open PciBarAllocator

variable {session : PciBarSession}

/-- What holds after every run of an allocator. -/
structure Sound (session : PciBarSession) : Prop where
  partitioned : session.allocator.Partitioned
  settled : ∀ lease ∈ session.history.filterMap releasedBy,
    lease.generation < session.allocator.nextGeneration ∧
      session.allocator.allocations.lookup lease.generation = none
  once : (session.history.filterMap releasedBy).Nodup
  outstanding : ∀ lease, Outstanding session.history lease ↔ session.allocator.Live lease

variable {result : PciBarResult}

theorem releasedBy_failed {call} (failed : result.failed = true) :
    releasedBy (call, result) = none := by
  unfold releasedBy
  split
  · rename_i same
    cases same
    cases failed
  · rfl

theorem leasedBy_failed {call} (failed : result.failed = true) :
    leasedBy (call, result) = none := by
  unfold leasedBy
  split
  · rename_i same
    cases same
    cases failed
  · rfl

section
variable (sound : Sound session)
include sound

/-- Every call keeps the record of the leases. -/
theorem Sound.serves {call after} (serves : session.allocator.Serves call result after) :
    Sound ⟨after, (call, result) :: session.history⟩ := by
  have partitioned := sound.partitioned.serves serves
  cases serves with
  | refuse failed =>
    refine ⟨partitioned, ?_, ?_, ?_⟩
    · simpa [filterMap_cons, releasedBy_failed failed] using sound.settled
    · simpa [filterMap_cons, releasedBy_failed failed] using sound.once
    · simpa [Outstanding, filterMap_cons, releasedBy_failed failed, leasedBy_failed failed] using
        sound.outstanding
  | validate => exact ⟨partitioned, sound.settled, sound.once, sound.outstanding⟩
  | lease leases within separated carved =>
    refine ⟨partitioned, fun lease released => ?_, ?_, fun lease => ?_⟩
    · simp only [filterMap_cons, releasedBy] at released
      obtain ⟨older, absent⟩ := sound.settled lease released
      refine ⟨Nat.lt_succ_of_lt older, ?_⟩
      rw [AList.lookup_insert_ne (Nat.ne_of_lt older)]
      exact absent
    · simpa only [filterMap_cons, releasedBy] using sound.once
    · simp only [Outstanding, filterMap_cons, leasedBy, releasedBy, mem_cons, Live,
        Table.lookup_insert_eq_some]
      constructor
      · rintro ⟨rfl | older, unreleased⟩
        · exact ⟨rfl, .inl ⟨rfl, rfl⟩⟩
        · have live := (sound.outstanding lease).mp ⟨older, unreleased⟩
          exact ⟨live.1, .inr ⟨Nat.ne_of_lt (sound.partitioned.generation_lt live), live.2⟩⟩
      · rintro ⟨own, ⟨sameGeneration, sameAllocation⟩ | ⟨_, live⟩⟩
        · -- The new lease has a generation which no released lease has.
          refine ⟨.inl ?_, fun released => ?_⟩
          · obtain ⟨space, range⟩ := PciBarAllocation.mk.inj sameAllocation
            cases lease
            simp_all
          · exact Nat.lt_irrefl _ (sameGeneration ▸ (sound.settled lease released).1)
        · obtain ⟨older, unreleased⟩ := (sound.outstanding lease).mpr ⟨own, live⟩
          exact ⟨.inr older, unreleased⟩
  | @release reserves lease free live separated merged =>
    -- A live generation was issued and is not among the released ones.
    have older := sound.partitioned.generation_lt live
    refine ⟨partitioned, ?_, ?_, fun other => ?_⟩
    · refine forall_mem_cons.mpr ⟨⟨older, AList.lookup_erase _ _⟩, fun other released => ?_⟩
      obtain ⟨olderOther, absent⟩ := sound.settled other released
      refine ⟨olderOther, ?_⟩
      by_cases same : other.generation = lease.generation
      · rw [same]
        exact AList.lookup_erase _ _
      · rw [AList.lookup_erase_ne same]
        exact absent
    · refine nodup_cons.mpr ⟨fun again => ?_, sound.once⟩
      have found := live.2
      rw [(sound.settled lease again).2] at found
      cases found
    · simp only [Outstanding, filterMap_cons, leasedBy, releasedBy, mem_cons, not_or, Live,
        Table.lookup_erase_eq_some]
      constructor
      · rintro ⟨handed, different, unreleased⟩
        have liveOther := (sound.outstanding other).mp ⟨handed, unreleased⟩
        exact ⟨liveOther.1, fun same => different (liveOther.eq live same), liveOther.2⟩
      · rintro ⟨own, different, found⟩
        obtain ⟨handed, unreleased⟩ := (sound.outstanding other).mpr ⟨own, found⟩
        exact ⟨handed, fun same => different (congrArg _ same), unreleased⟩

theorem Sound.call (call) : Sound (session.call call) :=
  sound.serves (serve_serves sound.partitioned call)

/-- Every session keeps its books. -/
theorem Sound.run (calls) : Sound (session.run calls) := by
  induction calls generalizing session with
  | nil => exact sound
  | cons call calls ih => exact ih (sound.call call)

/-- No session changes the capacity. -/
theorem Sound.capacity_run (calls) :
    (session.run calls).allocator.capacity = session.allocator.capacity := by
  induction calls generalizing session with
  | nil => rfl
  | cons call calls ih =>
    exact (ih (sound.call call)).trans (serve_serves sound.partitioned call).capacity

end

theorem Sound.start (provenance addressSpace capacity) :
    Sound (.start (.new provenance addressSpace capacity)) :=
  ⟨.new provenance addressSpace capacity, nofun, .nil, fun _ => ⟨nofun, nofun⟩⟩

end PciBarSession

/-- Under any calls an allocator keeps its contract for the leases which it handed out and did not
take back, and it takes each of them back at most once. -/
theorem barAllocator_contract (provenance : Nat) (addressSpace : PciBarAddressSpace)
    (capacity : GuestMemoryRange) (calls : List PciBarCall) :
    let session := (PciBarSession.start (.new provenance addressSpace capacity)).run calls
    session.allocator.Contract (Outstanding session.history) ∧
      (∀ lease, Outstanding session.history lease ↔ session.allocator.Live lease) ∧
      (session.history.filterMap releasedBy).Nodup := by
  intro session
  have sound := (PciBarSession.Sound.start provenance addressSpace capacity).run calls
  exact ⟨sound.partitioned.contract sound.outstanding, sound.outstanding, sound.once⟩

/-- Without memory for the list, a live lease is refused with a state mismatch. -/
theorem release_unreserved :
    ∃ provenance addressSpace capacity calls lease,
      ((PciBarAllocator.release false lease).outcome
        ((PciBarSession.start (.new provenance addressSpace capacity)).run calls).allocator).1 =
          .error .allocatorStateMismatch := by
  refine ⟨0, .memory32, ⟨0x40000000, 0x1000, by decide, by decide⟩, [.allocate true 16],
    ⟨0, 0, .memory32, ⟨0x40000000, 16, by decide, by decide⟩⟩, ?_⟩
  decide +kernel

/-- An address of an outstanding lease. -/
def LeasedAt (history : List (PciBarCall × PciBarResult)) (address : Nat) : Prop :=
  ∃ lease, Outstanding history lease ∧ lease.range.contains address = true

/-- The leased addresses are those of the outstanding leases. -/
theorem PciBarSession.Sound.holds_leased {session : PciBarSession} (sound : session.Sound)
    (address) : Holds session.allocator.leased address ↔ LeasedAt session.history address := by
  simp only [PciBarAllocator.holds_leased, LeasedAt, sound.outstanding]

/-- The free ranges of one capacity are given by what is leased of it. -/
theorem PciBarSession.Sound.free_eq_iff {first second : PciBarSession} (sound : first.Sound)
    (soundSecond : second.Sound)
    (capacities : first.allocator.capacity = second.allocator.capacity) :
    first.allocator.free = second.allocator.free ↔
      ∀ address, LeasedAt first.history address ↔ LeasedAt second.history address := by
  simp only [← sound.holds_leased, ← soundSecond.holds_leased]
  have complement := sound.partitioned.complement
  have complementSecond := soundSecond.partitioned.complement
  constructor
  · intro same address
    rw [(complement address).2, (complementSecond address).2, same, capacities]
  · intro same
    refine sound.partitioned.separated.eq_of_holds soundSecond.partitioned.separated
      fun address => ?_
    rw [(complement address).1, (complementSecond address).1, same, capacities]

/-- The free list does not depend on the history of an allocator, only on the addresses of the
outstanding leases: whatever was allocated and released in between, nothing stays fragmented, and
when every lease was released the whole capacity is one free range again. -/
theorem free_list_history_independent (capacity : GuestMemoryRange) (provenance other : Nat)
    (addressSpace otherSpace : PciBarAddressSpace) (calls others : List PciBarCall) :
    let first := (PciBarSession.start (.new provenance addressSpace capacity)).run calls
    let second := (PciBarSession.start (.new other otherSpace capacity)).run others
    (first.allocator.free = second.allocator.free ↔
      ∀ address, LeasedAt first.history address ↔ LeasedAt second.history address) ∧
    ((∀ lease, ¬ Outstanding first.history lease) → first.allocator.free = [capacity]) := by
  intro first second
  have start := PciBarSession.Sound.start provenance addressSpace capacity
  have startSecond := PciBarSession.Sound.start other otherSpace capacity
  constructor
  · exact (start.run calls).free_eq_iff (startSecond.run others)
      ((start.capacity_run calls).trans (startSecond.capacity_run others).symm)
  · intro released
    refine ((start.run calls).free_eq_iff start (start.capacity_run calls)).mpr fun address => ?_
    exact ⟨fun ⟨lease, outstanding, _⟩ => absurd outstanding (released lease),
      fun ⟨_, outstanding, _⟩ => nomatch outstanding.1⟩

end Bangbang.Pci
