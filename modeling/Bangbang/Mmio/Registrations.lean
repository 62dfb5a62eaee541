import Bangbang.Mmio.Bus
import Mathlib.Logic.Relation

/-!
# Registrations of a dispatcher

`Serves` says once what a call may do to a dispatcher whose bus is sorted. A failed call
changes nothing, and the regions on the bus stay sorted and apart under every call.
-/

namespace Bangbang.Mmio

open Memory Bangbang.Action

variable {H : Type}

/-- A call which may change the dispatcher. -/
inductive MmioCall (H : Type) where
  | insertRegion (id : MmioRegionId) (start size : Nat)
  | registerHandler (regionId : MmioRegionId) (handler : H)
  | registerOwnedHandler (reserves : RegionReservations) (owner : Nat) (regionId : MmioRegionId)
      (requests : List MmioRegionRequest) (handler : H)
  | unpublishOwnedHandler (owner : Nat) (lease : MmioRegistrationLease)
  | republishOwnedHandler (owner : Nat) (lease : MmioRegistrationLease)
  | releaseUnpublishedHandler (owner : Nat) (lease : MmioRegistrationLease)
  | releaseOwnedHandler (owner : Nat) (lease : MmioRegistrationLease)

/-- What a call returns. -/
inductive MmioReply where
  | region (result : Except MmioBusError MmioRegion)
  | handler (result : Except MmioDispatchError Unit)
  | lease (result : Except MmioRegistrationError MmioRegistrationLease)
  | release (result : Except MmioRegistrationReleaseError Unit)

/-- The call was refused. -/
def MmioReply.failed : MmioReply → Bool
  | .region (.error _) | .handler (.error _) | .lease (.error _) | .release (.error _) => true
  | .region (.ok _) | .handler (.ok _) | .lease (.ok _) | .release (.ok _) => false

/-- One call on a dispatcher. -/
def MmioDispatcher.serve (dispatcher : MmioDispatcher H) :
    MmioCall H → MmioReply × MmioDispatcher H
  | .insertRegion regionId start size =>
    ((insertRegion regionId start size).outcome dispatcher).map .region id
  | .registerHandler regionId handler =>
    ((registerHandler regionId handler).outcome dispatcher).map .handler id
  | .registerOwnedHandler reserves owner regionId requests handler =>
    ((registerOwnedHandler reserves owner regionId requests handler).outcome dispatcher).map
      .lease id
  | .unpublishOwnedHandler owner lease =>
    ((unpublishOwnedHandler owner lease).outcome dispatcher).map .release id
  | .republishOwnedHandler owner lease =>
    ((republishOwnedHandler owner lease).outcome dispatcher).map .release id
  | .releaseUnpublishedHandler owner lease =>
    ((releaseUnpublishedHandler owner lease).outcome dispatcher).map .release id
  | .releaseOwnedHandler owner lease =>
    ((releaseOwnedHandler owner lease).outcome dispatcher).map .release id

namespace MmioDispatcher

/-- The record which a lease of an owner is for. -/
structure Owned (dispatcher : MmioDispatcher H) (owner : Nat) (lease : MmioRegistrationLease)
    (record : MmioRegistrationRecord H) : Prop where
  dispatcher_eq : dispatcher.provenance = lease.dispatcher
  owner_eq : owner = lease.owner
  found : dispatcher.registrations.lookup lease.generation = some record
  record_owner : record.owner = owner
  regionId_eq : record.regionId = lease.regionId
  regions_eq : record.regions = lease.regions

/-- No registration has the identifier. -/
def Unleased (dispatcher : MmioDispatcher H) (regionId : MmioRegionId) : Prop :=
  ∀ generation record, dispatcher.registrations.lookup generation = some record →
    record.regionId ≠ regionId

/-- The published regions with the identifier of a record are its regions. -/
def Shows (dispatcher : MmioDispatcher H) (record : MmioRegistrationRecord H) : Prop :=
  ∀ region, region ∈ dispatcher.bus.regions ∧ region.id = record.regionId ↔ region ∈ record.regions

/-- No published handler or region has the identifier. -/
structure Unpublished (dispatcher : MmioDispatcher H) (regionId : MmioRegionId) : Prop where
  handler : dispatcher.handlers.lookup regionId = none
  region : ∀ region ∈ dispatcher.bus.regions, region.id ≠ regionId

/-- What a call may do. -/
inductive Serves (dispatcher : MmioDispatcher H) :
    MmioCall H → MmioReply → MmioDispatcher H → Prop where
  | refuse {call reply} (failed : reply.failed = true) : Serves dispatcher call reply dispatcher
  | insertRegion {id start size bus region} (unleased : dispatcher.Unleased id)
      (isId : region.id = id) (starts : region.range.start = start)
      (sized : region.range.size = size) (sorted : bus.Sorted)
      (members : ∀ other, other ∈ bus.regions ↔ other = region ∨ other ∈ dispatcher.bus.regions) :
      Serves dispatcher (.insertRegion id start size) (.region (.ok region)) { dispatcher with bus }
  | registerHandler {regionId handler} (unleased : dispatcher.Unleased regionId)
      (absent : dispatcher.handlers.lookup regionId = none) :
      Serves dispatcher (.registerHandler regionId handler) (.handler (.ok ())) { dispatcher with
        handlers := dispatcher.handlers.insert regionId handler }
  | registerOwnedHandler {reserves owner regionId requests handler bus regions lease}
      (unpublished : dispatcher.Unpublished regionId) (sorted : bus.Sorted)
      (ordered : Ordered (regions.map MmioRegion.range))
      (valid : ∀ region ∈ regions, region.id = regionId ∧
        ∃ request ∈ requests, region.range.start = request.start ∧ region.range.size = request.size)
      (complete : ∀ request ∈ requests, ∃ region ∈ regions, region.id = regionId ∧
        region.range.start = request.start ∧ region.range.size = request.size)
      (apart : ∀ region ∈ regions, ∀ other ∈ dispatcher.bus.regions,
        other.range.overlaps region.range = false)
      (members : ∀ other, other ∈ bus.regions ↔ other ∈ regions ∨ other ∈ dispatcher.bus.regions) :
      Serves dispatcher (.registerOwnedHandler reserves owner regionId requests handler)
        (.lease (.ok lease))
        { dispatcher with
          bus
          handlers := dispatcher.handlers.insert regionId handler
          registrations := dispatcher.registrations.insert dispatcher.nextRegistrationGeneration
            { owner, regionId, regions, suspendedHandler := none }
          nextRegistrationGeneration := dispatcher.nextRegistrationGeneration + 1 }
  | unpublish {owner lease record handler} (owned : dispatcher.Owned owner lease record)
      (published : record.suspendedHandler = none)
      (found : dispatcher.handlers.lookup record.regionId = some handler)
      (shows' : dispatcher.Shows record) :
      Serves dispatcher (.unpublishOwnedHandler owner lease) (.release (.ok ())) { dispatcher with
        bus := dispatcher.bus.removeExactRegions record.regions
        handlers := dispatcher.handlers.erase record.regionId
        registrations := dispatcher.registrations.insert lease.generation
          { record with suspendedHandler := some handler } }
  | republish {owner lease record handler bus} (owned : dispatcher.Owned owner lease record)
      (suspended : record.suspendedHandler = some handler)
      (unpublished : dispatcher.Unpublished record.regionId) (sorted : bus.Sorted)
      (members : ∀ other, other ∈ bus.regions ↔
        other ∈ record.regions ∨ other ∈ dispatcher.bus.regions) :
      Serves dispatcher (.republishOwnedHandler owner lease) (.release (.ok ())) { dispatcher with
        registrations := dispatcher.registrations.insert lease.generation
          { record with suspendedHandler := none }
        bus
        handlers := dispatcher.handlers.insert record.regionId handler }
  | release {owner lease record} (owned : dispatcher.Owned owner lease record) :
      Serves dispatcher (.releaseUnpublishedHandler owner lease) (.release (.ok ()))
        { dispatcher with registrations := dispatcher.registrations.erase lease.generation }
  | releaseOwned {owner lease record handler} (owned : dispatcher.Owned owner lease record)
      (found : dispatcher.handlers.lookup record.regionId = some handler)
      (shows' : dispatcher.Shows record) :
      Serves dispatcher (.releaseOwnedHandler owner lease) (.release (.ok ())) { dispatcher with
        bus := dispatcher.bus.removeExactRegions record.regions
        handlers := dispatcher.handlers.erase record.regionId
        registrations := dispatcher.registrations.erase lease.generation }

variable {dispatcher next : MmioDispatcher H} {call : MmioCall H} {reply : MmioReply}
  {record : MmioRegistrationRecord H} {owner : Nat} {lease : MmioRegistrationLease}

/-- A refused call changes nothing. -/
theorem Serves.unchanged (serves : dispatcher.Serves call reply next)
    (failed : reply.failed = true) : next = dispatcher := by
  cases serves with
  | refuse => rfl
  | _ => cases failed

/-- What holds of every dispatcher. -/
structure Sound (dispatcher : MmioDispatcher H) : Prop where
  sorted : dispatcher.bus.Sorted
  identified : ∀ generation record, dispatcher.registrations.lookup generation = some record →
    ∀ region ∈ record.regions, region.id = record.regionId
  ordered : ∀ generation record, dispatcher.registrations.lookup generation = some record →
    Ordered (record.regions.map MmioRegion.range)
  issued : ∀ generation, dispatcher.nextRegistrationGeneration ≤ generation →
    dispatcher.registrations.lookup generation = none

section
variable {generation : Nat}

/-- The regions of a registration are distinct. -/
theorem Sound.distinct (sound : dispatcher.Sound)
    (found : dispatcher.registrations.lookup generation = some record) : record.regions.Nodup := by
  refine (List.pairwise_map.mp (sound.ordered generation record found)).imp ?_
  intro lower upper below equal
  subst equal
  have := lower.range.start_lt_endExclusive
  omega

/-- The exact regions of a record are all the published ones with its identifier. -/
theorem Sound.shows (sound : dispatcher.Sound)
    (found : dispatcher.registrations.lookup generation = some record)
    (exact' : dispatcher.bus.containsExactRegions record.regionId record.regions = true) :
    dispatcher.Shows record := by
  simp only [MmioBus.containsExactRegions, decide_eq_true_eq, List.all_eq_true, List.any_eq_true]
    at exact'
  obtain ⟨counted, present⟩ := exact'
  have included : record.regions ⊆
      dispatcher.bus.regions.filter fun region => region.id = record.regionId := by
    intro region isRegion
    obtain ⟨other, isOther, rfl⟩ := present region isRegion
    exact List.mem_filter.mpr
      ⟨isOther, decide_eq_true (sound.identified generation record found other isRegion)⟩
  -- As many published regions as the record has, so the record has all of them.
  have same := (List.subperm_of_subset (sound.distinct found) included).perm_of_length_le
    (Nat.le_of_eq counted)
  intro region
  rw [same.mem_iff, List.mem_filter, decide_eq_true_eq]

/-- A lease is honoured for the owner and the dispatcher which it names. -/
theorem ownedRecord_eq_ok : dispatcher.ownedRecord owner lease = .ok record ↔
    dispatcher.provenance = lease.dispatcher ∧ owner = lease.owner ∧
      dispatcher.registrations.lookup lease.generation = some record ∧ record.owner = owner := by
  simp only [ownedRecord, bind_eq_ok, rejectIf_eq_ok, okOr_eq_ok, pure_eq_ok, not_not, exists_const]
  constructor
  · rintro ⟨here, mine, found, isFound, isOwner, rfl⟩
    exact ⟨here, mine, isFound, isOwner⟩
  · rintro ⟨here, mine, isFound, isOwner⟩
    exact ⟨here, mine, record, isFound, isOwner, rfl⟩

variable {regionId : MmioRegionId}

theorem hasRegionId_eq_false {bus : MmioBus} :
    ¬ bus.hasRegionId regionId = true ↔ ∀ region ∈ bus.regions, region.id ≠ regionId := by
  simp [MmioBus.hasRegionId]

/-- No registration holds the id. -/
theorem hasLeasedRegionId_eq_false (unleased : ¬ dispatcher.hasLeasedRegionId regionId = true) :
    dispatcher.Unleased regionId := by
  intro generation record found same
  refine unleased (List.any_eq_true.mpr ⟨record, Table.mem_values_of_lookup found, ?_⟩)
  exact decide_eq_true same

theorem suspendedRecord_eq_ok : dispatcher.suspendedRecord owner lease = .ok record ↔
    dispatcher.Owned owner lease record ∧ record.suspendedHandler.isSome ∧
      dispatcher.Unpublished record.regionId := by
  simp only [suspendedRecord, bind_eq_ok, rejectIf_eq_ok, pure_eq_ok, ownedRecord_eq_ok, not_or,
    not_not, exists_const, hasRegionId_eq_false]
  constructor
  · rintro ⟨found, ⟨here, mine, isFound, isOwner⟩, ⟨sameId, sameRegions, held, absent, unused⟩, rfl⟩
    refine ⟨⟨here, mine, isFound, isOwner, sameId, sameRegions⟩, ?_, ?_, unused⟩
    · simpa [Option.isSome_iff_ne_none] using held
    · simpa using absent
  · rintro ⟨⟨here, mine, isFound, isOwner, sameId, sameRegions⟩, held, absent, unused⟩
    refine ⟨record, ⟨here, mine, isFound, isOwner⟩, ⟨sameId, sameRegions, ?_, ?_, unused⟩, rfl⟩
    · simpa [Option.isSome_iff_ne_none] using held
    · simpa using absent

end

section
variable {regionId : MmioRegionId} {start size : Nat} {handler : H} {reserves : RegionReservations}
  {requests : List MmioRegionRequest}

/-- A region is inserted, or nothing changes. -/
theorem insertRegion_ensures (sound : dispatcher.Sound) :
    (insertRegion regionId start size).Ensures dispatcher
      (fun region next =>
        dispatcher.Serves (.insertRegion regionId start size) (.region (.ok region)) next)
      (fun _ next => next = dispatcher) := by
  simp only [insertRegion, ensures_bind, ensures_get, ensures_rejectIf]
  refine ⟨fun _ => trivial, fun unleased => ?_⟩
  rw [ensures_check]
  refine ⟨fun _ _ => rfl, ?_⟩
  rintro ⟨bus, region⟩ inserted
  obtain ⟨isId, starts, sized, sorted, _, members⟩ := MmioBus.insert_eq_ok sound.sorted inserted
  exact .insertRegion (hasLeasedRegionId_eq_false unleased) isId starts sized sorted members

/-- A handler is registered, or nothing changes. -/
theorem registerHandler_ensures :
    (registerHandler regionId handler).Ensures dispatcher
      (fun _ next =>
        dispatcher.Serves (.registerHandler regionId handler) (.handler (.ok ())) next)
      (fun _ next => next = dispatcher) := by
  simp only [registerHandler, ensures_bind, ensures_get, ensures_rejectIf,
    ensures_modify]
  refine ⟨fun _ => trivial, fun unleased => ⟨fun _ => trivial, fun vacant => ?_⟩⟩
  exact .registerHandler (hasLeasedRegionId_eq_false unleased) (by simpa using vacant)

section
variable (sound : dispatcher.Sound)
include sound

/-- A registration is made with its lease, or nothing changes. -/
theorem registerOwnedHandler_ensures :
    (registerOwnedHandler reserves owner regionId requests handler).Ensures dispatcher
      (fun lease next => dispatcher.Serves
        (.registerOwnedHandler reserves owner regionId requests handler) (.lease (.ok lease)) next)
      (fun _ next => next = dispatcher) := by
  rw [registerOwnedHandler, ensures_bind, ensures_get, ensures_bind,
    ensures_check]
  refine ⟨fun _ _ => rfl, fun plan planned => ?_⟩
  simp only [planOwnedHandler, bind_eq_ok, rejectIf_eq_ok, okOr_eq_ok, checkedAdd_eq_some,
    mapError_eq_ok, pure_eq_ok, exists_const, hasRegionId_eq_false, Prod.exists] at planned
  obtain ⟨_, vacant, unused, _, ⟨_, rfl⟩, _, bus, regions, inserted, _, rfl⟩ := planned
  obtain ⟨sorted, valid, complete, apart, disjoint, members⟩ :=
    MmioBus.insertAll_eq_ok sound.sorted inserted
  refine .registerOwnedHandler ⟨by simpa using vacant, unused⟩ sorted (ordered_mergeSort disjoint)
    ?_ ?_ ?_ ?_
  · intro region isRegion
    exact valid region (List.mem_mergeSort.mp isRegion)
  · intro request isRequest
    obtain ⟨region, isRegion, same⟩ := complete request isRequest
    exact ⟨region, List.mem_mergeSort.mpr isRegion, same⟩
  · intro region isRegion
    exact apart region (List.mem_mergeSort.mp isRegion)
  · intro other
    rw [members, List.mem_mergeSort]

/-- An unpublished registration keeps its handler. -/
theorem unpublish_ensures :
    (unpublishOwnedHandler owner lease).Ensures dispatcher
      (fun _ next => ∃ record handler, dispatcher.Owned owner lease record ∧
        record.suspendedHandler = none ∧
        dispatcher.handlers.lookup record.regionId = some handler ∧ dispatcher.Shows record ∧
        next = { dispatcher with
          bus := dispatcher.bus.removeExactRegions record.regions
          handlers := dispatcher.handlers.erase record.regionId
          registrations := dispatcher.registrations.insert lease.generation
            { record with suspendedHandler := some handler } })
      (fun _ next => next = dispatcher) := by
  rw [unpublishOwnedHandler, ensures_bind, ensures_get, ensures_bind,
    ensures_check]
  refine ⟨fun _ _ => rfl, fun record owned => ?_⟩
  obtain ⟨here, mine, found, isOwner⟩ := ownedRecord_eq_ok.mp owned
  simp only [ensures_bind, ensures_rejectIf, ensures_modify, ensures_okOr]
  refine ⟨fun _ => trivial, fun same => ⟨fun _ => trivial, fun published => ?_⟩⟩
  rw [not_or, not_not, not_not] at same
  rw [not_or, not_or, not_not, not_not] at published
  obtain ⟨active, present, exact'⟩ := published
  refine ⟨fun absent => ?_, fun handler isHandler => ?_⟩
  · rw [absent] at present
    cases present
  · exact ⟨record, handler, ⟨here, mine, found, isOwner, same.1, same.2⟩, by simpa using active,
      isHandler, sound.shows found exact', rfl⟩

/-- A registration is published again, or nothing changes. -/
theorem republish_ensures :
    (republishOwnedHandler owner lease).Ensures dispatcher
      (fun _ next =>
        dispatcher.Serves (.republishOwnedHandler owner lease) (.release (.ok ())) next)
      (fun _ next => next = dispatcher) := by
  rw [republishOwnedHandler, ensures_bind, ensures_get, ensures_bind,
    ensures_check]
  refine ⟨fun _ _ => rfl, fun record checked => ?_⟩
  obtain ⟨owned, held, unpublished⟩ := suspendedRecord_eq_ok.mp checked
  rw [ensures_bind, ensures_check]
  refine ⟨fun _ _ => rfl, fun bus inserted => ?_⟩
  simp only [ensures_bind, ensures_okOr, ensures_modify]
  refine ⟨fun absent => trivial, fun handler suspended => ?_⟩
  obtain ⟨sorted, members⟩ := MmioBus.reinsertRegions_eq_ok sound.sorted inserted
  rw [← owned.regionId_eq]
  rw [← owned.regions_eq] at members
  exact .republish owned suspended unpublished sorted members

end

/-- An unpublished registration is released, or nothing changes. -/
theorem release_ensures :
    (releaseUnpublishedHandler owner lease).Ensures dispatcher
      (fun _ next =>
        dispatcher.Serves (.releaseUnpublishedHandler owner lease) (.release (.ok ())) next)
      (fun _ next => next = dispatcher) := by
  rw [releaseUnpublishedHandler, ensures_bind, ensures_get, ensures_bind,
    ensures_check]
  refine ⟨fun _ _ => rfl, fun record checked => ?_⟩
  exact .release (suspendedRecord_eq_ok.mp checked).1

theorem mem_removeExactRegions {bus : MmioBus} {regions : List MmioRegion} {region : MmioRegion} :
    region ∈ (bus.removeExactRegions regions).regions ↔ region ∈ bus.regions ∧ region ∉ regions := by
  simp [MmioBus.removeExactRegions]

/-- Releasing a published registration ends the unpublished one at once. -/
theorem releaseOwned_ensures (sound : dispatcher.Sound) :
    (releaseOwnedHandler owner lease).Ensures dispatcher
      (fun _ next =>
        dispatcher.Serves (.releaseOwnedHandler owner lease) (.release (.ok ())) next)
      (fun _ next => next = dispatcher) := by
  rw [releaseOwnedHandler, ensures_bind]
  refine (unpublish_ensures sound).mono ?_ fun _ _ same => same
  rintro _ _ ⟨record, handler, owned, published, found, shows', rfl⟩
  rw [ensures_tryCatch, releaseUnpublishedHandler, ensures_bind, ensures_get,
    ensures_bind, ensures_check]
  -- The registration which was just unpublished passes every check.
  have unpublished : suspendedRecord { dispatcher with
      bus := dispatcher.bus.removeExactRegions record.regions
      handlers := dispatcher.handlers.erase record.regionId
      registrations := dispatcher.registrations.insert lease.generation
        { record with suspendedHandler := some handler } } owner lease =
      .ok { record with suspendedHandler := some handler } := by
    refine suspendedRecord_eq_ok.mpr ⟨⟨owned.dispatcher_eq, owned.owner_eq, ?_, owned.record_owner,
      owned.regionId_eq, owned.regions_eq⟩, rfl, ?_, ?_⟩
    · exact AList.lookup_insert _
    · exact AList.lookup_erase _ _
    · intro region remains sameId
      obtain ⟨isRegion, notOwn⟩ := mem_removeExactRegions.mp remains
      exact notOwn ((shows' region).mp ⟨isRegion, sameId⟩)
  refine ⟨fun error failed => ?_, fun checked _ => ?_⟩
  · rw [unpublished] at failed
    cases failed
  · have released := Serves.releaseOwned owned found shows'
    rw [← Table.erase_insert dispatcher.registrations lease.generation
      { record with suspendedHandler := some handler }] at released
    exact released

/-- A call whose failures change nothing does what it may do. -/
theorem serves_of_ensures {ε α : Type} (wrap : Except ε α → MmioReply)
    {action : Action (MmioDispatcher H) ε α}
    (ensures : action.Ensures dispatcher
      (fun value next => dispatcher.Serves call (wrap (.ok value)) next)
      (fun _ next => next = dispatcher))
    (fails : ∀ error, (wrap (.error error)).failed = true) :
    dispatcher.Serves call (wrap (action.outcome dispatcher).1) (action.outcome dispatcher).2 := by
  rcases ensures.cases with ⟨value, isOk, serves⟩ | ⟨error, isError, same⟩
  · rw [isOk]
    exact serves
  · rw [isError, same]
    exact .refuse (fails error)

/-- Every call does what it may do. -/
theorem serve_serves (sound : dispatcher.Sound) (call : MmioCall H) :
    dispatcher.Serves call (dispatcher.serve call).1 (dispatcher.serve call).2 := by
  cases call with
  | insertRegion regionId start size =>
    exact serves_of_ensures .region (insertRegion_ensures sound) fun _ => rfl
  | registerHandler regionId handler =>
    exact serves_of_ensures .handler registerHandler_ensures fun _ => rfl
  | registerOwnedHandler reserves owner regionId requests handler =>
    exact serves_of_ensures .lease (registerOwnedHandler_ensures sound) fun _ => rfl
  | unpublishOwnedHandler owner lease =>
    refine serves_of_ensures .release ((unpublish_ensures sound).mono ?_ fun _ _ same => same)
      fun _ => rfl
    rintro _ _ ⟨record, handler, owned, published, found, shows', rfl⟩
    exact .unpublish owned published found shows'
  | republishOwnedHandler owner lease =>
    exact serves_of_ensures .release (republish_ensures sound) fun _ => rfl
  | releaseUnpublishedHandler owner lease =>
    exact serves_of_ensures .release release_ensures fun _ => rfl
  | releaseOwnedHandler owner lease =>
    exact serves_of_ensures .release (releaseOwned_ensures sound) fun _ => rfl

end

section

/-- A new dispatcher is sound. -/
theorem Sound.new (provenance : Nat) : (new provenance : MmioDispatcher H).Sound where
  sorted := .nil
  identified := nofun
  ordered := nofun
  issued _ _ := rfl

variable {table : Table Nat (MmioRegistrationRecord H)} {property : MmioRegistrationRecord H → Prop}
  {generation : Nat}

/-- Adding or replacing a record keeps what is said of each record. -/
theorem forall_lookup_insert (added : property record)
    (others : ∀ generation record, table.lookup generation = some record → property record) :
    ∀ other found, (table.insert generation record).lookup other = some found → property found := by
  intro other found isFound
  rcases Table.lookup_insert_eq_some.mp isFound with ⟨_, rfl⟩ | ⟨_, older⟩
  · exact added
  · exact others other found older

theorem forall_lookup_erase
    (others : ∀ generation record, table.lookup generation = some record → property record) :
    ∀ other found, (table.erase generation).lookup other = some found → property found :=
  fun other found isFound => others other found (Table.lookup_erase_eq_some.mp isFound).2

variable {generation other : Nat}

theorem lookup_erase_eq_none (absent : table.lookup other = none) :
    (table.erase generation).lookup other = none := by
  by_cases same : other = generation
  · rw [same]
    exact AList.lookup_erase _ _
  · rw [AList.lookup_erase_ne same]
    exact absent

theorem Sound.ne_of_issued (sound : dispatcher.Sound)
    (found : dispatcher.registrations.lookup generation = some record)
    (above : dispatcher.nextRegistrationGeneration ≤ other) : other ≠ generation := by
  rintro rfl
  rw [sound.issued other above] at found
  cases found

theorem sorted_removeExactRegions {bus : MmioBus} (sorted : bus.Sorted)
    (regions : List MmioRegion) : (bus.removeExactRegions regions).Sorted :=
  sorted.filter _

/-- A served call keeps the dispatcher sound. -/
theorem Sound.serves (sound : dispatcher.Sound) (serves : dispatcher.Serves call reply next) :
    next.Sound := by
  cases serves with
  | refuse => exact sound
  | insertRegion unleased isId starts sized sorted members =>
    exact ⟨sorted, sound.identified, sound.ordered, sound.issued⟩
  | registerHandler => exact ⟨sound.sorted, sound.identified, sound.ordered, sound.issued⟩
  | registerOwnedHandler unpublished sorted ordered valid complete apart members =>
    refine ⟨sorted, forall_lookup_insert ?_ sound.identified,
      forall_lookup_insert ordered sound.ordered, fun generation above => ?_⟩
    · exact fun region isRegion => (valid region isRegion).1
    · dsimp only at above
      rw [AList.lookup_insert_ne (by omega)]
      exact sound.issued generation (by omega)
  | @unpublish _ lease record handler owned published found shows' =>
    refine ⟨sorted_removeExactRegions sound.sorted _,
      forall_lookup_insert (sound.identified lease.generation record owned.found) sound.identified,
      forall_lookup_insert (sound.ordered lease.generation record owned.found) sound.ordered,
      fun generation above => ?_⟩
    rw [AList.lookup_insert_ne (sound.ne_of_issued owned.found above)]
    exact sound.issued generation above
  | @republish _ lease record handler bus owned suspended unpublished sorted members =>
    refine ⟨sorted, forall_lookup_insert (sound.identified lease.generation record owned.found)
        sound.identified,
      forall_lookup_insert (sound.ordered lease.generation record owned.found) sound.ordered,
      fun generation above => ?_⟩
    rw [AList.lookup_insert_ne (sound.ne_of_issued owned.found above)]
    exact sound.issued generation above
  | release owned =>
    exact ⟨sound.sorted, forall_lookup_erase sound.identified, forall_lookup_erase sound.ordered,
      fun generation above => lookup_erase_eq_none (sound.issued generation above)⟩
  | releaseOwned owned found shows' =>
    exact ⟨sorted_removeExactRegions sound.sorted _, forall_lookup_erase sound.identified,
      forall_lookup_erase sound.ordered,
      fun generation above => lookup_erase_eq_none (sound.issued generation above)⟩

end
end MmioDispatcher
end Bangbang.Mmio
