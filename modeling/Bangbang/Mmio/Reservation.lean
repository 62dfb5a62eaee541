import Bangbang.Mmio.Routing

/-!
# Unpublished registrations

A registration which is unpublished keeps its handler in its record, but the bus and the
handlers forget it. `Respects` is what a call has to leave alone for the registration to
stay reserved: neither the code of `insert_region` nor that of `register_owned_handler`
looks at the regions of unpublished registrations, and the latter does not look at their
identifiers. In a run of such calls nobody takes an identifier or an address of an
unpublished registration, and it can be published again as it was.
-/

namespace Bangbang.Mmio

open Memory AList Table

variable {H : Type}

/-- A requested range and a region have a common address. -/
def Meets (start size : Nat) (region : MmioRegion) : Prop :=
  0 < size ∧ start < region.range.endExclusive ∧ region.range.start < start + size

instance (start size : Nat) (region : MmioRegion) : Decidable (Meets start size region) :=
  inferInstanceAs (Decidable (_ ∧ _))

theorem not_meets_iff {region other : MmioRegion} :
    ¬ Meets other.range.start other.range.size region ↔
      other.range.overlaps region.range = false := by
  rw [← Bool.not_eq_true, GuestMemoryRange.overlaps_iff, Meets, and_iff_right other.range.positive]
  rfl

/-- The lease which a call presents, and its caller. -/
def MmioCall.presents : MmioCall H → Option (Nat × MmioRegistrationLease)
  | .unpublishOwnedHandler owner lease | .republishOwnedHandler owner lease
  | .releaseUnpublishedHandler owner lease | .releaseOwnedHandler owner lease => some (owner, lease)
  | _ => none

/-- The call ends a registration. -/
def MmioCall.releases : MmioCall H → Bool
  | .releaseUnpublishedHandler _ _ | .releaseOwnedHandler _ _ => true
  | _ => false

namespace MmioDispatcher

variable {dispatcher next : MmioDispatcher H} {call : MmioCall H} {reply}
  {record : MmioRegistrationRecord H} {generation : Nat}

/-- The call leaves the identifiers and the regions of unpublished registrations alone. -/
def Respects (dispatcher : MmioDispatcher H) : MmioCall H → Prop
  | .insertRegion _ start size =>
    ∀ generation record, dispatcher.registrations.lookup generation = some record →
      record.suspendedHandler.isSome → ∀ region ∈ record.regions, ¬ Meets start size region
  | .registerOwnedHandler _ _ regionId requests _ =>
    ∀ generation record, dispatcher.registrations.lookup generation = some record →
      record.suspendedHandler.isSome → record.regionId ≠ regionId ∧
        ∀ request ∈ requests, ∀ region ∈ record.regions,
          ¬ Meets request.start request.size region
  | _ => True

/-- The registrations do not meet, and the unpublished ones meet nothing which is published. -/
structure Apart (dispatcher : MmioDispatcher H) : Prop where
  identifiers : ∀ first second record other,
    dispatcher.registrations.lookup first = some record →
      dispatcher.registrations.lookup second = some other →
        record.regionId = other.regionId → first = second
  published : ∀ generation record, dispatcher.registrations.lookup generation = some record →
    record.suspendedHandler = none → (dispatcher.handlers.lookup record.regionId).isSome ∧
      ∀ region ∈ record.regions, region ∈ dispatcher.bus.regions
  unpublished : ∀ generation record, dispatcher.registrations.lookup generation = some record →
    record.suspendedHandler.isSome → dispatcher.Unpublished record.regionId ∧
      ∀ region ∈ record.regions, ∀ other ∈ dispatcher.bus.regions,
        other.range.overlaps region.range = false
  regions : ∀ first second record other,
    dispatcher.registrations.lookup first = some record →
      dispatcher.registrations.lookup second = some other → first ≠ second →
        ∀ region ∈ record.regions, ∀ taken ∈ other.regions,
          taken.range.overlaps region.range = false

/-- A new dispatcher holds nothing which could meet. -/
theorem Apart.new (provenance : Nat) : (new provenance : MmioDispatcher H).Apart where
  identifiers := nofun
  published := nofun
  unpublished := nofun
  regions := nofun

variable {handler : H} {owner : Nat} {lease : MmioRegistrationLease}

section
variable {bus : MmioBus} {id} {start size : Nat} {region : MmioRegion} {regions requests reserves}

section
variable (apart : dispatcher.Apart)
include apart

/-- An inserted region which respects the registrations stays apart from them. -/
theorem Apart.insertRegion
    (respects : dispatcher.Respects (.insertRegion region.id region.range.start region.range.size))
    (unleased : dispatcher.Unleased region.id)
    (members : ∀ other, other ∈ bus.regions ↔ other = region ∨ other ∈ dispatcher.bus.regions) :
    Apart { dispatcher with bus } where
  identifiers := apart.identifiers
  regions := apart.regions
  published generation record found active :=
    have ⟨handled, shown⟩ := apart.published generation record found active
    ⟨handled, fun own isOwn => (members own).mpr (.inr (shown own isOwn))⟩
  unpublished := by
    intro generation record found suspended
    obtain ⟨⟨absent, unused⟩, clear⟩ := apart.unpublished generation record found suspended
    refine ⟨⟨absent, fun other isOther => ?_⟩, fun own isOwn other isOther => ?_⟩
    · rcases (members other).mp isOther with rfl | old
      · exact (unleased generation record found).symm
      · exact unused other old
    · rcases (members other).mp isOther with rfl | old
      · exact not_meets_iff.mp (respects generation record found suspended own isOwn)
      · exact clear own isOwn other old

theorem Apart.registerHandler (unleased : dispatcher.Unleased id) :
    Apart { dispatcher with handlers := dispatcher.handlers.insert id handler } where
  identifiers := apart.identifiers
  regions := apart.regions
  published := by
    intro generation record found active
    obtain ⟨handled, shown⟩ := apart.published generation record found active
    refine ⟨?_, shown⟩
    rw [lookup_insert_ne (unleased generation record found)]
    exact handled
  unpublished := by
    intro generation record found suspended
    obtain ⟨⟨missing, unused⟩, clear⟩ := apart.unpublished generation record found suspended
    refine ⟨⟨?_, unused⟩, clear⟩
    rw [lookup_insert_ne (unleased generation record found)]
    exact missing

/-- A registration which respects the others stays apart from them. -/
theorem Apart.registerOwnedHandler
    (respects : dispatcher.Respects (.registerOwnedHandler reserves owner id requests handler))
    (vacant : dispatcher.Unpublished id)
    (valid : ∀ region ∈ regions, region.id = id ∧ ∃ request ∈ requests,
      region.range.start = request.start ∧ region.range.size = request.size)
    (clear : ∀ region ∈ regions, ∀ other ∈ dispatcher.bus.regions,
      other.range.overlaps region.range = false)
    (members : ∀ other, other ∈ bus.regions ↔ other ∈ regions ∨ other ∈ dispatcher.bus.regions) :
    Apart { dispatcher with
      bus
      handlers := dispatcher.handlers.insert id handler
      registrations := dispatcher.registrations.insert generation
        { owner, regionId := id, regions, suspendedHandler := none }
      nextRegistrationGeneration := dispatcher.nextRegistrationGeneration + 1 } := by
  -- The new registration has neither the identifier nor a region of another one.
  have newId : ∀ generation record, dispatcher.registrations.lookup generation = some record →
      record.regionId ≠ id := by
    intro generation record found
    by_cases active : record.suspendedHandler = none
    · rintro rfl
      have handled := (apart.published generation record found active).1
      rw [vacant.handler] at handled
      cases handled
    · exact (respects generation record found (Option.isSome_iff_ne_none.mpr active)).1
  have newRegions : ∀ generation record, dispatcher.registrations.lookup generation = some record →
      ∀ region ∈ regions, ∀ other ∈ record.regions,
        other.range.overlaps region.range = false := by
    intro generation record found region isRegion other isOther
    by_cases active : record.suspendedHandler = none
    · have shown := (apart.published generation record found active).2
      exact clear region isRegion other (shown other isOther)
    · obtain ⟨_, request, isRequest, starts, sized⟩ := valid region isRegion
      have missed := (respects generation record found (Option.isSome_iff_ne_none.mpr active)).2
        request isRequest other isOther
      rw [← starts, ← sized, not_meets_iff] at missed
      rwa [GuestMemoryRange.overlaps_comm]
  refine ⟨?_, ?_, ?_, ?_⟩
  · intro first second record other found foundOther same
    rcases Table.lookup_insert_eq_some.mp found with ⟨rfl, rfl⟩ | ⟨_, stored⟩
    · rcases Table.lookup_insert_eq_some.mp foundOther with ⟨rfl, rfl⟩ | ⟨_, storedOther⟩
      · rfl
      · exact absurd same.symm (newId second other storedOther)
    · rcases Table.lookup_insert_eq_some.mp foundOther with ⟨rfl, rfl⟩ | ⟨_, storedOther⟩
      · exact absurd same (newId first record stored)
      · exact apart.identifiers first second record other stored storedOther same
  · intro first record found active
    rcases Table.lookup_insert_eq_some.mp found with ⟨rfl, rfl⟩ | ⟨_, found⟩
    · refine ⟨?_, fun own isOwn => (members own).mpr (.inl isOwn)⟩
      rw [AList.lookup_insert]
      rfl
    · obtain ⟨handled, shown⟩ := apart.published first record found active
      refine ⟨?_, fun own isOwn => (members own).mpr (.inr (shown own isOwn))⟩
      rw [AList.lookup_insert_ne (newId first record found)]
      exact handled
  · intro first record found suspended
    rcases Table.lookup_insert_eq_some.mp found with ⟨rfl, rfl⟩ | ⟨_, found⟩
    · cases suspended
    · obtain ⟨⟨missing, unused⟩, free⟩ := apart.unpublished first record found suspended
      refine ⟨⟨?_, fun other isOther => ?_⟩, fun own isOwn other isOther => ?_⟩
      · rw [AList.lookup_insert_ne (newId first record found)]
        exact missing
      · rcases (members other).mp isOther with added | old
        · rw [(valid other added).1]
          exact (newId first record found).symm
        · exact unused other old
      · rcases (members other).mp isOther with added | old
        · rw [GuestMemoryRange.overlaps_comm]
          exact newRegions first record found other added own isOwn
        · exact free own isOwn other old
  · intro first second record other found foundOther different
    rcases Table.lookup_insert_eq_some.mp found with ⟨rfl, rfl⟩ | ⟨_, stored⟩
    · rcases Table.lookup_insert_eq_some.mp foundOther with ⟨rfl, rfl⟩ | ⟨_, storedOther⟩
      · exact absurd rfl different
      · exact newRegions second other storedOther
    · rcases Table.lookup_insert_eq_some.mp foundOther with ⟨rfl, rfl⟩ | ⟨_, storedOther⟩
      · intro own isOwn taken isTaken
        rw [GuestMemoryRange.overlaps_comm]
        exact newRegions first record stored taken isTaken own isOwn
      · exact apart.regions first second record other stored storedOther different

end

variable {entry}

/-- Two registrations have different ids. -/
theorem Apart.regionId_ne (apart : dispatcher.Apart) {other}
    (isEntry : dispatcher.registrations.lookup other = some entry)
    (found : dispatcher.registrations.lookup generation = some record)
    (different : other ≠ generation) : entry.regionId ≠ record.regionId :=
  fun same => different (apart.identifiers other generation entry record isEntry found same)

/-- Suspending or resuming a record changes neither its identifier nor its regions. -/
theorem lookup_resumed {suspended other}
    (found : dispatcher.registrations.lookup generation = some record)
    (isEntry : (dispatcher.registrations.insert generation
      { record with suspendedHandler := suspended }).lookup other = some entry) :
    ∃ old, dispatcher.registrations.lookup other = some old ∧ old.regionId = entry.regionId ∧
      old.regions = entry.regions := by
  rcases lookup_insert_eq_some.mp isEntry with ⟨rfl, rfl⟩ | ⟨_, older⟩
  · exact ⟨record, found, rfl, rfl⟩
  · exact ⟨entry, older, rfl, rfl⟩

variable (apart : dispatcher.Apart)
include apart

/-- An unpublished registration stays apart from what remains. -/
theorem Apart.unpublish (sound : dispatcher.Sound) (handler : H)
    (found : dispatcher.registrations.lookup generation = some record)
    (shows' : dispatcher.Shows record) :
    Apart { dispatcher with
      bus := dispatcher.bus.removeExactRegions record.regions
      handlers := dispatcher.handlers.erase record.regionId
      registrations := dispatcher.registrations.insert generation
        { record with suspendedHandler := some handler } } := by
  refine ⟨?_, ?_, ?_, ?_⟩
  · intro first second entry other isEntry isOther same
    obtain ⟨old, isOld, oldId, _⟩ := lookup_resumed found isEntry
    obtain ⟨oldOther, isOldOther, otherId, _⟩ := lookup_resumed found isOther
    exact apart.identifiers first second old oldOther isOld isOldOther (by rw [oldId, otherId, same])
  · intro first entry isEntry active
    rcases lookup_insert_eq_some.mp isEntry with ⟨rfl, rfl⟩ | ⟨different, older⟩
    · cases active
    · obtain ⟨handled, shown⟩ := apart.published first entry older active
      have otherId := apart.regionId_ne older found different
      refine ⟨?_, fun own isOwn => ?_⟩
      · rw [lookup_erase_ne otherId]
        exact handled
      · refine mem_removeExactRegions.mpr ⟨shown own isOwn, fun taken => otherId ?_⟩
        rw [← sound.identified first entry older own isOwn]
        exact ((shows' own).mpr taken).2
  · intro first entry isEntry suspended
    rcases lookup_insert_eq_some.mp isEntry with ⟨rfl, rfl⟩ | ⟨different, older⟩
    · refine ⟨⟨lookup_erase _ _, fun other remains sameId => ?_⟩, fun own isOwn other remains => ?_⟩
      · obtain ⟨isRegion, notOwn⟩ := mem_removeExactRegions.mp remains
        exact notOwn ((shows' other).mp ⟨isRegion, sameId⟩)
      · obtain ⟨isRegion, notOwn⟩ := mem_removeExactRegions.mp remains
        refine sound.sorted.apart isRegion ((shows' own).mpr isOwn).1 ?_
        rintro rfl
        exact notOwn isOwn
    · obtain ⟨⟨missing, unused⟩, free⟩ := apart.unpublished first entry older suspended
      refine ⟨⟨?_, fun other remains => ?_⟩, fun own isOwn other remains => ?_⟩
      · rw [Option.eq_none_iff_forall_ne_some]
        intro handler present
        rw [(lookup_erase_eq_some.mp present).2] at missing
        cases missing
      · exact unused other (mem_removeExactRegions.mp remains).1
      · exact free own isOwn other (mem_removeExactRegions.mp remains).1
  · intro first second entry other isEntry isOther different
    obtain ⟨old, isOld, _, oldRegions⟩ := lookup_resumed found isEntry
    obtain ⟨oldOther, isOldOther, _, otherRegions⟩ := lookup_resumed found isOther
    rw [← oldRegions, ← otherRegions]
    exact apart.regions first second old oldOther isOld isOldOther different

/-- A registration which is published again stays apart from the others. -/
theorem Apart.republish (sound : dispatcher.Sound)
    (found : dispatcher.registrations.lookup generation = some record)
    (members : ∀ other, other ∈ bus.regions ↔
      other ∈ record.regions ∨ other ∈ dispatcher.bus.regions) :
    Apart { dispatcher with
      registrations := dispatcher.registrations.insert generation
        { record with suspendedHandler := none }
      bus
      handlers := dispatcher.handlers.insert record.regionId handler } := by
  refine ⟨?_, ?_, ?_, ?_⟩
  · intro first second entry other isEntry isOther same
    obtain ⟨old, isOld, oldId, _⟩ := lookup_resumed found isEntry
    obtain ⟨oldOther, isOldOther, otherId, _⟩ := lookup_resumed found isOther
    exact apart.identifiers first second old oldOther isOld isOldOther (by rw [oldId, otherId, same])
  · intro first entry isEntry active
    rcases lookup_insert_eq_some.mp isEntry with ⟨rfl, rfl⟩ | ⟨different, older⟩
    · refine ⟨?_, fun own isOwn => (members own).mpr (.inl isOwn)⟩
      rw [lookup_insert]
      rfl
    · obtain ⟨handled, shown⟩ := apart.published first entry older active
      have otherId := apart.regionId_ne older found different
      refine ⟨?_, fun own isOwn => (members own).mpr (.inr (shown own isOwn))⟩
      rw [lookup_insert_ne otherId]
      exact handled
  · intro first entry isEntry suspended
    rcases lookup_insert_eq_some.mp isEntry with ⟨rfl, rfl⟩ | ⟨different, older⟩
    · cases suspended
    · obtain ⟨⟨missing, unused⟩, free⟩ := apart.unpublished first entry older suspended
      have otherId := apart.regionId_ne older found different
      refine ⟨⟨?_, fun other isOther => ?_⟩, fun own isOwn other isOther => ?_⟩
      · rw [lookup_insert_ne otherId]
        exact missing
      · rcases (members other).mp isOther with restored | old
        · rw [sound.identified generation record found other restored]
          exact otherId.symm
        · exact unused other old
      · rcases (members other).mp isOther with restored | old
        · exact apart.regions first generation entry record older found different own isOwn other
            restored
        · exact free own isOwn other old
  · intro first second entry other isEntry isOther different
    obtain ⟨old, isOld, _, oldRegions⟩ := lookup_resumed found isEntry
    obtain ⟨oldOther, isOldOther, _, otherRegions⟩ := lookup_resumed found isOther
    rw [← oldRegions, ← otherRegions]
    exact apart.regions first second old oldOther isOld isOldOther different

/-- Forgetting a registration leaves the others apart. -/
theorem Apart.erase (generation : Nat) :
    Apart { dispatcher with registrations := dispatcher.registrations.erase generation } where
  identifiers first second record other found foundOther :=
    apart.identifiers first second record other (lookup_erase_eq_some.mp found).2
      (lookup_erase_eq_some.mp foundOther).2
  published first record found :=
    apart.published first record (lookup_erase_eq_some.mp found).2
  unpublished first record found suspended :=
    have ⟨⟨missing, unused⟩, free⟩ :=
      apart.unpublished first record (lookup_erase_eq_some.mp found).2 suspended
    ⟨⟨missing, unused⟩, free⟩
  regions first second record other found foundOther :=
    apart.regions first second record other (lookup_erase_eq_some.mp found).2
      (lookup_erase_eq_some.mp foundOther).2

/-- A call which respects the unpublished registrations keeps all of them apart. -/
theorem Apart.serves (sound : dispatcher.Sound) (respects : dispatcher.Respects call)
    (serves : dispatcher.Serves call reply next) : next.Apart := by
  cases serves with
  | refuse => exact apart
  | insertRegion unleased isId starts sized sorted members =>
    subst isId starts sized
    exact apart.insertRegion respects unleased members
  | registerHandler unleased absent => exact apart.registerHandler unleased
  | registerOwnedHandler unpublished sorted ordered valid complete clear members =>
    exact apart.registerOwnedHandler respects unpublished valid clear members
  | unpublish owned published found shows' => exact apart.unpublish sound _ owned.found shows'
  | republish owned suspended unpublished sorted members =>
    exact apart.republish sound owned.found members
  | release owned => exact apart.erase _
  | @releaseOwned _ lease record handler owned found shows' =>
    have erased := (apart.unpublish sound handler owned.found shows').erase lease.generation
    rw [erase_insert] at erased
    exact erased

end

/-- The registration of a lease is unpublished, and its record keeps the handler. -/
def Suspended (dispatcher : MmioDispatcher H) (owner : Nat) (lease : MmioRegistrationLease)
    (handler : H) : Prop :=
  ∃ record, dispatcher.Owned owner lease record ∧ record.suspendedHandler = some handler

/-- The registration of a lease is over. -/
structure Released (dispatcher : MmioDispatcher H) (lease : MmioRegistrationLease) : Prop where
  issued : lease.generation < dispatcher.nextRegistrationGeneration
  erased : dispatcher.registrations.lookup lease.generation = none

/-- A found record is not the one of a released lease. -/
theorem Released.ne (released : dispatcher.Released lease)
    (found : dispatcher.registrations.lookup generation = some record) :
    lease.generation ≠ generation := by
  rintro rfl
  rw [released.erased] at found
  cases found

/-- A lease which has been released stays released. -/
theorem Released.serves (released : dispatcher.Released lease)
    (serves : dispatcher.Serves call reply next) : next.Released lease := by
  cases serves with
  | refuse => exact released
  | insertRegion | registerHandler => exact ⟨released.issued, released.erased⟩
  | registerOwnedHandler =>
    refine ⟨Nat.lt_succ_of_lt released.issued, ?_⟩
    rw [lookup_insert_ne (Nat.ne_of_lt released.issued)]
    exact released.erased
  | unpublish owned | republish owned =>
    refine ⟨released.issued, ?_⟩
    rw [lookup_insert_ne (released.ne owned.found)]
    exact released.erased
  | release owned | releaseOwned owned =>
    exact ⟨released.issued, lookup_erase_eq_none released.erased⟩

/-- A registration has a generation which has been issued. -/
theorem Sound.generation_lt (sound : dispatcher.Sound)
    (found : dispatcher.registrations.lookup generation = some record) :
    generation < dispatcher.nextRegistrationGeneration := by
  by_contra newer
  rw [sound.issued generation (not_lt.mp newer)] at found
  cases found

section
variable (owned : dispatcher.Owned owner lease record)
include owned

theorem Owned.record_eq {entry}
    (found : dispatcher.registrations.lookup lease.generation = some entry) : record = entry := by
  have twice := owned.found
  rw [found, Option.some.injEq] at twice
  exact twice.symm

/-- The record of a lease after a call which did not touch it. -/
theorem Owned.of_lookup (same : next.provenance = dispatcher.provenance)
    (found : next.registrations.lookup lease.generation = some record) :
    next.Owned owner lease record :=
  { owned with dispatcher_eq := same.trans owned.dispatcher_eq, found }

end

/-- One registration has one lease. -/
theorem Owned.lease_eq {other : MmioRegistrationLease} {otherOwner otherRecord}
    (owned : dispatcher.Owned owner lease record)
    (ownedOther : dispatcher.Owned otherOwner other otherRecord)
    (same : lease.generation = other.generation) : other = lease := by
  obtain rfl := owned.record_eq (same ▸ ownedOther.found)
  have sameDispatcher := ownedOther.dispatcher_eq.symm.trans owned.dispatcher_eq
  have sameOwner : other.owner = lease.owner := by
    rw [← ownedOther.owner_eq, ← owned.owner_eq, ← ownedOther.record_owner, owned.record_owner]
  have sameId := ownedOther.regionId_eq.symm.trans owned.regionId_eq
  have sameRegions := ownedOther.regions_eq.symm.trans owned.regions_eq
  cases other
  cases lease
  simp_all

/-- An unpublished registration stays so under calls which are not served for its lease. -/
theorem Suspended.serves (suspended : dispatcher.Suspended owner lease handler)
    (sound : dispatcher.Sound) (serves : dispatcher.Serves call reply next)
    (spared : reply.failed = false → ∀ other, call.presents ≠ some (other, lease)) :
    next.Suspended owner lease handler := by
  obtain ⟨record, owned, held⟩ := suspended
  cases serves with
  | refuse => exact ⟨record, owned, held⟩
  | insertRegion | registerHandler => exact ⟨record, owned.of_lookup rfl owned.found, held⟩
  | registerOwnedHandler =>
    refine ⟨record, owned.of_lookup rfl ?_, held⟩
    rw [lookup_insert_ne (Nat.ne_of_lt (sound.generation_lt owned.found))]
    exact owned.found
  | unpublish ownedOther | republish ownedOther =>
    refine ⟨record, owned.of_lookup rfl ?_, held⟩
    rw [lookup_insert_ne fun same => ?_]
    · exact owned.found
    · obtain rfl := owned.lease_eq ownedOther same
      exact spared rfl _ rfl
  | release ownedOther | releaseOwned ownedOther =>
    refine ⟨record, owned.of_lookup rfl ?_, held⟩
    rw [lookup_erase_ne fun same => ?_]
    · exact owned.found
    · obtain rfl := owned.lease_eq ownedOther same
      exact spared rfl _ rfl

section
variable {calls : List (MmioCall H)}

/-- Every call of a run respects the unpublished registrations of its moment. -/
def RespectsAll (dispatcher : MmioDispatcher H) : List (MmioCall H) → Prop
  | [] => True
  | call :: calls => dispatcher.Respects call ∧ (dispatcher.serve call).2.RespectsAll calls

/-- Calls which respect the registrations keep them apart. -/
theorem Apart.run (apart : dispatcher.Apart) (sound : dispatcher.Sound)
    (respects : dispatcher.RespectsAll calls) : (dispatcher.run calls).Apart := by
  induction calls generalizing dispatcher with
  | nil => exact apart
  | cons call calls ih =>
    have serves := serve_serves sound call
    exact ih (apart.serves sound respects.1 serves) (sound.serves serves) respects.2

theorem Released.run (released : dispatcher.Released lease) (sound : dispatcher.Sound)
    (calls : List (MmioCall H)) : (dispatcher.run calls).Released lease := by
  induction calls generalizing dispatcher with
  | nil => exact released
  | cons call calls ih =>
    have serves := serve_serves sound call
    exact ih (released.serves serves) (sound.serves serves)

/-- No call of a run is served for a lease. -/
def Spares (dispatcher : MmioDispatcher H) (lease : MmioRegistrationLease)
    (calls : List (MmioCall H)) : Prop :=
  ∀ call reply, (call, reply) ∈ dispatcher.history calls → reply.failed = false →
    ∀ other, call.presents ≠ some (other, lease)

/-- A registration stays unpublished, with its handler, until its lease is served. -/
theorem Suspended.run (suspended : dispatcher.Suspended owner lease handler)
    (sound : dispatcher.Sound) (spares : dispatcher.Spares lease calls) :
    (dispatcher.run calls).Suspended owner lease handler := by
  induction calls generalizing dispatcher with
  | nil => exact suspended
  | cons call calls ih =>
    have serves := serve_serves sound call
    refine ih (suspended.serves sound serves (spares _ _ List.mem_cons_self)) (sound.serves serves) ?_
    exact fun later reply member => spares later reply (List.mem_cons_of_mem _ member)

/-- Nothing but its own registration has the identifier or an address of a lease. -/
structure Reserved (dispatcher : MmioDispatcher H) (lease : MmioRegistrationLease) : Prop where
  handler : dispatcher.handlers.lookup lease.regionId = none
  region : ∀ region ∈ dispatcher.bus.regions, region.id ≠ lease.regionId
  registration : ∀ generation record,
    dispatcher.registrations.lookup generation = some record → generation ≠ lease.generation →
      record.regionId ≠ lease.regionId
  addresses : ∀ own ∈ lease.regions, ∀ region ∈ dispatcher.bus.regions,
    region.range.overlaps own.range = false
  registered : ∀ generation record,
    dispatcher.registrations.lookup generation = some record → generation ≠ lease.generation →
      ∀ own ∈ lease.regions, ∀ region ∈ record.regions, region.range.overlaps own.range = false

/-- The lease shows what it showed `before`, and everything else is as it is in
`dispatcher`. -/
structure Restores (dispatcher before after : MmioDispatcher H) (lease : MmioRegistrationLease) :
    Prop where
  regions : after.bus.regions.filter (fun region => region.id = lease.regionId) =
    before.bus.regions.filter fun region => region.id = lease.regionId
  handler : after.handlers.lookup lease.regionId = before.handlers.lookup lease.regionId
  otherRegions : after.bus.regions.filter (fun region => region.id ≠ lease.regionId) =
    dispatcher.bus.regions
  otherHandlers : ∀ regionId, regionId ≠ lease.regionId →
    after.handlers.lookup regionId = dispatcher.handlers.lookup regionId

theorem Owned.suspended (owned : dispatcher.Owned owner lease record) {bus handlers} :
    Suspended { dispatcher with
      bus
      handlers
      registrations := dispatcher.registrations.insert lease.generation
        { record with suspendedHandler := some handler } } owner lease handler :=
  ⟨{ record with suspendedHandler := some handler }, { owned with found := lookup_insert _ }, rfl⟩

/-- An unpublished registration holds its addresses and its id. -/
theorem Apart.reserved (apart : dispatcher.Apart) (owned : dispatcher.Owned owner lease record)
    (suspended : record.suspendedHandler.isSome) : dispatcher.Reserved lease := by
  obtain ⟨⟨missing, unused⟩, free⟩ := apart.unpublished _ record owned.found suspended
  rw [owned.regionId_eq] at missing unused
  rw [owned.regions_eq] at free
  refine ⟨missing, unused, fun generation other found different same => different ?_, free,
    fun generation other found different => ?_⟩
  · exact apart.identifiers _ _ other record found owned.found (same.trans owned.regionId_eq.symm)
  · rw [← owned.regions_eq]
    exact apart.regions _ _ record other owned.found found different.symm

/-- An unpublished registration can be published again. -/
theorem Apart.republishes (apart : dispatcher.Apart) (sound : dispatcher.Sound)
    (owned : dispatcher.Owned owner lease record)
    (suspended : record.suspendedHandler = some handler) :
    ((republishOwnedHandler owner lease).outcome dispatcher).1 = .ok () := by
  have held : record.suspendedHandler.isSome := by simp [suspended]
  obtain ⟨unpublished, free⟩ := apart.unpublished _ record owned.found held
  have checked := suspendedRecord_eq_ok.mpr ⟨owned, held, unpublished⟩
  have disjoint : lease.regions.Pairwise fun first second =>
      first.range.overlaps second.range = false := by
    have ordered := List.pairwise_map.mp (sound.ordered _ record owned.found)
    rw [owned.regions_eq] at ordered
    refine ordered.imp fun {lower upper} below => ?_
    rw [← Bool.not_eq_true, GuestMemoryRange.overlaps_iff]
    omega
  rw [owned.regions_eq] at free
  obtain ⟨bus, inserted⟩ :=
    MmioBus.reinsertRegions_isOk lease.regionId sound.sorted free disjoint
  simp only [republishOwnedHandler, Action.outcome_bind, Action.outcome_get, Action.outcome_check,
    checked, inserted, suspended, okOr, Action.outcome_modify]

/-- Publishing again restores what was unpublished. -/
theorem Serves.restores {before} (sound : dispatcher.Sound) (soundBefore : before.Sound)
    (suspended : dispatcher.Suspended owner lease handler)
    (shown : before.handlers.lookup lease.regionId = some handler)
    (shows' : ∀ region, region ∈ before.bus.regions ∧ region.id = lease.regionId ↔
      region ∈ lease.regions)
    (serves : dispatcher.Serves (.republishOwnedHandler owner lease) (.release (.ok ())) next) :
    Restores dispatcher before next lease := by
  cases serves with
  | refuse failed => cases failed
  | @republish _ _ found held bus owned isHeld unpublished sorted members =>
    obtain ⟨record, ownedRecord, stored⟩ := suspended
    obtain rfl := ownedRecord.record_eq owned.found
    obtain rfl : held = handler := Option.some.inj (isHeld.symm.trans stored)
    have identified := sound.identified _ record owned.found
    rw [owned.regions_eq, owned.regionId_eq] at identified
    rw [owned.regions_eq] at members
    obtain ⟨_, unused⟩ := unpublished
    rw [owned.regionId_eq] at unused
    refine ⟨?_, ?_, ?_, ?_⟩
    · refine Ordered.eq_of_mem_iff (sorted.filter _) (soundBefore.sorted.filter _) fun region => ?_
      rw [List.mem_filter, List.mem_filter, decide_eq_true_eq, members, shows' region]
      constructor
      · rintro ⟨own | other, sameId⟩
        · exact own
        · exact absurd sameId (unused region other)
      · intro own
        exact ⟨.inl own, identified region own⟩
    · rw [owned.regionId_eq, lookup_insert, shown]
    · refine Ordered.eq_of_mem_iff (sorted.filter _) sound.sorted fun region => ?_
      rw [List.mem_filter, decide_eq_true_eq, members]
      constructor
      · rintro ⟨own | other, differs⟩
        · exact absurd (identified region own) differs
        · exact other
      · intro other
        exact ⟨.inr other, unused region other⟩
    · intro regionId different
      rw [owned.regionId_eq, lookup_insert_ne different]

end

/-- A failed call changes nothing. After a run whose calls respect the unpublished
registrations, a registration which is unpublished stays reserved while such calls follow and
none of them is served for its lease, and can be published as it was. -/
theorem unpublished_reserved (provenance : Nat) (calls : List (MmioCall H)) :
    (∀ call, (((new provenance).run calls).serve call).1.failed = true →
      (((new provenance).run calls).serve call).2 = (new provenance).run calls) ∧
    ((new provenance).RespectsAll calls →
      ∀ owner lease unpublished,
        (unpublishOwnedHandler owner lease).outcome ((new provenance).run calls) =
          (.ok (), unpublished) →
        ∀ later, unpublished.RespectsAll later → unpublished.Spares lease later →
          (unpublished.run later).Reserved lease ∧
            ∃ restored, (republishOwnedHandler owner lease).outcome (unpublished.run later) =
                (.ok (), restored) ∧
              Restores (unpublished.run later) ((new provenance).run calls) restored lease) := by
  have sound : ((new provenance : MmioDispatcher H).run calls).Sound :=
    (Sound.new provenance).run calls
  refine ⟨fun call => (serve_serves sound call).unchanged, ?_⟩
  intro respects owner lease unpublished outcome later respectsLater spares
  have apart := (Apart.new provenance).run (Sound.new provenance) respects
  have ensures : (unpublishOwnedHandler owner lease).Ensures _ _ _ := unpublish_ensures sound
  unfold Action.Ensures at ensures
  rw [outcome] at ensures
  obtain ⟨withdrawn, handler, owned, published, shown, shows', rfl⟩ := ensures
  have soundUnpublished := sound.serves (.unpublish owned published shown shows')
  have apartUnpublished := apart.unpublish sound handler owned.found shows'
  have soundLater := soundUnpublished.run later
  have apartLater := apartUnpublished.run soundUnpublished respectsLater
  have suspendedLater := owned.suspended.run soundUnpublished spares
  obtain ⟨stored, ownedLater, held⟩ := suspendedLater
  have isOk := apartLater.republishes soundLater ownedLater held
  refine ⟨apartLater.reserved ownedLater (by simp [held]), _, Prod.ext isOk rfl, ?_⟩
  have serves := serve_serves soundLater (.republishOwnedHandler owner lease)
  change Serves _ _ (.release ((republishOwnedHandler owner lease).outcome _).1) _ at serves
  rw [isOk] at serves
  rw [owned.regionId_eq] at shown
  have showsLease := shows'
  rw [Shows, owned.regionId_eq, owned.regions_eq] at showsLease
  exact serves.restores soundLater sound ⟨stored, ownedLater, held⟩ shown showsLease

/-- The lease of a page, which owner 7 registers first. -/
def pageLease : MmioRegistrationLease where
  dispatcher := 0
  owner := 7
  generation := 0
  regionId := 1
  regions := [⟨1, ⟨0x1000, 0x1000, Nat.two_pow_pos 12, by decide⟩⟩]

/-- The page is unpublished. -/
def onePageUnpublished : MmioDispatcher Unit :=
  onePage.run [.unpublishOwnedHandler 7 pageLease]

/-- Another region takes the addresses of an unpublished registration, which then cannot be
published again. -/
theorem unpublished_page_taken :
    ((unpublishOwnedHandler 7 pageLease).outcome onePage).1 = .ok () ∧
      (((insertRegion 2 0x1000 0x1000).outcome onePageUnpublished).1.toOption.map (·.id)) =
        some 2 ∧
      ((republishOwnedHandler 7 pageLease).outcome
        (onePageUnpublished.run [.insertRegion 2 0x1000 0x1000])).1 =
          .error (.registrationMismatch 1) := by
  decide +kernel

/-- A region elsewhere leaves the unpublished page alone, and it can be published again. -/
theorem unpublished_page_reserved :
    (onePageUnpublished.run [.insertRegion 2 0x5000 0x1000]).Reserved pageLease ∧
      ((republishOwnedHandler 7 pageLease).outcome
        (onePageUnpublished.run [.insertRegion 2 0x5000 0x1000])).1 = .ok () := by
  have outcome : (unpublishOwnedHandler 7 pageLease).outcome onePage =
      (.ok (), onePageUnpublished) := Prod.ext (by decide +kernel) rfl
  have elsewhere : onePageUnpublished.Respects (.insertRegion 2 0x5000 0x1000) := by
    intro generation record found _
    have clear : ∀ record ∈ onePageUnpublished.registrations.values, ∀ region ∈ record.regions,
        ¬ Meets 0x5000 0x1000 region := by decide +kernel
    exact clear record (Table.mem_values_of_lookup found)
  have spares : onePageUnpublished.Spares pageLease [.insertRegion 2 0x5000 0x1000] := by
    rintro call reply member - other
    obtain ⟨rfl, -⟩ : call = .insertRegion 2 0x5000 0x1000 ∧ _ := by simpa [history] using member
    exact (Option.some_ne_none _).symm
  have first : (new 0).Respects registerPage := by
    intro generation record found
    cases found
  obtain ⟨reserved, restored, republished, -⟩ := (unpublished_reserved 0 [registerPage]).2
    ⟨first, trivial⟩ 7 pageLease onePageUnpublished outcome [.insertRegion 2 0x5000 0x1000]
    ⟨elsewhere, trivial⟩ spares
  exact ⟨reserved, by rw [republished]⟩

/-- Only the owner of a live registration is served. -/
theorem Serves.owned (serves : dispatcher.Serves call reply next) (sound : dispatcher.Sound)
    (presents : call.presents = some (owner, lease)) (served : reply.failed = false) :
    (∃ record, dispatcher.Owned owner lease record) ∧
      (call.releases = true → next.Released lease) := by
  cases serves with
  | refuse failed => cases served.symm.trans failed
  | insertRegion | registerHandler | registerOwnedHandler => cases presents
  | unpublish owned | republish owned =>
    cases presents
    exact ⟨⟨_, owned⟩, nofun⟩
  | release owned | releaseOwned owned =>
    cases presents
    exact ⟨⟨_, owned⟩, fun _ => ⟨sound.generation_lt owned.found, lookup_erase _ _⟩⟩

/-- A lease serves nobody but its owner, and once it is released it serves nobody, whatever
was registered since. -/
theorem released_lease_refused (provenance : Nat) (calls later : List (MmioCall H))
    {first second : MmioCall H} (presents : first.presents = some (owner, lease))
    (served : (((new provenance).run calls).serve first).1.failed = false) :
    owner = lease.owner ∧ (first.releases = true → ∀ other, second.presents = some (other, lease) →
      let after := (((new provenance).run calls).serve first).2.run later
      (after.serve second).1.failed = true ∧ (after.serve second).2 = after) := by
  have sound := (Sound.new provenance).run calls
  have serves := serve_serves sound first
  obtain ⟨⟨record, owned⟩, releases⟩ := serves.owned sound presents served
  refine ⟨owned.owner_eq, fun isRelease other again => ?_⟩
  intro after
  have soundLater : after.Sound := (sound.serves serves).run later
  have gone : after.Released lease := (releases isRelease).run (sound.serves serves) later
  have answers := serve_serves soundLater second
  have refused : (after.serve second).1.failed = true := by
    by_contra served
    obtain ⟨⟨record, owned⟩, -⟩ := answers.owned soundLater again (Bool.eq_false_iff.mpr served)
    cases gone.erased.symm.trans owned.found
  exact ⟨refused, answers.unchanged refused⟩

/-- The page is registered again under a new lease, and the old one is refused. -/
theorem released_page_refused :
    ((onePage.run [.releaseOwnedHandler 7 pageLease, .registerOwnedHandler ⟨true, true⟩ 7 1
      [⟨0x1000, 0x1000⟩] ()]).serve (.unpublishOwnedHandler 7 pageLease)).1.failed = true :=
  ((released_lease_refused 0 _ [.registerOwnedHandler ⟨true, true⟩ 7 1 [⟨0x1000, 0x1000⟩] ()] rfl
    (show (onePage.serve (.releaseOwnedHandler 7 pageLease)).1.failed = false by decide +kernel)).2
    rfl 7 rfl).1

end MmioDispatcher
end Bangbang.Mmio
