import Bangbang.Mmio.Registrations

/-!
# Routing

After any calls, a lookup finds the region around an access when there is one, and an
operation reaches the published handler of its region exactly when its access is the one
which a lookup finds now.
-/

namespace Bangbang.Mmio

open Memory Bangbang.Action

variable {H : Type}

/-- The one invocation of a handler by an operation, and what is reported of it. -/
def MmioOperation.invoke (behaviour : HandlerBehaviour H) (operation : MmioOperation) (handler : H) :
    Except MmioDispatchError MmioDispatchOutcome × H :=
  match operation with
  | .read access data =>
    let (result, handler) := behaviour.read handler access
    (do
      let answer ← result.mapError (.handlerFailed access.regionId .read)
      rejectIf (answer.len ≠ data.len) (.readDataLengthMismatch access data.len answer.len)
      return .read answer, handler)
  | .write access data =>
    let (result, handler) := behaviour.write handler access data
    (do
      result.mapError (.handlerFailed access.regionId .write)
      return .write, handler)

namespace MmioDispatcher

variable {dispatcher : MmioDispatcher H} {operation : MmioOperation} {handler : H}
  {behaviour : HandlerBehaviour H}

/-- The calls one after the other. -/
def run (dispatcher : MmioDispatcher H) (calls : List (MmioCall H)) : MmioDispatcher H :=
  calls.foldl (fun dispatcher call => (dispatcher.serve call).2) dispatcher

/-- The calls of a run with their replies, the oldest first. -/
def history (dispatcher : MmioDispatcher H) : List (MmioCall H) → List (MmioCall H × MmioReply)
  | [] => []
  | call :: calls => (call, (dispatcher.serve call).1) :: (dispatcher.serve call).2.history calls

/-- Every run keeps the dispatcher sound. -/
theorem Sound.run (sound : dispatcher.Sound) (calls : List (MmioCall H)) :
    (dispatcher.run calls).Sound := by
  induction calls generalizing dispatcher with
  | nil => exact sound
  | cons call calls ih => exact ih (sound.serves (serve_serves sound call))

end MmioDispatcher

/-- A region with the identifier and the addresses which a call asks for. -/
def Requested (id : MmioRegionId) (start size : Nat) (region : MmioRegion) : Prop :=
  region.id = id ∧ region.range.start = start ∧ region.range.size = size

/-- What served calls have published: regions, the handler of each identifier, and, for each
registration which was unpublished, the regions and the handler which it withdrew. -/
structure Publication (H : Type) where
  regions : MmioRegion → Prop
  handlers : MmioRegionId → Option H
  withdrawn : Nat → (MmioRegion → Prop) × Option H

namespace Publication

/-- Nothing is published. -/
def empty : Publication H where
  regions _ := False
  handlers _ := none
  withdrawn _ := (fun _ => False, none)

section
variable (publication : Publication H) (id : MmioRegionId)

/-- Regions are added, and the handler of an identifier is set. -/
def publish (regions : MmioRegion → Prop) (handler : Option H) : Publication H :=
  { publication with
    regions := fun region => regions region ∨ publication.regions region
    handlers := Function.update publication.handlers id handler }

/-- The regions and the handler of an identifier are taken away. -/
def withdraw : Publication H :=
  { publication with
    regions := fun region => publication.regions region ∧ region.id ≠ id
    handlers := Function.update publication.handlers id none }

/-- What a served call publishes and withdraws. -/
def after : MmioCall H → Publication H
  | .insertRegion id start size =>
    publication.publish id (Requested id start size) (publication.handlers id)
  | .registerHandler id handler => publication.publish id (fun _ => False) (some handler)
  | .registerOwnedHandler _ _ id requests handler =>
    publication.publish id
      (fun region => ∃ request ∈ requests, Requested id request.start request.size region)
      (some handler)
  | .unpublishOwnedHandler _ lease =>
    { publication.withdraw lease.regionId with
      withdrawn := Function.update publication.withdrawn lease.generation
        (fun region => publication.regions region ∧ region.id = lease.regionId,
          publication.handlers lease.regionId) }
  | .republishOwnedHandler _ lease =>
    publication.publish lease.regionId (publication.withdrawn lease.generation).1
      (publication.withdrawn lease.generation).2
  | .releaseUnpublishedHandler _ _ => publication
  | .releaseOwnedHandler _ lease => publication.withdraw lease.regionId

/-- A call which failed publishes nothing. -/
def replay (entry : MmioCall H × MmioReply) : Publication H :=
  if entry.2.failed then publication else publication.after entry.1

end

/-- The dispatcher has published what the calls say. -/
structure Agrees (publication : Publication H) (dispatcher : MmioDispatcher H) : Prop where
  regions : ∀ region, region ∈ dispatcher.bus.regions ↔ publication.regions region
  handlers : ∀ id, dispatcher.handlers.lookup id = publication.handlers id
  withdrawn : ∀ generation record handler,
    dispatcher.registrations.lookup generation = some record →
      record.suspendedHandler = some handler →
        (publication.withdrawn generation).2 = some handler ∧
          ∀ region, region ∈ record.regions ↔ (publication.withdrawn generation).1 region

variable {publication : Publication H} {dispatcher next : MmioDispatcher H} {call : MmioCall H}
  {reply : MmioReply}

theorem requested_iff {region other : MmioRegion} {id : MmioRegionId} {start size : Nat}
    (isId : region.id = id) (starts : region.range.start = start)
    (sized : region.range.size = size) : other = region ↔ Requested id start size other := by
  subst isId starts sized
  refine ⟨?_, fun ⟨sameId, sameStart, sameSize⟩ =>
    MmioBus.MmioRegion.ext_of_range sameId sameStart sameSize⟩
  rintro rfl
  exact ⟨rfl, rfl, rfl⟩

section
variable {handlers : Table MmioRegionId H}
  (same : ∀ id, handlers.lookup id = publication.handlers id)
include same

theorem lookup_insert_handler (id : MmioRegionId) (handler : H) (other : MmioRegionId) :
    (handlers.insert id handler).lookup other =
      Function.update publication.handlers id (some handler) other := by
  by_cases isId : other = id
  · rw [isId, AList.lookup_insert, Function.update_self]
  · rw [AList.lookup_insert_ne isId, Function.update_of_ne isId, same]

theorem lookup_erase_handler (id other : MmioRegionId) :
    (handlers.erase id).lookup other = Function.update publication.handlers id none other := by
  by_cases isId : other = id
  · rw [isId, AList.lookup_erase, Function.update_self]
  · rw [AList.lookup_erase_ne isId, Function.update_of_ne isId, same]

end

/-- The regions which remain are those of other identifiers. -/
theorem Agrees.mem_removed {record : MmioRegistrationRecord H} (agrees : publication.Agrees dispatcher)
    (shows' : dispatcher.Shows record) (region : MmioRegion) :
    region ∈ (dispatcher.bus.removeExactRegions record.regions).regions ↔
      publication.regions region ∧ region.id ≠ record.regionId := by
  rw [MmioDispatcher.mem_removeExactRegions, ← agrees.regions, ← shows' region]
  tauto

/-- What a call does to the dispatcher it does to the publication. -/
theorem Agrees.serves (agrees : publication.Agrees dispatcher)
    (serves : dispatcher.Serves call reply next) :
    (publication.replay (call, reply)).Agrees next := by
  cases serves with
  | refuse failed =>
    rw [replay, if_pos failed]
    exact agrees
  | insertRegion unleased isId starts sized sorted members =>
    refine ⟨fun other => ?_, fun other => ?_, agrees.withdrawn⟩
    · rw [members, agrees.regions, requested_iff isId starts sized]
      rfl
    · rw [agrees.handlers]
      exact (congrFun (Function.update_eq_self _ _) other).symm
  | registerHandler unleased absent =>
    refine ⟨fun other => ?_, lookup_insert_handler agrees.handlers _ _, agrees.withdrawn⟩
    rw [agrees.regions]
    exact (false_or _).to_iff.symm
  | registerOwnedHandler unpublished sorted ordered valid complete apart members =>
    refine ⟨fun other => ?_, lookup_insert_handler agrees.handlers _ _,
      fun generation record handler found suspended => ?_⟩
    · rw [members, agrees.regions]
      refine or_congr_left ⟨fun isRegion => ?_, ?_⟩
      · obtain ⟨isId, request, isRequest, same⟩ := valid other isRegion
        exact ⟨request, isRequest, isId, same⟩
      · rintro ⟨request, isRequest, asked⟩
        obtain ⟨region, isRegion, isId, starts, sized⟩ := complete request isRequest
        rwa [(requested_iff isId starts sized).mpr asked]
    · rcases Table.lookup_insert_eq_some.mp found with ⟨_, rfl⟩ | ⟨_, older⟩
      · cases suspended
      · exact agrees.withdrawn generation record handler older suspended
  | @unpublish _ lease record handler owned published found shows' =>
    rw [owned.regionId_eq] at found
    refine ⟨fun other => ?_, ?_, fun generation entry kept isEntry suspended => ?_⟩
    · rw [agrees.mem_removed shows', owned.regionId_eq]
      rfl
    · rw [owned.regionId_eq]
      exact lookup_erase_handler agrees.handlers lease.regionId
    · simp only [replay, MmioReply.failed, Bool.false_eq_true, if_false, after]
      rcases Table.lookup_insert_eq_some.mp isEntry with ⟨rfl, rfl⟩ | ⟨different, older⟩
      · rw [Function.update_self]
        refine ⟨?_, fun region => ?_⟩
        · rw [← agrees.handlers, found]
          exact suspended
        · rw [← shows' region, agrees.regions, owned.regionId_eq]
      · rw [Function.update_of_ne different]
        exact agrees.withdrawn generation entry kept older suspended
  | @republish _ lease record handler bus owned suspended unpublished sorted members =>
    obtain ⟨isHandler, isRegions⟩ := agrees.withdrawn _ record handler owned.found suspended
    refine ⟨fun other => ?_, ?_, fun generation entry kept isEntry isSuspended => ?_⟩
    · rw [members, agrees.regions, isRegions]
      rfl
    · rw [owned.regionId_eq]
      simp only [replay, MmioReply.failed, Bool.false_eq_true, if_false, after, publish, isHandler]
      exact lookup_insert_handler agrees.handlers lease.regionId handler
    · rcases Table.lookup_insert_eq_some.mp isEntry with ⟨rfl, rfl⟩ | ⟨different, older⟩
      · cases isSuspended
      · exact agrees.withdrawn generation entry kept older isSuspended
  | release owned =>
    exact ⟨agrees.regions, agrees.handlers, fun generation entry kept isEntry =>
      agrees.withdrawn generation entry kept (Table.lookup_erase_eq_some.mp isEntry).2⟩
  | @releaseOwned _ lease record handler owned found shows' =>
    refine ⟨fun other => ?_, ?_, fun generation entry kept isEntry =>
      agrees.withdrawn generation entry kept (Table.lookup_erase_eq_some.mp isEntry).2⟩
    · rw [agrees.mem_removed shows', owned.regionId_eq]
      rfl
    · rw [owned.regionId_eq]
      exact lookup_erase_handler agrees.handlers lease.regionId

/-- After any calls, the dispatcher has published what the served ones say. -/
theorem Agrees.run (agrees : publication.Agrees dispatcher) (sound : dispatcher.Sound)
    (calls : List (MmioCall H)) :
    ((dispatcher.history calls).foldl replay publication).Agrees (dispatcher.run calls) := by
  induction calls generalizing dispatcher publication with
  | nil => exact agrees
  | cons call calls ih =>
    have serves := MmioDispatcher.serve_serves sound call
    exact ih (agrees.serves serves) (sound.serves serves)

end Publication

namespace MmioDispatcher

variable {dispatcher : MmioDispatcher H} {operation : MmioOperation} {handler : H}
  {behaviour : HandlerBehaviour H} {publication : Publication H}

/-- The access of the operation is what a lookup finds, and its handler is published. -/
structure Reaches (dispatcher : MmioDispatcher H) (publication : Publication H)
    (operation : MmioOperation) (handler : H) : Prop where
  resolved : dispatcher.bus.lookup operation.access.range.start operation.access.range.size =
    .ok operation.access
  published : publication.handlers operation.access.regionId = some handler

/-- What a dispatcher promises for the published regions and handlers. -/
structure Routes (dispatcher : MmioDispatcher H) (publication : Publication H) : Prop where
  sorted : dispatcher.bus.regions.Pairwise fun lower upper =>
    lower.range.endExclusive ≤ upper.range.start
  /-- The bus has the published regions. -/
  members : ∀ region, region ∈ dispatcher.bus.regions ↔ publication.regions region
  /-- A lookup succeeds when one region is around the access. -/
  looksUp : ∀ start size, (∃ access, dispatcher.bus.lookup start size = .ok access) ↔
    0 < size ∧ start + size < wordLimit ∧ ∃! region, publication.regions region ∧
      region.range.start ≤ start ∧ start + size ≤ region.range.endExclusive
  /-- It then names the region and the offset in it. -/
  finds : ∀ start size access, dispatcher.bus.lookup start size = .ok access →
    publication.regions access.region ∧ access.region.range.start ≤ start ∧
      start + size ≤ access.region.range.endExclusive ∧ access.range.start = start ∧
        access.range.size = size ∧ access.offset = start - access.region.range.start
  invokes : ∀ behaviour operation handler, dispatcher.Reaches publication operation handler →
    (dispatch behaviour operation).outcome dispatcher =
      ((operation.invoke behaviour handler).1, { dispatcher with
        handlers := dispatcher.handlers.insert operation.access.regionId
          (operation.invoke behaviour handler).2 })
  /-- An operation which does not reach a handler touches none. -/
  misses : ∀ behaviour operation,
    (∀ handler, ¬ dispatcher.Reaches publication operation handler) →
      ∃ error, (dispatch behaviour operation).outcome dispatcher = (.error error, dispatcher)

theorem validateOperationAccess_eq_ok {access : MmioAccess} {done : Unit} :
    dispatcher.validateOperationAccess access = .ok done ↔
      dispatcher.bus.lookup access.range.start access.range.size = .ok access := by
  simp only [validateOperationAccess, bind_eq_ok, mapError_eq_ok, rejectIf_eq_ok, not_not]
  constructor
  · rintro ⟨resolved, found, rfl⟩
    exact found
  · intro found
    exact ⟨access, found, rfl⟩

section
variable (agrees : publication.Agrees dispatcher)
include agrees

/-- An access which reaches a handler invokes it. -/
theorem dispatch_invokes (reaches : dispatcher.Reaches publication operation handler) :
    (dispatch behaviour operation).outcome dispatcher =
      ((operation.invoke behaviour handler).1, { dispatcher with
        handlers := dispatcher.handlers.insert operation.access.regionId
          (operation.invoke behaviour handler).2 }) := by
  have valid : dispatcher.validateOperationAccess operation.access = .ok () :=
    validateOperationAccess_eq_ok.mpr reaches.resolved
  have found := (agrees.handlers _).trans reaches.published
  obtain ⟨read, write⟩ := behaviour
  cases operation with
  | read access data =>
    simp only [dispatch, outcome_bind, outcome_get, outcome_check, valid,
      found, okOr, outcome_modify, MmioOperation.invoke]
    generalize read handler access = answered
    obtain ⟨error | answer, after⟩ := answered
    · rfl
    · simp only [Except.mapError, ok_bind]
      by_cases differs : answer.len ≠ data.len
      · rw [rejectIf, if_pos differs]
        rfl
      · rw [rejectIf, if_neg differs]
        rfl
  | write access data =>
    simp only [dispatch, outcome_bind, outcome_get, outcome_check, valid,
      found, okOr, outcome_modify, MmioOperation.invoke]
    generalize write handler access data = answered
    obtain ⟨error | answer, after⟩ := answered
    · rfl
    · rfl

/-- An access which reaches no handler fails and changes nothing. -/
theorem dispatch_misses
    (misses : ∀ handler, ¬ dispatcher.Reaches publication operation handler) :
    ∃ error, (dispatch behaviour operation).outcome dispatcher = (.error error, dispatcher) := by
  cases valid : dispatcher.validateOperationAccess operation.access with
  | error error =>
    exact ⟨error, by simp [dispatch, outcome_bind, valid]⟩
  | ok done =>
    have absent : dispatcher.handlers.lookup operation.access.regionId = none := by
      rw [Option.eq_none_iff_forall_ne_some]
      intro handler found
      exact misses handler ⟨validateOperationAccess_eq_ok.mp valid, agrees.handlers _ ▸ found⟩
    exact ⟨_, by simp [dispatch, outcome_bind, valid, absent, okOr]; rfl⟩

/-- A sound dispatcher routes by what it has published. -/
theorem Sound.routes (sound : dispatcher.Sound) : dispatcher.Routes publication := by
  constructor
  case sorted => exact List.pairwise_map.mp sound.sorted
  case members => exact agrees.regions
  case looksUp =>
    intro start size
    simp only [← agrees.regions]
    constructor
    · rintro ⟨access, found⟩
      obtain ⟨positive, bounded, _, _, isRegion, below, above, _⟩ :=
        (MmioBus.lookup_eq_ok sound.sorted).mp found
      refine ⟨positive, bounded, access.region, ⟨isRegion, below, above⟩, ?_⟩
      rintro other ⟨isOther, otherBelow, otherAbove⟩
      have inOther : other.range.contains start = true :=
        GuestMemoryRange.contains_iff.mpr ⟨otherBelow, by omega⟩
      have inRegion : access.region.range.contains start = true :=
        GuestMemoryRange.contains_iff.mpr ⟨below, by omega⟩
      exact Ordered.eq_of_contains sound.sorted isOther isRegion inOther inRegion
    · rintro ⟨positive, bounded, region, ⟨isRegion, below, above⟩, _⟩
      refine ⟨⟨region, ⟨start, size, positive, bounded⟩, start - region.range.start⟩, ?_⟩
      exact (MmioBus.lookup_eq_ok sound.sorted).mpr
        ⟨positive, bounded, rfl, rfl, isRegion, below, above, rfl⟩
  case finds =>
    intro start size access found
    obtain ⟨_, _, starts, sized, isRegion, below, above, isOffset⟩ :=
      (MmioBus.lookup_eq_ok sound.sorted).mp found
    exact ⟨(agrees.regions _).mp isRegion, below, above, starts, sized, isOffset⟩
  case invokes => exact fun behaviour operation handler => dispatch_invokes agrees
  case misses => exact fun behaviour operation => dispatch_misses agrees

end

/-- After any calls, lookups and operations find what the served ones have published. -/
theorem mmio_routing (provenance : Nat) (calls : List (MmioCall H)) :
    ((new provenance).run calls).Routes
      (((new provenance).history calls).foldl Publication.replay .empty) := by
  have sound : (new provenance : MmioDispatcher H).Sound := .new provenance
  have agrees : Publication.empty.Agrees (new provenance : MmioDispatcher H) :=
    ⟨by simp [new, Publication.empty], fun _ => rfl, nofun⟩
  exact (sound.run calls).routes (agrees.run sound calls)

/-- Owner 7 registers one page under identifier 1. -/
def registerPage : MmioCall Unit :=
  .registerOwnedHandler ⟨true, true⟩ 7 1 [⟨0x1000, 0x1000⟩] ()

/-- A dispatcher with one registration. -/
def onePage : MmioDispatcher Unit := (new 0).run [registerPage]

/-- Four bytes which are zero. -/
def zeroWord : MmioAccessBytes := ⟨[0, 0, 0, 0], by decide⟩

/-- A handler which reads as zero and ignores what is written. -/
def zeroReads : HandlerBehaviour Unit where
  read _ _ := (.ok zeroWord, ())
  write _ _ _ := (.ok (), ())

/-- An access inside the registered page is found at its offset and reaches the handler. -/
theorem mmio_routing_one_page : ∃ access, onePage.bus.lookup 0x1004 4 = .ok access ∧
    access.offset = 4 ∧
      ((dispatch zeroReads (.read access zeroWord)).outcome onePage).1 = .ok (.read zeroWord) := by
  have routes := mmio_routing 0 [registerPage]
  have served : ((new 0).serve registerPage).1.failed = false := by decide +kernel
  have published : ((new 0).history [registerPage]).foldl Publication.replay .empty =
      Publication.empty.after registerPage := by
    simp [history, Publication.replay, served]
  rw [published] at routes
  have isRegion : ∀ region, (Publication.empty.after registerPage).regions region ↔
      Requested 1 0x1000 0x1000 region := by
    simp [Publication.after, Publication.publish, Publication.empty, registerPage]
  have found : ∃ access, onePage.bus.lookup 0x1004 4 = .ok access := by
    refine (routes.looksUp 0x1004 4).mpr ⟨by decide, by decide,
      ⟨1, ⟨0x1000, 0x1000, by decide, by decide⟩⟩, ?_, fun other around => ?_⟩
    · exact ⟨(isRegion _).mpr ⟨rfl, rfl, rfl⟩, by decide, by decide⟩
    · exact (Publication.requested_iff rfl rfl rfl).mpr ((isRegion other).mp around.1)
  obtain ⟨access, isAccess⟩ := found
  obtain ⟨region, _, _, starts, sized, isOffset⟩ := routes.finds _ _ access isAccess
  obtain ⟨isId, regionStarts, _⟩ := (isRegion _).mp region
  refine ⟨access, isAccess, by rw [isOffset, regionStarts], ?_⟩
  have reaches : onePage.Reaches (Publication.empty.after registerPage) (.read access zeroWord) () :=
    { resolved := by
        change onePage.bus.lookup access.range.start access.range.size = .ok access
        rw [starts, sized, isAccess]
      published := by
        change (Publication.empty.after registerPage).handlers access.region.id = some ()
        rw [isId]
        rfl }
  rw [onePage, routes.invokes zeroReads _ () reaches]
  rfl

end MmioDispatcher
end Bangbang.Mmio
