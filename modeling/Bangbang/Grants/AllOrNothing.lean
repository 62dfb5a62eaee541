import Bangbang.Grants.StagedBatch

/-!
# Grant batches are all or nothing

`Faithful` says that an unfinished receiver stages what the datagrams accepted so far
carry: their grants under distinct identifiers, identities and singleton roles, each
directory with the concatenation of its own fragments. Every accepted datagram extends
the history, so the registry which a commit hands out holds one exact batch, and whatever
ends the batch leaves nothing staged.
-/

namespace Bangbang.Grants

open Bangbang.Action List

/-- A record which carries a descriptor. -/
def GrantRecord.isGrant : GrantRecord → Bool
  | .descriptor .. | .connectedStream .. | .scopedDirectory .. => true
  | _ => false

/-- A record between the first and the last of a batch. -/
def GrantRecord.isContent : GrantRecord → Bool
  | .begin _ | .commit _ => false
  | _ => true

namespace StagedResource

/-- The role of a staged resource. -/
def role : StagedResource → ResourceRole
  | .file granted => granted.role
  | .stream granted => granted.role
  | .directory staged => staged.role

/-- The object behind a staged resource. -/
def identity : StagedResource → ObjectIdentity
  | .file granted => granted.identity
  | .stream granted => granted.identity
  | .directory staged => staged.identity

/-- The resource with the fragments of its bookmark. -/
def withFragments (fragments : List (List UInt8)) : StagedResource → StagedResource
  | .directory staged =>
    .directory { staged with fragments := fragments.length, bookmark := fragments.flatten }
  | other => other

end StagedResource

section
variable (received : ReceivedGrant) (history : List ReceivedGrant)

/-- The grant which a datagram carries, before any fragment. -/
def grantOf : Option (GrantId × StagedResource) :=
  match received.frame.record, received.descriptor with
  | .descriptor id role access kind identity statusFlags blockDevice, some descriptor =>
    some (id, .file { role, access, kind, identity, statusFlags, blockDevice, descriptor })
  | .connectedStream id role access identity sourceIdentity statusFlags peer, some descriptor =>
    some (id, .stream { role, access, identity, sourceIdentity, statusFlags, peer, descriptor })
  | .scopedDirectory id role access identity bookmarkBytes fragmentCount, some descriptor =>
    some (id, .directory
      { role, access, identity
        anchor := descriptor
        expectedBytes := bookmarkBytes
        expectedFragments := fragmentCount
        fragments := 0
        bookmark := [] })
  | _, _ => none

/-- The fragment which a datagram carries, and the identifier it is for. -/
def fragmentOf : Option (GrantId × List UInt8) :=
  match received.frame.record with
  | .bookmarkFragment id _ bytes => some (id, bytes)
  | _ => none

/-- The grants of a sequence of datagrams, in order. -/
def grants : List (GrantId × StagedResource) := history.filterMap grantOf

/-- The fragments for one identifier, in order. -/
def fragments (id : GrantId) : List (List UInt8) :=
  history.filterMap fun received =>
    (fragmentOf received).bind fun (other, bytes) => if other = id then some bytes else none

/-- The number of bookmark bytes of a sequence of datagrams. -/
def bookmarkBytes : Nat :=
  ((history.filterMap fragmentOf).map fun fragment => fragment.2.length).sum

end

/-- What the registry holds for an identifier whose staged resource is given. -/
def Holds (checks : GrantChecks) (registry : GrantRegistry) (id : GrantId) :
    Option StagedResource → Prop
  | none => registry.files.lookup id = none ∧ registry.streams.lookup id = none ∧
      registry.directories.lookup id = none
  | some (.file granted) => registry.files.lookup id = some granted ∧
      registry.streams.lookup id = none ∧ registry.directories.lookup id = none
  | some (.stream granted) => registry.files.lookup id = none ∧
      registry.streams.lookup id = some granted ∧ registry.directories.lookup id = none
  | some (.directory directory) => registry.files.lookup id = none ∧
      registry.streams.lookup id = none ∧
      ∃ scope, checks.resolve id directory.bookmark = some scope ∧
        checks.validateScopedPath id scope directory.identity directory.access = true ∧
        registry.directories.lookup id =
          some
            { role := directory.role
              access := directory.access
              identity := directory.identity
              anchor := directory.anchor
              scope }

/-- The datagrams are one whole batch, and the registry holds its grants. -/
structure ExactBatch (session : SessionId) (history : List ReceivedGrant) (checks : GrantChecks)
    (committed : CommittedGrantBatch) : Prop where
  /-- One `begin`, then content, then one `commit` with the same declaration, whose counts
  are those of the batch. -/
  framed : ∃ first content last declaration,
    history = first :: content ++ [last] ∧
    first.frame.record = .begin declaration ∧ last.frame.record = .commit declaration ∧
    (∀ received ∈ content, received.frame.record.isContent) ∧
    history.length = declaration.recordCount ∧
    (grants history).length = declaration.grantCount ∧
    bookmarkBytes history = declaration.bookmarkBytes ∧
    committed.grantCount = declaration.grantCount ∧
    committed.finalSequence + 1 = declaration.recordCount
  bound : ∀ received ∈ history,
    received.frame.session = session ∧ received.frame.batch = committed.batch
  numbered : history.map (·.frame.sequence) = range history.length
  carried : ∀ received ∈ history, received.descriptor.isSome = received.frame.record.isGrant
  distinctIds : ((grants history).map Prod.fst).Nodup
  distinctIdentities : ((grants history).map fun grant => grant.2.identity).Nodup
  distinctRoles :
    (((grants history).map fun grant => grant.2.role).filter fun role => !role.isRepeatable).Nodup
  /-- Every fragment of every directory has arrived. -/
  whole : ∀ id directory, (id, .directory directory) ∈ grants history →
    (fragments history id).flatten.length = directory.expectedBytes ∧
      (fragments history id).length = directory.expectedFragments
  held : ∀ id, Holds checks committed.registry id
    (((grants history).lookup id).map (StagedResource.withFragments (fragments history id)))

variable {session : SessionId} {history : List ReceivedGrant} {staged final : StagedGrantBatch}
  {checks : GrantChecks} {received : ReceivedGrant} {id : GrantId}

namespace StagedGrantBatch

/-- The header of the datagram continues the batch. -/
structure Continues (staged : StagedGrantBatch) (received : ReceivedGrant) : Prop where
  session : received.frame.session = staged.session
  sequence : received.frame.sequence = staged.nextSequence
  batch : ∀ batch, staged.batch = some batch → received.frame.batch = batch

section
variable (staged : StagedGrantBatch) (id : GrantId)

/-- The receiver which has counted the datagram. -/
def counted (received : ReceivedGrant) : StagedGrantBatch :=
  { staged with
    batch := staged.batch.or (some received.frame.batch)
    nextSequence := staged.nextSequence + 1
    recordsReceived := staged.recordsReceived + 1 }

/-- The receiver which has staged a grant. -/
def granted (resource : StagedResource) : StagedGrantBatch :=
  { staged with
    identities := resource.identity :: staged.identities
    singletonRoles :=
      if resource.role.isRepeatable then staged.singletonRoles
      else resource.role :: staged.singletonRoles
    entries := staged.entries.insert id resource }

/-- The receiver which has appended a fragment to a staged directory. -/
def extended (directory : StagedDirectory) (bytes : List UInt8) : StagedGrantBatch :=
  { staged with
    entries := staged.entries.insert id (.directory
      { directory with
        bookmark := directory.bookmark ++ bytes
        fragments := directory.fragments + 1 })
    bookmarkBytesReceived := staged.bookmarkBytesReceived + bytes.length }

/-- The batch has begun and its last record is still to come. -/
def IsOpen : Prop :=
  ∃ declaration, staged.declaration = some declaration ∧
    staged.recordsReceived < declaration.recordCount

end

/-- The ways in which a counted datagram can be accepted without ending the batch. -/
inductive Extends (staged : StagedGrantBatch) (received : ReceivedGrant) :
    StagedGrantBatch → Prop where
  | begin (declaration : BatchDeclaration)
      (record : received.frame.record = .begin declaration)
      (bare : received.descriptor = none)
      (first : received.frame.sequence = 0) :
      Extends staged received { staged with declaration := some declaration }
  | grant (id : GrantId) (resource : StagedResource)
      (carried : grantOf received = some (id, resource))
      (isOpen : staged.IsOpen)
      (newId : id ∉ staged.entries)
      (newIdentity : resource.identity ∉ staged.identities)
      (newRole : ¬ resource.role.isRepeatable → resource.role ∉ staged.singletonRoles) :
      Extends staged received (staged.granted id resource)
  | fragment (id : GrantId) (offset : Nat) (bytes : List UInt8) (directory : StagedDirectory)
      (record : received.frame.record = .bookmarkFragment id offset bytes)
      (bare : received.descriptor = none)
      (isOpen : staged.IsOpen)
      (found : staged.entries.lookup id = some (.directory directory)) :
      Extends staged received (staged.extended id directory bytes)

/-- A record is accepted only by an open batch. -/
theorem requireOpenBatch_ensures (staged) :
    Ensures requireOpenBatch staged (fun _ final => final = staged ∧ staged.IsOpen)
      fun _ _ => True := by
  simp only [requireOpenBatch, ensures_bind, ensures_get, ensures_okOr,
    ensures_rejectIf, implies_true, true_and]
  exact fun declaration declared isOpen => ⟨declaration, declared, Nat.not_le.mp isOpen⟩

/-- A grant is entered with an id, an identity and a single-use role which are new. -/
theorem insertIdentityRole_ensures (staged id resource) :
    Ensures (do
        insertIdentityRole id resource.role resource.identity
        insertEntry id resource) staged
      (fun _ final => final = staged.granted id resource ∧ id ∉ staged.entries ∧
        resource.identity ∉ staged.identities ∧
        (¬ resource.role.isRepeatable → resource.role ∉ staged.singletonRoles))
      fun _ _ => True := by
  simp only [insertIdentityRole, insertEntry, ensures_bind, ensures_get,
    ensures_rejectIf, ensures_modify, implies_true, true_and]
  intro newId newIdentity
  by_cases repeatable : resource.role.isRepeatable
  · rw [if_pos repeatable, ensures_pure]
    exact ⟨by simp [granted, repeatable], newId, newIdentity, fun single => absurd repeatable single⟩
  · rw [if_neg repeatable]
    simp only [ensures_bind, ensures_rejectIf, ensures_modify, implies_true, true_and]
    exact fun newRole => ⟨by simp [granted, repeatable], newId, newIdentity, fun _ => newRole⟩

/-- A grant which passes its checks is staged. -/
theorem insertGrant_ensures (resource) (carried : grantOf received = some (id, resource))
    (isOpen : staged.IsOpen) :
    Ensures (insertIdentityRole id resource.role resource.identity) staged
      (fun _ middle => Ensures (insertEntry id resource) middle
        (fun _ final => Extends staged received final) fun _ _ => True) fun _ _ => True :=
  ensures_bind.mp <| (insertIdentityRole_ensures staged id resource).mono
    (fun _ _ ⟨same, newId, newIdentity, newRole⟩ =>
      same ▸ .grant id resource carried isOpen newId newIdentity newRole)
    fun _ _ _ => trivial

variable {declaration : BatchDeclaration}

/-- The first record declares the batch. -/
theorem acceptBegin_ensures (staged) (record : received.frame.record = .begin declaration) :
    Ensures (acceptBegin received declaration) staged
      (fun _ final => Extends staged received final) fun _ _ => True := by
  simp only [acceptBegin, ensures_bind, ensures_get, ensures_rejectIf,
    ensures_modify, implies_true, true_and, not_or, not_not, Bool.not_eq_true,
    Option.isSome_eq_false_iff, Option.isNone_iff_eq_none]
  rintro ⟨first, bare, -⟩
  exact .begin declaration record bare first

/-- What comes after the check that a batch is open. -/
theorem openBatch_ensures {rest : Receiver Unit}
    (continues : staged.IsOpen → Ensures rest staged
      (fun _ final => Extends staged received final) fun _ _ => True) :
    Ensures (do requireOpenBatch; rest) staged
      (fun _ final => Extends staged received final) fun _ _ => True := by
  rw [ensures_bind]
  refine (requireOpenBatch_ensures staged).mono ?_ fun _ _ _ => trivial
  rintro _ _ ⟨rfl, isOpen⟩
  exact continues isOpen

theorem stagedDirectory_eq_some {directory} :
    staged.stagedDirectory id = some directory ↔
      staged.entries.lookup id = some (.directory directory) := by
  unfold stagedDirectory
  split <;> simp_all

/-- A fragment extends the bookmark of its directory. -/
theorem acceptBookmarkFragment_ensures (staged) {offset : Nat} {bytes : List UInt8}
    (record : received.frame.record = .bookmarkFragment id offset bytes) :
    Ensures (acceptBookmarkFragment received id offset bytes) staged
      (fun _ final => Extends staged received final) fun _ _ => True := by
  refine openBatch_ensures fun isOpen => ?_
  simp only [ensures_bind, ensures_get, ensures_rejectIf, ensures_okOr,
    insertEntry, ensures_modify, implies_true, true_and, stagedDirectory_eq_some, not_or,
    Bool.not_eq_true, Option.isSome_eq_false_iff, Option.isNone_iff_eq_none]
  rintro ⟨bare, -⟩ directory found _ _ _ _ _ _
  rw [AList.insert_insert]
  exact .fragment id offset bytes directory record bare isOpen found

/-- A counted datagram which commits the batch. -/
structure Commits (checks : GrantChecks) (staged : StagedGrantBatch) (received : ReceivedGrant)
    (committed : CommittedGrantBatch) : Prop where
  bare : received.descriptor = none
  declared : ∃ declaration, staged.declaration = some declaration ∧
    received.frame.record = .commit declaration ∧
    staged.recordsReceived = declaration.recordCount ∧
    staged.entries.size = declaration.grantCount ∧
    staged.bookmarkBytesReceived = declaration.bookmarkBytes ∧
    committed.grantCount = declaration.grantCount
  complete : ∀ resource ∈ staged.entries.values, StagedGrantBatch.complete resource
  adopted : staged.entries.entries.foldlM
    (fun registry entry => adopt checks registry entry.1 entry.2) ⟨∅, ∅, ∅⟩ = .ok committed.registry
  batch : staged.batch = some committed.batch
  finalSequence : committed.finalSequence = received.frame.sequence

/-- A commit takes the whole batch. -/
theorem commit_ensures (staged) (record : received.frame.record = .commit declaration)
    (bare : received.descriptor = none) :
    Ensures (commit checks declaration received.frame.sequence) staged
      (fun committed final => Commits checks staged received committed ∧ final.entries = ∅)
      fun _ _ => True := by
  simp only [commit, ensures_bind, ensures_get, ensures_check,
    ensures_modify, ensures_pure, okOr_eq_ok, rejectIf_eq_ok, implies_true, true_and,
    not_or, not_not, ne_eq]
  rintro expected declared - ⟨rfl, records, grants, bytes⟩ - complete registry adopted batch found
  exact ⟨⟨bare, ⟨_, declared, record, records, grants, bytes, rfl⟩, complete, adopted, found, rfl⟩,
    trivial⟩

/-- A frame is counted when it continues the batch. -/
theorem advance_ensures (staged received) :
    Ensures (advance received) staged
      (fun _ final => final = staged.counted received ∧ Continues staged received)
      fun _ _ => True := by
  simp only [advance, ensures_bind, ensures_get, ensures_okOr,
    ensures_rejectIf, ensures_modify, implies_true, true_and, not_or, not_not, ne_eq,
    checkedAdd_eq_some]
  rintro ⟨session, sequence, batch, -⟩ _ ⟨-, rfl⟩ -
  refine ⟨rfl, session, sequence, fun found known => ?_⟩
  by_contra other
  exact batch (by simp [known, other])

/-- What an accepted datagram does to a receiver: it continues the batch or commits it. -/
def Accepts (checks : GrantChecks) (staged : StagedGrantBatch) (received : ReceivedGrant) :
    Option CommittedGrantBatch → StagedGrantBatch → Prop
  | none, final => Extends staged received final
  | some committed, final => Commits checks staged received committed ∧ final.entries = ∅

/-- An accepted record extends the batch or commits it. -/
theorem acceptRecord_ensures (checks staged received) :
    Ensures (acceptRecord checks received) staged (Accepts checks staged received)
      fun _ _ => True := by
  unfold acceptRecord
  split <;> simp only [Action.ensures_bind, Action.ensures_pure]
  case h_1 record => exact acceptBegin_ensures staged record
  -- The three kinds of grants differ in their checks and in what they stage.
  case h_2 id role access kind identity statusFlags blockDevice record =>
    refine openBatch_ensures fun isOpen => ?_
    simp only [Action.ensures_bind, Action.ensures_rejectIf, Action.ensures_okOr, implies_true,
      true_and]
    intro _ descriptor carried _
    exact insertGrant_ensures
      (.file { role, access, kind, identity, statusFlags, blockDevice, descriptor })
      (by simp only [grantOf, record, carried]) isOpen
  case h_3 id role access identity sourceIdentity statusFlags peer record =>
    refine openBatch_ensures fun isOpen => ?_
    simp only [Action.ensures_bind, Action.ensures_rejectIf, Action.ensures_okOr, implies_true,
      true_and]
    intro _ descriptor carried _ _
    exact insertGrant_ensures
      (.stream { role, access, identity, sourceIdentity, statusFlags, peer, descriptor })
      (by simp only [grantOf, record, carried]) isOpen
  case h_4 id role access identity bookmarkBytes fragmentCount record =>
    refine openBatch_ensures fun isOpen => ?_
    simp only [Action.ensures_bind, Action.ensures_rejectIf, Action.ensures_okOr, implies_true,
      true_and]
    intro _ descriptor carried _
    exact insertGrant_ensures
      (.directory ⟨role, access, identity, descriptor, bookmarkBytes, fragmentCount, 0, []⟩)
      (by simp only [grantOf, record, carried]) isOpen
  case h_5 record => exact acceptBookmarkFragment_ensures staged record
  case h_6 record =>
    simp only [Action.ensures_rejectIf, implies_true, true_and, Bool.not_eq_true,
      Option.isSome_eq_false_iff, Option.isNone_iff_eq_none]
    exact fun bare => commit_ensures staged record bare

theorem acceptInner_ensures (checks staged received) :
    Ensures (acceptInner checks received) staged
      (fun result final => Continues staged received ∧
        Accepts checks (staged.counted received) received result final) fun _ _ => True := by
  rw [acceptInner, ensures_bind]
  refine (advance_ensures staged received).mono ?_ fun _ _ _ => trivial
  rintro _ _ ⟨rfl, continues⟩
  exact (acceptRecord_ensures checks _ received).mono (fun _ _ accepts => ⟨continues, accepts⟩)
    fun _ _ _ => trivial

end StagedGrantBatch

/-! ## The history of a receiver -/

section

/-- A frame adds the grant which it carries. -/
theorem grants_append (history received) :
    grants (history ++ [received]) = grants history ++ (grantOf received).toList := by
  rw [grants, filterMap_append, grants]
  cases carried : grantOf received <;> simp [carried]

theorem grants_append_of_none (bare : grantOf received = none) :
    grants (history ++ [received]) = grants history := by
  rw [grants_append, bare, Option.toList_none, append_nil]

theorem fragments_append_of_none (other : fragmentOf received = none) (id) :
    fragments (history ++ [received]) id = fragments history id := by
  simp [fragments, other]

theorem bookmarkBytes_append_of_none (other : fragmentOf received = none) :
    bookmarkBytes (history ++ [received]) = bookmarkBytes history := by
  simp [bookmarkBytes, other]

variable {resource}

/-- A grant is found under its identifier when the identifiers are distinct. -/
theorem lookup_of_mem {entries : List (GrantId × StagedResource)}
    (distinct : (entries.map Prod.fst).Nodup) (member : (id, resource) ∈ entries) :
    entries.lookup id = some resource := by
  obtain ⟨before, after, rfl⟩ := append_of_mem member
  refine lookup_eq_some_iff.mpr ⟨before, after, rfl, fun entry earlier => ?_⟩
  rw [map_append, map_cons, nodup_middle, nodup_cons] at distinct
  simp only [bne_iff_ne, ne_eq]
  rintro rfl
  have present : entry.1 ∈ before.map Prod.fst := mem_map_of_mem earlier
  exact distinct.1 (mem_append_left _ present)

variable {grant : GrantId × StagedResource}

section
variable (carried : grantOf received = some grant)
include carried

theorem fragmentOf_eq_none : fragmentOf received = none := by
  unfold grantOf at carried
  unfold fragmentOf
  split at carried <;> simp_all

theorem isGrant_of_grantOf : received.frame.record.isGrant ∧ received.descriptor.isSome := by
  unfold grantOf at carried
  split at carried <;> simp_all [GrantRecord.isGrant]

/-- A record which carries a grant is content. -/
theorem isContent_of_grantOf : received.frame.record.isContent := by
  unfold grantOf at carried
  split at carried <;> simp_all [GrantRecord.isContent]

end

/-- A carried resource has no fragment yet. -/
theorem withFragments_nil (carried : grantOf received = some (id, resource)) :
    resource.withFragments [] = resource := by
  unfold grantOf at carried
  split at carried <;> simp_all [StagedResource.withFragments]
  all_goals
    obtain ⟨-, rfl⟩ := carried
    rfl

end

/-- The datagrams so far are of the receiver's session and batch, and counted. -/
structure Numbered (session : SessionId) (history : List ReceivedGrant)
    (staged : StagedGrantBatch) : Prop where
  boundSession : staged.session = session
  sessions : ∀ received ∈ history, received.frame.session = session
  batches : ∀ received ∈ history, staged.batch = some received.frame.batch
  nextSequence : staged.nextSequence = history.length
  numbered : history.map (·.frame.sequence) = range history.length
  recordsReceived : staged.recordsReceived = history.length

/-- The datagrams so far are a `begin` and content. -/
def Begun (history : List ReceivedGrant) (staged : StagedGrantBatch) : Prop :=
  match history with
  | [] => staged.declaration = none
  | first :: content => ∃ declaration, first.frame.record = .begin declaration ∧
      staged.declaration = some declaration ∧
      ∀ received ∈ content, received.frame.record.isContent

/-- The receiver stages the grants of the datagrams so far, each with its fragments. -/
structure Stages (history : List ReceivedGrant) (staged : StagedGrantBatch) : Prop where
  received : staged.bookmarkBytesReceived = bookmarkBytes history
  size : staged.entries.size = (grants history).length
  entries : ∀ id, staged.entries.lookup id =
    ((grants history).lookup id).map (StagedResource.withFragments (fragments history id))
  /-- A fragment follows the directory which it is for. -/
  owned : ∀ id, (grants history).lookup id = none → fragments history id = []
  distinctIds : ((grants history).map Prod.fst).Nodup
  identities : staged.identities = ((grants history).map fun grant => grant.2.identity).reverse
  distinctIdentities : ((grants history).map fun grant => grant.2.identity).Nodup
  singletonRoles : staged.singletonRoles =
    (((grants history).map fun grant => grant.2.role).filter fun role => !role.isRepeatable).reverse
  distinctRoles :
    (((grants history).map fun grant => grant.2.role).filter fun role => !role.isRepeatable).Nodup

/-- An unfinished receiver stages what the accepted datagrams carry. -/
structure Faithful (session : SessionId) (history : List ReceivedGrant)
    (staged : StagedGrantBatch) : Prop where
  fresh : staged.poisoned = false
  numbered : Numbered session history staged
  begun : Begun history staged
  carried : ∀ received ∈ history, received.descriptor.isSome = received.frame.record.isGrant
  stages : Stages history staged

section

open StagedGrantBatch

/-- A new batch is faithful to no frames. -/
theorem Faithful.new (session) : Faithful session [] (StagedGrantBatch.new session) where
  fresh := rfl
  numbered := by constructor <;> simp [StagedGrantBatch.new]
  begun := rfl
  carried _ absent := absurd absent not_mem_nil
  stages := by
    constructor <;> simp [StagedGrantBatch.new, grants, bookmarkBytes, fragments]

/-- A counted frame is the next one. -/
theorem Numbered.counted (numbered : Numbered session history staged)
    (continues : Continues staged received) :
    Numbered session (history ++ [received]) (staged.counted received) where
  boundSession := numbered.boundSession
  sessions := by
    simp only [mem_append, mem_singleton]
    rintro other (earlier | rfl)
    · exact numbered.sessions other earlier
    · exact continues.session.trans numbered.boundSession
  batches := by
    simp only [mem_append, mem_singleton, StagedGrantBatch.counted]
    rintro other (earlier | rfl)
    · rw [numbered.batches other earlier, Option.some_or]
    · cases known : staged.batch with
      | none => rfl
      | some batch => rw [Option.some_or, continues.batch batch known]
  nextSequence := by simp [StagedGrantBatch.counted, numbered.nextSequence]
  numbered := by
    rw [map_append, numbered.numbered, length_append, length_singleton,
      range_succ, map_singleton, continues.sequence, numbered.nextSequence]
  recordsReceived := by simp [StagedGrantBatch.counted, numbered.recordsReceived]

/-- Staging changes nothing which the header is checked against. -/
theorem Numbered.extend (numbered : Numbered session history staged)
    (step : Extends staged received final) : Numbered session history final := by
  cases step <;> exact ⟨numbered.boundSession, numbered.sessions, numbered.batches,
    numbered.nextSequence, numbered.numbered, numbered.recordsReceived⟩

/-- Only content follows while the batch is open. -/
theorem Begun.content (begun : Begun history staged) (isOpen : staged.IsOpen)
    (same : final.declaration = staged.declaration) (content : received.frame.record.isContent) :
    Begun (history ++ [received]) final := by
  obtain ⟨declaration, declared, -⟩ := isOpen
  cases history with
  | nil =>
    have absent : staged.declaration = none := begun
    rw [absent] at declared
    cases declared
  | cons first rest =>
    obtain ⟨expected, record, known, inside⟩ := begun
    refine ⟨expected, record, same.trans known, ?_⟩
    intro other member
    rcases mem_append.mp member with earlier | latest
    · exact inside other earlier
    · exact mem_singleton.mp latest ▸ content

/-- The declaration is staged. -/
theorem Stages.begin (stages : Stages history staged) {declaration}
    (record : received.frame.record = .begin declaration) :
    Stages (history ++ [received]) { staged with declaration := some declaration } := by
  have bare : grantOf received = none := by simp [grantOf, record]
  have other : fragmentOf received = none := by simp [fragmentOf, record]
  constructor <;> simp only [grants_append_of_none bare, fragments_append_of_none other,
    bookmarkBytes_append_of_none other]
  · exact stages.received
  · exact stages.size
  · exact stages.entries
  · exact stages.owned
  · exact stages.distinctIds
  · exact stages.identities
  · exact stages.distinctIdentities
  · exact stages.singletonRoles
  · exact stages.distinctRoles

section
variable (stages : Stages history staged)
include stages

/-- A grant is staged beside those before it. -/
theorem Stages.grant {resource} (carried : grantOf received = some (id, resource))
    (newId : id ∉ staged.entries) (newIdentity : resource.identity ∉ staged.identities)
    (newRole : ¬ resource.role.isRepeatable → resource.role ∉ staged.singletonRoles) :
    Stages (history ++ [received]) (staged.granted id resource) := by
  have more : grants (history ++ [received]) = grants history ++ [(id, resource)] := by
    rw [grants_append, carried, Option.toList_some]
  have other := fragmentOf_eq_none carried
  have absent : (grants history).lookup id = none := by
    have missing := stages.entries id
    rw [AList.lookup_eq_none.mpr newId] at missing
    simpa using missing.symm
  have fresh : id ∉ (grants history).map Prod.fst := by
    intro present
    obtain ⟨entry, member, rfl⟩ := mem_map.mp present
    simpa using lookup_eq_none_iff.mp absent entry member
  constructor <;> simp only [more, fragments_append_of_none other,
    bookmarkBytes_append_of_none other]
  · exact stages.received
  · rw [length_append, length_singleton, ← stages.size]
    exact Table.size_insert (AList.lookup_eq_none.mpr newId)
  · intro other
    rw [lookup_append]
    by_cases here : other = id
    · subst here
      rw [absent, stages.owned other absent]
      simp [granted, withFragments_nil carried]
    · rw [show ([(id, resource)] : List (GrantId × StagedResource)).lookup other = none by
        simp [lookup_cons, beq_false_of_ne here], Option.or_none, ← stages.entries other]
      exact AList.lookup_insert_ne here
  · intro other missing
    rw [lookup_append, Option.or_eq_none_iff] at missing
    exact stages.owned other missing.1
  · rw [map_append, map_singleton, nodup_append_comm, singleton_append, nodup_cons]
    exact ⟨fresh, stages.distinctIds⟩
  · simp [granted, stages.identities]
  · rw [map_append, map_singleton, nodup_append_comm, singleton_append, nodup_cons]
    rw [stages.identities, mem_reverse] at newIdentity
    exact ⟨newIdentity, stages.distinctIdentities⟩
  · by_cases repeatable : resource.role.isRepeatable <;>
      simp [granted, repeatable, stages.singletonRoles]
  · rw [map_append, map_singleton, filter_append]
    by_cases repeatable : resource.role.isRepeatable
    · simpa [repeatable] using stages.distinctRoles
    · rw [filter_cons_of_pos (by simp [repeatable]), filter_nil, nodup_append_comm,
        singleton_append, nodup_cons]
      have unseen := newRole repeatable
      rw [stages.singletonRoles, mem_reverse] at unseen
      exact ⟨unseen, stages.distinctRoles⟩

/-- A fragment is staged after those of its directory. -/
theorem Stages.fragment {offset bytes directory}
    (record : received.frame.record = .bookmarkFragment id offset bytes)
    (found : staged.entries.lookup id = some (.directory directory)) :
    Stages (history ++ [received]) (staged.extended id directory bytes) := by
  have noGrant : grants (history ++ [received]) = grants history :=
    grants_append_of_none (by simp [grantOf, record])
  have same : fragments (history ++ [received]) id = fragments history id ++ [bytes] := by
    simp [fragments, fragmentOf, record]
  have others : ∀ other, other ≠ id →
      fragments (history ++ [received]) other = fragments history other := by
    intro other elsewhere
    simp [fragments, fragmentOf, record, Ne.symm elsewhere]
  have moreBytes : bookmarkBytes (history ++ [received]) =
      bookmarkBytes history + bytes.length := by
    simp [bookmarkBytes, fragmentOf, record]
  obtain ⟨resource, granted, whole⟩ : ∃ resource, (grants history).lookup id = some resource ∧
      resource.withFragments (fragments history id) = .directory directory := by
    rw [stages.entries id, Option.map_eq_some_iff] at found
    exact found
  constructor
  · rw [moreBytes, ← stages.received]
    rfl
  · rw [noGrant, ← stages.size]
    exact Table.size_insert_of_lookup found
  · intro other
    rw [noGrant]
    by_cases here : other = id
    · subst here
      rw [granted, same]
      cases resource with
      | file _ => cases whole
      | stream _ => cases whole
      | directory base =>
        simp only [StagedResource.withFragments, StagedResource.directory.injEq] at whole
        subst whole
        simp [extended, StagedResource.withFragments]
    · rw [others other here, ← stages.entries other]
      exact AList.lookup_insert_ne here
  · intro other missing
    rw [noGrant] at missing
    by_cases here : other = id
    · subst here
      rw [granted] at missing
      cases missing
    · rw [others other here]
      exact stages.owned other missing
  · exact noGrant ▸ stages.distinctIds
  · exact noGrant ▸ stages.identities
  · exact noGrant ▸ stages.distinctIdentities
  · exact noGrant ▸ stages.singletonRoles
  · exact noGrant ▸ stages.distinctRoles

/-- Counting a datagram stages nothing. -/
theorem Stages.counted : Stages history (staged.counted received) :=
  ⟨stages.received, stages.size, stages.entries, stages.owned, stages.distinctIds,
    stages.identities, stages.distinctIdentities, stages.singletonRoles, stages.distinctRoles⟩

end

/-- A batch which one more frame extends is faithful to the frames with it. -/
theorem Faithful.extend (faithful : Faithful session history staged)
    (continues : Continues staged received)
    (step : Extends (staged.counted received) received final) :
    Faithful session (history ++ [received]) final := by
  have numbered := (faithful.numbered.counted continues).extend step
  have carriedBy : ∀ {last : ReceivedGrant},
      last.descriptor.isSome = last.frame.record.isGrant →
      ∀ other ∈ history ++ [last], other.descriptor.isSome = other.frame.record.isGrant := by
    intro last carried other member
    rcases mem_append.mp member with earlier | latest
    · exact faithful.carried other earlier
    · exact mem_singleton.mp latest ▸ carried
  have counted : Stages history (staged.counted received) := faithful.stages.counted
  have begun : Begun history (staged.counted received) := faithful.begun
  cases step with
  | begin declaration record bare first =>
    have empty : history = [] := by
      rw [← length_eq_zero_iff, ← faithful.numbered.nextSequence, ← continues.sequence]
      exact first
    refine ⟨faithful.fresh, numbered, ?_, carriedBy ?_, counted.begin record⟩
    · subst empty
      exact ⟨declaration, record, rfl, fun _ absent => absurd absent not_mem_nil⟩
    · simp [bare, record, GrantRecord.isGrant]
  | grant id resource carried isOpen newId newIdentity newRole =>
    refine ⟨faithful.fresh, numbered, ?_, carriedBy ?_,
      counted.grant carried newId newIdentity newRole⟩
    · exact begun.content isOpen rfl (isContent_of_grantOf carried)
    · obtain ⟨isGrant, isSome⟩ := isGrant_of_grantOf carried
      rw [isGrant, isSome]
  | fragment id offset bytes directory record bare isOpen found =>
    refine ⟨faithful.fresh, numbered, ?_, carriedBy ?_, counted.fragment record found⟩
    · exact begun.content isOpen rfl (by simp [record, GrantRecord.isContent])
    · simp [bare, record, GrantRecord.isGrant]

/-! ## Commit -/

/-- The two registries hold the same for an identifier. -/
def SameAt (first second : GrantRegistry) (id : GrantId) : Prop :=
  second.files.lookup id = first.files.lookup id ∧
    second.streams.lookup id = first.streams.lookup id ∧
    second.directories.lookup id = first.directories.lookup id

theorem SameAt.trans {first second third} (one : SameAt first second id)
    (two : SameAt second third id) : SameAt first third id :=
  ⟨two.1.trans one.1, two.2.1.trans one.2.1, two.2.2.trans one.2.2⟩

variable {registry next}

/-- What a registry holds is held by one which agrees with it there. -/
theorem Holds.congr {resource} (held : Holds checks registry id resource)
    (same : SameAt registry next id) : Holds checks next id resource := by
  obtain ⟨files, streams, directories⟩ := same
  cases resource with
  | none => simpa only [Holds, files, streams, directories] using held
  | some resource => cases resource <;> simpa only [Holds, files, streams, directories] using held

/-- Adopting one resource gives its identifier an entry and keeps the others. -/
theorem adopt_holds {resource} (empty : Holds checks registry id none)
    (adopted : adopt checks registry id resource = .ok next) :
    Holds checks next id (some resource) ∧ ∀ other, other ≠ id → SameAt registry next other := by
  obtain ⟨noFile, noStream, noDirectory⟩ := empty
  cases resource with
  | file granted =>
    simp only [adopt, pure_eq_ok] at adopted
    subst adopted
    exact ⟨⟨AList.lookup_insert .., noStream, noDirectory⟩, fun other elsewhere =>
      ⟨AList.lookup_insert_ne elsewhere, rfl, rfl⟩⟩
  | stream granted =>
    simp only [adopt, pure_eq_ok] at adopted
    subst adopted
    exact ⟨⟨noFile, AList.lookup_insert .., noDirectory⟩, fun other elsewhere =>
      ⟨rfl, AList.lookup_insert_ne elsewhere, rfl⟩⟩
  | directory staged =>
    simp only [adopt, bind_eq_ok, okOr_eq_ok, rejectIf_eq_ok, pure_eq_ok, not_not] at adopted
    obtain ⟨scope, resolved, -, valid, rfl⟩ := adopted
    exact ⟨⟨noFile, noStream, scope, resolved, valid, AList.lookup_insert ..⟩,
      fun other elsewhere => ⟨rfl, rfl, AList.lookup_insert_ne elsewhere⟩⟩

/-- Adopting resources under distinct identifiers gives each of them its entry. -/
theorem adoptAll_holds {entries : List (Sigma fun _ : GrantId => StagedResource)}
    {registry final} (distinct : entries.NodupKeys)
    (empty : ∀ id ∈ entries.keys, Holds checks registry id none)
    (adopted : entries.foldlM (fun registry entry => adopt checks registry entry.1 entry.2)
      registry = .ok final) :
    (∀ entry ∈ entries, Holds checks final entry.1 (some entry.2)) ∧
      ∀ id, id ∉ entries.keys → SameAt registry final id := by
  induction entries generalizing registry with
  | nil =>
    simp only [foldlM_nil, pure_eq_ok] at adopted
    subst adopted
    exact ⟨fun _ absent => absurd absent not_mem_nil, fun _ _ => ⟨rfl, rfl, rfl⟩⟩
  | cons entry rest ih =>
    obtain ⟨id, resource⟩ := entry
    rw [nodupKeys_cons] at distinct
    rw [foldlM_cons, bind_eq_ok] at adopted
    obtain ⟨next, first, others⟩ := adopted
    obtain ⟨held, kept⟩ := adopt_holds (empty id (by simp)) first
    have elsewhere : ∀ other ∈ rest.keys, other ≠ id :=
      fun other member same => distinct.1 (same ▸ member)
    obtain ⟨holds, same⟩ := ih distinct.2
      (fun other member => (empty other (by simp [member])).congr (kept other (elsewhere other member)))
      others
    refine ⟨?_, fun other missing => ?_⟩
    · intro entry member
      rcases mem_cons.mp member with rfl | later
      · exact held.congr (same id distinct.1)
      · exact holds entry later
    · rw [keys_cons, mem_cons, not_or] at missing
      exact (kept other missing.1).trans (same other missing.2)

/-- A commit hands out exactly the batch. -/
theorem Faithful.commit (faithful : Faithful session history staged)
    (continues : Continues staged received) {committed}
    (commits : Commits checks (staged.counted received) received committed) :
    ExactBatch session (history ++ [received]) checks committed := by
  obtain ⟨declaration, declared, record, records, grantCount, bytes, count⟩ := commits.declared
  have numbered := faithful.numbered.counted continues
  have bare : grantOf received = none := by simp [grantOf, record]
  have other : fragmentOf received = none := by simp [fragmentOf, record]
  have stages := faithful.stages
  have length : history.length + 1 = declaration.recordCount := by
    rw [← records, ← faithful.numbered.recordsReceived]
    rfl
  obtain ⟨held, same⟩ := adoptAll_holds (staged.counted received).entries.nodupKeys
    (fun id _ => ⟨rfl, rfl, rfl⟩) commits.adopted
  constructor
  · cases history with
    | nil =>
      have absent : staged.declaration = none := faithful.begun
      have present : staged.declaration = some declaration := declared
      rw [absent] at present
      cases present
    | cons first content =>
      obtain ⟨expected, begins, known, inside⟩ := faithful.begun
      have agree : expected = declaration := Option.some.inj (known.symm.trans declared)
      subst agree
      refine ⟨first, content, received, expected, rfl, begins, record, inside, ?_, ?_, ?_, count,
        ?_⟩
      · simpa using length
      · rw [grants_append_of_none bare, ← stages.size]
        exact grantCount
      · rw [bookmarkBytes_append_of_none other, ← stages.received]
        exact bytes
      · rw [commits.finalSequence, continues.sequence, faithful.numbered.nextSequence, length]
  · intro last member
    refine ⟨numbered.sessions last member, ?_⟩
    have batch := numbered.batches last member
    rw [commits.batch] at batch
    exact (Option.some.inj batch).symm
  · exact numbered.numbered
  · intro last member
    rcases mem_append.mp member with earlier | latest
    · exact faithful.carried last earlier
    · rw [mem_singleton.mp latest, commits.bare, record]
      rfl
  · rw [grants_append_of_none bare]
    exact stages.distinctIds
  · rw [grants_append_of_none bare]
    exact stages.distinctIdentities
  · rw [grants_append_of_none bare]
    exact stages.distinctRoles
  · intro id directory member
    rw [grants_append_of_none bare] at member
    rw [fragments_append_of_none other]
    have found := stages.entries id
    rw [lookup_of_mem stages.distinctIds member, Option.map_some] at found
    have complete := commits.complete _ (Table.mem_values_of_lookup found)
    simpa [StagedResource.withFragments, StagedGrantBatch.complete] using complete
  · intro id
    rw [grants_append_of_none bare, fragments_append_of_none other, ← stages.entries id]
    cases found : staged.entries.lookup id with
    | none => exact Holds.congr ⟨rfl, rfl, rfl⟩ (same id (AList.lookup_eq_none.mp found))
    | some resource => exact held ⟨id, resource⟩ (AList.mem_lookup_iff.mp found)

end

/-! ## Whole runs -/

namespace StagedGrantBatch

/-- The call ended the batch. -/
def Ends : Except GrantRegistryError (Option CommittedGrantBatch) → Prop
  | .ok none => False
  | _ => True

/-- A receiver whose batch has ended and which keeps nothing. -/
def Finished (staged : StagedGrantBatch) : Prop := staged.poisoned = true ∧ staged.entries = ∅

/-- A finished batch refuses every frame. -/
theorem accept_finished (finished : staged.Finished) (checks received) :
    outcome (accept checks received) staged = (.error .rejected, staged) := by
  rw [accept, outcome_get_bind, outcome_bind]
  simp [finished.1, rejectIf]

/-- A call of an unfinished receiver extends its history, hands out the whole batch, or
drops everything. -/
theorem accept_ensures (faithful : Faithful session history staged) (checks received) :
    Ensures (accept checks received) staged
      (fun result final => match result with
        | none => Faithful session (history ++ [received]) final
        | some committed => ExactBatch session (history ++ [received]) checks committed ∧
            final.Finished)
      fun _ final => final.Finished := by
  simp only [accept, ensures_bind, ensures_get, ensures_rejectIf,
    faithful.fresh, Bool.false_eq_true, false_implies, not_false_eq_true, true_and, forall_const,
    ensures_tryCatch, ensures_modify, ensures_throw, ensures_pure]
  refine (acceptInner_ensures checks staged received).mono ?_ fun _ _ _ => ⟨rfl, rfl⟩
  rintro (_ | committed) final ⟨continues, accepts⟩
  · simp only [Option.isSome_none, Bool.or_false]
    exact faithful.extend continues accepts
  · exact ⟨faithful.commit continues accepts.1, by simp, accepts.2⟩

/-- Nothing follows the end of a batch. -/
theorem trace_finished (finished : staged.Finished) (events) :
    staged.trace events = events.map fun _ => (.error .rejected, staged) := by
  induction events with
  | nil => rfl
  | cons event events ih =>
    rw [trace, map_cons, accept_finished finished]
    exact congrArg _ ih

/-- The answers of a run: an end is preceded by accepted datagrams only, and followed by
refusals only. -/
structure AllOrNothing (session : SessionId) (history : List ReceivedGrant)
    (events : List (GrantChecks × ReceivedGrant))
    (answers : List (Except GrantRegistryError (Option CommittedGrantBatch) × StagedGrantBatch)) :
    Prop where
  once : (answers.filter fun answer => answer.1.toOption.join.isSome).length ≤ 1
  whole : ∀ (index : Nat) checks received committed final, events[index]? = some (checks, received) →
    answers[index]? = some (.ok (some committed), final) →
    ExactBatch session (history ++ (events.take (index + 1)).map Prod.snd) checks committed
  ended : ∀ (index : Nat) result final, answers[index]? = some (result, final) → Ends result →
    final.entries = ∅ ∧ ∀ (later : Nat) answer, index < later → answers[later]? = some answer →
      answer.1 = .error .rejected ∧ answer.2.entries = ∅

/-- A datagram which is accepted before the rest of the run. -/
theorem AllOrNothing.cons {events answers}
    (rest : AllOrNothing session (history ++ [received]) events answers) :
    AllOrNothing session history ((checks, received) :: events) ((.ok none, staged) :: answers) where
  once := by simpa [Except.toOption] using rest.once
  whole := by
    intro index checks' received' committed final called answered
    cases index with
    | zero => simp at answered
    | succ index =>
      have batch := rest.whole index checks' received' committed final (by simpa using called)
        (by simpa using answered)
      simpa using batch
  ended := by
    intro index result final answered ends
    cases index with
    | zero =>
      simp only [getElem?_cons_zero, Option.some.injEq, Prod.mk.injEq] at answered
      exact absurd ends (answered.1 ▸ id)
    | succ index =>
      obtain ⟨empty, refused⟩ := rest.ended index result final (by simpa using answered) ends
      refine ⟨empty, fun later answer after found => ?_⟩
      obtain ⟨later, rfl⟩ : ∃ previous, later = previous + 1 := ⟨later - 1, by omega⟩
      exact refused later answer (by omega) (by simpa using found)

/-- A datagram which ends the batch before the rest of the run. -/
theorem AllOrNothing.cons_finished (finished : staged.Finished) {result}
    (batch : ∀ committed, result = .ok (some committed) →
      ExactBatch session (history ++ [received]) checks committed) (events) :
    AllOrNothing session history ((checks, received) :: events)
      ((result, staged) :: staged.trace events) := by
  have refused : ∀ (index : Nat) answer, (staged.trace events)[index]? = some answer →
      answer = (.error .rejected, staged) := by
    intro index answer found
    rw [trace_finished finished, getElem?_map, Option.map_eq_some_iff] at found
    obtain ⟨_, -, rfl⟩ := found
    rfl
  constructor
  · have none : ((staged.trace events).filter fun answer => answer.1.toOption.join.isSome) = [] := by
      rw [trace_finished finished, filter_eq_nil_iff]
      simp [Except.toOption]
    rw [filter_cons, none]
    split <;> simp
  · intro index checks' received' committed final called answered
    cases index with
    | zero =>
      simp only [getElem?_cons_zero, Option.some.injEq, Prod.mk.injEq] at called answered
      obtain ⟨rfl, rfl⟩ := called
      simpa using batch committed answered.1
    | succ index =>
      have error := refused index _ (by simpa using answered)
      simp at error
  · intro index result' final answered _
    cases index with
    | zero =>
      obtain ⟨-, rfl⟩ := answered
      refine ⟨finished.2, fun later answer after found => ?_⟩
      obtain ⟨later, rfl⟩ : ∃ previous, later = previous + 1 := ⟨later - 1, by omega⟩
      rw [refused later answer (by simpa using found)]
      exact ⟨rfl, finished.2⟩
    | succ index =>
      have same := refused index _ (by simpa using answered)
      simp only [Prod.mk.injEq] at same
      refine ⟨same.2 ▸ finished.2, fun later answer after found => ?_⟩
      obtain ⟨later, rfl⟩ : ∃ previous, later = previous + 1 := ⟨later - 1, by omega⟩
      rw [refused later answer (by simpa using found)]
      exact ⟨rfl, finished.2⟩

/-- Every run from an unfinished receiver. -/
theorem allOrNothing_of_faithful (faithful : Faithful session history staged) (events) :
    AllOrNothing session history events (staged.trace events) := by
  induction events generalizing history staged with
  | nil => exact ⟨by simp [trace], by simp [trace], by simp [trace]⟩
  | cons event events ih =>
    obtain ⟨checks, received⟩ := event
    have ensures := accept_ensures faithful checks received
    rw [trace]
    unfold Ensures at ensures
    generalize outcome (accept checks received) staged = answer at ensures ⊢
    obtain ⟨error | _ | committed, final⟩ := answer
    · exact AllOrNothing.cons_finished ensures (fun _ absent => by cases absent) events
    · exact (ih ensures).cons
    · refine AllOrNothing.cons_finished ensures.2 (fun _ same => ?_) events
      cases same
      exact ensures.1

/-- Whatever datagrams a receiver gets, and whatever the operating system answers, it hands
out at most one registry, which holds exactly the one batch received so far; its first
error and its commit end it with nothing staged. -/
theorem grant_batches_all_or_nothing (session : SessionId)
    (events : List (GrantChecks × ReceivedGrant)) :
    AllOrNothing session [] events ((new session).trace events) :=
  allOrNothing_of_faithful (Faithful.new session) events

end StagedGrantBatch
end Bangbang.Grants
