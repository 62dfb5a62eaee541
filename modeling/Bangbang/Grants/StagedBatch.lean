import Bangbang.Base.Action
import Bangbang.Base.Table

/-!
# Staged grant batches

A launcher sends its resource grants to a worker as one numbered batch of datagrams: a
`begin` which declares the counts, the grants and the fragments of their bookmarks, and a
`commit` which repeats the declaration. The worker stages what it receives and hands out a
registry at the commit only. What the operating system answers about a descriptor or a
bookmark is part of each call, so the answers may differ from one call to the next; a
descriptor is a number.
-/

namespace Bangbang.Grants

open Bangbang.Action (check)

abbrev SessionId := BitVec 256

abbrev BatchId := BitVec 128

abbrev GrantId := String

abbrev OwnedFd := Nat

def maxGrants : Nat := 64

def maxGrantRecords : Nat := 512

def maxBookmarkBytes : Nat := 64 * 1024

def maxBatchBookmarkBytes : Nat := 256 * 1024

inductive ResourceRole where
  | startupConfig
  | startupMetadata
  | kernelImage
  | initrdImage
  | driveBacking
  | pmemBacking
  | apiSocketDirectory
  | vsockSocketDirectory
  | loggerSink
  | metricsSink
  | serialSink
  | snapshotDescribeInput
  | snapshotStateInput
  | snapshotMemoryInput
  | snapshotOutputDirectory
  | vhostUserSocketDirectory
  | snapshotPagerStream
  | vmnetProviderStream
deriving DecidableEq, Repr

inductive GrantAccess where
  | readOnly
  | writeOnly
  | readWrite
  | createChildren
  | connectChildren
deriving DecidableEq, Repr

namespace ResourceRole

def isRepeatable : ResourceRole → Bool
  | .driveBacking | .pmemBacking | .snapshotOutputDirectory | .vhostUserSocketDirectory => true
  | _ => false

def isScopedDirectory : ResourceRole → Bool
  | .apiSocketDirectory | .vsockSocketDirectory | .snapshotOutputDirectory
  | .vhostUserSocketDirectory => true
  | _ => false

def isConnectedStream : ResourceRole → Bool
  | .snapshotPagerStream | .vmnetProviderStream => true
  | _ => false

def permits (role : ResourceRole) (access : GrantAccess) : Bool :=
  match role with
  | .startupConfig | .startupMetadata | .kernelImage | .initrdImage | .snapshotDescribeInput
  | .snapshotStateInput | .snapshotMemoryInput => access = .readOnly
  | .driveBacking | .pmemBacking => access = .readOnly ∨ access = .readWrite
  | .loggerSink | .metricsSink | .serialSink => access = .writeOnly
  | .apiSocketDirectory | .vsockSocketDirectory | .snapshotOutputDirectory =>
    access = .createChildren
  | .vhostUserSocketDirectory => access = .connectChildren
  | .snapshotPagerStream | .vmnetProviderStream => access = .readWrite

end ResourceRole

inductive GrantObjectKind where
  | regularFile
  | directory
  | blockDevice
  | connectedUnixStream
deriving DecidableEq, Repr

structure ObjectIdentity where
  (device inode : Nat)
deriving DecidableEq, Repr

structure ConnectedUnixPeer where
  (userId groupId processId : Nat)
deriving DecidableEq, Repr

structure BlockDeviceGrant where
  (targetDevice logicalBlockSize blockCount capacity : Nat)
deriving DecidableEq, Repr

/-- A resolved bookmark whose scope is active. -/
structure ScopedBookmark where
  path : String
deriving DecidableEq, Repr

structure BatchDeclaration where
  (grantCount recordCount bookmarkBytes : Nat)
deriving DecidableEq, Repr

inductive GrantRecord where
  | begin (declaration : BatchDeclaration)
  | descriptor (id : GrantId) (role : ResourceRole) (access : GrantAccess)
      (kind : GrantObjectKind) (identity : ObjectIdentity) (statusFlags : Nat)
      (blockDevice : Option BlockDeviceGrant)
  | connectedStream (id : GrantId) (role : ResourceRole) (access : GrantAccess)
      (identity sourceIdentity : ObjectIdentity) (statusFlags : Nat) (peer : ConnectedUnixPeer)
  | scopedDirectory (id : GrantId) (role : ResourceRole) (access : GrantAccess)
      (identity : ObjectIdentity) (bookmarkBytes fragmentCount : Nat)
  | bookmarkFragment (id : GrantId) (offset : Nat) (bytes : List UInt8)
  | commit (declaration : BatchDeclaration)
deriving DecidableEq, Repr

structure GrantFrame where
  session : SessionId
  batch : BatchId
  (sequence descriptorCount : Nat)
  record : GrantRecord
deriving DecidableEq, Repr

structure ReceivedGrant where
  frame : GrantFrame
  descriptor : Option OwnedFd
deriving DecidableEq, Repr

structure GrantedFile where
  role : ResourceRole
  access : GrantAccess
  kind : GrantObjectKind
  identity : ObjectIdentity
  statusFlags : Nat
  blockDevice : Option BlockDeviceGrant
  descriptor : OwnedFd
deriving DecidableEq, Repr

structure GrantedUnixStream where
  role : ResourceRole
  access : GrantAccess
  (identity sourceIdentity : ObjectIdentity)
  statusFlags : Nat
  peer : ConnectedUnixPeer
  descriptor : OwnedFd
deriving DecidableEq, Repr

structure GrantedDirectory where
  role : ResourceRole
  access : GrantAccess
  identity : ObjectIdentity
  anchor : OwnedFd
  scope : ScopedBookmark
deriving DecidableEq, Repr

structure StagedDirectory where
  role : ResourceRole
  access : GrantAccess
  identity : ObjectIdentity
  anchor : OwnedFd
  (expectedBytes expectedFragments fragments : Nat)
  bookmark : List UInt8
deriving DecidableEq, Repr

inductive StagedResource where
  | file (granted : GrantedFile)
  | stream (granted : GrantedUnixStream)
  | directory (staged : StagedDirectory)
deriving DecidableEq, Repr

structure GrantRegistry where
  files : Table GrantId GrantedFile
  directories : Table GrantId GrantedDirectory
  streams : Table GrantId GrantedUnixStream
deriving DecidableEq

structure CommittedGrantBatch where
  registry : GrantRegistry
  batch : BatchId
  (grantCount finalSequence : Nat)
deriving DecidableEq

/-- The only error of the receiver. -/
inductive GrantRegistryError where
  | rejected
deriving DecidableEq, Repr

/-- What the operating system answers during one call. -/
structure GrantChecks where
  validateDescriptor : OwnedFd → GrantObjectKind → GrantAccess → ObjectIdentity → Option Nat →
    Option BlockDeviceGrant → Bool
  validateConnectedStreamDescriptor : OwnedFd → ConnectedUnixPeer → Bool
  resolve : GrantId → List UInt8 → Option ScopedBookmark
  validateScopedPath : GrantId → ScopedBookmark → ObjectIdentity → GrantAccess → Bool

/-- The receiver of one batch. -/
structure StagedGrantBatch where
  session : SessionId
  batch : Option BatchId
  nextSequence : Nat
  declaration : Option BatchDeclaration
  (recordsReceived bookmarkBytesReceived : Nat)
  singletonRoles : List ResourceRole
  identities : List ObjectIdentity
  entries : Table GrantId StagedResource
  poisoned : Bool
deriving DecidableEq

/-- A step of the receiver. -/
abbrev Receiver := Action StagedGrantBatch GrantRegistryError

namespace StagedGrantBatch

def new (session : SessionId) : StagedGrantBatch where
  session := session
  batch := none
  nextSequence := 0
  declaration := none
  recordsReceived := 0
  bookmarkBytesReceived := 0
  singletonRoles := []
  identities := []
  entries := ∅
  poisoned := false

/-- A record other than the last one is expected. -/
def requireOpenBatch : Receiver Unit := do
  let staged ← get
  let declaration ← check (okOr staged.declaration .rejected)
  check (rejectIf (staged.recordsReceived ≥ declaration.recordCount) .rejected)

section
variable (checks : GrantChecks) (received : ReceivedGrant) (id : GrantId) (role : ResourceRole)
  (access : GrantAccess) (kind : GrantObjectKind) (identity : ObjectIdentity)

/-- Register the identity and the role of a new grant. An identity which was already
there, or one whose role is then refused, stays registered. -/
def insertIdentityRole : Receiver Unit := do
  let staged ← get
  check (rejectIf (id ∈ staged.entries) .rejected)
  check (rejectIf (identity ∈ staged.identities) .rejected)
  modify fun staged => { staged with identities := identity :: staged.identities }
  if role.isRepeatable then pure ()
  else do
    check (rejectIf (role ∈ staged.singletonRoles) .rejected)
    modify fun staged => { staged with singletonRoles := role :: staged.singletonRoles }

def insertEntry (resource : StagedResource) : Receiver Unit :=
  modify fun staged => { staged with entries := staged.entries.insert id resource }

def acceptBegin (declaration : BatchDeclaration) : Receiver Unit := do
  let staged ← get
  check (rejectIf (received.frame.sequence ≠ 0 ∨ received.descriptor.isSome ∨
    staged.declaration.isSome ∨ declaration.grantCount > maxGrants ∨
    ¬ (2 ≤ declaration.recordCount ∧ declaration.recordCount ≤ maxGrantRecords) ∨
    declaration.bookmarkBytes > maxBatchBookmarkBytes) .rejected)
  modify fun staged => { staged with declaration := some declaration }

/-- The object kinds which a plain descriptor may have, with or without block metadata. -/
def descriptorKindMatches (blockDevice : Option BlockDeviceGrant) : Bool :=
  match kind, blockDevice with
  | .regularFile, none => true
  | .blockDevice, some _ => true
  | _, _ => false

def acceptDescriptor (statusFlags : Nat) (blockDevice : Option BlockDeviceGrant) :
    Receiver Unit := do
  requireOpenBatch
  check (rejectIf (role.isScopedDirectory ∨ ¬ role.permits access ∨
    ¬ descriptorKindMatches kind blockDevice ∨
    (kind = .blockDevice ∧ role ≠ .driveBacking)) .rejected)
  let descriptor ← check (okOr received.descriptor .rejected)
  check (rejectIf (¬ checks.validateDescriptor descriptor kind access identity (some statusFlags)
    blockDevice) .rejected)
  insertIdentityRole id role identity
  insertEntry id
    (.file { role, access, kind, identity, statusFlags, blockDevice, descriptor })

def acceptConnectedStream (identity sourceIdentity : ObjectIdentity) (statusFlags : Nat)
    (peer : ConnectedUnixPeer) : Receiver Unit := do
  requireOpenBatch
  check (rejectIf (¬ role.isConnectedStream ∨ access ≠ .readWrite ∨ identity.inode = 0 ∨
    sourceIdentity.inode = 0) .rejected)
  let descriptor ← check (okOr received.descriptor .rejected)
  check (rejectIf (¬ checks.validateDescriptor descriptor .connectedUnixStream access identity
    (some statusFlags) none) .rejected)
  check (rejectIf (¬ checks.validateConnectedStreamDescriptor descriptor peer) .rejected)
  insertIdentityRole id role identity
  insertEntry id
    (.stream { role, access, identity, sourceIdentity, statusFlags, peer, descriptor })

def acceptScopedDirectory (bookmarkBytes fragmentCount : Nat) : Receiver Unit := do
  requireOpenBatch
  check (rejectIf (¬ role.isScopedDirectory ∨ ¬ role.permits access ∨ bookmarkBytes = 0 ∨
    bookmarkBytes > maxBookmarkBytes ∨ fragmentCount = 0 ∨ fragmentCount > maxGrantRecords)
    .rejected)
  let descriptor ← check (okOr received.descriptor .rejected)
  check (rejectIf (¬ checks.validateDescriptor descriptor .directory access identity none none)
    .rejected)
  insertIdentityRole id role identity
  insertEntry id
    (.directory
      { role, access, identity
        anchor := descriptor
        expectedBytes := bookmarkBytes
        expectedFragments := fragmentCount
        fragments := 0
        bookmark := [] })

/-- The staged directory of an identifier. -/
def stagedDirectory (staged : StagedGrantBatch) (id : GrantId) : Option StagedDirectory :=
  match staged.entries.lookup id with
  | some (.directory directory) => some directory
  | _ => none

def acceptBookmarkFragment (offset : Nat) (bytes : List UInt8) : Receiver Unit := do
  requireOpenBatch
  check (rejectIf (received.descriptor.isSome ∨ bytes = []) .rejected)
  let staged ← get
  let directory ← check (okOr (staged.stagedDirectory id) .rejected)
  check (rejectIf (offset ≠ directory.bookmark.length ∨
    directory.fragments ≥ directory.expectedFragments) .rejected)
  let nextLength ← check (okOr (checkedAdd directory.bookmark.length bytes.length) .rejected)
  check (rejectIf (nextLength ≥ 2 ^ 32 ∨ nextLength > directory.expectedBytes) .rejected)
  insertEntry id (.directory { directory with bookmark := directory.bookmark ++ bytes })
  check (rejectIf (directory.fragments + 1 ≥ 2 ^ 16) .rejected)
  insertEntry id (.directory { directory with
    bookmark := directory.bookmark ++ bytes
    fragments := directory.fragments + 1 })
  check (rejectIf (bytes.length ≥ 2 ^ 32 ∨
    staged.bookmarkBytesReceived + bytes.length ≥ 2 ^ 32) .rejected)
  modify fun staged =>
    { staged with bookmarkBytesReceived := staged.bookmarkBytesReceived + bytes.length }

/-- Every fragment of the directory has arrived. -/
def complete : StagedResource → Bool
  | .directory directory =>
    directory.bookmark.length = directory.expectedBytes ∧
      directory.fragments = directory.expectedFragments
  | _ => true

/-- Adopt one staged resource into the registry, resolving the bookmark of a directory. -/
def adopt (registry : GrantRegistry) (id : GrantId) :
    StagedResource → Except GrantRegistryError GrantRegistry
  | .file granted => pure { registry with files := registry.files.insert id granted }
  | .stream granted => pure { registry with streams := registry.streams.insert id granted }
  | .directory directory => do
      let scope ← okOr (checks.resolve id directory.bookmark) .rejected
      rejectIf (¬ checks.validateScopedPath id scope directory.identity directory.access) .rejected
      pure { registry with
        directories := registry.directories.insert id
          { role := directory.role
            access := directory.access
            identity := directory.identity
            anchor := directory.anchor
            scope } }

def commit (checks : GrantChecks) (commit : BatchDeclaration) (finalSequence : Nat) :
    Receiver CommittedGrantBatch := do
  let staged ← get
  let declaration ← check (okOr staged.declaration .rejected)
  check (rejectIf (commit ≠ declaration ∨ staged.recordsReceived ≠ declaration.recordCount ∨
    staged.entries.size ≠ declaration.grantCount ∨
    staged.bookmarkBytesReceived ≠ declaration.bookmarkBytes) .rejected)
  check (rejectIf (¬ ∀ resource ∈ staged.entries.values, complete resource) .rejected)
  modify fun staged => { staged with entries := ∅ }
  let registry ← check (staged.entries.entries.foldlM
    (fun registry entry => adopt checks registry entry.1 entry.2) ⟨∅, ∅, ∅⟩)
  let batch ← check (okOr staged.batch .rejected)
  pure { registry, batch, grantCount := declaration.grantCount, finalSequence }

/-- Check the header of a datagram and count it. -/
def advance : Receiver Unit := do
  let frame := received.frame
  let staged ← get
  check (rejectIf (frame.session ≠ staged.session ∨ frame.sequence ≠ staged.nextSequence ∨
    staged.batch.any (fun batch => frame.batch ≠ batch) ∨
    received.descriptor.isSome ≠ (frame.descriptorCount == 1)) .rejected)
  modify fun staged => { staged with batch := staged.batch.or (some frame.batch) }
  let nextSequence ← check (okOr (checkedAdd staged.nextSequence 1) .rejected)
  modify fun staged => { staged with nextSequence }
  check (rejectIf (staged.recordsReceived + 1 ≥ 2 ^ 16) .rejected)
  modify fun staged => { staged with recordsReceived := staged.recordsReceived + 1 }

def acceptRecord : Receiver (Option CommittedGrantBatch) :=
  match received.frame.record with
  | .begin declaration => do
      acceptBegin received declaration
      pure none
  | .descriptor id role access kind identity statusFlags blockDevice => do
      acceptDescriptor checks received id role access kind identity statusFlags blockDevice
      pure none
  | .connectedStream id role access identity sourceIdentity statusFlags peer => do
      acceptConnectedStream checks received id role access identity sourceIdentity statusFlags peer
      pure none
  | .scopedDirectory id role access identity bookmarkBytes fragmentCount => do
      acceptScopedDirectory checks received id role access identity bookmarkBytes fragmentCount
      pure none
  | .bookmarkFragment id offset bytes => do
      acceptBookmarkFragment received id offset bytes
      pure none
  | .commit declaration => do
      check (rejectIf (received.descriptor.isSome) .rejected)
      let committed ← commit checks declaration received.frame.sequence
      pure (some committed)

def acceptInner : Receiver (Option CommittedGrantBatch) := do
  advance received
  acceptRecord checks received

/-- Apply one datagram. The first error, or the commit, ends the batch; an error also drops
whatever was staged. -/
def accept : Receiver (Option CommittedGrantBatch) := do
  let staged ← get
  check (rejectIf staged.poisoned .rejected)
  let result ← tryCatch (acceptInner checks received) fun error => do
    modify fun staged => { staged with poisoned := true, entries := ∅ }
    throw error
  modify fun staged => { staged with poisoned := staged.poisoned || result.isSome }
  pure result

end

/-- The answer to every datagram of a sequence, each with the receiver after it. -/
def trace (staged : StagedGrantBatch) :
    List (GrantChecks × ReceivedGrant) →
      List (Except GrantRegistryError (Option CommittedGrantBatch) × StagedGrantBatch)
  | [] => []
  | (checks, received) :: rest =>
    let answer := Action.outcome (accept checks received) staged
    answer :: answer.2.trace rest

end StagedGrantBatch
end Bangbang.Grants
