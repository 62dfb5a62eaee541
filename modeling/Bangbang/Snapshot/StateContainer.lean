import Bangbang.Base.Table
import Bangbang.Snapshot.MemoryBinding

/-!
# The native-v2 state container

A state file is a fixed header, a table of required features, a directory of
components, the component payloads one after the other, and a checksum of all
that. The decoder validates everything once and keeps the bytes; the two
iterators then read features and components out of them on demand.
-/

namespace Bangbang.Snapshot

def nativeV2Arm64Magic : List UInt8 := [0x42, 0x41, 0x4e, 0x47, 0x56, 0x32, 0x41, 0x00]

def nativeV2SnapshotVersion : SnapshotFormatVersion := ⟨2, 13, 0⟩

def nativeV2LatestKnownCompatibilityVersion : SnapshotFormatVersion :=
  nativeV2DiffStateCompatibilityVersion

def nativeV2SnapshotHeaderBytes : Nat := 64

def nativeV2SnapshotIntegrityBytes : Nat := 8

def nativeV2SnapshotMaxFileBytes : Nat := 16 * 1024 * 1024

def nativeV2SnapshotMaxRequiredFeatures : Nat := 256

def nativeV2SnapshotMaxComponents : Nat := 4096

def nativeV2ComponentDirectoryEntryBytes : Nat := 32

structure CatalogEntry where
  id : UInt32
  introducedMinor : UInt16
deriving DecidableEq, Repr

def productionRequiredFeatures : List CatalogEntry := []

/-- Memory, machine, global, topology, vcpu, time, device graph, serial, entropy,
balloon, memory hotplug, network, vsock, and diff. -/
def productionSemanticComponents : List CatalogEntry :=
  [⟨1, 1⟩, ⟨2, 2⟩, ⟨3, 2⟩, ⟨4, 2⟩, ⟨5, 2⟩, ⟨6, 3⟩, ⟨7, 4⟩, ⟨8, 7⟩, ⟨9, 8⟩, ⟨10, 9⟩, ⟨11, 10⟩,
    ⟨12, 11⟩, ⟨13, 12⟩, ⟨14, 13⟩]

/-- The entries after `previous` ascend. -/
def catalogIsCanonical (previous : UInt32) : List CatalogEntry → Bool
  | [] => true
  | entry :: remaining =>
    if entry.id = 0 ∨ entry.id ≤ previous then false else catalogIsCanonical entry.id remaining

def catalogContains (entries : List CatalogEntry) (id : UInt32) (encodedMinor : UInt16) : Bool :=
  match (binarySearchBy entries fun entry => compare entry.id id).bind (entries[·]?) with
  | some entry => entry.introducedMinor ≤ encodedMinor
  | none => false

/-- A canonical catalog ascends. -/
theorem catalogIsCanonical_ascends {previous : UInt32} {entries : List CatalogEntry}
    (canonical : catalogIsCanonical previous entries = true) :
    (∀ entry ∈ entries, previous < entry.id) ∧ entries.Pairwise (·.id < ·.id) := by
  induction entries generalizing previous with
  | nil => exact ⟨nofun, .nil⟩
  | cons entry remaining ih =>
    rw [catalogIsCanonical] at canonical
    split at canonical
    · cases canonical
    · next after =>
      obtain ⟨above, sorted⟩ := ih canonical
      have first : previous < entry.id := UInt32.not_le.mp (not_or.mp after).2
      exact ⟨List.forall_mem_cons.mpr ⟨first, fun other member =>
        UInt32.lt_trans first (above other member)⟩, .cons above sorted⟩

/-- The search of a canonical catalog misses no entry. -/
theorem catalogContains_iff {entries : List CatalogEntry}
    (canonical : catalogIsCanonical 0 entries = true) {id : UInt32} {encodedMinor : UInt16} :
    catalogContains entries id encodedMinor = true ↔
      ∃ entry ∈ entries, entry.id = id ∧ entry.introducedMinor ≤ encodedMinor := by
  have ascends : Ascends (fun entry : CatalogEntry => compare entry.id id) entries := by
    refine (catalogIsCanonical_ascends canonical).2.imp ?_
    intro earlier later ordered notLess
    have reached : id ≤ earlier.id := UInt32.not_lt.mp (mt Std.compare_eq_lt.mpr notLess)
    exact Std.compare_eq_gt.mpr (UInt32.lt_of_le_of_lt reached ordered)
  have found (entry : CatalogEntry) :
      (binarySearchBy entries fun entry => compare entry.id id).bind (entries[·]?) = some entry ↔
        entry ∈ entries ∧ entry.id = id := by
    simp only [Option.bind_eq_some_iff, binarySearchBy_eq_some ascends,
      Std.compare_eq_iff_eq]
    constructor
    · rintro ⟨index, ⟨other, read, same⟩, again⟩
      obtain rfl := Option.some.inj (read.symm.trans again)
      exact ⟨List.mem_of_getElem? read, same⟩
    · rintro ⟨member, same⟩
      obtain ⟨index, read⟩ := List.mem_iff_getElem?.mp member
      exact ⟨index, ⟨entry, read, same⟩, read⟩
  rw [catalogContains]
  split
  · next entry isFound =>
    rw [decide_eq_true_iff]
    constructor
    · intro introduced
      exact ⟨entry, ((found entry).mp isFound).1, ((found entry).mp isFound).2, introduced⟩
    · rintro ⟨other, member, same, introduced⟩
      obtain rfl := Option.some.inj (isFound.symm.trans ((found other).mpr ⟨member, same⟩))
      exact introduced
  · next missing =>
    refine ⟨nofun, ?_⟩
    rintro ⟨entry, member, same, -⟩
    cases missing.symm.trans ((found entry).mpr ⟨member, same⟩)

structure SnapshotV2ComponentKey where
  (kind instanceNumber : UInt32)
deriving DecidableEq, Repr

/-- The order of keys is by kind and then by instance. -/
def SnapshotV2ComponentKey.le (key other : SnapshotV2ComponentKey) : Bool :=
  key.kind < other.kind || (key.kind = other.kind && key.instanceNumber ≤ other.instanceNumber)

inductive SnapshotV2ComponentDisposition where
  | semantic
  | nonSemantic
deriving DecidableEq, Repr

namespace SnapshotV2ComponentDisposition

def flags : SnapshotV2ComponentDisposition → Nat
  | semantic => 0
  | nonSemantic => 1

def ofFlags : Nat → Option SnapshotV2ComponentDisposition
  | 0 => some semantic
  | 1 => some nonSemantic
  | _ => none

end SnapshotV2ComponentDisposition

structure SnapshotV2Component where
  key : SnapshotV2ComponentKey
  disposition : SnapshotV2ComponentDisposition
  payload : List UInt8
deriving DecidableEq, Repr

/-- The offset after a table. -/
def tableEnd {ε : Type} (overflow : ε) (start count size : Nat) : Except ε Nat := do
  let tableBytes ← okOr (checkedMul count size) overflow
  okOr (checkedAdd start tableBytes) overflow

section

inductive SnapshotV2EncodeError where
  | unsupportedVersion (requested maximum : SnapshotFormatVersion)
  | countOutOfBounds (count maximum : Nat)
  | invalidRequiredFeatureInventory
  | unknownRequiredFeature
  | invalidComponentDirectory
  | unknownSemanticComponent
  | lengthOverflow
  | fileTooLarge (length maximum : Nat)
  | allocationFailed
deriving DecidableEq, Repr

structure EncodeLayout where
  (componentDirectoryOffset componentPayloadOffset totalLength : Nat)
deriving DecidableEq, Repr

def validateEncodeCount (count maximum : Nat) : Except SnapshotV2EncodeError Unit :=
  rejectIf (maximum < count) (.countOutOfBounds count maximum)

/-- Walk the features after `previous`. -/
def validateFeatures (catalog : List CatalogEntry) (minor : UInt16) (previous : UInt32) :
    List UInt32 → Except SnapshotV2EncodeError Unit
  | [] => .ok ()
  | feature :: features => do
    rejectIf (feature = 0 ∨ feature ≤ previous) .invalidRequiredFeatureInventory
    rejectIf (!catalogContains catalog feature minor) .unknownRequiredFeature
    validateFeatures catalog minor feature features

/-- Walk the components after `previous`; the result counts their payload bytes. -/
def validateComponents (catalog : List CatalogEntry) (minor : UInt16)
    (previous : Option SnapshotV2ComponentKey) (payloadBytes : Nat) :
    List SnapshotV2Component → Except SnapshotV2EncodeError Nat
  | [] => .ok payloadBytes
  | component :: components => do
    rejectIf (component.key.kind = 0 ∨ previous.any component.key.le ∨ component.payload = [])
      .invalidComponentDirectory
    rejectIf (component.disposition = .semantic ∧ !catalogContains catalog component.key.kind minor)
      .unknownSemanticComponent
    let payloadBytes ← okOr (checkedAdd payloadBytes component.payload.length) .lengthOverflow
    validateComponents catalog minor (some component.key) payloadBytes components

variable (crc64 : Crc64) (component : SnapshotV2Component) (payloadOffset : Nat)
  (version : SnapshotFormatVersion) (requiredFeatures : List UInt32)

def validateEncodeInputs (components : List SnapshotV2Component) (version : SnapshotFormatVersion)
    (featureCatalog componentCatalog : List CatalogEntry) :
    Except SnapshotV2EncodeError EncodeLayout := do
  validateEncodeCount requiredFeatures.length nativeV2SnapshotMaxRequiredFeatures
  validateEncodeCount components.length nativeV2SnapshotMaxComponents
  validateFeatures featureCatalog version.minor 0 requiredFeatures
  let payloadBytes ← validateComponents componentCatalog version.minor none 0 components
  let componentDirectoryOffset ← tableEnd .lengthOverflow nativeV2SnapshotHeaderBytes
    requiredFeatures.length 4
  let componentPayloadOffset ← tableEnd .lengthOverflow componentDirectoryOffset components.length
    nativeV2ComponentDirectoryEntryBytes
  let payloadEnd ← okOr (checkedAdd componentPayloadOffset payloadBytes) .lengthOverflow
  let totalLength ← okOr (checkedAdd payloadEnd nativeV2SnapshotIntegrityBytes) .lengthOverflow
  rejectIf (nativeV2SnapshotMaxFileBytes < totalLength)
    (.fileTooLarge totalLength nativeV2SnapshotMaxFileBytes)
  return { componentDirectoryOffset, componentPayloadOffset, totalLength }

/-- The header fields in order. -/
def stateHeaderFields (featureCount componentCount : Nat) (layout : EncodeLayout)
    : List (List UInt8) :=
  [nativeV2Arm64Magic, leBytes 2 version.major.toNat, leBytes 2 version.minor.toNat,
    leBytes 2 version.patch.toNat, leBytes 2 nativeV2SnapshotHeaderBytes, leBytes 4 0,
    leBytes 4 featureCount, leBytes 4 componentCount, leBytes 4 0, leBytes 8 layout.totalLength,
    leBytes 8 nativeV2SnapshotHeaderBytes, leBytes 8 layout.componentDirectoryOffset,
    leBytes 8 layout.componentPayloadOffset]

def featureBytes (feature : UInt32) : List UInt8 := leBytes 4 feature.toNat

/-- The fields of one directory entry in order. -/
def entryFields : List (List UInt8) :=
  [leBytes 4 component.key.kind.toNat, leBytes 4 component.key.instanceNumber.toNat,
    leBytes 4 component.disposition.flags, leBytes 4 0, leBytes 8 payloadOffset,
    leBytes 8 component.payload.length]

def entryBytes : List UInt8 := (entryFields component payloadOffset).flatten

/-- The directory of components whose payloads start at an offset. -/
def encodeDirectory (payloadOffset : Nat) :
    List SnapshotV2Component → Except SnapshotV2EncodeError (List UInt8)
  | [] => .ok []
  | component :: components => do
    let next ← okOr (checkedAdd payloadOffset component.payload.length) .lengthOverflow
    let rest ← encodeDirectory next components
    return entryBytes component payloadOffset ++ rest

def encodeSnapshotV2StateWithCatalogAndReserve (components : List SnapshotV2Component)
    (version : SnapshotFormatVersion) (featureCatalog componentCatalog : List CatalogEntry)
    (reserve : Bool) : Except SnapshotV2EncodeError (List UInt8) := do
  let layout ← validateEncodeInputs requiredFeatures components version featureCatalog
    componentCatalog
  rejectIf (!reserve) .allocationFailed
  rejectIf (2 ^ 32 ≤ requiredFeatures.length ∨ 2 ^ 32 ≤ components.length) .lengthOverflow
  let directory ← encodeDirectory layout.componentPayloadOffset components
  let bytes :=
    (stateHeaderFields version requiredFeatures.length components.length layout).flatten ++
      requiredFeatures.flatMap featureBytes ++ directory ++ components.flatMap (·.payload)
  return bytes ++ leBytes 8 (crc64 0 bytes).toNat

def isKnownCompatibilityVersion : Bool :=
  version.major = nativeV2LatestKnownCompatibilityVersion.major &&
    version.minor ≤ nativeV2LatestKnownCompatibilityVersion.minor

def encodeSnapshotV2StateWithCompatibilityVersion (components : List SnapshotV2Component)
    (reserve : Bool) : Except SnapshotV2EncodeError (List UInt8) := do
  rejectIf (!isKnownCompatibilityVersion version)
    (.unsupportedVersion version nativeV2LatestKnownCompatibilityVersion)
  encodeSnapshotV2StateWithCatalogAndReserve crc64 requiredFeatures components version
    productionRequiredFeatures productionSemanticComponents reserve

def encodeSnapshotV2State (components : List SnapshotV2Component) (reserve : Bool) :
    Except SnapshotV2EncodeError (List UInt8) :=
  encodeSnapshotV2StateWithCompatibilityVersion crc64 nativeV2SnapshotVersion requiredFeatures
    components reserve

end

section

inductive SnapshotV2DecodeError where
  | truncated (minimum actual : Nat)
  | invalidMagic
  | unsupportedVersion (found supported : SnapshotFormatVersion)
  | invalidHeader
  | countOutOfBounds (count maximum : Nat)
  | lengthOverflow
  | lengthMismatch (declared actual : Nat)
  | fileTooLarge (length maximum : Nat)
  | integrityMismatch
  | invalidRequiredFeatureInventory
  | unknownRequiredFeature
  | invalidComponentDirectory
  | unknownSemanticComponent
deriving DecidableEq, Repr

@[ext]
structure SnapshotV2Metadata where
  version : SnapshotFormatVersion
  (requiredFeatureCount componentCount totalLength : Nat)
deriving DecidableEq, Repr

@[ext]
structure SnapshotV2State where
  bytes : List UInt8
  metadata : SnapshotV2Metadata
  (requiredFeatureOffset componentDirectoryOffset componentPayloadOffset : Nat)
deriving DecidableEq, Repr

variable (crc64 : Crc64) (bytes : List UInt8) (supportedVersion : SnapshotFormatVersion)

def readStateNumber (offset width : Nat) : Except SnapshotV2DecodeError Nat :=
  readNumber .lengthOverflow (.truncated (offset + width) bytes.length) bytes offset width

def readStateU32 (offset : Nat) : Except SnapshotV2DecodeError UInt32 := do
  let value ← readStateNumber bytes offset 4
  return UInt32.ofNat value

def validateDecodeCount (count maximum : Nat) : Except SnapshotV2DecodeError Unit :=
  rejectIf (maximum < count) (.countOutOfBounds count maximum)

/-- Walk `count` features from `position` on. -/
def validateRequiredFeatures (bytes : List UInt8) (encodedMinor : UInt16)
    (catalog : List CatalogEntry) :
    (count position : Nat) → (previous : UInt32) → Except SnapshotV2DecodeError Unit
  | 0, _, _ => .ok ()
  | count + 1, position, previous => do
    let feature ← readStateU32 bytes position
    rejectIf (feature = 0 ∨ feature ≤ previous) .invalidRequiredFeatureInventory
    rejectIf (!catalogContains catalog feature encodedMinor) .unknownRequiredFeature
    let position ← okOr (checkedAdd position 4) .lengthOverflow
    validateRequiredFeatures bytes encodedMinor catalog count position feature

/-- Validate one directory entry. The result is its key, the position after it, and
the offset after its payload. -/
def validateEntry (checksumOffset : Nat) (encodedMinor : UInt16) (catalog : List CatalogEntry)
    (directoryPosition expectedPayloadOffset : Nat) (previous : Option SnapshotV2ComponentKey) :
    Except SnapshotV2DecodeError (SnapshotV2ComponentKey × Nat × Nat) := do
  let entryEnd ← okOr (checkedAdd directoryPosition nativeV2ComponentDirectoryEntryBytes)
    .lengthOverflow
  let entry ← okOr (slice bytes directoryPosition nativeV2ComponentDirectoryEntryBytes)
    .invalidComponentDirectory
  let kind ← readStateU32 entry 0
  let instanceNumber ← readStateU32 entry 4
  let key : SnapshotV2ComponentKey := { kind, instanceNumber }
  rejectIf (kind = 0 ∨ previous.any key.le) .invalidComponentDirectory
  let flags ← readStateNumber entry 8 4
  rejectIf (flags ≠ 0 ∧ flags ≠ 1) .invalidComponentDirectory
  let reserved ← readStateNumber entry 12 4
  rejectIf (reserved ≠ 0) .invalidComponentDirectory
  let payloadOffset ← readStateNumber entry 16 8
  let payloadLength ← readStateNumber entry 24 8
  rejectIf (payloadLength = 0 ∨ payloadOffset ≠ expectedPayloadOffset) .invalidComponentDirectory
  let payloadEnd ← okOr (checkedAdd payloadOffset payloadLength) .lengthOverflow
  rejectIf (checksumOffset < payloadEnd) .invalidComponentDirectory
  rejectIf (flags = 0 ∧ !catalogContains catalog kind encodedMinor) .unknownSemanticComponent
  return (key, entryEnd, payloadEnd)

/-- Walk `count` directory entries; the payloads must end at the checksum. -/
def validateComponentDirectory (bytes : List UInt8) (checksumOffset : Nat) (encodedMinor : UInt16)
    (catalog : List CatalogEntry) :
    (count directoryPosition expectedPayloadOffset : Nat) →
      (previous : Option SnapshotV2ComponentKey) → Except SnapshotV2DecodeError Unit
  | 0, _, expectedPayloadOffset, _ =>
    rejectIf (expectedPayloadOffset ≠ checksumOffset) .invalidComponentDirectory
  | count + 1, directoryPosition, expectedPayloadOffset, previous => do
    let (key, entryEnd, payloadEnd) ← validateEntry bytes checksumOffset encodedMinor catalog
      directoryPosition expectedPayloadOffset previous
    validateComponentDirectory bytes checksumOffset encodedMinor catalog count entryEnd payloadEnd
      (some key)

/-- The fixed fields and the version of the header. -/
def validateStateHeader : Except SnapshotV2DecodeError SnapshotFormatVersion := do
  let minimum := nativeV2SnapshotHeaderBytes + nativeV2SnapshotIntegrityBytes
  rejectIf (bytes.length < minimum) (.truncated minimum bytes.length)
  let magic ← readArray .lengthOverflow (.truncated 8 bytes.length) bytes 0 8
  rejectIf (magic ≠ nativeV2Arm64Magic) .invalidMagic
  let version ← readFormatVersion .lengthOverflow (.truncated · bytes.length) bytes 8
  rejectIf (version.major ≠ supportedVersion.major ∨ supportedVersion.minor < version.minor)
    (.unsupportedVersion version supportedVersion)
  let headerBytes ← readStateNumber bytes 14 2
  let flags ← readStateNumber bytes 16 4
  let reserved ← readStateNumber bytes 28 4
  rejectIf (headerBytes ≠ nativeV2SnapshotHeaderBytes ∨ flags ≠ 0 ∨ reserved ≠ 0) .invalidHeader
  return version

/-- The counts and lengths of the header. -/
def readStateCounts (version : SnapshotFormatVersion) :
    Except SnapshotV2DecodeError SnapshotV2Metadata := do
  let requiredFeatureCount ← readStateNumber bytes 20 4
  let componentCount ← readStateNumber bytes 24 4
  validateDecodeCount requiredFeatureCount nativeV2SnapshotMaxRequiredFeatures
  validateDecodeCount componentCount nativeV2SnapshotMaxComponents
  let totalLength ← readStateNumber bytes 32 8
  rejectIf (nativeV2SnapshotMaxFileBytes < totalLength)
    (.fileTooLarge totalLength nativeV2SnapshotMaxFileBytes)
  rejectIf (totalLength ≠ bytes.length) (.lengthMismatch totalLength bytes.length)
  return { version, requiredFeatureCount, componentCount, totalLength }

/-- The offsets of the header, and where the checksum stands. -/
def readStateOffsets (metadata : SnapshotV2Metadata) :
    Except SnapshotV2DecodeError (SnapshotV2State × Nat) := do
  let requiredFeatureOffset ← readStateNumber bytes 40 8
  let componentDirectoryOffset ← readStateNumber bytes 48 8
  let componentPayloadOffset ← readStateNumber bytes 56 8
  let expectedDirectoryOffset ← tableEnd .lengthOverflow nativeV2SnapshotHeaderBytes
    metadata.requiredFeatureCount 4
  let expectedPayloadOffset ← tableEnd .lengthOverflow expectedDirectoryOffset
    metadata.componentCount nativeV2ComponentDirectoryEntryBytes
  let checksumOffset ← okOr (checkedSub metadata.totalLength nativeV2SnapshotIntegrityBytes)
    .lengthOverflow
  rejectIf (requiredFeatureOffset ≠ nativeV2SnapshotHeaderBytes ∨
    componentDirectoryOffset ≠ expectedDirectoryOffset ∨
    componentPayloadOffset ≠ expectedPayloadOffset ∨ checksumOffset < componentPayloadOffset)
    .invalidHeader
  return ({ bytes, metadata, requiredFeatureOffset, componentDirectoryOffset
            componentPayloadOffset }, checksumOffset)

def decodeSnapshotV2StateWithCatalog (featureCatalog componentCatalog : List CatalogEntry) :
    Except SnapshotV2DecodeError SnapshotV2State := do
  let version ← validateStateHeader bytes supportedVersion
  let metadata ← readStateCounts bytes version
  let (state, checksumOffset) ← readStateOffsets bytes metadata
  let storedChecksum ← readStateNumber bytes checksumOffset 8
  let checksummed ← okOr (slice bytes 0 checksumOffset) .lengthOverflow
  rejectIf ((crc64 0 checksummed).toNat ≠ storedChecksum) .integrityMismatch
  validateRequiredFeatures bytes version.minor featureCatalog metadata.requiredFeatureCount
    state.requiredFeatureOffset 0
  validateComponentDirectory bytes checksumOffset version.minor componentCatalog
    metadata.componentCount state.componentDirectoryOffset state.componentPayloadOffset none
  return state

def decodeSnapshotV2StateWithCompatibilityVersion
    : Except SnapshotV2DecodeError SnapshotV2State := do
  rejectIf (!isKnownCompatibilityVersion supportedVersion)
    (.unsupportedVersion supportedVersion nativeV2LatestKnownCompatibilityVersion)
  decodeSnapshotV2StateWithCatalog crc64 bytes supportedVersion productionRequiredFeatures
    productionSemanticComponents

def decodeSnapshotV2State : Except SnapshotV2DecodeError SnapshotV2State :=
  decodeSnapshotV2StateWithCompatibilityVersion crc64 bytes nativeV2SnapshotVersion

end

def readOption (bytes : List UInt8) (offset width : Nat) : Option Nat := do
  let _ ← checkedAdd offset width
  readLe bytes offset width

structure SnapshotV2RequiredFeatures where
  bytes : List UInt8
  (position remaining : Nat)
deriving DecidableEq, Repr

namespace SnapshotV2RequiredFeatures

def next (iterator : SnapshotV2RequiredFeatures) : Option (UInt32 × SnapshotV2RequiredFeatures) :=
  match iterator.remaining with
  | 0 => none
  | remaining + 1 => do
    let value ← readOption iterator.bytes iterator.position 4
    let position ← checkedAdd iterator.position 4
    return (UInt32.ofNat value, { iterator with position, remaining })

end SnapshotV2RequiredFeatures

structure SnapshotV2Components where
  bytes : List UInt8
  (directoryPosition remaining : Nat)
deriving DecidableEq, Repr

namespace SnapshotV2Components

def next (iterator : SnapshotV2Components) : Option (SnapshotV2Component × SnapshotV2Components) :=
  match iterator.remaining with
  | 0 => none
  | remaining + 1 => do
    let directoryPosition ← checkedAdd iterator.directoryPosition
      nativeV2ComponentDirectoryEntryBytes
    let entry ← slice iterator.bytes iterator.directoryPosition nativeV2ComponentDirectoryEntryBytes
    let kind ← readOption entry 0 4
    let instanceNumber ← readOption entry 4 4
    let flags ← readOption entry 8 4
    let disposition ← SnapshotV2ComponentDisposition.ofFlags flags
    let payloadOffset ← readOption entry 16 8
    let payloadLength ← readOption entry 24 8
    let _ ← checkedAdd payloadOffset payloadLength
    let payload ← slice iterator.bytes payloadOffset payloadLength
    return ({ key := ⟨UInt32.ofNat kind, UInt32.ofNat instanceNumber⟩, disposition, payload },
      { iterator with directoryPosition, remaining })

end SnapshotV2Components

/-- An iterator yields exactly the items, one after the other. -/
def Yields {σ α : Type} (next : σ → Option (α × σ)) : σ → List α → Prop
  | iterator, [] => next iterator = none
  | iterator, item :: items => ∃ rest, next iterator = some (item, rest) ∧ Yields next rest items

/-- An iterator yields one list. -/
theorem Yields.unique {σ α : Type} {next : σ → Option (α × σ)} {iterator : σ}
    {first second : List α} (yieldsFirst : Yields next iterator first)
    (yieldsSecond : Yields next iterator second) : first = second := by
  induction first generalizing iterator second with
  | nil =>
    cases second with
    | nil => rfl
    | cons item items =>
      obtain ⟨rest, found, -⟩ := yieldsSecond
      rw [show next iterator = none from yieldsFirst] at found
      cases found
  | cons item items ih =>
    obtain ⟨rest, found, restYields⟩ := yieldsFirst
    cases second with
    | nil =>
      rw [show next iterator = none from yieldsSecond] at found
      cases found
    | cons other others =>
      obtain ⟨otherRest, otherFound, othersYield⟩ := yieldsSecond
      obtain ⟨rfl, rfl⟩ := Prod.mk.inj (Option.some.inj (found.symm.trans otherFound))
      rw [ih restYields othersYield]

namespace SnapshotV2State

variable (state : SnapshotV2State)

def requiredFeatures : SnapshotV2RequiredFeatures :=
  { bytes := state.bytes
    position := state.requiredFeatureOffset
    remaining := state.metadata.requiredFeatureCount }

def components : SnapshotV2Components :=
  { bytes := state.bytes
    directoryPosition := state.componentDirectoryOffset
    remaining := state.metadata.componentCount }

end SnapshotV2State
end Bangbang.Snapshot
