import Bangbang.Snapshot.StateContainer

/-!
# The state container codec

The decoder's two loops accept exactly the tables which the encoder's checks
admit: `validateRequiredFeatures_eq_ok` and `validateComponentDirectory_eq_ok`
find the features and components behind the bytes. `decode_eq_ok` puts them
together: what decodes is `container` of an admissible inventory.
-/

namespace Bangbang.Snapshot

open List

variable {bytes : List UInt8} {catalog : List CatalogEntry} {minor : UInt16}

section

theorem readStateU32_eq_ok {offset value} :
    readStateU32 bytes offset = .ok value ↔
      offset + 4 < wordLimit ∧ slice bytes offset 4 = some (leBytes 4 value.toNat) := by
  simp only [readStateU32, readStateNumber, bind_eq_ok, readNumber_eq_ok, pure_eq_ok]
  constructor
  · rintro ⟨number, ⟨near, fits, found⟩, rfl⟩
    rw [UInt32.toNat_ofNat_of_lt' fits]
    exact ⟨near, found⟩
  · rintro ⟨near, found⟩
    exact ⟨value.toNat, ⟨near, value.toNat_lt, found⟩, UInt32.ofNat_toNat⟩

variable {offset width value}

theorem readStateNumber_eq_ok :
    readStateNumber bytes offset width = .ok value ↔
      offset + width < wordLimit ∧ value < 256 ^ width ∧
        slice bytes offset width = some (leBytes width value) :=
  readNumber_eq_ok

theorem readOption_eq_some :
    readOption bytes offset width = some value ↔
      offset + width < wordLimit ∧ value < 256 ^ width ∧
        slice bytes offset width = some (leBytes width value) := by
  simp [readOption, Option.bind_eq_some_iff, readLe_eq_some_iff]

theorem tableEnd_eq_ok {ε : Type} {overflow : ε} {start count size stop} :
    tableEnd overflow start count size = .ok stop ↔
      start + count * size = stop ∧ stop < wordLimit := by
  simp only [tableEnd, bind_eq_ok, okOr_eq_ok, checkedMul_eq_some, checkedAdd_eq_some]
  constructor
  · rintro ⟨_, ⟨-, rfl⟩, bounded, rfl⟩
    exact ⟨rfl, bounded⟩
  · rintro ⟨rfl, bounded⟩
    exact ⟨_, ⟨by omega, rfl⟩, bounded, rfl⟩

end

theorem length_featureBytes (feature) : (featureBytes feature).length = 4 :=
  length_leBytes 4 _

/-- The decoder accepts a feature table when the encoder admits the features in it. -/
theorem validateRequiredFeatures_eq_ok {count position previous done}
    (inside : position + count * 4 ≤ bytes.length) (small : bytes.length < wordLimit) :
    validateRequiredFeatures bytes minor catalog count position previous = .ok done ↔
      ∃ features, features.length = count ∧
        validateFeatures catalog minor previous features = .ok () ∧
        HasFields bytes position (features.map featureBytes) := by
  induction count generalizing position previous with
  | zero =>
    constructor
    · intro _
      exact ⟨[], rfl, rfl, by simpa [HasFields] using inside⟩
    · intro _
      rfl
  | succ count ih =>
    have rest : position + 4 + count * 4 ≤ bytes.length := by omega
    simp only [validateRequiredFeatures, bind_eq_ok, readStateU32_eq_ok, rejectIf_eq_ok,
      okOr_eq_ok, checkedAdd_eq_some]
    constructor
    · rintro ⟨feature, ⟨-, found⟩, _, ordered, _, known, _, ⟨-, rfl⟩, others⟩
      obtain ⟨features, rfl, valid, table⟩ := (ih rest).mp others
      refine ⟨feature :: features, rfl, ?_, ?_⟩
      · simp only [validateFeatures, bind_eq_ok, rejectIf_eq_ok]
        exact ⟨(), ordered, (), known, valid⟩
      · exact ⟨found, table⟩
    · rintro ⟨features, length, valid, table⟩
      cases features with
      | nil => cases length
      | cons feature features =>
        simp only [validateFeatures, bind_eq_ok, rejectIf_eq_ok] at valid
        obtain ⟨_, ordered, _, known, valid⟩ := valid
        exact ⟨feature, ⟨by omega, table.1⟩, (), ordered, (), known, _, ⟨by omega, rfl⟩,
          (ih rest).mpr ⟨features, Nat.succ.inj length, valid, table.2⟩⟩

/-- The iterator reads the feature table back. -/
theorem requiredFeatures_yields {features position}
    (table : HasFields bytes position (features.map featureBytes))
    (small : bytes.length < wordLimit) :
    Yields SnapshotV2RequiredFeatures.next ⟨bytes, position, features.length⟩ features := by
  induction features generalizing position with
  | nil => rfl
  | cons feature features ih =>
    rw [map_cons, HasFields, length_featureBytes] at table
    have inside := (hasFields_iff.mp table.2).1
    have read : readOption bytes position 4 = some feature.toNat :=
      readOption_eq_some.mpr ⟨by omega, feature.toNat_lt, table.1⟩
    have step : checkedAdd position 4 = some (position + 4) :=
      checkedAdd_eq_some.mpr ⟨by omega, rfl⟩
    refine ⟨_, ?_, ih table.2⟩
    simp [SnapshotV2RequiredFeatures.next, read, step]

section

/-- The entries of components whose payloads start at an offset. -/
def directoryFields : Nat → List SnapshotV2Component → List (List UInt8)
  | _, [] => []
  | offset, component :: components =>
    entryBytes component offset :: directoryFields (offset + component.payload.length) components

/-- A component which the encoder admits after a key. -/
structure AdmissibleEntry (catalog : List CatalogEntry) (minor : UInt16)
    (previous : Option SnapshotV2ComponentKey) (component : SnapshotV2Component) : Prop where
  kind : component.key.kind ≠ 0
  ordered : ¬ previous.any component.key.le
  nonempty : component.payload ≠ []
  known : ¬ (component.disposition = .semantic ∧ !catalogContains catalog component.key.kind minor)

/-- The inventory which the encoder admits after a key. -/
def Admissible (catalog : List CatalogEntry) (minor : UInt16) :
    Option SnapshotV2ComponentKey → List SnapshotV2Component → Prop
  | _, [] => True
  | previous, component :: components =>
    AdmissibleEntry catalog minor previous component ∧
      Admissible catalog minor (some component.key) components

/-- The bytes of all payloads. -/
def payloads (components : List SnapshotV2Component) : List UInt8 :=
  (components.map (·.payload)).flatten

theorem length_entryBytes (component offset) :
    (entryBytes component offset).length = nativeV2ComponentDirectoryEntryBytes := by
  simp [entryBytes, entryFields, nativeV2ComponentDirectoryEntryBytes]

theorem length_directoryFields (offset components) :
    (directoryFields offset components).flatten.length =
      components.length * nativeV2ComponentDirectoryEntryBytes := by
  induction components generalizing offset with
  | nil => simp [directoryFields]
  | cons component components ih =>
    rw [directoryFields, flatten_cons, length_append, length_entryBytes, ih,
      length_cons, Nat.succ_mul, Nat.add_comm]

theorem length_payloads_cons (component components) :
    (payloads (component :: components)).length =
      component.payload.length + (payloads components).length := by
  simp [payloads]

variable {components}

/-- The encoder admits admissible components. -/
theorem validateComponents_eq_ok {previous total stop} (small : total < wordLimit) :
    validateComponents catalog minor previous total components = .ok stop ↔
      Admissible catalog minor previous components ∧
        total + (payloads components).length = stop ∧ stop < wordLimit := by
  induction components generalizing previous total with
  | nil =>
    simp only [validateComponents, Admissible, payloads, map_nil, flatten_nil,
      length_nil, Nat.add_zero, true_and, Except.ok.injEq]
    constructor
    · rintro rfl
      exact ⟨rfl, small⟩
    · rintro ⟨rfl, -⟩
      rfl
  | cons component components ih =>
    simp only [validateComponents, bind_eq_ok, rejectIf_eq_ok, okOr_eq_ok, checkedAdd_eq_some,
      Admissible, length_payloads_cons, not_or]
    constructor
    · rintro ⟨_, ⟨kind, ordered, nonempty⟩, _, known, _, ⟨bounded, rfl⟩, rest⟩
      obtain ⟨admissible, rfl, fits⟩ := (ih bounded).mp rest
      exact ⟨⟨⟨kind, ordered, nonempty, known⟩, admissible⟩, by omega, fits⟩
    · rintro ⟨⟨⟨kind, ordered, nonempty, known⟩, admissible⟩, rfl, fits⟩
      exact ⟨(), ⟨kind, ordered, nonempty⟩, (), known, _, ⟨by omega, rfl⟩,
        (ih (by omega)).mpr ⟨admissible, by omega, fits⟩⟩

/-- A directory which fits is encoded. -/
theorem encodeDirectory_eq {offset} (fits : offset + (payloads components).length < wordLimit) :
    encodeDirectory offset components = .ok (directoryFields offset components).flatten := by
  induction components generalizing offset with
  | nil => rfl
  | cons component components ih =>
    rw [length_payloads_cons] at fits
    simp only [encodeDirectory, bind_eq_ok, okOr_eq_ok, checkedAdd_eq_some, pure_eq_ok]
    exact ⟨_, ⟨by omega, rfl⟩, _, ih (by omega), rfl⟩

/-- The fields of an entry stand at their offsets. -/
theorem eq_entryBytes_iff {entry component offset} :
    entry = entryBytes component offset ↔
      slice entry 0 4 = some (leBytes 4 component.key.kind.toNat) ∧
      slice entry 4 4 = some (leBytes 4 component.key.instanceNumber.toNat) ∧
      slice entry 8 4 = some (leBytes 4 component.disposition.flags) ∧
      slice entry 12 4 = some (leBytes 4 0) ∧
      slice entry 16 8 = some (leBytes 8 offset) ∧
      slice entry 24 8 = some (leBytes 8 component.payload.length) ∧
      entry.length = nativeV2ComponentDirectoryEntryBytes := by
  rw [entryBytes, eq_flatten_iff, ← entryBytes, length_entryBytes]
  simp only [entryFields, HasFields, length_leBytes, Nat.zero_add, Nat.reduceAdd, and_assoc,
    nativeV2ComponentDirectoryEntryBytes]
  constructor
  · rintro ⟨kind, number, flags, reserved, position, size, -, length⟩
    exact ⟨kind, number, flags, reserved, position, size, length⟩
  · rintro ⟨kind, number, flags, reserved, position, size, length⟩
    exact ⟨kind, number, flags, reserved, position, size, by omega, length⟩

theorem flags_injective {first second : SnapshotV2ComponentDisposition}
    (same : first.flags = second.flags) : first = second := by
  cases first <;> cases second <;> simp_all [SnapshotV2ComponentDisposition.flags]

/-- The decoder accepts an entry when it is the one of an admissible component whose
payload stands at the expected offset. -/
theorem validateEntry_eq_ok {checksumOffset position expected previous key entryEnd payloadEnd}
    (checksumInside : checksumOffset ≤ bytes.length) (small : bytes.length < wordLimit) :
    validateEntry bytes checksumOffset minor catalog position expected previous =
        .ok (key, entryEnd, payloadEnd) ↔
      ∃ component, component.key = key ∧
        position + nativeV2ComponentDirectoryEntryBytes = entryEnd ∧
        expected + component.payload.length = payloadEnd ∧ payloadEnd ≤ checksumOffset ∧
        AdmissibleEntry catalog minor previous component ∧
        slice bytes position nativeV2ComponentDirectoryEntryBytes =
          some (entryBytes component expected) ∧
        slice bytes expected component.payload.length = some component.payload := by
  simp only [validateEntry, bind_eq_ok, okOr_eq_ok, checkedAdd_eq_some, readStateU32_eq_ok,
    readStateNumber_eq_ok, rejectIf_eq_ok, pure_eq_ok, Prod.mk.injEq, not_or, not_not, Nat.not_lt]
  constructor
  · rintro ⟨_, ⟨-, rfl⟩, entry, foundEntry, kind, ⟨-, foundKind⟩, number, ⟨-, foundNumber⟩, _,
      ⟨nonzero, ordered⟩, flags, ⟨-, -, foundFlags⟩, _, validFlags, _, ⟨-, -, foundReserved⟩, _,
      rfl, offset, ⟨-, -, foundOffset⟩, length, ⟨-, -, foundLength⟩, _, ⟨nonempty, rfl⟩, _, ⟨-, rfl⟩, _,
      inside, _, known, rfl, rfl, rfl⟩
    obtain ⟨disposition, rfl⟩ : ∃ disposition : SnapshotV2ComponentDisposition,
        disposition.flags = flags := by
      by_cases semantic : flags = 0
      · exact ⟨.semantic, semantic.symm⟩
      · exact ⟨.nonSemantic, (Classical.not_not.mp fun other => validFlags ⟨semantic, other⟩).symm⟩
    obtain ⟨payload, foundPayload⟩ : ∃ payload, slice bytes offset length = some payload := by
      cases found : slice bytes offset length with
      | some payload => exact ⟨payload, rfl⟩
      | none =>
        rw [slice_eq_none_iff] at found
        omega
    obtain ⟨-, rfl, -⟩ := slice_eq_some_iff.mp foundPayload
    have entryLength := (slice_eq_some_iff.mp foundEntry).2.1
    have isEntry : entry = entryBytes ⟨⟨kind, number⟩, disposition, payload⟩ offset :=
      eq_entryBytes_iff.mpr ⟨foundKind, foundNumber, foundFlags, foundReserved, foundOffset,
        foundLength, entryLength⟩
    refine ⟨⟨⟨kind, number⟩, disposition, payload⟩, rfl, rfl, rfl, inside,
      ⟨nonzero, ordered, ?_, ?_⟩, isEntry ▸ foundEntry, foundPayload⟩
    · exact List.ne_nil_of_length_pos (Nat.pos_of_ne_zero nonempty)
    · rintro ⟨semantic, unknown⟩
      obtain rfl : disposition = .semantic := semantic
      exact known ⟨rfl, unknown⟩
  · rintro ⟨component, rfl, rfl, rfl, inside, admissible, foundEntry, foundPayload⟩
    obtain ⟨kind, number, flags, reserved, offset, length, -⟩ :=
      eq_entryBytes_iff.mp (rfl : entryBytes component expected = _)
    have entryInside : position + nativeV2ComponentDirectoryEntryBytes < wordLimit := by
      have := slice_bound foundEntry
      omega
    have nonempty := List.length_pos_of_ne_nil admissible.nonempty
    have flagsFit : component.disposition.flags < 256 ^ 4 := by
      cases component.disposition <;> simp [SnapshotV2ComponentDisposition.flags]
    have word : 256 ^ 8 = wordLimit := rfl
    refine ⟨_, ⟨entryInside, rfl⟩, _, foundEntry, component.key.kind, ⟨by decide, kind⟩,
      component.key.instanceNumber, ⟨by decide, number⟩, (), ⟨admissible.kind, admissible.ordered⟩,
      _, ⟨by decide, flagsFit, flags⟩, (), ?_, 0, ⟨by decide, by decide, reserved⟩, (), rfl, expected,
      ⟨by decide, by omega, offset⟩, _, ⟨by decide, by omega, length⟩, (), ⟨by omega, rfl⟩, _,
      ⟨by omega, rfl⟩, (), inside, (), ?_, rfl, rfl, rfl⟩
    · cases component.disposition <;> simp [SnapshotV2ComponentDisposition.flags]
    · rintro ⟨semantic, unknown⟩
      exact admissible.known ⟨flags_injective semantic, unknown⟩

/-- The decoder accepts a directory when the encoder admits the components in it. -/
theorem validateComponentDirectory_eq_ok {checksumOffset count position expected previous done}
    (checksumInside : checksumOffset ≤ bytes.length) (small : bytes.length < wordLimit)
    (directoryInside : position + count * nativeV2ComponentDirectoryEntryBytes ≤ bytes.length) :
    validateComponentDirectory bytes checksumOffset minor catalog count position expected previous =
        .ok done ↔
      ∃ components, components.length = count ∧ Admissible catalog minor previous components ∧
        HasFields bytes position (directoryFields expected components) ∧
        HasFields bytes expected (components.map (·.payload)) ∧
        expected + (payloads components).length = checksumOffset := by
  induction count generalizing position expected previous with
  | zero =>
    simp only [validateComponentDirectory, rejectIf_eq_ok, not_not]
    constructor
    · rintro rfl
      exact ⟨[], rfl, trivial, by simpa [directoryFields, HasFields] using directoryInside,
        checksumInside, rfl⟩
    · rintro ⟨components, none, -, -, -, total⟩
      obtain rfl := length_eq_zero_iff.mp none
      exact total
  | succ count ih =>
    have rest : position + nativeV2ComponentDirectoryEntryBytes +
        count * nativeV2ComponentDirectoryEntryBytes ≤ bytes.length := by
      rw [Nat.succ_mul] at directoryInside
      omega
    simp only [validateComponentDirectory, bind_eq_ok, Prod.exists,
      validateEntry_eq_ok checksumInside small]
    constructor
    · rintro ⟨_, _, _, ⟨component, rfl, rfl, rfl, -, admissible, foundEntry, foundPayload⟩, others⟩
      obtain ⟨components, rfl, admissibleRest, directory, payloads, total⟩ := (ih rest).mp others
      refine ⟨component :: components, rfl, ⟨admissible, admissibleRest⟩, ?_,
        ⟨foundPayload, payloads⟩, ?_⟩
      · exact ⟨foundEntry, directory⟩
      · rw [length_payloads_cons]
        omega
    · rintro ⟨components, length, admissible, directory, payloads, total⟩
      cases components with
      | nil => cases length
      | cons component components =>
        rw [length_payloads_cons] at total
        exact ⟨_, _, _, ⟨component, rfl, rfl, rfl, by omega, admissible.1, directory.1,
          payloads.1⟩, (ih rest).mpr ⟨components, Nat.succ.inj length, admissible.2, directory.2,
          payloads.2, by omega⟩⟩

/-- The iterator reads the directory and the payloads back. -/
theorem components_yields {position expected}
    (directory : HasFields bytes position (directoryFields expected components))
    (payloads : HasFields bytes expected (components.map (·.payload)))
    (small : bytes.length < wordLimit) :
    Yields SnapshotV2Components.next ⟨bytes, position, components.length⟩ components := by
  induction components generalizing position expected with
  | nil => rfl
  | cons component components ih =>
    rw [directoryFields, HasFields, length_entryBytes] at directory
    obtain ⟨foundEntry, directory⟩ := directory
    obtain ⟨foundPayload, payloads⟩ := payloads
    change slice bytes expected component.payload.length = some component.payload at foundPayload
    obtain ⟨kind, number, flags, -, offset, length, -⟩ :=
      eq_entryBytes_iff.mp (rfl : entryBytes component expected = _)
    have entryInside := slice_bound foundEntry
    have payloadInside := slice_bound foundPayload
    have flagsFit : component.disposition.flags < 256 ^ 4 := by
      cases component.disposition <;> simp [SnapshotV2ComponentDisposition.flags]
    have word : 256 ^ 8 = wordLimit := rfl
    have readKind := readOption_eq_some.mpr ⟨by decide, component.key.kind.toNat_lt, kind⟩
    have readNumber := readOption_eq_some.mpr
      ⟨by decide, component.key.instanceNumber.toNat_lt, number⟩
    have readFlags := readOption_eq_some.mpr ⟨by decide, flagsFit, flags⟩
    have readOffset := readOption_eq_some.mpr ⟨by decide, by omega, offset⟩
    have readLength := readOption_eq_some.mpr ⟨by decide, by omega, length⟩
    have disposition : SnapshotV2ComponentDisposition.ofFlags component.disposition.flags =
        some component.disposition := by
      cases component.disposition <;> rfl
    have step : checkedAdd position nativeV2ComponentDirectoryEntryBytes = some _ :=
      checkedAdd_eq_some.mpr ⟨by omega, rfl⟩
    have payloadEnd : checkedAdd expected component.payload.length = some _ :=
      checkedAdd_eq_some.mpr ⟨by omega, rfl⟩
    refine ⟨_, ?_, ih directory payloads⟩
    simp [SnapshotV2Components.next, step, foundEntry, readKind, readNumber, readFlags, readOffset,
      readLength, disposition, payloadEnd, foundPayload]

end

section
variable {crc64 : Crc64} {featureCatalog componentCatalog : List CatalogEntry}
  {version supported : SnapshotFormatVersion} {features : List UInt32}
  {components : List SnapshotV2Component}

/-- Where the parts of a container stand. -/
def containerLayout (features : List UInt32) (components : List SnapshotV2Component) :
    EncodeLayout :=
  let directoryOffset := nativeV2SnapshotHeaderBytes + features.length * 4
  let payloadOffset := directoryOffset + components.length * nativeV2ComponentDirectoryEntryBytes
  { componentDirectoryOffset := directoryOffset
    componentPayloadOffset := payloadOffset
    totalLength := payloadOffset + (payloads components).length + nativeV2SnapshotIntegrityBytes }

/-- Everything before the checksum, field by field. -/
def containerFields (version : SnapshotFormatVersion) (features : List UInt32)
    (components : List SnapshotV2Component) : List (List UInt8) :=
  stateHeaderFields version features.length components.length (containerLayout features components) ++
    (features.map featureBytes ++
      (directoryFields (containerLayout features components).componentPayloadOffset components ++
        components.map (·.payload)))

/-- The bytes which an inventory encodes to. -/
def container (crc64 : Crc64) (version : SnapshotFormatVersion) (features : List UInt32)
    (components : List SnapshotV2Component) : List UInt8 :=
  (containerFields version features components).flatten ++
    leBytes 8 (crc64 0 (containerFields version features components).flatten).toNat

/-- An inventory which the encoder accepts. -/
structure Inventory (featureCatalog componentCatalog : List CatalogEntry)
    (version : SnapshotFormatVersion) (features : List UInt32)
    (components : List SnapshotV2Component) : Prop where
  featureCount : features.length ≤ nativeV2SnapshotMaxRequiredFeatures
  componentCount : components.length ≤ nativeV2SnapshotMaxComponents
  validFeatures : validateFeatures featureCatalog version.minor 0 features = .ok ()
  admissible : Admissible componentCatalog version.minor none components
  fits : (containerLayout features components).totalLength ≤ nativeV2SnapshotMaxFileBytes

variable {layout}

/-- The encoder accepts inventories. -/
theorem validateEncodeInputs_eq_ok :
    validateEncodeInputs features components version featureCatalog componentCatalog = .ok layout ↔
      Inventory featureCatalog componentCatalog version features components ∧
        layout = containerLayout features components := by
  have zero : 0 < wordLimit := by decide
  have maximum : nativeV2SnapshotMaxFileBytes < wordLimit := by decide
  simp only [validateEncodeInputs, validateEncodeCount, bind_eq_ok, rejectIf_eq_ok, Nat.not_lt,
    validateComponents_eq_ok zero, tableEnd_eq_ok, okOr_eq_ok, checkedAdd_eq_some, pure_eq_ok,
    Nat.zero_add]
  constructor
  · rintro ⟨_, featureCount, _, componentCount, _, valid, _, ⟨admissible, rfl, -⟩, _, ⟨rfl, -⟩, _,
      ⟨rfl, -⟩, _, ⟨-, rfl⟩, _, ⟨-, rfl⟩, _, fits, rfl⟩
    exact ⟨⟨featureCount, componentCount, valid, admissible, fits⟩, rfl⟩
  · rintro ⟨inventory, rfl⟩
    have fits := inventory.fits
    simp only [containerLayout] at fits ⊢
    exact ⟨(), inventory.featureCount, (), inventory.componentCount, (), inventory.validFeatures, _,
      ⟨inventory.admissible, rfl, by omega⟩, _, ⟨rfl, by omega⟩, _, ⟨rfl, by omega⟩, _,
      ⟨by omega, rfl⟩, _, ⟨by omega, rfl⟩, (), fits, rfl⟩

/-- What is encoded is the container of an inventory. -/
theorem encode_eq_ok {reserve} :
    encodeSnapshotV2StateWithCatalogAndReserve crc64 features components version featureCatalog
        componentCatalog reserve = .ok bytes ↔
      reserve = true ∧ Inventory featureCatalog componentCatalog version features components ∧
        bytes = container crc64 version features components := by
  have body (directory : List UInt8)
      (isDirectory : directory = (directoryFields
        (containerLayout features components).componentPayloadOffset components).flatten) :
      (stateHeaderFields version features.length components.length
          (containerLayout features components)).flatten ++ features.flatMap featureBytes ++
        directory ++ components.flatMap (·.payload) =
      (containerFields version features components).flatten := by
    simp [containerFields, isDirectory, flatMap_def]
  have encodes (inventory : Inventory featureCatalog componentCatalog version features components) :
      encodeDirectory (containerLayout features components).componentPayloadOffset components =
        .ok (directoryFields (containerLayout features components).componentPayloadOffset
          components).flatten := by
    have fits := inventory.fits
    have maximum : nativeV2SnapshotMaxFileBytes < wordLimit := by decide
    apply encodeDirectory_eq
    simp only [containerLayout] at fits ⊢
    omega
  simp only [encodeSnapshotV2StateWithCatalogAndReserve, bind_eq_ok, validateEncodeInputs_eq_ok,
    rejectIf_eq_ok, pure_eq_ok]
  constructor
  · rintro ⟨_, ⟨inventory, rfl⟩, _, granted, _, -, directory, directoryEncodes, rfl⟩
    have isDirectory := Except.ok.inj (directoryEncodes.symm.trans (encodes inventory))
    refine ⟨by simpa using granted, inventory, ?_⟩
    rw [body directory isDirectory, container]
  · rintro ⟨rfl, inventory, rfl⟩
    have featureCount := inventory.featureCount
    have componentCount := inventory.componentCount
    unfold nativeV2SnapshotMaxRequiredFeatures at featureCount
    unfold nativeV2SnapshotMaxComponents at componentCount
    refine ⟨_, ⟨inventory, rfl⟩, (), Bool.false_ne_true, (), by omega, _, encodes inventory, ?_⟩
    rw [body _ rfl, container]

theorem length_stateHeaderFields (version featureCount componentCount layout) :
    (stateHeaderFields version featureCount componentCount layout).flatten.length =
      nativeV2SnapshotHeaderBytes := by
  simp [stateHeaderFields, nativeV2Arm64Magic, nativeV2SnapshotHeaderBytes]

theorem length_containerFields (version features components) :
    (containerFields version features components).flatten.length +
        nativeV2SnapshotIntegrityBytes = (containerLayout features components).totalLength := by
  rw [containerFields, flatten_append, flatten_append, flatten_append,
    length_append, length_append, length_append, length_stateHeaderFields,
    ← flatMap_def, length_flatMap_records length_featureBytes, length_directoryFields]
  simp only [containerLayout, payloads]
  omega

/-- The parts of a container stand where its layout says. -/
theorem hasContainerFields_iff :
    HasFields bytes 0 (containerFields version features components) ↔
      HasFields bytes 0 (stateHeaderFields version features.length components.length
        (containerLayout features components)) ∧
      HasFields bytes nativeV2SnapshotHeaderBytes (features.map featureBytes) ∧
      HasFields bytes (containerLayout features components).componentDirectoryOffset
        (directoryFields (containerLayout features components).componentPayloadOffset components) ∧
      HasFields bytes (containerLayout features components).componentPayloadOffset
        (components.map (·.payload)) := by
  have featureTable : (features.map featureBytes).flatten.length = features.length * 4 := by
    rw [← flatMap_def, length_flatMap_records length_featureBytes]
  rw [containerFields, hasFields_append, hasFields_append, hasFields_append,
    length_stateHeaderFields, featureTable, length_directoryFields, Nat.zero_add]
  rfl

/-- The fields and the checksum after them make a container. -/
theorem eq_container_iff :
    bytes = container crc64 version features components ↔
      HasFields bytes 0 (containerFields version features components) ∧
        bytes.length = (containerLayout features components).totalLength ∧
        slice bytes (containerFields version features components).flatten.length 8 =
          some (leBytes 8 (crc64 0 (containerFields version features components).flatten).toNat) := by
  have total := length_containerFields version features components
  have whole : container crc64 version features components =
      (containerFields version features components ++
        [leBytes 8 (crc64 0 (containerFields version features components).flatten).toNat]).flatten := by
    simp [container]
  rw [whole, eq_flatten_iff, hasFields_append]
  simp only [HasFields, flatten_append, flatten_singleton, length_append,
    length_leBytes, Nat.zero_add]
  rw [nativeV2SnapshotIntegrityBytes] at total
  constructor
  · rintro ⟨⟨fields, checksum, -⟩, length⟩
    exact ⟨fields, by omega, checksum⟩
  · rintro ⟨fields, length, checksum⟩
    exact ⟨⟨fields, checksum, by omega⟩, by omega⟩

/-- What the decoder makes of a container. -/
def containerState (bytes : List UInt8) (version : SnapshotFormatVersion) (features : List UInt32)
    (components : List SnapshotV2Component) : SnapshotV2State :=
  { bytes
    metadata :=
      { version
        requiredFeatureCount := features.length
        componentCount := components.length
        totalLength := (containerLayout features components).totalLength }
    requiredFeatureOffset := nativeV2SnapshotHeaderBytes
    componentDirectoryOffset := (containerLayout features components).componentDirectoryOffset
    componentPayloadOffset := (containerLayout features components).componentPayloadOffset }

/-- The header fields stand at their offsets. -/
theorem hasStateHeader_iff {featureCount componentCount} :
    HasFields bytes 0 (stateHeaderFields version featureCount componentCount layout) ↔
      slice bytes 0 8 = some nativeV2Arm64Magic ∧
      slice bytes 8 2 = some (leBytes 2 version.major.toNat) ∧
      slice bytes 10 2 = some (leBytes 2 version.minor.toNat) ∧
      slice bytes 12 2 = some (leBytes 2 version.patch.toNat) ∧
      slice bytes 14 2 = some (leBytes 2 nativeV2SnapshotHeaderBytes) ∧
      slice bytes 16 4 = some (leBytes 4 0) ∧
      slice bytes 20 4 = some (leBytes 4 featureCount) ∧
      slice bytes 24 4 = some (leBytes 4 componentCount) ∧
      slice bytes 28 4 = some (leBytes 4 0) ∧
      slice bytes 32 8 = some (leBytes 8 layout.totalLength) ∧
      slice bytes 40 8 = some (leBytes 8 nativeV2SnapshotHeaderBytes) ∧
      slice bytes 48 8 = some (leBytes 8 layout.componentDirectoryOffset) ∧
      slice bytes 56 8 = some (leBytes 8 layout.componentPayloadOffset) ∧
      nativeV2SnapshotHeaderBytes ≤ bytes.length := by
  have magicLength : nativeV2Arm64Magic.length = 8 := rfl
  rfl

/-- A header is accepted from its fields only. -/
theorem validateStateHeader_eq_ok :
    validateStateHeader bytes supported = .ok version ↔
      nativeV2SnapshotHeaderBytes + nativeV2SnapshotIntegrityBytes ≤ bytes.length ∧
      (version.major = supported.major ∧ version.minor ≤ supported.minor) ∧
      slice bytes 0 8 = some nativeV2Arm64Magic ∧
      slice bytes 8 2 = some (leBytes 2 version.major.toNat) ∧
      slice bytes 10 2 = some (leBytes 2 version.minor.toNat) ∧
      slice bytes 12 2 = some (leBytes 2 version.patch.toNat) ∧
      slice bytes 14 2 = some (leBytes 2 nativeV2SnapshotHeaderBytes) ∧
      slice bytes 16 4 = some (leBytes 4 0) ∧ slice bytes 28 4 = some (leBytes 4 0) := by
  have versionNear : 8 + 6 < wordLimit := by decide
  simp only [validateStateHeader, bind_eq_ok, rejectIf_eq_ok, readArray_eq_ok,
    readFormatVersion_eq_ok versionNear, readStateNumber_eq_ok, pure_eq_ok, not_or, not_not,
    Nat.not_lt, UInt16.not_lt]
  constructor
  · rintro ⟨_, long, _, ⟨-, magic⟩, _, rfl, _, ⟨major, minor, patch⟩, _, compatible, _,
      ⟨-, -, size⟩, _, ⟨-, -, flags⟩, _, ⟨-, -, reserved⟩, _, ⟨rfl, rfl, rfl⟩, rfl⟩
    exact ⟨long, compatible, magic, major, minor, patch, size, flags, reserved⟩
  · rintro ⟨long, compatible, magic, major, minor, patch, size, flags, reserved⟩
    exact ⟨(), long, _, ⟨by decide, magic⟩, (), rfl, version, ⟨major, minor, patch⟩, (), compatible,
      _, ⟨by decide, by decide, size⟩, _, ⟨by decide, by decide, flags⟩, _,
      ⟨by decide, by decide, reserved⟩, (), ⟨rfl, rfl, rfl⟩, rfl⟩

variable {metadata : SnapshotV2Metadata}

/-- The counts are read within their limits. -/
theorem readStateCounts_eq_ok :
    readStateCounts bytes version = .ok metadata ↔
      metadata.version = version ∧
      metadata.requiredFeatureCount ≤ nativeV2SnapshotMaxRequiredFeatures ∧
      metadata.componentCount ≤ nativeV2SnapshotMaxComponents ∧
      metadata.totalLength ≤ nativeV2SnapshotMaxFileBytes ∧ metadata.totalLength = bytes.length ∧
      slice bytes 20 4 = some (leBytes 4 metadata.requiredFeatureCount) ∧
      slice bytes 24 4 = some (leBytes 4 metadata.componentCount) ∧
      slice bytes 32 8 = some (leBytes 8 metadata.totalLength) := by
  simp only [readStateCounts, validateDecodeCount, bind_eq_ok, readStateNumber_eq_ok, rejectIf_eq_ok,
    pure_eq_ok, not_not, Nat.not_lt]
  constructor
  · rintro ⟨_, ⟨-, -, foundFeatures⟩, _, ⟨-, -, foundComponents⟩, _, featureCount, _,
      componentCount, _, ⟨-, -, foundLength⟩, _, fits, _, length, rfl⟩
    exact ⟨rfl, featureCount, componentCount, fits, length, foundFeatures, foundComponents,
      foundLength⟩
  · rintro ⟨rfl, featureCount, componentCount, fits, length, foundFeatures, foundComponents,
      foundLength⟩
    have featuresFit : metadata.requiredFeatureCount < 256 ^ 4 := by
      unfold nativeV2SnapshotMaxRequiredFeatures at featureCount
      omega
    have componentsFit : metadata.componentCount < 256 ^ 4 := by
      unfold nativeV2SnapshotMaxComponents at componentCount
      omega
    have lengthFits : metadata.totalLength < 256 ^ 8 := by
      unfold nativeV2SnapshotMaxFileBytes at fits
      omega
    exact ⟨_, ⟨by decide, featuresFit, foundFeatures⟩, _, ⟨by decide, componentsFit,
      foundComponents⟩, (), featureCount, (), componentCount, _, ⟨by decide, lengthFits,
      foundLength⟩, (), fits, (), length, rfl⟩

variable {state}

/-- The offsets are those of the layout. -/
theorem readStateOffsets_eq_ok {checksumOffset} (small : metadata.totalLength < wordLimit) :
    readStateOffsets bytes metadata = .ok (state, checksumOffset) ↔
      state.bytes = bytes ∧ state.metadata = metadata ∧
      state.requiredFeatureOffset = nativeV2SnapshotHeaderBytes ∧
      state.componentDirectoryOffset =
        nativeV2SnapshotHeaderBytes + metadata.requiredFeatureCount * 4 ∧
      state.componentPayloadOffset = state.componentDirectoryOffset +
        metadata.componentCount * nativeV2ComponentDirectoryEntryBytes ∧
      checksumOffset + nativeV2SnapshotIntegrityBytes = metadata.totalLength ∧
      state.componentPayloadOffset ≤ checksumOffset ∧
      slice bytes 40 8 = some (leBytes 8 state.requiredFeatureOffset) ∧
      slice bytes 48 8 = some (leBytes 8 state.componentDirectoryOffset) ∧
      slice bytes 56 8 = some (leBytes 8 state.componentPayloadOffset) := by
  simp only [readStateOffsets, bind_eq_ok, readStateNumber_eq_ok, tableEnd_eq_ok, okOr_eq_ok,
    checkedSub_eq_some, rejectIf_eq_ok, pure_eq_ok, Prod.mk.injEq, not_or, not_not, Nat.not_lt]
  constructor
  · rintro ⟨_, ⟨-, -, features⟩, _, ⟨-, -, directory⟩, _, ⟨-, -, payload⟩, _, ⟨rfl, -⟩, _,
      ⟨rfl, -⟩, _, ⟨room, rfl⟩, _, ⟨rfl, rfl, rfl, inside⟩, rfl, rfl⟩
    exact ⟨rfl, rfl, rfl, rfl, rfl, Nat.sub_add_cancel room, inside, features, directory, payload⟩
  · obtain ⟨_, _, _, _, _⟩ := state
    dsimp only
    rintro ⟨rfl, rfl, rfl, rfl, rfl, total, inside, features, directory, payload⟩
    have word : 256 ^ 8 = wordLimit := rfl
    exact ⟨_, ⟨by decide, by decide, features⟩, _, ⟨by decide, by omega, directory⟩, _,
      ⟨by decide, by omega, payload⟩, _, ⟨rfl, by omega⟩, _, ⟨rfl, by omega⟩, checksumOffset,
      ⟨by omega, by omega⟩, (), ⟨rfl, rfl, rfl, inside⟩, rfl, rfl⟩

/-- What decodes is the container of an inventory which the encoder accepts. -/
theorem decode_eq_ok :
    decodeSnapshotV2StateWithCatalog crc64 bytes supported featureCatalog componentCatalog =
        .ok state ↔
      ∃ features components,
        Inventory featureCatalog componentCatalog state.metadata.version features components ∧
        (state.metadata.version.major = supported.major ∧
          state.metadata.version.minor ≤ supported.minor) ∧
        bytes = container crc64 state.metadata.version features components ∧
        state = containerState bytes state.metadata.version features components := by
  have maximum : nativeV2SnapshotMaxFileBytes < wordLimit := by decide
  simp only [decodeSnapshotV2StateWithCatalog, bind_eq_ok, Prod.exists, validateStateHeader_eq_ok,
    readStateCounts_eq_ok, readStateNumber_eq_ok, okOr_eq_ok, rejectIf_eq_ok, not_not, pure_eq_ok]
  constructor
  · rintro ⟨version, ⟨long, compatible, magic, major, minor, patch, size, flags, reserved⟩, metadata,
      ⟨rfl, featureCount, componentCount, fits, length, foundFeatures, foundComponents, foundLength⟩,
      state, checksumOffset, readOffsets, _, ⟨-, -, foundChecksum⟩, checksummed, foundBody, _, rfl, _,
      features, _, directory, rfl⟩
    rw [readStateOffsets_eq_ok (by omega)] at readOffsets
    obtain ⟨stateBytes, rfl, featureOffset, directoryOffset, payloadOffset, total, inside,
      foundFeatureOffset, foundDirectoryOffset, foundPayloadOffset⟩ := readOffsets
    rw [validateRequiredFeatures_eq_ok (by omega) (by omega)] at features
    rw [validateComponentDirectory_eq_ok (by omega) (by omega) (by omega)] at directory
    obtain ⟨features, sameFeatures, validFeatures, featureTable⟩ := features
    obtain ⟨components, sameComponents, admissible, entries, payloadFields, payloadTotal⟩ := directory
    -- The lists behind the two tables have the layout which the header declares.
    have sameDirectory : (containerLayout features components).componentDirectoryOffset =
        state.componentDirectoryOffset := by
      rw [containerLayout, sameFeatures, directoryOffset]
    have samePayload : (containerLayout features components).componentPayloadOffset =
        state.componentPayloadOffset := by
      rw [payloadOffset, ← sameDirectory, ← sameComponents]
      rfl
    have sameTotal : (containerLayout features components).totalLength =
        state.metadata.totalLength := by
      have sum : (containerLayout features components).totalLength =
          (containerLayout features components).componentPayloadOffset +
            (payloads components).length + nativeV2SnapshotIntegrityBytes := rfl
      omega
    have fields : HasFields bytes 0 (containerFields state.metadata.version features components) := by
      rw [hasContainerFields_iff, hasStateHeader_iff, sameDirectory, samePayload, sameTotal,
        sameFeatures, sameComponents]
      rw [featureOffset] at featureTable foundFeatureOffset
      exact ⟨⟨magic, major, minor, patch, size, flags, foundFeatures, foundComponents, reserved,
        foundLength, foundFeatureOffset, foundDirectoryOffset, foundPayloadOffset, by omega⟩,
        featureTable, entries, payloadFields⟩
    have bodyLength := length_containerFields state.metadata.version features components
    obtain rfl : (containerFields state.metadata.version features components).flatten.length =
        checksumOffset := by omega
    obtain rfl := Option.some.inj (fields.slice_flatten.symm.trans foundBody)
    refine ⟨features, components, ?_, compatible, ?_, ?_⟩
    · exact ⟨by omega, by omega, validFeatures, admissible, by omega⟩
    · exact eq_container_iff.mpr ⟨fields, by omega, foundChecksum⟩
    · apply SnapshotV2State.ext stateBytes
      · exact SnapshotV2Metadata.ext rfl sameFeatures.symm sameComponents.symm sameTotal.symm
      · exact featureOffset
      · exact sameDirectory.symm
      · exact samePayload.symm
  · rintro ⟨features, components, inventory, compatible, whole, isState⟩
    generalize state.metadata.version = version at inventory compatible whole isState
    subst isState
    obtain ⟨fields, length, checksum⟩ := eq_container_iff.mp whole
    obtain ⟨header, featureTable, entries, payloadFields⟩ := hasContainerFields_iff.mp fields
    obtain ⟨magic, major, minor, patch, size, flags, foundFeatures, foundComponents, reserved,
      foundLength, foundFeatureOffset, foundDirectoryOffset, foundPayloadOffset, -⟩ :=
      hasStateHeader_iff.mp header
    have bodyLength := length_containerFields version features components
    have fits := inventory.fits
    have directorySum : (containerLayout features components).componentDirectoryOffset =
        nativeV2SnapshotHeaderBytes + features.length * 4 := rfl
    have payloadSum : (containerLayout features components).componentPayloadOffset =
        (containerLayout features components).componentDirectoryOffset +
          components.length * nativeV2ComponentDirectoryEntryBytes := rfl
    have totalSum : (containerLayout features components).totalLength =
        (containerLayout features components).componentPayloadOffset +
          (payloads components).length + nativeV2SnapshotIntegrityBytes := rfl
    have readOffsets : readStateOffsets bytes (containerState bytes version features
        components).metadata = .ok (containerState bytes version features components,
          (containerFields version features components).flatten.length) := by
      refine (readStateOffsets_eq_ok ?_).mpr ⟨rfl, rfl, rfl, rfl, rfl, bodyLength, ?_,
        foundFeatureOffset, foundDirectoryOffset, foundPayloadOffset⟩
      · exact Nat.lt_of_le_of_lt fits maximum
      · change (containerLayout features components).componentPayloadOffset ≤ _
        omega
    have validatesFeatures := (@validateRequiredFeatures_eq_ok bytes featureCatalog version.minor
      features.length nativeV2SnapshotHeaderBytes 0 () (by omega) (by omega)).mpr
      ⟨features, rfl, inventory.validFeatures, featureTable⟩
    have validatesDirectory := (@validateComponentDirectory_eq_ok bytes componentCatalog
      version.minor (containerFields version features components).flatten.length components.length
      (containerLayout features components).componentDirectoryOffset
      (containerLayout features components).componentPayloadOffset none () (by omega) (by omega)
      (by omega)).mpr ⟨components, rfl, inventory.admissible, entries, payloadFields, by omega⟩
    have checksumNear : (containerFields version features components).flatten.length + 8 <
        wordLimit := by
      rw [nativeV2SnapshotIntegrityBytes] at bodyLength
      omega
    exact ⟨version, ⟨by omega, compatible, magic, major, minor, patch, size, flags, reserved⟩,
      (containerState bytes version features components).metadata,
      ⟨rfl, inventory.featureCount, inventory.componentCount, fits, length.symm, foundFeatures,
        foundComponents, foundLength⟩, _, _, readOffsets, _,
      ⟨checksumNear, UInt64.toNat_lt _, checksum⟩, _, fields.slice_flatten, (), rfl, (),
      validatesFeatures, (), validatesDirectory, rfl⟩

/-- A decoded container yields the features and components it was made from. -/
theorem containerState_yields (isContainer : bytes = container crc64 version features components)
    (small : bytes.length < wordLimit) :
    Yields SnapshotV2RequiredFeatures.next
        (containerState bytes version features components).requiredFeatures features ∧
      Yields SnapshotV2Components.next
        (containerState bytes version features components).components components := by
  obtain ⟨fields, -, -⟩ := eq_container_iff.mp isContainer
  obtain ⟨-, featureTable, entries, payloadFields⟩ := hasContainerFields_iff.mp fields
  exact ⟨requiredFeatures_yields featureTable small, components_yields entries payloadFields small⟩

/-- A container is shorter than the word limit. -/
theorem Inventory.length_container_lt
    (inventory : Inventory featureCatalog componentCatalog version features components) :
    (container crc64 version features components).length < wordLimit := by
  obtain ⟨-, length, -⟩ := eq_container_iff.mp (rfl : container crc64 version features components = _)
  have fits := inventory.fits
  have maximum : nativeV2SnapshotMaxFileBytes < wordLimit := by decide
  omega

/-- What is encoded decodes to its features and components. -/
theorem decode_of_encode {reserve} (encoded : encodeSnapshotV2StateWithCatalogAndReserve crc64
      features components version featureCatalog componentCatalog reserve = .ok bytes)
    (sameMajor : version.major = supported.major) (minorSupported : version.minor ≤ supported.minor) :
    ∃ state, decodeSnapshotV2StateWithCatalog crc64 bytes supported featureCatalog
        componentCatalog = .ok state ∧ state.metadata.version = version ∧
      Yields SnapshotV2RequiredFeatures.next state.requiredFeatures features ∧
      Yields SnapshotV2Components.next state.components components := by
  obtain ⟨-, inventory, rfl⟩ := encode_eq_ok.mp encoded
  refine ⟨containerState (container crc64 version features components) version features components,
    ?_, rfl, containerState_yields rfl inventory.length_container_lt⟩
  exact decode_eq_ok.mpr
    ⟨features, components, inventory, ⟨sameMajor, minorSupported⟩, rfl, rfl⟩

/-- What decodes was encoded from the features and components which it yields. -/
theorem encode_of_decode (decoded : decodeSnapshotV2StateWithCatalog crc64 bytes supported
      featureCatalog componentCatalog = .ok state) :
    ∃ features components, Yields SnapshotV2RequiredFeatures.next state.requiredFeatures features ∧
      Yields SnapshotV2Components.next state.components components ∧
      encodeSnapshotV2StateWithCatalogAndReserve crc64 features components state.metadata.version
        featureCatalog componentCatalog true = .ok bytes := by
  obtain ⟨features, components, inventory, -, isContainer, isState⟩ := decode_eq_ok.mp decoded
  obtain ⟨featuresYielded, componentsYielded⟩ :=
    containerState_yields isContainer (isContainer ▸ inventory.length_container_lt)
  rw [← isState] at featuresYielded componentsYielded
  exact ⟨features, components, featuresYielded, componentsYielded,
    encode_eq_ok.mpr ⟨rfl, inventory, isContainer⟩⟩

/-- A component of an admitted inventory which is semantic stands in a canonical catalog. -/
theorem Admissible.known (canonical : catalogIsCanonical 0 catalog = true) {previous}
    (admissible : Admissible catalog minor previous components) {component}
    (member : component ∈ components) (semantic : component.disposition = .semantic) :
    ∃ entry ∈ catalog, entry.id = component.key.kind ∧ entry.introducedMinor ≤ minor := by
  induction components generalizing previous with
  | nil => cases member
  | cons first rest ih =>
    rcases mem_cons.mp member with rfl | later
    · have listed := mt (And.intro semantic) admissible.1.known
      exact (catalogContains_iff canonical).mp (by simpa using listed)
    · exact ih admissible.2 later

end

/-- The container of the production catalog. Every state which a known version encodes is
decoded by the current reader; what it decodes of its own version is what it would encode; and
a semantic component which it decodes is one that the catalog knew at the encoded version. -/
theorem productionState_codec (crc64 : Crc64) :
    (∀ version features components reserve bytes,
      encodeSnapshotV2StateWithCompatibilityVersion crc64 version features components reserve =
        .ok bytes →
      ∃ state, decodeSnapshotV2State crc64 bytes = .ok state ∧ state.metadata.version = version ∧
        Yields SnapshotV2RequiredFeatures.next state.requiredFeatures features ∧
        Yields SnapshotV2Components.next state.components components) ∧
    ∀ bytes state, decodeSnapshotV2State crc64 bytes = .ok state →
      ∃ features components, Yields SnapshotV2RequiredFeatures.next state.requiredFeatures features ∧
        Yields SnapshotV2Components.next state.components components ∧
        (state.metadata.version = nativeV2SnapshotVersion →
          encodeSnapshotV2State crc64 features components true = .ok bytes) ∧
        ∀ component ∈ components, component.disposition = .semantic →
          ∃ entry ∈ productionSemanticComponents, entry.id = component.key.kind ∧
            entry.introducedMinor ≤ state.metadata.version.minor := by
  have current : isKnownCompatibilityVersion nativeV2SnapshotVersion = true := by decide
  have canonical : catalogIsCanonical 0 productionSemanticComponents = true := by decide
  have decodes (bytes) : decodeSnapshotV2State crc64 bytes = decodeSnapshotV2StateWithCatalog crc64
      bytes nativeV2SnapshotVersion productionRequiredFeatures productionSemanticComponents := by
    rw [decodeSnapshotV2State, decodeSnapshotV2StateWithCompatibilityVersion, current]
    rfl
  constructor
  · intro version features components reserve bytes encoded
    rw [encodeSnapshotV2StateWithCompatibilityVersion] at encoded
    obtain ⟨_, known, encoded⟩ := bind_eq_ok.mp encoded
    rw [rejectIf_eq_ok, Bool.not_eq_true', Bool.not_eq_false, isKnownCompatibilityVersion,
      Bool.and_eq_true, decide_eq_true_iff, decide_eq_true_iff] at known
    rw [decodes]
    exact decode_of_encode encoded known.1 known.2
  · intro bytes state decoded
    rw [decodes] at decoded
    obtain ⟨features, components, featuresYielded, componentsYielded, encoded⟩ :=
      encode_of_decode decoded
    refine ⟨features, components, featuresYielded, componentsYielded, fun own => ?_,
      fun component member semantic => ?_⟩
    · rw [encodeSnapshotV2State, encodeSnapshotV2StateWithCompatibilityVersion, current, ← own]
      exact encoded
    · obtain ⟨-, inventory, -⟩ := encode_eq_ok.mp encoded
      exact inventory.admissible.known canonical member semantic

/-- The state container codec, for every catalog and every checksum. What the encoder
accepts decodes, on every reader which supports its version, to a state whose
iterators yield the encoded features and components; what decodes encodes back to
the same bytes; so two inputs with one content are one input. -/
theorem stateContainer_codec (crc64 : Crc64) (featureCatalog componentCatalog : List CatalogEntry) :
    (∀ features components version reserve bytes supported,
      encodeSnapshotV2StateWithCatalogAndReserve crc64 features components version featureCatalog
        componentCatalog reserve = .ok bytes →
      version.major = supported.major → version.minor ≤ supported.minor →
      ∃ state, decodeSnapshotV2StateWithCatalog crc64 bytes supported featureCatalog
          componentCatalog = .ok state ∧ state.metadata.version = version ∧
        Yields SnapshotV2RequiredFeatures.next state.requiredFeatures features ∧
        Yields SnapshotV2Components.next state.components components) ∧
    (∀ bytes supported state, decodeSnapshotV2StateWithCatalog crc64 bytes supported featureCatalog
        componentCatalog = .ok state →
      ∃ features components, Yields SnapshotV2RequiredFeatures.next state.requiredFeatures features ∧
        Yields SnapshotV2Components.next state.components components ∧
        encodeSnapshotV2StateWithCatalogAndReserve crc64 features components state.metadata.version
          featureCatalog componentCatalog true = .ok bytes) ∧
    ∀ first second firstSupported secondSupported firstState secondState features components,
      decodeSnapshotV2StateWithCatalog crc64 first firstSupported featureCatalog componentCatalog =
        .ok firstState →
      decodeSnapshotV2StateWithCatalog crc64 second secondSupported featureCatalog
        componentCatalog = .ok secondState →
      firstState.metadata.version = secondState.metadata.version →
      Yields SnapshotV2RequiredFeatures.next firstState.requiredFeatures features →
      Yields SnapshotV2RequiredFeatures.next secondState.requiredFeatures features →
      Yields SnapshotV2Components.next firstState.components components →
      Yields SnapshotV2Components.next secondState.components components → first = second := by
  -- The content of a decoded state is the inventory whose container it came from.
  have content (bytes supported state features components)
      (decoded : decodeSnapshotV2StateWithCatalog crc64 bytes supported featureCatalog
        componentCatalog = .ok state)
      (yieldsFeatures : Yields SnapshotV2RequiredFeatures.next state.requiredFeatures features)
      (yieldsComponents : Yields SnapshotV2Components.next state.components components) :
      bytes = container crc64 state.metadata.version features components := by
    obtain ⟨ownFeatures, ownComponents, inventory, -, isContainer, isState⟩ := decode_eq_ok.mp decoded
    obtain ⟨featuresYielded, componentsYielded⟩ :=
      containerState_yields isContainer (isContainer ▸ inventory.length_container_lt)
    rw [← isState] at featuresYielded componentsYielded
    rw [yieldsFeatures.unique featuresYielded, yieldsComponents.unique componentsYielded]
    exact isContainer
  refine ⟨?_, ?_, ?_⟩
  · intro features components version reserve bytes supported encoded sameMajor minorSupported
    exact decode_of_encode encoded sameMajor minorSupported
  · intro bytes supported state decoded
    exact encode_of_decode decoded
  · intro first second firstSupported secondSupported firstState secondState features components
      firstDecoded secondDecoded sameVersion firstFeatures secondFeatures firstComponents
      secondComponents
    rw [content first firstSupported firstState features components firstDecoded firstFeatures
      firstComponents, content second secondSupported secondState features components secondDecoded
      secondFeatures secondComponents, sameVersion]

/-- A machine component and a component which readers may skip. -/
def twoComponents : List SnapshotV2Component :=
  [⟨⟨2, 0⟩, .semantic, [1, 2, 3]⟩, ⟨⟨900, 7⟩, .nonSemantic, [4]⟩]

theorem stateContainer_codec_twoComponents : ∃ bytes state,
    encodeSnapshotV2StateWithCatalogAndReserve jonesCrc64 [] twoComponents ⟨2, 13, 0⟩
      productionRequiredFeatures productionSemanticComponents true = .ok bytes ∧
    decodeSnapshotV2StateWithCatalog jonesCrc64 bytes nativeV2SnapshotVersion
      productionRequiredFeatures productionSemanticComponents = .ok state ∧
    Yields SnapshotV2Components.next state.components twoComponents := by
  have encodes : (encodeSnapshotV2StateWithCatalogAndReserve jonesCrc64 [] twoComponents ⟨2, 13, 0⟩
      productionRequiredFeatures productionSemanticComponents true).isOk = true := by
    decide +kernel
  cases encoded : encodeSnapshotV2StateWithCatalogAndReserve jonesCrc64 [] twoComponents ⟨2, 13, 0⟩
      productionRequiredFeatures productionSemanticComponents true with
  | error error =>
    rw [encoded] at encodes
    cases encodes
  | ok bytes =>
    obtain ⟨state, decoded, -, -, yields⟩ := (stateContainer_codec jonesCrc64
      productionRequiredFeatures productionSemanticComponents).1 [] twoComponents _ true bytes
      nativeV2SnapshotVersion encoded rfl (UInt16.le_refl _)
    exact ⟨bytes, state, rfl, decoded, yields⟩

end Bangbang.Snapshot
