import Bangbang.Snapshot.DiffLayer
import Bangbang.Snapshot.MemoryCodec

/-!
# The differential layer codec

A layer encodes to `encoding`: the header, the encodings of the embedded
bindings, and the data directory. Decoding compares the input with the encoding
of what it read, so a decoded layer encodes to the bytes it came from. The other
direction reads every field of `encoding` back.
-/

namespace Bangbang.Snapshot

open Memory List SnapshotV2MemoryBinding

section
variable {base : SnapshotV2DiffBase} {result}

/-- The bytes which the predecessor binding of a base encodes to. -/
def SnapshotV2DiffBase.encoding (crc64 : Crc64) : SnapshotV2DiffBase → List UInt8
  | .zero => []
  | .image binding => binding.encoding crc64

/-- Every binding inside a base knows the checksum of its encoding. -/
def SnapshotV2DiffBase.Authentic (crc64 : Crc64) (base : SnapshotV2DiffBase) : Prop :=
  ∀ binding ∈ base.binding, binding.Authentic crc64

section
variable (crc64 : Crc64)
include crc64

/-- The length of a binding is that of its encoding. -/
theorem encodedMemoryBindingLength_eq (binding) :
    encodedMemoryBindingLength binding = .ok (binding.encoding crc64).length := by
  obtain ⟨-, -, count, -, -⟩ := validateExtents_eq_ok binding.valid
  unfold nativeV2MemoryMaxExtents at count
  simp only [encodedMemoryBindingLength, bind_eq_ok, okOr_eq_ok, checkedMul_eq_some,
    checkedAdd_eq_some, encoding, length_sealed]
  unfold nativeV2MemoryExtentBytes nativeV2MemoryHeaderBytes
  rw [wordLimit_eq]
  exact ⟨_, ⟨by omega, rfl⟩, by omega, rfl⟩

theorem encodedPredecessorLength_eq (base) :
    encodedPredecessorLength base = .ok (base.encoding crc64).length := by
  cases base with
  | zero => rfl
  | image binding => exact encodedMemoryBindingLength_eq crc64 binding

/-- An embedded binding is not empty and fits its length field. -/
theorem length_encoding_bounds (binding : SnapshotV2MemoryBinding) :
    0 < (binding.encoding crc64).length ∧ (binding.encoding crc64).length < 2 ^ 32 := by
  obtain ⟨-, -, count, -, -⟩ := validateExtents_eq_ok binding.valid
  unfold nativeV2MemoryMaxExtents at count
  rw [encoding, length_sealed]
  unfold nativeV2MemoryExtentBytes nativeV2MemoryHeaderBytes
  omega

theorem length_baseEncoding_lt (base : SnapshotV2DiffBase) :
    (base.encoding crc64).length < 2 ^ 32 := by
  cases base with
  | zero => simp [SnapshotV2DiffBase.encoding]
  | image binding => exact (length_encoding_bounds crc64 binding).2

end

/-- Metadata is accepted up to its limit. -/
theorem boundedMetadataLength_eq_ok {resultLength predecessorLength count length} :
    boundedMetadataLength resultLength predecessorLength count = .ok length ↔
      nativeV2DiffHeaderBytes + resultLength + predecessorLength +
          count * nativeV2DiffExtentBytes = length ∧
        length ≤ nativeV2DiffMaxMetadataBytes := by
  simp only [boundedMetadataLength, bind_eq_ok, okOr_eq_ok, checkedAdd_eq_some,
    checkedMul_eq_some, rejectIf_eq_ok, pure_eq_ok, Nat.not_lt]
  constructor
  · rintro ⟨_, ⟨-, rfl⟩, _, ⟨-, rfl⟩, _, ⟨-, rfl⟩, _, ⟨-, rfl⟩, _, bounded, rfl⟩
    exact ⟨rfl, bounded⟩
  · rintro ⟨rfl, bounded⟩
    have small : nativeV2DiffMaxMetadataBytes < wordLimit := by decide
    exact ⟨_, ⟨by omega, rfl⟩, _, ⟨by omega, rfl⟩, _, ⟨by omega, rfl⟩, _, ⟨by omega, rfl⟩, (),
      bounded, rfl⟩

/-- A layout is computed within the limits. -/
theorem calculateLayout_eq_ok (crc64 : Crc64) {count metadataLength dataOffset} :
    calculateLayout base result count = .ok ⟨metadataLength, dataOffset⟩ ↔
      result.version = nativeV2DiffStateCompatibilityVersion ∧ count ≤ nativeV2DiffMaxExtents ∧
        nativeV2DiffHeaderBytes + (result.encoding crc64).length + (base.encoding crc64).length +
          count * nativeV2DiffExtentBytes = metadataLength ∧
        metadataLength ≤ nativeV2DiffMaxMetadataBytes ∧
        alignLayer metadataLength = .ok dataOffset := by
  simp only [calculateLayout, validateCount, bind_eq_ok, rejectIf_eq_ok, not_not, Nat.not_lt,
    boundedMetadataLength_eq_ok, pure_eq_ok, CalculatedLayout.mk.injEq]
  have resultLength := encodedMemoryBindingLength_eq crc64 result
  have predecessorLength := encodedPredecessorLength_eq crc64 base
  constructor
  · rintro ⟨_, version, _, bounded, _, sameResult, _, samePredecessor, _, ⟨rfl, fits⟩, _, aligned,
      rfl, rfl⟩
    obtain rfl := Except.ok.inj (sameResult.symm.trans resultLength)
    obtain rfl := Except.ok.inj (samePredecessor.symm.trans predecessorLength)
    exact ⟨version, bounded, rfl, fits, aligned⟩
  · rintro ⟨version, bounded, length, fits, aligned⟩
    exact ⟨(), version, (), bounded, _, resultLength, _, predecessorLength, _, ⟨length, fits⟩, _,
      aligned, rfl, rfl⟩

/-- The file positions of a canonical directory. -/
structure Packed (offset : Nat) (extents : List SnapshotV2DiffDataExtent) (stop : Nat) : Prop where
  ends : SnapshotV2DiffLayerBinding.packedEnd offset extents = some stop
  grows : offset ≤ stop
  bounded : ∀ extent ∈ extents, extent.fileOffset < wordLimit

/-- Extents which pass the checks are packed. -/
theorem validateDataFrom_packed {regions index previous expected totalData stop extents}
    (small : totalData ≤ dramMemMaxSize)
    (valid : validateDataFrom regions index previous expected totalData extents = .ok stop) :
    Packed expected extents stop ∧ totalData + (stop - expected) ≤ dramMemMaxSize := by
  induction extents generalizing index previous expected totalData with
  | nil =>
    cases valid
    exact ⟨⟨rfl, Nat.le_refl _, nofun⟩, by omega⟩
  | cons extent extents ih =>
    simp only [validateDataFrom, bind_eq_ok, rejectIf_eq_ok, okOr_eq_ok, checkedAdd_eq_some,
      not_not, Nat.not_lt] at valid
    obtain ⟨_, -, region, -, _, -, _, -, _, rfl, total, ⟨-, rfl⟩, _, fits, next,
      ⟨bounded, rfl⟩, rest⟩ := valid
    obtain ⟨packed, within⟩ := ih fits rest
    have grows := packed.grows
    constructor
    · constructor
      · rw [SnapshotV2DiffLayerBinding.packedEnd, foldlM_cons,
          checkedAdd_eq_some.mpr ⟨bounded, rfl⟩]
        exact packed.ends
      · omega
      · exact forall_mem_cons.mpr ⟨by omega, packed.bounded⟩
    · omega

end

namespace SnapshotV2DiffLayerBinding

variable {crc64 : Crc64} {binding : SnapshotV2DiffLayerBinding} {bytes : List UInt8}

/-- The bytes which a layer binding encodes to. -/
def encoding (crc64 : Crc64) (binding : SnapshotV2DiffLayerBinding) : List UInt8 :=
  binding.assemble (binding.result.encoding crc64) (binding.base.encoding crc64)

/-- The stored checksum is the one of the encoding. -/
structure Authentic (crc64 : Crc64) (binding : SnapshotV2DiffLayerBinding) : Prop where
  checksum : layerChecksum crc64 (binding.encoding crc64) = .ok binding.metadataChecksum
  result : binding.result.Authentic crc64
  base : binding.base.Authentic crc64

theorem packed (binding : SnapshotV2DiffLayerBinding) :
    Packed binding.dataOffset binding.dataExtents binding.fileLength :=
  (validateDataFrom_packed (Nat.zero_le _) binding.valid).1

theorem dataLength_le (binding : SnapshotV2DiffLayerBinding) :
    binding.fileLength - binding.dataOffset ≤ dramMemMaxSize := by
  have bounded := (validateDataFrom_packed (Nat.zero_le _) binding.valid).2
  omega

theorem length_extentBytes (extent) : (extentBytes extent).length = nativeV2DiffExtentBytes :=
  length_mappingBytes extent.range extent.fileOffset

theorem length_baseImageIdBytes (base) : (baseImageIdBytes base).length = 16 := by
  cases base with
  | zero => rfl
  | image binding => exact binding.imageId.length

theorem length_headerFields (binding : SnapshotV2DiffLayerBinding) (first second : Nat) :
    (binding.headerFields first second).flatten.length = nativeV2DiffHeaderBytes := by
  simp [headerFields, nativeV2DiffMagic, length_baseImageIdBytes, nativeV2DiffHeaderBytes]

/-- The metadata is as long as its layout says. -/
theorem length_encoding (crc64 : Crc64) (binding : SnapshotV2DiffLayerBinding) :
    (binding.encoding crc64).length = binding.metadataLength := by
  obtain ⟨-, -, length, -⟩ := (calculateLayout_eq_ok crc64).mp binding.laidOut
  rw [encoding, assemble, length_append, length_append, length_append,
    length_headerFields, length_flatMap_records length_extentBytes, length]

theorem encodePredecessor_eq (crc64 : Crc64) (base) :
    encodePredecessor crc64 base true = .ok (base.encoding crc64) := by
  cases base with
  | zero => rfl
  | image binding =>
    rw [encodePredecessor, encodeBinding_eq]
    rfl

theorem encodePredecessor_eq_ok {base metadata}
    (encoded : encodePredecessor crc64 base metadata = .ok bytes) :
    bytes = base.encoding crc64 := by
  cases base with
  | zero => exact (Except.ok.inj encoded).symm
  | image binding =>
    exact encodeBinding_eq_ok (mapError_eq_ok.mp encoded)

/-- What is encoded is the encoding of the binding. -/
theorem encodeWithReserve_eq_ok {reserve}
    (encoded : encodeWithReserve crc64 binding reserve = .ok bytes) :
    bytes = binding.encoding crc64 := by
  simp only [encodeWithReserve, bind_eq_ok, mapError_eq_ok, pure_eq_ok] at encoded
  obtain ⟨_, -, _, -, result, encodesResult, predecessor, encodesPredecessor, _, -, _, -, _, -, _,
    -, _, -, rfl⟩ := encoded
  rw [encodeBinding_eq_ok encodesResult, encodePredecessor_eq_ok encodesPredecessor, encoding]

theorem validateLengths_self (binding : SnapshotV2DiffLayerBinding) :
    validateLengths binding ⟨binding.metadataLength, binding.dataOffset⟩ = .ok () := by
  simp only [validateLengths, bind_eq_ok, rejectIf_eq_ok, okOr_eq_ok, not_or, not_not]
  exact ⟨(), ⟨binding.exactVersion, trivial, trivial⟩, _, binding.packed.ends, rfl⟩

/-- A layer binding always encodes when there is memory for it. -/
theorem encodeWithReserve_eq (crc64 : Crc64) (binding : SnapshotV2DiffLayerBinding) :
    encodeWithReserve crc64 binding .granted = .ok (binding.encoding crc64) := by
  obtain ⟨-, count, -, bounded, -⟩ := (calculateLayout_eq_ok crc64).mp binding.laidOut
  unfold nativeV2DiffMaxExtents at count
  have resultFits := (length_encoding_bounds crc64 binding.result).2
  have predecessorFits := length_baseEncoding_lt crc64 binding.base
  simp only [encodeWithReserve, bind_eq_ok, mapError_eq_ok, rejectIf_eq_ok, pure_eq_ok, not_or,
    Nat.not_le, Nat.not_lt, not_not]
  exact ⟨_, binding.laidOut, (), validateLengths_self binding, _,
    encodeBinding_eq crc64 binding.result, _,
    encodePredecessor_eq crc64 binding.base, (), bounded, (), Bool.false_ne_true, (),
    ⟨by omega, resultFits, predecessorFits⟩, (), length_headerFields binding _ _, (),
    length_encoding crc64 binding, rfl⟩

/-- The encoding around its checksum field. -/
theorem encoding_eq (crc64 : Crc64) (binding : SnapshotV2DiffLayerBinding) :
    ∃ before after, before.length = 64 ∧ ∀ metadataChecksum,
      encoding crc64 { binding with metadataChecksum } =
        before ++ leBytes 8 metadataChecksum.toNat ++ after := by
  let fields := binding.headerFields (binding.result.encoding crc64).length
    (binding.base.encoding crc64).length
  refine ⟨(fields.take 15).flatten, (fields.drop 16).flatten ++ binding.result.encoding crc64 ++
    binding.base.encoding crc64 ++ binding.dataExtents.flatMap extentBytes, ?_, ?_⟩
  · simp [fields, headerFields, nativeV2DiffMagic]
  · intro metadataChecksum
    simp [encoding, assemble, fields, headerFields]

/-- The checksum of the encoding does not depend on the stored one. -/
theorem layerChecksum_encoding (crc64 : Crc64) (binding : SnapshotV2DiffLayerBinding)
    (metadataChecksum : UInt64) :
    layerChecksum crc64 (encoding crc64 { binding with metadataChecksum }) =
      layerChecksum crc64 (binding.encoding crc64) := by
  obtain ⟨before, after, length, split⟩ := encoding_eq crc64 binding
  have own := split binding.metadataChecksum
  rw [layerChecksum, layerChecksum, split, checksumAround_append crc64 _ length, own,
    checksumAround_append crc64 _ length]

/-- A binding with its checksum is encoded. -/
theorem encode_eq
    (checksum : layerChecksum crc64 (binding.encoding crc64) = .ok binding.metadataChecksum) :
    encode crc64 binding .granted = .ok (binding.encoding crc64) := by
  simp only [encode, encodeWithReserve_eq, bind_eq_ok, rejectIf_eq_ok, pure_eq_ok, not_not]
  exact ⟨_, rfl, _, checksum, (), rfl, rfl⟩

section
variable {ranges}

theorem packRanges_ranges {fileOffset extents} (laid : packRanges fileOffset ranges = .ok extents) :
    extents.map (·.range) = ranges := by
  induction ranges generalizing fileOffset extents with
  | nil =>
    cases laid
    rfl
  | cons range ranges ih =>
    simp only [packRanges, bind_eq_ok, pure_eq_ok] at laid
    obtain ⟨_, -, rest, laidRest, rfl⟩ := laid
    rw [map_cons, ih laidRest]

variable {result base}

/-- A binding is built from its parts. -/
theorem buildBinding_eq_ok {dataExtents layout metadataChecksum} :
    buildBinding base result dataExtents layout metadataChecksum = .ok binding ↔
      binding.base = base ∧ binding.result = result ∧ binding.dataExtents = dataExtents ∧
        layout = ⟨binding.metadataLength, binding.dataOffset⟩ ∧
        binding.metadataChecksum = metadataChecksum := by
  simp only [buildBinding, bind_eq_ok, rejectIf_eq_ok, pure_eq_ok, not_not]
  constructor
  · rintro ⟨_, -, distinct, -, _, -, expected, -, _, rfl, fileLength, -, rfl⟩
    exact ⟨rfl, rfl, rfl, rfl, rfl⟩
  · rintro ⟨rfl, rfl, rfl, rfl, rfl⟩
    obtain ⟨version, count, -⟩ := (calculateLayout_eq_ok fun _ _ => 0).mp binding.laidOut
    refine ⟨(), version, ⟨(), rejectIf_eq_ok.mpr binding.distinct⟩, attach_eq_ok, (), ?_,
      ⟨_, binding.laidOut⟩, attach_eq_ok, (), rfl, ⟨_, binding.valid⟩, attach_eq_ok, ?_⟩
    · exact rejectIf_eq_ok.mpr (Nat.not_lt.mpr count)
    · obtain ⟨version, base, result, dataExtents, metadataLength, dataOffset, fileLength,
        metadataChecksum, exactVersion, distinct, laidOut, valid⟩ := binding
      obtain rfl := exactVersion
      rfl

/-- A binding of ranges has these ranges and its checksum. -/
theorem tryFromRanges_eq_ok {reserve}
    (built : tryFromRanges crc64 base result ranges reserve = .ok binding) :
    binding.base = base ∧ binding.result = result ∧ binding.dataExtents.map (·.range) = ranges ∧
      layerChecksum crc64 (binding.encoding crc64) = .ok binding.metadataChecksum := by
  simp only [tryFromRanges, bind_eq_ok, buildBinding_eq_ok, pure_eq_ok] at built
  obtain ⟨_, -, layout, -, _, -, dataExtents, laid, unsealed, ⟨rfl, rfl, rfl, -, -⟩, encoded,
    encodes, metadataChecksum, checksum, rfl⟩ := built
  refine ⟨rfl, rfl, packRanges_ranges laid, ?_⟩
  rw [layerChecksum_encoding, ← encodeWithReserve_eq_ok encodes, checksum]

end

section
variable {resultLength predecessorLength : Nat}

/-- The header fields stand at their offsets. -/
theorem hasHeader_iff :
    HasFields bytes 0 (binding.headerFields resultLength predecessorLength) ↔
      slice bytes 0 8 = some nativeV2DiffMagic ∧
      slice bytes 8 2 = some (leBytes 2 binding.version.major.toNat) ∧
      slice bytes 10 2 = some (leBytes 2 binding.version.minor.toNat) ∧
      slice bytes 12 2 = some (leBytes 2 binding.version.patch.toNat) ∧
      slice bytes 14 2 = some (leBytes 2 nativeV2DiffHeaderBytes) ∧
      slice bytes 16 2 = some (leBytes 2 nativeV2DiffProfile) ∧
      slice bytes 18 2 = some (leBytes 2 (baseKind binding.base)) ∧
      slice bytes 20 4 = some (leBytes 4 0) ∧
      slice bytes 24 4 = some (leBytes 4 nativeV2MemoryGuestGranule) ∧
      slice bytes 28 4 = some (leBytes 4 binding.dataExtents.length) ∧
      slice bytes 32 4 = some (leBytes 4 resultLength) ∧
      slice bytes 36 4 = some (leBytes 4 nativeV2DiffExtentBytes) ∧
      slice bytes 40 8 = some (leBytes 8 binding.metadataLength) ∧
      slice bytes 48 8 = some (leBytes 8 binding.dataOffset) ∧
      slice bytes 56 8 = some (leBytes 8 binding.fileLength) ∧
      slice bytes 64 8 = some (leBytes 8 binding.metadataChecksum.toNat) ∧
      slice bytes 72 16 = some (baseImageIdBytes binding.base) ∧
      slice bytes 88 4 = some (leBytes 4 predecessorLength) ∧
      slice bytes 92 4 = some (leBytes 4 0) ∧
      nativeV2DiffHeaderBytes ≤ bytes.length := by
  have magicLength : nativeV2DiffMagic.length = 8 := rfl
  simp only [headerFields, HasFields, length_leBytes, length_baseImageIdBytes, magicLength,
    Nat.zero_add, Nat.reduceAdd]
  rfl

/-- A field of the encoding is read back as the number it was written from. -/
theorem readLayerNumber_eq {offset width value} (near : offset + width < wordLimit)
    (fits : value < 256 ^ width) (found : slice bytes offset width = some (leBytes width value)) :
    readLayerNumber bytes offset width = .ok value :=
  readNumber_eq_ok.mpr ⟨near, fits, found⟩

/-- The base fields of a header. -/
def baseHeader (crc64 : Crc64) (base : SnapshotV2DiffBase) : BaseHeader :=
  { isImage := base.binding.isSome
    imageId := baseImageIdBytes base
    predecessorLength := (base.encoding crc64).length }

/-- The header tells the base. -/
theorem readBaseHeader_eq (crc64 : Crc64)
    (fields : HasFields bytes 0 (binding.headerFields (binding.result.encoding crc64).length
      (binding.base.encoding crc64).length)) :
    readBaseHeader bytes = .ok (baseHeader crc64 binding.base) := by
  obtain ⟨-, -, -, -, -, -, kind, -, -, -, -, -, -, -, -, -, imageId, predecessor, -⟩ :=
    hasHeader_iff.mp fields
  have predecessorFits := length_baseEncoding_lt crc64 binding.base
  simp only [readBaseHeader, bind_eq_ok, readArray_eq_ok, readLayerNumber, readNumber_eq_ok,
    pure_eq_ok]
  refine ⟨_, ⟨by decide, imageId⟩, _, ⟨by decide, predecessorFits, predecessor⟩,
    baseKind binding.base, ⟨by decide, ?_, kind⟩, binding.base.binding.isSome, ?_, rfl⟩
  · cases binding.base <;> simp [baseKind]
  · cases binding.base with
    | zero => rfl
    | image predecessor =>
      have positive := (length_encoding_bounds crc64 predecessor).1
      simp [classifyBase, baseKind, SnapshotV2DiffBase.encoding, SnapshotV2DiffBase.binding,
        List.ne_nil_of_length_pos positive]

theorem validateLayerHeader_eq
    (fields : HasFields bytes 0 (binding.headerFields resultLength predecessorLength)) :
    validateLayerHeader bytes = .ok () := by
  obtain ⟨-, -, -, -, size, profile, -, flags, granule, -, -, extent, -, -, -, -, -, -, reserved, -⟩ :=
    hasHeader_iff.mp fields
  simp only [validateLayerHeader, bind_eq_ok, readLayerNumber, readNumber_eq_ok, rejectIf_eq_ok,
    not_or, not_not]
  exact ⟨_, ⟨by decide, by decide, size⟩, _, ⟨by decide, by decide, profile⟩, _,
    ⟨by decide, by decide, flags⟩, _, ⟨by decide, by decide, granule⟩, _,
    ⟨by decide, by decide, extent⟩, rfl, rfl, rfl, rfl, rfl, reserved⟩

/-- The preflight of a header is the length of the metadata it belongs to. -/
theorem preflightMetadataLength_eq (crc64 : Crc64)
    (fields : HasFields bytes 0 (binding.headerFields (binding.result.encoding crc64).length
      (binding.base.encoding crc64).length))
    (length : bytes.length = nativeV2DiffHeaderBytes) :
    preflightMetadataLength bytes = .ok binding.metadataLength := by
  obtain ⟨magic, major, minor, patch, -, -, -, -, -, count, result, -, total, -⟩ :=
    hasHeader_iff.mp fields
  obtain ⟨-, counts, sum, bounded, -⟩ := (calculateLayout_eq_ok crc64).mp binding.laidOut
  have resultFits := (length_encoding_bounds crc64 binding.result).2
  have countFits : binding.dataExtents.length < 256 ^ 4 := by
    unfold nativeV2DiffMaxExtents at counts
    omega
  have totalFits : binding.metadataLength < 256 ^ 8 := by
    unfold nativeV2DiffMaxMetadataBytes at bounded
    omega
  have version : readFormatVersion SnapshotV2DiffLayerBindingError.lengthOverflow
      (fun _ => .invalidLength) bytes 8 = .ok binding.version :=
    (readFormatVersion_eq_ok (by decide)).mpr ⟨major, minor, patch⟩
  simp only [preflightMetadataLength, bind_eq_ok, rejectIf_eq_ok, readArray_eq_ok, pure_eq_ok,
    boundedMetadataLength_eq_ok, not_not, Nat.not_lt]
  exact ⟨(), length, _, ⟨by decide, magic⟩, (), rfl, _, version, (), binding.exactVersion, (),
    validateLayerHeader_eq fields, _, readBaseHeader_eq crc64 fields, _,
    readLayerNumber_eq (by decide) countFits count, (), counts, _,
    readLayerNumber_eq (by decide) resultFits result, _, ⟨sum, bounded⟩, _,
    readLayerNumber_eq (by decide) totalFits total, (), rfl, rfl⟩

/-- An extent is read from its bytes only. -/
theorem readDataExtent_eq_ok {table index extent} (near : table ≤ nativeV2DiffMaxMetadataBytes)
    (small : index < nativeV2DiffMaxExtents) :
    readDataExtent bytes table index = .ok extent ↔ extent.fileOffset < wordLimit ∧
      slice bytes (table + index * nativeV2DiffExtentBytes) nativeV2DiffExtentBytes =
        some (extentBytes extent) := by
  have inside : table + index * nativeV2DiffExtentBytes + 24 < wordLimit := by
    unfold nativeV2DiffMaxExtents at small
    unfold nativeV2DiffMaxMetadataBytes at near
    unfold nativeV2DiffExtentBytes
    rw [wordLimit_eq]
    omega
  simp only [readDataExtent, bind_eq_ok, okOr_eq_ok, checkedMul_eq_some, checkedAdd_eq_some,
    pure_eq_ok]
  constructor
  · rintro ⟨_, ⟨-, rfl⟩, _, ⟨-, rfl⟩, mapping, read, rfl⟩
    exact (readMapping_eq_ok inside).mp read
  · intro found
    exact ⟨_, ⟨by omega, rfl⟩, _, ⟨by omega, rfl⟩, (extent.range, extent.fileOffset),
      (readMapping_eq_ok inside).mpr found, rfl⟩

/-- Every part of the encoding stands where the header says. -/
theorem hasParts (crc64 : Crc64) (binding : SnapshotV2DiffLayerBinding) :
    HasFields (binding.encoding crc64) 0 (binding.headerFields (binding.result.encoding crc64).length
        (binding.base.encoding crc64).length) ∧
      slice (binding.encoding crc64) nativeV2DiffHeaderBytes (binding.result.encoding crc64).length =
        some (binding.result.encoding crc64) ∧
      slice (binding.encoding crc64)
          (nativeV2DiffHeaderBytes + (binding.result.encoding crc64).length)
          (binding.base.encoding crc64).length = some (binding.base.encoding crc64) ∧
      HasFields (binding.encoding crc64)
        (nativeV2DiffHeaderBytes + (binding.result.encoding crc64).length +
          (binding.base.encoding crc64).length)
        (binding.dataExtents.map extentBytes) := by
  let fields := binding.headerFields (binding.result.encoding crc64).length
    (binding.base.encoding crc64).length
  let parts := fields ++ [binding.result.encoding crc64, binding.base.encoding crc64] ++
    binding.dataExtents.map extentBytes
  have whole : binding.encoding crc64 = parts.flatten := by
    simp [parts, fields, encoding, assemble, flatMap_def]
  have found : HasFields (binding.encoding crc64) 0 parts := by
    rw [hasFields_zero_iff, whole, drop_length, append_nil]
  have header : fields.flatten.length = nativeV2DiffHeaderBytes := length_headerFields binding _ _
  simp only [parts, hasFields_append, flatten_append, length_append, header, HasFields,
    flatten_cons, flatten_nil, append_nil, Nat.zero_add, ← Nat.add_assoc] at found
  obtain ⟨⟨foundFields, foundResult, foundBase, -⟩, table⟩ := found
  exact ⟨foundFields, foundResult, foundBase, table⟩

/-- A base is decoded from its encoding. -/
theorem decodeBase_eq (streams : crc64.Streams) {base offset} (authentic : base.Authentic crc64)
    (found : slice bytes offset (base.encoding crc64).length = some (base.encoding crc64)) :
    decodeBase crc64 bytes (baseHeader crc64 base) offset true = .ok base := by
  cases base with
  | zero => rfl
  | image predecessor =>
    have decodes := (decodeBinding_eq_ok streams).mpr
      ⟨rfl, authentic predecessor rfl⟩
    simp only [decodeBase, baseHeader, SnapshotV2DiffBase.binding, Option.isSome_some, bind_eq_ok,
      okOr_eq_ok, mapError_eq_ok, pure_eq_ok]
    exact ⟨_, found, predecessor, decodes, (), rejectIf_eq_ok.mpr (not_not.mpr rfl), rfl⟩

/-- The header of the encoding of a binding. -/
def layerHeader (crc64 : Crc64) (binding : SnapshotV2DiffLayerBinding) : LayerHeader :=
  { metadataLength := binding.metadataLength
    base := baseHeader crc64 binding.base
    count := binding.dataExtents.length
    resultLength := (binding.result.encoding crc64).length
    dataOffset := binding.dataOffset
    fileLength := binding.fileLength
    storedChecksum := binding.metadataChecksum.toNat }

/-- The header of an encoding is read back. -/
theorem readLayerHeader_encoding
    (checked : layerChecksum crc64 (binding.encoding crc64) = .ok binding.metadataChecksum) :
    readLayerHeader crc64 (binding.encoding crc64) = .ok (layerHeader crc64 binding) := by
  obtain ⟨fields, -⟩ := hasParts crc64 binding
  obtain ⟨-, -, -, -, -, -, -, -, -, count, result, -, -, dataOffset, fileLength, checksum, -, -, -,
    long⟩ := hasHeader_iff.mp fields
  obtain ⟨-, counts, -, bounded, aligned⟩ := (calculateLayout_eq_ok crc64).mp binding.laidOut
  obtain ⟨-, -, -, near⟩ := alignUp_eq_some (okOr_eq_ok.mp aligned)
  have resultFits := (length_encoding_bounds crc64 binding.result).2
  have dataBound := binding.dataLength_le
  have fileGrows := binding.packed.grows
  have small : nativeV2DiffMaxMetadataBytes + nativeV2MemoryAlignment + dramMemMaxSize <
      wordLimit := by decide
  have countFits : binding.dataExtents.length < 256 ^ 4 := by
    unfold nativeV2DiffMaxExtents at counts
    omega
  have fileFits : binding.fileLength < 256 ^ 8 := by
    rw [show 256 ^ 8 = wordLimit from rfl]
    omega
  have header := fields.slice_flatten
  rw [length_headerFields] at header
  have preflight := preflightMetadataLength_eq crc64 (hasFields_self _)
    (length_headerFields binding _ _)
  simp only [readLayerHeader, bind_eq_ok, rejectIf_eq_ok, okOr_eq_ok, pure_eq_ok, not_or, not_not,
    Nat.not_lt]
  exact ⟨(), long, _, header, _, preflight, _, readBaseHeader_eq crc64 fields, _,
    readLayerNumber_eq (by decide) countFits count, _,
    readLayerNumber_eq (by decide) resultFits result, (), length_encoding crc64 binding, _,
    readLayerNumber_eq (by decide) (by omega) dataOffset, _, aligned, (), rfl, _,
    readLayerNumber_eq (by decide) fileFits fileLength, (), ⟨fileGrows, dataBound⟩, _,
    readLayerNumber_eq (by decide) binding.metadataChecksum.toNat_lt checksum, _, checked, (), rfl,
    rfl⟩

/-- The layer of an encoding is read back. -/
theorem readLayer_encoding (streams : crc64.Streams) (result : binding.result.Authentic crc64)
    (base : binding.base.Authentic crc64) :
    readLayer crc64 (binding.encoding crc64) (layerHeader crc64 binding) .granted = .ok binding := by
  obtain ⟨-, foundResult, foundBase, table⟩ := hasParts crc64 binding
  obtain ⟨-, counts, sum, bounded, -⟩ := (calculateLayout_eq_ok crc64).mp binding.laidOut
  have tableEnd : nativeV2DiffHeaderBytes + (binding.result.encoding crc64).length +
      (binding.base.encoding crc64).length ≤ nativeV2DiffMaxMetadataBytes := by
    omega
  have small : nativeV2DiffMaxMetadataBytes < wordLimit := by decide
  have resultNear : nativeV2DiffHeaderBytes + (binding.result.encoding crc64).length < wordLimit := by
    omega
  have tableNear := Nat.lt_of_le_of_lt tableEnd small
  have decodes := (decodeBinding_eq_ok streams).mpr ⟨rfl, result⟩
  have read := (readRecords_eq_ok length_extentBytes
    (fun _ within _ => readDataExtent_eq_ok tableEnd within) counts (hasFields_iff.mp table).1).mpr
    ⟨rfl, binding.packed.bounded, table⟩
  have checksum : UInt64.ofNat binding.metadataChecksum.toNat = binding.metadataChecksum :=
    UInt64.ofNat_toNat
  simp only [readLayer, bind_eq_ok, rejectIf_eq_ok, okOr_eq_ok, mapError_eq_ok, checkedAdd_eq_some,
    not_not, buildBinding_eq_ok]
  exact ⟨_, ⟨resultNear, rfl⟩, _, foundResult, _, decodes, _, ⟨tableNear, rfl⟩, _,
    decodeBase_eq streams base foundBase, _, binding.laidOut, (), rfl, (), Bool.false_ne_true, _,
    read, rfl, rfl, rfl, rfl, checksum.symm⟩

/-- A layer binding is decoded from its encoding. -/
theorem decodeWithReserve_encoding (streams : crc64.Streams) (authentic : binding.Authentic crc64) :
    decodeWithReserve crc64 (binding.encoding crc64) .granted = .ok binding := by
  simp only [decodeWithReserve, bind_eq_ok, rejectIf_eq_ok, pure_eq_ok, not_not]
  exact ⟨_, readLayerHeader_encoding authentic.checksum, _,
    readLayer_encoding streams authentic.result authentic.base, (), rfl, _,
    encodeWithReserve_eq crc64 binding, (), rfl, rfl⟩

variable {header}

theorem readLayerHeader_checksum (read : readLayerHeader crc64 bytes = .ok header) :
    layerChecksum crc64 bytes = .ok (UInt64.ofNat header.storedChecksum) := by
  simp only [readLayerHeader, bind_eq_ok, rejectIf_eq_ok, pure_eq_ok, not_not] at read
  obtain ⟨_, -, _, -, _, -, _, -, _, -, _, -, _, -, _, -, _, -, _, -, _, -, _, -, stored, -, checksum,
    checked, _, same, rfl⟩ := read
  rw [checked, ← same, UInt64.ofNat_toNat]

variable {reserve}

theorem readLayer_checksum (read : readLayer crc64 bytes header reserve = .ok binding) :
    binding.metadataChecksum = UInt64.ofNat header.storedChecksum := by
  simp only [readLayer, bind_eq_ok, buildBinding_eq_ok] at read
  obtain ⟨_, -, _, -, _, -, _, -, _, -, _, -, _, -, _, -, _, -, -, -, -, -, same⟩ := read
  exact same

/-- What decodes is the encoding of what it decodes to. -/
theorem decodeWithReserve_eq_ok (decoded : decodeWithReserve crc64 bytes reserve = .ok binding) :
    bytes = binding.encoding crc64 ∧
      layerChecksum crc64 (binding.encoding crc64) = .ok binding.metadataChecksum := by
  simp only [decodeWithReserve, bind_eq_ok, rejectIf_eq_ok, pure_eq_ok, not_not] at decoded
  obtain ⟨header, readHeader, _, read, _, -, _, encodes, _, rfl, rfl⟩ := decoded
  have canonical := encodeWithReserve_eq_ok encodes
  have checked := readLayerHeader_checksum readHeader
  rw [← readLayer_checksum read] at checked
  exact ⟨canonical, canonical ▸ checked⟩

end

/-- The metadata length which the preflight reads from the front of a layer. -/
def preflight (bytes : List UInt8) : Except SnapshotV2DiffLayerBindingError Nat := do
  let header ← okOr (slice bytes 0 nativeV2DiffHeaderBytes) .invalidLength
  preflightMetadataLength header

/-- The preflight of an encoding tells its length. -/
theorem preflight_encoding (crc64 : Crc64) (binding : SnapshotV2DiffLayerBinding) :
    preflight (binding.encoding crc64) = .ok (binding.encoding crc64).length := by
  obtain ⟨fields, -⟩ := hasParts crc64 binding
  have header := fields.slice_flatten
  rw [length_headerFields] at header
  simp only [preflight, bind_eq_ok, okOr_eq_ok]
  refine ⟨_, header, ?_⟩
  rw [length_encoding]
  exact preflightMetadataLength_eq crc64 (hasFields_self _) (length_headerFields binding _ _)

/-- The layer codec. Every layer binding built from ranges, over any base and result
bindings which the program can hold, decodes from its own encoding, and the preflight
of the encoding is its length. Whatever decodes encodes to the same bytes, and is as
long as its preflight. -/
theorem diffLayer_codec (crc64 : Crc64) (streams : crc64.Streams) :
    (∀ base result ranges reserve binding,
      (∀ predecessor ∈ base.binding, predecessor.Obtained crc64) → result.Obtained crc64 →
      tryFromRanges crc64 base result ranges reserve = .ok binding →
      ∃ bytes, encode crc64 binding .granted = .ok bytes ∧
        decodeWithReserve crc64 bytes .granted = .ok binding ∧ preflight bytes = .ok bytes.length) ∧
    ∀ bytes reserve binding, decodeWithReserve crc64 bytes reserve = .ok binding →
      encode crc64 binding .granted = .ok bytes ∧ preflight bytes = .ok bytes.length := by
  constructor
  · intro base result ranges reserve binding obtainedBase obtainedResult built
    obtain ⟨rfl, rfl, -, checksum⟩ := tryFromRanges_eq_ok built
    have authentic : binding.Authentic crc64 :=
      ⟨checksum, obtainedResult.authentic streams,
        fun predecessor member => (obtainedBase predecessor member).authentic streams⟩
    exact ⟨binding.encoding crc64, encode_eq checksum, decodeWithReserve_encoding streams authentic,
      preflight_encoding crc64 binding⟩
  · intro bytes reserve binding decoded
    obtain ⟨rfl, checksum⟩ := decodeWithReserve_eq_ok decoded
    exact ⟨encode_eq checksum, preflight_encoding crc64 binding⟩

/-- One page of the second image differs from the first. -/
def onePage : List GuestMemoryRange := [⟨0x80001000, 0x1000, (by decide : 0 < 4 * 1024), by decide⟩]

def onePageLayer :
    Except SnapshotV2DiffLayerBindingError SnapshotV2DiffLayerBinding := do
  let predecessor ← (snapshotV2MemoryBindingFromMemoryWithVersionAndId
    jonesCrc64 splitMemory ⟨2, 13, 0⟩ ⟨List.replicate 16 7, rfl⟩ true
    true).mapError .predecessorBinding
  let result ← (snapshotV2MemoryBindingFromMemoryWithVersionAndId
    jonesCrc64 splitMemory ⟨2, 13, 0⟩ ⟨List.replicate 16 8, rfl⟩ true true).mapError .resultBinding
  tryFromRanges jonesCrc64 (.image predecessor) result onePage .granted

theorem diffLayer_codec_onePage : ∃ binding, onePageLayer = .ok binding ∧
    ∃ bytes, encode jonesCrc64 binding .granted = .ok bytes ∧
      decodeWithReserve jonesCrc64 bytes .granted = .ok binding ∧
      preflight bytes = .ok bytes.length := by
  have builds : onePageLayer.isOk = true := by decide +kernel
  cases built : onePageLayer with
  | error error =>
    rw [built] at builds
    cases builds
  | ok binding =>
    refine ⟨binding, rfl, ?_⟩
    simp only [onePageLayer, bind_eq_ok, mapError_eq_ok] at built
    obtain ⟨predecessor, isPredecessor, result, isResult, built⟩ := built
    have obtainedBase : ∀ binding ∈ (SnapshotV2DiffBase.image predecessor).binding,
        binding.Obtained jonesCrc64 := by
      intro binding member
      obtain rfl := Option.some.inj member
      exact .ofMemory isPredecessor
    exact (diffLayer_codec jonesCrc64 jonesCrc64_streams).1 _ _ _ _ binding obtainedBase
      (.ofMemory isResult) built

end SnapshotV2DiffLayerBinding
end Bangbang.Snapshot
