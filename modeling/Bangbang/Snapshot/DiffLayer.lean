import Bangbang.Snapshot.MemoryBinding

/-!
# Differential layer bindings

A differential layer holds the selected guest ranges of one complete result
image; every other byte of the result comes from the layer's base. The binding
of a layer is its metadata: the base, the complete result binding, and the
packed position of each selected range in the layer file.

A binding carries the checks of `buildBinding`: its layout is the calculated
one, and its extents are the canonical directory which ends at its file length.
-/

namespace Bangbang.Snapshot

open Memory

def nativeV2DiffMagic : List UInt8 := [0x42, 0x41, 0x4e, 0x47, 0x44, 0x32, 0x41, 0x00]

def nativeV2DiffProfile : Nat := 1

def nativeV2DiffHeaderBytes : Nat := 96

def nativeV2DiffExtentBytes : Nat := 24

def nativeV2DiffMaxExtents : Nat := 32768

def nativeV2DiffMaxMetadataBytes : Nat := 1024 * 1024

inductive SnapshotV2DiffBase where
  | zero
  | image (binding : SnapshotV2MemoryBinding)
deriving DecidableEq, Repr

namespace SnapshotV2DiffBase

def binding : SnapshotV2DiffBase → Option SnapshotV2MemoryBinding
  | zero => none
  | image binding => some binding

def imageId (base : SnapshotV2DiffBase) : Option SnapshotV2MemoryImageId :=
  base.binding.map (·.imageId)

end SnapshotV2DiffBase

structure SnapshotV2DiffDataExtent where
  range : GuestMemoryRange
  fileOffset : Nat
deriving DecidableEq, Repr

inductive SnapshotV2DiffLayerBindingError where
  | invalidMagic
  | unsupportedVersion
  | invalidHeader
  | invalidBase
  | predecessorBindingMismatch
  | baseResultIdentityConflict
  | countOutOfBounds
  | metadataAllocationFailed
  | resultBinding (source : SnapshotV2MemoryBindingError)
  | predecessorBinding (source : SnapshotV2MemoryBindingError)
  | invalidLength
  | lengthOverflow
  | metadataTooLarge
  | integrityMismatch
  | invalidExtent
  | invalidExtentTopology
  | nonCanonicalExtent
  | nonCanonicalFileOffset
  | dataTooLarge
  | fileLengthMismatch
deriving DecidableEq, Repr

section

structure CalculatedLayout where
  (metadataLength dataOffset : Nat)
deriving DecidableEq, Repr

def validateCount (count : Nat) : Except SnapshotV2DiffLayerBindingError Unit :=
  rejectIf (nativeV2DiffMaxExtents < count) .countOutOfBounds

def validateDataRange (range : GuestMemoryRange) : Except SnapshotV2DiffLayerBindingError Unit :=
  rejectIf (range.start % nativeV2MemoryGuestGranule ≠ 0 ∨
    range.size % nativeV2MemoryGuestGranule ≠ 0) .invalidExtent

/-- The next file offset on an image boundary. -/
def alignLayer (value : Nat) : Except SnapshotV2DiffLayerBindingError Nat :=
  okOr (alignUp value nativeV2MemoryAlignment) .lengthOverflow

def encodedMemoryBindingLength (binding : SnapshotV2MemoryBinding) :
    Except SnapshotV2DiffLayerBindingError Nat := do
  let tableBytes ← okOr (checkedMul binding.extents.length nativeV2MemoryExtentBytes)
    .lengthOverflow
  okOr (checkedAdd nativeV2MemoryHeaderBytes tableBytes) .lengthOverflow

/-- The bounded length of the metadata with the given parts. -/
def boundedMetadataLength (resultLength predecessorLength count : Nat) :
    Except SnapshotV2DiffLayerBindingError Nat := do
  let length ← okOr (checkedAdd nativeV2DiffHeaderBytes resultLength) .lengthOverflow
  let length ← okOr (checkedAdd length predecessorLength) .lengthOverflow
  let tableBytes ← okOr (checkedMul count nativeV2DiffExtentBytes) .lengthOverflow
  let length ← okOr (checkedAdd length tableBytes) .lengthOverflow
  rejectIf (nativeV2DiffMaxMetadataBytes < length) .metadataTooLarge
  return length

def encodedPredecessorLength : SnapshotV2DiffBase → Except SnapshotV2DiffLayerBindingError Nat
  | .zero => .ok 0
  | .image binding => encodedMemoryBindingLength binding

def calculateLayout (base : SnapshotV2DiffBase) (result : SnapshotV2MemoryBinding)
    (extentCount : Nat) : Except SnapshotV2DiffLayerBindingError CalculatedLayout := do
  rejectIf (result.version ≠ nativeV2DiffStateCompatibilityVersion) .unsupportedVersion
  validateCount extentCount
  let resultLength ← encodedMemoryBindingLength result
  let predecessorLength ← encodedPredecessorLength base
  let metadataLength ← boundedMetadataLength resultLength predecessorLength extentCount
  let dataOffset ← alignLayer metadataLength
  return { metadataLength, dataOffset }

variable (regions : List SnapshotV2MemoryExtent)

/-- The first result region from `index` on which does not end before `start`. -/
def advanceResult (index start : Nat) : Nat :=
  index + ((regions.drop index).takeWhile fun region => region.range.endExclusive ≤ start).length

/-- A range comes after its predecessor, and does not continue it in one region. -/
def validateSuccessor (previous : Option (GuestMemoryRange × Nat)) (range : GuestMemoryRange)
    (index : Nat) : Except SnapshotV2DiffLayerBindingError Unit :=
  match previous with
  | none => .ok ()
  | some (previousRange, previousIndex) => do
    rejectIf (range.start ≤ previousRange.start ∨ previousRange.overlaps range)
      .invalidExtentTopology
    rejectIf (previousIndex = index ∧ previousRange.isAdjacentTo range) .nonCanonicalExtent

/-- Walk the data extents after `previous`, the next of which starts at `expected`.
The result is the offset after the last. -/
def validateDataFrom (regions : List SnapshotV2MemoryExtent) (index : Nat)
    (previous : Option (GuestMemoryRange × Nat)) (expected totalData : Nat) :
    List SnapshotV2DiffDataExtent → Except SnapshotV2DiffLayerBindingError Nat
  | [] => .ok expected
  | extent :: extents => do
    validateDataRange extent.range
    let index := advanceResult regions index extent.range.start
    let region ← okOr regions[index]? .invalidExtent
    rejectIf (extent.range.start < region.range.start ∨
      region.range.endExclusive < extent.range.endExclusive) .invalidExtent
    validateSuccessor previous extent.range index
    rejectIf (extent.fileOffset ≠ expected) .nonCanonicalFileOffset
    let totalData ← okOr (checkedAdd totalData extent.range.size) .lengthOverflow
    rejectIf (dramMemMaxSize < totalData) .dataTooLarge
    let expected ← okOr (checkedAdd expected extent.range.size) .lengthOverflow
    validateDataFrom regions index (some (extent.range, index)) expected totalData extents

def validateDataExtents (dataOffset : Nat) (extents : List SnapshotV2DiffDataExtent)
    : Except SnapshotV2DiffLayerBindingError Nat :=
  validateDataFrom regions 0 none dataOffset 0 extents

end

structure SnapshotV2DiffLayerBinding where
  version : SnapshotFormatVersion
  base : SnapshotV2DiffBase
  result : SnapshotV2MemoryBinding
  dataExtents : List SnapshotV2DiffDataExtent
  (metadataLength dataOffset fileLength : Nat)
  metadataChecksum : UInt64
  exactVersion : version = nativeV2DiffStateCompatibilityVersion
  distinct : base.imageId ≠ some result.imageId
  laidOut : calculateLayout base result dataExtents.length = .ok ⟨metadataLength, dataOffset⟩
  valid : validateDataExtents result.extents dataOffset dataExtents = .ok fileLength
deriving DecidableEq, Repr

/-- Whether each allocation of a codec call succeeds. -/
structure LayerReserve where
  (extents bytes decodedResult decodedPredecessor encodedResult encodedPredecessor : Bool)

def LayerReserve.granted : LayerReserve := ⟨true, true, true, true, true, true⟩

namespace SnapshotV2DiffLayerBinding

variable (crc64 : Crc64)

section

def extentBytes (extent : SnapshotV2DiffDataExtent) : List UInt8 :=
  mappingBytes extent.range extent.fileOffset

def baseKind : SnapshotV2DiffBase → Nat
  | .zero => 0
  | .image _ => 1

def baseImageIdBytes : SnapshotV2DiffBase → List UInt8
  | .zero => List.replicate 16 0
  | .image binding => binding.imageId.bytes

variable (binding : SnapshotV2DiffLayerBinding) (reserve : LayerReserve)

/-- The header fields in order. -/
def headerFields (resultLength predecessorLength : Nat) : List (List UInt8) :=
  [nativeV2DiffMagic, leBytes 2 binding.version.major.toNat, leBytes 2 binding.version.minor.toNat,
    leBytes 2 binding.version.patch.toNat, leBytes 2 nativeV2DiffHeaderBytes,
    leBytes 2 nativeV2DiffProfile, leBytes 2 (baseKind binding.base), leBytes 4 0,
    leBytes 4 nativeV2MemoryGuestGranule, leBytes 4 binding.dataExtents.length,
    leBytes 4 resultLength, leBytes 4 nativeV2DiffExtentBytes, leBytes 8 binding.metadataLength,
    leBytes 8 binding.dataOffset, leBytes 8 binding.fileLength,
    leBytes 8 binding.metadataChecksum.toNat, baseImageIdBytes binding.base,
    leBytes 4 predecessorLength, leBytes 4 0]

/-- The metadata around the two embedded bindings. -/
def assemble (result predecessor : List UInt8) : List UInt8 :=
  (binding.headerFields result.length predecessor.length).flatten ++ result ++ predecessor ++
    binding.dataExtents.flatMap extentBytes

def encodePredecessor (base : SnapshotV2DiffBase) (metadata : Bool) :
    Except SnapshotV2DiffLayerBindingError (List UInt8) :=
  match base with
  | .zero => .ok []
  | .image binding => (binding.encodeBinding crc64 metadata).mapError .predecessorBinding

/-- The offset after the packed data. -/
def packedEnd (dataOffset : Nat) (extents : List SnapshotV2DiffDataExtent) : Option Nat :=
  extents.foldlM (fun offset extent => checkedAdd offset extent.range.size) dataOffset

/-- The lengths of a binding are the calculated ones. -/
def validateLengths (layout : CalculatedLayout) : Except SnapshotV2DiffLayerBindingError Unit := do
  rejectIf (binding.version ≠ nativeV2DiffStateCompatibilityVersion ∨
    binding.metadataLength ≠ layout.metadataLength ∨ binding.dataOffset ≠ layout.dataOffset)
    .invalidLength
  let fileEnd ← okOr (packedEnd layout.dataOffset binding.dataExtents) .lengthOverflow
  rejectIf (binding.fileLength ≠ fileEnd) .invalidLength

def encodeWithReserve : Except SnapshotV2DiffLayerBindingError (List UInt8) := do
  let layout ← calculateLayout binding.base binding.result binding.dataExtents.length
  validateLengths binding layout
  let result ← (binding.result.encodeBinding crc64 reserve.encodedResult).mapError .resultBinding
  let predecessor ← encodePredecessor crc64 binding.base reserve.encodedPredecessor
  rejectIf (nativeV2DiffMaxMetadataBytes < layout.metadataLength) .metadataTooLarge
  rejectIf (!reserve.bytes) .metadataAllocationFailed
  rejectIf (2 ^ 32 ≤ binding.dataExtents.length ∨ 2 ^ 32 ≤ result.length ∨
    2 ^ 32 ≤ predecessor.length) .lengthOverflow
  let header := (binding.headerFields result.length predecessor.length).flatten
  rejectIf (header.length ≠ nativeV2DiffHeaderBytes) .invalidLength
  let bytes := binding.assemble result predecessor
  rejectIf (bytes.length ≠ layout.metadataLength) .invalidLength
  return bytes

def layerChecksum (bytes : List UInt8) : Except SnapshotV2DiffLayerBindingError UInt64 :=
  checksumAround crc64 .invalidLength bytes 64

def encode : Except SnapshotV2DiffLayerBindingError (List UInt8) := do
  let bytes ← encodeWithReserve crc64 binding reserve
  let checksum ← layerChecksum crc64 bytes
  rejectIf (checksum ≠ binding.metadataChecksum) .integrityMismatch
  return bytes

end

section
variable (base : SnapshotV2DiffBase) (result : SnapshotV2MemoryBinding)

def buildBinding (dataExtents : List SnapshotV2DiffDataExtent) (layout : CalculatedLayout)
    (metadataChecksum : UInt64) :
    Except SnapshotV2DiffLayerBindingError SnapshotV2DiffLayerBinding := do
  rejectIf (result.version ≠ nativeV2DiffStateCompatibilityVersion) .unsupportedVersion
  let distinct ← attach (rejectIf (base.imageId = some result.imageId)
    SnapshotV2DiffLayerBindingError.baseResultIdentityConflict)
  validateCount dataExtents.length
  let expectedLayout ← attach (calculateLayout base result dataExtents.length)
  rejectIf (layout ≠ expectedLayout.val) .invalidLength
  let fileLength ← attach
    (validateDataExtents result.extents expectedLayout.val.dataOffset dataExtents)
  return { version := nativeV2DiffStateCompatibilityVersion
           base, result, dataExtents
           metadataLength := expectedLayout.val.metadataLength
           dataOffset := expectedLayout.val.dataOffset
           fileLength := fileLength.val
           metadataChecksum
           exactVersion := rfl
           distinct := rejectIf_eq_ok.mp distinct.property
           laidOut := expectedLayout.property
           valid := fileLength.property }

/-- Pack the ranges one after the other. -/
def packRanges (fileOffset : Nat) :
    List GuestMemoryRange → Except SnapshotV2DiffLayerBindingError (List SnapshotV2DiffDataExtent)
  | [] => .ok []
  | range :: ranges => do
    let next ← okOr (checkedAdd fileOffset range.size) .lengthOverflow
    let extents ← packRanges next ranges
    return { range, fileOffset } :: extents

def tryFromRanges (ranges : List GuestMemoryRange) (reserve : LayerReserve) :
    Except SnapshotV2DiffLayerBindingError SnapshotV2DiffLayerBinding := do
  validateCount ranges.length
  let layout ← calculateLayout base result ranges.length
  rejectIf (!reserve.extents) .metadataAllocationFailed
  let dataExtents ← packRanges layout.dataOffset ranges
  let binding ← buildBinding base result dataExtents layout 0
  let encoded ← encodeWithReserve crc64 binding reserve
  let metadataChecksum ← layerChecksum crc64 encoded
  return { binding with metadataChecksum }

end

section
variable (header : List UInt8) (bytes : List UInt8)

def readLayerNumber (offset width : Nat) : Except SnapshotV2DiffLayerBindingError Nat :=
  readNumber .lengthOverflow .invalidLength bytes offset width

/-- The header fields which name the base. -/
structure BaseHeader where
  isImage : Bool
  imageId : List UInt8
  predecessorLength : Nat
deriving DecidableEq, Repr

def classifyBase (kind : Nat) (imageId : List UInt8) (predecessorLength : Nat) :
    Except SnapshotV2DiffLayerBindingError Bool :=
  if kind = 0 ∧ imageId = List.replicate 16 0 ∧ predecessorLength = 0 then .ok false
  else if kind = 1 ∧ predecessorLength ≠ 0 then .ok true
  else .error .invalidBase

def readBaseHeader : Except SnapshotV2DiffLayerBindingError BaseHeader := do
  let imageId ← readArray .lengthOverflow .invalidLength bytes 72 16
  let predecessorLength ← readLayerNumber bytes 88 4
  let kind ← readLayerNumber bytes 18 2
  let isImage ← classifyBase kind imageId predecessorLength
  return { isImage, imageId, predecessorLength }

/-- The header fields which do not vary. -/
def validateLayerHeader : Except SnapshotV2DiffLayerBindingError Unit := do
  let headerBytes ← readLayerNumber header 14 2
  let profile ← readLayerNumber header 16 2
  let flags ← readLayerNumber header 20 4
  let granule ← readLayerNumber header 24 4
  let extentBytes ← readLayerNumber header 36 4
  rejectIf (headerBytes ≠ nativeV2DiffHeaderBytes ∨ profile ≠ nativeV2DiffProfile ∨ flags ≠ 0 ∨
    granule ≠ nativeV2MemoryGuestGranule ∨ extentBytes ≠ nativeV2DiffExtentBytes ∨
    slice header 92 4 ≠ some (leBytes 4 0)) .invalidHeader

def preflightMetadataLength : Except SnapshotV2DiffLayerBindingError Nat := do
  rejectIf (header.length ≠ nativeV2DiffHeaderBytes) .invalidLength
  let magic ← readArray .lengthOverflow .invalidLength header 0 8
  rejectIf (magic ≠ nativeV2DiffMagic) .invalidMagic
  let version ← readFormatVersion .lengthOverflow (fun _ => .invalidLength) header 8
  rejectIf (version ≠ nativeV2DiffStateCompatibilityVersion) .unsupportedVersion
  validateLayerHeader header
  let base ← readBaseHeader header
  let count ← readLayerNumber header 28 4
  rejectIf (nativeV2DiffMaxExtents < count) .countOutOfBounds
  let resultLength ← readLayerNumber header 32 4
  let expected ← boundedMetadataLength resultLength base.predecessorLength count
  let encoded ← readLayerNumber header 40 8
  rejectIf (encoded ≠ expected) .invalidLength
  return encoded

def decodeBase (header : BaseHeader) (offset : Nat) (metadata : Bool) :
    Except SnapshotV2DiffLayerBindingError SnapshotV2DiffBase :=
  match header.isImage with
  | false => .ok .zero
  | true => do
    let field ← okOr (slice bytes offset header.predecessorLength) .invalidLength
    let predecessor ← (SnapshotV2MemoryBinding.decodeBinding crc64 field metadata).mapError
      .predecessorBinding
    rejectIf (predecessor.imageId.bytes ≠ header.imageId) .predecessorBindingMismatch
    return .image predecessor

def readDataExtent (table index : Nat) :
    Except SnapshotV2DiffLayerBindingError SnapshotV2DiffDataExtent := do
  let position ← okOr (checkedMul index nativeV2DiffExtentBytes) .lengthOverflow
  let offset ← okOr (checkedAdd table position) .lengthOverflow
  let (range, fileOffset) ← readMapping .lengthOverflow .invalidLength .invalidExtent bytes offset
  return { range, fileOffset }

/-- The header fields of one layer. -/
structure LayerHeader where
  metadataLength : Nat
  base : BaseHeader
  (count resultLength dataOffset fileLength storedChecksum : Nat)
deriving DecidableEq, Repr

/-- Read the header, and check the lengths and the checksum of the whole metadata. -/
def readLayerHeader : Except SnapshotV2DiffLayerBindingError LayerHeader := do
  rejectIf (bytes.length < nativeV2DiffHeaderBytes) .invalidLength
  let header ← okOr (slice bytes 0 nativeV2DiffHeaderBytes) .invalidLength
  let metadataLength ← preflightMetadataLength header
  let base ← readBaseHeader bytes
  let count ← readLayerNumber bytes 28 4
  let resultLength ← readLayerNumber bytes 32 4
  rejectIf (bytes.length ≠ metadataLength) .invalidLength
  let dataOffset ← readLayerNumber bytes 48 8
  let expectedDataOffset ← alignLayer metadataLength
  rejectIf (dataOffset ≠ expectedDataOffset) .invalidLength
  let fileLength ← readLayerNumber bytes 56 8
  rejectIf (fileLength < dataOffset ∨ dramMemMaxSize < fileLength - dataOffset) .fileLengthMismatch
  let storedChecksum ← readLayerNumber bytes 64 8
  let checksum ← layerChecksum crc64 bytes
  rejectIf (checksum.toNat ≠ storedChecksum) .integrityMismatch
  return { metadataLength, base, count, resultLength, dataOffset, fileLength, storedChecksum }

/-- Read the embedded bindings and the data directory, and build the binding. -/
def readLayer (header : LayerHeader) (reserve : LayerReserve) :
    Except SnapshotV2DiffLayerBindingError SnapshotV2DiffLayerBinding := do
  let resultEnd ← okOr (checkedAdd nativeV2DiffHeaderBytes header.resultLength) .lengthOverflow
  let resultBytes ← okOr (slice bytes nativeV2DiffHeaderBytes header.resultLength) .invalidLength
  let result ← (SnapshotV2MemoryBinding.decodeBinding crc64 resultBytes
    reserve.decodedResult).mapError .resultBinding
  let predecessorEnd ← okOr (checkedAdd resultEnd header.base.predecessorLength) .lengthOverflow
  let base ← decodeBase crc64 bytes header.base resultEnd reserve.decodedPredecessor
  let layout ← calculateLayout base result header.count
  rejectIf (layout ≠ ⟨header.metadataLength, header.dataOffset⟩) .invalidLength
  rejectIf (!reserve.extents) .metadataAllocationFailed
  let dataExtents ← (List.range header.count).mapM (readDataExtent bytes predecessorEnd)
  buildBinding base result dataExtents layout (UInt64.ofNat header.storedChecksum)

def decodeWithReserve (reserve : LayerReserve) :
    Except SnapshotV2DiffLayerBindingError SnapshotV2DiffLayerBinding := do
  let header ← readLayerHeader crc64 bytes
  let binding ← readLayer crc64 bytes header reserve
  rejectIf (binding.fileLength ≠ header.fileLength) .fileLengthMismatch
  let canonical ← encodeWithReserve crc64 binding reserve
  rejectIf (canonical ≠ bytes) .invalidHeader
  return binding

end
end SnapshotV2DiffLayerBinding
end Bangbang.Snapshot
