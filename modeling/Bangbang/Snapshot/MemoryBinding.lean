import Bangbang.Memory.GuestMemory
import Bangbang.Snapshot.Format

/-!
# Complete memory image bindings

A binding names one complete native-v2 memory image: its version, its identity,
and the extent of the image file which holds each guest region. A binding
carries the two checks which every way to make one performs.

The checksum function is outside this model and is a parameter throughout.
-/

namespace Bangbang.Snapshot

open Memory

/-- The newest compatible format, whose memory binding this one is. -/
def nativeV2DiffStateCompatibilityVersion : SnapshotFormatVersion := ⟨2, 13, 0⟩

def nativeV2MemoryMagic : List UInt8 := [0x42, 0x41, 0x4e, 0x47, 0x4d, 0x32, 0x41, 0x00]

def nativeV2MemoryHeaderBytes : Nat := 64

def nativeV2MemoryAlignment : Nat := 64 * 1024

def nativeV2MemoryGuestGranule : Nat := 4096

def nativeV2MemoryExtentBytes : Nat := 24

def nativeV2MemoryMaxExtents : Nat := 4096

def dramMemMaxSize : Nat := 0x00ff80000000

inductive SnapshotV2MemoryBindingError where
  | countOutOfBounds
  | metadataAllocationFailed
  | invalidMagic
  | unsupportedVersion
  | invalidHeader
  | invalidLength
  | lengthOverflow
  | integrityMismatch
  | invalidExtent
  | invalidExtentTopology
  | nonCanonicalFileOffset
  | dataTooLarge
  | fileLengthMismatch
deriving DecidableEq, Repr

/-- Sixteen opaque bytes. -/
structure SnapshotV2MemoryImageId where
  bytes : List UInt8
  length : bytes.length = 16
deriving DecidableEq, Repr

structure SnapshotV2MemoryExtent where
  range : GuestMemoryRange
  fileOffset : Nat
deriving DecidableEq, Repr

section

def validateMemoryVersion (version : SnapshotFormatVersion) :
    Except SnapshotV2MemoryBindingError Unit :=
  rejectIf (¬ (version.major = nativeV2DiffStateCompatibilityVersion.major ∧ 1 ≤ version.minor ∧
    version.minor ≤ nativeV2DiffStateCompatibilityVersion.minor)) .unsupportedVersion

def validateExtentCount (count : Nat) : Except SnapshotV2MemoryBindingError Unit :=
  rejectIf (¬ (1 ≤ count ∧ count ≤ nativeV2MemoryMaxExtents)) .countOutOfBounds

def validateRange (range : GuestMemoryRange) : Except SnapshotV2MemoryBindingError Unit :=
  rejectIf (range.start % nativeV2MemoryGuestGranule ≠ 0 ∨
    range.size % nativeV2MemoryGuestGranule ≠ 0) .invalidExtent

/-- The next file offset on an image boundary. -/
def alignImage (value : Nat) : Except SnapshotV2MemoryBindingError Nat :=
  okOr (alignUp value nativeV2MemoryAlignment) .lengthOverflow

/-- Walk the extents after `previous`, the next of which starts at `expected`. -/
def validateExtentsFrom (previous : Option GuestMemoryRange) (expected totalData : Nat) :
    List SnapshotV2MemoryExtent → Except SnapshotV2MemoryBindingError Unit
  | [] => .ok ()
  | extent :: extents => do
    validateRange extent.range
    rejectIf (previous.any fun previous =>
        extent.range.start ≤ previous.start || previous.overlaps extent.range)
      .invalidExtentTopology
    rejectIf (extent.fileOffset ≠ expected) .nonCanonicalFileOffset
    let totalData ← okOr (checkedAdd totalData extent.range.size) .lengthOverflow
    rejectIf (dramMemMaxSize < totalData) .dataTooLarge
    let stop ← okOr (checkedAdd extent.fileOffset extent.range.size) .lengthOverflow
    let expected ← alignImage stop
    validateExtentsFrom (some extent.range) expected totalData extents

variable (extents : List SnapshotV2MemoryExtent)

/-- The end of the last extent. -/
def imageLength : Except SnapshotV2MemoryBindingError Nat := do
  let last ← okOr extents.getLast? .countOutOfBounds
  okOr (checkedAdd last.fileOffset last.range.size) .lengthOverflow

def validateExtents (fileLength : Nat) : Except SnapshotV2MemoryBindingError Unit := do
  validateExtentCount extents.length
  validateExtentsFrom none nativeV2MemoryAlignment 0 extents
  let expectedLength ← imageLength extents
  rejectIf (fileLength ≠ expectedLength) .fileLengthMismatch

end

section
variable {ε : Type}

/-- The record of a guest range and the file offset of its bytes. -/
def mappingBytes (range : GuestMemoryRange) (fileOffset : Nat) : List UInt8 :=
  leBytes 8 range.start ++ leBytes 8 range.size ++ leBytes 8 fileOffset

def readMapping (overflow missing invalid : ε) (bytes : List UInt8) (offset : Nat) :
    Except ε (GuestMemoryRange × Nat) := do
  let start ← readNumber overflow missing bytes offset 8
  let size ← readNumber overflow missing bytes (offset + 8) 8
  let range ← (GuestMemoryRange.new start size).mapError fun _ => invalid
  let fileOffset ← readNumber overflow missing bytes (offset + 16) 8
  return (range, fileOffset)

end

structure SnapshotV2MemoryBinding where
  version : SnapshotFormatVersion
  imageId : SnapshotV2MemoryImageId
  extents : List SnapshotV2MemoryExtent
  fileLength : Nat
  metadataChecksum : UInt64
  supported : validateMemoryVersion version = .ok ()
  valid : validateExtents extents fileLength = .ok ()
deriving DecidableEq, Repr

namespace SnapshotV2MemoryBinding

variable (crc64 : Crc64)

def tryClone (binding : SnapshotV2MemoryBinding) (metadata : Bool) :
    Except SnapshotV2MemoryBindingError SnapshotV2MemoryBinding := do
  rejectIf (!metadata) .metadataAllocationFailed
  return binding

section

def extentBytes (extent : SnapshotV2MemoryExtent) : List UInt8 :=
  mappingBytes extent.range extent.fileOffset

variable (binding : SnapshotV2MemoryBinding) (checksum : UInt64)

/-- The header fields in order. -/
def headerFields : List (List UInt8) :=
  [nativeV2MemoryMagic, leBytes 2 binding.version.major.toNat,
    leBytes 2 binding.version.minor.toNat, leBytes 2 binding.version.patch.toNat,
    leBytes 2 nativeV2MemoryHeaderBytes, leBytes 4 0, leBytes 4 nativeV2MemoryGuestGranule,
    leBytes 4 nativeV2MemoryAlignment, leBytes 4 binding.extents.length, binding.imageId.bytes,
    leBytes 8 checksum.toNat, leBytes 8 binding.fileLength]

/-- The encoding with a given checksum field. -/
def sealed : List UInt8 :=
  (binding.headerFields checksum).flatten ++ binding.extents.flatMap extentBytes

def replaceU64 (bytes : List UInt8) (offset : Nat) (value : UInt64) :
    Except SnapshotV2MemoryBindingError (List UInt8) := do
  let stop ← okOr (checkedAdd offset 8) .lengthOverflow
  rejectIf (bytes.length < stop) .invalidLength
  return bytes.take offset ++ leBytes 8 value.toNat ++ bytes.drop stop

def encodeBinding (metadata : Bool) : Except SnapshotV2MemoryBindingError (List UInt8) := do
  validateExtents binding.extents binding.fileLength
  let tableBytes ← okOr (checkedMul binding.extents.length nativeV2MemoryExtentBytes)
    .lengthOverflow
  let _ ← okOr (checkedAdd nativeV2MemoryHeaderBytes tableBytes) .lengthOverflow
  rejectIf (!metadata) .metadataAllocationFailed
  validateMemoryVersion binding.version
  rejectIf (2 ^ 32 ≤ binding.extents.length) .lengthOverflow
  let bytes := binding.sealed 0
  replaceU64 bytes 48 (crc64 0 bytes)

end

section
variable (bytes : List UInt8)

def bindingChecksum : Except SnapshotV2MemoryBindingError UInt64 :=
  checksumAround crc64 .invalidLength bytes 48

def readBindingNumber (offset width : Nat) : Except SnapshotV2MemoryBindingError Nat :=
  readNumber .lengthOverflow .invalidLength bytes offset width

def readExtent (index : Nat) : Except SnapshotV2MemoryBindingError SnapshotV2MemoryExtent := do
  let position ← okOr (checkedMul index nativeV2MemoryExtentBytes) .lengthOverflow
  let offset ← okOr (checkedAdd nativeV2MemoryHeaderBytes position) .lengthOverflow
  let (range, fileOffset) ← readMapping .lengthOverflow .invalidLength .invalidExtent bytes offset
  return { range, fileOffset }

/-- The header fields which do not vary. -/
def validateHeader : Except SnapshotV2MemoryBindingError Unit := do
  let headerBytes ← readBindingNumber bytes 14 2
  let flags ← readBindingNumber bytes 16 4
  let granule ← readBindingNumber bytes 20 4
  let alignment ← readBindingNumber bytes 24 4
  rejectIf (headerBytes ≠ nativeV2MemoryHeaderBytes ∨ flags ≠ 0 ∨
    granule ≠ nativeV2MemoryGuestGranule ∨ alignment ≠ nativeV2MemoryAlignment) .invalidHeader

def readImageId : Except SnapshotV2MemoryBindingError SnapshotV2MemoryImageId := do
  let field ← readArray .lengthOverflow .invalidLength bytes 32 16
  if length : field.length = 16 then return ⟨field, length⟩ else throw .invalidLength

/-- The bytes have exactly the length which their extent count asks for. -/
def validateLength (count : Nat) : Except SnapshotV2MemoryBindingError Unit := do
  let tableBytes ← okOr (checkedMul count nativeV2MemoryExtentBytes) .lengthOverflow
  let expectedLength ← okOr (checkedAdd nativeV2MemoryHeaderBytes tableBytes) .lengthOverflow
  rejectIf (bytes.length ≠ expectedLength) .invalidLength

def decodeBinding (metadata : Bool) :
    Except SnapshotV2MemoryBindingError SnapshotV2MemoryBinding := do
  rejectIf (bytes.length < nativeV2MemoryHeaderBytes) .invalidLength
  let magic ← readArray .lengthOverflow .invalidLength bytes 0 8
  rejectIf (magic ≠ nativeV2MemoryMagic) .invalidMagic
  let version ← readFormatVersion .lengthOverflow (fun _ => .invalidLength) bytes 8
  let supported ← attach (validateMemoryVersion version)
  validateHeader bytes
  let count ← readBindingNumber bytes 28 4
  validateExtentCount count
  validateLength bytes count
  let storedChecksum ← readBindingNumber bytes 48 8
  let checksum ← bindingChecksum crc64 bytes
  rejectIf (checksum.toNat ≠ storedChecksum) .integrityMismatch
  let imageId ← readImageId bytes
  let fileLength ← readBindingNumber bytes 56 8
  rejectIf (!metadata) .metadataAllocationFailed
  let extents ← (List.range count).mapM (readExtent bytes)
  let valid ← attach (validateExtents extents fileLength)
  return { version, imageId, extents, fileLength
           metadataChecksum := UInt64.ofNat storedChecksum
           supported := supported.property
           valid := valid.property }

end

def buildBindingWithVersion (version : SnapshotFormatVersion) (imageId : SnapshotV2MemoryImageId)
    (extents : List SnapshotV2MemoryExtent) (fileLength : Nat) (metadata : Bool) :
    Except SnapshotV2MemoryBindingError SnapshotV2MemoryBinding := do
  let supported ← attach (validateMemoryVersion version)
  let valid ← attach (validateExtents extents fileLength)
  let binding : SnapshotV2MemoryBinding :=
    { version, imageId, extents, fileLength, metadataChecksum := 0
      supported := supported.property
      valid := valid.property }
  let encoded ← encodeBinding crc64 binding metadata
  let checksum ← readBindingNumber encoded 48 8
  return { binding with metadataChecksum := UInt64.ofNat checksum }

/-- Lay the regions out one after the other, each on an image boundary. -/
def layoutExtents (fileOffset totalData : Nat) :
    List GuestMemoryRange → Except SnapshotV2MemoryBindingError (List SnapshotV2MemoryExtent)
  | [] => .ok []
  | range :: ranges => do
    validateRange range
    let totalData ← okOr (checkedAdd totalData range.size) .lengthOverflow
    rejectIf (dramMemMaxSize < totalData) .dataTooLarge
    let stop ← okOr (checkedAdd fileOffset range.size) .lengthOverflow
    let next ← alignImage stop
    let extents ← layoutExtents next totalData ranges
    return { range, fileOffset } :: extents

def snapshotV2MemoryBindingFromMemoryWithVersionAndId (memory : GuestMemory)
    (version : SnapshotFormatVersion) (imageId : SnapshotV2MemoryImageId)
    (extentMetadata metadata : Bool) :
    Except SnapshotV2MemoryBindingError SnapshotV2MemoryBinding := do
  validateExtentCount memory.regions.length
  rejectIf (!extentMetadata) .metadataAllocationFailed
  let extents ← layoutExtents nativeV2MemoryAlignment 0 (memory.regions.map (·.range))
  let fileLength ← imageLength extents
  buildBindingWithVersion crc64 version imageId extents fileLength metadata

end SnapshotV2MemoryBinding
end Bangbang.Snapshot
