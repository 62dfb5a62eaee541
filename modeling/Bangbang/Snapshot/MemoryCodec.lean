import Bangbang.Snapshot.MemoryBinding

/-!
# The memory binding codec

Decoding is characterised by one equivalence, `decodeBinding_eq_ok`: the bytes
which decode to a binding are exactly the sealed encoding of that binding. Both
directions of the codec are instances of it.
-/

namespace Bangbang.Snapshot

open Memory List

section

/-- What the extents of an image have in common from an offset on. -/
structure LaidOut (expected : Nat) (extents : List SnapshotV2MemoryExtent) : Prop where
  above : ∀ extent ∈ extents, expected ≤ extent.fileOffset
  aligned : ∀ extent ∈ extents, nativeV2MemoryAlignment ∣ extent.fileOffset
  bounded : ∀ extent ∈ extents, extent.fileOffset + extent.range.size < wordLimit
  apart : extents.Pairwise fun lower upper =>
    lower.fileOffset + lower.range.size ≤ upper.fileOffset
  granular : ∀ extent ∈ extents, nativeV2MemoryGuestGranule ∣ extent.range.start ∧
    nativeV2MemoryGuestGranule ∣ extent.range.size
  ordered : Ordered (extents.map (·.range))

variable {extents}

/-- Extents which pass the checks are laid out. -/
theorem validateExtentsFrom_eq_ok {previous expected totalData done}
    (boundary : nativeV2MemoryAlignment ∣ expected)
    (valid : validateExtentsFrom previous expected totalData extents = .ok done) :
    LaidOut expected extents ∧ ∀ before ∈ previous, ∀ extent ∈ extents,
      before.endExclusive ≤ extent.range.start := by
  induction extents generalizing previous expected totalData with
  | nil => exact ⟨⟨nofun, nofun, nofun, .nil, nofun, .nil⟩, by simp⟩
  | cons extent extents ih =>
    simp only [validateExtentsFrom, validateRange, bind_eq_ok, rejectIf_eq_ok, okOr_eq_ok,
      checkedAdd_eq_some, not_or, not_not] at valid
    obtain ⟨_, granular, _, follows, _, rfl, total, -, _, -, stop, ⟨bounded, rfl⟩, next, aligned,
      rest⟩ := valid
    obtain ⟨grows, nextBoundary, -, -⟩ := alignUp_eq_some (okOr_eq_ok.mp aligned)
    obtain ⟨laidOut, after⟩ := ih nextBoundary rest
    have later := after extent.range rfl
    have nonempty := extent.range.start_lt_endExclusive
    have first : ∀ before ∈ previous, before.endExclusive ≤ extent.range.start := by
      rintro before rfl
      simp only [Option.any_some, Bool.or_eq_true, decide_eq_true_eq, not_or,
        GuestMemoryRange.overlaps_iff] at follows
      omega
    refine ⟨⟨?_, ?_, ?_, ?_, ?_, ?_⟩, ?_⟩
    · refine forall_mem_cons.mpr ⟨Nat.le_refl _, fun other member => ?_⟩
      have := laidOut.above other member
      omega
    · exact forall_mem_cons.mpr ⟨boundary, laidOut.aligned⟩
    · exact forall_mem_cons.mpr ⟨bounded, laidOut.bounded⟩
    · refine pairwise_cons.mpr ⟨fun other member => ?_, laidOut.apart⟩
      have := laidOut.above other member
      omega
    · exact forall_mem_cons.mpr ⟨⟨Nat.dvd_of_mod_eq_zero granular.1,
        Nat.dvd_of_mod_eq_zero granular.2⟩, laidOut.granular⟩
    · refine pairwise_cons.mpr ⟨?_, laidOut.ordered⟩
      rwa [forall_mem_map]
    · intro before isBefore
      have below := first before isBefore
      refine forall_mem_cons.mpr ⟨below, fun other member => ?_⟩
      have := later other member
      omega

/-- Extents which pass the checks fill the file. -/
theorem validateExtents_eq_ok {fileLength done}
    (valid : validateExtents extents fileLength = .ok done) :
    LaidOut nativeV2MemoryAlignment extents ∧ 1 ≤ extents.length ∧
      extents.length ≤ nativeV2MemoryMaxExtents ∧ fileLength < wordLimit ∧
      ∀ extent ∈ extents, extent.fileOffset + extent.range.size ≤ fileLength := by
  simp only [validateExtents, validateExtentCount, imageLength, bind_eq_ok, rejectIf_eq_ok,
    okOr_eq_ok, checkedAdd_eq_some, not_not] at valid
  obtain ⟨_, count, _, walked, _, ⟨last, isLast, bounded, rfl⟩, rfl⟩ := valid
  obtain ⟨laidOut, -⟩ := validateExtentsFrom_eq_ok (Nat.dvd_refl _) walked
  refine ⟨laidOut, count.1, count.2, bounded, fun extent member => ?_⟩
  -- The last extent ends the image, and every other one ends before it starts.
  obtain ⟨others, rfl⟩ := getLast?_eq_some_iff.mp isLast
  rcases mem_append.mp member with earlier | isLast
  · have below := (pairwise_append.mp laidOut.apart).2.2 extent earlier last (by simp)
    omega
  · rw [mem_singleton.mp isLast]

end

section
variable {bytes offset range fileOffset}

theorem length_mappingBytes (range fileOffset) : (mappingBytes range fileOffset).length = 24 := by
  simp [mappingBytes]

/-- A mapping record is its three words. -/
theorem slice_mappingBytes :
    slice bytes offset 24 = some (mappingBytes range fileOffset) ↔
      slice bytes offset 8 = some (leBytes 8 range.start) ∧
        slice bytes (offset + 8) 8 = some (leBytes 8 range.size) ∧
        slice bytes (offset + 16) 8 = some (leBytes 8 fileOffset) := by
  have whole := @slice_append_iff bytes (leBytes 8 range.start ++ leBytes 8 range.size)
    (leBytes 8 fileOffset) offset
  have front := @slice_append_iff bytes (leBytes 8 range.start) (leBytes 8 range.size) offset
  simp only [length_append, length_leBytes] at whole front
  rw [front, and_assoc] at whole
  exact whole

/-- A mapping is read from its bytes only. -/
theorem readMapping_eq_ok {ε : Type} {overflow missing invalid : ε} (near : offset + 24 < wordLimit) :
    readMapping overflow missing invalid bytes offset = .ok (range, fileOffset) ↔
      fileOffset < wordLimit ∧ slice bytes offset 24 = some (mappingBytes range fileOffset) := by
  simp only [readMapping, bind_eq_ok, readNumber_eq_ok, mapError_eq_ok, pure_eq_ok,
    slice_mappingBytes, Prod.mk.injEq]
  constructor
  · rintro ⟨start, ⟨-, -, foundStart⟩, size, ⟨-, -, foundSize⟩, _, made, _,
      ⟨-, fits, foundOffset⟩, rfl, rfl⟩
    obtain ⟨rfl, rfl⟩ := GuestMemoryRange.new_eq_ok made
    exact ⟨fits, foundStart, foundSize, foundOffset⟩
  · rintro ⟨fits, foundStart, foundSize, foundOffset⟩
    have bounded := range.bounded
    refine ⟨_, ⟨by omega, ?_, foundStart⟩, _, ⟨by omega, ?_, foundSize⟩, range, range.new_self, _,
      ⟨by omega, fits, foundOffset⟩, rfl, rfl⟩
    · rw [show 256 ^ 8 = wordLimit from rfl]
      omega
    · rw [show 256 ^ 8 = wordLimit from rfl]
      omega

end

namespace SnapshotV2MemoryBinding

variable {crc64 : Crc64} {binding : SnapshotV2MemoryBinding} {bytes : List UInt8}

/-- The bytes which a binding encodes to. -/
def encoding (crc64 : Crc64) (binding : SnapshotV2MemoryBinding) : List UInt8 :=
  binding.sealed (crc64 0 (binding.sealed 0))

/-- A binding knows the checksum of its own encoding. -/
structure Authentic (crc64 : Crc64) (binding : SnapshotV2MemoryBinding) : Prop where
  checksum : crc64 0 (binding.sealed 0) = binding.metadataChecksum

theorem length_extentBytes (extent) : (extentBytes extent).length = nativeV2MemoryExtentBytes :=
  length_mappingBytes extent.range extent.fileOffset

theorem length_headerFields (binding : SnapshotV2MemoryBinding) (checksum : UInt64) :
    (binding.headerFields checksum).flatten.length = nativeV2MemoryHeaderBytes := by
  simp [headerFields, nativeV2MemoryMagic, binding.imageId.length, nativeV2MemoryHeaderBytes]

/-- The encoding around its checksum field. -/
theorem sealed_eq (binding : SnapshotV2MemoryBinding) :
    ∃ before after, before.length = 48 ∧ ∀ checksum,
      binding.sealed checksum = before ++ leBytes 8 checksum.toNat ++ after := by
  refine ⟨((binding.headerFields 0).take 10).flatten,
    leBytes 8 binding.fileLength ++ binding.extents.flatMap extentBytes, ?_, fun checksum => ?_⟩
  · simp [headerFields, nativeV2MemoryMagic, binding.imageId.length]
  · simp [sealed, headerFields]

/-- A binding is sealed with its checksum. -/
theorem replaceU64_sealed (checksum : UInt64) :
    replaceU64 (binding.sealed 0) 48 checksum = .ok (binding.sealed checksum) := by
  obtain ⟨before, after, length, split⟩ := sealed_eq binding
  simp only [replaceU64, bind_eq_ok, okOr_eq_ok, checkedAdd_eq_some, rejectIf_eq_ok, pure_eq_ok]
  refine ⟨56, ⟨by decide, rfl⟩, (), ?_, ?_⟩
  · rw [split]
    simp only [length_append, length_leBytes]
    omega
  · rw [split, split, append_assoc before, take_left' length,
      ← append_assoc before, drop_left' (by simp [length])]

theorem length_sealed (binding : SnapshotV2MemoryBinding) (checksum : UInt64) :
    (binding.sealed checksum).length = nativeV2MemoryHeaderBytes +
      binding.extents.length * nativeV2MemoryExtentBytes := by
  rw [sealed, length_append, length_headerFields,
    length_flatMap_records length_extentBytes binding.extents]

/-- A binding always encodes when there is memory for it. -/
theorem encodeBinding_eq (crc64 : Crc64) (binding) :
    encodeBinding crc64 binding true = .ok (binding.encoding crc64) := by
  obtain ⟨-, -, count, -, -⟩ := validateExtents_eq_ok binding.valid
  simp only [encodeBinding, bind_eq_ok, okOr_eq_ok, checkedMul_eq_some, checkedAdd_eq_some,
    rejectIf_eq_ok]
  unfold nativeV2MemoryMaxExtents at count
  unfold nativeV2MemoryExtentBytes nativeV2MemoryHeaderBytes
  refine ⟨(), binding.valid, _, ⟨?_, rfl⟩, _, ⟨?_, rfl⟩, (), by simp, (), binding.supported, (), ?_,
    replaceU64_sealed _⟩
  · rw [wordLimit_eq]
    omega
  · rw [wordLimit_eq]
    omega
  · omega

/-- What is encoded is the encoding of the binding. -/
theorem encodeBinding_eq_ok {metadata}
    (encoded : encodeBinding crc64 binding metadata = .ok bytes) :
    bytes = binding.encoding crc64 := by
  cases metadata with
  | true =>
    rw [encodeBinding_eq] at encoded
    exact (Except.ok.inj encoded).symm
  | false =>
    simp only [encodeBinding, bind_eq_ok, rejectIf_eq_ok] at encoded
    obtain ⟨_, -, _, -, _, -, _, refused, -⟩ := encoded
    simp at refused

/-- The fields and the table determine the whole encoding. -/
theorem eq_sealed_iff {checksum} :
    bytes = binding.sealed checksum ↔
      HasFields bytes 0 (binding.headerFields checksum) ∧
        HasFields bytes nativeV2MemoryHeaderBytes (binding.extents.map extentBytes) ∧
        bytes.length = nativeV2MemoryHeaderBytes +
          binding.extents.length * nativeV2MemoryExtentBytes := by
  have tableLength := length_flatMap_records length_extentBytes binding.extents
  have headerLength := length_headerFields binding checksum
  rw [hasFields_zero_iff, hasFields_iff, ← flatMap_def, headerLength, tableLength]
  constructor
  · rintro rfl
    have total := length_sealed binding checksum
    have rest : (binding.sealed checksum).drop nativeV2MemoryHeaderBytes =
        binding.extents.flatMap extentBytes := drop_left' headerLength
    refine ⟨?_, ⟨by omega, ?_⟩, total⟩
    · rw [rest, sealed]
    · rw [rest, drop_eq_nil_of_le (by omega), append_nil]
  · rintro ⟨header, ⟨-, table⟩, total⟩
    rw [← total, drop_length, append_nil] at table
    rw [header, table, sealed]

theorem readImageId_eq_ok {imageId} :
    readImageId bytes = .ok imageId ↔ slice bytes 32 16 = some imageId.bytes := by
  simp only [readImageId, bind_eq_ok, readArray_eq_ok]
  constructor
  · rintro ⟨field, ⟨-, found⟩, made⟩
    split at made
    · obtain rfl := Except.ok.inj made
      exact found
    · cases made
  · intro found
    exact ⟨imageId.bytes, ⟨by decide, found⟩, dif_pos imageId.length⟩

theorem validateHeader_eq_ok {done} :
    validateHeader bytes = .ok done ↔
      slice bytes 14 2 = some (leBytes 2 nativeV2MemoryHeaderBytes) ∧
        slice bytes 16 4 = some (leBytes 4 0) ∧
        slice bytes 20 4 = some (leBytes 4 nativeV2MemoryGuestGranule) ∧
        slice bytes 24 4 = some (leBytes 4 nativeV2MemoryAlignment) := by
  simp only [validateHeader, readBindingNumber, bind_eq_ok, readNumber_eq_ok, rejectIf_eq_ok,
    not_or, not_not]
  constructor
  · rintro ⟨_, ⟨-, -, size⟩, _, ⟨-, -, flags⟩, _, ⟨-, -, granule⟩, _, ⟨-, -, alignment⟩, rfl, rfl,
      rfl, rfl⟩
    exact ⟨size, flags, granule, alignment⟩
  · rintro ⟨size, flags, granule, alignment⟩
    exact ⟨_, ⟨by decide, by decide, size⟩, _, ⟨by decide, by decide, flags⟩, _,
      ⟨by decide, by decide, granule⟩, _, ⟨by decide, by decide, alignment⟩, rfl, rfl, rfl, rfl⟩

/-- An extent is read from its bytes only. -/
theorem readExtent_eq_ok {index extent} (small : index < nativeV2MemoryMaxExtents) :
    readExtent bytes index = .ok extent ↔ extent.fileOffset < wordLimit ∧
      slice bytes (nativeV2MemoryHeaderBytes + index * nativeV2MemoryExtentBytes)
        nativeV2MemoryExtentBytes = some (extentBytes extent) := by
  have near : nativeV2MemoryHeaderBytes + index * nativeV2MemoryExtentBytes + 24 < wordLimit := by
    unfold nativeV2MemoryMaxExtents at small
    unfold nativeV2MemoryHeaderBytes nativeV2MemoryExtentBytes
    rw [wordLimit_eq]
    omega
  simp only [readExtent, bind_eq_ok, okOr_eq_ok, checkedMul_eq_some, checkedAdd_eq_some, pure_eq_ok]
  constructor
  · rintro ⟨_, ⟨-, rfl⟩, _, ⟨-, rfl⟩, mapping, read, rfl⟩
    exact (readMapping_eq_ok near).mp read
  · intro found
    exact ⟨_, ⟨by omega, rfl⟩, _, ⟨by omega, rfl⟩, (extent.range, extent.fileOffset),
      (readMapping_eq_ok near).mpr found, rfl⟩

/-- The table is read back extent by extent. -/
theorem readExtents_eq_ok {count extents} (small : count ≤ nativeV2MemoryMaxExtents)
    (inside : nativeV2MemoryHeaderBytes ≤ bytes.length) :
    (List.range count).mapM (readExtent bytes) = .ok extents ↔ extents.length = count ∧
      (∀ extent ∈ extents, extent.fileOffset < wordLimit) ∧
      HasFields bytes nativeV2MemoryHeaderBytes (extents.map extentBytes) :=
  readRecords_eq_ok length_extentBytes (fun _ near _ => readExtent_eq_ok near) small inside

/-- The checksum is that of the unsealed bytes. -/
theorem bindingChecksum_sealed (streams : crc64.Streams) (checksum : UInt64) :
    bindingChecksum crc64 (binding.sealed checksum) = .ok (crc64 0 (binding.sealed 0)) := by
  obtain ⟨before, after, length, split⟩ := sealed_eq binding
  rw [bindingChecksum, split, checksumAround_append crc64 _ length, split, streams, streams,
    append_assoc]
  rfl

/-- The header fields stand at their offsets. -/
theorem hasHeader_iff {checksum} :
    HasFields bytes 0 (binding.headerFields checksum) ↔
      slice bytes 0 8 = some nativeV2MemoryMagic ∧
      slice bytes 8 2 = some (leBytes 2 binding.version.major.toNat) ∧
      slice bytes 10 2 = some (leBytes 2 binding.version.minor.toNat) ∧
      slice bytes 12 2 = some (leBytes 2 binding.version.patch.toNat) ∧
      slice bytes 14 2 = some (leBytes 2 nativeV2MemoryHeaderBytes) ∧
      slice bytes 16 4 = some (leBytes 4 0) ∧
      slice bytes 20 4 = some (leBytes 4 nativeV2MemoryGuestGranule) ∧
      slice bytes 24 4 = some (leBytes 4 nativeV2MemoryAlignment) ∧
      slice bytes 28 4 = some (leBytes 4 binding.extents.length) ∧
      slice bytes 32 16 = some binding.imageId.bytes ∧
      slice bytes 48 8 = some (leBytes 8 checksum.toNat) ∧
      slice bytes 56 8 = some (leBytes 8 binding.fileLength) ∧
      nativeV2MemoryHeaderBytes ≤ bytes.length := by
  have magicLength : nativeV2MemoryMagic.length = 8 := rfl
  simp only [headerFields, HasFields, length_leBytes, binding.imageId.length, magicLength,
    Nat.zero_add, Nat.reduceAdd]
  rfl

theorem Authentic.encoding_eq (authentic : binding.Authentic crc64) :
    binding.encoding crc64 = binding.sealed binding.metadataChecksum := by
  rw [encoding, authentic.checksum]

/-- The bytes which decode to a binding are its encoding. -/
theorem decodeBinding_eq_ok (streams : crc64.Streams) :
    decodeBinding crc64 bytes true = .ok binding ↔
      bytes = binding.encoding crc64 ∧ binding.Authentic crc64 := by
  have versionNear : 8 + 6 < wordLimit := by decide
  simp only [decodeBinding, bind_eq_ok, rejectIf_eq_ok, readArray_eq_ok,
    readFormatVersion_eq_ok versionNear, validateHeader_eq_ok, readBindingNumber, readNumber_eq_ok,
    pure_eq_ok, not_not, readImageId_eq_ok, validateExtentCount, validateLength, okOr_eq_ok,
    checkedMul_eq_some, checkedAdd_eq_some]
  constructor
  · rintro ⟨_, inside, _, ⟨-, magic⟩, _, rfl, version, ⟨major, minor, patch⟩, supported, -, _,
      ⟨size, flags, granule, alignment⟩, count, ⟨-, -, foundCount⟩, _, counts, _,
      ⟨_, ⟨-, rfl⟩, _, ⟨-, rfl⟩, length⟩, stored, ⟨-, storedFits, foundChecksum⟩, checksum,
      checked, _, rfl, imageId, foundId, fileLength, ⟨-, -, foundLength⟩, _, -, extents, read,
      valid, -, rfl⟩
    have long := Nat.le_of_not_lt inside
    obtain ⟨sameCount, -, table⟩ := (readExtents_eq_ok counts.2 long).mp read
    rw [UInt64.ofNat_toNat]
    have whole : bytes = sealed ⟨version, imageId, extents, fileLength, checksum, supported.property,
        valid.property⟩ checksum := by
      refine eq_sealed_iff.mpr ⟨hasHeader_iff.mpr ?_, table, ?_⟩
      · exact ⟨magic, major, minor, patch, size, flags, granule, alignment, sameCount ▸ foundCount,
          foundId, foundChecksum, foundLength, long⟩
      · rw [sameCount, length]
    rw [whole, bindingChecksum_sealed streams] at checked
    have authentic : Authentic crc64 ⟨version, imageId, extents, fileLength, checksum,
        supported.property, valid.property⟩ := ⟨Except.ok.inj checked⟩
    rw [authentic.encoding_eq]
    exact ⟨whole, authentic⟩
  · rintro ⟨whole, authentic⟩
    rw [authentic.encoding_eq] at whole
    have computed : bindingChecksum crc64 bytes = .ok binding.metadataChecksum := by
      rw [whole, bindingChecksum_sealed streams, authentic.checksum]
    obtain ⟨fields, table, length⟩ := eq_sealed_iff.mp whole
    obtain ⟨magic, major, minor, patch, size, flags, granule, alignment, foundCount, foundId,
      foundChecksum, foundLength, long⟩ := hasHeader_iff.mp fields
    obtain ⟨laidOut, nonempty, counts, lengthFits, -⟩ := validateExtents_eq_ok binding.valid
    have offsetsFit : ∀ extent ∈ binding.extents, extent.fileOffset < wordLimit := by
      intro extent member
      have := laidOut.bounded extent member
      omega
    have read := (readExtents_eq_ok counts long).mpr ⟨rfl, offsetsFit, table⟩
    have tableFits : binding.extents.length * nativeV2MemoryExtentBytes <
        wordLimit - nativeV2MemoryHeaderBytes := by
      unfold nativeV2MemoryMaxExtents at counts
      unfold nativeV2MemoryExtentBytes nativeV2MemoryHeaderBytes
      rw [wordLimit_eq]
      omega
    have countFits : binding.extents.length < 256 ^ 4 := by
      unfold nativeV2MemoryMaxExtents at counts
      omega
    refine ⟨(), Nat.not_lt.mpr long, _, ⟨by decide, magic⟩, (), rfl, binding.version,
      ⟨major, minor, patch⟩, ⟨(), binding.supported⟩, attach_eq_ok, (),
      ⟨size, flags, granule, alignment⟩, binding.extents.length, ⟨by decide, countFits, foundCount⟩,
      (), ⟨nonempty, counts⟩, (), ⟨_, ⟨by omega, rfl⟩, _, ⟨by omega, rfl⟩, length⟩, _,
      ⟨by decide, binding.metadataChecksum.toNat_lt, foundChecksum⟩, _, computed, (), rfl, _, foundId,
      _, ⟨by decide, lengthFits, foundLength⟩, (), by simp, _, read, ⟨(), binding.valid⟩, attach_eq_ok,
      ?_⟩
    rw [UInt64.ofNat_toNat]

theorem decodeBinding_allocated {metadata}
    (decoded : decodeBinding crc64 bytes metadata = .ok binding) :
    decodeBinding crc64 bytes true = .ok binding := by
  cases metadata with
  | true => exact decoded
  | false =>
    simp only [decodeBinding, bind_eq_ok, rejectIf_eq_ok] at decoded
    obtain ⟨_, -, _, -, _, -, _, -, _, -, _, -, _, -, _, -, _, -, _, -, _, -, _, -, _, -, _, -, _,
      refused, -⟩ := decoded
    simp at refused

section
variable {extents : List SnapshotV2MemoryExtent}

/-- The extents have the ranges which were laid out. -/
theorem layoutExtents_ranges {fileOffset totalData ranges}
    (laid : layoutExtents fileOffset totalData ranges = .ok extents) :
    extents.map (·.range) = ranges := by
  induction ranges generalizing fileOffset totalData extents with
  | nil =>
    cases laid
    rfl
  | cons range ranges ih =>
    simp only [layoutExtents, bind_eq_ok, pure_eq_ok] at laid
    obtain ⟨_, -, _, -, _, -, _, -, _, -, rest, laidRest, rfl⟩ := laid
    rw [map_cons, ih laidRest]

variable {imageId : SnapshotV2MemoryImageId} {version : SnapshotFormatVersion}

theorem buildBindingWithVersion_eq_ok {fileLength metadata}
    (built : buildBindingWithVersion crc64 version imageId extents fileLength metadata =
      .ok binding) :
    binding.version = version ∧ binding.imageId = imageId ∧ binding.extents = extents ∧
      binding.fileLength = fileLength ∧ binding.Authentic crc64 := by
  simp only [buildBindingWithVersion, bind_eq_ok, pure_eq_ok] at built
  obtain ⟨supported, -, valid, -, encoded, encodes, checksum, read, rfl⟩ := built
  refine ⟨rfl, rfl, rfl, rfl, ⟨?_⟩⟩
  obtain rfl := encodeBinding_eq_ok encodes
  -- The checksum which is read back stands in the header just encoded.
  obtain ⟨fields, -⟩ := eq_sealed_iff.mp (rfl : sealed _ _ = _)
  obtain ⟨-, -, -, -, -, -, -, -, -, -, foundChecksum, -⟩ := hasHeader_iff.mp fields
  obtain ⟨-, fits, found⟩ := readNumber_eq_ok.mp read
  rw [encoding, foundChecksum] at found
  have same := leBytes_inj (UInt64.toNat_lt _) fits (Option.some.inj found)
  rw [← same, UInt64.ofNat_toNat]
  rfl

/-- The two ways to get a binding. -/
inductive Obtained (crc64 : Crc64) (binding : SnapshotV2MemoryBinding) : Prop where
  | built {version : SnapshotFormatVersion} {imageId : SnapshotV2MemoryImageId}
      {extents : List SnapshotV2MemoryExtent} {fileLength : Nat} {metadata : Bool}
      (builds : buildBindingWithVersion crc64 version imageId extents fileLength metadata =
        .ok binding)
  | decoded {bytes : List UInt8} {metadata : Bool}
      (decodes : decodeBinding crc64 bytes metadata = .ok binding)

/-- A binding which was obtained is authentic. -/
theorem Obtained.authentic (streams : crc64.Streams) (obtained : binding.Obtained crc64) :
    binding.Authentic crc64 := by
  cases obtained with
  | built builds =>
    obtain ⟨-, -, -, -, authentic⟩ := buildBindingWithVersion_eq_ok builds
    exact authentic
  | decoded decodes => exact ((decodeBinding_eq_ok streams).mp (decodeBinding_allocated decodes)).2

variable {extentMetadata metadata}

theorem Obtained.ofMemory {memory}
    (built : snapshotV2MemoryBindingFromMemoryWithVersionAndId crc64 memory version imageId
      extentMetadata metadata = .ok binding) : binding.Obtained crc64 := by
  simp only [snapshotV2MemoryBindingFromMemoryWithVersionAndId, bind_eq_ok] at built
  obtain ⟨_, -, _, -, extents, -, fileLength, -, builds⟩ := built
  exact .built builds

/-- A binding of a memory has its ranges. -/
theorem memoryBindingFromMemory_eq_ok {memory}
    (built : snapshotV2MemoryBindingFromMemoryWithVersionAndId crc64 memory version imageId
      extentMetadata metadata = .ok binding) :
    binding.version = version ∧ binding.imageId = imageId ∧
      binding.extents.map (·.range) = memory.regions.map (·.range) ∧
      binding.Authentic crc64 := by
  simp only [snapshotV2MemoryBindingFromMemoryWithVersionAndId, bind_eq_ok] at built
  obtain ⟨_, -, _, -, extents, laid, fileLength, -, built⟩ := built
  obtain ⟨sameVersion, sameId, rfl, rfl, authentic⟩ := buildBindingWithVersion_eq_ok built
  exact ⟨sameVersion, sameId, layoutExtents_ranges laid, authentic⟩

end

/-- The binding codec. Every binding built from a guest memory has one extent for
each region, on ascending, disjoint, aligned file ranges inside the image, and
decodes from its own encoding; whatever decodes encodes to the same bytes. -/
theorem memoryBinding_codec (crc64 : Crc64) (streams : crc64.Streams) :
    (∀ memory version imageId extentMetadata metadata binding,
      snapshotV2MemoryBindingFromMemoryWithVersionAndId crc64 memory version imageId extentMetadata
        metadata = .ok binding → binding.extents.map (·.range) = memory.regions.map (·.range) ∧
      (binding.extents.Pairwise fun lower upper => lower.fileOffset < upper.fileOffset ∧
        lower.fileOffset + lower.range.size ≤ upper.fileOffset) ∧
      (∀ extent ∈ binding.extents, 64 * 1024 ∣ extent.fileOffset ∧
        extent.fileOffset + extent.range.size ≤ binding.fileLength) ∧
      ∃ bytes, encodeBinding crc64 binding true = .ok bytes ∧
        decodeBinding crc64 bytes true = .ok binding) ∧
    ∀ bytes metadata binding, decodeBinding crc64 bytes metadata = .ok binding →
      encodeBinding crc64 binding true = .ok bytes := by
  constructor
  · intro memory version imageId extentMetadata metadata binding built
    obtain ⟨-, -, sameRanges, authentic⟩ := memoryBindingFromMemory_eq_ok built
    obtain ⟨laidOut, -, -, -, inside⟩ := validateExtents_eq_ok binding.valid
    have increasing : binding.extents.Pairwise fun lower upper =>
        lower.fileOffset < upper.fileOffset ∧
          lower.fileOffset + lower.range.size ≤ upper.fileOffset := by
      refine laidOut.apart.imp fun {lower upper} apart => ⟨?_, apart⟩
      have := lower.range.positive
      omega
    refine ⟨sameRanges, increasing,
      fun extent member => ⟨laidOut.aligned extent member, inside extent member⟩,
      _, encodeBinding_eq crc64 binding, ?_⟩
    exact (decodeBinding_eq_ok streams).mpr ⟨rfl, authentic⟩
  · intro bytes metadata binding decoded
    obtain ⟨whole, -⟩ := (decodeBinding_eq_ok streams).mp (decodeBinding_allocated decoded)
    rw [encodeBinding_eq, ← whole]

/-- Two regions with a hole between them. -/
def splitMemory : GuestMemory :=
  { GuestMemory.emptyWithBacking .anonymous with
    regions := [⟨⟨0x80000000, 0x4000, Nat.two_pow_pos 14, by decide⟩, ⟨0, 0x4000⟩, 0, 0x4000⟩,
      ⟨⟨0x80010000, 0x8000, Nat.two_pow_pos 15, by decide⟩, ⟨1, 0x8000⟩, 0, 0x8000⟩]
    nextIdentity := 2 }

theorem memoryBinding_codec_splitMemory : ∃ binding,
    snapshotV2MemoryBindingFromMemoryWithVersionAndId jonesCrc64 splitMemory ⟨2, 13, 0⟩
      ⟨List.replicate 16 7, rfl⟩ true true = .ok binding ∧
    ∃ bytes, encodeBinding jonesCrc64 binding true = .ok bytes ∧
      decodeBinding jonesCrc64 bytes true = .ok binding := by
  have builds : (snapshotV2MemoryBindingFromMemoryWithVersionAndId jonesCrc64 splitMemory
      ⟨2, 13, 0⟩ ⟨replicate 16 7, rfl⟩ true true).isOk = true := by
    decide +kernel
  cases built : snapshotV2MemoryBindingFromMemoryWithVersionAndId jonesCrc64 splitMemory
      ⟨2, 13, 0⟩ ⟨replicate 16 7, rfl⟩ true true with
  | error error =>
    rw [built] at builds
    cases builds
  | ok binding =>
    obtain ⟨-, -, -, roundTrip⟩ :=
      (memoryBinding_codec jonesCrc64 jonesCrc64_streams).1 _ _ _ _ _ binding built
    exact ⟨binding, rfl, roundTrip⟩

end SnapshotV2MemoryBinding
end Bangbang.Snapshot
