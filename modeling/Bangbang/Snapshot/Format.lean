import Bangbang.Base.Bytes

/-!
# Native snapshot formats

Fields are little-endian and stand at fixed offsets. `readArray` and
`readNumber` are the checked loads which every format module has a copy of; the
copies differ in their two errors only. So do the loads of a version and the
checksum around a field.
-/

namespace Bangbang.Snapshot

structure SnapshotFormatVersion where
  (major minor patch : UInt16)
deriving DecidableEq, Repr

/-- Running checksum: the value so far and the bytes to add. -/
abbrev Crc64 := UInt64 → List UInt8 → UInt64

/-- Adding two pieces in turn is adding their concatenation. -/
def Crc64.Streams (crc64 : Crc64) : Prop :=
  ∀ checksum first second, crc64 (crc64 checksum first) second = crc64 checksum (first ++ second)

/-- One bit of the reflected Jones polynomial. -/
def jonesBit (checksum : UInt64) : UInt64 :=
  if checksum &&& 1 = 1 then (checksum >>> 1) ^^^ 0x95ac9329ac4bc9b5 else checksum >>> 1

def jonesByte (checksum : UInt64) (byte : UInt8) : UInt64 :=
  (List.range 8).foldl (fun checksum _ => jonesBit checksum) (checksum ^^^ byte.toUInt64)

/-- The checksum with the Jones polynomial, without complements. -/
def jonesCrc64 : Crc64 := fun checksum bytes => bytes.foldl jonesByte checksum

/-- The checksum may be computed piece by piece. -/
theorem jonesCrc64_streams : jonesCrc64.Streams := by
  intro checksum first second
  exact List.foldl_append.symm

-- The check value of the digits 1 to 9.
example : jonesCrc64 0 [0x31, 0x32, 0x33, 0x34, 0x35, 0x36, 0x37, 0x38, 0x39] =
    0xe9c6d914c4b8d9ca := by
  decide +kernel

section
variable {ε : Type} {overflow missing : ε} {bytes : List UInt8} {offset width : Nat}

section
variable (overflow missing : ε) (bytes : List UInt8)

def readArray (offset length : Nat) : Except ε (List UInt8) := do
  let _ ← okOr (checkedAdd offset length) overflow
  okOr (slice bytes offset length) missing

def readNumber (offset width : Nat) : Except ε Nat := do
  let field ← readArray overflow missing bytes offset width
  return ofLe field

end

/-- The three words of a version; a load which does not fit fails with the offset
after it. -/
def readFormatVersion (overflow : ε) (missing : Nat → ε) (bytes : List UInt8) (offset : Nat) :
    Except ε SnapshotFormatVersion := do
  let major ← readNumber overflow (missing (offset + 2)) bytes offset 2
  let minor ← readNumber overflow (missing (offset + 4)) bytes (offset + 2) 2
  let patch ← readNumber overflow (missing (offset + 6)) bytes (offset + 4) 2
  return ⟨UInt16.ofNat major, UInt16.ofNat minor, UInt16.ofNat patch⟩

/-- The checksum of the bytes around a checksum field, as if it were zero. -/
def checksumAround (crc64 : Crc64) (missing : ε) (bytes : List UInt8) (field : Nat) :
    Except ε UInt64 := do
  let before ← okOr (slice bytes 0 field) missing
  rejectIf (bytes.length < field + 8) missing
  return crc64 (crc64 (crc64 0 before) (leBytes 8 0)) (bytes.drop (field + 8))

theorem readArray_eq_ok {field} :
    readArray overflow missing bytes offset width = .ok field ↔
      offset + width < wordLimit ∧ slice bytes offset width = some field := by
  simp [readArray, bind_eq_ok, okOr_eq_ok]

/-- A number is read from its little-endian bytes only. -/
theorem readNumber_eq_ok {value} :
    readNumber overflow missing bytes offset width = .ok value ↔
      offset + width < wordLimit ∧ value < 256 ^ width ∧
        slice bytes offset width = some (leBytes width value) := by
  rw [← readLe_eq_some_iff, readLe, Option.map_eq_some_iff]
  simp only [readNumber, bind_eq_ok, readArray_eq_ok, pure_eq_ok, and_assoc, exists_and_left]

theorem readFormatVersion_eq_ok {missing version} (near : offset + 6 < wordLimit) :
    readFormatVersion overflow missing bytes offset = .ok version ↔
      slice bytes offset 2 = some (leBytes 2 version.major.toNat) ∧
        slice bytes (offset + 2) 2 = some (leBytes 2 version.minor.toNat) ∧
        slice bytes (offset + 4) 2 = some (leBytes 2 version.patch.toNat) := by
  simp only [readFormatVersion, bind_eq_ok, readNumber_eq_ok, pure_eq_ok]
  constructor
  · rintro ⟨major, ⟨-, majorFits, foundMajor⟩, minor, ⟨-, minorFits, foundMinor⟩, patch,
      ⟨-, patchFits, foundPatch⟩, rfl⟩
    rw [UInt16.toNat_ofNat_of_lt' majorFits, UInt16.toNat_ofNat_of_lt' minorFits,
      UInt16.toNat_ofNat_of_lt' patchFits]
    exact ⟨foundMajor, foundMinor, foundPatch⟩
  · rintro ⟨major, minor, patch⟩
    exact ⟨_, ⟨by omega, version.major.toNat_lt, major⟩, _,
      ⟨by omega, version.minor.toNat_lt, minor⟩, _, ⟨by omega, version.patch.toNat_lt, patch⟩,
      by simp⟩

/-- The checksum does not depend on the field which will hold it. -/
theorem checksumAround_append (crc64 : Crc64) (missing : ε) {before field}
    (length : before.length = field) (stored : Nat) (after : List UInt8) :
    checksumAround crc64 missing (before ++ leBytes 8 stored ++ after) field =
      .ok (crc64 (crc64 (crc64 0 before) (leBytes 8 0)) after) := by
  simp only [checksumAround, bind_eq_ok, okOr_eq_ok, rejectIf_eq_ok, pure_eq_ok]
  refine ⟨before, ?_, (), ?_, ?_⟩
  · rw [List.append_assoc, ← length]
    exact slice_exact _ _
  · simp only [List.length_append, length_leBytes]
    omega
  · rw [List.drop_left' (by simp [length])]

end
end Bangbang.Snapshot
