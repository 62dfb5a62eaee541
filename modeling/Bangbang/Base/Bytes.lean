import Bangbang.Base.Fallible
import Mathlib.Data.List.Basic

/-!
# Byte strings with little-endian fields

`leBytes` and `ofLe` convert between a natural number and its little-endian
bytes. `slice` is a bounds-checked subrange and `readLe` a bounds-checked
little-endian load. `slice_eq_some_iff` relates a successful subrange to the
unique way it splits the remaining input, so that a sequence of loads at
consecutive offsets reconstructs the bytes it read. `slice_flatten` is the
opposite direction: a field written by concatenation is found at the sum of
the lengths before it.
-/

namespace Bangbang

open List

/-- The `width` low bytes of a value, least significant first. -/
def leBytes : Nat → Nat → List UInt8
  | 0, _ => []
  | width + 1, value => UInt8.ofNat value :: leBytes width (value / 256)

/-- The value of a little-endian byte string. -/
def ofLe : List UInt8 → Nat
  | [] => 0
  | byte :: rest => byte.toNat + 256 * ofLe rest

@[simp] theorem leBytes_zero (value : Nat) : leBytes 0 value = [] := rfl

@[simp] theorem length_leBytes (width value : Nat) : (leBytes width value).length = width := by
  induction width generalizing value with
  | zero => rfl
  | succ width ih => simp [leBytes, ih]

/-- The low part of a field is written before its high part. -/
theorem leBytes_add (low high value : Nat) :
    leBytes (low + high) value = leBytes low value ++ leBytes high (value / 256 ^ low) := by
  induction low generalizing value with
  | zero => simp
  | succ low ih =>
    rw [Nat.succ_add, leBytes, leBytes, ih, cons_append, Nat.div_div_eq_div_mul,
      Nat.pow_succ']

/-- Only the low bytes of a value are written. -/
theorem leBytes_mod (width value : Nat) :
    leBytes width (value % 256 ^ width) = leBytes width value := by
  induction width generalizing value with
  | zero => rfl
  | succ width ih =>
    have low : UInt8.ofNat (value % 256 ^ (width + 1)) = UInt8.ofNat value := by
      apply UInt8.toNat_inj.mp
      rw [UInt8.toNat_ofNat', UInt8.toNat_ofNat', Nat.pow_succ', Nat.mod_mul_right_mod]
    have high : value % 256 ^ (width + 1) / 256 = value / 256 % 256 ^ width := by
      rw [Nat.pow_succ', Nat.mod_mul_right_div_self]
    rw [leBytes, leBytes, low, high, ih]

/-- A value which fits is read back. -/
theorem ofLe_leBytes {width value} (fits : value < 256 ^ width) :
    ofLe (leBytes width value) = value := by
  induction width generalizing value with
  | zero =>
    simp only [Nat.pow_zero] at fits
    simp only [leBytes, ofLe]
    omega
  | succ width ih =>
    have high : value / 256 < 256 ^ width := by
      rw [Nat.pow_succ] at fits
      exact Nat.div_lt_of_lt_mul (by rwa [Nat.mul_comm] at fits)
    have low : (UInt8.ofNat value).toNat = value % 256 := by simp
    rw [leBytes, ofLe, ih high, low]
    omega

/-- Two values which fit and have the same bytes are the same. -/
theorem leBytes_inj {width first second} (firstFits : first < 256 ^ width)
    (secondFits : second < 256 ^ width) (same : leBytes width first = leBytes width second) :
    first = second := by
  rw [← ofLe_leBytes firstFits, same, ofLe_leBytes secondFits]

/-- Bytes are those of the value which they encode. -/
theorem leBytes_ofLe (bytes : List UInt8) : leBytes bytes.length (ofLe bytes) = bytes := by
  induction bytes with
  | nil => rfl
  | cons byte rest ih =>
    have bound : byte.toNat < 256 := byte.toNat_lt
    have low : UInt8.ofNat (byte.toNat + 256 * ofLe rest) = byte := by
      apply UInt8.toNat_inj.mp
      rw [UInt8.toNat_ofNat']
      omega
    have high : (byte.toNat + 256 * ofLe rest) / 256 = ofLe rest := by omega
    rw [length_cons, ofLe, leBytes, low, high, ih]

/-- A value takes no more than its bytes can hold. -/
theorem ofLe_lt (bytes : List UInt8) : ofLe bytes < 256 ^ bytes.length := by
  induction bytes with
  | nil => simp [ofLe]
  | cons byte rest ih =>
    have bound : byte.toNat < 256 := byte.toNat_lt
    rw [ofLe, length_cons, Nat.pow_succ]
    omega

/-- The subrange of `length` bytes at `offset`, when the input holds it. -/
def slice (bytes : List UInt8) (offset length : Nat) : Option (List UInt8) :=
  if offset + length ≤ bytes.length then some ((bytes.drop offset).take length) else none

/-- A little-endian load of `width` bytes at `offset`. -/
def readLe (bytes : List UInt8) (offset width : Nat) : Option Nat :=
  (slice bytes offset width).map ofLe

variable {offset length : Nat}

/-- A successful subrange is exactly the next piece of the remaining input. -/
theorem slice_eq_some_iff {bytes piece} :
    slice bytes offset length = some piece ↔
      offset ≤ bytes.length ∧ piece.length = length ∧
        bytes.drop offset = piece ++ bytes.drop (offset + length) := by
  unfold slice
  split
  · rename_i inside
    have split : bytes.drop offset =
        (bytes.drop offset).take length ++ bytes.drop (offset + length) := by
      rw [← List.drop_drop, List.take_append_drop]
    have taken : ((bytes.drop offset).take length).length = length := by
      simp only [List.length_take, List.length_drop]
      omega
    simp only [Option.some.injEq]
    constructor
    · rintro rfl
      exact ⟨by omega, taken, split⟩
    · rintro ⟨_, pieceLength, same⟩
      rw [split] at same
      exact (List.append_inj same (by omega)).1
  · rename_i outside
    simp only [reduceCtorEq, false_iff, not_and]
    intro inside pieceLength same
    have lengths := congrArg List.length same
    simp only [List.length_drop, List.length_append] at lengths
    omega

/-- A subrange is missing when it reaches past the end. -/
theorem slice_eq_none_iff {bytes} :
    slice bytes offset length = none ↔ bytes.length < offset + length := by
  simp [slice]

theorem slice_bound {bytes piece} (found : slice bytes offset length = some piece) :
    offset + length ≤ bytes.length := by
  apply Nat.le_of_not_lt
  intro outside
  rw [slice_eq_none_iff.mpr outside] at found
  cases found

/-- A successful load determines the bytes which it read. -/
theorem readLe_eq_some_iff {bytes offset width value} :
    readLe bytes offset width = some value ↔
      value < 256 ^ width ∧ slice bytes offset width = some (leBytes width value) := by
  simp only [readLe, Option.map_eq_some_iff]
  constructor
  · rintro ⟨piece, found, rfl⟩
    have pieceLength := (slice_eq_some_iff.mp found).2.1
    subst pieceLength
    exact ⟨ofLe_lt piece, by rw [leBytes_ofLe, found]⟩
  · rintro ⟨fits, found⟩
    exact ⟨_, found, ofLe_leBytes fits⟩

/-- A subrange past a prefix is one of the rest. -/
theorem slice_append_right (before after : List UInt8) (offset length : Nat) :
    slice (before ++ after) (before.length + offset) length = slice after offset length := by
  have bound : before.length + offset + length ≤ (before ++ after).length ↔
      offset + length ≤ after.length := by
    simp only [length_append]
    omega
  simp only [slice, bound, drop_append, Nat.add_sub_cancel_left,
    drop_eq_nil_of_le (Nat.le_add_right before.length offset), nil_append]

/-- A subrange within a prefix is one of the prefix. -/
theorem slice_append_left {before} (after : List UInt8) (inside : offset + length ≤ before.length) :
    slice (before ++ after) offset length = slice before offset length := by
  have bound : offset + length ≤ (before ++ after).length := by
    simp only [length_append]
    omega
  simp only [slice, inside, bound, if_true]
  rw [drop_append_of_le_length (by omega), take_append_of_le_length (by
    simp only [length_drop]
    omega)]

theorem slice_exact (piece after : List UInt8) :
    slice (piece ++ after) 0 piece.length = some piece := by
  rw [slice_append_left after (by omega)]
  simp [slice]

variable {bytes first second : List UInt8}

/-- A subrange made of two pieces is two adjacent subranges. -/
theorem slice_split (found : slice bytes offset length = some (first ++ second)) :
    slice bytes offset first.length = some first ∧
      slice bytes (offset + first.length) second.length = some second := by
  obtain ⟨inside, total, remaining⟩ := slice_eq_some_iff.mp found
  rw [List.length_append] at total
  rw [List.append_assoc] at remaining
  have bound := congrArg List.length remaining
  simp only [List.length_drop, List.length_append] at bound
  have afterFirst : bytes.drop (offset + first.length) =
      second ++ bytes.drop (offset + length) := by
    rw [← List.drop_drop, remaining, List.drop_left]
  constructor
  · exact slice_eq_some_iff.mpr ⟨inside, rfl, by rw [afterFirst, remaining]⟩
  · refine slice_eq_some_iff.mpr ⟨by omega, rfl, ?_⟩
    rw [afterFirst, Nat.add_assoc, total]

/-- Adjacent subranges are one subrange. -/
theorem slice_append_iff {offset} :
    slice bytes offset (first.length + second.length) = some (first ++ second) ↔
      slice bytes offset first.length = some first ∧
        slice bytes (offset + first.length) second.length = some second := by
  constructor
  · exact slice_split
  · rintro ⟨foundFirst, foundSecond⟩
    obtain ⟨inside, -, remaining⟩ := slice_eq_some_iff.mp foundFirst
    obtain ⟨-, -, rest⟩ := slice_eq_some_iff.mp foundSecond
    refine slice_eq_some_iff.mpr ⟨inside, by simp, ?_⟩
    rw [remaining, rest, append_assoc, Nat.add_assoc]

/-- A field written by concatenation stands at the sum of the lengths of the
fields before it. -/
theorem slice_flatten {fields : List (List UInt8)} {index : Nat} {field : List UInt8}
    (found : fields[index]? = some field) (after : List UInt8) :
    slice (fields.flatten ++ after) ((fields.take index).map List.length).sum field.length =
      some field := by
  induction fields generalizing index with
  | nil => simp at found
  | cons first rest ih =>
    cases index with
    | zero =>
      simp only [getElem?_cons_zero, Option.some.injEq] at found
      subst found
      simpa using slice_exact first (rest.flatten ++ after)
    | succ index =>
      simp only [getElem?_cons_succ] at found
      rw [flatten_cons, append_assoc, take_succ_cons, map_cons, sum_cons, slice_append_right]
      exact ih found

section
variable {bytes : List UInt8} {offset : Nat}

/-- Consecutive fields stand in the input from an offset on. -/
def HasFields (bytes : List UInt8) : Nat → List (List UInt8) → Prop
  | offset, [] => offset ≤ bytes.length
  | offset, field :: fields =>
    slice bytes offset field.length = some field ∧ HasFields bytes (offset + field.length) fields

variable {fields : List (List UInt8)}

/-- Finding all fields at their offsets is the same as finding them concatenated. -/
theorem hasFields_iff :
    HasFields bytes offset fields ↔ offset ≤ bytes.length ∧
      bytes.drop offset = fields.flatten ++ bytes.drop (offset + fields.flatten.length) := by
  induction fields generalizing offset with
  | nil => simp [HasFields]
  | cons field fields ih =>
    rw [HasFields, ih, slice_eq_some_iff, flatten_cons, append_assoc,
      length_append, ← Nat.add_assoc]
    constructor
    · rintro ⟨⟨inside, -, first⟩, -, rest⟩
      exact ⟨inside, by rw [first, rest]⟩
    · rintro ⟨inside, whole⟩
      have bound := congrArg length whole
      simp only [length_drop, length_append] at bound
      have rest : bytes.drop (offset + field.length) =
          fields.flatten ++ bytes.drop (offset + field.length + fields.flatten.length) := by
        rw [← drop_drop, whole, drop_left]
      exact ⟨⟨inside, rfl, by rw [whole, rest]⟩, by omega, rest⟩

/-- Fields at the front of an input are the front of the input. -/
theorem hasFields_zero_iff :
    HasFields bytes 0 fields ↔ bytes = fields.flatten ++ bytes.drop fields.flatten.length := by
  rw [hasFields_iff, drop_zero, Nat.zero_add]
  exact and_iff_right (Nat.zero_le _)

/-- Fields which stand one after the other are one subrange. -/
theorem HasFields.slice_flatten (found : HasFields bytes offset fields) :
    slice bytes offset fields.flatten.length = some fields.flatten := by
  obtain ⟨inside, split⟩ := hasFields_iff.mp found
  exact slice_eq_some_iff.mpr ⟨inside, rfl, split⟩

/-- A string holds the fields it is made of. -/
theorem hasFields_self (fields : List (List UInt8)) : HasFields fields.flatten 0 fields := by
  rw [hasFields_zero_iff, drop_length, append_nil]

/-- An input is the concatenation of its fields when they are found and fill it. -/
theorem eq_flatten_iff :
    bytes = fields.flatten ↔
      HasFields bytes 0 fields ∧ bytes.length = fields.flatten.length := by
  constructor
  · rintro rfl
    exact ⟨hasFields_self fields, rfl⟩
  · rintro ⟨found, length⟩
    have split := hasFields_zero_iff.mp found
    rwa [← length, drop_length, append_nil] at split

/-- Two lists of fields stand where the second follows the first. -/
theorem hasFields_append {first second} :
    HasFields bytes offset (first ++ second) ↔
      HasFields bytes offset first ∧ HasFields bytes (offset + first.flatten.length) second := by
  induction first generalizing offset with
  | nil =>
    have inside : HasFields bytes offset second → offset ≤ bytes.length :=
      fun found => (hasFields_iff.mp found).1
    simpa [HasFields] using inside
  | cons field fields ih =>
    rw [cons_append, HasFields, HasFields, ih, flatten_cons, length_append,
      Nat.add_assoc, and_assoc]

end

section
variable {α : Type} {encode : α → List UInt8} {size}

/-- A table of fixed-size records has the obvious length. -/
theorem length_flatMap_records (uniform : ∀ record, (encode record).length = size)
    (records : List α) : (records.flatMap encode).length = records.length * size := by
  induction records with
  | nil => simp
  | cons record rest ih =>
    rw [flatMap_cons, length_append, uniform, ih, length_cons, Nat.succ_mul,
      Nat.add_comm]

variable {records : List α}

/-- The record with a given index starts at that multiple of the record size. -/
theorem slice_records (uniform : ∀ record, (encode record).length = size) {index record}
    (found : records[index]? = some record) (after : List UInt8) :
    slice (records.flatMap encode ++ after) (index * size) size = some (encode record) := by
  induction records generalizing index with
  | nil => simp at found
  | cons first rest ih =>
    cases index with
    | zero =>
      simp only [getElem?_cons_zero, Option.some.injEq] at found
      subst found
      rw [flatMap_cons, append_assoc, Nat.zero_mul, ← uniform first]
      exact slice_exact _ _
    | succ index =>
      simp only [getElem?_cons_succ] at found
      have position : (index + 1) * size = (encode first).length + index * size := by
        rw [uniform, Nat.succ_mul, Nat.add_comm]
      rw [flatMap_cons, append_assoc, position, slice_append_right]
      exact ih found

variable (uniform : ∀ record, (encode record).length = size)
include uniform

/-- A table of fixed-size records is found record by record. -/
theorem hasFields_records_iff {bytes offset} :
    HasFields bytes offset (records.map encode) ↔ offset ≤ bytes.length ∧
      ∀ index record, records[index]? = some record →
        slice bytes (offset + index * size) size = some (encode record) := by
  induction records generalizing offset with
  | nil => simp [HasFields]
  | cons first rest ih =>
    rw [map_cons, HasFields, ih, uniform]
    constructor
    · rintro ⟨found, -, others⟩
      refine ⟨(slice_eq_some_iff.mp found).1, fun index record located => ?_⟩
      cases index with
      | zero =>
        obtain rfl : first = record := by simpa using located
        simpa using found
      | succ index =>
        rw [Nat.succ_mul, Nat.add_comm (index * size), ← Nat.add_assoc]
        exact others index record (by simpa using located)
    · rintro ⟨inside, found⟩
      have foundFirst : slice bytes offset size = some (encode first) := by
        simpa using found 0 first rfl
      refine ⟨foundFirst, ?_, fun index record located => ?_⟩
      · refine Nat.le_of_not_lt fun outside => ?_
        simp [slice_eq_none_iff.mpr outside] at foundFirst
      · have := found (index + 1) record (by simpa using located)
        rwa [Nat.succ_mul, Nat.add_comm (index * size), ← Nat.add_assoc] at this

/-- A loop which reads record after record reads the whole table. -/
theorem readRecords_eq_ok {ε : Type} {bytes : List UInt8} {offset limit : Nat} {fits : α → Prop}
    {read : Nat → Except ε α}
    (reads : ∀ index < limit, ∀ record, read index = .ok record ↔ fits record ∧
      slice bytes (offset + index * size) size = some (encode record))
    {count : Nat} (small : count ≤ limit) (inside : offset ≤ bytes.length) :
    (List.range count).mapM read = .ok records ↔ records.length = count ∧
      (∀ record ∈ records, fits record) ∧ HasFields bytes offset (records.map encode) := by
  rw [mapM_range_eq_ok, hasFields_records_iff uniform, and_iff_right inside]
  refine and_congr_right fun length => ?_
  have near : ∀ index record, records[index]? = some record → index < limit := by
    intro index record found
    have := (List.getElem?_eq_some_iff.mp found).1
    omega
  constructor
  · intro all
    constructor
    · intro record member
      obtain ⟨index, found⟩ := List.mem_iff_getElem?.mp member
      exact ((reads index (near index record found) record).mp (all index record found)).1
    · intro index record found
      exact ((reads index (near index record found) record).mp (all index record found)).2
  · rintro ⟨allFit, located⟩ index record found
    exact (reads index (near index record found) record).mpr
      ⟨allFit record (List.mem_of_getElem? found), located index record found⟩

end
end Bangbang
