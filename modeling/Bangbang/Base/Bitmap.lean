import Mathlib.Algebra.Order.Ring.Nat
import Mathlib.Data.List.Sort
import Mathlib.Data.Nat.Bitwise

/-!
# Bitmaps of 64-bit words

A list of words read as a set of indices. Set bits of one word are enumerated
from the lowest one by clearing it with `word &&& (word - 1)`, which is how
`bits_eq_cons` unfolds the enumeration.
-/

namespace Bangbang.Bitmap

open List BitVec

section
variable (words : List (BitVec 64)) (index : Nat)

/-- Whether an index is in the bitmap; indices past the last word are not. -/
def test : Bool :=
  match words[index / 64]? with
  | some word => word.getLsbD (index % 64)
  | none => false

/-- Set one bit, if the bitmap has its word. -/
def insert : List (BitVec 64) := words.modify (index / 64) (· ||| 1#64 <<< (index % 64))

/-- The indices of the bits set in one word, in ascending order. -/
def bits (word : BitVec 64) : List Nat := (List.range 64).filter word.getLsbD

/-- The indices of a bitmap, in ascending order. -/
def members : List Nat :=
  words.zipIdx.flatMap fun (word, wordIndex) => (bits word).map (wordIndex * 64 + ·)

end

@[simp] theorem length_insert (words : List (BitVec 64)) (index : Nat) :
    (insert words index).length = words.length := by
  simp [insert]

variable {words}

/-- An index is in the bitmap when the bit of its word is set. -/
theorem test_eq_true_iff {index} :
    test words index = true ↔
      ∃ word, words[index / 64]? = some word ∧ word.getLsbD (index % 64) = true := by
  unfold test
  cases words[index / 64]? <;> simp

/-- A set bit is in the bitmap beside what was there before. -/
theorem test_insert (words : List (BitVec 64)) (index other : Nat) :
    test (insert words index) other =
      (test words other || (decide (other = index) && decide (index / 64 < words.length))) := by
  have small : other % 64 < 64 := Nat.mod_lt _ (by decide)
  unfold test insert
  rw [List.getElem?_modify]
  cases found : words[other / 64]? with
  | none =>
    have outside := List.getElem?_eq_none_iff.mp found
    have absent : ¬ (other = index ∧ index / 64 < words.length) := by
      rintro ⟨rfl, inside⟩
      omega
    simpa using absent
  | some word =>
    have inside := (List.getElem?_eq_some_iff.mp found).1
    by_cases sameWord : index / 64 = other / 64
    · have shifted : (1#64 <<< (index % 64)).getLsbD (other % 64) = decide (other = index) := by
        simp only [getLsbD_shiftLeft, getLsbD_one]
        rw [Bool.eq_iff_iff]
        simp only [Bool.and_eq_true, decide_eq_true_eq, Bool.not_eq_true', decide_eq_false_iff_not]
        omega
      simp [sameWord, shifted, inside]
    · have different : other ≠ index := by
        rintro rfl
        exact sameWord rfl
      simp [sameWord, different]

/-- Setting bits one after the other adds the indices which have a word. -/
theorem test_foldl_insert (words : List (BitVec 64)) (indices : List Nat) (other : Nat) :
    test (indices.foldl insert words) other =
      (test words other || (decide (other ∈ indices) && decide (other / 64 < words.length))) := by
  induction indices generalizing words with
  | nil => simp
  | cons index indices ih =>
    rw [foldl_cons, ih, test_insert, length_insert]
    by_cases same : other = index
    · subst same
      cases test words other <;> simp
    · simp [same]

@[simp] theorem length_foldl_insert (words : List (BitVec 64)) (indices : List Nat) :
    (indices.foldl insert words).length = words.length := by
  induction indices generalizing words with
  | nil => rfl
  | cons index indices ih => rw [foldl_cons, ih, length_insert]

/-- A bitmap of cleared words is empty. -/
theorem test_map_zero (words : List (BitVec 64)) (index : Nat) :
    test (words.map fun _ => 0#64) index = false := by
  unfold test
  rw [getElem?_map]
  cases words[index / 64]? <;> simp

section

/-- The bits up to the lowest set one determine the remainder. -/
private theorem toNat_mod_ctz {word} (nonzero : word ≠ 0#64) :
    word.toNat % 2 ^ (word.ctz.toNat + 1) = 2 ^ word.ctz.toNat := by
  refine Nat.eq_of_testBit_eq fun position => ?_
  rw [Nat.testBit_mod_two_pow, Nat.testBit_two_pow]
  have lowest : word.toNat.testBit word.ctz.toNat = true :=
    getLsbD_true_ctz_of_ne_zero nonzero
  rcases Nat.lt_trichotomy position word.ctz.toNat with below | same | above
  · have clear : word.toNat.testBit position = false := getLsbD_false_of_lt_ctz below
    simp [clear, Nat.ne_of_gt below]
  · simp [same, lowest]
  · simp [Nat.ne_of_lt above, show ¬ position < word.ctz.toNat + 1 by omega]

variable {word}

/-- Subtracting one and masking clears the lowest set bit and nothing else. -/
theorem getLsbD_clearLowest (nonzero : word ≠ 0#64) (position : Nat) :
    (word &&& (word - 1#64)).getLsbD position =
      (word.getLsbD position && decide (position ≠ word.ctz.toNat)) := by
  generalize lowest : word.ctz.toNat = low
  have remainder : word.toNat % 2 ^ (low + 1) = 2 ^ low := lowest ▸ toNat_mod_ctz nonzero
  have positive : 0 < 2 ^ low := Nat.two_pow_pos low
  have double : 2 ^ (low + 1) = 2 * 2 ^ low := by rw [Nat.pow_succ, Nat.mul_comm]
  have split := Nat.div_add_mod word.toNat (2 ^ (low + 1))
  rw [remainder] at split
  have bounded := word.isLt
  have lessOne : (word - 1#64).toNat =
      2 ^ (low + 1) * (word.toNat / 2 ^ (low + 1)) + (2 ^ low - 1) := by
    rw [toNat_sub]
    simp only [toNat_ofNat]
    omega
  rw [getLsbD_and]
  have whole : word.getLsbD position = (2 ^ (low + 1) * (word.toNat / 2 ^ (low + 1)) +
      2 ^ low).testBit position := by
    rw [split]
    rfl
  have less : (word - 1#64).getLsbD position = (2 ^ (low + 1) * (word.toNat / 2 ^ (low + 1)) +
      (2 ^ low - 1)).testBit position := by
    rw [← lessOne]
    rfl
  rw [whole, less, Nat.testBit_two_pow_mul_add _ (by omega), Nat.testBit_two_pow_mul_add _ (by omega)]
  by_cases below : position < low + 1
  · simp only [below, if_true, Nat.testBit_two_pow, Nat.testBit_two_pow_sub_one]
    rw [Bool.eq_iff_iff]
    simp only [Bool.and_eq_true, decide_eq_true_eq]
    omega
  · simp only [below, if_false]
    rw [show decide (position ≠ low) = true by simp; omega, Bool.and_true, Bool.and_self]

/-- Clearing the lowest bit makes a word smaller. -/
theorem clearLowest_lt (nonzero : word ≠ 0#64) : (word &&& (word - 1#64)).toNat < word.toNat := by
  have positive : 0 < word.toNat := by
    refine Nat.pos_of_ne_zero fun zero => nonzero ?_
    exact eq_of_toNat_eq (by simpa using zero)
  have bounded := word.isLt
  calc (word &&& (word - 1#64)).toNat ≤ (word - 1#64).toNat := Nat.and_le_right
    _ < word.toNat := by
      rw [toNat_sub]
      simp only [toNat_ofNat]
      omega

end

variable {word}

/-- The enumeration lists exactly the bits which are set. -/
theorem mem_bits {position} : position ∈ bits word ↔ word.getLsbD position = true := by
  simp only [bits, mem_filter, mem_range, and_iff_right_iff_imp]
  exact lt_of_getLsbD

theorem pairwise_bits (word : BitVec 64) : (bits word).Pairwise (· < ·) :=
  pairwise_lt_range.filter _

@[simp] theorem bits_zero : bits 0#64 = [] := by
  simp [bits]

/-- The enumeration starts with the lowest set bit. -/
theorem bits_eq_cons (nonzero : word ≠ 0#64) :
    bits word = word.ctz.toNat :: bits (word &&& (word - 1#64)) := by
  have sorted : (word.ctz.toNat :: bits (word &&& (word - 1#64))).Pairwise (· < ·) := by
    refine pairwise_cons.mpr ⟨fun position member => ?_, pairwise_bits _⟩
    rw [mem_bits, getLsbD_clearLowest nonzero] at member
    simp only [Bool.and_eq_true, decide_eq_true_eq] at member
    refine Nat.lt_of_not_le fun notAbove => ?_
    have clear := getLsbD_false_of_lt_ctz (Nat.lt_of_le_of_ne notAbove member.2)
    simp [clear] at member
  refine List.Pairwise.eq_of_mem_iff (pairwise_bits word) sorted fun position => ?_
  rw [mem_cons, mem_bits, mem_bits, getLsbD_clearLowest nonzero]
  by_cases same : position = word.ctz.toNat
  · simp [same, getLsbD_true_ctz_of_ne_zero nonzero]
  · simp [same]

/-- The members are exactly the indices which pass the test. -/
theorem mem_members {index} : index ∈ members words ↔ test words index = true := by
  rw [test_eq_true_iff, members, mem_flatMap]
  constructor
  · rintro ⟨⟨word, wordIndex⟩, found, member⟩
    obtain ⟨position, isSet, rfl⟩ := mem_map.mp member
    have small : position < 64 := lt_of_getLsbD (mem_bits.mp isSet)
    refine ⟨word, ?_, ?_⟩
    · rw [show (wordIndex * 64 + position) / 64 = wordIndex by omega]
      simpa [mem_zipIdx_iff_getElem?] using found
    · rw [show (wordIndex * 64 + position) % 64 = position by omega]
      exact mem_bits.mp isSet
  · rintro ⟨word, found, isSet⟩
    refine ⟨(word, index / 64), by simpa [mem_zipIdx_iff_getElem?] using found, ?_⟩
    exact mem_map.mpr ⟨index % 64, mem_bits.mpr isSet, by omega⟩

/-- The members are listed in ascending order. -/
theorem pairwise_members (words : List (BitVec 64)) : (members words).Pairwise (· < ·) := by
  have ordered : words.zipIdx.Pairwise (fun first second => first.2 < second.2) := by
    rw [← pairwise_map, zipIdx_map_snd]
    exact pairwise_lt_range'
  rw [members, pairwise_flatMap]
  constructor
  · rintro ⟨word, wordIndex⟩ _
    exact (pairwise_bits word).map _ fun _ _ less => Nat.add_lt_add_left less _
  · refine ordered.imp fun {first second} less index member other otherMember => ?_
    obtain ⟨position, isSet, rfl⟩ := mem_map.mp member
    obtain ⟨otherPosition, _, rfl⟩ := mem_map.mp otherMember
    have small : position < 64 := lt_of_getLsbD (mem_bits.mp isSet)
    omega

end Bangbang.Bitmap
