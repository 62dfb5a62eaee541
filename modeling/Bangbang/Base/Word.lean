import Mathlib.Algebra.Order.Ring.Nat
import Mathlib.Data.BitVec

/-!
# Machine words

Writes which reach only some bits of a word, and counters which wrap. `splice` takes the bits
under a mask from one word and the rest from another, and `AgreeOutside` relates two words which
differ under a mask only: a splice agrees with what it replaced, and splicing the masked bits of
a word into one which agrees with it elsewhere gives that word. A 32-bit word is four bytes, so
a splice can be made one byte at a time. A word which counts without bound holds its count up to
whole turns; the difference of two such words is the difference of the counts as long as the
counts are less than a turn apart, however often both have wrapped.
-/

namespace Bangbang.MaskedWord

section
variable {width : Nat} {mask inner old new third : BitVec width}

/-- The bits of `new` under the mask and the bits of `old` elsewhere. -/
def splice (mask old new : BitVec width) : BitVec width := (old &&& ~~~mask) ||| (new &&& mask)

/-- The two words differ under the mask only. -/
def AgreeOutside (mask first second : BitVec width) : Prop :=
  ∀ index, mask.getLsbD index = false → first.getLsbD index = second.getLsbD index

/-- A splice takes each bit by the mask. -/
theorem getLsbD_splice (index : Nat) :
    (splice mask old new).getLsbD index =
      if mask.getLsbD index then new.getLsbD index else old.getLsbD index := by
  rw [splice, BitVec.getLsbD_or, BitVec.getLsbD_and, BitVec.getLsbD_and, BitVec.getLsbD_not]
  by_cases inside : index < width
  · cases mask.getLsbD index <;> simp [inside]
  · simp [BitVec.getLsbD_of_ge _ _ (Nat.le_of_not_lt inside)]

theorem AgreeOutside.refl (mask word : BitVec width) : AgreeOutside mask word word :=
  fun _ _ => rfl

theorem AgreeOutside.symm (agree : AgreeOutside mask old new) : AgreeOutside mask new old :=
  fun index outside => (agree index outside).symm

theorem AgreeOutside.trans (first : AgreeOutside mask old new)
    (second : AgreeOutside mask new third) : AgreeOutside mask old third :=
  fun index outside => (first index outside).trans (second index outside)

/-- The machine test for a difference outside the mask. -/
theorem xor_and_not_eq_zero_iff :
    (old ^^^ new) &&& ~~~mask = BitVec.ofNat width 0 ↔ AgreeOutside mask old new := by
  constructor
  · intro same index outside
    by_cases inside : index < width
    · have bit := congrArg (·.getLsbD index) same
      simp only [BitVec.getLsbD_and, BitVec.getLsbD_xor, BitVec.getLsbD_not, BitVec.getLsbD_zero,
        inside, outside, decide_true, Bool.not_false, Bool.and_true] at bit
      exact bne_eq_false_iff_eq.mp bit
    · simp [BitVec.getLsbD_of_ge _ _ (Nat.le_of_not_lt inside)]
  · intro agree
    apply BitVec.eq_of_getLsbD_eq
    intro index inside
    rw [BitVec.getLsbD_and, BitVec.getLsbD_xor, BitVec.getLsbD_not, BitVec.getLsbD_zero]
    rcases outside : mask.getLsbD index
    · simp [agree index outside]
    · simp

/-- A splice within the mask agrees with what it replaced. -/
theorem AgreeOutside.splice (within : ∀ index, inner.getLsbD index → mask.getLsbD index) :
    AgreeOutside mask old (splice inner old new) := by
  intro index outside
  rw [getLsbD_splice, if_neg]
  intro reached
  simp [within index reached] at outside

end

section
variable {index position : Nat}

/-- The byte of a word at a little-endian position. -/
def byteOf (word : BitVec 32) (position : Nat) : BitVec 8 := word.extractLsb' (8 * position) 8

/-- A byte moved to its position in a word. -/
def placed (byte : BitVec 8) (position : Nat) : BitVec 32 := byte.setWidth 32 <<< (8 * position)

/-- The little-endian bytes of a word. -/
def toLeBytes (word : BitVec 32) : List (BitVec 8) := (List.range 4).map (byteOf word)

theorem getLsbD_byteOf (word : BitVec 32) (index : Nat) :
    (byteOf word position).getLsbD index =
      (decide (index < 8) && word.getLsbD (8 * position + index)) :=
  BitVec.getLsbD_extractLsb' ..

/-- A placed byte has its bits at its position, and no others. -/
theorem getLsbD_placed (byte : BitVec 8) (inside : index < 32) :
    (placed byte position).getLsbD index =
      (decide (index / 8 = position) && byte.getLsbD (index % 8)) := by
  rw [placed, BitVec.getLsbD_shiftLeft, BitVec.getLsbD_setWidth]
  by_cases below : index < 8 * position
  · have elsewhere : index / 8 ≠ position := by omega
    simp [below, elsewhere]
  · by_cases here : index / 8 = position
    · have shifted : index - 8 * position = index % 8 := by omega
      have short : index % 8 < 32 := by omega
      simp [inside, below, here, shifted, short]
    · have beyond : 8 ≤ index - 8 * position := by omega
      simp [here, BitVec.getLsbD_of_ge _ _ beyond]

/-- A masked byte spliced into a word changes the masked bits of that byte. -/
theorem getLsbD_splice_placed (word source mask : BitVec 32) (inside : index < 32) :
    (splice (placed (byteOf mask position) position) word
        (placed (byteOf source position &&& byteOf mask position) position)).getLsbD index =
      if index / 8 = position ∧ mask.getLsbD index then source.getLsbD index
      else word.getLsbD index := by
  rw [getLsbD_splice, getLsbD_placed _ inside, getLsbD_placed _ inside, BitVec.getLsbD_and,
    getLsbD_byteOf, getLsbD_byteOf]
  by_cases here : index / 8 = position
  · have whole : 8 * position + index % 8 = index := by omega
    have short : index % 8 < 8 := by omega
    simp only [here, whole, short, decide_true, Bool.true_and, true_and]
    cases mask.getLsbD index <;> simp
  · simp [here]

end
end Bangbang.MaskedWord

namespace Bangbang

variable {w : Nat} {word ahead behind : BitVec w} {count first second : Nat}

/-- The word holds the count, up to whole turns. -/
def Counts (word : BitVec w) (count : Nat) : Prop := word = BitVec.ofNat w count

theorem Counts.zero : Counts (0 : BitVec w) 0 := rfl

/-- A counter which is raised holds the raised count. -/
theorem Counts.add (counts : Counts word count) (more : Nat) :
    Counts (word + BitVec.ofNat w more) (count + more) := by
  rw [Counts, counts, BitVec.ofNat_add]

/-- The difference of two counters is that of their counts while these are near. -/
theorem Counts.toNat_sub (countsAhead : Counts ahead first) (countsBehind : Counts behind second)
    (ordered : second ≤ first) (near : first - second < 2 ^ w) :
    (ahead - behind).toNat = first - second := by
  have further : ahead = BitVec.ofNat w (first - second) + behind := by
    rw [countsAhead, countsBehind, ← BitVec.ofNat_add, Nat.sub_add_cancel ordered]
  rw [further, BitVec.add_sub_cancel, BitVec.toNat_ofNat, Nat.mod_eq_of_lt near]

end Bangbang
