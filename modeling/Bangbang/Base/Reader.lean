import Bangbang.Base.Bytes

/-!
# Sequential readers of big-endian fields

`toBeBytes` and `fromBeBytes` convert between a machine word and its big-endian
bytes. A `Reader` consumes the front of its input and may fail. Every rule below
is an equivalence: a reader returns a value and a remainder exactly when the
input is the encoding of that value followed by the remainder. A decoder which is
a sequence of readers is inverted by rewriting with these rules, and the same
rewriting shows that it accepts what an encoder wrote.
-/

namespace Bangbang

/-- The bytes of a word, most significant first. -/
def toBeBytes {width : Nat} (value : BitVec width) : List UInt8 :=
  (leBytes (width / 8) value.toNat).reverse

/-- The word of a big-endian byte string. -/
def fromBeBytes (width : Nat) (bytes : List UInt8) : BitVec width :=
  BitVec.ofNat width (ofLe bytes.reverse)

@[simp] theorem length_toBeBytes {width} (value : BitVec width) :
    (toBeBytes value).length = width / 8 := by
  simp [toBeBytes]

section
variable {width}

theorem two_pow_eq_byteRange (whole : width % 8 = 0) : 2 ^ width = 256 ^ (width / 8) := by
  rw [show (256 : Nat) = 2 ^ 8 from rfl, ← Nat.pow_mul]
  congr 1
  omega

/-- A whole number of bytes is read back. -/
theorem fromBeBytes_toBeBytes (whole : width % 8 = 0) (value : BitVec width) :
    fromBeBytes width (toBeBytes value) = value := by
  have fits : value.toNat < 256 ^ (width / 8) := two_pow_eq_byteRange whole ▸ value.isLt
  rw [fromBeBytes, toBeBytes, List.reverse_reverse, ofLe_leBytes fits, BitVec.ofNat_toNat,
    BitVec.setWidth_eq]

/-- Bytes of the right number are written back. -/
theorem toBeBytes_fromBeBytes (whole : width % 8 = 0) {bytes} (size : bytes.length = width / 8) :
    toBeBytes (fromBeBytes width bytes) = bytes := by
  have fits : ofLe bytes.reverse < 2 ^ width := by
    rw [two_pow_eq_byteRange whole, ← size, ← List.length_reverse]
    exact ofLe_lt _
  rw [toBeBytes, fromBeBytes, BitVec.toNat_ofNat, Nat.mod_eq_of_lt fits, ← size,
    ← List.length_reverse, leBytes_ofLe, List.reverse_reverse]

end

/-- A computation which consumes the front of its input. -/
abbrev Reader (ε : Type) : Type → Type := StateT (List UInt8) (Except ε)

namespace Reader

variable {ε α β : Type} {input rest : List UInt8}

/-- A check which consumes nothing. -/
def lift (result : Except ε α) : Reader ε α := fun input =>
  result.map fun value => (value, input)

/-- The next `length` bytes, or `short` when fewer remain. -/
def take (short : ε) (length : Nat) : Reader ε { piece : List UInt8 // piece.length = length } :=
  fun input =>
    if enough : length ≤ input.length then
      .ok (⟨input.take length, List.length_take_of_le enough⟩, input.drop length)
    else .error short

/-- The next big-endian word. -/
def word (short : ε) (width : Nat) : Reader ε (BitVec width) := do
  let piece ← take short (width / 8)
  return fromBeBytes width piece.1

/-- The next `length` bytes, which must all be zero. -/
def zeroes (short nonzero : ε) (length : Nat) : Reader ε Unit := do
  let piece ← take short length
  lift (rejectIf (¬ piece.1.all (· = 0)) nonzero)

/-- Everything that is left. -/
def remaining : Reader ε (List UInt8) := fun input => .ok (input, [])

/-- Refuse input that is not used up. -/
def finish (trailing : ε) : Reader ε Unit := fun input =>
  if input = [] then .ok ((), []) else .error trailing

/-- A sequence of reads consumes the input in order. -/
theorem bind_eq_ok {first} {next : α → Reader ε β} {result : β} :
    (first >>= next) input = .ok (result, rest) ↔
      ∃ value middle, first input = .ok (value, middle) ∧ next value middle = .ok (result, rest) := by
  change (first input >>= fun read => next read.1 read.2) = _ ↔ _
  rw [Bangbang.bind_eq_ok]
  exact Prod.exists

theorem pure_eq_ok {value result} :
    (pure value : Reader ε α) input = .ok (result, rest) ↔ value = result ∧ input = rest := by
  change Except.ok (value, input) = _ ↔ _
  simp

/-- A lifted result consumes nothing. -/
@[simp] theorem lift_eq_ok {result : Except ε α} {value : α} :
    lift result input = .ok (value, rest) ↔ result = .ok value ∧ input = rest := by
  cases result <;> simp [lift, Except.map]

/-- A read of some bytes splits them off the input. -/
@[simp] theorem take_eq_ok {short : ε} {length}
    {piece : { piece : List UInt8 // piece.length = length }} :
    take short length input = .ok (piece, rest) ↔ input = piece.1 ++ rest := by
  obtain ⟨piece, rfl⟩ := piece
  unfold take
  split
  · rename_i enough
    simp only [Except.ok.injEq, Prod.mk.injEq, Subtype.mk.injEq]
    constructor
    · rintro ⟨taken, rfl⟩
      rw [← taken, List.length_take_of_le enough, List.take_append_drop]
    · rintro rfl
      simp
  · rename_i short
    simp only [reduceCtorEq, false_iff]
    rintro rfl
    simp at short

/-- A word is read from exactly its big-endian bytes. -/
theorem word_eq_ok {short : ε} {width} (whole : width % 8 = 0) {value} :
    word short width input = .ok (value, rest) ↔ input = toBeBytes value ++ rest := by
  simp only [word, bind_eq_ok, take_eq_ok, pure_eq_ok]
  constructor
  · rintro ⟨piece, middle, rfl, rfl, rfl⟩
    rw [toBeBytes_fromBeBytes whole piece.2]
  · rintro rfl
    exact ⟨⟨toBeBytes value, length_toBeBytes value⟩, rest, rfl, fromBeBytes_toBeBytes whole value,
      rfl⟩

/-- Reserved bytes are read only as zeroes. -/
@[simp] theorem zeroes_eq_ok {short nonzero : ε} {length : Nat} {done : Unit} :
    zeroes short nonzero length input = .ok (done, rest) ↔
      input = List.replicate length 0 ++ rest := by
  simp only [zeroes, bind_eq_ok, take_eq_ok, lift_eq_ok, rejectIf_eq_ok, not_not,
    List.all_eq_true, decide_eq_true_eq]
  constructor
  · rintro ⟨piece, middle, rfl, allZero, rfl⟩
    rw [List.eq_replicate_iff.mpr ⟨piece.2, allZero⟩]
  · rintro rfl
    exact ⟨⟨List.replicate length 0, List.length_replicate⟩, rest, rfl,
      fun _ member => (List.mem_replicate.mp member).2, rfl⟩

@[simp] theorem remaining_eq_ok {value} :
    (remaining : Reader ε (List UInt8)) input = .ok (value, rest) ↔ input = value ∧ [] = rest := by
  simp [remaining]

@[simp] theorem finish_eq_ok {trailing : ε} {done} :
    finish trailing input = .ok (done, rest) ↔ input = [] ∧ [] = rest := by
  unfold finish
  split <;> simp [*]

end Reader
end Bangbang
