import Bangbang.Virtio.DescriptorWalk
import Mathlib.Logic.Relation

/-!
# The available ring is a queue

A run interleaves driver publications, device pops, undone pops, checkpoints and
restores, and arbitrary other activity in guest memory. `RingRun` carries the
heads published so far and the heads delivered so far; an undone pop is taken out
of the delivered heads again, and a restored checkpoint brings back the heads
which were delivered when it was taken.

The published index and the device cursor are the counters `start + published`
and `start + delivered` modulo `2 ^ 16`. Fewer than `2 ^ 16` heads are
outstanding, so their difference decides how many, and the slots of the last
`queueSize` publications still hold their heads.
-/

namespace Bangbang.Virtio

open Memory GuestMemory List

section
variable {start size : UInt16} {first second}

/-- A free-running counter after some steps. -/
def counter (start : UInt16) (steps : Nat) : UInt16 := start + UInt16.ofNat steps

theorem counter_succ (start steps) : counter start steps + 1 = counter start (steps + 1) := by
  rw [counter, counter, UInt16.ofNat_add, UInt16.add_assoc]
  rfl

theorem counter_sub_one (start steps) : counter start (steps + 1) - 1 = counter start steps := by
  rw [← counter_succ, UInt16.add_sub_cancel]

/-- The distance of two counters. -/
theorem toNat_counter_sub (ordered : first ≤ second) (near : second - first < 2 ^ 16) :
    (counter start second - counter start first).toNat = second - first := by
  simp only [counter, UInt16.toNat_sub, UInt16.toNat_add, UInt16.toNat_ofNat']
  omega

/-- A counter which wraps finds the slot of its count. -/
theorem toNat_counter_mod (divides : size.toNat ∣ 2 ^ 16) (steps) :
    (counter start steps % size).toNat = (start.toNat + steps) % size.toNat := by
  rw [counter, UInt16.toNat_mod, UInt16.toNat_add, UInt16.toNat_ofNat', Nat.add_mod_mod,
    Nat.mod_mod_of_dvd _ divides]

/-- Counters less than a turn apart have different slots. -/
theorem counter_slot_injective (divides : size.toNat ∣ 2 ^ 16) (ordered : first ≤ second)
    (near : second < first + size.toNat)
    (same : counter start first % size = counter start second % size) : first = second := by
  have slots := congrArg UInt16.toNat same
  rw [toNat_counter_mod divides, toNat_counter_mod divides] at slots
  have multiple : size.toNat ∣ second - first := by
    have remainder := Nat.sub_mod_eq_zero_of_mod_eq slots.symm
    rw [Nat.add_sub_add_left] at remainder
    exact Nat.dvd_of_mod_eq_zero remainder
  have := Nat.eq_zero_of_dvd_of_lt multiple (by omega)
  omega

end

namespace VirtqueueAvailableRing

variable {ring : VirtqueueAvailableRing} {memory : GuestMemory}

/-- The size of a queue is a power of two. -/
theorem queueSize_eq (ring : VirtqueueAvailableRing) :
    ∃ exponent < 16, ring.queueSize.toNat = 2 ^ exponent := by
  have placed := ring.placed
  simp only [validatePlacement, bind_eq_ok, rejectIf_eq_ok] at placed
  obtain ⟨_, valid, -⟩ := placed
  simpa [isValidQueueSize] using valid

theorem queueSize_pos (ring : VirtqueueAvailableRing) : 0 < ring.queueSize.toNat := by
  obtain ⟨exponent, -, size⟩ := ring.queueSize_eq
  rw [size]
  exact Nat.two_pow_pos exponent

theorem queueSize_dvd (ring : VirtqueueAvailableRing) : ring.queueSize.toNat ∣ 2 ^ 16 := by
  obtain ⟨exponent, small, size⟩ := ring.queueSize_eq
  rw [size]
  exact Nat.pow_dvd_pow 2 (Nat.le_of_lt small)

theorem queueSize_le (ring : VirtqueueAvailableRing) : ring.queueSize.toNat ≤ 2 ^ 15 := by
  obtain ⟨exponent, small, size⟩ := ring.queueSize_eq
  rw [size]
  exact Nat.pow_le_pow_right (by decide) (by omega)

section

/-- The head in the slot of an index, as the device loads it. -/
def headAt (ring : VirtqueueAvailableRing) (memory : GuestMemory) (index : UInt16) :
    Except VirtqueueAvailableRingError UInt16 := do
  let address ← ring.entryAddress (index % ring.queueSize)
  ring.readRingU16 memory address

variable {reserved chain}

/-- A chain is read from the head in its slot. -/
theorem readChainAt_eq_ok {index} (read : ring.readChainAt memory index reserved = .ok chain) :
    ring.headAt memory index = .ok chain.headIndex := by
  simp only [readChainAt, bind_eq_ok, mapError_eq_ok] at read
  obtain ⟨address, located, head, loaded, read⟩ := read
  simp only [headAt, bind_eq_ok]
  exact ⟨address, located, by rw [loaded, readDescriptorChain_headIndex read]⟩

/-- What a pop can find. -/
theorem nextDescriptorChain_eq_ok {found}
    (next : ring.nextDescriptorChain memory reserved = .ok found) :
    ∃ index, ring.loadAvailableIndex memory = .ok index ∧
      (index - ring.nextAvail).toNat ≤ ring.queueSize.toNat ∧
      match found with
      | none => index - ring.nextAvail = 0
      | some chain => index - ring.nextAvail ≠ 0 ∧
          ring.headAt memory ring.nextAvail = .ok chain.headIndex := by
  simp only [nextDescriptorChain, loadAvailableLen, bind_eq_ok, rejectIf_eq_ok, pure_eq_ok] at next
  obtain ⟨_, -, _, -, _, ⟨index, loaded, _, bounded, rfl⟩, next⟩ := next
  refine ⟨index, loaded, UInt16.le_iff_toNat_le.mp (UInt16.not_lt.mp bounded), ?_⟩
  split at next
  case isTrue empty =>
    obtain rfl := Except.ok.inj next
    exact empty
  case isFalse nonempty =>
    simp only [bind_eq_ok, pure_eq_ok] at next
    obtain ⟨chain, read, rfl⟩ := next
    exact ⟨nonempty, readChainAt_eq_ok read⟩

variable {next}

theorem popDescriptorChain_none
    (popped : ring.popDescriptorChain memory reserved = (.ok none, next)) :
    ring.nextDescriptorChain memory reserved = .ok none ∧ next = ring := by
  unfold popDescriptorChain at popped
  split at popped
  · cases popped
  · obtain ⟨found, same⟩ := Prod.mk.inj popped
    exact ⟨found, same.symm⟩

/-- A failed pop changes nothing. -/
theorem popDescriptorChain_error {error}
    (popped : ring.popDescriptorChain memory reserved = (.error error, next)) : next = ring := by
  unfold popDescriptorChain at popped
  split at popped
  · cases popped
  · exact (Prod.mk.inj popped).2.symm

/-- A pop moves to the next slot. -/
theorem popDescriptorChain_some
    (popped : ring.popDescriptorChain memory reserved = (.ok (some chain), next)) :
    ring.nextDescriptorChain memory reserved = .ok (some chain) ∧
      next = { ring with nextAvail := ring.nextAvail + 1, canUndoPop := true } := by
  unfold popDescriptorChain at popped
  split at popped
  case h_1 found =>
    obtain ⟨same, rfl⟩ := Prod.mk.inj popped
    obtain rfl := Option.some.inj (Except.ok.inj same)
    exact ⟨found, rfl⟩
  case h_2 other =>
    exact absurd (Prod.mk.inj popped).1 (other chain)

end

/-- The driver puts a head into the slot of an index and advances the index. -/
structure Publishes (ring : VirtqueueAvailableRing) (memory next : GuestMemory)
    (head : UInt16) : Prop where
  publish : ∃ index, ring.loadAvailableIndex memory = .ok index ∧
    ring.loadAvailableIndex next = .ok (index + 1) ∧ ring.headAt next index = .ok head ∧
    ∀ other, other % ring.queueSize ≠ index % ring.queueSize →
      ring.headAt next other = ring.headAt memory other

/-- Other activity leaves the index and the slots of the ring alone. -/
structure Undisturbed (ring : VirtqueueAvailableRing) (memory next : GuestMemory) : Prop where
  index : ring.loadAvailableIndex next = ring.loadAvailableIndex memory
  slots : ∀ index, ring.headAt next index = ring.headAt memory index

/-- The halfword which the bytes of an address and its successor make. -/
def wordAt (memory : GuestMemory) (address : Nat) : UInt16 :=
  UInt16.ofNat (ofLe [(memory.valueAt address).getD 0, (memory.valueAt (address + 1)).getD 0])

theorem readU16_mapped (wf : memory.Wf) {address} (bounded : address + 2 < wordLimit)
    (mapped : ∀ index < 2, memory.Mapped (address + index)) :
    readU16 memory address = .ok (wordAt memory address) := by
  have isOk : (memory.readSlice (replicate 2 0) address).1 = .ok () :=
    readSlice_isOk wf bounded mapped
  obtain ⟨bytes, read⟩ : ∃ bytes,
      memory.readSlice (replicate 2 0) address = (.ok (), bytes) :=
    ⟨_, Prod.ext isOk rfl⟩
  obtain ⟨length, found⟩ := readSlice_eq_ok wf read
  obtain ⟨low, high, rfl⟩ := length_eq_two.mp (length.trans length_replicate)
  obtain ⟨lowMapped, lowByte⟩ := found 0 Nat.two_pos
  obtain ⟨highMapped, highByte⟩ := found 1 Nat.one_lt_two
  rw [wf.byteAt_eq lowMapped, Nat.add_zero] at lowByte
  rw [wf.byteAt_eq highMapped] at highByte
  rw [readU16, readBytes, read, wordAt, ← lowByte, ← highByte]
  rfl

section
variable {next stored start address} {value : UInt16}

section
variable (follows : GuestMemory.Follows memory (.write start (leBytes 2 value.toNat)) next)
include follows

/-- A stored word is read back. -/
theorem wordAt_stored : wordAt next start = value := by
  have small := value.toNat_lt
  simp only [wordAt, follows.value, MemoryEvent.update, length_leBytes]
  rw [if_pos (by omega), if_pos (by omega), Nat.sub_self, Nat.add_sub_cancel_left]
  change UInt16.ofNat (ofLe (leBytes 2 value.toNat)) = value
  rw [ofLe_leBytes (by omega), UInt16.ofNat_toNat]

/-- A word elsewhere is kept. -/
theorem wordAt_kept (apart : address + 2 ≤ start ∨ start + 2 ≤ address) :
    wordAt next address = wordAt memory address := by
  simp only [wordAt, follows.value, MemoryEvent.update, length_leBytes]
  rw [if_neg (by omega), if_neg (by omega)]

end

variable (wf : memory.Wf)
include wf

variable (valid : ring.validateAvailableRingRange memory = .ok ())
include valid

/-- The addresses of the ring's words lie in guest memory. -/
theorem validateAvailableRingRange_mapped :
    ring.availableRing + (4 + ring.queueSize.toNat * 2 + 2) < wordLimit ∧
      ∀ offset < 4 + ring.queueSize.toNat * 2 + 2, memory.Mapped (ring.availableRing + offset) := by
  simp only [validateAvailableRingRange, availableRingRange, availableRingSize, bind_eq_ok,
    okOr_eq_ok, checkedAdd_eq_some, pure_eq_ok, mapError_eq_ok] at valid
  obtain ⟨range, ⟨_, ⟨_, ⟨bounded, -⟩, rfl⟩, created⟩, covered⟩ := valid
  obtain ⟨start, size⟩ := GuestMemoryRange.new_eq_ok created
  rw [validateMappedRange_eq_ok wf, GuestMemoryRange.endExclusive, start, size]
    at covered
  refine ⟨bounded, ?_⟩
  intro offset inside
  exact covered _ (by omega) (by omega)

theorem loadAvailableIndex_mapped :
    ring.loadAvailableIndex memory = .ok (wordAt memory (ring.availableRing + 2)) := by
  obtain ⟨bounded, mapped⟩ := validateAvailableRingRange_mapped wf valid
  have read := @readU16_mapped memory wf (ring.availableRing + 2) (by omega) (by
    intro index inside
    rw [Nat.add_assoc]
    exact mapped _ (by omega))
  simp only [loadAvailableIndex, offsetAddress, bind_eq_ok, okOr_eq_ok, checkedAdd_eq_some]
  exact ⟨_, ⟨by omega, rfl⟩, by rw [readRingU16, read]; rfl⟩

/-- The address of the slot of an index. -/
def slotAddress (ring : VirtqueueAvailableRing) (index : UInt16) : Nat :=
  ring.availableRing + ((index % ring.queueSize).toNat * 2 + 4)

theorem headAt_mapped (index : UInt16)
    : ring.headAt memory index = .ok (wordAt memory (ring.slotAddress index)) := by
  obtain ⟨bounded, mapped⟩ := validateAvailableRingRange_mapped wf valid
  have slot : (index % ring.queueSize).toNat < ring.queueSize.toNat := by
    exact Nat.mod_lt _ ring.queueSize_pos
  have read := @readU16_mapped memory wf (ring.slotAddress index)
    (by unfold slotAddress; omega) (by
      intro position inside
      rw [slotAddress, Nat.add_assoc]
      exact mapped _ (by omega))
  simp only [headAt, entryAddress, offsetAddress, bind_eq_ok, okOr_eq_ok, checkedAdd_eq_some]
  exact ⟨_, ⟨by omega, rfl⟩, by rw [readRingU16, ← slotAddress, read]; rfl⟩

omit valid in
/-- A store keeps the ring mapped. -/
theorem validateAvailableRingRange_stored {bytes}
    (follows : GuestMemory.Follows memory (.write start bytes) next)
    (valid : ring.validateAvailableRingRange memory = .ok ()) :
    ring.validateAvailableRingRange next = .ok () := by
  have ranges : ∀ range, range ∈ next.ranges ↔ range ∈ memory.ranges := follows.ranges
  simp only [validateAvailableRingRange, bind_eq_ok, mapError_eq_ok] at valid ⊢
  obtain ⟨range, placed, covered⟩ := valid
  refine ⟨range, placed, ?_⟩
  rw [validateMappedRange_eq_ok wf] at covered
  rw [validateMappedRange_eq_ok follows.wf]
  intro address above below
  obtain ⟨region, member, contained⟩ := covered address above below
  exact ⟨region, (ranges region).mpr member, contained⟩

/-- The driver's two stores: the head into its slot, then the next index. -/
theorem publishes_of_stores {index head} (loaded : ring.loadAvailableIndex memory = .ok index)
    (slot : memory.writeSlice (leBytes 2 head.toNat) (ring.slotAddress index) = (.ok (), stored))
    (advance : stored.writeSlice (leBytes 2 (index + 1).toNat) (ring.availableRing + 2) =
      (.ok (), next)) : ring.Publishes memory next head := by
  have storedFollows := writeSlice_follows wf slot
  have nextFollows := writeSlice_follows storedFollows.wf advance
  have storedValid := validateAvailableRingRange_stored wf storedFollows valid
  have nextValid := validateAvailableRingRange_stored storedFollows.wf nextFollows storedValid
  have beyondIndex : ∀ other, ring.availableRing + 2 + 2 ≤ ring.slotAddress other := by
    intro other
    unfold slotAddress
    omega
  refine ⟨index, loaded, ?_, ?_, ?_⟩
  · rw [loadAvailableIndex_mapped nextFollows.wf nextValid, wordAt_stored nextFollows]
  · rw [headAt_mapped nextFollows.wf nextValid, wordAt_kept nextFollows (.inr (beyondIndex index)),
      wordAt_stored storedFollows]
  · intro other different
    have apart : (other % ring.queueSize).toNat ≠ (index % ring.queueSize).toNat :=
      fun same => different (UInt16.toNat_inj.mp same)
    rw [headAt_mapped nextFollows.wf nextValid, headAt_mapped wf valid,
      wordAt_kept nextFollows (.inr (beyondIndex other)), wordAt_kept storedFollows]
    unfold slotAddress
    omega

end
end VirtqueueAvailableRing

open VirtqueueAvailableRing

/-- A device at work: its ring, the guest memory, the heads published and delivered so
far, and the checkpoints taken, each with the heads delivered at that time. -/
structure RingRun where
  ring : VirtqueueAvailableRing
  memory : GuestMemory
  (published delivered : List UInt16)
  saved : List (VirtqueueAvailableRingCheckpoint × List UInt16)

namespace RingRun

open VirtqueueAvailableRing

variable (run : RingRun)

/-- Nothing has been published or delivered. -/
def initial (ring : VirtqueueAvailableRing) (memory : GuestMemory) : RingRun :=
  { ring, memory, published := [], delivered := [], saved := [] }

/-- The device pops a chain. -/
def pop (reserved : Bool) : RingRun :=
  match run.ring.popDescriptorChain run.memory reserved with
  | (.ok (some chain), ring) => { run with ring, delivered := run.delivered ++ [chain.headIndex] }
  | (_, ring) => { run with ring }

/-- The device undoes its last pop. -/
def undo : RingRun :=
  match run.ring.undoPopDescriptorChain with
  | (.ok (), ring) => { run with ring, delivered := run.delivered.dropLast }
  | (.error _, ring) => { run with ring }

/-- The device notes where it stands. -/
def checkpoint : RingRun :=
  { run with saved := (run.ring.checkpoint, run.delivered) :: run.saved }

/-- Go back to a checkpoint: what was delivered then is what is delivered now. -/
def restore (saved : VirtqueueAvailableRingCheckpoint × List UInt16) : RingRun :=
  { run with ring := run.ring.restoreCheckpoint saved.1, delivered := saved.2 }

/-- The published heads which the device has yet to deliver. -/
def outstanding : Nat := run.published.length - run.delivered.length

/-- One step of the driver or the device. -/
inductive Step : RingRun → RingRun → Prop where
  | publish {run : RingRun} {memory : GuestMemory} {head : UInt16}
      (room : run.outstanding < run.ring.queueSize.toNat)
      (publishes : run.ring.Publishes run.memory memory head) :
      Step run { run with memory, published := run.published ++ [head] }
  | other {run : RingRun} {memory : GuestMemory}
      (undisturbed : run.ring.Undisturbed run.memory memory) : Step run { run with memory }
  | pop {run : RingRun} (reserved : Bool) : Step run (run.pop reserved)
  | undo {run : RingRun} : Step run run.undo
  | checkpoint {run : RingRun} : Step run run.checkpoint
  | restore {run : RingRun} {saved : VirtqueueAvailableRingCheckpoint × List UInt16}
      (taken : saved ∈ run.saved) (recent : (run.restore saved).outstanding < 2 ^ 16) :
      Step run (run.restore saved)

/-- The counters, the slots, and the checkpoints agree with the published heads. -/
structure Coherent (start : UInt16) (run : RingRun) : Prop where
  delivered : run.delivered <+: run.published
  cursor : run.ring.nextAvail = counter start run.delivered.length
  index : run.ring.loadAvailableIndex run.memory = .ok (counter start run.published.length)
  slots : ∀ position head, run.published[position]? = some head →
    run.published.length ≤ position + run.ring.queueSize.toNat →
    run.ring.headAt run.memory (counter start position) = .ok head
  near : run.outstanding < 2 ^ 16
  undoable : run.ring.canUndoPop = true →
    0 < run.delivered.length ∧ run.outstanding ≤ run.ring.queueSize.toNat
  saved : ∀ saved ∈ run.saved, saved.2 <+: run.published ∧
    saved.1.nextAvail = counter start saved.2.length

variable {run start}

/-- A new ring is coherent. -/
theorem Coherent.initial {ring memory} (fresh : ring.canUndoPop = false)
    (empty : ring.loadAvailableIndex memory = .ok ring.nextAvail) :
    Coherent ring.nextAvail (.initial ring memory) := by
  have zero : ring.nextAvail = counter ring.nextAvail 0 := (UInt16.add_zero _).symm
  constructor
  · exact nil_prefix
  · exact zero
  · exact empty.trans (congrArg Except.ok zero)
  · intro position head found
    cases found
  · exact Nat.two_pow_pos 16
  · intro undoable
    exact absurd (fresh.symm.trans undoable) Bool.false_ne_true
  · intro saved taken
    cases taken

section
variable (coherent : Coherent start run)
include coherent

/-- A published head takes the slot of the head one turn before it. -/
theorem Coherent.publish {memory head} (room : run.outstanding < run.ring.queueSize.toNat)
    (publishes : run.ring.Publishes run.memory memory head) :
    Coherent start { run with memory, published := run.published ++ [head] } := by
  obtain ⟨index, loaded, advanced, stored, others⟩ := publishes.publish
  obtain rfl := Except.ok.inj (coherent.index.symm.trans loaded)
  have small := run.ring.queueSize_le
  unfold outstanding at room
  constructor
  · exact coherent.delivered.trans (List.prefix_append _ _)
  · exact coherent.cursor
  · rw [advanced, counter_succ, List.length_append, List.length_singleton]
  · intro position current found recent
    change (run.published ++ [head]).length ≤ position + run.ring.queueSize.toNat at recent
    rw [List.length_append, List.length_singleton] at recent
    by_cases old : position < run.published.length
    · rw [List.getElem?_append_left old] at found
      rw [others]
      · exact coherent.slots position current found (by omega)
      · intro same
        have := counter_slot_injective run.ring.queueSize_dvd (Nat.le_of_lt old) (by omega) same
        omega
    · obtain ⟨inside, -⟩ := List.getElem?_eq_some_iff.mp found
      rw [List.length_append, List.length_singleton] at inside
      obtain rfl : position = run.published.length := by omega
      rw [List.getElem?_concat_length] at found
      obtain rfl := Option.some.inj found
      exact stored
  · simp only [outstanding, List.length_append, List.length_singleton]
    omega
  · intro undoable
    have := (coherent.undoable undoable).1
    simp only [outstanding, List.length_append, List.length_singleton]
    exact ⟨this, by omega⟩
  · intro saved taken
    obtain ⟨earlier, cursor⟩ := coherent.saved saved taken
    exact ⟨earlier.trans (List.prefix_append _ _), cursor⟩

/-- A store elsewhere keeps the ring coherent. -/
theorem Coherent.other {memory} (undisturbed : run.ring.Undisturbed run.memory memory) :
    Coherent start { run with memory } := by
  refine { coherent with index := ?_, slots := ?_ }
  · exact undisturbed.index.trans coherent.index
  · intro position head found recent
    exact (undisturbed.slots _).trans (coherent.slots position head found recent)

/-- A popped head is the first which the device has yet to deliver. -/
theorem Coherent.next_delivered {reserved chain}
    (next : run.ring.nextDescriptorChain run.memory reserved = .ok (some chain)) :
    run.outstanding ≤ run.ring.queueSize.toNat ∧
      run.published[run.delivered.length]? = some chain.headIndex := by
  obtain ⟨index, loaded, bounded, nonempty, head⟩ := nextDescriptorChain_eq_ok next
  obtain rfl := Except.ok.inj (coherent.index.symm.trans loaded)
  have ordered := coherent.delivered.length_le
  have near := coherent.near
  rw [coherent.cursor] at bounded nonempty head
  rw [toNat_counter_sub ordered near] at bounded
  refine ⟨bounded, ?_⟩
  have pending : run.delivered.length < run.published.length := by
    refine Nat.lt_of_le_of_ne ordered fun same => nonempty ?_
    rw [same, UInt16.sub_self]
  have slot := coherent.slots _ _ (getElem?_eq_getElem pending) (by omega)
  rw [getElem?_eq_getElem pending, Except.ok.inj (slot.symm.trans head)]

/-- The device finds nothing only when everything was delivered. -/
theorem Coherent.next_none {reserved}
    (next : run.ring.nextDescriptorChain run.memory reserved = .ok none) :
    run.delivered = run.published := by
  obtain ⟨index, loaded, -, empty⟩ := nextDescriptorChain_eq_ok next
  obtain rfl := Except.ok.inj (coherent.index.symm.trans loaded)
  have ordered := coherent.delivered.length_le
  have distance := congrArg UInt16.toNat empty
  rw [coherent.cursor, toNat_counter_sub ordered coherent.near] at distance
  exact coherent.delivered.eq_of_length (Nat.le_antisymm ordered (Nat.le_of_sub_eq_zero distance))

end

theorem concat_prefix_of_getElem? {α : Type*} {first second} {value : α}
    (isPrefix : first <+: second) (next : second[first.length]? = some value) :
    first ++ [value] <+: second := by
  obtain ⟨rest, rfl⟩ := isPrefix
  rw [getElem?_append_right (Nat.le_refl _), Nat.sub_self] at next
  obtain ⟨tail, rfl⟩ : ∃ tail, rest = value :: tail := by
    cases rest with
    | nil => cases next
    | cons head tail => exact ⟨tail, by rw [Option.some.inj next]⟩
  exact ⟨tail, by rw [append_assoc, singleton_append]⟩

section
variable (coherent : Coherent start run)
include coherent

/-- A pop keeps the ring coherent. -/
theorem Coherent.pop (reserved) : Coherent start (run.pop reserved) := by
  unfold RingRun.pop
  split
  case h_1 chain ring popped =>
    obtain ⟨next, rfl⟩ := popDescriptorChain_some popped
    obtain ⟨bounded, head⟩ := coherent.next_delivered next
    have longer := concat_prefix_of_getElem? coherent.delivered head
    have near := coherent.near
    unfold outstanding at bounded near
    constructor
    · exact longer
    · rw [length_append, length_singleton, ← counter_succ, ← coherent.cursor]
    · exact coherent.index
    · exact coherent.slots
    · simp only [outstanding, length_append, length_singleton]
      omega
    · intro _
      simp only [outstanding, length_append, length_singleton]
      omega
    · exact coherent.saved
  case h_2 result ring notChain popped =>
    obtain rfl : ring = run.ring := by
      cases result with
      | error error => exact popDescriptorChain_error popped
      | ok found =>
        cases found with
        | none => exact (popDescriptorChain_none popped).2
        | some chain => exact absurd rfl (notChain chain)
    exact coherent

/-- Only the last pop can be undone, so the cursor goes back to the last delivered
head. -/
theorem Coherent.undo : Coherent start run.undo := by
  unfold RingRun.undo undoPopDescriptorChain
  by_cases undoable : run.ring.canUndoPop = true
  · rw [if_pos undoable]
    obtain ⟨nonempty, bounded⟩ := coherent.undoable undoable
    have small := run.ring.queueSize_le
    unfold outstanding at bounded
    constructor
    · exact ( dropLast_prefix _).trans coherent.delivered
    · have cursor := coherent.cursor
      obtain ⟨count, length⟩ := Nat.exists_eq_succ_of_ne_zero (Nat.ne_of_gt nonempty)
      rw [length] at cursor
      rw [length_dropLast, length, cursor, counter_sub_one]
      rfl
    · exact coherent.index
    · exact coherent.slots
    · simp only [outstanding, length_dropLast]
      omega
    · intro impossible
      cases impossible
    · exact coherent.saved
  · rw [if_neg undoable]
    exact coherent

theorem Coherent.checkpoint : Coherent start run.checkpoint := by
  refine { coherent with saved := ?_ }
  intro saved taken
  rcases mem_cons.mp taken with rfl | earlier
  · exact ⟨coherent.delivered, coherent.cursor⟩
  · exact coherent.saved saved earlier

/-- A restored checkpoint keeps the ring coherent. -/
theorem Coherent.restore {saved} (taken : saved ∈ run.saved)
    (recent : (run.restore saved).outstanding < 2 ^ 16) : Coherent start (run.restore saved) := by
  obtain ⟨earlier, cursor⟩ := coherent.saved saved taken
  refine { coherent with delivered := earlier, cursor := cursor, near := recent, undoable := ?_ }
  intro impossible
  cases impossible

end

/-- Every step keeps the ring coherent. -/
theorem Step.coherent {next} (step : Step run next) (coherent : Coherent start run) :
    Coherent start next := by
  cases step with
  | publish room publishes => exact coherent.publish room publishes
  | other undisturbed => exact coherent.other undisturbed
  | pop reserved => exact coherent.pop reserved
  | undo => exact coherent.undo
  | checkpoint => exact coherent.checkpoint
  | restore taken recent => exact coherent.restore taken recent

/-- Every run keeps the ring coherent. -/
theorem coherent_of_reaches {first} (reaches : Relation.ReflTransGen Step first run)
    (coherent : Coherent start first) : Coherent start run := by
  induction reaches with
  | refl => exact coherent
  | tail _ step ih => exact step.coherent ih

end RingRun

/-- Over every run from a new ring, the device delivers the heads which the driver
published, in their order, each once. A pop either delivers the next of them or
leaves the cursor where it was, and it finds nothing only when nothing is left. -/
theorem availableRing_fifo {descriptorTable availableRing : Nat} {queueSize nextAvail : UInt16}
    {ring : VirtqueueAvailableRing} {memory : GuestMemory} {run : RingRun}
    (options : VirtqueueDescriptorChainOptions)
    (created : VirtqueueAvailableRing.withNextAvail descriptorTable availableRing queueSize
      nextAvail = .ok ring)
    (empty : ring.loadAvailableIndex memory = .ok nextAvail)
    (reaches : Relation.ReflTransGen RingRun.Step
      (.initial (ring.withDescriptorChainOptions options) memory) run) :
    run.delivered <+: run.published ∧ ∀ reserved,
      match run.ring.popDescriptorChain run.memory reserved with
      | (.ok (some chain), _) => run.delivered ++ [chain.headIndex] <+: run.published
      | (.ok none, next) => run.delivered = run.published ∧ next.nextAvail = run.ring.nextAvail
      | (.error _, next) => next.nextAvail = run.ring.nextAvail := by
  have initially : ring.canUndoPop = false ∧ ring.nextAvail = nextAvail := by
    simp only [withNextAvail, bind_eq_ok, pure_eq_ok] at created
    obtain ⟨_, -, rfl⟩ := created
    exact ⟨rfl, rfl⟩
  have atStart : RingRun.Coherent ring.nextAvail
      (.initial (ring.withDescriptorChainOptions options) memory) :=
    @RingRun.Coherent.initial (ring.withDescriptorChainOptions options) memory initially.1
      (by rw [← initially.2] at empty; exact empty)
  have coherent := RingRun.coherent_of_reaches reaches atStart
  refine ⟨coherent.delivered, ?_⟩
  intro reserved
  split
  case h_1 chain next popped =>
    obtain ⟨found, -⟩ := popDescriptorChain_some popped
    exact RingRun.concat_prefix_of_getElem? coherent.delivered (coherent.next_delivered found).2
  case h_2 next popped =>
    obtain ⟨found, rfl⟩ := popDescriptorChain_none popped
    exact ⟨coherent.next_none found, rfl⟩
  case h_3 error next popped =>
    rw [popDescriptorChain_error popped]

/-- A ring of four slots whose index is about to wrap. -/
def wrappingRing : VirtqueueAvailableRing :=
  ⟨0, 0x1000, 4, 0xffff, false, ⟨false⟩, rfl⟩

def idle : GuestMemory := (GuestMemory.booted.writeSlice [0xff, 0xff] 0x1002).2

def headStored : GuestMemory := (idle.writeSlice (leBytes 2 2) (wrappingRing.slotAddress 0xffff)).2

def indexStored : GuestMemory := (headStored.writeSlice (leBytes 2 0) 0x1002).2

theorem idle_wf : idle.Wf := by
  have wrote : booted.writeSlice [0xff, 0xff] 0x1002 = (.ok (), idle) := rfl
  exact (writeSlice_follows booted_wf wrote).wf

theorem idle_publishes : wrappingRing.Publishes idle indexStored 2 := by
  have valid : wrappingRing.validateAvailableRingRange idle = .ok () := rfl
  have loaded : wrappingRing.loadAvailableIndex idle = .ok 0xffff := rfl
  have slot : idle.writeSlice (leBytes 2 2) (wrappingRing.slotAddress 0xffff) =
      (.ok (), headStored) := rfl
  have advance : headStored.writeSlice (leBytes 2 0) 0x1002 = (.ok (), indexStored) := rfl
  exact publishes_of_stores idle_wf valid loaded slot advance

theorem availableRing_fifo_wrap : ∃ run : RingRun,
    Relation.ReflTransGen RingRun.Step (.initial wrappingRing idle) run ∧
      run.ring.nextAvail = 0 ∧ run.delivered = [2] ∧ run.delivered <+: run.published := by
  have reaches : Relation.ReflTransGen RingRun.Step (.initial wrappingRing idle)
      (RingRun.pop ⟨wrappingRing, indexStored, [2], [], []⟩ true) :=
    .tail (.single (.publish (by decide) idle_publishes)) (.pop true)
  refine ⟨_, reaches, rfl, rfl, ?_⟩
  exact (@availableRing_fifo 0 0x1000 4 0xffff wrappingRing idle _ ⟨false⟩ rfl rfl reaches).1

end Bangbang.Virtio
