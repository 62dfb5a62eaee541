import Bangbang.Virtio.DescriptorWalk

/-!
# Publications of the used ring

A publication is a list of stores: the entries of the batch, the event word where it is in
use, and the index. `Stored` says what such a list does to guest memory. A batch and its two
parts store the same entries, and the last event word and index of the parts are the batch's.
-/

namespace Bangbang.Virtio

open Memory GuestMemory List

section
variable {memory middle next : GuestMemory} {stores others : List (Nat × List UInt8)}
  {address : Nat} {value : Option UInt8}

section
variable (stores : List (Nat × List UInt8)) (address : Nat)

/-- The byte of an address after some stores, the oldest first. -/
def written (value : Option UInt8) : Option UInt8 :=
  stores.foldl (fun value store =>
    (MemoryEvent.write store.1 store.2).update (fun _ => false) address value) value

/-- Some store writes an address. -/
def Covered : Prop := ∃ store ∈ stores, store.1 ≤ address ∧ address < store.1 + store.2.length

end

theorem written_append :
    written (stores ++ others) address value =
      written others address (written stores address value) := List.foldl_append

theorem written_uncovered (uncovered : ¬ Covered stores address) :
    written stores address value = value := by
  induction stores generalizing value with
  | nil => rfl
  | cons store stores ih =>
    have first : ¬ (store.1 ≤ address ∧ address < store.1 + store.2.length) :=
      fun inside => uncovered ⟨store, mem_cons_self, inside⟩
    have rest : ¬ Covered stores address := fun ⟨other, member, inside⟩ =>
      uncovered ⟨other, mem_cons_of_mem _ member, inside⟩
    change written stores address (if _ then _ else value) = value
    rw [if_neg first, ih rest]

/-- A written byte does not depend on what stood there. -/
theorem written_covered (covered : Covered stores address) (other) :
    written stores address value = written stores address other := by
  induction stores generalizing value other with
  | nil => exact absurd covered (by simp [Covered])
  | cons store stores ih =>
    change written stores address (if _ then _ else value) =
      written stores address (if _ then _ else other)
    by_cases inside : store.1 ≤ address ∧ address < store.1 + store.2.length
    · rw [if_pos inside, if_pos inside]
    · rw [if_neg inside, if_neg inside]
      refine ih ?_ other
      obtain ⟨found, member, covers⟩ := covered
      rcases mem_cons.mp member with rfl | later
      · exact absurd covers inside
      · exact ⟨found, later, covers⟩

/-- What some stores do to guest memory. -/
structure Stored (memory : GuestMemory) (stores : List (Nat × List UInt8)) (next : GuestMemory) :
    Prop where
  wf : next.Wf
  ranges : ∀ range, range ∈ next.ranges ↔ range ∈ memory.ranges
  value : ∀ address, next.valueAt address = written stores address (memory.valueAt address)

theorem Stored.nothing (wf : memory.Wf) : Stored memory [] memory :=
  ⟨wf, fun _ => Iff.rfl, fun _ => rfl⟩

/-- Stores follow one another. -/
theorem Stored.trans (first : Stored memory stores middle) (second : Stored middle others next) :
    Stored memory (stores ++ others) next where
  wf := second.wf
  ranges range := (second.ranges range).trans (first.ranges range)
  value address := by rw [written_append, second.value, first.value]

theorem Stored.mapped (stored : Stored memory stores next) :
    next.Mapped address ↔ memory.Mapped address :=
  exists_congr fun range => and_congr_left' (stored.ranges range)

variable (wf : memory.Wf)
include wf

/-- A stored address has the last value written to it. -/
theorem Stored.byteAt_eq (stored : Stored memory stores next) (mapped : memory.Mapped address) :
    next.byteAt address = written stores address (memory.byteAt address) := by
  rw [stored.wf.byteAt_eq (stored.mapped.mpr mapped), stored.value, wf.byteAt_eq mapped]

/-- Stores which give an address the same byte. -/
theorem Stored.same_byte {left right} (first : Stored memory stores left)
    (second : Stored memory others right)
    (same : ∀ value, written stores address value = written others address value) :
    left.byteAt address = right.byteAt address := by
  by_cases mapped : memory.Mapped address
  · rw [first.byteAt_eq wf mapped, second.byteAt_eq wf mapped, same]
  · rw [byteAt_eq_none (mt first.mapped.mp mapped), byteAt_eq_none (mt second.mapped.mp mapped)]

/-- An address which is not covered keeps its byte. -/
theorem Stored.untouched (stored : Stored memory stores next)
    (uncovered : ¬ Covered stores address) : next.byteAt address = memory.byteAt address :=
  stored.same_byte wf (.nothing wf) fun _ => written_uncovered uncovered

end

section
variable {old usedEvent : UInt16} {count : Nat}

/-- The driver is notified where its event is among the published indices. -/
theorem needsNotification_iff (small : count < 2 ^ 16) :
    virtqueueEventIdxNeedsNotification old (old + UInt16.ofNat count) usedEvent = true ↔
      ∃ index < count, usedEvent = old + UInt16.ofNat index := by
  -- The event lies some distance after the first index, and both sides say that it is short.
  have counted : (UInt16.ofNat count).toNat = count := UInt16.toNat_ofNat_of_lt small
  have oldSmall := old.toNat_lt
  have eventSmall := usedEvent.toNat_lt
  have short : virtqueueEventIdxNeedsNotification old (old + UInt16.ofNat count) usedEvent = true ↔
      (2 ^ 16 - old.toNat + usedEvent.toNat) % 2 ^ 16 < count := by
    rw [virtqueueEventIdxNeedsNotification, decide_eq_true_iff, UInt16.lt_iff_toNat_lt]
    simp only [UInt16.toNat_sub, UInt16.toNat_add, UInt16.toNat_one, counted]
    omega
  rw [short]
  constructor
  · intro below
    refine ⟨_, below, UInt16.toNat_inj.mp ?_⟩
    rw [UInt16.toNat_add, UInt16.toNat_ofNat']
    omega
  · rintro ⟨index, below, rfl⟩
    rw [UInt16.toNat_add, UInt16.toNat_ofNat']
    omega

end

namespace VirtqueueUsedRing

variable {ring : VirtqueueUsedRing} {memory next : GuestMemory}
  {elements xs ys : List (UInt16 × UInt32)} {suppression : VirtqueueNotificationSuppression}

theorem queueSize_pos (ring : VirtqueueUsedRing) : 0 < ring.queueSize.toNat := by
  have placed := ring.placed
  simp only [validateUsedPlacement, bind_eq_ok, rejectIf_eq_ok] at placed
  obtain ⟨_, valid, -⟩ := placed
  obtain ⟨exponent, -, size⟩ : ∃ exponent < 16, ring.queueSize.toNat = 2 ^ exponent := by
    simpa [isValidQueueSize] using valid
  rw [size]
  exact Nat.two_pow_pos exponent

/-- A ring is mapped when all of it is covered. -/
theorem validateMapped_eq_ok (wf : memory.Wf) :
    ring.validateMapped memory = .ok () ↔
      ring.usedRing + (4 + ring.queueSize.toNat * 8 + 2) < wordLimit ∧
        Covers memory.ranges ring.usedRing
          (ring.usedRing + (4 + ring.queueSize.toNat * 8 + 2)) := by
  simp only [validateMapped, usedRingRange, usedRingSize, bind_eq_ok, okOr_eq_ok,
    checkedAdd_eq_some, pure_eq_ok, mapError_eq_ok, validateMappedRange_eq_ok wf]
  constructor
  · rintro ⟨range, ⟨_, ⟨_, ⟨bounded, -⟩, rfl⟩, made⟩, covered⟩
    obtain ⟨start, size⟩ := GuestMemoryRange.new_eq_ok made
    rw [GuestMemoryRange.endExclusive, start, size] at covered
    exact ⟨bounded, covered⟩
  · rintro ⟨bounded, covered⟩
    refine ⟨⟨_, _, Nat.succ_pos _, bounded⟩, ⟨_, ⟨_, ⟨bounded, rfl⟩, rfl⟩, ?_⟩, covered⟩
    rw [GuestMemoryRange.new, dif_neg (Nat.succ_ne_zero _), dif_pos bounded]

/-- A store keeps the ring mapped. -/
theorem validateMapped_stored {stores} (wf : memory.Wf)
    (mapped : ring.validateMapped memory = .ok ()) (stored : Stored memory stores next) :
    ring.validateMapped next = .ok () := by
  obtain ⟨bounded, covered⟩ := (validateMapped_eq_ok wf).mp mapped
  exact (validateMapped_eq_ok stored.wf).mpr
    ⟨bounded, fun address above below => stored.mapped.mpr (covered address above below)⟩

section

/-- The entries of a batch, from the slot of an index on. -/
def entries (ring : VirtqueueUsedRing) (index : UInt16) :
    List (UInt16 × UInt32) → List (Nat × List UInt8)
  | [] => []
  | (descriptorHead, len) :: elements =>
    (ring.usedRing + ((index % ring.queueSize).toNat * 8 + 4),
      leBytes 4 descriptorHead.toNat ++ leBytes 4 len.toNat) :: ring.entries (index + 1) elements

section
variable (ring : VirtqueueUsedRing) (elements : List (UInt16 × UInt32))

/-- The event word, where it is in use, and the index. -/
def closing (nextUsed : UInt16) : VirtqueueNotificationSuppression → List (Nat × List UInt8)
  | .disabled => [(ring.usedRing + 2, leBytes 2 nextUsed.toNat)]
  | .eventIdx _ availEvent =>
    [(ring.usedRing + (ring.queueSize.toNat * 8 + 4), leBytes 2 availEvent.toNat),
      (ring.usedRing + 2, leBytes 2 nextUsed.toNat)]

/-- The ring after a batch. -/
def advance : VirtqueueUsedRing :=
  { ring with nextUsed := ring.nextUsed + UInt16.ofNat elements.length }

/-- The stores of a publication. -/
def publication (suppression : VirtqueueNotificationSuppression) : List (Nat × List UInt8) :=
  ring.entries ring.nextUsed elements ++ ring.closing (ring.advance elements).nextUsed suppression

/-- Whether a batch asks for an interrupt. -/
def notifies : VirtqueueNotificationSuppression → Bool
  | .disabled => true
  | .eventIdx usedEvent _ =>
    virtqueueEventIdxNeedsNotification ring.nextUsed (ring.advance elements).nextUsed usedEvent

end

theorem entries_append (index) :
    ring.entries index (xs ++ ys) =
      ring.entries index xs ++ ring.entries (index + UInt16.ofNat xs.length) ys := by
  induction xs generalizing index with
  | nil => simp [entries]
  | cons element xs ih =>
    obtain ⟨descriptorHead, len⟩ := element
    rw [cons_append, entries, entries, ih, cons_append, length_cons,
      Nat.add_comm xs.length 1, UInt16.ofNat_add, UInt16.add_assoc]
    rfl

theorem advance_append : ring.advance (xs ++ ys) = (ring.advance xs).advance ys := by
  simp only [advance, length_append, UInt16.ofNat_add, UInt16.add_assoc]

theorem entries_advance (index) : (ring.advance xs).entries index ys = ring.entries index ys := by
  induction ys generalizing index with
  | nil => rfl
  | cons element ys ih =>
    rw [entries, entries, ih]
    rfl

theorem closing_advance (nextUsed) :
    (ring.advance xs).closing nextUsed suppression = ring.closing nextUsed suppression := by
  cases suppression <;> rfl

theorem closing_covered (first second) {address} :
    Covered (ring.closing first suppression) address ↔
      Covered (ring.closing second suppression) address := by
  cases suppression <;> simp [closing, Covered]

/-- A batch stores what its two parts store. -/
theorem publication_append (address value) :
    written (ring.publication (xs ++ ys) suppression) address value =
      written (ring.publication xs suppression ++ (ring.advance xs).publication ys suppression)
        address value := by
  simp only [publication, entries_append, advance_append, entries_advance, closing_advance,
    written_append]
  by_cases covered : Covered (ring.closing (ring.advance xs).nextUsed suppression) address
  · exact written_covered ((closing_covered _ _).mp covered) _
  · rw [@written_uncovered (ring.closing (ring.advance xs).nextUsed suppression) _ _ covered]
    rfl

section
variable (wf : memory.Wf)
include wf

section
variable (mapped : ring.validateMapped memory = .ok ())
include mapped

/-- A store within the ring succeeds. -/
theorem storeAt_stored {offset bytes}
    (fits : offset + bytes.length ≤ 4 + ring.queueSize.toNat * 8 + 2) :
    ∃ next, ring.storeAt memory offset bytes = (.ok (), next) ∧
      Stored memory [(ring.usedRing + offset, bytes)] next := by
  obtain ⟨bounded, covered⟩ := (validateMapped_eq_ok wf).mp mapped
  have located : ring.offsetAddress offset = .ok (ring.usedRing + offset) := by
    rw [offsetAddress, okOr_eq_ok, checkedAdd_eq_some]
    exact ⟨by omega, rfl⟩
  obtain ⟨next, wrote⟩ := @GuestMemory.Wf.writeSlice_covered _ bytes (ring.usedRing + offset) wf
    (by omega) fun address above below => covered address (by omega) (by omega)
  have follows := writeSlice_follows wf wrote
  refine ⟨next, ?_, follows.wf, follows.ranges, follows.value⟩
  rw [storeAt, located]
  dsimp only
  rw [wrote]

/-- The elements are written into their slots. -/
theorem writeElements_stored (elementIndex : UInt16) :
    ∃ next, ring.writeElements memory elementIndex elements = (.ok (), next) ∧
      Stored memory (ring.entries (ring.nextUsed + elementIndex) elements) next := by
  induction elements generalizing memory elementIndex with
  | nil => exact ⟨memory, rfl, .nothing wf⟩
  | cons element elements ih =>
    obtain ⟨descriptorHead, len⟩ := element
    have slot : ((ring.nextUsed + elementIndex) % ring.queueSize).toNat <
        ring.queueSize.toNat := by
      exact Nat.mod_lt _ ring.queueSize_pos
    obtain ⟨middle, wrote, first⟩ := @storeAt_stored ring memory wf mapped
      (((ring.nextUsed + elementIndex) % ring.queueSize).toNat * 8 + 4)
      (leBytes 4 descriptorHead.toNat ++ leBytes 4 len.toNat)
      (by rw [length_append, length_leBytes, length_leBytes]; omega)
    obtain ⟨next, rest, others⟩ := ih first.wf (validateMapped_stored wf mapped first)
      (elementIndex + 1)
    refine ⟨next, ?_, ?_⟩
    · rw [writeElements, wrote]
      exact rest
    · rw [← UInt16.add_assoc] at others
      exact first.trans others

/-- The suppression is written before the index. -/
theorem writeSuppression_stored :
    ∃ stores middle, ring.writeSuppression memory (ring.advance elements).nextUsed suppression =
        (.ok (ring.notifies elements suppression), middle) ∧ Stored memory stores middle ∧
      ring.closing (ring.advance elements).nextUsed suppression =
        stores ++ [(ring.usedRing + 2, leBytes 2 (ring.advance elements).nextUsed.toNat)] := by
  cases suppression with
  | disabled => exact ⟨[], memory, rfl, .nothing wf, rfl⟩
  | eventIdx usedEvent availEvent =>
    obtain ⟨middle, wrote, stored⟩ := @storeAt_stored ring memory wf mapped
      (ring.queueSize.toNat * 8 + 4) (leBytes 2 availEvent.toNat)
      (by rw [length_leBytes]; omega)
    refine ⟨_, middle, ?_, stored, rfl⟩
    rw [writeSuppression, wrote]
    rfl

end

/-- A publication whose validation succeeds is its stores. -/
theorem publishUsedElements_stored (valid : ring.validatePublication memory elements = .ok ()) :
    ∃ next, ring.publishUsedElementsWithNotification memory elements suppression =
        (.ok ⟨ring.notifies elements suppression⟩, next, ring.advance elements) ∧
      Stored memory (ring.publication elements suppression) next := by
  have mapped : ring.validateMapped memory = .ok () := by
    simp only [validatePublication, bind_eq_ok] at valid
    obtain ⟨_, -, _, -, mapped⟩ := valid
    exact mapped
  obtain ⟨first, wroteElements, entriesStored⟩ := @writeElements_stored ring memory elements wf
    mapped 0
  have stillMapped := validateMapped_stored wf mapped entriesStored
  obtain ⟨stores, second, wroteEvent, eventStored, closes⟩ :=
    @writeSuppression_stored ring first elements suppression entriesStored.wf stillMapped
  obtain ⟨next, wroteIndex, indexStored⟩ := @storeAt_stored ring second eventStored.wf
    (validateMapped_stored entriesStored.wf stillMapped eventStored) 2
    (leBytes 2 (ring.advance elements).nextUsed.toNat) (by rw [length_leBytes]; omega)
  refine ⟨next, ?_, ?_⟩
  · rw [publishUsedElementsWithNotification, valid]
    rw [wroteElements]
    dsimp only
    rw [show ring.nextUsed + UInt16.ofNat elements.length = (ring.advance elements).nextUsed
      from rfl, wroteEvent]
    dsimp only
    rw [wroteIndex]
    rfl
  · rw [publication, closes, ← append_assoc]
    have all := (entriesStored.trans eventStored).trans indexStored
    rwa [UInt16.add_zero] at all

end

/-- A publication which is refused changes nothing. -/
theorem publishUsedElements_refused {error}
    (refused : ring.validatePublication memory elements = .error error) :
    ring.publishUsedElementsWithNotification memory elements suppression =
      (.error error, memory, ring) := by
  rw [publishUsedElementsWithNotification, refused]

/-- A publication is accepted when it fits the ring. -/
theorem validatePublication_eq_ok :
    ring.validatePublication memory elements = .ok () ↔
      elements ≠ [] ∧ elements.length ≤ ring.queueSize.toNat ∧
        (∀ element ∈ elements, element.1 < ring.queueSize) ∧
        ring.validateMapped memory = .ok () := by
  simp only [validatePublication, bind_eq_ok, rejectIf_eq_ok, forM_eq_ok, not_not, Bool.or_eq_true,
    List.isEmpty_iff, decide_eq_true_iff, not_or, Nat.not_lt]
  constructor
  · rintro ⟨_, ⟨nonempty, short⟩, _, heads, mapped⟩
    exact ⟨nonempty, short, heads, mapped⟩
  · rintro ⟨nonempty, short, heads, mapped⟩
    exact ⟨(), ⟨nonempty, short⟩, (), heads, mapped⟩

variable {usedEvent availEvent : UInt16}

/-- The driver is notified when its event is passed. -/
theorem notifies_iff (short : elements.length ≤ ring.queueSize.toNat) :
    ring.notifies elements (.eventIdx usedEvent availEvent) = true ↔
      ∃ index < elements.length, usedEvent = ring.nextUsed + UInt16.ofNat index :=
  needsNotification_iff (Nat.lt_of_le_of_lt short ring.queueSize.toNat_lt)

/-- The indices of a batch are those of its parts. -/
theorem notifies_append (short : (xs ++ ys).length ≤ ring.queueSize.toNat) :
    ring.notifies (xs ++ ys) (.eventIdx usedEvent availEvent) = true ↔
      ring.notifies xs (.eventIdx usedEvent availEvent) = true ∨
        (ring.advance xs).notifies ys (.eventIdx usedEvent availEvent) = true := by
  rw [notifies_iff short]
  rw [length_append] at short ⊢
  have second : ys.length ≤ (ring.advance xs).queueSize.toNat :=
    Nat.le_trans (Nat.le_add_left _ _) short
  rw [notifies_iff (by omega), notifies_iff second]
  constructor
  · rintro ⟨index, below, rfl⟩
    by_cases early : index < xs.length
    · exact .inl ⟨index, early, rfl⟩
    · refine .inr ⟨index - xs.length, by omega, ?_⟩
      rw [advance, UInt16.add_assoc, ← UInt16.ofNat_add, Nat.add_sub_of_le (by omega)]
  · rintro (⟨index, below, rfl⟩ | ⟨index, below, rfl⟩)
    · exact ⟨index, by omega, rfl⟩
    · refine ⟨xs.length + index, by omega, ?_⟩
      rw [advance, UInt16.add_assoc, UInt16.ofNat_add]

/-- An empty batch is refused. -/
theorem publishUsedElements_empty :
    ring.publishUsedElementsWithNotification memory [] suppression =
      (.error (.invalidElementCount 0 ring.queueSize), memory, ring) := rfl

end
end VirtqueueUsedRing

section

open VirtqueueUsedRing

variable {ring : VirtqueueUsedRing} {memory : GuestMemory} {xs ys : List (UInt16 × UInt32)}

/-- A batch and its two nonempty parts, one after the other. -/
theorem publishUsedElements_parts (wf : memory.Wf) (mapped : ring.validateMapped memory = .ok ())
    (short : (xs ++ ys).length ≤ ring.queueSize.toNat)
    (heads : ∀ element ∈ xs ++ ys, element.1 < ring.queueSize) (someFirst : xs ≠ [])
    (someSecond : ys ≠ []) (suppression) :
    ∃ whole middle parts,
      ring.publishUsedElementsWithNotification memory (xs ++ ys) suppression =
        (.ok ⟨ring.notifies (xs ++ ys) suppression⟩, whole, ring.advance (xs ++ ys)) ∧
      ring.publishUsedElementsWithNotification memory xs suppression =
        (.ok ⟨ring.notifies xs suppression⟩, middle, ring.advance xs) ∧
      (ring.advance xs).publishUsedElementsWithNotification middle ys suppression =
        (.ok ⟨(ring.advance xs).notifies ys suppression⟩, parts, ring.advance (xs ++ ys)) ∧
      ∀ address, whole.byteAt address = parts.byteAt address := by
  rw [length_append] at short
  have firstHeads : ∀ element ∈ xs, element.1 < ring.queueSize :=
    fun element member => heads element (mem_append_left _ member)
  have secondHeads : ∀ element ∈ ys, element.1 < ring.queueSize :=
    fun element member => heads element (mem_append_right _ member)
  obtain ⟨whole, published, stored⟩ := @publishUsedElements_stored ring memory
    (xs ++ ys) suppression wf (validatePublication_eq_ok.mpr
      ⟨by simp [someFirst], by rwa [length_append], heads, mapped⟩)
  obtain ⟨middle, first, firstStored⟩ := @publishUsedElements_stored ring memory
    xs suppression wf (validatePublication_eq_ok.mpr ⟨someFirst, by omega, firstHeads, mapped⟩)
  have stillMapped : (ring.advance xs).validateMapped middle = .ok () :=
    validateMapped_stored wf mapped firstStored
  obtain ⟨parts, second, secondStored⟩ := @publishUsedElements_stored
    (ring.advance xs) middle ys suppression firstStored.wf
    (validatePublication_eq_ok.mpr
      ⟨someSecond, Nat.le_trans (Nat.le_add_left _ _) short, secondHeads, stillMapped⟩)
  rw [← advance_append] at second
  refine ⟨whole, middle, parts, published, first, second, fun address => ?_⟩
  exact stored.same_byte wf (firstStored.trans secondStored)
    (publication_append address)

/-- A ring of four entries whose index is about to wrap. -/
def wrappingUsedRing : VirtqueueUsedRing := ⟨0x1000, 4, 0xffff, rfl⟩

/-- A batch is validated as a whole: its first part alone is published. -/
theorem publishUsedElements_invalidPart :
    let first := wrappingUsedRing.publishUsedElementsWithNotification GuestMemory.booted [(0, 1)]
      .disabled
    (wrappingUsedRing.publishUsedElementsWithNotification GuestMemory.booted ([(0, 1)] ++ [(9, 1)])
      .disabled).2.2 ≠
      (first.2.2.publishUsedElementsWithNotification first.2.1 [(9, 1)] .disabled).2.2 := by
  decide

/-- Publications compose. With a mapped ring and a batch of heads of the queue, the batch leaves
the memory and the ring which its two parts leave. A publication changes no byte apart from its
entries, its event word, and the index, and nothing where its validation fails. It notifies where
the driver's event is among the published indices, so a batch notifies where one of its parts
does. -/
theorem publishUsedElements_compose (ring : VirtqueueUsedRing) (memory : GuestMemory)
    (wf : memory.Wf) (mapped : ring.validateMapped memory = .ok ()) :
    (∀ xs ys suppression, (xs ++ ys).length ≤ ring.queueSize.toNat →
      (∀ element ∈ xs ++ ys, element.1 < ring.queueSize) →
      let whole := ring.publishUsedElementsWithNotification memory (xs ++ ys) suppression
      let first := ring.publishUsedElementsWithNotification memory xs suppression
      let second := first.2.2.publishUsedElementsWithNotification first.2.1 ys suppression
      (∀ address, whole.2.1.byteAt address = second.2.1.byteAt address) ∧ whole.2.2 = second.2.2) ∧
    (∀ elements suppression address, ¬ Covered (ring.publication elements suppression) address →
      (ring.publishUsedElementsWithNotification memory elements suppression).2.1.byteAt address =
        memory.byteAt address) ∧
    (∀ elements suppression error, ring.validatePublication memory elements = .error error →
      ring.publishUsedElementsWithNotification memory elements suppression =
        (.error error, memory, ring)) ∧
    (∀ elements usedEvent availEvent publication next after,
      ring.publishUsedElementsWithNotification memory elements (.eventIdx usedEvent availEvent) =
        (.ok publication, next, after) → (publication.needsQueueInterrupt = true ↔
        ∃ index < elements.length, usedEvent = ring.nextUsed + UInt16.ofNat index)) ∧
    (∀ xs ys usedEvent availEvent, xs ≠ [] → ys ≠ [] → (xs ++ ys).length ≤ ring.queueSize.toNat →
      (∀ element ∈ xs ++ ys, element.1 < ring.queueSize) →
      ∃ batch first second : VirtqueueUsedRingPublication,
        let suppression := VirtqueueNotificationSuppression.eventIdx usedEvent availEvent
        let whole := ring.publishUsedElementsWithNotification memory (xs ++ ys) suppression
        let part := ring.publishUsedElementsWithNotification memory xs suppression
        whole.1 = .ok batch ∧ part.1 = .ok first ∧
          (part.2.2.publishUsedElementsWithNotification part.2.1 ys suppression).1 = .ok second ∧
          (batch.needsQueueInterrupt = true ↔
            first.needsQueueInterrupt = true ∨ second.needsQueueInterrupt = true)) := by
  have refused : ∀ elements suppression error,
      ring.validatePublication memory elements = .error error →
      ring.publishUsedElementsWithNotification memory elements suppression =
        (.error error, memory, ring) :=
    fun _ _ _ => publishUsedElements_refused
  refine ⟨?_, ?_, refused, ?_, ?_⟩
  · intro xs ys suppression short heads whole first second
    by_cases noFirst : xs = []
    · subst noFirst
      exact ⟨fun _ => rfl, rfl⟩
    by_cases noSecond : ys = []
    · subst noSecond
      refine ⟨fun _ => ?_, ?_⟩ <;>
        simp only [second, whole, first, publishUsedElements_empty, append_nil]
    obtain ⟨_, _, _, published, one, two, same⟩ :=
      publishUsedElements_parts wf mapped short heads noFirst noSecond suppression
    simp only [second, whole, first, published, one, two]
    exact ⟨same, trivial⟩
  · intro elements suppression address uncovered
    cases valid : ring.validatePublication memory elements with
    | error error => rw [refused _ _ _ valid]
    | ok =>
      obtain ⟨next, published, stored⟩ :=
        @publishUsedElements_stored ring memory elements suppression wf valid
      rw [published]
      exact stored.untouched wf uncovered
  · intro elements usedEvent availEvent publication next after published
    cases valid : ring.validatePublication memory elements with
    | error error =>
      rw [refused _ _ _ valid] at published
      cases published
    | ok =>
      obtain ⟨_, done, -⟩ := @publishUsedElements_stored ring memory elements
        (.eventIdx usedEvent availEvent) wf valid
      obtain ⟨-, short, -⟩ := validatePublication_eq_ok.mp valid
      rw [done] at published
      obtain rfl := Except.ok.inj (Prod.mk.inj published).1
      exact @notifies_iff ring elements usedEvent availEvent short
  · intro xs ys usedEvent availEvent someFirst someSecond short heads
    obtain ⟨_, _, _, published, one, two, -⟩ := publishUsedElements_parts wf mapped short heads
      someFirst someSecond (.eventIdx usedEvent availEvent)
    refine ⟨⟨ring.notifies (xs ++ ys) (.eventIdx usedEvent availEvent)⟩,
      ⟨ring.notifies xs (.eventIdx usedEvent availEvent)⟩,
      ⟨(ring.advance xs).notifies ys (.eventIdx usedEvent availEvent)⟩, ?_, ?_, ?_,
      @notifies_append ring xs ys usedEvent availEvent short⟩
    · rw [published]
    · rw [one]
    · rw [one]
      rw [two]

/-- A batch of two entries over the wrap of the index. -/
theorem publishUsedElements_compose_wrap :
    let first := wrappingUsedRing.publishUsedElementsWithNotification GuestMemory.booted [(0, 1)]
      (.eventIdx 0 0)
    (wrappingUsedRing.publishUsedElementsWithNotification GuestMemory.booted ([(0, 1)] ++ [(1, 2)])
      (.eventIdx 0 0)).2.2 =
      (first.2.2.publishUsedElementsWithNotification first.2.1 [(1, 2)] (.eventIdx 0 0)).2.2 := by
  exact ((publishUsedElements_compose wrappingUsedRing booted booted_wf rfl).1
    [(0, 1)] [(1, 2)] (.eventIdx 0 0) (by decide) (by simp [wrappingUsedRing])).2

end
end Bangbang.Virtio
