import Bangbang.Memory.MemoryHistory
import Bangbang.Virtio.Queue

/-!
# Descriptor chains are walked link by link

`Leads` follows the links of one descriptor table. A chain ends at the first descriptor which
is indirect or has no link, and since a table holds one descriptor at an index, it ends at
most once and never passes an index again. What `readDescriptorChainWithOptions` returns is
what these links lead through, in the queue's table and in at most one indirect table.
-/

namespace Bangbang.Virtio

open Memory GuestMemory List

section
variable (memory : GuestMemory) (table : Nat) (size : UInt16)

/-- A direct descriptor which links to an index of its table. -/
structure Link (index : UInt16) (descriptor : VirtqueueDescriptor) (next : UInt16) : Prop where
  read : readDescriptor memory table size index = .ok descriptor
  direct : descriptor.isIndirect = false
  linked : descriptor.nextIndex = some next
  inside : next < size

/-- The descriptors which the links lead through, from one index to another. -/
inductive Leads : UInt16 → List VirtqueueDescriptor → UInt16 → Prop where
  | here (index : UInt16) : Leads index [] index
  | next {index middle last descriptor descriptors}
      (link : Link memory table size index descriptor middle) (rest : Leads middle descriptors last) :
      Leads index (descriptor :: descriptors) last

/-- The links lead to a descriptor which has none, or which is indirect. -/
def Ends (index : UInt16) (before : List VirtqueueDescriptor) (last : VirtqueueDescriptor) : Prop :=
  ∃ stop, Leads memory table size index before stop ∧
    readDescriptor memory table size stop = .ok last ∧
    (last.isIndirect = true ∨ last.nextIndex = none)

/-- The links come back to an index. -/
def Cyclic (index : UInt16) : Prop :=
  ∃ before again loop, Leads memory table size index before again ∧ loop ≠ [] ∧
    Leads memory table size again loop again

variable {memory table size index again before loop last descriptor}

theorem readDescriptor_index (read : readDescriptor memory table size index = .ok descriptor) :
    descriptor.index = index := by
  simp only [readDescriptor, bind_eq_ok, pure_eq_ok] at read
  obtain ⟨_, -, _, -, rfl⟩ := read
  rfl

variable {descriptors}

section
variable (ends : Ends memory table size index before last)
include ends

/-- A chain passes whatever its links lead to. -/
theorem Ends.split {middle} (leads : Leads memory table size index descriptors middle) :
    ∃ rest, before = descriptors ++ rest ∧ Ends memory table size middle rest last := by
  induction leads generalizing before with
  | here => exact ⟨before, rfl, ends⟩
  | next link _ ih =>
    obtain ⟨stop, walked, read, stops⟩ := ends
    cases walked with
    | here =>
      -- The chain stops here, and a descriptor which links does not stop.
      obtain rfl := Except.ok.inj (link.read.symm.trans read)
      rcases stops with indirect | unlinked
      · exact absurd (link.direct.symm.trans indirect) (by decide)
      · cases link.linked.symm.trans unlinked
    | next first rest =>
      obtain rfl := Except.ok.inj (link.read.symm.trans first.read)
      obtain rfl := Option.some.inj (link.linked.symm.trans first.linked)
      obtain ⟨others, rfl, found⟩ := ih ⟨stop, rest, read, stops⟩
      exact ⟨others, rfl, found⟩

/-- A chain which ends has no loop. -/
theorem Ends.no_loop (looped : Leads memory table size index loop index) : loop = [] := by
  -- A loop could be passed again and again, each time with less of the chain ahead.
  induction counted : before.length using Nat.strong_induction_on generalizing before with
  | h length ih =>
    obtain ⟨rest, parts, still⟩ := ends.split looped
    by_contra nonempty
    have shorter : rest.length < length := by
      rw [← counted, parts, length_append]
      exact Nat.lt_add_of_pos_left (length_pos_iff.mpr nonempty)
    exact nonempty (ih rest.length shorter still rfl)

/-- A chain which ends is not cyclic. -/
theorem Ends.not_cyclic : ¬ Cyclic memory table size index := by
  rintro ⟨first, again, loop, leads, nonempty, looped⟩
  obtain ⟨rest, -, still⟩ := ends.split leads
  exact nonempty (still.no_loop looped)

/-- The links from an index end at one descriptor. -/
theorem Ends.last_eq {others other} (ends' : Ends memory table size index others other) :
    last = other := by
  obtain ⟨stop, leads, read, stops⟩ := ends'
  obtain ⟨rest, -, _, walked, found, -⟩ := ends.split leads
  cases walked with
  | here => exact Except.ok.inj (found.symm.trans read)
  | next link =>
    obtain rfl := Except.ok.inj (link.read.symm.trans read)
    rcases stops with indirect | unlinked
    · exact absurd (link.direct.symm.trans indirect) (by decide)
    · cases link.linked.symm.trans unlinked

end

/-- A chain goes on behind its first link. -/
theorem Ends.cons {next} (link : Link memory table size index descriptor next) :
    Ends memory table size index (descriptor :: before) last ↔
      Ends memory table size next before last := by
  constructor
  · intro ends
    obtain ⟨rest, parts, found⟩ := ends.split (.next link (.here next))
    obtain rfl := tail_eq_of_cons_eq parts
    exact found
  · rintro ⟨stop, leads, found⟩
    exact ⟨stop, .next link leads, found⟩

/-- The links lead to every descriptor which they pass. -/
theorem Leads.to_mem {stop} (leads : Leads memory table size index descriptors stop)
    (member : descriptor ∈ descriptors) :
    ∃ first, Leads memory table size index first descriptor.index := by
  induction leads with
  | here => cases member
  | next link _ ih =>
    rcases mem_cons.mp member with rfl | later
    · exact ⟨[], readDescriptor_index link.read ▸ .here _⟩
    · obtain ⟨first, found⟩ := ih later
      exact ⟨_, .next link found⟩

/-- A chain passes no index twice. -/
theorem Ends.nodup (ends : Ends memory table size index before last) :
    ((before ++ [last]).map (·.index)).Nodup := by
  obtain ⟨stop, leads, read, stops⟩ := id ends
  induction leads with
  | here => simp
  | next link rest ih =>
    have tail := (Ends.cons link).mp ends
    rw [cons_append, map_cons, nodup_cons]
    refine ⟨fun member => ?_, ih tail read⟩
    obtain ⟨descriptor, isLater, same⟩ := mem_map.mp member
    obtain ⟨first, back⟩ : ∃ first, Leads memory table size _ first descriptor.index := by
      rcases mem_append.mp isLater with inside | isLast
      · exact rest.to_mem inside
      · rw [mem_singleton.mp isLast, readDescriptor_index read]
        exact ⟨_, rest⟩
    rw [same, readDescriptor_index link.read] at back
    cases ends.no_loop (.next link back)

/-- What a walk of one table does. -/
theorem walkDescriptors_eq_ok {headIndex queueSize onIndirect limit passed chain} :
    walkDescriptors memory table size headIndex queueSize onIndirect limit index passed =
        .ok chain ↔
      ∃ before last, Ends memory table size index before last ∧ before.length < limit ∧
        (last.isIndirect = true ∧ onIndirect last (passed ++ before) = .ok chain ∨
          last.isIndirect = false ∧ chain = ⟨headIndex, passed ++ (before ++ [last])⟩) := by
  induction limit generalizing index passed with
  | zero => simp [walkDescriptors]
  | succ limit ih =>
    rw [walkDescriptors, bind_eq_ok]
    constructor
    · rintro ⟨descriptor, read, found⟩
      split at found
      case isTrue indirect =>
        refine ⟨[], descriptor, ⟨index, .here _, read, .inl indirect⟩, Nat.succ_pos _,
          .inl ⟨indirect, ?_⟩⟩
        rwa [append_nil]
      case isFalse direct =>
        have plain : descriptor.isIndirect = false := by simpa using direct
        split at found
        case h_1 unlinked =>
          exact ⟨[], descriptor, ⟨index, .here _, read, .inr unlinked⟩, Nat.succ_pos _,
            .inr ⟨plain, (pure_eq_ok.mp found).symm⟩⟩
        case h_2 next linked =>
          split at found
          case isFalse => cases found
          case isTrue inside =>
            obtain ⟨before, last, ends, short, outcome⟩ := ih.mp found
            refine ⟨descriptor :: before, last,
              (Ends.cons ⟨read, plain, linked, inside⟩).mpr ends, Nat.succ_lt_succ short, ?_⟩
            rwa [append_assoc, append_assoc] at outcome
    · rintro ⟨before, last, ends, short, outcome⟩
      obtain ⟨stop, leads, read, stops⟩ := id ends
      cases leads with
      | here =>
        refine ⟨last, read, ?_⟩
        rcases outcome with ⟨indirect, found⟩ | ⟨plain, rfl⟩
        · rw [if_pos indirect]
          rwa [append_nil] at found
        · have unlinked : last.nextIndex = none :=
            stops.resolve_left (by rw [plain]; decide)
          rw [if_neg (by rw [plain]; decide), unlinked]
          rfl
      | next link rest =>
        refine ⟨_, link.read, ?_⟩
        rw [if_neg (by rw [link.direct]; decide), link.linked]
        dsimp only
        rw [if_pos link.inside]
        refine ih.mpr ⟨_, last, (Ends.cons link).mp ends, Nat.lt_of_succ_lt_succ short, ?_⟩
        rwa [append_assoc, append_assoc]

end

section
variable (memory : GuestMemory) (table : Nat) (queueSize headIndex : UInt16)
  (options : VirtqueueDescriptorChainOptions)

/-- The placement of a queue's table and the index of a head in it. -/
structure Usable : Prop where
  validSize : isValidQueueSize queueSize = true
  aligned : table % virtqueueDescriptorAlignment = 0
  mapped : validateDescriptorTableRange memory table queueSize = .ok ()
  inside : headIndex < queueSize

/-- The rules on an indirect descriptor after some direct ones. -/
structure Enters (passed : Nat) (entry : VirtqueueDescriptor) : Prop where
  enabled : options.indirectDescriptors = true
  unlinked : entry.hasNext = false
  nonempty : entry.len ≠ 0
  whole : entry.len % virtqueueDescriptorSize = 0
  fits : passed + entry.len / virtqueueDescriptorSize ≤ queueSize.toNat
  aligned : entry.address % virtqueueDescriptorAlignment = 0
  mapped : ∃ range, GuestMemoryRange.new entry.address entry.len = .ok range ∧
    memory.validateMappedRange range = .ok ()

/-- The descriptors of a chain: those of the queue's table, and those of an indirect one. -/
inductive Resolves : List VirtqueueDescriptor → List VirtqueueDescriptor → Prop where
  | direct {before last} (ends : Ends memory table queueSize headIndex before last)
      (plain : last.isIndirect = false) (short : before.length + 1 ≤ queueSize.toNat) :
      Resolves (before ++ [last]) []
  | indirect {before inner entry last} (ends : Ends memory table queueSize headIndex before entry)
      (isIndirect : entry.isIndirect = true) (short : before.length + 1 ≤ queueSize.toNat)
      (enters : Enters memory queueSize options before.length entry)
      (inside : Ends memory entry.address (UInt16.ofNat (entry.len / virtqueueDescriptorSize)) 0
        inner last) (plain : last.isIndirect = false)
      (innerShort : inner.length + 1 ≤ entry.len / virtqueueDescriptorSize) :
      Resolves before (inner ++ [last])

/-- The links from a head come back to an index, in the queue's table or in the indirect one
which they end at. -/
inductive Loops : Prop where
  | direct (cyclic : Cyclic memory table queueSize headIndex)
  | indirect {before entry} (ends : Ends memory table queueSize headIndex before entry)
      (isIndirect : entry.isIndirect = true)
      (cyclic : Cyclic memory entry.address
        (UInt16.ofNat (entry.len / virtqueueDescriptorSize)) 0)

variable {memory table queueSize headIndex options}

theorem validateIndirectDescriptorTable_eq_ok {entry tableSize} :
    validateIndirectDescriptorTable memory headIndex entry queueSize = .ok tableSize ↔
      (entry.len ≠ 0 ∧ entry.len % virtqueueDescriptorSize = 0) ∧
      entry.len / virtqueueDescriptorSize ≤ queueSize.toNat ∧
      entry.address % virtqueueDescriptorAlignment = 0 ∧
      (∃ range, GuestMemoryRange.new entry.address entry.len = .ok range ∧
        memory.validateMappedRange range = .ok ()) ∧
      tableSize = UInt16.ofNat (entry.len / virtqueueDescriptorSize) := by
  simp only [validateIndirectDescriptorTable, validateDescriptorTableAlignment, bind_eq_ok,
    rejectIf_eq_ok, mapError_eq_ok, pure_eq_ok, not_or, ne_eq, not_not, Nat.not_lt]
  constructor
  · rintro ⟨_, shape, _, fits, _, aligned, range, made, _, mapped, rfl⟩
    exact ⟨shape, fits, aligned, ⟨range, made, mapped⟩, rfl⟩
  · rintro ⟨shape, fits, aligned, ⟨range, made, mapped⟩, rfl⟩
    exact ⟨(), shape, (), fits, (), aligned, range, made, (), mapped, rfl⟩

variable {chain}

/-- An indirect chain is read where its table may be entered and its links end. -/
theorem readIndirectDescriptorChain_eq_ok {entry before} :
    readIndirectDescriptorChain memory headIndex queueSize options entry before = .ok chain ↔
      Enters memory queueSize options before.length entry ∧ ∃ inner last,
        Ends memory entry.address (UInt16.ofNat (entry.len / virtqueueDescriptorSize)) 0
          inner last ∧
        inner.length + 1 ≤ entry.len / virtqueueDescriptorSize ∧ last.isIndirect = false ∧
        chain = ⟨headIndex, before ++ (inner ++ [last])⟩ := by
  have counted : entry.len / virtqueueDescriptorSize ≤ queueSize.toNat →
      (UInt16.ofNat (entry.len / virtqueueDescriptorSize)).toNat =
        entry.len / virtqueueDescriptorSize := fun fits =>
    UInt16.toNat_ofNat_of_lt (Nat.lt_of_le_of_lt fits queueSize.toNat_lt)
  simp only [readIndirectDescriptorChain, bind_eq_ok, rejectIf_eq_ok,
    validateIndirectDescriptorTable_eq_ok, walkDescriptors_eq_ok, Bool.not_eq_true',
    Bool.not_eq_false, Bool.not_eq_true, Nat.not_lt]
  constructor
  · rintro ⟨_, enabled, _, unlinked, _, ⟨⟨nonempty, whole⟩, small, aligned, mapped, rfl⟩, _, fits,
      inner, last, ends, short, outcome⟩
    rw [counted small] at fits short
    refine ⟨⟨enabled, unlinked, nonempty, whole, fits, aligned, mapped⟩, inner, last, ends, short,
      ?_⟩
    rcases outcome with ⟨-, impossible⟩ | plain
    · cases impossible
    · exact plain
  · rintro ⟨enters, inner, last, ends, short, plain, rfl⟩
    have small := Nat.le_trans (Nat.le_add_left _ _) enters.fits
    refine ⟨(), enters.enabled, (), enters.unlinked, _,
      ⟨⟨enters.nonempty, enters.whole⟩, small, enters.aligned, enters.mapped, rfl⟩, (), ?_, inner,
      last, ends, ?_, .inr ⟨plain, rfl⟩⟩
    · rw [counted small]
      exact enters.fits
    · rw [counted small]
      exact short

variable {outer inner : List VirtqueueDescriptor}

section
variable (resolves : Resolves memory table queueSize headIndex options outer inner)
include resolves

/-- No index is passed twice in a table. -/
theorem Resolves.nodup : (outer.map (·.index)).Nodup ∧ (inner.map (·.index)).Nodup := by
  cases resolves with
  | direct ends => exact ⟨ends.nodup, nodup_nil⟩
  | indirect ends _ _ _ inside =>
    refine ⟨?_, inside.nodup⟩
    have all := ends.nodup
    rw [map_append] at all
    exact (nodup_append.mp all).1

/-- A chain which resolves comes back to no index. -/
theorem Resolves.not_loops : ¬ Loops memory table queueSize headIndex := by
  intro loops
  cases resolves with
  | direct ends plain =>
    cases loops with
    | direct cyclic => exact ends.not_cyclic cyclic
    | indirect found isIndirect =>
      obtain rfl := ends.last_eq found
      exact absurd (plain.symm.trans isIndirect) (by decide)
  | indirect ends _ _ _ inside =>
    cases loops with
    | direct cyclic => exact ends.not_cyclic cyclic
    | indirect found _ cyclic =>
      obtain rfl := ends.last_eq found
      exact inside.not_cyclic cyclic

end

/-- A chain is read where its table is usable and its links resolve. -/
theorem readDescriptorChain_eq_ok {reserved} :
    readDescriptorChainWithOptions memory table queueSize headIndex options reserved =
        .ok chain ↔
      reserved = true ∧ Usable memory table queueSize headIndex ∧ ∃ outer inner,
        Resolves memory table queueSize headIndex options outer inner ∧
          chain = ⟨headIndex, outer ++ inner⟩ := by
  simp only [readDescriptorChainWithOptions, validateQueueSize, validateDescriptorTableAlignment,
    bind_eq_ok, rejectIf_eq_ok, walkDescriptors_eq_ok, nil_append,
    readIndirectDescriptorChain_eq_ok, Bool.not_eq_true', Bool.not_eq_false, ne_eq, not_not]
  constructor
  · rintro ⟨_, valid, _, aligned, _, mapped, _, inside, _, allocated, before, last, ends, short,
      outcome⟩
    refine ⟨allocated, ⟨valid, aligned, mapped, inside⟩, ?_⟩
    rcases outcome with ⟨indirect, enters, inner, final, within, innerShort, plain, rfl⟩ |
      ⟨plain, rfl⟩
    · exact ⟨_, _, .indirect ends indirect short enters within plain innerShort, rfl⟩
    · exact ⟨_, _, .direct ends plain short, by rw [append_nil]⟩
  · rintro ⟨allocated, usable, outer, inner, resolves, rfl⟩
    refine ⟨(), usable.validSize, (), usable.aligned, (), usable.mapped, (), usable.inside, (),
      allocated, ?_⟩
    cases resolves with
    | direct ends plain short =>
      exact ⟨_, _, ends, short, .inr ⟨plain, by rw [append_nil]⟩⟩
    | indirect ends indirect short enters within plain innerShort =>
      exact ⟨_, _, ends, short, .inl ⟨indirect, enters, _, _, within, innerShort, plain, rfl⟩⟩

/-- A chain is named by the head it was read from. -/
theorem readDescriptorChain_headIndex {reserved}
    (read : readDescriptorChainWithOptions memory table queueSize headIndex options reserved =
      .ok chain) : chain.headIndex = headIndex := by
  obtain ⟨-, -, _, _, -, rfl⟩ := readDescriptorChain_eq_ok.mp read
  rfl

end

/-- The memory of a machine which has started. -/
theorem booted_wf : GuestMemory.booted.Wf := by
  have layout : GuestMemoryLayout.new [boot] = .ok ⟨[boot]⟩ := by decide
  have allocated : allocateWithMapper ⟨[boot]⟩ 0x4000 .anonymous true
      (fun _ => .ok ()) = .ok booted := rfl
  exact (GuestMemory.Reachable.allocateWithMapper layout allocated).wf

/-- A queue of three entries is refused, whatever its links lead to. -/
theorem readDescriptorChain_three_entries : ∃ descriptor,
    Resolves GuestMemory.booted 0 3 0 ⟨false⟩ [descriptor] [] ∧
      ∀ chain,
        readDescriptorChainWithOptions GuestMemory.booted 0 3 0 ⟨false⟩ true ≠ .ok chain := by
  have read : readDescriptor booted 0 3 0 = .ok ⟨0, 0, 0, 0, none⟩ := rfl
  refine ⟨⟨0, 0, 0, 0, none⟩, ?_, ?_⟩
  · exact Resolves.direct ⟨0, .here 0, read, .inr rfl⟩ (by decide) (by decide)
  · intro chain found
    have refused : readDescriptorChainWithOptions booted 0 3 0 ⟨false⟩ true =
        .error (.invalidQueueSize 3) := rfl
    cases refused.symm.trans found

/-- A chain is read exactly where its table is usable and the links from its head resolve: it
is then the list of the descriptors which they lead through. No index is passed twice in a
table, and a chain which is cyclic in either table is refused. -/
theorem readDescriptorChain_resolves (memory : GuestMemory) (table : Nat)
    (queueSize headIndex : UInt16) (options : VirtqueueDescriptorChainOptions) :
    (∀ chain, readDescriptorChainWithOptions memory table queueSize headIndex options true =
        .ok chain ↔ Usable memory table queueSize headIndex ∧ ∃ outer inner,
        Resolves memory table queueSize headIndex options outer inner ∧
          chain = ⟨headIndex, outer ++ inner⟩) ∧
    (∀ outer inner, Resolves memory table queueSize headIndex options outer inner →
      (outer.map (·.index)).Nodup ∧ (inner.map (·.index)).Nodup) ∧
    (Loops memory table queueSize headIndex → ∀ chain,
      readDescriptorChainWithOptions memory table queueSize headIndex options true ≠
        .ok chain) := by
  refine ⟨fun _ => readDescriptorChain_eq_ok.trans (and_iff_right rfl),
    fun _ _ => Resolves.nodup, fun loops chain read => ?_⟩
  obtain ⟨-, -, _, _, resolves, -⟩ := readDescriptorChain_eq_ok.mp read
  exact resolves.not_loops loops

end Bangbang.Virtio
