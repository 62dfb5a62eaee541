import Bangbang.Base.Table
import Bangbang.Base.Fallible
import Mathlib.Data.Finset.Basic

/-!
# Local ports of host connections

A host connection takes a local port, which the allocator finds by a cyclic scan from the
last used one. The table and the allocator are updated one after the other; the ports
which are allocated are those of the connections in the table all the same.

`Ledger` is what the ports are meant to be: the connections which were inserted and not removed,
and the port which was allocated last. `Serves` says what a call may answer and do there, and every
run of a table follows the ledger (`host_ports_owned`).
-/

namespace Bangbang.Vsock

def hostLocalPortBase : Nat := 0x40000000

def hostLocalPortEndExclusive : Nat := 0x80000000

def hostLocalPortCapacity : Nat := hostLocalPortEndExclusive - hostLocalPortBase

def hostLocalPortInitialLastUsed : Nat := hostLocalPortBase - 1

/-- A port of the host. -/
def InHostRange (raw : Nat) : Prop := hostLocalPortBase ≤ raw ∧ raw < hostLocalPortEndExclusive

abbrev VsockHostLocalPort := { raw : Nat // InHostRange raw }

/-- The last used port; at first the number before the range. -/
abbrev VsockHostLocalPortCursor :=
  { lastUsed : Nat // lastUsed = hostLocalPortInitialLastUsed ∨ InHostRange lastUsed }

namespace VsockHostLocalPort

theorem inHostRange_of_offset {offset} (inside : offset < hostLocalPortCapacity) :
    InHostRange (hostLocalPortBase + offset) := by
  simp only [InHostRange, hostLocalPortCapacity, hostLocalPortEndExclusive,
    hostLocalPortBase] at inside ⊢
  omega

def fromOffset (offset : Nat) (inside : offset < hostLocalPortCapacity) : VsockHostLocalPort :=
  ⟨hostLocalPortBase + offset, inHostRange_of_offset inside⟩

/-- The place of a port in its range. -/
def offset (port : VsockHostLocalPort) : Nat := port.1 - hostLocalPortBase

@[simp] theorem offset_fromOffset {offset} (inside : offset < hostLocalPortCapacity) :
    (fromOffset offset inside).offset = offset := Nat.add_sub_cancel_left ..

/-- A port lies in the range of the allocator. -/
theorem offset_lt (port : VsockHostLocalPort) : port.offset < hostLocalPortCapacity := by
  obtain ⟨raw, low, high⟩ := port
  simp only [offset, hostLocalPortCapacity]
  omega

theorem offset_injective {first second : VsockHostLocalPort} (same : first.offset = second.offset) :
    first = second := by
  obtain ⟨first, firstLow, _⟩ := first
  obtain ⟨second, secondLow, _⟩ := second
  simp only [offset] at same
  exact Subtype.ext (show first = second by omega)

end VsockHostLocalPort

inductive VsockHostLocalPortAllocatorError where
  | exhausted

structure VsockHostLocalPortAllocator where
  capacity : Nat
  cursor : VsockHostLocalPortCursor
  allocatedOffsets : Finset Nat
  bounded : capacity ≤ hostLocalPortCapacity

namespace VsockHostLocalPortAllocator

def fromCursor (cursor : VsockHostLocalPortCursor) : VsockHostLocalPortAllocator :=
  ⟨hostLocalPortCapacity, cursor, ∅, Nat.le_refl _⟩

variable (allocator : VsockHostLocalPortAllocator)

/-- The offset after the port used last. -/
def firstOffset : Nat :=
  if allocator.cursor.1 = hostLocalPortInitialLastUsed then 0
  else (allocator.cursor.1 - hostLocalPortBase + 1) % allocator.capacity

/-- Record an offset as taken and its port as the last used one. -/
def take (offset : Nat) (inside : offset < hostLocalPortCapacity) :
    VsockHostLocalPort × VsockHostLocalPortAllocator :=
  let port := .fromOffset offset inside
  (port, { allocator with
    cursor := ⟨port.1, .inr port.2⟩
    allocatedOffsets := insert offset allocator.allocatedOffsets })

/-- The loop inserts one offset after the other until one was not there. -/
def allocate :
    Except VsockHostLocalPortAllocatorError (VsockHostLocalPort × VsockHostLocalPortAllocator) :=
  if nonempty : 0 < allocator.capacity then
    match (List.range allocator.capacity).find? fun scanned =>
      (allocator.firstOffset + scanned) % allocator.capacity ∉ allocator.allocatedOffsets with
    | some scanned => .ok (allocator.take ((allocator.firstOffset + scanned) % allocator.capacity)
        (Nat.lt_of_lt_of_le (Nat.mod_lt _ nonempty) allocator.bounded))
    | none => .error .exhausted
  else .error .exhausted

def free (port : VsockHostLocalPort) : Bool × VsockHostLocalPortAllocator :=
  if allocator.capacity ≤ port.offset then (false, allocator)
  else (port.offset ∈ allocator.allocatedOffsets, { allocator with
    allocatedOffsets := allocator.allocatedOffsets.erase port.offset })

/-- The offset `distance` ports after the one which follows the last used port, in the
cyclic order of the range. -/
def offsetAfter (distance : Nat) : Nat :=
  (allocator.cursor.1 + 1 - hostLocalPortBase + distance) % allocator.capacity

/-- The first free port after the last used one. -/
def FirstFree (port : VsockHostLocalPort) : Prop :=
  ∃ distance < allocator.capacity, port.offset = allocator.offsetAfter distance ∧
    port.offset ∉ allocator.allocatedOffsets ∧
    ∀ nearer < distance, allocator.offsetAfter nearer ∈ allocator.allocatedOffsets

theorem firstOffset_add (distance) :
    (allocator.firstOffset + distance) % allocator.capacity = allocator.offsetAfter distance := by
  unfold firstOffset offsetAfter
  split
  next isInitial => simp [isInitial, hostLocalPortInitialLastUsed, hostLocalPortBase]
  next notInitial =>
    have low := (allocator.cursor.2.resolve_left notInitial).1
    rw [Nat.mod_add_mod, Nat.sub_add_comm low]

variable {allocator next} {port : VsockHostLocalPort}

/-- The scan reaches every offset. -/
theorem exists_offsetAfter {offset} (inside : offset < allocator.capacity) :
    ∃ distance < allocator.capacity, allocator.offsetAfter distance = offset := by
  have nonempty : 0 < allocator.capacity := by omega
  unfold offsetAfter
  generalize allocator.cursor.1 + 1 - hostLocalPortBase = start
  have reduced := Nat.mod_lt start nonempty
  refine ⟨(offset + allocator.capacity - start % allocator.capacity) % allocator.capacity,
    Nat.mod_lt _ nonempty, ?_⟩
  have around : start % allocator.capacity +
      (offset + allocator.capacity - start % allocator.capacity) = offset + allocator.capacity := by
    omega
  rw [Nat.add_mod_mod, ← Nat.mod_add_mod, around, Nat.add_mod_right, Nat.mod_eq_of_lt inside]

/-- An allocation records the first free port as allocated and as the last used one. -/
theorem allocate_eq_ok (allocated : allocator.allocate = .ok (port, next)) :
    allocator.FirstFree port ∧ next.capacity = allocator.capacity ∧ next.cursor.1 = port.1 ∧
      next.allocatedOffsets = insert port.offset allocator.allocatedOffsets := by
  unfold allocate at allocated
  split at allocated
  next nonempty =>
    split at allocated
    next scanned found =>
      simp only [List.find?_range_eq_some, firstOffset_add, decide_eq_true_eq, List.mem_range,
        Bool.not_eq_true', decide_eq_false_iff_not, not_not] at found
      obtain ⟨free, inside, taken⟩ := found
      simp only [take, firstOffset_add, Except.ok.injEq, Prod.mk.injEq] at allocated
      obtain ⟨rfl, rfl⟩ := allocated
      exact ⟨⟨scanned, inside, by simp, by simpa using free, taken⟩, rfl, rfl, by simp⟩
    next => cases allocated
  next => cases allocated

/-- An allocation fails when every port is taken. -/
theorem allocate_eq_error : (∃ error, allocator.allocate = .error error) ↔
    ∀ offset < allocator.capacity, offset ∈ allocator.allocatedOffsets := by
  unfold allocate
  split
  next nonempty =>
    split
    next scanned found =>
      have free := List.find?_some found
      rw [decide_eq_true_eq] at free
      simp only [reduceCtorEq, exists_false, false_iff]
      exact fun full => free (full _ (Nat.mod_lt _ nonempty))
    next none =>
      simp only [List.find?_range_eq_none, firstOffset_add, Bool.not_eq_true',
        decide_eq_false_iff_not, not_not] at none
      refine ⟨fun _ offset inside => ?_, fun _ => ⟨_, rfl⟩⟩
      obtain ⟨distance, near, rfl⟩ := exists_offsetAfter inside
      exact none distance near
  next empty => exact ⟨fun _ offset inside => absurd inside (by omega), fun _ => ⟨_, rfl⟩⟩

/-- A port which is freed leaves the range and the last used port as they are. -/
theorem free_range : (allocator.free port).2.capacity = allocator.capacity ∧
    (allocator.free port).2.cursor = allocator.cursor := by
  unfold free
  split <;> exact ⟨rfl, rfl⟩

theorem free_allocatedOffsets (inside : port.offset < allocator.capacity) :
    (allocator.free port).2.allocatedOffsets = allocator.allocatedOffsets.erase port.offset := by
  rw [free, if_neg (Nat.not_le.mpr inside)]

end VsockHostLocalPortAllocator

structure VsockHostConnectionKey where
  localPort : VsockHostLocalPort
  guestPort : UInt32
  deriving DecidableEq

inductive VsockHostConnectionTableError where
  | localPort (error : VsockHostLocalPortAllocatorError)
  | activeLimitExceeded (limit : Nat)
  | duplicateKey (key : VsockHostConnectionKey)

/-- The table, over whatever a connection holds. -/
structure VsockHostConnectionTable (α : Type) where
  localPorts : VsockHostLocalPortAllocator
  connections : Table VsockHostConnectionKey α

namespace VsockHostConnectionTable

open VsockHostLocalPortAllocator

variable {α : Type} (table : VsockHostConnectionTable α)

def fromLocalPortCursor (cursor : VsockHostLocalPortCursor) : VsockHostConnectionTable α :=
  ⟨.fromCursor cursor, ∅⟩

/-- `insert_accepted_host_connection_with_active_limit`. A refusal frees the port which it
has allocated; the cursor stays at it. -/
def insertAccepted (connection : α) (guestPort : UInt32)
    (otherActiveConnections activeConnectionLimit : Nat) :
    Except VsockHostConnectionTableError VsockHostConnectionKey × VsockHostConnectionTable α :=
  match table.localPorts.allocate with
  | .error error => (.error (.localPort error), table)
  | .ok (localPort, localPorts) =>
    let key := ⟨localPort, guestPort⟩
    let refused := { table with localPorts := (localPorts.free localPort).2 }
    if activeConnectionLimit ≤ min (table.connections.size + otherActiveConnections)
        (wordLimit - 1) then
      (.error (.activeLimitExceeded activeConnectionLimit), refused)
    else if (table.connections.lookup key).isSome then (.error (.duplicateKey key), refused)
    else (.ok key, ⟨localPorts, table.connections.insert key connection⟩)

def remove (key : VsockHostConnectionKey) : Bool × VsockHostConnectionTable α :=
  if (table.connections.lookup key).isNone then (false, table)
  else (true, ⟨(table.localPorts.free key.localPort).2, table.connections.erase key⟩)

/-- A call on the table. -/
inductive Call (α : Type) where
  | insert (connection : α) (guestPort : UInt32) (otherActiveConnections limit : Nat)
  | remove (key : VsockHostConnectionKey)

/-- What a call returns. -/
inductive Answer where
  | inserted (result : Except VsockHostConnectionTableError VsockHostConnectionKey)
  | removed (present : Bool)

/-- One call on the table. -/
def serve : Call α → Answer × VsockHostConnectionTable α
  | .insert connection guestPort others limit =>
    let result := table.insertAccepted connection guestPort others limit
    (.inserted result.1, result.2)
  | .remove key => (.removed (table.remove key).1, (table.remove key).2)

/-- The table after some calls. -/
def run (calls : List (Call α)) : VsockHostConnectionTable α :=
  calls.foldl (fun table call => (table.serve call).2) table

/-- The calls with their answers. -/
def history (table : VsockHostConnectionTable α) : List (Call α) → List (Call α × Answer)
  | [] => []
  | call :: calls => (call, (table.serve call).1) :: (table.serve call).2.history calls

end VsockHostConnectionTable

open VsockHostConnectionTable

/-- The connections which stand, and the port which was allocated last. -/
structure Ledger (α : Type) where
  lastUsed : Nat
  connections : Table VsockHostConnectionKey α

namespace Ledger

variable {α : Type} (ledger : Ledger α)

/-- A connection has the port. -/
def Taken (port : VsockHostLocalPort) : Prop := ∃ key ∈ ledger.connections, key.localPort = port

/-- A new connection takes its port. -/
theorem taken_insert {lastUsed key connection port} :
    Taken ⟨lastUsed, ledger.connections.insert key connection⟩ port ↔
      port = key.localPort ∨ ledger.Taken port := by
  simp only [Taken, AList.mem_insert]
  constructor
  · rintro ⟨found, rfl | member, isPort⟩
    · exact .inl isPort.symm
    · exact .inr ⟨found, member, isPort⟩
  · rintro (rfl | ⟨found, member, isPort⟩)
    · exact ⟨key, .inl rfl, rfl⟩
    · exact ⟨found, .inr member, isPort⟩

/-- The port `distance` ports after the one which follows the last used port, in the cyclic order
of the whole range. -/
def portAfter (distance : Nat) : VsockHostLocalPort :=
  .fromOffset ((ledger.lastUsed + 1 - hostLocalPortBase + distance) % hostLocalPortCapacity)
    (Nat.mod_lt _ (by decide))

/-- The first free port after the last used one. -/
def FirstFree (port : VsockHostLocalPort) : Prop :=
  ∃ distance < hostLocalPortCapacity, port = ledger.portAfter distance ∧ ¬ ledger.Taken port ∧
    ∀ nearer < distance, ledger.Taken (ledger.portAfter nearer)

/-- The limit leaves no room beside the connections which there are. -/
def Full (others limit : Nat) : Prop :=
  limit ≤ min (ledger.connections.size + others) (wordLimit - 1)

/-- What a call may answer, and what stands then. A port which is allocated for an insertion is
the last used one also when the insertion is refused. -/
inductive Serves : Call α → Answer → Ledger α → Prop
  | insert {connection guestPort others limit port} (free : ledger.FirstFree port)
      (room : ¬ ledger.Full others limit) :
      Serves (.insert connection guestPort others limit) (.inserted (.ok ⟨port, guestPort⟩))
        ⟨port.1, ledger.connections.insert ⟨port, guestPort⟩ connection⟩
  | refuse {connection guestPort others limit port} (free : ledger.FirstFree port)
      (full : ledger.Full others limit) :
      Serves (.insert connection guestPort others limit)
        (.inserted (.error (.activeLimitExceeded limit))) { ledger with lastUsed := port.1 }
  | exhausted {connection guestPort others limit} (taken : ∀ port, ledger.Taken port) :
      Serves (.insert connection guestPort others limit)
        (.inserted (.error (.localPort .exhausted))) ledger
  | remove {key} (present : key ∈ ledger.connections) :
      Serves (.remove key) (.removed true)
        { ledger with connections := ledger.connections.erase key }
  | absent {key} (absent : key ∉ ledger.connections) : Serves (.remove key) (.removed false) ledger

end Ledger

/-- The ledger after a history of calls and answers. -/
inductive Ledger.Runs {α : Type} : Ledger α → List (Call α × Answer) → Ledger α → Prop
  | done {ledger} : Runs ledger [] ledger
  | next {ledger middle last call answer history} (serves : Serves ledger call answer middle)
      (rest : Runs middle history last) : Runs ledger ((call, answer) :: history) last

namespace VsockHostConnectionTable

open VsockHostLocalPortAllocator

variable {α : Type}

/-- A table follows a ledger: its allocated offsets, out of the whole range, are those of the
connections, which have a port each. -/
structure Owned (table : VsockHostConnectionTable α) (ledger : Ledger α) : Prop where
  connections : table.connections = ledger.connections
  lastUsed : table.localPorts.cursor.1 = ledger.lastUsed
  capacity : table.localPorts.capacity = hostLocalPortCapacity
  allocated : ∀ port : VsockHostLocalPort,
    port.offset ∈ table.localPorts.allocatedOffsets ↔ ledger.Taken port
  distinct : ∀ first ∈ ledger.connections, ∀ second ∈ ledger.connections,
    first.localPort = second.localPort → first = second

/-- A table owns nothing at first. -/
theorem owned_fromLocalPortCursor (cursor : VsockHostLocalPortCursor) :
    Owned (fromLocalPortCursor cursor : VsockHostConnectionTable α) ⟨cursor.1, ∅⟩ :=
  ⟨rfl, rfl, rfl, by simp [fromLocalPortCursor, fromCursor, Ledger.Taken], nofun⟩

section
variable {table : VsockHostConnectionTable α} {ledger : Ledger α} (owned : table.Owned ledger)
include owned

theorem Owned.offset_lt (port : VsockHostLocalPort) :
    port.offset < table.localPorts.capacity := by
  rw [owned.capacity]
  exact port.offset_lt

/-- The scan of the allocator goes over the ports in their cyclic order. -/
theorem Owned.offsetAfter (distance) :
    table.localPorts.offsetAfter distance = (ledger.portAfter distance).offset := by
  rw [VsockHostLocalPortAllocator.offsetAfter, owned.lastUsed, owned.capacity, Ledger.portAfter,
    VsockHostLocalPort.offset_fromOffset]

/-- The first free port of the allocator is that of the ledger. -/
theorem Owned.firstFree {port} (free : table.localPorts.FirstFree port) :
    ledger.FirstFree port := by
  obtain ⟨distance, inside, isPort, isFree, nearer⟩ := free
  rw [owned.offsetAfter] at isPort
  refine ⟨distance, owned.capacity ▸ inside, VsockHostLocalPort.offset_injective isPort,
    fun taken => isFree ((owned.allocated port).mpr taken), fun near before => ?_⟩
  rw [← owned.allocated, ← owned.offsetAfter]
  exact nearer near before

/-- There is no port exactly when all are taken. -/
theorem Owned.allocate_eq_error : (∃ error, table.localPorts.allocate = .error error) ↔
    ∀ port, ledger.Taken port := by
  rw [VsockHostLocalPortAllocator.allocate_eq_error, owned.capacity]
  constructor
  · exact fun full port => (owned.allocated port).mp (full _ port.offset_lt)
  · intro full offset inside
    simpa using (owned.allocated (.fromOffset offset inside)).mpr (full _)

/-- A connection with a free port would have had it allocated. -/
theorem Owned.fresh {port} (isFree : port.offset ∉ table.localPorts.allocatedOffsets) {key}
    (member : key ∈ ledger.connections) : key.localPort ≠ port := by
  rintro rfl
  exact isFree ((owned.allocated _).mpr ⟨key, member, rfl⟩)

/-- An insertion follows the ledger; a refused one leaves the set of allocated ports and the
connections as they were. -/
theorem Owned.insertAccepted (connection : α) (guestPort : UInt32) (others limit : Nat) :
    let result := table.insertAccepted connection guestPort others limit
    (∃ after, ledger.Serves (.insert connection guestPort others limit) (.inserted result.1) after ∧
      result.2.Owned after) ∧
    ((∃ error, result.1 = .error error) →
      result.2.localPorts.allocatedOffsets = table.localPorts.allocatedOffsets ∧
        result.2.connections = table.connections) := by
  unfold VsockHostConnectionTable.insertAccepted
  split
  next error failed =>
    cases error
    refine ⟨⟨ledger, .exhausted ?_, owned⟩, fun _ => ⟨rfl, rfl⟩⟩
    exact owned.allocate_eq_error.mp ⟨_, failed⟩
  next localPort localPorts allocated =>
    obtain ⟨first, capacity, cursor, offsets⟩ := allocate_eq_ok allocated
    have isFree : localPort.offset ∉ table.localPorts.allocatedOffsets := by
      obtain ⟨_, _, _, isFree, _⟩ := first
      exact isFree
    have freed : (localPorts.free localPort).2.allocatedOffsets =
        table.localPorts.allocatedOffsets := by
      rw [free_allocatedOffsets (capacity ▸ owned.offset_lt localPort), offsets,
        Finset.erase_insert isFree]
    have absent : (table.connections.lookup ⟨localPort, guestPort⟩).isSome = false := by
      rw [owned.connections, ← Bool.not_eq_true, AList.lookup_isSome]
      exact fun member => owned.fresh isFree member rfl
    dsimp only
    rw [owned.connections] at absent ⊢
    split
    next full =>
      refine ⟨⟨{ ledger with lastUsed := localPort.1 }, .refuse (owned.firstFree first) full, ?_⟩,
        fun _ => ⟨freed, rfl⟩⟩
      refine ⟨rfl, ?_, ?_, fun port => ?_, owned.distinct⟩
      · rw [free_range.2, cursor]
      · rw [free_range.1, capacity, owned.capacity]
      · rw [freed]
        exact owned.allocated port
    next room =>
      rw [absent, if_neg Bool.false_ne_true]
      refine ⟨⟨_, .insert (owned.firstFree first) room, rfl, cursor,
        capacity.trans owned.capacity, fun port => ?_, ?_⟩, by rintro ⟨_, ⟨⟩⟩⟩
      · rw [offsets, Finset.mem_insert, owned.allocated, Ledger.taken_insert]
        exact or_congr_left ⟨VsockHostLocalPort.offset_injective, congrArg _⟩
      · simp only [AList.mem_insert]
        rintro first (rfl | member) second (rfl | member') same
        · rfl
        · exact absurd same.symm (owned.fresh isFree member')
        · exact absurd same (owned.fresh isFree member)
        · exact owned.distinct first member second member' same

/-- A removal gives back its port. -/
theorem Owned.remove (key : VsockHostConnectionKey) :
    ∃ after, ledger.Serves (.remove key) (.removed (table.remove key).1) after ∧
      (table.remove key).2.Owned after := by
  unfold VsockHostConnectionTable.remove
  rw [owned.connections]
  split
  next missing =>
    refine ⟨ledger, .absent fun member => ?_, owned⟩
    rw [← AList.lookup_isSome, Option.isSome_iff_ne_none] at member
    exact member (Option.isNone_iff_eq_none.mp missing)
  next present =>
    have member : key ∈ ledger.connections := by
      rw [← AList.lookup_isSome, Option.isSome_iff_ne_none]
      simpa using present
    refine ⟨_, .remove member, rfl, ?_, ?_, fun port => ?_, ?_⟩
    · rw [free_range.2, owned.lastUsed]
    · rw [free_range.1, owned.capacity]
    · simp only [free_allocatedOffsets (owned.offset_lt key.localPort), Finset.mem_erase,
        owned.allocated, Ledger.Taken, AList.mem_erase]
      constructor
      · rintro ⟨different, other, member', rfl⟩
        exact ⟨other, ⟨fun same => different (by rw [same]), member'⟩, rfl⟩
      · rintro ⟨other, ⟨different, member'⟩, rfl⟩
        refine ⟨fun same => different ?_, other, member', rfl⟩
        exact owned.distinct _ member' _ member (VsockHostLocalPort.offset_injective same)
    · intro first inFirst second inSecond
      exact owned.distinct first (AList.mem_erase.mp inFirst).2 second
        (AList.mem_erase.mp inSecond).2

/-- Every call follows the ledger. -/
theorem Owned.serve (call : Call α) :
    ∃ after, ledger.Serves call (table.serve call).1 after ∧ (table.serve call).2.Owned after := by
  cases call with
  | insert connection guestPort others limit =>
    exact (owned.insertAccepted connection guestPort others limit).1
  | remove key => exact owned.remove key

/-- So does every run. -/
theorem Owned.run (calls : List (Call α)) :
    ∃ last, ledger.Runs (table.history calls) last ∧ (table.run calls).Owned last := by
  induction calls generalizing table ledger with
  | nil => exact ⟨ledger, .done, owned⟩
  | cons call calls ih =>
    obtain ⟨after, serves, still⟩ := owned.serve call
    obtain ⟨last, runs, final⟩ := ih still
    exact ⟨last, .next serves runs, final⟩

end

/-- Whatever insertions and removals a table has seen since it was made from a cursor, it follows
the ledger of its calls and answers: its connections are those which were inserted and not
removed, its allocated ports are theirs, no two have one port, and its cursor is the port which
was allocated last. So does every further call: an insertion gets the first free port after the
last used one, there is none exactly when all are taken, and a refused insertion changes neither
the set nor the connections. -/
theorem host_ports_owned (cursor : VsockHostLocalPortCursor) (calls : List (Call α)) :
    let start : VsockHostConnectionTable α := fromLocalPortCursor cursor
    let table := start.run calls
    ∃ ledger, (Ledger.mk cursor.1 ∅).Runs (start.history calls) ledger ∧ table.Owned ledger ∧
      (∀ call, ∃ after, ledger.Serves call (table.serve call).1 after ∧
        (table.serve call).2.Owned after) ∧
      (∀ port next, table.localPorts.allocate = .ok (port, next) → ledger.FirstFree port) ∧
      ((∃ error, table.localPorts.allocate = .error error) ↔ ∀ port, ledger.Taken port) ∧
      ∀ connection guestPort others limit error next,
        table.insertAccepted connection guestPort others limit = (.error error, next) →
        next.localPorts.allocatedOffsets = table.localPorts.allocatedOffsets ∧
          next.connections = table.connections := by
  intro start table
  obtain ⟨ledger, runs, owned⟩ := (owned_fromLocalPortCursor cursor).run calls
  refine ⟨ledger, runs, owned, owned.serve, fun port next allocated =>
    owned.firstFree (allocate_eq_ok allocated).1, owned.allocate_eq_error, ?_⟩
  intro connection guestPort others limit error next refused
  have unchanged := (owned.insertAccepted connection guestPort others limit).2
  rw [refused] at unchanged
  exact unchanged ⟨error, rfl⟩

/-- After the last port of the range comes the first one. -/
theorem host_ports_owned_wraps :
    ∃ port, VsockHostLocalPort.offset port = 0 ∧
      ((fromLocalPortCursor ⟨0x7fffffff, .inr ⟨by decide, by decide⟩⟩).serve (.insert () 80 0 1)).1 =
        .inserted (.ok ⟨port, 80⟩) := by
  obtain ⟨ledger, runs, -, serves, -⟩ := host_ports_owned ⟨0x7fffffff, .inr ⟨by decide, by decide⟩⟩ []
  cases runs
  obtain ⟨after, inserted, -⟩ := serves (.insert () 80 0 1)
  generalize answered : (VsockHostConnectionTable.serve _ _).1 = answer at inserted
  cases inserted with
  | refuse _ full => exact absurd full (Nat.not_le.mpr (by decide))
  | exhausted taken =>
    obtain ⟨key, ⟨⟩, -⟩ := taken (.fromOffset 0 (by decide))
  | @insert _ _ _ _ port free room =>
    obtain ⟨distance, inside, isPort, -, nearer⟩ := free
    cases distance with
    | zero => exact ⟨port, by rw [isPort]; rfl, answered⟩
    | succ distance =>
      obtain ⟨key, ⟨⟩, -⟩ := nearer 0 (Nat.succ_pos _)

end VsockHostConnectionTable
end Bangbang.Vsock
