import Mathlib.Algebra.Order.Ring.Nat
import Mathlib.Data.List.AList

/-!
# Tables

Finite maps whose order of entries nobody observes. The rules say what each
operation does to the list of values up to permutation, which is how several
tables and queues are counted together. A table which never changes is a sorted slice, which
`binarySearchBy` searches by halving: the window keeps its lower half when the probe of its
middle element is greater than the sought key, and its upper half otherwise, and the one
remaining element decides.
-/

namespace Bangbang

open AList List

/-- A finite map from keys to values. -/
abbrev Table (κ α : Type) := AList fun _ : κ => α

namespace Table

variable {κ α : Type} {table : Table κ α} {key : κ} {value : α}

/-- The values of a table, in no particular order. -/
def values (table : Table κ α) : List α := table.entries.map Sigma.snd

/-- The number of entries of a table. -/
def size (table : Table κ α) : Nat := table.entries.length

@[simp] theorem length_values (table : Table κ α) : table.values.length = table.size :=
  length_map _

@[simp] theorem values_empty : values (∅ : Table κ α) = [] := rfl

@[simp] theorem size_empty : size (∅ : Table κ α) = 0 := rfl

/-- A table of no entries is empty. -/
theorem size_eq_zero : table.size = 0 ↔ table = ∅ := by
  unfold size
  rw [length_eq_zero_iff]
  exact ⟨fun empty => ext empty, fun empty => by rw [empty]; rfl⟩

/-- Every value is stored under its own key. -/
def Keyed (keyOf : α → κ) (table : Table κ α) : Prop :=
  ∀ entry ∈ table.entries, entry.1 = keyOf entry.2

variable {keyOf : α → κ}

theorem keyed_empty : Keyed keyOf (∅ : Table κ α) := nofun

/-- The keys of the values of a keyed table are distinct. -/
theorem Keyed.nodup (keyed : Keyed keyOf table) : (table.values.map keyOf).Nodup := by
  have same : table.values.map keyOf = table.keys := by
    rw [values, map_map]
    exact map_congr_left fun entry member => (keyed entry member).symm
  rw [same]
  exact table.keys_nodup

variable [DecidableEq κ]

theorem mem_values_of_lookup (found : table.lookup key = some value) : value ∈ table.values :=
  mem_map.mpr ⟨⟨key, value⟩, mem_lookup_iff.mp found, rfl⟩

/-- After an insertion the key has the new value, and the others their own. -/
theorem lookup_insert_eq_some {other : κ} {found : α} :
    AList.lookup other (AList.insert key value table) = some found ↔
      other = key ∧ value = found ∨ other ≠ key ∧ AList.lookup other table = some found := by
  by_cases same : other = key
  · subst same
    rw [lookup_insert]
    simp
  · rw [lookup_insert_ne same]
    simp [same]

/-- After an erasure the key has no value, and the others their own. -/
theorem lookup_erase_eq_some {other : κ} {found : α} :
    AList.lookup other (AList.erase key table) = some found ↔
      other ≠ key ∧ AList.lookup other table = some found := by
  by_cases same : other = key
  · subst same
    rw [lookup_erase]
    simp
  · rw [lookup_erase_ne same]
    simp [same]

/-- A new key adds one value. -/
theorem values_insert (absent : table.lookup key = none) :
    values (table.insert key value) = value :: table.values := by
  rw [values, entries_insert_of_notMem (lookup_eq_none.mp absent)]
  rfl

/-- A new key adds one entry. -/
theorem size_insert (absent : table.lookup key = none) :
    size (table.insert key value) = table.size + 1 := by
  rw [← length_values, values_insert absent, length_cons, length_values]

/-- Erasing a key takes its value out. -/
theorem values_perm_erase (found : table.lookup key = some value) :
    table.values.Perm (value :: values (table.erase key)) := by
  have present : ⟨key, value⟩ ∈ table.entries := mem_lookup_iff.mp found
  obtain ⟨other, before, after, absent, split, erased⟩ :=
    exists_of_kerase (mem_keys_of_mem present)
  -- The key occurs once, so the entry which is erased is the one which was found.
  have same : other = value := by
    have otherPresent : ⟨key, other⟩ ∈ table.entries := by rw [split]; simp
    have foundOther := mem_lookup_iff.mpr otherPresent
    rw [Option.mem_def, found] at foundOther
    exact (Option.some.inj foundOther).symm
  subst same
  change (table.entries.map Sigma.snd).Perm (other :: (table.entries.kerase key).map Sigma.snd)
  rw [erased, split, map_append, map_append, map_cons]
  exact perm_middle

/-- Erasing a key forgets what was stored under it. -/
theorem erase_insert (table : Table κ α) (key : κ) (value : α) :
    AList.erase key (AList.insert key value table) = AList.erase key table := by
  refine ext ?_
  change kerase key (insert key value table).entries = _
  rw [entries_insert]
  exact kerase_cons_eq rfl

/-- Replacing a value keeps the number of entries. -/
theorem size_insert_of_lookup {other : α} (found : table.lookup key = some other) :
    size (table.insert key value) = table.size := by
  have before := (values_perm_erase found).length_eq
  have after := (values_perm_erase (lookup_insert (s := table) (a := key) (b := value))).length_eq
  rw [length_values, length_cons, length_values] at before after
  rw [erase_insert] at after
  exact after.trans before.symm

/-- An erasure adds no value. -/
theorem mem_values_of_erase (member : value ∈ values (table.erase key)) : value ∈ table.values := by
  obtain ⟨entry, stored, rfl⟩ := mem_map.mp member
  exact mem_map_of_mem ((kerase_sublist _ _).subset stored)

/-- An insertion adds only its value. -/
theorem mem_values_of_insert {added : α} (member : value ∈ values (table.insert key added)) :
    value = added ∨ value ∈ table.values := by
  obtain ⟨entry, stored, rfl⟩ := mem_map.mp member
  rw [entries_insert] at stored
  rcases mem_cons.mp stored with rfl | older
  · exact .inl rfl
  · exact .inr (mem_map_of_mem ((kerase_sublist _ _).subset older))

variable (keyed : Keyed keyOf table)
include keyed

/-- A value inserted under its own key keeps the table keyed. -/
theorem Keyed.insert : Keyed keyOf (table.insert (keyOf value) value) := by
  intro entry member
  rw [entries_insert] at member
  rcases mem_cons.mp member with rfl | older
  · rfl
  · exact keyed entry ((kerase_sublist _ _).subset older)

theorem Keyed.erase : Keyed keyOf (table.erase key) :=
  fun entry member => keyed entry ((kerase_sublist _ _).subset member)

/-- A value of a keyed table is found under its own key. -/
theorem Keyed.lookup (member : value ∈ table.values) : table.lookup (keyOf value) = some value := by
  obtain ⟨entry, present, rfl⟩ := mem_map.mp member
  rw [← keyed entry present]
  exact mem_lookup_iff.mpr present

/-- A key which no value has is absent. -/
theorem Keyed.lookup_eq_none (absent : ∀ value ∈ table.values, keyOf value ≠ key) :
    table.lookup key = none := by
  rw [Option.eq_none_iff_forall_ne_some]
  intro value found
  have present : ⟨key, value⟩ ∈ table.entries := mem_lookup_iff.mp found
  exact absent value (mem_values_of_lookup found) (keyed _ present).symm

end Table

section
variable {α : Type}

/-- Narrow a window of `size` elements starting at `base` to one element. -/
def binarySearchBase (items : List α) (probe : α → Ordering) : Nat → Nat → Nat → Nat
  | 0, base, _ => base
  | fuel + 1, base, size =>
    if size ≤ 1 then base
    else
      let half := size / 2
      let middle := base + half
      let base :=
        match items[middle]? with
        | some item => if probe item = .gt then base else middle
        | none => base
      binarySearchBase items probe fuel base (size - half)

/-- The index of an element whose probe is equal, when the search meets one. -/
def binarySearchBy (items : List α) (probe : α → Ordering) : Option Nat :=
  let base := binarySearchBase items probe items.length 0 items.length
  match items[base]? with
  | some item => if probe item = .eq then some base else none
  | none => none

variable {items : List α} {probe : α → Ordering} {index : Nat} {item : α}

/-- The probe of an element is greater once that of an earlier one was not less. -/
def Ascends (probe : α → Ordering) (items : List α) : Prop :=
  items.Pairwise fun earlier later => probe earlier ≠ .lt → probe later = .gt

theorem Ascends.at (ascends : Ascends probe items) {first second : Nat} {earlier later}
    (ordered : first < second) (readFirst : items[first]? = some earlier)
    (readSecond : items[second]? = some later) (notLess : probe earlier ≠ .lt) :
    probe later = .gt := by
  obtain ⟨firstInside, rfl⟩ := List.getElem?_eq_some_iff.mp readFirst
  obtain ⟨secondInside, rfl⟩ := List.getElem?_eq_some_iff.mp readSecond
  exact pairwise_iff_getElem.mp ascends first second firstInside secondInside ordered notLess

/-- The window narrows to the element which is sought, wherever that stands in it. -/
theorem binarySearchBase_eq (ascends : Ascends probe items) (found : items[index]? = some item)
    (isEqual : probe item = .eq) {fuel base size} (enough : size ≤ fuel + 1)
    (inside : base ≤ index ∧ index < base + size) (fits : base + size ≤ items.length) :
    binarySearchBase items probe fuel base size = index := by
  induction fuel generalizing base size with
  | zero =>
    rw [binarySearchBase]
    omega
  | succ fuel ih =>
    rw [binarySearchBase]
    split
    · omega
    · obtain ⟨middle, read⟩ : ∃ middle, items[base + size / 2]? = some middle :=
        ⟨_, getElem?_eq_getElem (show base + size / 2 < items.length by omega)⟩
      dsimp only
      rw [read]
      dsimp only
      -- The probe of the middle tells on which side of it the sought element stands.
      split
      · next greater =>
        refine ih (by omega) ⟨inside.1, ?_⟩ (by omega)
        by_contra beyond
        rcases Nat.lt_or_eq_of_le (show base + size / 2 ≤ index by omega) with after | rfl
        · cases isEqual.symm.trans (ascends.at after read found (by simp [greater]))
        · obtain rfl := Option.some.inj (read.symm.trans found)
          cases isEqual.symm.trans greater
      · next notGreater =>
        have after : base + size / 2 ≤ index := by
          by_contra before
          exact notGreater (ascends.at (Nat.lt_of_not_le before) found read (by simp [isEqual]))
        have parts : base + size / 2 + (size - size / 2) = base + size := by omega
        exact ih (by omega) ⟨after, parts ▸ inside.2⟩ (parts ▸ fits)

/-- A search of a sorted slice finds what is there. -/
theorem binarySearchBy_eq_some (ascends : Ascends probe items) :
    binarySearchBy items probe = some index ↔
      ∃ item, items[index]? = some item ∧ probe item = .eq := by
  constructor
  · intro found
    rw [binarySearchBy] at found
    split at found
    · next item read =>
      split at found
      · next isEqual => exact ⟨item, Option.some.inj found ▸ read, isEqual⟩
      · cases found
    · cases found
  · rintro ⟨item, read, isEqual⟩
    have inside : index < items.length := (List.getElem?_eq_some_iff.mp read).1
    have narrowed := binarySearchBase_eq ascends read isEqual (Nat.le_succ items.length)
      ⟨Nat.zero_le _, by omega⟩ (by omega)
    rw [binarySearchBy, narrowed, read]
    exact if_pos isEqual

end
end Bangbang
