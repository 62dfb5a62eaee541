import Mathlib.Algebra.Order.Ring.Nat
import Mathlib.Data.List.Basic

/-!
# Rules for runs

A history lists its events with the newest first. `Since reset wanted history` says that some
wanted event happened and no reset came after it, and `Stands` that something was so at first,
or began, and has not ended since. `since_cons` and `stands_cons` are the rules by which a
system invariant follows one more event.

A pool holds tasks which take turns on a shared state. Every task is a value that stands
between two of its atomic sections, and a turn runs the next section of one task on the shared
state. An invariant of such a pool has a part about the shared state and a part about every
task. Either part may refer to the tally of the pool, which says how many tasks are of a given
kind. A turn keeps the invariant when it keeps the part of its own task and interferes with that
of no other.
-/

namespace Bangbang

section
variable {Event : Type} {reset wanted : Event → Prop}

/-- A wanted event which no later event resets. -/
def Since (reset wanted : Event → Prop) (history : List Event) : Prop :=
  ∃ later event earlier, history = later ++ event :: earlier ∧ wanted event ∧
    ∀ other ∈ later, ¬ reset other

@[simp] theorem not_since_nil : ¬ Since reset wanted [] := by
  rintro ⟨later, event, earlier, split, _⟩
  simp at split

/-- An event is wanted itself, or the wanted one before it is not reset by it. -/
theorem since_cons {event : Event} {history : List Event} :
    Since reset wanted (event :: history) ↔
      wanted event ∨ (¬ reset event ∧ Since reset wanted history) := by
  constructor
  · rintro ⟨later, found, earlier, split, isWanted, notReset⟩
    cases later with
    | nil =>
      simp only [List.nil_append, List.cons.injEq] at split
      exact .inl (split.1 ▸ isWanted)
    | cons first later =>
      simp only [List.cons_append, List.cons.injEq] at split
      refine .inr ⟨split.1 ▸ notReset first List.mem_cons_self, ?_⟩
      exact ⟨later, found, earlier, split.2, isWanted, fun other member =>
        notReset other (List.mem_cons_of_mem _ member)⟩
  · rintro (isWanted | ⟨notReset, later, found, earlier, rfl, isWanted, noneReset⟩)
    · exact ⟨[], event, history, rfl, isWanted, nofun⟩
    · exact ⟨event :: later, found, earlier, rfl, isWanted,
        List.forall_mem_cons.mpr ⟨notReset, noneReset⟩⟩

variable {ended began : Event → Prop} {atFirst : Prop}

/-- Something was so at first, or began, and no later event ended it. -/
def Stands (ended began : Event → Prop) (atFirst : Prop) (history : List Event) : Prop :=
  Since ended began history ∨ (∀ event ∈ history, ¬ ended event) ∧ atFirst

@[simp] theorem stands_nil : Stands ended began atFirst [] ↔ atFirst := by
  simp [Stands]

/-- What stands after an event began with it, or stood before and was not ended by it. -/
theorem stands_cons {event : Event} {history : List Event} :
    Stands ended began atFirst (event :: history) ↔
      began event ∨ (¬ ended event ∧ Stands ended began atFirst history) := by
  rw [Stands, Stands, since_cons, List.forall_mem_cons]
  tauto

end

open List

/-- Tasks and the state which they share. Tasks stay in the pool after they have finished. -/
structure Pool (σ τ : Type) where
  shared : σ
  tasks : List τ
deriving DecidableEq, Repr

namespace Pool

variable {σ τ κ : Type}

/-- One task runs its next atomic section. -/
def turn (advance : σ → τ → σ × τ) (pool : Pool σ τ) (index : Nat) : Pool σ τ :=
  match pool.tasks[index]? with
  | none => pool
  | some task =>
    let (shared, next) := advance pool.shared task
    { shared, tasks := pool.tasks.set index next }

/-- A task joins the pool. -/
def spawn (pool : Pool σ τ) (task : τ) : Pool σ τ := { pool with tasks := pool.tasks ++ [task] }

end Pool

/-- How many tasks there are of every kind. -/
def tally {τ κ : Type} (counted : κ → τ → Bool) (tasks : List τ) (kind : κ) : Nat :=
  tasks.countP (counted kind)

section
variable {τ κ : Type} {counted : κ → τ → Bool} {tasks : List τ}

/-- A new task is counted by its kinds. -/
theorem tally_append (task : τ) (kind : κ) :
    tally counted (tasks ++ [task]) kind =
      tally counted tasks kind + (counted kind task).toNat := by
  rw [tally, tally, countP_append, countP_singleton]
  cases counted kind task <;> rfl

/-- A task which is counted makes its tally positive. -/
theorem tally_pos {task : τ} (present : task ∈ tasks) {kind : κ} (isCounted : counted kind task) :
    0 < tally counted tasks kind :=
  countP_pos_iff.mpr ⟨task, present, isCounted⟩

/-- A task which is replaced leaves the tally of its old kinds for that of its new ones. -/
theorem tally_set {index} {task next : τ} (current : tasks[index]? = some task) (kind : κ) :
    tally counted (tasks.set index next) kind + (counted kind task).toNat =
      tally counted tasks kind + (counted kind next).toNat := by
  induction tasks generalizing index with
  | nil => cases current
  | cons first rest ih =>
    cases index with
    | zero =>
      cases current
      simp only [tally, set_cons_zero, countP_cons]
      cases counted kind task <;> cases counted kind next <;> simp
    | succ index =>
      have moved := ih current
      simp only [tally, set_cons_succ, countP_cons] at moved ⊢
      omega

/-- A task which is replaced by one with the same observation leaves all observations. -/
theorem filterMap_set {α : Type} {observe : τ → Option α} {index : Nat} {task next : τ}
    (current : tasks[index]? = some task) (same : observe next = observe task) :
    (tasks.set index next).filterMap observe = tasks.filterMap observe := by
  induction tasks generalizing index with
  | nil => rfl
  | cons first rest ih =>
    cases index with
    | zero =>
      cases current
      rw [set_cons_zero, filterMap_cons, filterMap_cons, same]
    | succ index =>
      rw [set_cons_succ, filterMap_cons, filterMap_cons, ih current]

/-- A turn which never brings a task to a kind lowers the tally of that kind. -/
theorem le_of_moves {before after} {was is : Bool}
    (same : after + was.toNat = before + is.toNat) (drops : is → was) : after ≤ before := by
  cases was <;> cases is <;> simp at same drops <;> omega

end

/-- An invariant of a pool: one part about the shared state, one about every task. -/
structure Discipline (σ τ κ : Type) where
  counted : κ → τ → Bool
  Shared : (κ → Nat) → σ → Prop
  Task : (κ → Nat) → σ → τ → Prop

namespace Discipline

variable {σ τ κ : Type} (discipline : Discipline σ τ κ)

/-- The invariant of a pool. -/
structure Sound (pool : Pool σ τ) : Prop where
  shared : discipline.Shared (tally discipline.counted pool.tasks) pool.shared
  tasks : ∀ task ∈ pool.tasks,
    discipline.Task (tally discipline.counted pool.tasks) pool.shared task

/-- A change of the shared state and the tally which disturbs no task that stands by. -/
def Undisturbed (before after : κ → Nat) (shared next : σ) : Prop :=
  ∀ other, (∀ kind, discipline.counted kind other → 0 < before kind) →
    discipline.Task before shared other → discipline.Task after next other

/-- A turn of one task which keeps the invariant, whatever the other tasks are. -/
def Keeps (before : κ → Nat) (shared : σ) (task : τ) (next : σ) (moved : τ) : Prop :=
  ∀ after : κ → Nat,
    (∀ kind, after kind + (discipline.counted kind task).toNat =
      before kind + (discipline.counted kind moved).toNat) →
    discipline.Shared after next ∧ discipline.Task after next moved ∧
      discipline.Undisturbed before after shared next

variable {discipline}

/-- A turn keeps the invariant when it keeps the part of its own task and that of every other. -/
theorem Sound.turn {pool} (sound : discipline.Sound pool)
    {advance : σ → τ → σ × τ} (index : Nat)
    (keeps : ∀ task ∈ pool.tasks, (∀ kind, discipline.counted kind task →
        0 < tally discipline.counted pool.tasks kind) →
      discipline.Keeps (tally discipline.counted pool.tasks) pool.shared task
        (advance pool.shared task).1 (advance pool.shared task).2) :
    discipline.Sound (pool.turn advance index) := by
  rw [Pool.turn]
  cases current : pool.tasks[index]? with
  | none => exact sound
  | some task =>
    have present : task ∈ pool.tasks := mem_of_getElem? current
    obtain ⟨shared, own, others⟩ :=
      keeps task present (fun kind => tally_pos present) _ (tally_set current)
    refine ⟨shared, fun other member => ?_⟩
    rcases mem_or_eq_of_mem_set member with stays | rfl
    · exact others other (fun kind => tally_pos stays) (sound.tasks other stays)
    · exact own

/-- A new task keeps the invariant when its own part holds beside the others. -/
theorem Sound.spawn {pool} (sound : discipline.Sound pool) {task : τ}
    (keeps : ∀ after : κ → Nat, (∀ kind, after kind = tally discipline.counted pool.tasks kind +
        (discipline.counted kind task).toNat) →
      discipline.Shared after pool.shared ∧ discipline.Task after pool.shared task ∧
        discipline.Undisturbed (tally discipline.counted pool.tasks) after pool.shared
          pool.shared) : discipline.Sound (pool.spawn task) := by
  obtain ⟨shared, own, others⟩ := keeps _ (tally_append task)
  refine ⟨shared, fun other member => ?_⟩
  rcases mem_append.mp member with stays | isNew
  · exact others other (fun kind => tally_pos stays) (sound.tasks other stays)
  · rw [mem_singleton.mp isNew]
    exact own

end Discipline
end Bangbang
