import Mathlib.Algebra.Order.Ring.Nat

/-!
# Fallible computation

Early returns, checked machine arithmetic, and the inversion rules which peel a
successful computation apart. `rejectIf` is the shape of a guard which returns
an error; `checkedAdd`, `checkedSub`, and `checkedMul` are 64-bit unsigned
operations which refuse to wrap.
-/

namespace Bangbang

open List

section
variable {ε α β : Type}

/-- Return `error` when a rejected condition holds. -/
def rejectIf (rejected : Prop) [Decidable rejected] (error : ε) : Except ε Unit :=
  if rejected then .error error else .ok ()

/-- Attach an error to an absent value. -/
def okOr (value : Option α) (error : ε) : Except ε α :=
  match value with
  | some value => .ok value
  | none => .error error

variable {first : Except ε α} {rest : α → Except ε β}

/-- A sequence succeeds when both of its parts do. -/
theorem bind_eq_ok {result : β} :
    (first >>= rest) = .ok result ↔ ∃ value, first = .ok value ∧ rest value = .ok result := by
  cases first <;> simp [bind, Except.bind]

theorem pure_eq_ok {value result : α} :
    (pure value : Except ε α) = .ok result ↔ value = result := by
  simp [pure, Except.pure]

variable {done : Unit} {error : ε} {rejected : Prop}

@[simp] theorem rejectIf_eq_ok [Decidable rejected] :
    rejectIf rejected error = .ok done ↔ ¬ rejected := by
  simp [rejectIf]

variable {value : Option α}

@[simp] theorem okOr_eq_ok {result : α} : okOr value error = .ok result ↔ value = some result := by
  cases value <;> simp [okOr]

@[simp] theorem mapError_eq_ok {ε' : Type} {translate : ε → ε'} {result : α} :
    first.mapError translate = .ok result ↔ first = .ok result := by
  cases first <;> simp [Except.mapError]

@[simp] theorem ok_bind (value : α) (rest : α → Except ε β) :
    ((.ok value : Except ε α) >>= rest) = rest value := rfl

@[simp] theorem error_bind (error : ε) (rest : α → Except ε β) :
    ((.error error : Except ε α) >>= rest) = .error error := rfl

/-- A sequence fails with the first failure. -/
theorem bind_eq_error :
    (first >>= rest) = .error error ↔
      first = .error error ∨ ∃ value, first = .ok value ∧ rest value = .error error := by
  cases first <;> simp [bind, Except.bind]

variable {error other : ε}

@[simp] theorem rejectIf_eq_error [Decidable rejected] :
    rejectIf rejected error = .error other ↔ rejected ∧ error = other := by
  unfold rejectIf
  split <;> simp [*]

@[simp] theorem okOr_eq_error : okOr value error = .error other ↔ value = none ∧ error = other := by
  cases value <;> simp [okOr]

@[simp] theorem guard_eq_some {condition : Prop} [Decidable condition] :
    (guard condition : Option Unit) = some done ↔ condition := by
  unfold guard
  split <;> simp [*]

variable {items : List α}

/-- A check of every item passes when each check passes. -/
theorem forM_eq_ok {check : α → Except ε Unit} :
    items.forM check = .ok done ↔ ∀ item ∈ items, check item = .ok () := by
  induction items with
  | nil => simp [List.forM, pure, Except.pure]
  | cons item items ih =>
    rw [show (item :: items).forM check = check item >>= fun _ => items.forM check from rfl,
      bind_eq_ok, List.forall_mem_cons, ← ih]
    exact ⟨fun ⟨_, first, rest⟩ => ⟨first, rest⟩, fun ⟨first, rest⟩ => ⟨(), first, rest⟩⟩

/-- A result together with the computation which gave it. -/
def attach (action : Except ε α) : Except ε { value : α // action = .ok value } :=
  match action with
  | .error error => .error error
  | .ok value => .ok ⟨value, rfl⟩

@[simp] theorem attach_eq_ok {action : Except ε α} {result : { value : α // action = .ok value }} :
    attach action = .ok result := by
  obtain ⟨value, rfl⟩ := result
  rfl

variable {results : List β}

/-- A traversal succeeds when every action does, with their results in order. -/
theorem mapM_eq_ok {action : α → Except ε β} :
    items.mapM action = .ok results ↔ items.map action = results.map .ok := by
  induction items generalizing results with
  | nil =>
    rw [mapM_nil, pure_eq_ok, map_nil, eq_comm, eq_comm (a := []), map_eq_nil_iff]
  | cons item items ih =>
    simp only [mapM_cons, bind_eq_ok, pure_eq_ok, ih, map_cons]
    constructor
    · rintro ⟨first, made, rest, others, rfl⟩
      rw [made, others, map_cons]
    · intro same
      cases results with
      | nil => simp at same
      | cons first rest =>
        simp only [map_cons, cons.injEq] at same
        exact ⟨first, same.1, rest, same.2, rfl⟩

/-- Reading the items of a table by their index. -/
theorem mapM_range_eq_ok {action : Nat → Except ε β} {count : Nat} :
    (List.range count).mapM action = .ok results ↔ results.length = count ∧
      ∀ index result, results[index]? = some result → action index = .ok result := by
  rw [mapM_eq_ok]
  constructor
  · intro same
    have length : results.length = count := by simpa using (congrArg List.length same).symm
    refine ⟨length, fun index result found => ?_⟩
    have inside : index < count := length ▸ (List.getElem?_eq_some_iff.mp found).1
    have entry := congrArg (fun entries => entries[index]?) same
    simpa [inside, found] using entry
  · rintro ⟨rfl, found⟩
    apply List.ext_getElem
    · simp
    · intro index inRange inResults
      simp only [List.getElem_map, List.getElem_range]
      exact found index _ (List.getElem?_eq_getElem _)

end

section

/-- The number of values of a 64-bit unsigned machine word. -/
def wordLimit : Nat := 2 ^ 64

theorem wordLimit_eq : wordLimit = 18446744073709551616 := rfl

/-- A sum which fits a 64-bit word. -/
def checkedAdd (left right : Nat) : Option Nat :=
  if left + right < wordLimit then some (left + right) else none

/-- A difference which is not negative. -/
def checkedSub (left right : Nat) : Option Nat :=
  if right ≤ left then some (left - right) else none

/-- A product which fits a 64-bit word. -/
def checkedMul (left right : Nat) : Option Nat :=
  if left * right < wordLimit then some (left * right) else none

variable {left right result : Nat}

@[simp] theorem checkedAdd_eq_some :
    checkedAdd left right = some result ↔ left + right < wordLimit ∧ left + right = result := by
  simp [checkedAdd]

@[simp] theorem checkedSub_eq_some :
    checkedSub left right = some result ↔ right ≤ left ∧ left - right = result := by
  simp [checkedSub]

@[simp] theorem checkedMul_eq_some :
    checkedMul left right = some result ↔ left * right < wordLimit ∧ left * right = result := by
  simp [checkedMul]

end
end Bangbang
