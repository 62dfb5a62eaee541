import Bangbang.Base.Fallible

/-!
# Fallible actions on a state

An `Action` reads and changes a state and may then fail. A failure keeps the
changes made before it, as an early return from a method with a mutable receiver
does. `outcome` runs an action, and the rules below peel an outcome apart one
bind at a time. `Ensures` says what holds after a run from one state, for a value and
for a failure separately; its rules reduce a sequence to conditions on its parts.
-/

namespace Bangbang

/-- A computation on a state whose failure does not undo its changes. -/
abbrev Action (σ ε : Type) : Type → Type := ExceptT ε (StateM σ)

namespace Action

variable {σ ε α β : Type} {state final : σ}

/-- The result of an action and the state which it leaves. -/
def outcome (action : Action σ ε α) (state : σ) : Except ε α × σ :=
  Id.run (StateT.run (ExceptT.run action) state)

/-- A check which changes nothing. -/
def check (result : Except ε α) : Action σ ε α := ExceptT.mk (pure result)

@[simp] theorem outcome_pure (value : α) :
    outcome (pure value : Action σ ε α) state = (.ok value, state) := rfl

@[simp] theorem outcome_check (result : Except ε α) :
    outcome (check result : Action σ ε α) state = (result, state) := rfl

@[simp] theorem outcome_get : outcome (get : Action σ ε σ) state = (.ok state, state) := rfl

@[simp] theorem outcome_set (next : σ) :
    outcome (set next : Action σ ε PUnit) state = (.ok ⟨⟩, next) := rfl

@[simp] theorem outcome_modify (change : σ → σ) :
    outcome (modify change : Action σ ε PUnit) state = (.ok ⟨⟩, change state) := rfl

/-- A sequence runs its second part where the first has succeeded. -/
theorem outcome_bind (first : Action σ ε α) (next : α → Action σ ε β) :
    outcome (first >>= next) state =
      match outcome first state with
      | (.ok value, middle) => outcome (next value) middle
      | (.error error, middle) => (.error error, middle) := by
  change Id.run (StateT.run (ExceptT.run first >>= ExceptT.bindCont next) state) = _
  rw [StateT.run_bind]
  rcases answer : outcome first state with ⟨result, middle⟩
  change StateT.run (ExceptT.run first) state = (result, middle) at answer
  rw [answer]
  cases result <;> rfl

@[simp] theorem outcome_get_bind (next : σ → Action σ ε β) :
    outcome (get >>= next) state = outcome (next state) state := by
  rw [outcome_bind, outcome_get]

@[simp] theorem outcome_modify_bind (change : σ → σ) (next : PUnit → Action σ ε β) :
    outcome (modify change >>= next) state = outcome (next ⟨⟩) (change state) := by
  rw [outcome_bind, outcome_modify]

variable {next : α → Action σ ε β}

/-- What follows a check runs when the check passes. -/
@[simp] theorem outcome_check_bind_eq_ok {result value} :
    outcome (check result >>= next) state = (.ok value, final) ↔
      ∃ passed, result = .ok passed ∧ outcome (next passed) state = (.ok value, final) := by
  rw [outcome_bind, outcome_check]
  cases result <;> simp

/-- A sequence succeeds when both of its parts do. -/
theorem outcome_bind_eq_ok {first result} :
    outcome (first >>= next) state = (.ok result, final) ↔
      ∃ value middle, outcome first state = (.ok value, middle) ∧
        outcome (next value) middle = (.ok result, final) := by
  rw [outcome_bind]
  rcases outcome first state with ⟨error | value, middle⟩ <;> simp [and_assoc]

/-- Whatever its result, the action relates the state before and after it. -/
def Keeps (relation : σ → σ → Prop) (action : Action σ ε α) : Prop :=
  ∀ state, relation state (outcome action state).2

section
variable {relation : σ → σ → Prop}

section
variable (reflexive : ∀ state, relation state state)
include reflexive

/-- A program which only returns keeps any reflexive relation. -/
theorem keeps_pure (value : α) :
    Keeps relation (pure value : Action σ ε α) := reflexive

theorem keeps_get :
    Keeps relation (get : Action σ ε σ) := reflexive

theorem keeps_check (result : Except ε α) :
    Keeps relation (check result : Action σ ε α) := reflexive

end

/-- A change of the state keeps the relation which it makes. -/
theorem keeps_modify {change} (changes : ∀ state, relation state (change state)) :
    Keeps relation (modify change : Action σ ε PUnit) := changes

/-- A sequence keeps a transitive relation which its parts keep. -/
theorem Keeps.bind
    (transitive : ∀ {first second third}, relation first second →
      relation second third → relation first third) {first} {next : α → Action σ ε β}
    (keepsFirst : Keeps relation first) (keepsNext : ∀ value, Keeps relation (next value)) :
    Keeps relation (first >>= next) := by
  intro state
  have before := keepsFirst state
  rw [outcome_bind]
  rcases answer : outcome first state with ⟨error | value, middle⟩ <;> rw [answer] at before
  · exact before
  · exact transitive before (keepsNext value middle)

end

/-- Run from `state`, the action returns a value and a state in `post`, or fails with
an error and a state in `fails`. -/
def Ensures (action : Action σ ε α) (state : σ) (post : α → σ → Prop)
    (fails : ε → σ → Prop) : Prop :=
  match outcome action state with
  | (.ok value, final) => post value final
  | (.error error, final) => fails error final

section
variable {post : α → σ → Prop} {fails : ε → σ → Prop}

@[simp] theorem ensures_pure {value} :
    Ensures (pure value : Action σ ε α) state post fails ↔ post value state := Iff.rfl

@[simp] theorem ensures_get {post : σ → σ → Prop} :
    Ensures (get : Action σ ε σ) state post fails ↔ post state state := Iff.rfl

@[simp] theorem ensures_set {next} {post : PUnit → σ → Prop} :
    Ensures (set next : Action σ ε PUnit) state post fails ↔ post ⟨⟩ next := Iff.rfl

@[simp] theorem ensures_modify {change} {post : PUnit → σ → Prop} :
    Ensures (modify change : Action σ ε PUnit) state post fails ↔ post ⟨⟩ (change state) :=
  Iff.rfl

variable {error : ε}

@[simp] theorem ensures_rejectIf {rejected : Prop} [Decidable rejected] {post : Unit → σ → Prop} :
    Ensures (check (rejectIf rejected error) : Action σ ε Unit) state post fails ↔
      (rejected → fails error state) ∧ (¬ rejected → post () state) := by
  by_cases holds : rejected <;> simp [Ensures, rejectIf, holds]

@[simp] theorem ensures_okOr {value} :
    Ensures (check (okOr value error) : Action σ ε α) state post fails ↔
      (value = none → fails error state) ∧ ∀ found, value = some found → post found state := by
  cases value <;> simp [Ensures, okOr]

/-- A check leaves the state alone, whatever its result. -/
theorem ensures_check {result} :
    Ensures (check result : Action σ ε α) state post fails ↔
      (∀ error, result = .error error → fails error state) ∧
        ∀ value, result = .ok value → post value state := by
  cases result <;> simp [Ensures]

/-- The first part of a sequence must establish what the second one needs. -/
@[simp] theorem ensures_bind {first} {next : α → Action σ ε β}
    {post : β → σ → Prop} :
    Ensures (first >>= next) state post fails ↔
      Ensures first state (fun value middle => Ensures (next value) middle post fails) fails := by
  unfold Ensures
  rw [outcome_bind]
  rcases outcome first state with ⟨error | value, middle⟩ <;> rfl

@[simp] theorem ensures_throw :
    Ensures (throw error : Action σ ε α) state post fails ↔ fails error state := Iff.rfl

variable {action}

/-- A handler runs in the state which the failure left. -/
@[simp] theorem ensures_tryCatch {handle} :
    Ensures (tryCatch action handle) state post fails ↔
      Ensures action state post fun error final => Ensures (handle error) final post fails := by
  have same : outcome (tryCatch action handle) state =
      match outcome action state with
      | (.ok value, final) => (.ok value, final)
      | (.error error, final) => outcome (handle error) final := by
    change Id.run (StateT.run (ExceptT.run action >>= fun result =>
      match result with
      | .ok value => pure (.ok value)
      | .error error => ExceptT.run (handle error)) state) = _
    rw [StateT.run_bind]
    rcases answer : outcome action state with ⟨result, final⟩
    change StateT.run (ExceptT.run action) state = (result, final) at answer
    rw [answer]
    cases result <;> rfl
  unfold Ensures
  rw [same]
  rcases outcome action state with ⟨error | value, final⟩ <;> rfl

variable (ensures : Ensures action state post fails)
include ensures

/-- How an action ended. -/
theorem Ensures.cases :
    (∃ value, (outcome action state).1 = .ok value ∧ post value (outcome action state).2) ∨
      ∃ error, (outcome action state).1 = .error error ∧ fails error (outcome action state).2 := by
  revert ensures
  unfold Ensures
  rcases outcome action state with ⟨error | value, final⟩
  · exact fun failed => .inr ⟨error, rfl, failed⟩
  · exact fun holds => .inl ⟨value, rfl, holds⟩

/-- A weaker postcondition follows. -/
theorem Ensures.mono {weaker : α → σ → Prop} {weakerFails : ε → σ → Prop}
    (value : ∀ value final, post value final → weaker value final)
    (failure : ∀ error final, fails error final → weakerFails error final) :
    Ensures action state weaker weakerFails := by
  revert ensures
  unfold Ensures
  rcases outcome action state with ⟨error | result, final⟩
  · exact failure error final
  · exact value result final

end

/-! ## Errors as values -/

section
variable {ε' : Type} {action : Action σ ε α}

/-- Gives every failure another error. -/
def mapError (translate : ε → ε') (action : Action σ ε α) : Action σ ε' α :=
  ExceptT.mk do
    let result ← ExceptT.run action
    pure (result.mapError translate)

/-- The result of an action as a value; this does not fail. -/
def attempt (action : Action σ ε α) : Action σ ε' (Except ε α) :=
  ExceptT.mk do
    let result ← ExceptT.run action
    pure (.ok result)

@[simp] theorem outcome_mapError (translate : ε → ε') :
    outcome (mapError translate action) state =
      ((outcome action state).1.mapError translate, (outcome action state).2) := rfl

@[simp] theorem outcome_attempt :
    outcome (attempt action : Action σ ε' (Except ε α)) state =
      (.ok (outcome action state).1, (outcome action state).2) := rfl

variable {fails : ε' → σ → Prop}

@[simp] theorem ensures_mapError {translate} {post : α → σ → Prop} :
    Ensures (mapError translate action) state post fails ↔
      Ensures action state post fun error => fails (translate error) := by
  unfold Ensures
  rw [outcome_mapError]
  rcases outcome action state with ⟨error | value, final⟩ <;> rfl

@[simp] theorem ensures_attempt {post : Except ε α → σ → Prop} :
    Ensures (attempt action) state post fails ↔
      Ensures action state (fun value => post (.ok value)) fun error => post (.error error) := by
  unfold Ensures
  rw [outcome_attempt]
  rcases outcome action state with ⟨error | value, final⟩ <;> rfl

end
end Action
end Bangbang
