import Bangbang.Base.Action

/-!
# A program among others

A program shares a state with others, who may take any number of steps before each of its
accesses. What they do before the next accesses is a list of turns, so that a statement about
every list speaks of every interleaving. `Amid` says what a program does provided that every
turn keeps to a relation: a precondition must survive the turns, and each access is judged in
the state which the others left.
-/

namespace Bangbang

open Bangbang.Action

/-- What is shared, what the others do before the next accesses, and what the program keeps for
itself. -/
structure Scene (μ σ : Type) where
  shared : μ
  turns : List (μ → μ)
  own : σ

section
variable {μ σ ε α : Type}

/-- One access, after the turn of the others. -/
def access (operation : μ → α × μ) : Action (Scene μ σ) ε α := do
  let scene ← get
  let done := operation (scene.turns.headD id scene.shared)
  set { scene with shared := done.2, turns := scene.turns.tail }
  pure done.1

/-- An access which changes nothing and may fail. -/
def observe (read : μ → Except ε α) : Action (Scene μ σ) ε α := do
  let answer ← access fun shared => (read shared, shared)
  Action.check answer

/-- An access which may fail. -/
def perform (operation : μ → Except ε α × μ) : Action (Scene μ σ) ε α := do
  let answer ← access operation
  Action.check answer

/-- What the program keeps for itself. -/
def consult : Action (Scene μ σ) ε σ := do
  let scene ← get
  pure scene.own

/-- A note for the program itself. -/
def note (change : σ → σ) : Action (Scene μ σ) ε Unit :=
  modify fun scene => { scene with own := change scene.own }

end

/-- Every turn of the others keeps to `rely`. -/
def Scene.Relies {μ σ : Type} (rely : μ → μ → Prop) (scene : Scene μ σ) : Prop :=
  ∀ turn ∈ scene.turns, ∀ shared, rely shared (turn shared)

/-- Among others who keep to `rely` the program leaves a state in `post`, or fails and leaves
one in `fails`. -/
def Amid {μ σ ε α : Type} (rely : μ → μ → Prop) (pre : μ → σ → Prop)
    (program : Action (Scene μ σ) ε α) (post : α → μ → σ → Prop) (fails : ε → μ → σ → Prop) :
    Prop :=
  ∀ scene : Scene μ σ, scene.Relies rely → pre scene.shared scene.own →
    Action.Ensures program scene
      (fun value final => final.Relies rely ∧ post value final.shared final.own)
      fun error final => final.Relies rely ∧ fails error final.shared final.own

namespace Amid

variable {μ σ ε ε' α β : Type} {rely : μ → μ → Prop} {pre : μ → σ → Prop}
  {post : α → μ → σ → Prop} {fails : ε → μ → σ → Prop}

/-- The access happens in a state which the others left. -/
theorem access (reflexive : ∀ shared, rely shared shared) {operation}
    (runs : ∀ shared own next, pre shared own → rely shared next →
      post (operation next).1 (operation next).2 own) :
    Amid rely pre (Bangbang.access operation : Action (Scene μ σ) ε α) post fails := by
  intro scene relies holds
  simp only [Bangbang.access, ensures_bind, ensures_get, ensures_set, ensures_pure]
  refine ⟨fun turn member => relies turn (List.mem_of_mem_tail member), ?_⟩
  refine runs scene.shared scene.own _ holds ?_
  cases turns : scene.turns with
  | nil => exact reflexive _
  | cons turn rest => exact relies turn (turns ▸ List.mem_cons_self) _

variable {next : α → Action (Scene μ σ) ε β} {middle : α → μ → σ → Prop}

/-- A sequence passes what its first part establishes to its second. -/
theorem bind {first} {post : β → μ → σ → Prop}
    (runsFirst : Amid rely pre first middle fails)
    (runsNext : ∀ value, Amid rely (middle value) (next value) post fails) :
    Amid rely pre (first >>= next) post fails := by
  intro scene relies holds
  rw [ensures_bind]
  refine (runsFirst scene relies holds).mono (fun value final reached => ?_) fun _ _ => id
  exact runsNext value final reached.1 reached.2

theorem pure {value} (holds : ∀ shared own, pre shared own → post value shared own) :
    Amid rely pre (Pure.pure value : Action (Scene μ σ) ε α) post fails :=
  fun _ relies starts => ⟨relies, holds _ _ starts⟩

theorem throw {error} (holds : ∀ shared own, pre shared own → fails error shared own) :
    Amid rely pre (MonadExcept.throw error : Action (Scene μ σ) ε α) post fails :=
  fun _ relies starts => ⟨relies, holds _ _ starts⟩

variable {result}

/-- A check is judged by its result, and nobody takes a turn. -/
theorem check
    (passes : ∀ value shared own, result = .ok value → pre shared own → post value shared own)
    (refuses : ∀ error shared own, result = .error error → pre shared own → fails error shared own)
    : Amid rely pre (Action.check result : Action (Scene μ σ) ε α) post fails := by
  intro scene relies starts
  rw [ensures_check]
  exact ⟨fun error failed => ⟨relies, refuses error _ _ failed starts⟩,
    fun value passed => ⟨relies, passes value _ _ passed starts⟩⟩

theorem check_bind {post : β → μ → σ → Prop}
    (passes : ∀ value, result = .ok value → Amid rely pre (next value) post fails)
    (refuses : ∀ error shared own, result = .error error → pre shared own → fails error shared own)
    : Amid rely pre (Action.check result >>= next) post fails := by
  intro scene relies starts
  rw [ensures_bind, ensures_check]
  exact ⟨fun error failed => ⟨relies, refuses error _ _ failed starts⟩,
    fun value passed => passes value passed scene relies starts⟩

/-- An observation is judged in the state which the others left. -/
theorem observe (reflexive : ∀ shared, rely shared shared) {read}
    (passes : ∀ shared own next value, pre shared own → rely shared next → read next = .ok value →
      post value next own)
    (refuses : ∀ shared own next error, pre shared own → rely shared next →
      read next = .error error → fails error next own) :
    Amid rely pre (Bangbang.observe read : Action (Scene μ σ) ε α) post fails := by
  have reads : Amid rely pre (Bangbang.access fun shared => (read shared, shared))
      (fun answer next own => ∃ shared, pre shared own ∧ rely shared next ∧ read next = answer)
      fails :=
    access reflexive fun shared own next holds relies => ⟨shared, holds, relies, rfl⟩
  refine bind reads fun answer => ?_
  refine check (fun value next own isOk ⟨shared, holds, relies, isRead⟩ => ?_)
    fun error next own isError ⟨shared, holds, relies, isRead⟩ => ?_
  · exact passes shared own next value holds relies (isRead.trans isOk)
  · exact refuses shared own next error holds relies (isRead.trans isError)

/-- An operation is judged in the state which the others left, and changes it. -/
theorem perform (reflexive : ∀ shared, rely shared shared) {operation}
    (passes : ∀ shared own next value last, pre shared own → rely shared next →
      operation next = (.ok value, last) → post value last own)
    (refuses : ∀ shared own next error last, pre shared own → rely shared next →
      operation next = (.error error, last) → fails error last own) :
    Amid rely pre (Bangbang.perform operation : Action (Scene μ σ) ε α) post fails := by
  have acts : Amid rely pre (Bangbang.access operation)
      (fun answer last own => ∃ shared next, pre shared own ∧ rely shared next ∧
        operation next = (answer, last)) fails :=
    access reflexive fun shared own next holds relies => ⟨shared, next, holds, relies, rfl⟩
  refine bind acts fun answer => ?_
  refine check (fun value last own isOk ⟨shared, next, holds, relies, done⟩ => ?_)
    fun error last own isError ⟨shared, next, holds, relies, done⟩ => ?_
  · exact passes shared own next value last holds relies (isOk ▸ done)
  · exact refuses shared own next error last holds relies (isError ▸ done)

/-- What the program keeps for itself is known. -/
theorem consult {post : σ → μ → σ → Prop}
    (holds : ∀ shared own, pre shared own → post own shared own) :
    Amid rely pre (Bangbang.consult : Action (Scene μ σ) ε σ) post fails :=
  fun _ relies starts => ⟨relies, holds _ _ starts⟩

/-- A note changes what the program keeps for itself, and nothing shared. -/
theorem note {change} {post : Unit → μ → σ → Prop}
    (holds : ∀ shared own, pre shared own → post () shared (change own)) :
    Amid rely pre (Bangbang.note change : Action (Scene μ σ) ε Unit) post fails :=
  fun _ relies starts => ⟨relies, holds _ _ starts⟩

variable {program}

theorem mapError {translate : ε → ε'} {fails : ε' → μ → σ → Prop}
    (runs : Amid rely pre program post fun error => fails (translate error)) :
    Amid rely pre (Action.mapError translate program) post fails := by
  intro scene relies holds
  rw [ensures_mapError]
  exact runs scene relies holds

/-- An attempt goes on from a failure as well as from a success. -/
theorem attempt_bind {next} {failed : ε → μ → σ → Prop} {post : β → μ → σ → Prop}
    {fails : ε' → μ → σ → Prop} (runs : Amid rely pre program middle failed)
    (passed : ∀ value, Amid rely (middle value) (next (.ok value)) post fails)
    (refused : ∀ error, Amid rely (failed error) (next (.error error)) post fails) :
    Amid rely pre (Action.attempt program >>= next) post fails := by
  intro scene relies holds
  rw [ensures_bind, ensures_attempt]
  refine (runs scene relies holds).mono (fun value final reached => ?_)
    fun error final reached => ?_
  · exact passed value final reached.1 reached.2
  · exact refused error final reached.1 reached.2

/-- A stronger precondition and weaker conclusions follow. -/
theorem weaken {stronger : μ → σ → Prop} {weakerPost : α → μ → σ → Prop}
    {weakerFails : ε → μ → σ → Prop} (runs : Amid rely pre program post fails)
    (before : ∀ shared own, stronger shared own → pre shared own)
    (after : ∀ value shared own, post value shared own → weakerPost value shared own)
    (failed : ∀ error shared own, fails error shared own → weakerFails error shared own) :
    Amid rely stronger program weakerPost weakerFails := by
  intro scene relies holds
  refine (runs scene relies (before _ _ holds)).mono (fun value final reached => ?_)
    fun error final reached => ?_
  · exact ⟨reached.1, after _ _ _ reached.2⟩
  · exact ⟨reached.1, failed _ _ _ reached.2⟩

/-- A fact in the precondition is a hypothesis. -/
theorem and_pre {fact : Prop} (runs : fact → Amid rely pre program post fails) :
    Amid rely (fun shared own => fact ∧ pre shared own) program post fails :=
  fun scene relies ⟨known, holds⟩ => runs known scene relies holds

/-- A choice in the precondition is made before the program runs. -/
theorem exists_pre {ι : Type} {pre : ι → μ → σ → Prop}
    (runs : ∀ index, Amid rely (pre index) program post fails) :
    Amid rely (fun shared own => ∃ index, pre index shared own) program post fails :=
  fun scene relies ⟨index, holds⟩ => runs index scene relies holds

end Amid

/-! ## Programs which keep an assertion -/

/-- Whatever the others do, `holds` stays true. -/
def Steady {μ σ : Type} (rely : μ → μ → Prop) (holds : μ → σ → Prop) : Prop :=
  ∀ shared next own, holds shared own → rely shared next → holds next own

/-- The program keeps `holds`, and returns only values of which `fact` is true. -/
def Minds {μ σ ε α : Type} (rely : μ → μ → Prop) (holds : μ → σ → Prop)
    (program : Action (Scene μ σ) ε α) (fact : α → Prop) : Prop :=
  Amid rely holds program (fun value shared own => fact value ∧ holds shared own) fun _ => holds

namespace Minds

variable {μ σ ε ε' α β : Type} {rely : μ → μ → Prop} {holds : μ → σ → Prop} {fact : α → Prop}

theorem observe (reflexive : ∀ shared, rely shared shared) (steady : Steady rely holds) {read}
    (known : ∀ shared value, read shared = .ok value → fact value) :
    Minds rely holds (Bangbang.observe read : Action (Scene μ σ) ε α) fact :=
  Amid.observe reflexive
    (fun _ _ next _ starts relies isRead => ⟨known next _ isRead, steady _ _ _ starts relies⟩)
    fun _ _ _ _ starts relies _ => steady _ _ _ starts relies

theorem bind {first} {next : α → Action (Scene μ σ) ε β}
    {last : β → Prop} (mindsFirst : Minds rely holds first fact)
    (mindsNext : ∀ value, fact value → Minds rely holds (next value) last) :
    Minds rely holds (first >>= next) last :=
  Amid.bind mindsFirst fun value => Amid.and_pre (mindsNext value)

theorem pure {value} (known : fact value) :
    Minds rely holds (Pure.pure value : Action (Scene μ σ) ε α) fact :=
  Amid.pure fun _ _ starts => ⟨known, starts⟩

theorem throw {error} : Minds rely holds (MonadExcept.throw error : Action (Scene μ σ) ε α) fact :=
  Amid.throw fun _ _ => id

theorem check {result} (known : ∀ value, result = .ok value → fact value) :
    Minds rely holds (Action.check result : Action (Scene μ σ) ε α) fact :=
  Amid.check (fun _ _ _ passed starts => ⟨known _ passed, starts⟩) fun _ _ _ _ => id

theorem mapError {program} {translate : ε → ε'}
    (minds : Minds rely holds program fact) :
    Minds rely holds (Action.mapError translate program) fact :=
  Amid.mapError minds

end Minds
end Bangbang
