import Bangbang.Pci.EndpointQuiescence

/-!
# The accounts of an endpoint

What holds in every run of calls on one endpoint: the counters of the gate and of the
registry count the guards which are live, a signal goes to the one route which recognises its
message, and a registry which has been released admits nothing again.
-/

namespace Bangbang.Pci

open Bangbang.Action MessageRegistry

variable {ρ : Type}

/-! ## The locked sections -/

namespace Endpoint

variable (endpoint : Endpoint ρ)

/-- Work is admitted only through an open gate. -/
theorem onGate_admit :
    (∃ error, endpoint.onGate WorkGate.admitWork = (.error error, endpoint)) ∨
      (endpoint.gate.accepting = true ∧ endpoint.onGate WorkGate.admitWork =
        (.ok (), { endpoint with
          gate := { endpoint.gate with inFlight := endpoint.gate.inFlight + 1 } })) := by
  simp only [onGate, WorkGate.admitWork, outcome_bind, outcome_get,
    outcome_check, rejectIf]
  by_cases accepting : endpoint.gate.accepting
  · by_cases small : endpoint.gate.inFlight + 1 < wordLimit
    · exact .inr ⟨accepting, by simp [accepting, checkedAdd, small, okOr]⟩
    · exact .inl ⟨.inFlightOverflow, by simp [accepting, checkedAdd, small, okOr]⟩
  · exact .inl ⟨.quiescing, by simp [accepting]⟩

/-- A gate is reopened only when no work is in flight. -/
theorem onGate_resume :
    (∃ error, endpoint.onGate WorkGate.resume = (.error error, endpoint)) ∨
      (endpoint.gate.inFlight = 0 ∧ endpoint.onGate WorkGate.resume =
        (.ok (), { endpoint with gate := { endpoint.gate with accepting := true } })) := by
  simp only [onGate, WorkGate.resume, outcome_bind, outcome_get,
    outcome_check, rejectIf]
  by_cases drained : endpoint.gate.inFlight = 0
  · exact .inr ⟨drained, by simp [drained]⟩
  · exact .inl ⟨.inFlightWorkRemains, by simp [drained]⟩

/-- A signal is admitted only by an active registry, with the one route of its message. -/
theorem onMessages_admit [MessageRoute ρ] (message) :
    (∃ error, endpoint.onMessages (admitSignal message) = (.error error, endpoint)) ∨
      ∃ route, endpoint.messages.phase = .active ∧
        endpoint.messages.routes.filter (MessageRoute.recognises · message) = [route] ∧
        endpoint.onMessages (admitSignal message) =
          (.ok route, { endpoint with
            messages := { endpoint.messages with
              inFlight := endpoint.messages.inFlight + 1 } }) := by
  simp only [onMessages, admitSignal, outcome_bind, outcome_get,
    outcome_check, rejectIf]
  by_cases active : endpoint.messages.phase = .active
  · simp only [active, ne_eq, not_true_eq_false, if_false, resolveRoute]
    rcases endpoint.messages.routes.filter (MessageRoute.recognises · message) with
      _ | ⟨route, _ | ⟨second, rest⟩⟩
    · exact .inl ⟨.unknownMessage, rfl⟩
    · by_cases small : endpoint.messages.inFlight + 1 < wordLimit
      · exact .inr ⟨route, by trivial, rfl, by simp [checkedAdd, small, okOr, active]⟩
      · exact .inl ⟨.inFlightOverflow, by simp [checkedAdd, small, okOr]⟩
    · exact .inl ⟨.ambiguousMessage, rfl⟩
  · exact .inl ⟨.notActive endpoint.messages.phase, by simp [active]⟩

/-- A registry is quiesced unless it has been released. -/
theorem onMessages_beginQuiesce :
    (endpoint.messages.phase = .released ∧
      ∃ error, endpoint.onMessages beginQuiesce = (.error error, endpoint)) ∨
      (endpoint.messages.phase ≠ .released ∧ endpoint.onMessages beginQuiesce =
        (.ok (), { endpoint with messages := { endpoint.messages with phase := .quiescing } })) := by
  obtain ⟨phase, gate, ⟨routes, registryPhase, inFlight⟩⟩ := endpoint
  cases registryPhase with
  | active | quiescing => exact .inr ⟨nofun, rfl⟩
  | released => exact .inl ⟨rfl, _, rfl⟩

/-- A registry is reactivated unless it has been released. -/
theorem onMessages_resume :
    (∃ error, endpoint.onMessages resume = (.error error, endpoint)) ∨
      (endpoint.messages.phase ≠ .released ∧ endpoint.onMessages resume =
        (.ok (), { endpoint with messages := { endpoint.messages with phase := .active } })) := by
  obtain ⟨phase, gate, ⟨routes, registryPhase, inFlight⟩⟩ := endpoint
  cases registryPhase with
  | active => exact .inr ⟨nofun, rfl⟩
  | quiescing =>
    cases inFlight with
    | zero => exact .inr ⟨nofun, rfl⟩
    | succ inFlight => exact .inl ⟨.inFlightSignalsRemain, rfl⟩
  | released => exact .inl ⟨_, rfl⟩

end Endpoint

/-! ## Accounting -/

/-- What is counted of the calls. -/
inductive CallKind where
  | work
  | signals
  | quiesces
  | resumes
  | releases
  | resumeCalls
deriving DecidableEq, Repr

namespace Call

/-- A work guard is live. -/
def isWorking : Call ρ → Bool
  | .work .working => true
  | _ => false

/-- The in-flight guard of a signal is live. -/
def isSignalling : Call ρ → Bool
  | .signal _ (.signalling _) | .signal _ (.signalled ..) => true
  | _ => false

/-- A `begin_quiesce` has not returned. -/
def isQuiescing : Call ρ → Bool
  | .quiesce _ (.finished _) => false
  | .quiesce .. => true
  | _ => false

/-- A `resume` has not returned. -/
def isResuming : Call ρ → Bool
  | .resume (.finished _) => false
  | .resume _ => true
  | _ => false

/-- A `release` has not returned. -/
def isReleasing : Call ρ → Bool
  | .release (.finished _) => false
  | .release _ => true
  | _ => false

/-- The calls which are counted as of a kind. -/
def counted : CallKind → Call ρ → Bool
  | .work => isWorking
  | .signals => isSignalling
  | .quiesces => isQuiescing
  | .resumes => isResuming
  | .releases => isReleasing
  | .resumeCalls => isResume

/-- The route which a call has signalled. -/
def delivery : Call ρ → Option (ρ × GuestMessage)
  | .signal message (.signalled route _) | .signal message (.finished (some route) _) =>
    some (route, message)
  | _ => none

/-- The route which a call has found for its message. -/
def route : Call ρ → Option (ρ × GuestMessage)
  | .signal message (.signalling route) => some (route, message)
  | call => call.delivery

end Call

section
variable [MessageRoute ρ] (routes : List ρ)

/-- The counters of an endpoint are right. -/
structure Accounted (counts : CallKind → Nat) (endpoint : Endpoint ρ) : Prop where
  routes : endpoint.messages.routes = routes
  work : endpoint.gate.inFlight = counts .work
  signals : endpoint.messages.inFlight = counts .signals
  released : endpoint.phase = .released → endpoint.messages.phase = .released
  drained : endpoint.messages.phase = .released → endpoint.messages.inFlight = 0

/-- A call has found the one route of its message, and a release which has passed the
registry leaves it released. -/
structure CallAccounted (endpoint : Endpoint ρ) (call : Call ρ) : Prop where
  routed : ∀ route message, call.route = some (route, message) →
    routes.filter (MessageRoute.recognises · message) = [route]
  released : call = .release .committing ∨ call = .release (.finished (.ok ())) →
    endpoint.messages.phase = .released

/-- The accounts as an invariant of the pool. -/
def accounting : Discipline (Endpoint ρ) (Call ρ) CallKind where
  counted := Call.counted
  Shared := Accounted routes
  Task _ := CallAccounted routes

variable {routes} {counts after : CallKind → Nat} {endpoint next : Endpoint ρ} {call moved : Call ρ}

/-- A turn of one call which the accounts follow. -/
structure Books (endpoint : Endpoint ρ) (call : Call ρ) (next : Endpoint ρ) (moved : Call ρ) :
    Prop where
  routes : next.messages.routes = endpoint.messages.routes
  work : next.gate.inFlight + call.isWorking.toNat =
    endpoint.gate.inFlight + moved.isWorking.toNat
  signals : next.messages.inFlight + call.isSignalling.toNat =
    endpoint.messages.inFlight + moved.isSignalling.toNat
  released : next.phase = .released → endpoint.phase = .released ∨ call = .release .committing
  /-- A registry is released when it is drained, and stays so. -/
  invalidated : next.messages.phase = .released →
    endpoint.messages.phase = .released ∨ next.messages.inFlight = 0
  closed : endpoint.messages.phase = .released → next.messages.phase = .released
  drained : endpoint.messages.phase = .released → endpoint.messages.inFlight = 0 →
    next.messages.inFlight = 0
  routed : ∀ route message, moved.route = some (route, message) →
    call.route = some (route, message) ∨
      endpoint.messages.routes.filter (MessageRoute.recognises · message) = [route]
  committing : moved = .release .committing → next.messages.phase = .released
  finished : moved = .release (.finished (.ok ())) →
    endpoint.phase = .released ∨ call = .release .committing ∨
      call = .release (.finished (.ok ()))

/-- A step which keeps the books keeps the accounts. -/
theorem Books.keeps (books : Books endpoint call next moved)
    (shared : Accounted routes counts endpoint) (own : CallAccounted routes endpoint call) :
    (accounting routes).Keeps counts endpoint call next moved := by
  have invalidated : call = .release .committing → next.messages.phase = .released :=
    fun at_ => books.closed (own.released (.inl at_))
  intro after same
  refine ⟨⟨books.routes.trans shared.routes, ?_, ?_, fun isReleased => ?_, fun isReleased => ?_⟩,
    ⟨fun route message found => ?_, fun reached => ?_⟩, fun other _ stands => ?_⟩
  · have moves := same .work
    have counted := books.work
    rw [shared.work] at counted
    simp only [accounting, Call.counted] at moves
    omega
  · have moves := same .signals
    have counted := books.signals
    rw [shared.signals] at counted
    simp only [accounting, Call.counted] at moves
    omega
  · rcases books.released isReleased with before | committing
    · exact books.closed (shared.released before)
    · exact invalidated committing
  · rcases books.invalidated isReleased with before | drained
    · exact books.drained before (shared.drained before)
    · exact drained
  · rw [← shared.routes]
    rcases books.routed route message found with before | filtered
    · rw [shared.routes]
      exact own.routed route message before
    · exact filtered
  · rcases reached with committing | finished
    · exact books.committing committing
    · rcases books.finished finished with before | committing | before
      · exact books.closed (shared.released before)
      · exact invalidated committing
      · exact books.closed (own.released (.inr before))
  · exact ⟨stands.routed, fun reached => books.closed (stands.released reached)⟩

/-- A section which leaves the endpoint alone. -/
theorem Books.same (work : call.isWorking = moved.isWorking)
    (signals : call.isSignalling = moved.isSignalling)
    (routed : ∀ route message, moved.route = some (route, message) →
      call.route = some (route, message))
    (committing : moved = .release .committing → endpoint.messages.phase = .released)
    (finished : moved = .release (.finished (.ok ())) →
      endpoint.phase = .released ∨ call = .release .committing ∨
        call = .release (.finished (.ok ()))) : Books endpoint call endpoint moved where
  routes := rfl
  work := by rw [work]
  signals := by rw [signals]
  released := .inl
  invalidated := .inl
  closed := id
  drained _ := id
  routed route message found := .inl (routed route message found)
  committing := committing
  finished := finished

/-- A step of work keeps the books. -/
theorem WorkStep.books (endpoint step) (counted : call = .work step)
    (shared : Accounted routes counts endpoint)
    (positive : ∀ kind, call.counted kind → 0 < counts kind) :
    Books endpoint call (step.advance endpoint).1 (.work (step.advance endpoint).2) := by
  subst counted
  cases step with
  | checking =>
    rw [advance]
    split <;> exact .same rfl rfl nofun nofun nofun
  | admitting =>
    rw [advance]
    rcases endpoint.onGate_admit with ⟨error, answer⟩ | ⟨_, answer⟩ <;> rw [answer]
    · exact .same rfl rfl nofun nofun nofun
    · exact ⟨rfl, rfl, rfl, .inl, .inl, id, fun _ => id, nofun, nofun, nofun⟩
  | working =>
    have live : 0 < endpoint.gate.inFlight := shared.work ▸ positive .work rfl
    exact ⟨rfl, Nat.sub_add_cancel live, rfl, .inl, .inl, id, fun _ => id, nofun, nofun, nofun⟩
  | finished result => exact .same rfl rfl nofun nofun nofun

/-- A step of a signal keeps the books. -/
theorem SignalStep.books (endpoint answer message step) (counted : call = .signal message step)
    (shared : Accounted routes counts endpoint)
    (positive : ∀ kind, call.counted kind → 0 < counts kind) :
    Books endpoint call (step.advance endpoint answer message).1
      (.signal message (step.advance endpoint answer message).2) := by
  subst counted
  cases step with
  | resolving =>
    rw [advance]
    rcases endpoint.onMessages_admit message with
      ⟨error, outcome⟩ | ⟨route, active, found, outcome⟩ <;> rw [outcome]
    · exact .same rfl rfl nofun nofun nofun
    · refine ⟨rfl, rfl, rfl, .inl, .inl, id, fun isReleased => ?_, fun _ _ same => ?_, nofun, nofun⟩
      · rw [active] at isReleased
        cases isReleased
      · cases same
        exact .inr found
  | signalling | finished => exact .same rfl rfl (fun _ _ => id) nofun nofun
  | signalled route answer =>
    have live : 0 < endpoint.messages.inFlight := shared.signals ▸ positive .signals rfl
    refine ⟨rfl, rfl, Nat.sub_add_cancel live, .inl, .inl, id, fun _ none => ?_,
      fun _ _ => .inl, nofun, nofun⟩
    omega

theorem QuiesceStep.books (endpoint : Endpoint ρ) (since : Nat) (step : QuiesceStep) :
    Books endpoint (.quiesce since step) (step.advance endpoint).1
      (.quiesce since (step.advance endpoint).2) := by
  cases step with
  | checking =>
    rw [advance]
    split <;> exact .same rfl rfl nofun nofun nofun
  | closingGate => exact ⟨rfl, rfl, rfl, .inl, .inl, id, fun _ => id, nofun, nofun, nofun⟩
  | awaitingWork | awaitingSignals | finished => exact .same rfl rfl nofun nofun nofun
  | closingMessages =>
    rw [advance]
    rcases endpoint.onMessages_beginQuiesce with ⟨_, error, answer⟩ | ⟨live, answer⟩ <;>
      rw [answer]
    · exact .same rfl rfl nofun nofun nofun
    · exact ⟨rfl, rfl, rfl, .inl, nofun, fun isReleased => absurd isReleased live,
        fun isReleased => absurd isReleased live, nofun, nofun, nofun⟩
  | committing =>
    rw [advance]
    split
    · exact .same rfl rfl nofun nofun nofun
    · exact ⟨rfl, rfl, rfl, nofun, .inl, id, fun _ => id, nofun, nofun, nofun⟩
  | reopeningMessages phase =>
    rw [advance]
    rcases endpoint.onMessages_resume with ⟨error, answer⟩ | ⟨live, answer⟩ <;> rw [answer]
    · exact .same rfl rfl nofun nofun nofun
    · exact ⟨rfl, rfl, rfl, .inl, nofun, fun isReleased => absurd isReleased live,
        fun isReleased => absurd isReleased live, nofun, nofun, nofun⟩
  | reopeningGate error =>
    rw [advance]
    rcases endpoint.onGate_resume with ⟨error, answer⟩ | ⟨_, answer⟩ <;> rw [answer]
    · exact .same rfl rfl nofun nofun nofun
    · exact ⟨rfl, rfl, rfl, .inl, .inl, id, fun _ => id, nofun, nofun, nofun⟩

theorem ResumeStep.books (endpoint : Endpoint ρ) (step : ResumeStep) :
    Books endpoint (.resume step) (step.advance endpoint).1
      (.resume (step.advance endpoint).2) := by
  cases step with
  | checking =>
    rw [advance]
    split <;> exact .same rfl rfl nofun nofun nofun
  | openingMessages =>
    rw [advance]
    rcases endpoint.onMessages_resume with ⟨error, answer⟩ | ⟨live, answer⟩ <;> rw [answer]
    · exact .same rfl rfl nofun nofun nofun
    · exact ⟨rfl, rfl, rfl, .inl, nofun, fun isReleased => absurd isReleased live,
        fun isReleased => absurd isReleased live, nofun, nofun, nofun⟩
  | activating =>
    rw [advance]
    split
    · exact .same rfl rfl nofun nofun nofun
    · exact ⟨rfl, rfl, rfl, nofun, .inl, id, fun _ => id, nofun, nofun, nofun⟩
  | openingGate =>
    rw [advance]
    rcases endpoint.onGate_resume with ⟨error, answer⟩ | ⟨_, answer⟩ <;> rw [answer]
    · exact .same rfl rfl nofun nofun nofun
    · exact ⟨rfl, rfl, rfl, .inl, .inl, id, fun _ => id, nofun, nofun, nofun⟩
  | deactivating source =>
    exact ⟨rfl, rfl, rfl, nofun, .inl, id, fun _ => id, nofun, nofun, nofun⟩
  | reclosingMessages error =>
    rw [advance]
    rcases endpoint.onMessages_beginQuiesce with ⟨_, error, answer⟩ | ⟨live, answer⟩ <;>
      rw [answer]
    · exact .same rfl rfl nofun nofun nofun
    · exact ⟨rfl, rfl, rfl, .inl, nofun, fun isReleased => absurd isReleased live,
        fun isReleased => absurd isReleased live, nofun, nofun, nofun⟩
  | finished result => exact .same rfl rfl nofun nofun nofun

theorem ReleaseStep.books (endpoint : Endpoint ρ) (step : ReleaseStep) :
    Books endpoint (.release step) (step.advance endpoint).1
      (.release (step.advance endpoint).2) := by
  cases step with
  | checking =>
    rw [advance]
    split
    case isTrue isReleased => exact .same rfl rfl nofun nofun fun _ => .inl isReleased
    case isFalse => exact .same rfl rfl nofun nofun nofun
  | closingGate =>
    rw [advance]
    split <;> exact ⟨rfl, rfl, rfl, .inl, .inl, id, fun _ => id, nofun, nofun, nofun⟩
  | awaitingWork =>
    rw [advance]
    split <;> exact .same rfl rfl nofun nofun nofun
  | quiescing =>
    rw [advance]
    split
    case isTrue isReleased => exact .same rfl rfl nofun nofun fun _ => .inl isReleased
    case isFalse => exact ⟨rfl, rfl, rfl, nofun, .inl, id, fun _ => id, nofun, nofun, nofun⟩
  | releasingMessages =>
    rw [advance]
    split
    case isTrue isReleased => exact .same rfl rfl nofun (fun _ => isReleased) nofun
    case isFalse live =>
      dsimp only
      split
      case isTrue drained =>
        exact ⟨rfl, rfl, rfl, .inl, fun _ => .inr (of_decide_eq_true drained), fun _ => rfl,
          fun _ => id, nofun, fun _ => rfl, nofun⟩
      case isFalse =>
        exact ⟨rfl, rfl, rfl, .inl, nofun, fun isReleased => absurd isReleased live,
          fun _ => id, nofun, nofun, nofun⟩
  | awaitingSignals =>
    rw [advance]
    split
    case isTrue drained =>
      exact ⟨rfl, rfl, rfl, .inl, fun _ => .inr (of_decide_eq_true drained), fun _ => rfl,
        fun _ => id, nofun, fun _ => rfl, nofun⟩
    case isFalse => exact .same rfl rfl nofun nofun nofun
  | committing =>
    exact ⟨rfl, rfl, rfl, fun _ => .inr rfl, .inl, id, fun _ => id, nofun, nofun,
      fun _ => .inr (.inl rfl)⟩
  | finished result =>
    refine .same rfl rfl nofun nofun fun ok => .inr (.inr ?_)
    exact ok

/-- Every step of a call keeps the books. -/
theorem Call.books (answer : Except SignalError Unit) (call : Call ρ)
    (shared : Accounted routes counts endpoint)
    (positive : ∀ kind, call.counted kind → 0 < counts kind) :
    Books endpoint call (call.advance answer endpoint).1 (call.advance answer endpoint).2 := by
  cases call with
  | work step => exact step.books endpoint rfl shared positive
  | signal message step => exact step.books endpoint answer message rfl shared positive
  | quiesce since step => exact step.books endpoint since
  | resume step | release step => exact step.books endpoint

variable {pool : EndpointPool ρ}

section
variable (sound : (accounting routes).Sound pool)
include sound

/-- A call which has only been made has not been counted as work or signal. -/
theorem accounting_spawn (work : call.isWorking = false) (signals : call.isSignalling = false)
    (unrouted : call.route = none) (early : ∀ step, call = .release step → step = .checking) :
    (accounting routes).Sound (pool.spawn call) := by
  refine sound.spawn fun after same => ?_
  have shared := sound.shared
  have sameWork := same .work
  have sameSignals := same .signals
  simp only [accounting, Call.counted, work, Bool.toNat_false, Nat.add_zero] at sameWork
  simp only [accounting, Call.counted, signals, Bool.toNat_false, Nat.add_zero] at sameSignals
  refine ⟨⟨shared.routes, shared.work.trans sameWork.symm, shared.signals.trans sameSignals.symm,
    shared.released, shared.drained⟩, ⟨fun route message found => ?_, fun reached => ?_⟩,
    fun other _ stands => stands⟩
  · rw [unrouted] at found
    cases found
  · rcases reached with reached | reached <;> cases early _ reached

/-- Every event keeps the accounts. -/
theorem accounting_step (event) : (accounting routes).Sound (pool.step event) := by
  cases event with
  | admitDeviceWork => exact accounting_spawn sound rfl rfl rfl nofun
  | signal message => exact accounting_spawn sound rfl rfl rfl nofun
  | beginQuiesce => exact accounting_spawn sound rfl rfl rfl nofun
  | resume => exact accounting_spawn sound rfl rfl rfl nofun
  | release => exact accounting_spawn sound rfl rfl rfl fun step same => by cases same; rfl
  | turn index answer =>
    exact sound.turn index fun call present positive =>
      (call.books answer sound.shared positive).keeps sound.shared (sound.tasks call present)

/-- Every run keeps the accounts. -/
theorem accounting_run (events) : (accounting routes).Sound (pool.run events) := by
  induction events generalizing pool with
  | nil => exact sound
  | cons event rest ih => exact ih (accounting_step sound event)

end

theorem accounting_new : (accounting routes).Sound (EndpointPool.new routes) where
  shared := ⟨rfl, rfl, rfl, nofun, nofun⟩
  tasks := nofun

end
end Bangbang.Pci
