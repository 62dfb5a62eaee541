import Bangbang.Pci.EndpointAccounting

/-!
# What quiescing and releasing an endpoint guarantee

The guarantees of `begin_quiesce` and `release` need the control calls of an endpoint to keep
out of each other's way: `release` overlaps neither `begin_quiesce` nor `resume`, and
`begin_quiesce` does not start while a `resume` runs. A gate has no released state and is
reopened without a look at the phase, so a control call which overlaps may reopen it after
another has closed it for good.
-/

namespace Bangbang.Pci

open List Call

variable {ρ : Type}

/-! ## Control calls which keep out of each other's way -/

section
variable {counts after : CallKind → Nat} {endpoint next : Endpoint ρ} {call moved : Call ρ}

/-- The control calls which run exclude others. -/
structure Exclusive (counts : CallKind → Nat) (endpoint : Endpoint ρ) : Prop where
  alone : 0 < counts .releases → counts .quiesces = 0 ∧ counts .resumes = 0
  /-- Outside a `release`, the endpoint is released with its registry. -/
  together : endpoint.messages.phase = .released → counts .releases = 0 →
    endpoint.phase = .released
  closed : endpoint.phase = .released →
    endpoint.gate.accepting = false ∧ endpoint.gate.inFlight = 0

/-- How far a `begin_quiesce` has come, while `resume` has not been called. -/
def QuiesceStep.Reached (endpoint : Endpoint ρ) : QuiesceStep → Prop
  | .checking | .closingGate | .finished (.error _) => True
  | .awaitingWork => endpoint.gate.accepting = false
  | .closingMessages => endpoint.gate.accepting = false ∧ endpoint.gate.inFlight = 0
  | .awaitingSignals =>
    (endpoint.gate.accepting = false ∧ endpoint.gate.inFlight = 0) ∧
      endpoint.messages.phase ≠ .active
  | .committing | .finished (.ok _) =>
    (endpoint.gate.accepting = false ∧ endpoint.gate.inFlight = 0) ∧
      endpoint.messages.phase ≠ .active ∧ endpoint.messages.inFlight = 0
  | .reopeningMessages _ | .reopeningGate _ => False

def QuiesceStep.isBegun : QuiesceStep → Bool
  | .checking | .finished _ => false
  | _ => true

def QuiesceStep.isAborting : QuiesceStep → Bool
  | .reopeningMessages _ | .reopeningGate _ => true
  | _ => false

def ResumeStep.isBegun : ResumeStep → Bool
  | .checking | .finished _ => false
  | _ => true

/-- What a `release` has done so far. -/
def ReleaseStep.Reached (endpoint : Endpoint ρ) : ReleaseStep → Prop
  | .checking | .closingGate | .finished (.error _) => True
  | .awaitingWork => endpoint.gate.accepting = false
  | .quiescing | .releasingMessages | .awaitingSignals =>
    endpoint.gate.accepting = false ∧ endpoint.gate.inFlight = 0
  | .committing =>
    (endpoint.gate.accepting = false ∧ endpoint.gate.inFlight = 0) ∧
      endpoint.messages.phase = .released
  | .finished (.ok _) => endpoint.phase = .released

/-- Where a control call stands. -/
def CallExclusive (counts : CallKind → Nat) (endpoint : Endpoint ρ) : Call ρ → Prop
  | .work _ | .signal .. => True
  | .quiesce since step =>
    since ≤ counts .resumeCalls ∧ step.isAborting = false ∧
      (step.isBegun → endpoint.phase ≠ .released) ∧
      (since = counts .resumeCalls → counts .resumes = 0 ∧ step.Reached endpoint)
  | .resume step => step.isBegun → endpoint.phase ≠ .released
  | .release step => step.Reached endpoint

/-- The exclusion as an invariant of the pool. -/
def exclusion : Discipline (Endpoint ρ) (Call ρ) CallKind where
  counted := counted
  Shared := Exclusive
  Task := CallExclusive

/-- A turn ends calls, and starts none. -/
structure Fewer (before after : CallKind → Nat) : Prop where
  quiesces : after .quiesces ≤ before .quiesces
  resumes : after .resumes ≤ before .resumes
  releases : after .releases ≤ before .releases
  calls : after .resumeCalls = before .resumeCalls

/-- A change which no call has to fear that stands by. -/
structure Gentle (counts : CallKind → Nat) (endpoint next : Endpoint ρ) : Prop where
  opens : next.gate.accepting = true →
    endpoint.gate.accepting = true ∨ 0 < counts .resumes ∧ endpoint.phase ≠ .released
  work : endpoint.gate.accepting = false → next.gate.inFlight ≤ endpoint.gate.inFlight
  activates : next.messages.phase = .active →
    endpoint.messages.phase = .active ∨ 0 < counts .resumes
  signals : endpoint.messages.phase ≠ .active →
    next.messages.inFlight ≤ endpoint.messages.inFlight
  invalidated : endpoint.messages.phase = .released → next.messages.phase = .released
  releases : next.phase = .released → endpoint.phase = .released ∨ 0 < counts .releases
  final : endpoint.phase = .released → next.phase = .released

namespace Gentle

variable (gentle : Gentle counts endpoint next)
include gentle

section
variable (idle : counts .resumes = 0)
include idle

/-- A closed gate stays closed. -/
theorem gateClosed (closed : endpoint.gate.accepting = false) : next.gate.accepting = false := by
  refine Bool.eq_false_iff.mpr fun isOpen => ?_
  rcases gentle.opens isOpen with before | resuming
  · rw [closed] at before
    cases before
  · omega

/-- A drained gate stays drained. -/
theorem gateDrained (closed : endpoint.gate.accepting = false ∧ endpoint.gate.inFlight = 0) :
    next.gate.accepting = false ∧ next.gate.inFlight = 0 := by
  have still := gentle.work closed.1
  exact ⟨gentle.gateClosed idle closed.1, by omega⟩

theorem messagesClosed (closed : endpoint.messages.phase ≠ .active) :
    next.messages.phase ≠ .active := by
  intro active
  rcases gentle.activates active with before | resuming
  · exact closed before
  · omega

theorem messagesDrained
    (closed : endpoint.messages.phase ≠ .active ∧ endpoint.messages.inFlight = 0) :
    next.messages.phase ≠ .active ∧ next.messages.inFlight = 0 := by
  have still := gentle.signals closed.1
  exact ⟨gentle.messagesClosed idle closed.1, by omega⟩

end

/-- The gate of a released endpoint stays closed. -/
theorem closed (isReleased : endpoint.phase = .released)
    (closed : endpoint.gate.accepting = false ∧ endpoint.gate.inFlight = 0) :
    next.gate.accepting = false ∧ next.gate.inFlight = 0 := by
  have still := gentle.work closed.1
  refine ⟨Bool.eq_false_iff.mpr fun isOpen => ?_, by omega⟩
  rcases gentle.opens isOpen with before | ⟨-, live⟩
  · rw [closed.1] at before
    cases before
  · exact live isReleased

theorem quiesce (idle : counts .resumes = 0) {step : QuiesceStep}
    (reached : step.Reached endpoint) : step.Reached next := by
  cases step with
  | awaitingWork => exact gentle.gateClosed idle reached
  | closingMessages => exact gentle.gateDrained idle reached
  | awaitingSignals =>
    exact ⟨gentle.gateDrained idle reached.1, gentle.messagesClosed idle reached.2⟩
  | committing => exact ⟨gentle.gateDrained idle reached.1, gentle.messagesDrained idle reached.2⟩
  | finished result =>
    cases result with
    | error error => trivial
    | ok value =>
      exact ⟨gentle.gateDrained idle reached.1, gentle.messagesDrained idle reached.2⟩
  | _ => exact reached

theorem release {step} (idle : (release step : Call ρ).isReleasing → counts .resumes = 0)
    (reached : step.Reached endpoint) : step.Reached next := by
  cases step with
  | awaitingWork => exact gentle.gateClosed (idle rfl) reached
  | quiescing | releasingMessages | awaitingSignals => exact gentle.gateDrained (idle rfl) reached
  | committing =>
    exact ⟨gentle.gateDrained (idle rfl) reached.1, gentle.invalidated reached.2⟩
  | finished result =>
    cases result with
    | error error => trivial
    | ok value => exact gentle.final reached
  | _ => trivial

/-- A gentle step disturbs no other call. -/
theorem undisturbed (fewer : Fewer counts after) (shared : Exclusive counts endpoint) :
    (exclusion (ρ := ρ)).Undisturbed counts after endpoint next := by
  intro other positive stands
  have begun (kind : CallKind) (isRunning : counted kind other)
      (excluded : kind = .quiesces ∨ kind = .resumes) (live : endpoint.phase ≠ .released) :
      next.phase ≠ .released := by
    intro isReleased
    have running : 0 < counts kind := positive kind isRunning
    rcases gentle.releases isReleased with before | releasing
    · exact live before
    · have alone := shared.alone releasing
      rcases excluded with rfl | rfl <;> omega
  cases other with
  | work | signal => trivial
  | quiesce since step =>
    obtain ⟨bounded, completes, live, fresh⟩ := stands
    refine ⟨fewer.calls ▸ bounded, completes, fun isBegun => ?_, fun isFresh => ?_⟩
    · refine begun .quiesces ?_ (.inl rfl) (live isBegun)
      cases step <;> first | rfl | cases isBegun
    · obtain ⟨idle, reached⟩ := fresh (isFresh.trans fewer.calls)
      have stays := fewer.resumes
      exact ⟨by omega, gentle.quiesce idle reached⟩
  | resume step =>
    intro isBegun
    refine begun .resumes ?_ (.inr rfl) (stands isBegun)
    cases step <;> first | rfl | cases isBegun
  | release step =>
    exact gentle.release (fun isReleasing => (shared.alone (positive .releases isReleasing)).2)
      stands

theorem exclusive (fewer : Fewer counts after) (shared : Exclusive counts endpoint)
    (invalidates : next.messages.phase = .released → endpoint.messages.phase = .released ∨
      0 < after .releases)
    (commits : next.phase = .released → endpoint.phase = .released ∨
      endpoint.gate.accepting = false ∧ endpoint.gate.inFlight = 0 ∧ next.gate = endpoint.gate)
    (ends : after .releases = 0 → counts .releases = 0 ∨ next.phase = .released) :
    Exclusive after next where
  alone releasing := by
    have fewerQuiesces := fewer.quiesces
    have fewerResumes := fewer.resumes
    have alone := shared.alone (Nat.lt_of_lt_of_le releasing fewer.releases)
    omega
  together isReleased finished := by
    rcases ends finished with before | reached
    · rcases invalidates isReleased with already | still
      · exact gentle.final (shared.together already before)
      · omega
    · exact reached
  closed isReleased := by
    rcases commits isReleased with before | ⟨closed, drained, same⟩
    · exact gentle.closed before (shared.closed before)
    · rw [same]
      exact ⟨closed, drained⟩

end Gentle

/-- What the turn of one call has to show. -/
structure Turns (counts : CallKind → Nat) (endpoint : Endpoint ρ) (call : Call ρ)
    (next : Endpoint ρ) (moved : Call ρ) : Prop where
  quiesces : moved.isQuiescing → call.isQuiescing
  resumes : moved.isResuming → call.isResuming
  releases : moved.isReleasing → call.isReleasing
  calls : moved.isResume = call.isResume
  gentle : Gentle counts endpoint next
  invalidates : next.messages.phase = .released →
    endpoint.messages.phase = .released ∨ moved.isReleasing
  commits : next.phase = .released → endpoint.phase = .released ∨
    endpoint.gate.accepting = false ∧ endpoint.gate.inFlight = 0 ∧ next.gate = endpoint.gate
  ends : call.isReleasing → moved.isReleasing ∨ next.phase = .released
  own : ∀ after, Fewer counts after → CallExclusive after next moved

/-- A turn of one call keeps the exclusion of all. -/
theorem Turns.keeps (turns : Turns counts endpoint call next moved)
    (shared : Exclusive counts endpoint)
    (positive : ∀ kind, call.counted kind → 0 < counts kind) :
    (exclusion (ρ := ρ)).Keeps counts endpoint call next moved := by
  intro after same
  have fewer : Fewer counts after := by
    refine ⟨le_of_moves (same .quiesces) turns.quiesces, le_of_moves (same .resumes) turns.resumes,
      le_of_moves (same .releases) turns.releases, ?_⟩
    have moves := same .resumeCalls
    simp only [exclusion, counted, turns.calls] at moves
    omega
  have moves := same .releases
  have running := positive .releases
  have releases := turns.releases
  have ends := turns.ends
  simp only [exclusion, counted] at moves running
  refine ⟨turns.gentle.exclusive fewer shared (fun isReleased => ?_) turns.commits fun finished => ?_,
    turns.own after fewer, turns.gentle.undisturbed fewer shared⟩
  · refine (turns.invalidates isReleased).imp_right fun still => ?_
    rw [still, releases still] at moves
    have live := running (releases still)
    omega
  · cases was : call.isReleasing with
    | false =>
      have idle : moved.isReleasing = false := by
        cases is : moved.isReleasing with
        | false => rfl
        | true => exact (releases is).symm.trans was
      rw [was, idle] at moves
      exact .inl (by omega)
    | true =>
      refine .inr ((ends was).resolve_left fun still => ?_)
      rw [was, still] at moves
      have live := running was
      omega

/-- A section which leaves the endpoint alone. -/
theorem Gentle.refl : Gentle counts endpoint endpoint :=
  ⟨.inl, fun _ => Nat.le_refl _, .inl, fun _ => Nat.le_refl _, id, .inl, id⟩

/-- A section which changes the gate only. -/
theorem Gentle.ofGate {gate}
    (opens : gate.accepting = true →
      endpoint.gate.accepting = true ∨ 0 < counts .resumes ∧ endpoint.phase ≠ .released)
    (work : endpoint.gate.accepting = false → gate.inFlight ≤ endpoint.gate.inFlight) :
    Gentle counts endpoint { endpoint with gate } :=
  ⟨opens, work, .inl, fun _ => Nat.le_refl _, id, .inl, id⟩

/-- A section which changes the registry only. -/
theorem Gentle.ofMessages {messages}
    (activates : messages.phase = .active → endpoint.messages.phase = .active ∨ 0 < counts .resumes)
    (signals : endpoint.messages.phase ≠ .active → messages.inFlight ≤ endpoint.messages.inFlight)
    (invalidated : endpoint.messages.phase = .released → messages.phase = .released) :
    Gentle counts endpoint { endpoint with messages } :=
  ⟨.inl, fun _ => Nat.le_refl _, activates, signals, invalidated, .inl, id⟩

/-- A section which changes the phase only. -/
theorem Gentle.ofPhase {phase}
    (releases : phase = .released → endpoint.phase = .released ∨ 0 < counts .releases)
    (final : endpoint.phase = .released → phase = .released) :
    Gentle counts endpoint { endpoint with phase } :=
  ⟨.inl, fun _ => Nat.le_refl _, .inl, fun _ => Nat.le_refl _, id, releases, final⟩

theorem Turns.ofWork {step moved gate} (gentle : Gentle counts endpoint { endpoint with gate }) :
    Turns counts endpoint (.work step) { endpoint with gate } (.work moved) :=
  ⟨nofun, nofun, nofun, rfl, gentle, .inl, .inl, nofun, fun _ _ => trivial⟩

/-- A step of work is a turn. -/
theorem WorkStep.turns (endpoint : Endpoint ρ) (step : WorkStep) :
    Turns counts endpoint (.work step) (step.advance endpoint).1
      (.work (step.advance endpoint).2) := by
  cases step with
  | checking =>
    rw [advance]
    split <;> exact .ofWork .refl
  | admitting =>
    rw [advance]
    rcases endpoint.onGate_admit with ⟨error, answer⟩ | ⟨accepting, answer⟩ <;> rw [answer]
    · exact .ofWork .refl
    · exact .ofWork (.ofGate .inl fun closed => absurd (accepting.symm.trans closed) (by decide))
  | working => exact .ofWork (.ofGate .inl fun _ => Nat.sub_le _ _)
  | finished result => exact .ofWork .refl

theorem Turns.ofSignal {message step moved inFlight}
    (signals : endpoint.messages.phase ≠ .active → inFlight ≤ endpoint.messages.inFlight) :
    Turns counts endpoint (.signal message step)
      { endpoint with messages := { endpoint.messages with inFlight } } (.signal message moved) :=
  ⟨nofun, nofun, nofun, rfl, .ofMessages .inl signals id, .inl, .inl, nofun, fun _ _ => trivial⟩

theorem SignalStep.turns [MessageRoute ρ] (endpoint : Endpoint ρ)
    (answer : Except SignalError Unit) (message : GuestMessage) (step : SignalStep ρ) :
    Turns counts endpoint (.signal message step) (step.advance endpoint answer message).1
      (.signal message (step.advance endpoint answer message).2) := by
  cases step with
  | resolving =>
    rw [advance]
    rcases endpoint.onMessages_admit message with
      ⟨error, outcome⟩ | ⟨route, active, _, outcome⟩ <;> rw [outcome]
    · exact .ofSignal fun _ => Nat.le_refl _
    · exact .ofSignal fun closed => absurd active closed
  | signalling | finished => exact .ofSignal fun _ => Nat.le_refl _
  | signalled route answer => exact .ofSignal fun _ => Nat.sub_le _ _

/-- A `begin_quiesce` which takes its next step towards success, or is refused. -/
theorem Turns.ofQuiesce {since step moved}
    (stands : CallExclusive counts endpoint (.quiesce since step))
    (running : (quiesce since step : Call ρ).isQuiescing) (gentle : Gentle counts endpoint next)
    (invalidates : next.messages.phase = .released → endpoint.messages.phase = .released)
    (commits : next.phase = .released → endpoint.phase = .released)
    (completes : moved.isAborting = false) (begun : moved.isBegun → next.phase ≠ .released)
    (reached : step.Reached endpoint → moved.Reached next) :
    Turns counts endpoint (.quiesce since step) next (.quiesce since moved) := by
  refine ⟨fun _ => running, nofun, nofun, rfl, gentle, fun isReleased => .inl (invalidates isReleased),
    fun isReleased => .inl (commits isReleased), nofun, fun after fewer => ?_⟩
  obtain ⟨bounded, -, -, fresh⟩ := stands
  refine ⟨fewer.calls ▸ bounded, completes, begun, fun isFresh => ?_⟩
  obtain ⟨idle, before⟩ := fresh (isFresh.trans fewer.calls)
  have stays := fewer.resumes
  exact ⟨by omega, reached before⟩

/-- A step of `begin_quiesce` is a turn. -/
theorem QuiesceStep.turns (shared : Exclusive counts endpoint) {since step}
    (stands : CallExclusive counts endpoint (.quiesce since step))
    (positive : (quiesce since step : Call ρ).isQuiescing → 0 < counts .quiesces) :
    Turns counts endpoint (.quiesce since step) (step.advance endpoint).1
      (.quiesce since (step.advance endpoint).2) := by
  obtain ⟨bounded, completes, begun, fresh⟩ := id stands
  cases step with
  | checking =>
    rw [advance]
    split
    case h_1 active =>
      exact .ofQuiesce stands rfl .refl id id rfl (fun _ => by rw [active]; rintro ⟨⟩) id
    case h_2 quiescing =>
      exact .ofQuiesce stands rfl .refl id id rfl (fun _ => by rw [quiescing]; rintro ⟨⟩) id
    case h_3 => exact .ofQuiesce stands rfl .refl id id rfl (by rintro ⟨⟩) id
  | closingGate =>
    rw [advance]
    refine .ofQuiesce stands rfl (.ofGate (by rintro ⟨⟩) fun _ => Nat.le_refl _) id id ?_
      (fun _ => begun rfl) fun _ => ?_
    · split <;> rfl
    · split
      case isTrue drained => exact ⟨rfl, of_decide_eq_true drained⟩
      case isFalse => rfl
  | awaitingWork =>
    rw [advance]
    split
    case isTrue drained =>
      exact .ofQuiesce stands rfl .refl id id rfl (fun _ => begun rfl)
        fun closed => ⟨closed, of_decide_eq_true drained⟩
    case isFalse => exact .ofQuiesce stands rfl .refl id id rfl (fun _ => begun rfl) id
  | closingMessages =>
    have live : endpoint.messages.phase ≠ .released := by
      intro isReleased
      have running := positive rfl
      refine begun rfl (shared.together isReleased ?_)
      by_contra releasing
      have alone := shared.alone (Nat.pos_of_ne_zero releasing)
      omega
    rw [advance]
    rcases endpoint.onMessages_beginQuiesce with ⟨isReleased, _⟩ | ⟨_, answer⟩
    · exact absurd isReleased live
    · rw [answer]
      dsimp only
      have gentle : Gentle counts endpoint
          { endpoint with messages := { endpoint.messages with phase := .quiescing } } :=
        .ofMessages (by rintro ⟨⟩) (fun _ => Nat.le_refl _) fun isReleased =>
          absurd isReleased live
      split
      case isTrue drained =>
        exact .ofQuiesce stands rfl gentle (by rintro ⟨⟩) id rfl (fun _ => begun rfl)
          fun closed => ⟨closed, by rintro ⟨⟩, of_decide_eq_true drained⟩
      case isFalse =>
        exact .ofQuiesce stands rfl gentle (by rintro ⟨⟩) id rfl (fun _ => begun rfl)
          fun closed => ⟨closed, by rintro ⟨⟩⟩
  | awaitingSignals =>
    rw [advance]
    split
    case isTrue drained =>
      exact .ofQuiesce stands rfl .refl id id rfl (fun _ => begun rfl)
        fun closed => ⟨closed.1, closed.2, of_decide_eq_true drained⟩
    case isFalse => exact .ofQuiesce stands rfl .refl id id rfl (fun _ => begun rfl) id
  | committing =>
    have live := begun rfl
    rw [advance, if_neg live]
    exact .ofQuiesce stands rfl
      (.ofPhase (by rintro ⟨⟩) fun isReleased => absurd isReleased live) id (by rintro ⟨⟩)
      rfl (by rintro ⟨⟩) id
  | reopeningMessages | reopeningGate => cases completes
  | finished result =>
    refine ⟨by rintro ⟨⟩, by rintro ⟨⟩, by rintro ⟨⟩, rfl, .refl, .inl, .inl, by rintro ⟨⟩,
      fun after fewer => ?_⟩
    refine ⟨fewer.calls ▸ bounded, completes, begun, fun isFresh => ?_⟩
    obtain ⟨idle, reached⟩ := fresh (isFresh.trans fewer.calls)
    have stays := fewer.resumes
    exact ⟨by omega, reached⟩

theorem Turns.ofResume {step moved} (running : (resume step : Call ρ).isResuming)
    (gentle : Gentle counts endpoint next)
    (invalidates : next.messages.phase = .released → endpoint.messages.phase = .released)
    (commits : next.phase = .released → endpoint.phase = .released)
    (begun : moved.isBegun → next.phase ≠ .released) :
    Turns counts endpoint (.resume step) next (.resume moved) :=
  ⟨nofun, fun _ => running, nofun, rfl, gentle, fun isReleased => .inl (invalidates isReleased),
    fun isReleased => .inl (commits isReleased), nofun, fun _ _ => begun⟩

/-- A step of `resume` is a turn. -/
theorem ResumeStep.turns {step} (stands : CallExclusive counts endpoint (.resume step))
    (positive : (resume step : Call ρ).isResuming → 0 < counts .resumes) :
    Turns counts endpoint (.resume step) (step.advance endpoint).1
      (.resume (step.advance endpoint).2) := by
  cases step with
  | checking =>
    rw [advance]
    split
    case h_1 => exact .ofResume rfl .refl id id (by rintro ⟨⟩)
    case h_2 quiescing => exact .ofResume rfl .refl id id fun _ => by rw [quiescing]; rintro ⟨⟩
    case h_3 => exact .ofResume rfl .refl id id (by rintro ⟨⟩)
  | openingMessages =>
    rw [advance]
    rcases endpoint.onMessages_resume with ⟨error, answer⟩ | ⟨live, answer⟩ <;> rw [answer]
    · exact .ofResume rfl .refl id id (by rintro ⟨⟩)
    · exact .ofResume rfl (.ofMessages (fun _ => .inr (positive rfl)) (fun _ => Nat.le_refl _)
        fun isReleased => absurd isReleased live) (by rintro ⟨⟩) id fun _ => stands rfl
  | activating =>
    rw [advance]
    split
    case isTrue => exact .ofResume rfl .refl id id fun _ => stands rfl
    case isFalse =>
      exact .ofResume rfl
        (.ofPhase (by rintro ⟨⟩) fun isReleased => absurd isReleased (stands rfl)) id
        (by rintro ⟨⟩) fun _ => by rintro ⟨⟩
  | reclosingMessages error =>
    rw [advance]
    rcases endpoint.onMessages_beginQuiesce with ⟨_, error, answer⟩ | ⟨live, answer⟩ <;>
      rw [answer]
    · exact .ofResume rfl .refl id id (by rintro ⟨⟩)
    · exact .ofResume rfl (.ofMessages (by rintro ⟨⟩) (fun _ => Nat.le_refl _)
        fun isReleased => absurd isReleased live) (by rintro ⟨⟩) id (by rintro ⟨⟩)
  | openingGate =>
    rw [advance]
    rcases endpoint.onGate_resume with ⟨error, answer⟩ | ⟨_, answer⟩ <;> rw [answer]
    · exact .ofResume rfl .refl id id fun _ => stands rfl
    · exact .ofResume rfl (.ofGate (fun _ => .inr ⟨positive rfl, stands rfl⟩)
        fun _ => Nat.le_refl _) id id (by rintro ⟨⟩)
  | deactivating source =>
    exact .ofResume rfl
      (.ofPhase (by rintro ⟨⟩) fun isReleased => absurd isReleased (stands rfl)) id (by rintro ⟨⟩)
      fun _ => by rintro ⟨⟩
  | finished result =>
    exact ⟨by rintro ⟨⟩, by rintro ⟨⟩, by rintro ⟨⟩, rfl, .refl, .inl, .inl, by rintro ⟨⟩,
      fun _ _ => by rintro ⟨⟩⟩

theorem Turns.ofRelease {step moved} (running : (release step : Call ρ).isReleasing)
    (gentle : Gentle counts endpoint next)
    (invalidates : next.messages.phase = .released →
      endpoint.messages.phase = .released ∨ moved = .committing)
    (commits : next.phase = .released → endpoint.phase = .released ∨
      endpoint.gate.accepting = false ∧ endpoint.gate.inFlight = 0 ∧ next.gate = endpoint.gate)
    (ends : (release moved : Call ρ).isReleasing ∨ next.phase = .released)
    (reached : moved.Reached next) :
    Turns counts endpoint (.release step) next (.release moved) := by
  refine ⟨nofun, nofun, fun _ => running, rfl, gentle, fun isReleased => ?_, commits, fun _ => ends,
    fun _ _ => reached⟩
  refine (invalidates isReleased).imp_right fun committing => ?_
  rw [committing]
  rfl

/-- A step of `release` is a turn. -/
theorem ReleaseStep.turns {step} (stands : CallExclusive counts endpoint (.release step))
    (positive : (release step : Call ρ).isReleasing → 0 < counts .releases) :
    Turns counts endpoint (.release step) (step.advance endpoint).1
      (.release (step.advance endpoint).2) := by
  cases step with
  | checking =>
    rw [advance]
    split
    case isTrue isReleased =>
      exact .ofRelease rfl .refl .inl .inl (.inr isReleased) isReleased
    case isFalse => exact .ofRelease rfl .refl .inl .inl (.inl rfl) trivial
  | closingGate =>
    have gentle : Gentle counts endpoint { endpoint with gate := endpoint.gate.quiesce } :=
      .ofGate (by rintro ⟨⟩) fun _ => Nat.le_refl _
    rw [advance]
    split
    case isTrue drained =>
      exact .ofRelease rfl gentle .inl .inl (.inl rfl) ⟨rfl, of_decide_eq_true drained⟩
    case isFalse => exact .ofRelease rfl gentle .inl .inl (.inl rfl) rfl
  | awaitingWork =>
    rw [advance]
    split
    case isTrue drained =>
      exact .ofRelease rfl .refl .inl .inl (.inl rfl) ⟨stands, of_decide_eq_true drained⟩
    case isFalse => exact .ofRelease rfl .refl .inl .inl (.inl rfl) stands
  | quiescing =>
    rw [advance]
    split
    case isTrue isReleased =>
      exact .ofRelease rfl .refl .inl .inl (.inr isReleased) isReleased
    case isFalse live =>
      exact .ofRelease rfl
        (.ofPhase (by rintro ⟨⟩) fun isReleased => absurd isReleased live) .inl (by rintro ⟨⟩)
        (.inl rfl) stands
  | releasingMessages =>
    rw [advance]
    split
    case isTrue isReleased =>
      exact .ofRelease rfl .refl .inl .inl (.inl rfl) ⟨stands, isReleased⟩
    case isFalse live =>
      dsimp only
      split
      case isTrue drained =>
        exact .ofRelease rfl (.ofMessages (by rintro ⟨⟩) (fun _ => Nat.le_refl _) fun _ => rfl)
          (fun _ => .inr rfl) .inl (.inl rfl) ⟨stands, rfl⟩
      case isFalse =>
        exact .ofRelease rfl (.ofMessages (by rintro ⟨⟩) (fun _ => Nat.le_refl _)
          fun isReleased => absurd isReleased live) (by rintro ⟨⟩) .inl (.inl rfl) stands
  | awaitingSignals =>
    rw [advance]
    split
    case isTrue drained =>
      exact .ofRelease rfl (.ofMessages (by rintro ⟨⟩) (fun _ => Nat.le_refl _) fun _ => rfl)
        (fun _ => .inr rfl) .inl (.inl rfl) ⟨stands, rfl⟩
    case isFalse => exact .ofRelease rfl .refl .inl .inl (.inl rfl) stands
  | committing =>
    exact .ofRelease rfl (.ofPhase (fun _ => .inr (positive rfl)) fun _ => rfl) .inl
      (fun _ => .inr ⟨stands.1.1, stands.1.2, rfl⟩) (.inr rfl) rfl
  | finished result =>
    exact ⟨by rintro ⟨⟩, by rintro ⟨⟩, by rintro ⟨⟩, rfl, .refl, .inl, .inl, by rintro ⟨⟩,
      fun _ _ => stands⟩

/-- Every step of a call is a turn. -/
theorem Call.turns [MessageRoute ρ] (answer : Except SignalError Unit)
    (shared : Exclusive counts endpoint) (call : Call ρ)
    (stands : CallExclusive counts endpoint call)
    (positive : ∀ kind, call.counted kind → 0 < counts kind) :
    Turns counts endpoint call (call.advance answer endpoint).1
      (call.advance answer endpoint).2 := by
  cases call with
  | work step => exact step.turns endpoint
  | signal message step => exact step.turns endpoint answer message
  | quiesce since step => exact step.turns shared stands (positive .quiesces)
  | resume step => exact step.turns stands (positive .resumes)
  | release step => exact step.turns stands (positive .releases)

end

/-! ## Whole runs -/

namespace EndpointPool

variable [MessageRoute ρ] {routes : List ρ} {pool : EndpointPool ρ}

/-- Whether a call may be made beside those which are running: `release` overlaps no other
control call, and `begin_quiesce` does not start while a `resume` runs. -/
def mayStart (pool : EndpointPool ρ) : EndpointEvent → Bool
  | .beginQuiesce => pool.tasks.all fun call => !call.isResuming && !call.isReleasing
  | .resume => pool.tasks.all fun call => !call.isReleasing
  | .release => pool.tasks.all fun call => !call.isQuiescing && !call.isResuming
  | _ => true

/-- Every event of a run may start when it comes. -/
def isOrderly (pool : EndpointPool ρ) : List EndpointEvent → Bool
  | [] => true
  | event :: rest => pool.mayStart event && isOrderly (pool.step event) rest

omit [MessageRoute ρ] in
theorem tally_eq_zero (kind) (idle : ∀ call ∈ pool.tasks, call.counted kind = false) :
    tally counted pool.tasks kind = 0 :=
  countP_eq_zero.mpr fun call present => by simp [idle call present]

omit [MessageRoute ρ] in
/-- A call which is no `resume` disturbs none when it is made. -/
theorem exclusion_undisturbed {counts after endpoint} (resumes : after .resumes = counts .resumes)
    (calls : after .resumeCalls = counts .resumeCalls) :
    (exclusion (ρ := ρ)).Undisturbed counts after endpoint endpoint := by
  intro other _ stands
  cases other with
  | quiesce since step =>
    obtain ⟨bounded, completes, begun, fresh⟩ := stands
    exact ⟨calls ▸ bounded, completes, begun, fun isFresh => by
      rw [resumes]
      exact fresh (isFresh.trans calls)⟩
  | work | signal => trivial
  | resume | release => exact stands

/-- An orderly event keeps the exclusion. -/
theorem exclusion_step (sound : exclusion.Sound pool) {event} (starts : pool.mayStart event) :
    exclusion.Sound (pool.step event) := by
  have shared := sound.shared
  cases event with
  | admitDeviceWork | signal =>
    refine sound.spawn fun after same => ?_
    refine ⟨⟨?_, ?_, shared.closed⟩, trivial, exclusion_undisturbed (same .resumes)
      (same .resumeCalls)⟩
    · rw [same .releases, same .quiesces, same .resumes]
      exact shared.alone
    · rw [same .releases]
      exact shared.together
  | beginQuiesce =>
    simp only [mayStart, all_eq_true, Bool.and_eq_true, Bool.not_eq_true'] at starts
    have resumes := tally_eq_zero .resumes fun call present => (starts call present).1
    have releases := tally_eq_zero .releases fun call present => (starts call present).2
    refine sound.spawn fun after same => ?_
    refine ⟨⟨fun releasing => ?_, ?_, shared.closed⟩, ⟨?_, rfl, nofun, fun _ => ⟨?_, trivial⟩⟩,
      exclusion_undisturbed (same .resumes) (same .resumeCalls)⟩
    · rw [same .releases] at releasing
      exact absurd releases (Nat.pos_iff_ne_zero.mp releasing)
    · rw [same .releases]
      exact shared.together
    · rw [same .resumeCalls]
      exact Nat.le_refl _
    · exact (same .resumes).trans resumes
  | resume =>
    simp only [mayStart, all_eq_true, Bool.not_eq_true'] at starts
    have releases := tally_eq_zero .releases starts
    refine sound.spawn fun after same => ?_
    refine ⟨⟨fun releasing => ?_, ?_, shared.closed⟩, nofun, fun other _ stands => ?_⟩
    · rw [same .releases] at releasing
      exact absurd releases (Nat.pos_iff_ne_zero.mp releasing)
    · rw [same .releases]
      exact shared.together
    · cases other with
      | quiesce since step =>
        obtain ⟨bounded, completes, begun, -⟩ := stands
        have more := same .resumeCalls
        simp only [exclusion, counted, isResume, Bool.toNat_true] at more bounded
        exact ⟨by omega, completes, begun, fun isFresh => by omega⟩
      | work | signal => trivial
      | resume | release => exact stands
  | release =>
    simp only [mayStart, all_eq_true, Bool.and_eq_true, Bool.not_eq_true'] at starts
    have quiesces := tally_eq_zero .quiesces fun call present => (starts call present).1
    have resumes := tally_eq_zero .resumes fun call present => (starts call present).2
    refine sound.spawn fun after same => ?_
    refine ⟨⟨fun _ => ⟨(same .quiesces).trans quiesces, (same .resumes).trans resumes⟩,
      fun _ finished => ?_, shared.closed⟩, trivial, exclusion_undisturbed (same .resumes)
      (same .resumeCalls)⟩
    rw [same .releases] at finished
    exact absurd finished (Nat.succ_ne_zero _)
  | turn index answer =>
    exact sound.turn index fun call present positive =>
      (call.turns answer shared (sound.tasks call present) positive).keeps shared positive

omit [MessageRoute ρ] in
theorem exclusion_new : exclusion.Sound (new routes) where
  shared := ⟨nofun, nofun, nofun⟩
  tasks := nofun

/-- An orderly run keeps the exclusion. -/
theorem exclusion_run (sound : exclusion.Sound pool) {events} (orderly : pool.isOrderly events) :
    exclusion.Sound (pool.run events) := by
  induction events generalizing pool with
  | nil => exact sound
  | cons event rest ih =>
    rw [isOrderly, Bool.and_eq_true] at orderly
    exact ih (exclusion_step sound orderly.1) orderly.2

theorem isOrderly_append (earlier later) :
    pool.isOrderly (earlier ++ later) =
      (pool.isOrderly earlier && (pool.run earlier).isOrderly later) := by
  induction earlier generalizing pool with
  | nil => rfl
  | cons event rest ih => simp only [cons_append, isOrderly, ih, run, foldl_cons, Bool.and_assoc]

end EndpointPool

/-- A call which was given a work guard. -/
def Call.isAdmitted : Call ρ → Bool
  | .work .working | .work (.finished (.ok _)) => true
  | _ => false

/-- On a released endpoint no call is given a guard, and none signals a route. -/
theorem Call.advance_of_released [MessageRoute ρ] {endpoint : Endpoint ρ} {call : Call ρ} (answer)
    (closed : endpoint.gate.accepting = false) (idle : call.isSignalling = false) :
    (call.advance answer endpoint).2.isAdmitted = call.isAdmitted ∧
      (call.advance answer endpoint).2.delivery = call.delivery := by
  cases call with
  | work step =>
    refine ⟨?_, rfl⟩
    cases step with
    | checking =>
      simp only [advance, WorkStep.advance]
      split <;> rfl
    | admitting =>
      simp only [advance, WorkStep.advance]
      rcases endpoint.onGate_admit with ⟨error, refused⟩ | ⟨accepting, _⟩
      · rw [refused]
        rfl
      · exact absurd (accepting.symm.trans closed) (by decide)
    | working | finished => rfl
  | signal message step =>
    refine ⟨rfl, ?_⟩
    cases step with
    | resolving =>
      simp only [advance, SignalStep.advance]
      rcases endpoint.onMessages_admit message with
        ⟨error, outcome⟩ | ⟨route, _, _, outcome⟩ <;> rw [outcome] <;> rfl
    | signalling | signalled => cases idle
    | finished route result => rfl
  | quiesce | resume | release => exact ⟨rfl, rfl⟩

namespace EndpointPool

variable [MessageRoute ρ] {routes : List ρ} {pool : EndpointPool ρ}

/-- How many work guards have been given out. -/
def admissions (pool : EndpointPool ρ) : Nat := pool.tasks.countP isAdmitted

/-- The routes which have been signalled. -/
def deliveries (pool : EndpointPool ρ) : List (ρ × GuestMessage) :=
  pool.tasks.filterMap delivery

/-- Both invariants, on an endpoint which has been released. -/
structure Over (routes : List ρ) (pool : EndpointPool ρ) : Prop where
  accounted : (accounting routes).Sound pool
  exclusive : exclusion.Sound pool
  released : pool.shared.phase = .released

/-- A released endpoint admits and delivers nothing more. -/
theorem Over.step (finished : Over routes pool) {event : EndpointEvent}
    (starts : pool.mayStart event) :
    Over routes (pool.step event) ∧ (pool.step event).admissions = pool.admissions ∧
      (pool.step event).deliveries = pool.deliveries := by
  have accounted := accounting_step finished.accounted event
  have exclusive := exclusion_step finished.exclusive starts
  have spawned (call : Call ρ) (unadmitted : call.isAdmitted = false)
      (undelivered : call.delivery = none) :
      admissions (Pool.spawn pool call) = pool.admissions ∧
        deliveries (Pool.spawn pool call) = pool.deliveries := by
    simp [admissions, deliveries, Pool.spawn, unadmitted, undelivered]
  cases event with
  | turn index answer =>
    simp only [EndpointPool.step, Pool.turn] at accounted exclusive ⊢
    cases current : pool.tasks[index]? with
    | none => exact ⟨finished, rfl, rfl⟩
    | some call =>
      simp only [current] at accounted exclusive
      have present : call ∈ pool.tasks := mem_of_getElem? current
      have closed := (finished.exclusive.shared.closed finished.released).1
      have idle : call.isSignalling = false := by
        have drained := finished.accounted.shared.drained
          (finished.accounted.shared.released finished.released)
        rw [finished.accounted.shared.signals] at drained
        exact Bool.eq_false_iff.mpr (countP_eq_zero.mp drained call present)
      have positive (kind : CallKind) (isCounted : call.counted kind) :
          0 < tally counted pool.tasks kind :=
        tally_pos present isCounted
      have turns := call.turns answer finished.exclusive.shared
        (finished.exclusive.tasks call present) positive
      obtain ⟨admitted, delivered⟩ := call.advance_of_released answer closed idle
      refine ⟨⟨accounted, exclusive, turns.gentle.final finished.released⟩, ?_,
        filterMap_set current delivered⟩
      have moves : tally (fun (_ : Unit) => isAdmitted)
          (pool.tasks.set index (call.advance answer pool.shared).2) () + call.isAdmitted.toNat =
          tally (fun (_ : Unit) => isAdmitted) pool.tasks () +
            (call.advance answer pool.shared).2.isAdmitted.toNat :=
        tally_set current ()
      rw [admitted] at moves
      exact Nat.add_right_cancel moves
  | admitDeviceWork => exact ⟨⟨accounted, exclusive, finished.released⟩, spawned _ rfl rfl⟩
  | signal message => exact ⟨⟨accounted, exclusive, finished.released⟩, spawned _ rfl rfl⟩
  | beginQuiesce => exact ⟨⟨accounted, exclusive, finished.released⟩, spawned _ rfl rfl⟩
  | resume => exact ⟨⟨accounted, exclusive, finished.released⟩, spawned _ rfl rfl⟩
  | release => exact ⟨⟨accounted, exclusive, finished.released⟩, spawned _ rfl rfl⟩

/-- A released endpoint stays as it is. -/
theorem Over.run (finished : Over routes pool) {events} (orderly : pool.isOrderly events) :
    (pool.run events).admissions = pool.admissions ∧
      (pool.run events).deliveries = pool.deliveries := by
  induction events generalizing pool with
  | nil => exact ⟨rfl, rfl⟩
  | cons event rest ih =>
    rw [isOrderly, Bool.and_eq_true] at orderly
    obtain ⟨next, admitted, delivered⟩ := finished.step orderly.1
    obtain ⟨laterAdmitted, laterDelivered⟩ := ih next orderly.2
    exact ⟨laterAdmitted.trans admitted, laterDelivered.trans delivered⟩

/-- What holds of an endpoint however its calls interleave: the counters count the live
guards, and a message reaches the one route which recognises it. -/
structure Accounts (routes : List ρ) (pool : EndpointPool ρ) : Prop where
  work : pool.shared.gate.inFlight = pool.tasks.countP isWorking
  signals : pool.shared.messages.inFlight = pool.tasks.countP isSignalling
  routed : ∀ route message, (route, message) ∈ pool.deliveries →
    routes.filter (MessageRoute.recognises · message) = [route]

theorem accounts_of_sound (accounted : (accounting routes).Sound pool) :
    Accounts routes pool where
  work := accounted.shared.work
  signals := accounted.shared.signals
  routed route message delivered := by
    obtain ⟨call, present, found⟩ := mem_filterMap.mp delivered
    refine (accounted.tasks call present).routed route message ?_
    cases call with
    | signal message step =>
      cases step with
      | signalling route => cases found
      | _ => exact found
    | _ => exact found

/-- While `resume` has not been called since a successful `begin_quiesce` started, nothing is
live. -/
def Quiesces (pool : EndpointPool ρ) : Prop :=
  ∀ since, .quiesce since (.finished (.ok ())) ∈ pool.tasks → pool.resumeCalls = since →
    ∀ call ∈ pool.tasks, call.isWorking = false ∧ call.isSignalling = false

theorem quiesces_of_sound (accounted : (accounting routes).Sound pool)
    (exclusive : exclusion.Sound pool) : Quiesces pool := by
  intro since returned unresumed call present
  obtain ⟨-, -, -, fresh⟩ := exclusive.tasks _ returned
  obtain ⟨-, ⟨-, noWork⟩, -, noSignals⟩ := fresh unresumed.symm
  rw [accounted.shared.work] at noWork
  rw [accounted.shared.signals] at noSignals
  exact ⟨Bool.eq_false_iff.mpr (countP_eq_zero.mp noWork call present),
    Bool.eq_false_iff.mpr (countP_eq_zero.mp noSignals call present)⟩

/-- The accounts of an endpoint hold in every run. When the control calls keep out of each
other's way, a quiesced endpoint is also quiet until it is resumed, and a released one
forever. -/
theorem endpoint_quiescence (routes : List ρ) (events : List EndpointEvent) :
    Accounts routes ((new routes).run events) ∧
      ((new routes).isOrderly events → Quiesces ((new routes).run events) ∧
        ∀ earlier later, events = earlier ++ later →
          .release (.finished (.ok ())) ∈ ((new routes).run earlier).tasks →
          ((new routes).run events).admissions = ((new routes).run earlier).admissions ∧
            ((new routes).run events).deliveries = ((new routes).run earlier).deliveries) := by
  have accounted (events) : (accounting routes).Sound ((new routes).run events) :=
    accounting_run accounting_new events
  refine ⟨accounts_of_sound (accounted events), fun orderly =>
    ⟨quiesces_of_sound (accounted events) (exclusion_run exclusion_new orderly), ?_⟩⟩
  rintro earlier later rfl returned
  rw [isOrderly_append, Bool.and_eq_true] at orderly
  have exclusive : exclusion.Sound ((new routes).run earlier) :=
    exclusion_run exclusion_new orderly.1
  have finished : Over routes ((new routes).run earlier) :=
    ⟨accounted earlier, exclusive, exclusive.tasks _ returned⟩
  have quiet := finished.run orderly.2
  rwa [run, run, ← foldl_append] at quiet

end EndpointPool

/-- A route of one exact message. -/
instance : MessageRoute GuestMessage where
  recognises route message := route = message

namespace EndpointPool

/-- One call runs on. -/
def turns (index count : Nat) : List EndpointEvent := List.replicate count (.turn index (.ok ()))

/-- Work and a signal, then a teardown which waits for neither. -/
def teardownEvents : List EndpointEvent :=
  [.admitDeviceWork, .signal ⟨4096, 7⟩] ++ turns 0 3 ++ turns 1 3 ++
    [.beginQuiesce] ++ turns 2 4 ++ [.release] ++ turns 3 5 ++ [.admitDeviceWork] ++ turns 4 2

theorem teardown_quiesces :
    (release (.finished (.ok ())) ∈
        ((new [⟨4096, 7⟩]).run teardownEvents : EndpointPool GuestMessage).tasks) ∧
      ((new [⟨4096, 7⟩]).run teardownEvents : EndpointPool GuestMessage).deliveries =
        [(⟨4096, 7⟩, ⟨4096, 7⟩)] ∧
      Quiesces ((new [⟨4096, 7⟩]).run teardownEvents : EndpointPool GuestMessage) :=
  ⟨by decide, by decide, ((endpoint_quiescence _ teardownEvents).2 (by decide)).1⟩

/-- A `begin_quiesce` and a work admission have read the phase when `release` starts. -/
def releaseEvents : List EndpointEvent :=
  [.beginQuiesce] ++ turns 0 1 ++ [.admitDeviceWork] ++ turns 1 1 ++ [.release] ++ turns 2 5

/-- The `begin_quiesce` fails on the released registry and reopens the gate. -/
def reopenEvents : List EndpointEvent := turns 0 3 ++ turns 1 1

/-- A `resume` has activated the endpoint when `begin_quiesce` is called and returns; only
then it reopens the gate. -/
def overtakenEvents : List EndpointEvent :=
  [.beginQuiesce] ++ turns 0 4 ++ [.resume] ++ turns 1 3 ++ [.admitDeviceWork] ++ turns 2 1 ++
    [.beginQuiesce] ++ turns 3 4 ++ turns 1 1 ++ turns 2 1

/-- A gate is reopened behind the back of a `release` and of a `begin_quiesce`. -/
theorem work_admitted_after_teardown :
    (release (.finished (.ok ())) ∈
        ((new [⟨4096, 7⟩]).run releaseEvents : EndpointPool GuestMessage).tasks ∧
      ((new [⟨4096, 7⟩]).run releaseEvents : EndpointPool GuestMessage).admissions = 0 ∧
      ((new [⟨4096, 7⟩]).run (releaseEvents ++ reopenEvents) :
        EndpointPool GuestMessage).admissions = 1) ∧
    (quiesce 1 (.finished (.ok ())) ∈
        ((new [⟨4096, 7⟩]).run overtakenEvents : EndpointPool GuestMessage).tasks ∧
      ((new [⟨4096, 7⟩]).run overtakenEvents : EndpointPool GuestMessage).resumeCalls = 1 ∧
      work .working ∈
        ((new [⟨4096, 7⟩]).run overtakenEvents : EndpointPool GuestMessage).tasks) := by
  decide

end EndpointPool
end Bangbang.Pci
