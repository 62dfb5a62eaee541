import Bangbang.Session.Lifecycle

/-!
# Launcher and worker agree

`Phase` lists where the two sides of a session can stand together, with the frames of the
main exchange which are then in flight; `Cancelling` says how far a cancellation has come,
which may be queued behind any other frame. Every call and every delivery keeps a link in
such a phase. Two frames can be refused: an acknowledgement of grants which the launcher
has not bound, and a cancellation which reaches a worker that has reported its result.
-/

namespace Bangbang.Session

open Bangbang.Action List Link
open Grants (SessionId)

/-- A message without its content. -/
inductive MessageKind where
  | hello
  | start
  | proceed
  | cancel
  | prepared
  | grantsAccepted
  | starting
  | ready
  | terminal
deriving DecidableEq, Repr

def Message.kind : Message → MessageKind
  | .hello => .hello
  | .start _ => .start
  | .proceed => .proceed
  | .cancel _ => .cancel
  | .prepared .. => .prepared
  | .grantsAccepted _ => .grantsAccepted
  | .starting => .starting
  | .ready _ => .ready
  | .terminal .. => .terminal

/-- The frames of a list of messages, numbered from a sequence on. -/
def framesFrom (session : SessionId) : Nat → List Message → List Frame
  | _, [] => []
  | sequence, message :: rest =>
    ⟨session, sequence, message⟩ :: framesFrom session (sequence + 1) rest

/-- Frames are numbered one after the other. -/
theorem map_sequence_framesFrom (session sequence messages) :
    (framesFrom session sequence messages).map Frame.sequence =
      range' sequence messages.length := by
  induction messages generalizing sequence with
  | nil => rfl
  | cons message rest ih => exact congrArg (cons sequence) (ih (sequence + 1))

theorem framesFrom_append (session sequence messages message) :
    framesFrom session sequence (messages ++ [message]) =
      framesFrom session sequence messages ++ [⟨session, sequence + messages.length, message⟩] := by
  induction messages generalizing sequence with
  | nil => rfl
  | cons first rest ih =>
    rw [cons_append, framesFrom, ih, framesFrom, cons_append, length_cons]
    congr 4
    omega

/-- What a started worker has sent since, and the state it is then in. -/
inductive Reports : List Message → WorkerState → Prop where
  | starting : Reports [.starting] .starting
  | ready (readiness : Readiness) : Reports [.starting, .ready readiness] (.ready readiness)
  | ended (category : TerminalCategory) (exitCode : Nat) :
      Reports [.starting, .terminal category exitCode] .terminal
  | endedReady (readiness : Readiness) (category : TerminalCategory) (exitCode : Nat) :
      Reports [.starting, .ready readiness, .terminal category exitCode] .terminal

variable {state : WorkerState} {messages : List Message}

/-- A worker reports three times at most. -/
theorem Reports.length_le (reports : Reports messages state) : messages.length ≤ 3 := by
  cases reports <;> simp

/-- A started worker runs or has ended. -/
theorem Reports.state_cases (reports : Reports messages state) :
    WorkerLifecycle.isRunning state ∨ state = .terminal := by
  cases reports <;> simp [WorkerLifecycle.isRunning]

/-- A worker which has announced its start may report that it is ready. -/
theorem Reports.appendReady (reports : Reports messages .starting) (readiness) :
    Reports (messages ++ [.ready readiness]) (.ready readiness) := by
  cases reports
  exact .ready readiness

/-- A running worker may report its result. -/
theorem Reports.appendTerminal (reports : Reports messages state)
    (running : WorkerLifecycle.isRunning state) (category exitCode) :
    Reports (messages ++ [.terminal category exitCode]) .terminal := by
  cases reports with
  | starting => exact .ended category exitCode
  | ready readiness => exact .endedReady readiness category exitCode
  | ended | endedReady => cases running

/-- The launcher's state after the reports which it has accepted. -/
def observed : List Message → LauncherState
  | [] => .awaitStarting
  | [.starting] => .starting
  | [.starting, .ready readiness] => .ready readiness
  | _ => .terminal

/-- Where the two sides stand in the main exchange. -/
inductive Phase where
  | idle
  | greeting
  | greeted
  | launching (policy : WorkerPolicy)
  | preparing
  | proving (device inode : Nat)
  | granting
  /-- The worker has acknowledged before its preparation was delivered. -/
  | hurrying (device inode : Nat) (grants : AcceptedGrants)
  | acknowledging (grants : AcceptedGrants)
  | unbound
  | granted (grants : AcceptedGrants)
  | proceeding (grants : AcceptedGrants)
  | running (grants : AcceptedGrants) (accepted pending : List Message) (state : WorkerState)
deriving DecidableEq, Repr

open Phase

namespace Phase

/-- Where the launcher stands. -/
def launcherState : Phase → LauncherState
  | .idle | .greeting => .awaitHello
  | .greeted => .readyToStart
  | .launching _ | .preparing | .proving .. | .hurrying .. => .awaitPrepared
  | .granting | .acknowledging _ | .unbound => .awaitGrants
  | .granted _ => .readyToProceed
  | .proceeding _ => .awaitStarting
  | .running _ accepted _ _ => observed accepted

/-- Where the worker stands. -/
def workerState : Phase → WorkerState
  | .idle | .greeting | .greeted | .launching _ => .awaitStart
  | .preparing => .preparing
  | .proving .. | .granting => .awaitGrants
  | .hurrying .. | .acknowledging _ | .unbound | .granted _ | .proceeding _ => .awaitProceed
  | .running _ _ _ state => state

/-- The frames of the main exchange which the launcher has yet to receive. -/
def toLauncher (session : SessionId) : Phase → List Frame
  | .greeting => [⟨preSession, 0, .hello⟩]
  | .proving device inode => [⟨session, 1, .prepared device inode⟩]
  | .hurrying device inode grants =>
    [⟨session, 1, .prepared device inode⟩, ⟨session, 2, .grantsAccepted grants⟩]
  | .acknowledging grants => [⟨session, 2, .grantsAccepted grants⟩]
  | .running _ accepted pending _ => framesFrom session (3 + accepted.length) pending
  | _ => []

/-- The messages of the main exchange which the worker has yet to receive. -/
def toWorker : Phase → List Message
  | .launching policy => [.start policy]
  | .proceeding _ => [.proceed]
  | _ => []

/-- The number which the launcher expects next. -/
def launcherIncoming : Phase → Nat
  | .idle | .greeting => 0
  | .greeted | .launching _ | .preparing | .proving .. | .hurrying .. => 1
  | .granting | .acknowledging _ | .unbound => 2
  | .granted _ | .proceeding _ => 3
  | .running _ accepted _ _ => 3 + accepted.length

/-- The number which the launcher sends next. -/
def launcherOutgoing : Phase → Nat
  | .idle | .greeting | .greeted => 0
  | .proceeding _ | .running .. => 2
  | _ => 1

/-- The number which the worker expects next. -/
def workerIncoming : Phase → Nat
  | .idle | .greeting | .greeted | .launching _ => 0
  | .running .. => 2
  | _ => 1

/-- The number which the worker sends next. -/
def workerOutgoing : Phase → Nat
  | .idle => 0
  | .greeting | .greeted | .launching _ | .preparing => 1
  | .proving .. | .granting => 2
  | .hurrying .. | .acknowledging _ | .unbound | .granted _ | .proceeding _ => 3
  | .running _ accepted pending _ => 3 + (accepted ++ pending).length

def workerSession (session : SessionId) : Phase → Option SessionId
  | .idle | .greeting | .greeted | .launching _ => none
  | _ => some session

/-- The grants which the launcher has seen acknowledged. -/
def grants : Phase → Option AcceptedGrants
  | .granted grants | .proceeding grants | .running grants .. => some grants
  | _ => none

/-- What the launcher has accepted so far. -/
def launcherAccepted : Phase → List MessageKind
  | .idle | .greeting => []
  | .greeted | .launching _ | .preparing | .proving .. | .hurrying .. => [.hello]
  | .granting | .acknowledging _ | .unbound => [.hello, .prepared]
  | .granted _ | .proceeding _ => [.hello, .prepared, .grantsAccepted]
  | .running _ accepted _ _ => [.hello, .prepared, .grantsAccepted] ++ accepted.map Message.kind

/-- What the worker has accepted so far. -/
def workerAccepted : Phase → List MessageKind
  | .idle | .greeting | .greeted | .launching _ => []
  | .running .. => [.start, .proceed]
  | _ => [.start]

end Phase

/-- How far a cancellation has come. -/
inductive Cancelling where
  | idle
  | sent (signal : CancelSignal)
  | received
  | late
deriving DecidableEq, Repr

open Cancelling

namespace Cancelling

/-- A cancel has been sent. -/
def isSent : Cancelling → Bool
  | .idle => false
  | _ => true

def toWorker : Cancelling → List Message
  | .sent signal => [.cancel signal]
  | _ => []

/-- A cancel has been received. -/
def isReceived : Cancelling → Bool
  | .received => true
  | _ => false

end Cancelling

/-- Where a session stands: the phase, the cancellation, and what the launcher has bound
and not yet seen acknowledged. -/
structure Stand where
  phase : Phase
  cancelling : Cancelling
  expected : Option AcceptedGrants
deriving DecidableEq, Repr

namespace Stand

/-- The launcher of a stand. -/
def launcher (stand : Stand) (session : SessionId) : LauncherLifecycle where
  session := session
  state := stand.phase.launcherState
  incomingSequence := stand.phase.launcherIncoming
  outgoingSequence := stand.phase.launcherOutgoing + stand.cancelling.isSent.toNat
  cancelled := stand.cancelling.isSent
  expectedGrants := stand.expected

/-- The worker of a stand. -/
def worker (stand : Stand) (session : SessionId) : WorkerLifecycle where
  session := stand.phase.workerSession session
  state := stand.phase.workerState
  incomingSequence := stand.phase.workerIncoming + stand.cancelling.isReceived.toNat
  outgoingSequence := stand.phase.workerOutgoing
  cancelled := stand.cancelling.isReceived

/-- The frames which the worker has yet to receive; a cancellation comes last. -/
def toWorker (stand : Stand) (session : SessionId) : List Frame :=
  framesFrom session (stand.worker session).incomingSequence
    (stand.phase.toWorker ++ stand.cancelling.toWorker)

/-- The stands which occur. -/
structure Coherent (session : SessionId) (stand : Stand) : Prop where
  /-- A session which has started is not the reserved one. -/
  started : stand.phase.launcherOutgoing ≠ 0 → session ≠ preSession
  cancellable : stand.cancelling.isSent → stand.phase.launcherOutgoing ≠ 0
  /-- A cancellation is received after the frames which were sent before it. -/
  behind : stand.cancelling.isReceived → stand.phase.toWorker = []
  late : stand.cancelling = .late → stand.phase.workerState = .terminal
  reports : ∀ grants accepted pending state, stand.phase = .running grants accepted pending state →
    Reports (accepted ++ pending) state

end Stand

open Stand

/-- No authorisation follows a cancellation. -/
def CancelIsFinal (sent : List Message) : Prop :=
  ∀ before signal after, sent = before ++ .cancel signal :: after → .proceed ∉ after

/-- A message which is no authorisation after a cancel may follow. -/
theorem CancelIsFinal.append {sent message} (final : CancelIsFinal sent)
    (safe : message = .proceed → (sent.map Message.kind).count .cancel = 0) :
    CancelIsFinal (sent ++ [message]) := by
  intro before signal after split
  rcases eq_nil_or_concat after with rfl | ⟨earlier, last, rfl⟩
  · exact not_mem_nil
  · rw [concat_eq_append, ← cons_append, ← append_assoc] at split
    obtain ⟨same, lastSame⟩ := append_inj' split rfl
    rw [concat_eq_append, mem_append, mem_singleton, not_or]
    refine ⟨final before signal earlier same, fun authorises => ?_⟩
    -- An authorisation is sent only while no cancellation has been.
    have none := safe ((singleton_inj.mp lastSame).trans authorises.symm)
    rw [same, count_eq_zero] at none
    exact none (by simp [Message.kind])

/-- What the link has recorded of the frames which were sent and accepted. -/
structure Recorded (link : Link) (stand : Stand) : Prop where
  bound : link.bound = (stand.phase.grants.or stand.expected).toList
  acknowledged : ∀ grants, stand.phase.grants = some grants →
    .grantsAccepted grants ∈ link.launcherAccepted
  launcherAccepted : link.launcherAccepted.map Message.kind = stand.phase.launcherAccepted
  workerAccepted : (link.workerAccepted.map Message.kind).filter (· ≠ .cancel) =
    stand.phase.workerAccepted
  workerCancels : (link.workerAccepted.map Message.kind).count .cancel =
    stand.cancelling.isReceived.toNat
  launcherCancels : (link.launcherSent.map Message.kind).count .cancel =
    stand.cancelling.isSent.toNat
  cancelIsFinal : CancelIsFinal link.launcherSent

/-- The link stands as described. -/
structure Agreed (session : SessionId) (link : Link) (stand : Stand) : Prop where
  launcher : link.launcher = stand.launcher session
  worker : link.worker = stand.worker session
  toLauncher : link.toLauncher = stand.phase.toLauncher session
  toWorker : link.toWorker = stand.toWorker session
  coherent : stand.Coherent session
  recorded : Recorded link stand

/-- A new link agrees. -/
theorem Agreed.new (session) : Agreed session (Link.new session) ⟨.idle, .idle, none⟩ where
  launcher := rfl
  worker := rfl
  toLauncher := rfl
  toWorker := rfl
  coherent := by constructor <;> simp [Phase.launcherOutgoing, Cancelling.isSent,
    Cancelling.isReceived]
  recorded := by constructor <;> simp [Link.new, Phase.grants, Phase.launcherAccepted,
    Phase.workerAccepted, Cancelling.isReceived, Cancelling.isSent, CancelIsFinal]

/-! ## Calls which send a frame -/

/-- A call which is refused without a change, or passes its guard and sends a frame. -/
inductive Sends {σ : Type} (call : Action σ ProtocolError Frame) (state : σ) (passes : Prop)
    (frame : Frame) (next : σ) : Prop where
  | refused (error : ProtocolError) (answer : outcome call state = (.error error, state))
  | sent (passed : passes) (answer : outcome call state = (.ok frame, next))

/-- The shape of every sending call: a guard, a change, and the frame. -/
theorem sends_of_guard {σ : Type} {state} {rejected : Prop} [Decidable rejected] {frame next call}
    (change : σ → σ) (send) (sent : ¬ rejected → outcome send (change state) = (.ok frame, next))
    (same : outcome call state = outcome (do
      check (rejectIf rejected .invalidLifecycle)
      modify change
      send) state) : Sends call state (¬ rejected) frame next := by
  by_cases holds : rejected
  · refine .refused .invalidLifecycle ?_
    rw [same]
    simp [outcome_bind, rejectIf, holds]
  · refine .sent holds ?_
    rw [same]
    simp only [outcome_bind, outcome_check, rejectIf, holds, if_false, outcome_modify]
    exact sent holds

namespace LauncherLifecycle

variable {launcher : LauncherLifecycle}

/-- An outgoing frame takes the next number. -/
theorem outgoing_eq (launcher) {message} (sender : message.sender = .launcher)
    (small : launcher.outgoingSequence + 1 < wordLimit) :
    outcome (outgoing message) launcher =
      (.ok ⟨launcher.session, launcher.outgoingSequence, message⟩,
        { launcher with outgoingSequence := launcher.outgoingSequence + 1 }) := by
  simp only [outgoing, outcome_bind, outcome_check, outcome_get,
    outcome_modify, outcome_pure, sender, rejectIf, ne_eq, not_true_eq_false,
    if_false, checkedAdd, small, if_true, okOr]

/-- A start is sent once. -/
theorem start_sends (policy) (small : launcher.outgoingSequence + 1 < wordLimit) :
    Sends (start policy) launcher
      (¬ (launcher.session = preSession ∨ launcher.outgoingSequence ≠ 0 ∨
        launcher.state ≠ .readyToStart))
      ⟨launcher.session, launcher.outgoingSequence, .start policy⟩
      { launcher with
        state := .awaitPrepared, outgoingSequence := launcher.outgoingSequence + 1 } :=
  sends_of_guard _ _ (fun _ => outgoing_eq { launcher with state := .awaitPrepared } rfl small) rfl

/-- A proceed is sent when the launcher is ready and not cancelled. -/
theorem proceed_sends (small : launcher.outgoingSequence + 1 < wordLimit) :
    Sends proceed launcher (¬ (launcher.state ≠ .readyToProceed ∨ launcher.cancelled))
      ⟨launcher.session, launcher.outgoingSequence, .proceed⟩
      { launcher with
        state := .awaitStarting, outgoingSequence := launcher.outgoingSequence + 1 } :=
  sends_of_guard _ _ (fun _ => outgoing_eq { launcher with state := .awaitStarting } rfl small) rfl

/-- A cancel is sent once. -/
theorem cancel_sends (signal) (small : launcher.outgoingSequence + 1 < wordLimit) :
    Sends (cancel signal) launcher (¬ (launcher.cancelled ∨ ¬ isCancellable launcher.state))
      ⟨launcher.session, launcher.outgoingSequence, .cancel signal⟩
      { launcher with cancelled := true, outgoingSequence := launcher.outgoingSequence + 1 } :=
  sends_of_guard _ _ (fun _ => outgoing_eq { launcher with cancelled := true } rfl small) rfl

end LauncherLifecycle

open LauncherLifecycle

variable {session : SessionId} {link : Link} {stand : Stand}

namespace WorkerLifecycle

variable {worker : WorkerLifecycle}

theorem outgoing_eq (worker) {message} (sender : message.sender = .worker)
    (bound : worker.session = some session) (small : worker.outgoingSequence + 1 < wordLimit) :
    outcome (outgoing message) worker =
      (.ok ⟨session, worker.outgoingSequence, message⟩,
        { worker with outgoingSequence := worker.outgoingSequence + 1 }) := by
  simp only [outgoing, outcome_bind, outcome_check, outcome_get,
    outcome_modify, outcome_pure, sender, rejectIf, ne_eq, not_true_eq_false,
    if_false, checkedAdd, small, if_true, okOr, bound]

/-- Past its greeting a worker is bound to a session. -/
def IsBound (worker : WorkerLifecycle) (session : SessionId) : Prop :=
  worker.state ≠ .awaitStart → worker.session = some session

/-- The worker greets first. -/
theorem hello_sends : Sends hello worker
    (¬ (worker.state ≠ .awaitStart ∨ worker.outgoingSequence ≠ 0)) ⟨preSession, 0, .hello⟩
    { worker with outgoingSequence := 1 } :=
  sends_of_guard _ (pure _) (fun _ => rfl) rfl

/-- A worker reports that it is prepared. -/
theorem prepared_sends (device inode) (bound : worker.IsBound session)
    (small : worker.outgoingSequence + 1 < wordLimit) :
    Sends (prepared device inode) worker (¬ (worker.state ≠ .preparing ∨ worker.cancelled))
      ⟨session, worker.outgoingSequence, .prepared device inode⟩
      { worker with state := .awaitGrants, outgoingSequence := worker.outgoingSequence + 1 } := by
  refine sends_of_guard _ _ (fun passed => ?_) rfl
  refine outgoing_eq { worker with state := .awaitGrants } rfl (bound fun early => ?_) small
  simp [early] at passed

/-- A worker accepts valid grants. -/
theorem grantsAccepted_sends (grants) (bound : worker.IsBound session)
    (small : worker.outgoingSequence + 1 < wordLimit) :
    Sends (grantsAccepted grants) worker
      (¬ (worker.state ≠ .awaitGrants ∨ worker.cancelled ∨ ¬ grants.isValid))
      ⟨session, worker.outgoingSequence, .grantsAccepted grants⟩
      { worker with state := .awaitProceed, outgoingSequence := worker.outgoingSequence + 1 } := by
  refine sends_of_guard _ _ (fun passed => ?_) rfl
  refine outgoing_eq { worker with state := .awaitProceed } rfl (bound fun early => ?_) small
  simp [early] at passed

/-- A worker reports readiness. -/
theorem ready_sends (readiness) (bound : worker.IsBound session)
    (small : worker.outgoingSequence + 1 < wordLimit) :
    Sends (ready readiness) worker (¬ (worker.state ≠ .starting ∨ worker.cancelled))
      ⟨session, worker.outgoingSequence, .ready readiness⟩
      { worker with
        state := .ready readiness, outgoingSequence := worker.outgoingSequence + 1 } := by
  refine sends_of_guard _ _ (fun passed => ?_) rfl
  refine outgoing_eq { worker with state := .ready readiness } rfl (bound fun early => ?_) small
  simp [early] at passed

/-- A worker reports its end. -/
theorem terminal_sends (category exitCode) (bound : worker.IsBound session)
    (small : worker.outgoingSequence + 1 < wordLimit) :
    Sends (terminal category exitCode) worker (¬ (¬ isRunning worker.state))
      ⟨session, worker.outgoingSequence, .terminal category exitCode⟩
      { worker with state := .terminal, outgoingSequence := worker.outgoingSequence + 1 } := by
  refine sends_of_guard _ _ (fun passed => ?_) rfl
  refine outgoing_eq { worker with state := .terminal } rfl (bound fun early => ?_) small
  simp [early, isRunning] at passed

end WorkerLifecycle

open WorkerLifecycle

/-! ## Where a guard lets a call through -/

theorem observed_cases (accepted) :
    observed accepted = .awaitStarting ∨ observed accepted = .starting ∨
      (∃ readiness, observed accepted = .ready readiness) ∨ observed accepted = .terminal := by
  unfold observed
  split <;> simp

namespace Phase

variable {phase : Phase}

theorem launcherOutgoing_le (phase : Phase) : phase.launcherOutgoing ≤ 2 := by
  cases phase <;> simp [launcherOutgoing]

/-- What the launcher has sent, the worker has received or is yet to receive. -/
theorem launcherOutgoing_eq (phase : Phase) :
    phase.launcherOutgoing = phase.workerIncoming + phase.toWorker.length := by
  cases phase <;> rfl

/-- Only a greeted launcher may start. -/
theorem eq_greeted (state : phase.launcherState = .readyToStart) : phase = .greeted := by
  cases phase with
  | greeted => rfl
  | running grants accepted =>
    exact absurd (observed_cases accepted) (by simp_all [launcherState])
  | _ => simp [launcherState] at state

/-- Only a launcher with grants may proceed. -/
theorem eq_granted (state : phase.launcherState = .readyToProceed) :
    ∃ grants, phase = .granted grants := by
  cases phase with
  | granted grants => exact ⟨grants, rfl⟩
  | running grants accepted =>
    exact absurd (observed_cases accepted) (by simp_all [launcherState])
  | _ => simp [launcherState] at state

/-- A launcher which awaits grants has none. -/
theorem grants_eq_none (state : phase.launcherState = .awaitGrants) : phase.grants = none := by
  cases phase with
  | running grants accepted =>
    exact absurd (observed_cases accepted) (by simp_all [launcherState])
  | granted | proceeding => simp [launcherState] at state
  | _ => rfl

theorem launcherOutgoing_ne_zero (state : isCancellable phase.launcherState) :
    phase.launcherOutgoing ≠ 0 := by
  cases phase <;> simp_all [launcherOutgoing, launcherState, isCancellable]

end Phase

namespace Stand

theorem launcher_small (stand : Stand) (session : SessionId) :
    (stand.launcher session).outgoingSequence + 1 < wordLimit := by
  have main := stand.phase.launcherOutgoing_le
  have cancel := stand.cancelling.isSent.toNat_le
  simp only [launcher, wordLimit_eq]
  omega

/-- The worker never runs out of numbers. -/
theorem Coherent.worker_small (coherent : stand.Coherent session) :
    (stand.worker session).outgoingSequence + 1 < wordLimit := by
  obtain ⟨phase, cancelling, expected⟩ := stand
  cases phase with
  | running grants accepted pending state =>
    have reports := coherent.reports grants accepted pending state rfl
    have short := reports.length_le
    simp only [worker, workerOutgoing, wordLimit_eq]
    omega
  | _ => simp [worker, workerOutgoing, wordLimit_eq]

theorem Coherent.launcher_incoming_small (coherent : stand.Coherent session) :
    (stand.launcher session).incomingSequence + 1 < wordLimit := by
  obtain ⟨phase, cancelling, expected⟩ := stand
  cases phase with
  | running grants accepted pending state =>
    have reports := coherent.reports grants accepted pending state rfl
    have short := reports.length_le
    rw [length_append] at short
    simp only [launcher, launcherIncoming, wordLimit_eq]
    omega
  | _ => simp [launcher, launcherIncoming, wordLimit_eq]

theorem worker_incoming_small (stand : Stand) (session : SessionId) :
    (stand.worker session).incomingSequence + 1 < wordLimit := by
  have main := stand.phase.launcherOutgoing_le
  have received := stand.phase.launcherOutgoing_eq
  have cancel := stand.cancelling.isReceived.toNat_le
  simp only [worker, wordLimit_eq]
  omega

/-- Past its greeting the worker is bound to the session. -/
theorem worker_isBound (stand : Stand) (session : SessionId) :
    (stand.worker session).IsBound session := by
  obtain ⟨phase, cancelling, expected⟩ := stand
  intro past
  cases phase <;> first | rfl | exact absurd rfl past

end Stand

/-! ## Every step keeps the agreement -/

namespace Agreed

variable (agreed : Agreed session link stand)
include agreed

theorem launcher_kept : { link with launcher := stand.launcher session } = link := by
  rw [← agreed.launcher]

theorem worker_kept : { link with worker := stand.worker session } = link := by
  rw [← agreed.worker]

/-- A start keeps the agreement. -/
theorem start (policy : WorkerPolicy) :
    ∃ next, Agreed session (link.step (.start policy)) next := by
  rw [step, launcherCall, agreed.launcher]
  rcases start_sends policy (stand.launcher_small session) with
    ⟨_, answer⟩ | ⟨passed, answer⟩ <;> simp only [answer]
  · exact ⟨stand, agreed.launcher_kept.symm ▸ agreed⟩
  · obtain ⟨phase, cancelling, expected⟩ := stand
    simp only [not_or, not_not, ne_eq] at passed
    obtain ⟨live, -, state⟩ := passed
    obtain rfl : phase = .greeted := eq_greeted state
    obtain rfl : cancelling = .idle := by
      have none := agreed.coherent.cancellable
      cases cancelling <;> simp [isSent, launcherOutgoing] at none ⊢
    refine ⟨⟨.launching policy, .idle, expected⟩, rfl, agreed.worker, agreed.toLauncher, ?_, ?_, ?_⟩
    · rw [agreed.toWorker]
      rfl
    · constructor <;> simp [isSent, isReceived]
      exact fun _ => live
    · have recorded := agreed.recorded
      refine ⟨recorded.bound, by simp [grants], recorded.launcherAccepted,
        recorded.workerAccepted, recorded.workerCancels, ?_, recorded.cancelIsFinal.append nofun⟩
      rw [map_append, count_append, recorded.launcherCancels]
      rfl

/-- A proceed keeps the agreement. -/
theorem proceed : ∃ next, Agreed session (link.step .proceed) next := by
  rw [step, launcherCall, agreed.launcher]
  rcases proceed_sends (stand.launcher_small session) with
    ⟨_, answer⟩ | ⟨passed, answer⟩ <;> simp only [answer]
  · exact ⟨stand, agreed.launcher_kept.symm ▸ agreed⟩
  · obtain ⟨phase, cancelling, expected⟩ := stand
    simp only [not_or, not_not, ne_eq] at passed
    obtain ⟨state, uncancelled⟩ := passed
    obtain ⟨grants, rfl⟩ : ∃ grants, phase = .granted grants := eq_granted state
    obtain rfl : cancelling = .idle := by
      cases cancelling <;> simp [Stand.launcher, Cancelling.isSent] at uncancelled ⊢
    refine ⟨⟨.proceeding grants, .idle, expected⟩, rfl, agreed.worker, agreed.toLauncher, ?_, ?_,
      ?_⟩
    · rw [agreed.toWorker]
      rfl
    · constructor <;> simp [isSent, isReceived]
      exact fun _ => agreed.coherent.started (by simp [launcherOutgoing])
    · have recorded := agreed.recorded
      have none := recorded.launcherCancels
      refine ⟨recorded.bound, recorded.acknowledged, recorded.launcherAccepted,
        recorded.workerAccepted, recorded.workerCancels, ?_,
        recorded.cancelIsFinal.append fun _ => none⟩
      rw [map_append, count_append, none]
      rfl

/-- A cancel keeps the agreement. -/
theorem cancel (signal : CancelSignal) :
    ∃ next, Agreed session (link.step (.cancel signal)) next := by
  rw [step, launcherCall, agreed.launcher]
  rcases cancel_sends signal (stand.launcher_small session) with
    ⟨_, answer⟩ | ⟨passed, answer⟩ <;> simp only [answer]
  · exact ⟨stand, agreed.launcher_kept.symm ▸ agreed⟩
  · obtain ⟨phase, cancelling, expected⟩ := stand
    simp only [not_or, not_not] at passed
    obtain ⟨uncancelled, state⟩ := passed
    obtain rfl : cancelling = .idle := by
      cases cancelling <;> simp [Stand.launcher, Cancelling.isSent] at uncancelled ⊢
    have begun := launcherOutgoing_ne_zero state
    refine ⟨⟨phase, .sent signal, expected⟩, rfl, agreed.worker, agreed.toLauncher, ?_, ?_, ?_⟩
    · rw [agreed.toWorker]
      simp only [Stand.toWorker, Cancelling.toWorker, List.append_nil, framesFrom_append]
      simp [Stand.launcher, Stand.worker, Cancelling.isSent, Cancelling.isReceived,
        phase.launcherOutgoing_eq]
    · exact ⟨agreed.coherent.started, fun _ => begun, by simp [isReceived], by simp,
        agreed.coherent.reports⟩
    · have recorded := agreed.recorded
      refine ⟨recorded.bound, recorded.acknowledged, recorded.launcherAccepted,
        recorded.workerAccepted, recorded.workerCancels, ?_, recorded.cancelIsFinal.append nofun⟩
      rw [map_append, count_append, recorded.launcherCancels]
      rfl

theorem expectGrants (grants) : ∃ next, Agreed session (link.step (.expectGrants grants)) next := by
  rw [step, agreed.launcher]
  by_cases refused : (stand.launcher session).state ≠ .awaitGrants ∨
      (stand.launcher session).cancelled ∨ (stand.launcher session).expectedGrants.isSome ∨
      ¬ grants.isValid
  · have answer : outcome (LauncherLifecycle.expectGrants grants) (stand.launcher session) =
        (.error .invalidLifecycle, stand.launcher session) := by
      simp only [LauncherLifecycle.expectGrants, Action.outcome_bind, Action.outcome_get,
        Action.outcome_check, rejectIf, refused, if_true]
    rw [answer]
    exact ⟨stand, agreed.launcher_kept.symm ▸ agreed⟩
  · have answer : outcome (LauncherLifecycle.expectGrants grants) (stand.launcher session) =
        (.ok (), { stand.launcher session with expectedGrants := some grants }) := by
      simp only [LauncherLifecycle.expectGrants, Action.outcome_bind, Action.outcome_get,
        Action.outcome_check, rejectIf, refused, if_false, Action.outcome_modify]
    rw [answer]
    obtain ⟨phase, cancelling, expected⟩ := stand
    simp only [not_or, not_not, ne_eq] at refused
    obtain ⟨state, -, unbound, -⟩ := refused
    obtain rfl : expected = none := by simpa [Stand.launcher] using unbound
    refine ⟨⟨phase, cancelling, some grants⟩, rfl, agreed.worker, agreed.toLauncher,
      agreed.toWorker, ⟨agreed.coherent.started, agreed.coherent.cancellable,
        agreed.coherent.behind, agreed.coherent.late, agreed.coherent.reports⟩, ?_⟩
    have recorded := agreed.recorded
    refine ⟨?_, recorded.acknowledged, recorded.launcherAccepted, recorded.workerAccepted,
      recorded.workerCancels, recorded.launcherCancels, recorded.cancelIsFinal⟩
    have bound := recorded.bound
    simp only [grants_eq_none state] at bound ⊢
    rw [bound]
    rfl

end Agreed

/-- A phase after the worker has sent a frame: the launcher has seen nothing of it. -/
structure Phase.Reported (session : SessionId) (before after : Phase) (frame : Frame) : Prop where
  launcherState : after.launcherState = before.launcherState
  launcherIncoming : after.launcherIncoming = before.launcherIncoming
  launcherOutgoing : after.launcherOutgoing = before.launcherOutgoing
  workerIncoming : after.workerIncoming = before.workerIncoming
  toLauncher : after.toLauncher session = before.toLauncher session ++ [frame]
  toWorker : after.toWorker = before.toWorker
  grants : after.grants = before.grants
  launcherAccepted : after.launcherAccepted = before.launcherAccepted
  workerAccepted : after.workerAccepted = before.workerAccepted
  live : before.workerState ≠ .terminal
  reports : ∀ grants accepted pending state, after = .running grants accepted pending state →
    Reports (accepted ++ pending) state

namespace Agreed

variable {call}

variable (agreed : Agreed session link stand)
include agreed

/-- A call of the worker keeps the agreement. -/
theorem workerCall {passes : Prop} {frame next}
    (sends : Sends call (stand.worker session) passes frame next)
    (moves : passes → ∃ phase, next = { stand with phase }.worker session ∧
      Phase.Reported session stand.phase phase frame) :
    ∃ next, Agreed session (link.workerCall call) next := by
  rw [Link.workerCall, agreed.worker]
  rcases sends with ⟨_, answer⟩ | ⟨passed, answer⟩ <;> simp only [answer]
  · exact ⟨stand, agreed.worker_kept.symm ▸ agreed⟩
  · obtain ⟨phase, rfl, reported⟩ := moves passed
    have coherent := agreed.coherent
    have recorded := agreed.recorded
    refine ⟨{ stand with phase }, ?_, rfl, ?_, ?_, ?_, ?_⟩
    · simp [agreed.launcher, Stand.launcher, reported.launcherState, reported.launcherIncoming,
        reported.launcherOutgoing]
    · rw [agreed.toLauncher, reported.toLauncher]
    · simp [agreed.toWorker, Stand.toWorker, Stand.worker, reported.toWorker,
        reported.workerIncoming]
    · refine ⟨?_, ?_, ?_, fun late => absurd (coherent.late late) reported.live, reported.reports⟩
      · rw [reported.launcherOutgoing]
        exact coherent.started
      · rw [reported.launcherOutgoing]
        exact coherent.cancellable
      · rw [reported.toWorker]
        exact coherent.behind
    · refine ⟨?_, ?_, ?_, ?_, recorded.workerCancels, recorded.launcherCancels,
        recorded.cancelIsFinal⟩
      · rw [reported.grants]
        exact recorded.bound
      · rw [reported.grants]
        exact recorded.acknowledged
      · rw [reported.launcherAccepted]
        exact recorded.launcherAccepted
      · rw [reported.workerAccepted]
        exact recorded.workerAccepted

theorem hello : ∃ next, Agreed session (link.step .hello) next := by
  refine agreed.workerCall hello_sends fun passed => ?_
  obtain ⟨phase, cancelling, expected⟩ := stand
  simp only [not_or, not_not, ne_eq] at passed
  obtain rfl : phase = .idle := by
    have unsent := passed.2
    cases phase <;> simp [Stand.worker, workerOutgoing] at unsent ⊢
  exact ⟨.greeting, rfl, by constructor <;> first | rfl | simp [workerState]⟩

theorem prepared (device inode : Nat) :
    ∃ next, Agreed session (link.step (.prepared device inode)) next := by
  refine agreed.workerCall (prepared_sends device inode
    (stand.worker_isBound session) agreed.coherent.worker_small) fun passed => ?_
  obtain ⟨phase, cancelling, expected⟩ := stand
  simp only [not_or, not_not, ne_eq] at passed
  have state : phase.workerState = .preparing := passed.1
  have reports := agreed.coherent.reports
  cases phase with
  | preparing =>
    exact ⟨.proving device inode, rfl,
      by constructor <;> first | rfl | simp [workerState]⟩
  | running grants accepted pending reported =>
    have reached := (reports grants accepted pending reported rfl).state_cases
    obtain rfl : reported = .preparing := state
    simp [isRunning] at reached
  | _ => simp [workerState] at state

theorem grantsAccepted (grants : AcceptedGrants) :
    ∃ next, Agreed session (link.step (.grantsAccepted grants)) next := by
  refine agreed.workerCall (grantsAccepted_sends grants
    (stand.worker_isBound session) agreed.coherent.worker_small) fun passed => ?_
  obtain ⟨phase, cancelling, expected⟩ := stand
  simp only [not_or, not_not, ne_eq] at passed
  have state : phase.workerState = .awaitGrants := passed.1
  have reports := agreed.coherent.reports
  cases phase with
  | proving device inode =>
    exact ⟨.hurrying device inode grants, rfl,
      by constructor <;> first | rfl | simp [workerState]⟩
  | granting =>
    exact ⟨.acknowledging grants, rfl, by constructor <;> first | rfl | simp [workerState]⟩
  | running earlier accepted pending reported =>
    have reached := (reports earlier accepted pending reported rfl).state_cases
    obtain rfl : reported = .awaitGrants := state
    simp [isRunning] at reached
  | _ => simp [workerState] at state

/-- A running worker's report joins those which the launcher has yet to receive. -/
theorem report {passes : Prop} {message reached}
    (sends : Sends call (stand.worker session) passes
      ⟨session, (stand.worker session).outgoingSequence, message⟩
      { stand.worker session with
        state := reached, outgoingSequence := (stand.worker session).outgoingSequence + 1 })
    (running : passes → isRunning stand.phase.workerState)
    (extend : passes → ∀ messages, Reports messages stand.phase.workerState →
      Reports (messages ++ [message]) reached) :
    ∃ next, Agreed session (link.workerCall call) next := by
  refine agreed.workerCall sends fun passed => ?_
  have isRunning := running passed
  have reports := agreed.coherent.reports
  replace extend := extend passed
  obtain ⟨phase, cancelling, expected⟩ := stand
  cases phase with
  | running grants accepted pending state =>
    have sent := extend _ (reports grants accepted pending state rfl)
    rw [List.append_assoc] at sent
    refine ⟨.running grants accepted (pending ++ [message]) reached, ?_, rfl, rfl, rfl, rfl, ?_,
      rfl, rfl, rfl, rfl, ?_, ?_⟩
    · simp [Stand.worker, Phase.workerSession, Phase.workerState, Phase.workerIncoming,
        Phase.workerOutgoing]
      omega
    · simp [Phase.toLauncher, framesFrom_append, Stand.worker, Phase.workerOutgoing, Nat.add_assoc]
    · intro ended
      rw [ended] at isRunning
      cases isRunning
    · intro grants' accepted' pending' state' same
      cases same
      exact sent
  | _ => cases isRunning

theorem ready (readiness : Readiness) :
    ∃ next, Agreed session (link.step (.ready readiness)) next := by
  refine agreed.report (ready_sends readiness
    (stand.worker_isBound session) agreed.coherent.worker_small) (fun passed => ?_)
    fun passed messages reports => ?_
  all_goals
    simp only [not_or, not_not, ne_eq] at passed
    have state : stand.phase.workerState = .starting := passed.1
  · rw [state]
    rfl
  · exact (state ▸ reports).appendReady readiness

theorem terminal (category : TerminalCategory) (exitCode : Nat) :
    ∃ next, Agreed session (link.step (.terminal category exitCode)) next := by
  refine agreed.report (terminal_sends category exitCode
    (stand.worker_isBound session) agreed.coherent.worker_small) (fun passed => not_not.mp passed)
    fun passed messages reports => reports.appendTerminal (not_not.mp passed) category exitCode

end Agreed

/-! ## Deliveries to the launcher -/

namespace LauncherLifecycle

variable {launcher : LauncherLifecycle}

theorem receive_hello (state : launcher.state = .awaitHello) :
    outcome (receive ⟨preSession, 0, .hello⟩) launcher =
      (.ok .hello, { launcher with state := .readyToStart, incomingSequence := 1 }) := by
  simp only [receive, outcome_bind, outcome_get, state, if_true,
    outcome_check, rejectIf, ne_eq, not_true_eq_false, or_self, if_false, outcome_set, outcome_pure]

/-- Past the greeting a numbered frame of this session is accepted when it is expected. -/
theorem receive_eq {message} (past : launcher.state ≠ .awaitHello)
    (sender : message.sender = .worker) (small : launcher.incomingSequence + 1 < wordLimit) :
    outcome (receive ⟨launcher.session, launcher.incomingSequence, message⟩) launcher =
      match launcher.advance message with
      | some advanced =>
        (.ok message, { advanced with incomingSequence := launcher.incomingSequence + 1 })
      | none => (.error .invalidLifecycle, launcher) := by
  simp only [receive, outcome_bind, outcome_get, past, if_false,
    outcome_check, rejectIf, ne_eq, not_true_eq_false, or_self, sender]
  cases launcher.advance message with
  | none => rfl
  | some advanced =>
    simp [okOr, checkedAdd, small]

end LauncherLifecycle

variable {accepted pending : List Message}

/-- The launcher accepts a started worker's reports in the order in which they were sent. -/
theorem Reports.advance_eq {message} (reports : Reports (accepted ++ message :: pending) state)
    (launcher : LauncherLifecycle) (stands : launcher.state = observed accepted) :
    launcher.advance message = some { launcher with state := observed (accepted ++ [message]) } ∧
      message.sender = .worker ∧ observed accepted ≠ .awaitHello := by
  generalize sent : accepted ++ message :: pending = messages at reports
  cases reports <;> rcases accepted with _ | ⟨first, _ | ⟨second, _ | ⟨third, rest⟩⟩⟩ <;>
    simp only [List.nil_append, List.cons_append, List.cons.injEq, List.append_eq_nil_iff,
      reduceCtorEq, and_false] at sent
  all_goals
    obtain ⟨rfl, sent⟩ := sent
    try obtain ⟨rfl, sent⟩ := sent
    try obtain ⟨rfl, sent⟩ := sent
    simp [LauncherLifecycle.advance, stands, observed, Message.sender]

/-- A frame which reaches the launcher is accepted, or acknowledges grants which are not
bound; either way the worker has seen nothing of it. -/
inductive ReachesLauncher (session : SessionId) (before : Stand) (frame : Frame)
    (rest : List Frame) : Prop where
  | accepted (phase : Phase) (expected : Option AcceptedGrants)
      (answer : outcome (LauncherLifecycle.receive frame) (before.launcher session) =
        (.ok frame.message, { before with phase, expected }.launcher session))
      (worker : { before with phase, expected }.worker session = before.worker session)
      (toLauncher : phase.toLauncher session = rest)
      (toWorker : phase.toWorker = before.phase.toWorker)
      (launcherOutgoing : phase.launcherOutgoing = before.phase.launcherOutgoing)
      (reports : ∀ grants accepted pending state, phase = .running grants accepted pending state →
        Reports (accepted ++ pending) state)
      (bound : phase.grants.or expected = before.phase.grants.or before.expected)
      (acknowledged : ∀ grants, phase.grants = some grants →
        before.phase.grants = some grants ∨ frame.message = .grantsAccepted grants)
      (launcherAccepted :
        phase.launcherAccepted = before.phase.launcherAccepted ++ [frame.message.kind])
      (workerAccepted : phase.workerAccepted = before.phase.workerAccepted)
  | refused (grants : AcceptedGrants) (phase : before.phase = .acknowledging grants)
      (message : frame.message = .grantsAccepted grants) (unbound : before.expected ≠ some grants)
      (last : rest = [])
      (answer : outcome (LauncherLifecycle.receive frame) (before.launcher session) =
        (.error .invalidLifecycle, before.launcher session))

/-- A frame on its way is accepted by the launcher, or acknowledges grants which are not bound. -/
theorem Stand.Coherent.reachesLauncher {frame rest} (coherent : stand.Coherent session)
    (head : stand.phase.toLauncher session = frame :: rest) :
    ReachesLauncher session stand frame rest := by
  have reports := coherent.reports
  have small := coherent.launcher_incoming_small
  obtain ⟨phase, cancelling, expected⟩ := stand
  cases phase with
  | greeting =>
    cases head
    exact .accepted .greeted expected (LauncherLifecycle.receive_hello rfl) rfl rfl rfl rfl nofun
      rfl nofun rfl rfl
  | proving device inode =>
    cases head
    refine .accepted .granting expected ?_ rfl rfl rfl rfl nofun rfl nofun rfl rfl
    refine (LauncherLifecycle.receive_eq (by simp [Stand.launcher, Phase.launcherState]) rfl
      small).trans ?_
    simp [Stand.launcher, LauncherLifecycle.advance, Phase.launcherState,
      Phase.launcherIncoming, Phase.launcherOutgoing]
  | hurrying device inode grants =>
    cases head
    refine .accepted (.acknowledging grants) expected ?_ rfl rfl rfl rfl nofun rfl nofun rfl rfl
    refine (LauncherLifecycle.receive_eq (by simp [Stand.launcher, Phase.launcherState]) rfl
      small).trans ?_
    simp [Stand.launcher, LauncherLifecycle.advance, Phase.launcherState,
      Phase.launcherIncoming, Phase.launcherOutgoing]
  | acknowledging grants =>
    cases head
    by_cases isBound : expected = some grants
    · subst isBound
      refine .accepted (.granted grants) none ?_ rfl rfl rfl rfl nofun rfl (fun _ same => ?_)
        rfl rfl
      · refine (LauncherLifecycle.receive_eq (by simp [Stand.launcher, Phase.launcherState]) rfl
          small).trans ?_
        simp [Stand.launcher, LauncherLifecycle.advance, Phase.launcherState,
          Phase.launcherIncoming, Phase.launcherOutgoing]
      · cases same
        exact .inr rfl
    · refine .refused grants rfl rfl isBound rfl ?_
      refine (LauncherLifecycle.receive_eq (by simp [Stand.launcher, Phase.launcherState]) rfl
          small).trans ?_
      simp [Stand.launcher, LauncherLifecycle.advance, Phase.launcherState, isBound]
  | running grants accepted pending state =>
    cases pending with
    | nil => cases head
    | cons message pending =>
      cases head
      have sent := reports grants accepted (message :: pending) state rfl
      obtain ⟨advances, sender, past⟩ := sent.advance_eq
        ((Stand.mk (.running grants accepted (message :: pending) state) cancelling
          expected).launcher session) rfl
      refine .accepted (.running grants (accepted ++ [message]) pending state) expected ?_ ?_ ?_
        rfl rfl ?_ rfl (fun _ same => .inl same) ?_ rfl
      · refine (LauncherLifecycle.receive_eq past sender small).trans ?_
        rw [advances]
        simp [Stand.launcher, Phase.launcherState, Phase.launcherIncoming,
          Phase.launcherOutgoing, Nat.add_assoc]
      · simp [Stand.worker, Phase.workerSession, Phase.workerState, Phase.workerIncoming,
          Phase.workerOutgoing]
      · simp [Phase.toLauncher, Nat.add_assoc]
      · intro grants' accepted' pending' state' same
        cases same
        rw [List.append_assoc]
        exact sent
      · simp [Phase.launcherAccepted]
  | _ => cases head

/-- A delivery to the launcher keeps the agreement. -/
theorem Agreed.deliverToLauncher {link} (agreed : Agreed session link stand) :
    ∃ next, Agreed session (link.step .deliverToLauncher) next := by
  have coherent := agreed.coherent
  have recorded := agreed.recorded
  rw [step]
  cases head : link.toLauncher with
  | nil => exact ⟨stand, agreed⟩
  | cons frame rest =>
    rw [agreed.launcher]
    rcases coherent.reachesLauncher (agreed.toLauncher.symm.trans head) with
      ⟨phase, expected, answer, worker, toLauncher, toWorker, launcherOutgoing, reports, bound,
        acknowledged, launcherAccepted, workerAccepted⟩ |
      ⟨grants, isAcknowledging, message, unbound, rfl, answer⟩ <;> simp only [answer]
    · refine ⟨{ stand with phase, expected }, rfl, agreed.worker.trans worker.symm,
        toLauncher.symm, ?_, ⟨?_, ?_, ?_, ?_, reports⟩, ⟨?_, ?_, ?_, ?_, recorded.workerCancels,
        recorded.launcherCancels, recorded.cancelIsFinal⟩⟩
      · rw [agreed.toWorker, Stand.toWorker, Stand.toWorker, worker, toWorker]
      · rw [launcherOutgoing]
        exact coherent.started
      · rw [launcherOutgoing]
        exact coherent.cancellable
      · rw [toWorker]
        exact coherent.behind
      · intro late
        exact (congrArg WorkerLifecycle.state worker).trans (coherent.late late)
      · exact recorded.bound.trans (congrArg Option.toList bound.symm)
      · intro grants some
        rw [mem_append, mem_singleton]
        exact (acknowledged grants some).imp (recorded.acknowledged grants) Eq.symm
      · rw [map_append, recorded.launcherAccepted, launcherAccepted]
        rfl
      · rw [recorded.workerAccepted, workerAccepted]
    · obtain ⟨phase, cancelling, expected⟩ := stand
      obtain rfl : phase = .acknowledging grants := isAcknowledging
      exact ⟨⟨.unbound, cancelling, expected⟩, rfl, agreed.worker, rfl, agreed.toWorker,
        ⟨coherent.started, coherent.cancellable, coherent.behind, coherent.late, nofun⟩,
        ⟨recorded.bound, nofun, recorded.launcherAccepted, recorded.workerAccepted,
          recorded.workerCancels, recorded.launcherCancels, recorded.cancelIsFinal⟩⟩

/-! ## Deliveries to the worker -/

namespace WorkerLifecycle

variable {worker : WorkerLifecycle}

/-- A numbered frame of the worker's session is accepted when it is expected. -/
theorem receive_eq {message} (own : ∀ bound ∈ worker.session, bound = session)
    (sender : message.sender = .launcher) (small : worker.incomingSequence + 1 < wordLimit) :
    outcome (receive ⟨session, worker.incomingSequence, message⟩) worker =
      match worker.advance ⟨session, worker.incomingSequence, message⟩ with
      | some advanced =>
        (.ok message, { advanced with incomingSequence := worker.incomingSequence + 1 })
      | none => (.error .invalidLifecycle, worker) := by
  have matching : (worker.session.any fun bound => decide (session ≠ bound)) = false := by
    cases bound : worker.session with
    | none => rfl
    | some other => simp [own other bound]
  simp only [receive, outcome_bind, outcome_get, outcome_check, rejectIf,
    ne_eq, not_true_eq_false, or_self, sender, if_false, matching, Bool.false_eq_true]
  cases worker.advance ⟨session, worker.incomingSequence, message⟩ with
  | none => rfl
  | some advanced =>
    simp [okOr, checkedAdd, small]

end WorkerLifecycle

/-- A worker which has been started, and has not reported its result, takes a cancellation. -/
theorem Phase.advance_cancel {phase : Phase} (begun : phase.launcherOutgoing ≠ 0)
    (drained : phase.toWorker = []) (live : phase.workerState ≠ .terminal)
    (reports : ∀ grants accepted pending state, phase = .running grants accepted pending state →
      Reports (accepted ++ pending) state) {worker : WorkerLifecycle}
    (stands : worker.state = phase.workerState) (uncancelled : worker.cancelled = false)
    (session sequence signal) :
    worker.advance ⟨session, sequence, .cancel signal⟩ = some { worker with cancelled := true } := by
  cases phase with
  | running grants accepted pending state =>
    have reached := (reports grants accepted pending state rfl).state_cases
    rw [workerState] at stands live
    subst stands
    cases state : worker.state <;>
      simp_all [WorkerLifecycle.isRunning, WorkerLifecycle.advance]
  | _ =>
    first
      | exact absurd rfl begun
      | exact absurd drained (List.cons_ne_nil _ _)
      | simp_all [WorkerLifecycle.advance, workerState]

/-- A frame which reaches the worker is accepted, or is a cancellation which comes after the
worker's result. -/
inductive ReachesWorker (session : SessionId) (before : Stand) (frame : Frame)
    (rest : List Frame) : Prop where
  | started (policy : WorkerPolicy) (phase : before.phase = .launching policy)
      (message : frame.message = .start policy)
      (answer : outcome (WorkerLifecycle.receive frame) (before.worker session) =
        (.ok frame.message, { before with phase := .preparing }.worker session))
      (toWorker : { before with phase := .preparing }.toWorker session = rest)
  | authorised (grants : AcceptedGrants) (phase : before.phase = .proceeding grants)
      (message : frame.message = .proceed)
      (answer : outcome (WorkerLifecycle.receive frame) (before.worker session) =
        (.ok frame.message, { before with phase := .running grants [] [] .starting }.worker session))
      (toWorker : { before with phase := .running grants [] [] .starting }.toWorker session = rest)
  | cancelled (signal : CancelSignal) (cancelling : before.cancelling = .sent signal)
      (drained : before.phase.toWorker = []) (message : frame.message = .cancel signal)
      (answer : outcome (WorkerLifecycle.receive frame) (before.worker session) =
        (.ok frame.message, { before with cancelling := .received }.worker session))
      (last : rest = [])
  | late (signal : CancelSignal) (cancelling : before.cancelling = .sent signal)
      (drained : before.phase.toWorker = []) (message : frame.message = .cancel signal)
      (ended : before.phase.workerState = .terminal)
      (answer : outcome (WorkerLifecycle.receive frame) (before.worker session) =
        (.error .invalidLifecycle, before.worker session))
      (last : rest = [])

theorem Stand.workerSession_own (stand : Stand) (session : SessionId) :
    ∀ bound ∈ (stand.worker session).session, bound = session := by
  obtain ⟨phase, cancelling, expected⟩ := stand
  cases phase <;> simp [worker, workerSession, eq_comm]

/-- A frame on its way is accepted by the worker, or cancels one which has ended. -/
theorem Stand.Coherent.reachesWorker {frame rest} (coherent : stand.Coherent session)
    (head : stand.toWorker session = frame :: rest) : ReachesWorker session stand frame rest := by
  have small := stand.worker_incoming_small session
  have own := stand.workerSession_own session
  obtain ⟨phase, cancelling, expected⟩ := stand
  by_cases drained : phase.toWorker = []
  · -- Only a cancellation is in flight.
    cases cancelling with
    | sent signal =>
      simp only [toWorker, drained, Cancelling.toWorker, List.nil_append, framesFrom,
        List.cons.injEq] at head
      obtain ⟨rfl, rfl⟩ := head
      by_cases ended : phase.workerState = .terminal
      · refine .late signal rfl drained rfl ended ?_ rfl
        refine (WorkerLifecycle.receive_eq own rfl small).trans ?_
        simp [WorkerLifecycle.advance, worker, ended]
      · refine .cancelled signal rfl drained rfl ?_ rfl
        refine (WorkerLifecycle.receive_eq own rfl small).trans ?_
        rw [advance_cancel (coherent.cancellable rfl) drained ended coherent.reports rfl rfl]
        simp [worker, Cancelling.isReceived]
    | _ => simp [toWorker, drained, Cancelling.toWorker, framesFrom] at head
  · have unreceived : cancelling.isReceived = false :=
      Bool.eq_false_iff.mpr fun received => drained (coherent.behind received)
    cases phase with
    | launching policy =>
      have live := coherent.started (by simp [launcherOutgoing])
      obtain ⟨rfl, rfl⟩ := List.cons.inj head
      refine .started policy rfl rfl ?_ ?_
      · refine (WorkerLifecycle.receive_eq own rfl small).trans ?_
        simp [WorkerLifecycle.advance, worker, workerState, live, unreceived,
          workerSession, workerIncoming, workerOutgoing]
      · simp only [toWorker, worker, workerIncoming, unreceived]
        rfl
    | proceeding grants =>
      obtain ⟨rfl, rfl⟩ := List.cons.inj head
      refine .authorised grants rfl rfl ?_ ?_
      · refine (WorkerLifecycle.receive_eq own rfl small).trans ?_
        simp [WorkerLifecycle.advance, worker, workerState, unreceived,
          workerSession, workerIncoming, workerOutgoing]
      · simp only [toWorker, worker, workerIncoming, unreceived]
        rfl
    | _ => exact absurd rfl drained

namespace Agreed

/-- A worker which has accepted the authorisation announces its start. -/
theorem starting_eq (grants) {cancelling} (expected) (unreceived : cancelling.isReceived = false) :
    outcome WorkerLifecycle.starting
        ((Stand.mk (.running grants [] [] .starting) cancelling expected).worker session) =
      (.ok ⟨session, 3, .starting⟩,
        (Stand.mk (.running grants [] [.starting] .starting) cancelling expected).worker session) :=
    by
  simp only [WorkerLifecycle.starting, WorkerLifecycle.outgoing, Stand.worker, unreceived,
    workerSession, workerState, workerOutgoing, workerIncoming,
    Action.outcome_bind, Action.outcome_get, Action.outcome_check, Action.outcome_modify,
    Action.outcome_pure, rejectIf, okOr, checkedAdd, wordLimit_eq, Message.sender]
  rfl

variable (agreed : Agreed session link stand)
include agreed

/-- A delivery to the worker keeps the agreement. -/
theorem deliverToWorker : ∃ next, Agreed session (link.step .deliverToWorker) next := by
  have coherent := agreed.coherent
  have recorded := agreed.recorded
  rw [Link.step]
  cases head : link.toWorker with
  | nil => exact ⟨stand, agreed⟩
  | cons frame rest =>
    rw [agreed.worker]
    have reaches := coherent.reachesWorker (agreed.toWorker.symm.trans head)
    obtain ⟨phase, cancelling, expected⟩ := stand
    cases reaches with
    | started policy isLaunching message answer toWorker =>
      obtain rfl : phase = .launching policy := isLaunching
      simp only [answer, message, reduceCtorEq, if_false]
      refine ⟨⟨.preparing, cancelling, expected⟩, agreed.launcher, rfl, agreed.toLauncher,
        toWorker.symm, ⟨coherent.started, coherent.cancellable, fun _ => rfl,
        fun late => (nomatch coherent.late late), nofun⟩, ⟨recorded.bound, nofun,
        recorded.launcherAccepted, ?_, ?_, recorded.launcherCancels, recorded.cancelIsFinal⟩⟩
      · rw [List.map_append, List.filter_append, recorded.workerAccepted]
        rfl
      · rw [List.map_append, List.count_append, recorded.workerCancels]
        rfl
    | authorised grants isProceeding message answer toWorker =>
      obtain rfl : phase = .proceeding grants := isProceeding
      have unreceived : cancelling.isReceived = false :=
        Bool.eq_false_iff.mpr fun received => by cases coherent.behind received
      simp only [answer, message, if_true, Link.workerCall, starting_eq grants expected unreceived]
      refine ⟨⟨.running grants [] [.starting] .starting, cancelling, expected⟩,
        agreed.launcher, rfl, ?_, toWorker.symm, ⟨coherent.started, coherent.cancellable,
        fun _ => rfl, fun late => ?_, ?_⟩, ⟨recorded.bound, recorded.acknowledged,
        recorded.launcherAccepted, ?_, ?_, recorded.launcherCancels, recorded.cancelIsFinal⟩⟩
      · rw [agreed.toLauncher]
        rfl
      · exact nomatch coherent.late late
      · intro grants' accepted' pending' state' same
        cases same
        exact .starting
      · rw [List.map_append, List.filter_append, recorded.workerAccepted]
        rfl
      · rw [List.map_append, List.count_append, recorded.workerCancels]
        rfl
    | cancelled signal isSent drained message answer last =>
      obtain rfl : cancelling = .sent signal := isSent
      simp only [answer, message, reduceCtorEq, if_false]
      refine ⟨⟨phase, .received, expected⟩, agreed.launcher, rfl, agreed.toLauncher,
        ?_, ⟨coherent.started, coherent.cancellable, fun _ => drained, nofun,
        coherent.reports⟩, ⟨recorded.bound, recorded.acknowledged, recorded.launcherAccepted,
        ?_, ?_, recorded.launcherCancels, recorded.cancelIsFinal⟩⟩
      · rw [last, Stand.toWorker, drained]
        rfl
      · rw [List.map_append, List.filter_append, recorded.workerAccepted]
        simp [Message.kind]
      · rw [List.map_append, List.count_append, recorded.workerCancels]
        rfl
    | late signal isSent drained message ended answer last =>
      obtain rfl : cancelling = .sent signal := isSent
      simp only [answer]
      refine ⟨⟨phase, .late, expected⟩, agreed.launcher, rfl, agreed.toLauncher, ?_,
        ⟨coherent.started, coherent.cancellable, nofun, fun _ => ended, coherent.reports⟩,
        ⟨recorded.bound, recorded.acknowledged, recorded.launcherAccepted,
        recorded.workerAccepted, recorded.workerCancels, recorded.launcherCancels,
        recorded.cancelIsFinal⟩⟩
      rw [last, Stand.toWorker, drained]
      rfl

/-- Every event keeps the agreement. -/
theorem step (event) : ∃ next, Agreed session (link.step event) next := by
  cases event with
  | start policy => exact agreed.start policy
  | proceed => exact agreed.proceed
  | expectGrants grants => exact agreed.expectGrants grants
  | cancel signal => exact agreed.cancel signal
  | hello => exact agreed.hello
  | prepared device inode => exact agreed.prepared device inode
  | grantsAccepted grants => exact agreed.grantsAccepted grants
  | ready readiness => exact agreed.ready readiness
  | terminal category exitCode => exact agreed.terminal category exitCode
  | deliverToLauncher => exact agreed.deliverToLauncher
  | deliverToWorker => exact agreed.deliverToWorker

/-- Every run keeps the agreement. -/
theorem run (events) : ∃ next, Agreed session (link.run events) next := by
  induction events generalizing link stand with
  | nil => exact ⟨stand, agreed⟩
  | cons event rest ih =>
    obtain ⟨next, stepped⟩ := agreed.step event
    exact ih stepped

end Agreed

/-! ## What holds along every run -/

/-- The order of what a launcher accepts, with and without the report that it is ready. -/
def reportOrder : List MessageKind :=
  [.hello, .prepared, .grantsAccepted, .starting, .ready, .terminal]

def earlyReportOrder : List MessageKind :=
  [.hello, .prepared, .grantsAccepted, .starting, .terminal]

theorem Reports.isPrefix_order (reports : Reports (accepted ++ pending) state) :
    ([.hello, .prepared, .grantsAccepted] ++ accepted.map Message.kind) <+: reportOrder ∨
      ([.hello, .prepared, .grantsAccepted] ++ accepted.map Message.kind) <+: earlyReportOrder := by
  have sent := prefix_append (accepted.map Message.kind) (pending.map Message.kind)
  rw [← map_append] at sent
  generalize accepted ++ pending = messages at reports sent
  cases reports with
  | starting =>
    exact .inl ((prefix_append_right_inj _).mpr (sent.trans ⟨[.ready, .terminal], rfl⟩))
  | ready => exact .inl ((prefix_append_right_inj _).mpr (sent.trans ⟨[.terminal], rfl⟩))
  | ended => exact .inr ((prefix_append_right_inj _).mpr sent)
  | endedReady => exact .inl ((prefix_append_right_inj _).mpr sent)

/-- What the launcher accepts follows one of two orders. -/
theorem Stand.Coherent.isPrefix_order (coherent : stand.Coherent session) :
    stand.phase.launcherAccepted <+: reportOrder ∨
      stand.phase.launcherAccepted <+: earlyReportOrder := by
  have reports := coherent.reports
  obtain ⟨phase, cancelling, expected⟩ := stand
  cases phase with
  | running grants accepted pending state =>
    exact (reports grants accepted pending state rfl).isPrefix_order
  | _ => exact .inl (by simp only [Phase.launcherAccepted]; decide)

/-- Both sides accept what the other sends, in the same order. -/
structure Link.LifecyclesAgree (link : Link) : Prop where
  launcherAccepts : ∀ frame rest, link.toLauncher = frame :: rest →
    (outcome (LauncherLifecycle.receive frame) link.launcher).1 = .ok frame.message ∨
      ∃ grants, frame.message = .grantsAccepted grants ∧ link.bound ≠ [grants]
  workerAccepts : ∀ frame rest, link.toWorker = frame :: rest →
    (outcome (WorkerLifecycle.receive frame) link.worker).1 = .ok frame.message ∨
      ∃ signal, frame.message = .cancel signal ∧ link.worker.state = .terminal
  /-- A worker starts after the launcher has received the acknowledgement it had bound. -/
  startsGranted : WorkerLifecycle.isRunning link.worker.state ∨ link.worker.state = .terminal →
    ∃ grants, link.bound = [grants] ∧ .grantsAccepted grants ∈ link.launcherAccepted
  cancelsOnce : (link.launcherSent.map Message.kind).count .cancel ≤ 1
  cancelIsFinal : CancelIsFinal link.launcherSent
  launcherOrder : link.launcherAccepted.map Message.kind <+: reportOrder ∨
    link.launcherAccepted.map Message.kind <+: earlyReportOrder
  workerOrder : (link.workerAccepted.map Message.kind).filter (· ≠ .cancel) <+: [.start, .proceed]
  cancelledOnce : (link.workerAccepted.map Message.kind).count .cancel ≤ 1

theorem Phase.workerAccepted_isPrefix (phase : Phase) :
    phase.workerAccepted <+: [.start, .proceed] := by
  cases phase <;> simp only [workerAccepted] <;> decide

/-- Links which agree have lifecycles which agree. -/
theorem Agreed.lifecyclesAgree {link} (agreed : Agreed session link stand) :
    link.LifecyclesAgree := by
  have recorded := agreed.recorded
  refine ⟨fun frame rest head => ?_, fun frame rest head => ?_, fun started => ?_, ?_,
    recorded.cancelIsFinal, ?_, ?_, ?_⟩
  · rw [agreed.launcher]
    cases agreed.coherent.reachesLauncher (agreed.toLauncher.symm.trans head) with
    | accepted phase expected answer => exact .inl (congrArg Prod.fst answer)
    | refused grants acknowledging message unbound =>
      refine .inr ⟨grants, message, fun isBound => unbound ?_⟩
      rw [recorded.bound, acknowledging] at isBound
      simpa [Phase.grants] using isBound
  · rw [agreed.worker]
    cases agreed.coherent.reachesWorker (agreed.toWorker.symm.trans head) with
    | started _ _ _ answer => exact .inl (congrArg Prod.fst answer)
    | authorised _ _ _ answer => exact .inl (congrArg Prod.fst answer)
    | cancelled _ _ _ _ answer => exact .inl (congrArg Prod.fst answer)
    | late signal _ _ message ended => exact .inr ⟨signal, message, ended⟩
  · obtain ⟨grants, isGranted⟩ : ∃ grants, stand.phase.grants = some grants := by
      rw [agreed.worker] at started
      obtain ⟨phase, cancelling, expected⟩ := stand
      cases phase with
      | running grants => exact ⟨grants, rfl⟩
      | _ => simp [Stand.worker, workerState, isRunning] at started
    refine ⟨grants, ?_, recorded.acknowledged grants isGranted⟩
    rw [recorded.bound, isGranted]
    rfl
  · rw [recorded.launcherCancels]
    exact Bool.toNat_le _
  · rw [recorded.launcherAccepted]
    exact agreed.coherent.isPrefix_order
  · rw [recorded.workerAccepted]
    exact stand.phase.workerAccepted_isPrefix
  · rw [recorded.workerCancels]
    exact Bool.toNat_le _

/-- Along every interleaving of calls and deliveries the two lifecycles agree. -/
theorem Link.lifecycles_agree (session : SessionId) (events : List LinkEvent) :
    ((Link.new session).run events).LifecyclesAgree := by
  obtain ⟨stand, agreed⟩ := (Agreed.new session).run events
  exact agreed.lifecyclesAgree

/-- A session up to the grants of its worker. -/
def openingEvents : List LinkEvent :=
  [.hello, .deliverToLauncher, .start ⟨1, 1, 1, none, false⟩, .deliverToWorker, .prepared 1 1,
    .deliverToLauncher]

/-- A session up to the start of its worker. -/
def startingEvents : List LinkEvent :=
  openingEvents ++ [.expectGrants ⟨1, 0, 1⟩, .grantsAccepted ⟨1, 0, 1⟩, .deliverToLauncher,
    .proceed, .deliverToWorker, .deliverToLauncher]

/-- The worker has acknowledged grants which the launcher did not bind. -/
def unboundLink : Link := (Link.new 1).run (openingEvents ++ [.grantsAccepted ⟨1, 0, 1⟩])

/-- A cancellation has crossed the worker's result. -/
def crossedLink : Link :=
  (Link.new 1).run (startingEvents ++ [.terminal .success 0, .cancel .interrupt])

/-- The worker has ended before it was ready. -/
def earlyLink : Link :=
  (Link.new 1).run (startingEvents ++ [.terminal .success 0, .deliverToLauncher])

/-- An acknowledgement of unbound grants is refused; so is a cancellation which crosses the
worker's result; and a worker which ends early never reports that it is ready. -/
theorem Link.frames_refused_and_ready_skipped :
    (∃ frame ∈ unboundLink.toLauncher, (outcome (LauncherLifecycle.receive frame)
        unboundLink.launcher).1 = .error .invalidLifecycle) ∧
      (∃ frame ∈ crossedLink.toWorker, (outcome (WorkerLifecycle.receive frame)
        crossedLink.worker).1 = .error .invalidLifecycle) ∧
      earlyLink.launcherAccepted.map Message.kind = earlyReportOrder ∧
      ¬ earlyLink.launcherAccepted.map Message.kind <+: reportOrder := by
  decide +kernel

/-- The frames under way carry consecutive numbers from the one which their receiver expects,
and there are never more than three to the launcher or two to the worker. -/
theorem Link.frames_numbered (session : SessionId) (events : List LinkEvent) :
    let link := (Link.new session).run events
    (∃ count ≤ 3, link.toLauncher.map Frame.sequence =
      range' link.launcher.incomingSequence count) ∧
    ∃ count ≤ 2, link.toWorker.map Frame.sequence =
      range' link.worker.incomingSequence count := by
  intro link
  obtain ⟨⟨phase, cancelling, expected⟩, agreed⟩ := (Agreed.new session).run events
  rw [show link.toLauncher = _ from agreed.toLauncher, show link.toWorker = _ from agreed.toWorker,
    show link.launcher = _ from agreed.launcher, show link.worker = _ from agreed.worker]
  constructor
  · cases phase with
    | running grants accepted pending state =>
      have few := (agreed.coherent.reports _ _ _ _ rfl).length_le
      rw [length_append] at few
      exact ⟨pending.length, by omega, map_sequence_framesFrom ..⟩
    | idle | greeted | launching | preparing | granting | unbound | granted | proceeding =>
      exact ⟨0, by decide, rfl⟩
    | greeting | proving | acknowledging => exact ⟨1, by decide, rfl⟩
    | hurrying => exact ⟨2, by decide, rfl⟩
  · refine ⟨_, ?_, map_sequence_framesFrom ..⟩
    have main : phase.toWorker.length ≤ 1 := by cases phase <;> simp [Phase.toWorker]
    have cancels : cancelling.toWorker.length ≤ 1 := by
      cases cancelling <;> simp [Cancelling.toWorker]
    rw [length_append]
    exact Nat.add_le_add main cancels

end Bangbang.Session
