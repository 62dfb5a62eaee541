import Bangbang.Grants.StagedBatch

/-!
# The launcher and worker lifecycles

A production session runs between a launcher and the one worker which it started. Either
side keeps a monotonic state, the number of frames it has accepted and the number it has
sent, and refuses whatever its state does not expect. The launcher binds the grants which
the worker has to acknowledge before it may authorise startup, and may cancel once.
-/

namespace Bangbang.Session

open Bangbang.Action (check)
open Grants (SessionId BatchId maxGrants maxGrantRecords)

def preSession : SessionId := 0

inductive CancelSignal where
  | interrupt
  | terminate
deriving DecidableEq, Repr

inductive Readiness where
  | api
  | noApi
deriving DecidableEq, Repr

inductive TerminalCategory where
  | success
  | configuration
  | processFailure
  | cancelled
  | unstructured
deriving DecidableEq, Repr

/-- The limits which a worker is started with; no lifecycle step reads them. -/
structure WorkerPolicy where
  (uid gid noFile : Nat)
  fileSize : Option Nat
  daemonized : Bool
deriving DecidableEq, Repr

/-- What a worker acknowledges: the batch, its number of grants and its last record. -/
structure AcceptedGrants where
  batch : BatchId
  (grantCount finalSequence : Nat)
deriving DecidableEq, Repr

inductive Message where
  | hello
  | start (policy : WorkerPolicy)
  | proceed
  | cancel (signal : CancelSignal)
  | prepared (device inode : Nat)
  | grantsAccepted (grants : AcceptedGrants)
  | starting
  | ready (readiness : Readiness)
  | terminal (category : TerminalCategory) (exitCode : Nat)
deriving DecidableEq, Repr

inductive Role where
  | launcher
  | worker
deriving DecidableEq, Repr

def Message.sender : Message → Role
  | .start _ | .proceed | .cancel _ => .launcher
  | .hello | .prepared .. | .grantsAccepted _ | .starting | .ready _ | .terminal .. => .worker

structure Frame where
  session : SessionId
  sequence : Nat
  message : Message
deriving DecidableEq, Repr

inductive ProtocolError where
  | invalidPeerState
  | invalidLifecycle
deriving DecidableEq, Repr

inductive LauncherState where
  | awaitHello
  | readyToStart
  | awaitPrepared
  | awaitGrants
  | readyToProceed
  | awaitStarting
  | starting
  | ready (readiness : Readiness)
  | terminal
deriving DecidableEq, Repr

inductive WorkerState where
  | awaitStart
  | preparing
  | awaitGrants
  | awaitProceed
  | starting
  | ready (readiness : Readiness)
  | terminal
deriving DecidableEq, Repr

structure LauncherLifecycle where
  session : SessionId
  state : LauncherState
  (incomingSequence outgoingSequence : Nat)
  cancelled : Bool
  expectedGrants : Option AcceptedGrants
deriving DecidableEq, Repr

structure WorkerLifecycle where
  session : Option SessionId
  state : WorkerState
  (incomingSequence outgoingSequence : Nat)
  cancelled : Bool
deriving DecidableEq, Repr

/-- The bounds which both sides put on an acknowledgement. -/
def AcceptedGrants.isValid (grants : AcceptedGrants) : Bool :=
  grants.batch ≠ 0 ∧ grants.grantCount ≤ maxGrants ∧
    1 ≤ grants.finalSequence ∧ grants.finalSequence < maxGrantRecords

namespace LauncherLifecycle

def new (session : SessionId) : LauncherLifecycle where
  session := session
  state := .awaitHello
  incomingSequence := 0
  outgoingSequence := 0
  cancelled := false
  expectedGrants := none

def outgoing (message : Message) : Action LauncherLifecycle ProtocolError Frame := do
  check (rejectIf (message.sender ≠ .launcher) .invalidPeerState)
  let launcher ← get
  let next ← check (okOr (checkedAdd launcher.outgoingSequence 1) .invalidPeerState)
  modify fun launcher => { launcher with outgoingSequence := next }
  pure { session := launcher.session, sequence := launcher.outgoingSequence, message }

def start (policy : WorkerPolicy) : Action LauncherLifecycle ProtocolError Frame := do
  let launcher ← get
  check (rejectIf (launcher.session = preSession ∨ launcher.outgoingSequence ≠ 0 ∨
    launcher.state ≠ .readyToStart) .invalidLifecycle)
  modify fun launcher => { launcher with state := .awaitPrepared }
  outgoing (.start policy)

def proceed : Action LauncherLifecycle ProtocolError Frame := do
  let launcher ← get
  check (rejectIf (launcher.state ≠ .readyToProceed ∨ launcher.cancelled) .invalidLifecycle)
  modify fun launcher => { launcher with state := .awaitStarting }
  outgoing .proceed

def expectGrants (grants : AcceptedGrants) : Action LauncherLifecycle ProtocolError Unit := do
  let launcher ← get
  check (rejectIf (launcher.state ≠ .awaitGrants ∨ launcher.cancelled ∨
    launcher.expectedGrants.isSome ∨ ¬ grants.isValid) .invalidLifecycle)
  modify fun launcher => { launcher with expectedGrants := some grants }

/-- The states in which a session may still be cancelled. -/
def isCancellable : LauncherState → Bool
  | .awaitPrepared | .awaitGrants | .readyToProceed | .awaitStarting | .starting | .ready _ => true
  | _ => false

def cancel (signal : CancelSignal) : Action LauncherLifecycle ProtocolError Frame := do
  let launcher ← get
  check (rejectIf (launcher.cancelled ∨ ¬ isCancellable launcher.state) .invalidLifecycle)
  modify fun launcher => { launcher with cancelled := true }
  outgoing (.cancel signal)

/-- The launcher after an expected message. -/
def advance (launcher : LauncherLifecycle) (message : Message) : Option LauncherLifecycle :=
  match launcher.state, message with
  | .awaitPrepared, .prepared .. => some { launcher with state := .awaitGrants }
  | .awaitGrants, .grantsAccepted grants =>
    if launcher.expectedGrants = some grants then
      some { launcher with expectedGrants := none, state := .readyToProceed }
    else none
  | .awaitStarting, .starting => some { launcher with state := .starting }
  | .starting, .ready readiness => some { launcher with state := .ready readiness }
  | .starting, .terminal .. | .ready _, .terminal .. => some { launcher with state := .terminal }
  | .awaitPrepared, .terminal .. | .awaitGrants, .terminal .. | .readyToProceed, .terminal .. =>
    if launcher.cancelled then some { launcher with state := .terminal } else none
  | _, _ => none

def receive (frame : Frame) : Action LauncherLifecycle ProtocolError Message := do
  let launcher ← get
  if launcher.state = .awaitHello then
    check (rejectIf (frame.session ≠ preSession ∨ frame.sequence ≠ 0 ∨ frame.message ≠ .hello)
      .invalidPeerState)
    set { launcher with state := .readyToStart, incomingSequence := 1 }
    pure .hello
  else
    check (rejectIf (frame.session ≠ launcher.session ∨
      frame.sequence ≠ launcher.incomingSequence ∨ frame.message.sender ≠ .worker)
      .invalidPeerState)
    let advanced ← check (okOr (launcher.advance frame.message) .invalidLifecycle)
    set advanced
    let next ← check (okOr (checkedAdd launcher.incomingSequence 1) .invalidPeerState)
    modify fun launcher => { launcher with incomingSequence := next }
    pure frame.message

end LauncherLifecycle

namespace WorkerLifecycle

def new : WorkerLifecycle where
  session := none
  state := .awaitStart
  incomingSequence := 0
  outgoingSequence := 0
  cancelled := false

/-- The worker after an expected frame. -/
def advance (worker : WorkerLifecycle) (frame : Frame) : Option WorkerLifecycle :=
  match worker.state, frame.message with
  | .awaitStart, .start _ =>
    if frame.session ≠ preSession then
      some { worker with session := some frame.session, state := .preparing }
    else none
  | .awaitProceed, .proceed =>
    if worker.cancelled then none else some { worker with state := .starting }
  | .preparing, .cancel _ | .awaitGrants, .cancel _ | .awaitProceed, .cancel _
  | .starting, .cancel _ | .ready _, .cancel _ =>
    if worker.cancelled then none else some { worker with cancelled := true }
  | _, _ => none

def receive (frame : Frame) : Action WorkerLifecycle ProtocolError Message := do
  let worker ← get
  check (rejectIf (frame.message.sender ≠ .launcher ∨ frame.sequence ≠ worker.incomingSequence)
    .invalidPeerState)
  check (rejectIf (worker.session.any fun session => frame.session ≠ session) .invalidPeerState)
  let advanced ← check (okOr (worker.advance frame) .invalidLifecycle)
  set advanced
  let next ← check (okOr (checkedAdd worker.incomingSequence 1) .invalidPeerState)
  modify fun worker => { worker with incomingSequence := next }
  pure frame.message

def outgoing (message : Message) : Action WorkerLifecycle ProtocolError Frame := do
  check (rejectIf (message.sender ≠ .worker) .invalidPeerState)
  let worker ← get
  let session ← check (okOr worker.session .invalidLifecycle)
  let next ← check (okOr (checkedAdd worker.outgoingSequence 1) .invalidPeerState)
  modify fun worker => { worker with outgoingSequence := next }
  pure { session, sequence := worker.outgoingSequence, message }

def hello : Action WorkerLifecycle ProtocolError Frame := do
  let worker ← get
  check (rejectIf (worker.state ≠ .awaitStart ∨ worker.outgoingSequence ≠ 0) .invalidLifecycle)
  modify fun worker => { worker with outgoingSequence := 1 }
  pure { session := preSession, sequence := 0, message := .hello }

def prepared (device inode : Nat) : Action WorkerLifecycle ProtocolError Frame := do
  let worker ← get
  check (rejectIf (worker.state ≠ .preparing ∨ worker.cancelled) .invalidLifecycle)
  modify fun worker => { worker with state := .awaitGrants }
  outgoing (.prepared device inode)

def grantsAccepted (grants : AcceptedGrants) : Action WorkerLifecycle ProtocolError Frame := do
  let worker ← get
  check (rejectIf (worker.state ≠ .awaitGrants ∨ worker.cancelled ∨ ¬ grants.isValid)
    .invalidLifecycle)
  modify fun worker => { worker with state := .awaitProceed }
  outgoing (.grantsAccepted grants)

def starting : Action WorkerLifecycle ProtocolError Frame := do
  let worker ← get
  check (rejectIf (worker.state ≠ .starting ∨ worker.cancelled) .invalidLifecycle)
  outgoing .starting

def ready (readiness : Readiness) : Action WorkerLifecycle ProtocolError Frame := do
  let worker ← get
  check (rejectIf (worker.state ≠ .starting ∨ worker.cancelled) .invalidLifecycle)
  modify fun worker => { worker with state := .ready readiness }
  outgoing (.ready readiness)

/-- The states from which a worker reports its result. -/
def isRunning : WorkerState → Bool
  | .starting | .ready _ => true
  | _ => false

def terminal (category : TerminalCategory) (exitCode : Nat) :
    Action WorkerLifecycle ProtocolError Frame := do
  let worker ← get
  check (rejectIf (¬ isRunning worker.state) .invalidLifecycle)
  modify fun worker => { worker with state := .terminal }
  outgoing (.terminal category exitCode)

end WorkerLifecycle

/-- A launcher and its worker with the frames on their way between them, what each side has
accepted, what the launcher has sent, and the grants it has bound. -/
structure Link where
  launcher : LauncherLifecycle
  worker : WorkerLifecycle
  (toWorker toLauncher : List Frame)
  (launcherAccepted workerAccepted launcherSent : List Message)
  bound : List AcceptedGrants
deriving DecidableEq, Repr

/-- A local call of either side, or a delivery. -/
inductive LinkEvent where
  | start (policy : WorkerPolicy)
  | proceed
  | expectGrants (grants : AcceptedGrants)
  | cancel (signal : CancelSignal)
  | hello
  | prepared (device inode : Nat)
  | grantsAccepted (grants : AcceptedGrants)
  | ready (readiness : Readiness)
  | terminal (category : TerminalCategory) (exitCode : Nat)
  | deliverToLauncher
  | deliverToWorker
deriving DecidableEq, Repr

namespace Link

open Bangbang.Action (outcome)

def new (session : SessionId) : Link where
  launcher := .new session
  worker := .new
  toWorker := []
  toLauncher := []
  launcherAccepted := []
  workerAccepted := []
  launcherSent := []
  bound := []

variable (link : Link)

/-- A call of the launcher which sends a frame when it succeeds. -/
def launcherCall (call : Action LauncherLifecycle ProtocolError Frame) : Link :=
  match outcome call link.launcher with
  | (.ok frame, launcher) =>
    { link with
      launcher
      toWorker := link.toWorker ++ [frame]
      launcherSent := link.launcherSent ++ [frame.message] }
  | (.error _, launcher) => { link with launcher }

/-- A call of the worker which sends a frame when it succeeds. -/
def workerCall (call : Action WorkerLifecycle ProtocolError Frame) : Link :=
  match outcome call link.worker with
  | (.ok frame, worker) => { link with worker, toLauncher := link.toLauncher ++ [frame] }
  | (.error _, worker) => { link with worker }

/-- The worker calls `starting` directly after it has accepted `proceed`. -/
def step : LinkEvent → Link
  | .start policy => link.launcherCall (LauncherLifecycle.start policy)
  | .proceed => link.launcherCall LauncherLifecycle.proceed
  | .expectGrants grants =>
    match outcome (LauncherLifecycle.expectGrants grants) link.launcher with
    | (.ok _, launcher) => { link with launcher, bound := link.bound ++ [grants] }
    | (.error _, launcher) => { link with launcher }
  | .cancel signal => link.launcherCall (LauncherLifecycle.cancel signal)
  | .hello => link.workerCall WorkerLifecycle.hello
  | .prepared device inode => link.workerCall (WorkerLifecycle.prepared device inode)
  | .grantsAccepted grants => link.workerCall (WorkerLifecycle.grantsAccepted grants)
  | .ready readiness => link.workerCall (WorkerLifecycle.ready readiness)
  | .terminal category exitCode => link.workerCall (WorkerLifecycle.terminal category exitCode)
  | .deliverToLauncher =>
    match link.toLauncher with
    | [] => link
    | frame :: rest =>
      match outcome (LauncherLifecycle.receive frame) link.launcher with
      | (.ok message, launcher) =>
        { link with
          launcher
          toLauncher := rest
          launcherAccepted := link.launcherAccepted ++ [message] }
      | (.error _, launcher) => { link with launcher, toLauncher := rest }
  | .deliverToWorker =>
    match link.toWorker with
    | [] => link
    | frame :: rest =>
      match outcome (WorkerLifecycle.receive frame) link.worker with
      | (.ok message, worker) =>
        let link := { link with
          worker
          toWorker := rest
          workerAccepted := link.workerAccepted ++ [message] }
        if message = .proceed then link.workerCall WorkerLifecycle.starting else link
      | (.error _, worker) => { link with worker, toWorker := rest }

def run (events : List LinkEvent) : Link := events.foldl step link

end Link
end Bangbang.Session
