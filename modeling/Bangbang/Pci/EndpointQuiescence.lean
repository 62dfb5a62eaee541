import Bangbang.Base.Action
import Bangbang.Base.Runs

/-!
# Quiescing a virtio-PCI endpoint

Three locks guard an endpoint's life: the endpoint's own phase, the gate which admits device
work, and the registry which admits message signals. Each method takes them one after another
and never two at once, so the methods of several threads interleave between any two locked
sections. A `Call` in progress stands before its next locked section, or waits until the work
or the signals which were admitted have drained.
-/

namespace Bangbang.Pci

open Bangbang.Action (check outcome)

/-! ## The gate of device work -/

inductive WorkGateError where
  | quiescing
  | inFlightOverflow
  | inFlightWorkRemains
deriving DecidableEq, Repr

structure WorkGate where
  accepting : Bool
  inFlight : Nat
deriving DecidableEq, Repr

namespace WorkGate

def new : WorkGate where
  accepting := true
  inFlight := 0

def admitWork : Action WorkGate WorkGateError Unit := do
  let gate ← get
  check (rejectIf (¬ gate.accepting) .quiescing)
  let next ← check (okOr (checkedAdd gate.inFlight 1) .inFlightOverflow)
  modify fun gate => { gate with inFlight := next }

section
variable (gate : WorkGate)

/-- A guard is dropped. -/
def complete : WorkGate := { gate with inFlight := gate.inFlight - 1 }

/-- The start of `quiesce_and_wait`, which then waits until the gate is drained. -/
def quiesce : WorkGate := { gate with accepting := false }

def isDrained : Bool := gate.inFlight = 0

end

def resume : Action WorkGate WorkGateError Unit := do
  let gate ← get
  check (rejectIf (gate.inFlight ≠ 0) .inFlightWorkRemains)
  modify fun gate => { gate with accepting := true }

end WorkGate

/-! ## The registry of message routes -/

structure GuestMessage where
  address : UInt64
  data : UInt32
deriving DecidableEq, Repr

/-- A backend-owned route; `recognises` is its side-effect-free lookup. -/
class MessageRoute (ρ : Type) where
  recognises : ρ → GuestMessage → Bool

structure SignalError where
  message : String
  deliveryAmbiguous : Bool
deriving DecidableEq, Repr

inductive RegistryPhase where
  | active
  | quiescing
  | released
deriving DecidableEq, Repr

inductive RegistryError where
  | inFlightOverflow
  | inFlightSignalsRemain
  | notActive (phase : RegistryPhase)
  | unknownMessage
  | ambiguousMessage
  | signal (source : SignalError)
deriving DecidableEq, Repr

structure MessageRegistry (ρ : Type) where
  routes : List ρ
  phase : RegistryPhase
  inFlight : Nat
deriving DecidableEq, Repr

namespace MessageRegistry

variable {ρ : Type}

def new (routes : List ρ) : MessageRegistry ρ where
  routes := routes
  phase := .active
  inFlight := 0

def resolveRoute [MessageRoute ρ] (registry : MessageRegistry ρ) (message : GuestMessage) :
    Except RegistryError ρ :=
  match registry.routes.filter (MessageRoute.recognises · message) with
  | [] => .error .unknownMessage
  | [route] => .ok route
  | _ :: _ :: _ => .error .ambiguousMessage

/-- The locked section of `signal`, after which the route is signalled. -/
def admitSignal [MessageRoute ρ] (message : GuestMessage) :
    Action (MessageRegistry ρ) RegistryError ρ := do
  let registry ← get
  check (rejectIf (registry.phase ≠ .active) (.notActive registry.phase))
  let route ← check (registry.resolveRoute message)
  let next ← check (okOr (checkedAdd registry.inFlight 1) .inFlightOverflow)
  modify fun registry => { registry with inFlight := next }
  pure route

variable (registry : MessageRegistry ρ)

/-- The in-flight guard of a signal is dropped. -/
def complete : MessageRegistry ρ := { registry with inFlight := registry.inFlight - 1 }

def isDrained : Bool := registry.inFlight = 0

/-- Closes admission; `quiesce_and_wait` starts with the same section. -/
def beginQuiesce : Action (MessageRegistry ρ) RegistryError Unit := do
  let registry ← get
  match registry.phase with
  | .active => modify fun registry => { registry with phase := .quiescing }
  | .quiescing => pure ()
  | .released => check (.error (.notActive registry.phase))

def resume : Action (MessageRegistry ρ) RegistryError Unit := do
  let registry ← get
  match registry.phase with
  | .quiescing =>
    check (rejectIf (registry.inFlight ≠ 0) .inFlightSignalsRemain)
    modify fun registry => { registry with phase := .active }
  | .active => pure ()
  | .released => check (.error (.notActive registry.phase))

/-- The end of `release`, once the registry is drained. -/
def invalidate : MessageRegistry ρ := { registry with phase := .released }

end MessageRegistry

/-! ## The endpoint -/

inductive EndpointPhase where
  | active
  | quiescing
  | released
deriving DecidableEq, Repr

inductive EndpointError where
  | notActive (phase : EndpointPhase)
  | workGate (source : WorkGateError)
  | messageRegistry (source : RegistryError)
deriving DecidableEq, Repr

structure Endpoint (ρ : Type) where
  phase : EndpointPhase
  gate : WorkGate
  messages : MessageRegistry ρ
deriving DecidableEq, Repr

def Endpoint.new {ρ : Type} (routes : List ρ) : Endpoint ρ where
  phase := .active
  gate := .new
  messages := .new routes

/-- `admit_device_work`, and the work until its guard is dropped. -/
inductive WorkStep where
  | checking
  | admitting
  | working
  | finished (result : Except EndpointError Unit)
deriving DecidableEq, Repr

/-- `signal` of the registry: the route is signalled under an in-flight guard. -/
inductive SignalStep (ρ : Type) where
  | resolving
  | signalling (route : ρ)
  | signalled (route : ρ) (answer : Except SignalError Unit)
  | finished (route : Option ρ) (result : Except RegistryError Unit)
deriving DecidableEq, Repr

inductive QuiesceStep where
  | checking
  | closingGate
  | awaitingWork
  | closingMessages
  | awaitingSignals
  | committing
  | reopeningMessages (phase : EndpointPhase)
  | reopeningGate (error : EndpointError)
  | finished (result : Except EndpointError Unit)
deriving DecidableEq, Repr

inductive ResumeStep where
  | checking
  | openingMessages
  | activating
  | reclosingMessages (error : EndpointError)
  | openingGate
  | deactivating (source : WorkGateError)
  | finished (result : Except EndpointError Unit)
deriving DecidableEq, Repr

inductive ReleaseStep where
  | checking
  | closingGate
  | awaitingWork
  | quiescing
  | releasingMessages
  | awaitingSignals
  | committing
  | finished (result : Except EndpointError Unit)
deriving DecidableEq, Repr

/-- A call of one thread. A `begin_quiesce` remembers how often `resume` had been called
before it. -/
inductive Call (ρ : Type) where
  | work (step : WorkStep)
  | signal (message : GuestMessage) (step : SignalStep ρ)
  | quiesce (since : Nat) (step : QuiesceStep)
  | resume (step : ResumeStep)
  | release (step : ReleaseStep)
deriving DecidableEq, Repr

variable {ρ : Type}

/-- Runs a locked section of the gate. -/
def Endpoint.onGate {α : Type} (endpoint : Endpoint ρ) (action : Action WorkGate WorkGateError α) :
    Except WorkGateError α × Endpoint ρ :=
  let (result, gate) := outcome action endpoint.gate
  (result, { endpoint with gate })

/-- Runs a locked section of the registry. -/
def Endpoint.onMessages {α : Type} (endpoint : Endpoint ρ)
    (action : Action (MessageRegistry ρ) RegistryError α) : Except RegistryError α × Endpoint ρ :=
  let (result, messages) := outcome action endpoint.messages
  (result, { endpoint with messages })

namespace WorkStep

def advance (endpoint : Endpoint ρ) : WorkStep → Endpoint ρ × WorkStep
  | .checking =>
    if endpoint.phase = .active then (endpoint, .admitting)
    else (endpoint, .finished (.error (.notActive endpoint.phase)))
  | .admitting =>
    match endpoint.onGate WorkGate.admitWork with
    | (.ok _, endpoint) => (endpoint, .working)
    | (.error source, endpoint) => (endpoint, .finished (.error (.workGate source)))
  | .working => ({ endpoint with gate := endpoint.gate.complete }, .finished (.ok ()))
  | .finished result => (endpoint, .finished result)

end WorkStep

namespace SignalStep

/-- The answer is that of the route, if this step signals it. -/
def advance [MessageRoute ρ] (endpoint : Endpoint ρ) (answer : Except SignalError Unit)
    (message : GuestMessage) : SignalStep ρ → Endpoint ρ × SignalStep ρ
  | .resolving =>
    match endpoint.onMessages (MessageRegistry.admitSignal message) with
    | (.ok route, endpoint) => (endpoint, .signalling route)
    | (.error error, endpoint) => (endpoint, .finished none (.error error))
  | .signalling route => (endpoint, .signalled route answer)
  | .signalled route answer =>
    ({ endpoint with messages := endpoint.messages.complete },
      .finished (some route) (answer.mapError .signal))
  | .finished route result => (endpoint, .finished route result)

end SignalStep

namespace QuiesceStep

def advance (endpoint : Endpoint ρ) : QuiesceStep → Endpoint ρ × QuiesceStep
  | .checking =>
    match endpoint.phase with
    | .active | .quiescing => (endpoint, .closingGate)
    | .released => (endpoint, .finished (.error (.notActive .released)))
  | .closingGate =>
    let endpoint := { endpoint with gate := endpoint.gate.quiesce }
    (endpoint, if endpoint.gate.isDrained then .closingMessages else .awaitingWork)
  | .awaitingWork =>
    (endpoint, if endpoint.gate.isDrained then .closingMessages else .awaitingWork)
  | .closingMessages =>
    match endpoint.onMessages MessageRegistry.beginQuiesce with
    | (.ok _, endpoint) =>
      (endpoint, if endpoint.messages.isDrained then .committing else .awaitingSignals)
    | (.error source, endpoint) => (endpoint, .reopeningGate (.messageRegistry source))
  | .awaitingSignals =>
    (endpoint, if endpoint.messages.isDrained then .committing else .awaitingSignals)
  | .committing =>
    if endpoint.phase = .released then (endpoint, .reopeningMessages endpoint.phase)
    else ({ endpoint with phase := .quiescing }, .finished (.ok ()))
  | .reopeningMessages phase =>
    ((endpoint.onMessages MessageRegistry.resume).2, .reopeningGate (.notActive phase))
  | .reopeningGate error => ((endpoint.onGate WorkGate.resume).2, .finished (.error error))
  | .finished result => (endpoint, .finished result)

end QuiesceStep

namespace ResumeStep

def advance (endpoint : Endpoint ρ) : ResumeStep → Endpoint ρ × ResumeStep
  | .checking =>
    match endpoint.phase with
    | .active => (endpoint, .finished (.ok ()))
    | .quiescing => (endpoint, .openingMessages)
    | .released => (endpoint, .finished (.error (.notActive .released)))
  | .openingMessages =>
    match endpoint.onMessages MessageRegistry.resume with
    | (.ok _, endpoint) => (endpoint, .activating)
    | (.error source, endpoint) => (endpoint, .finished (.error (.messageRegistry source)))
  | .activating =>
    if endpoint.phase ≠ .quiescing then
      (endpoint, .reclosingMessages (.notActive endpoint.phase))
    else ({ endpoint with phase := .active }, .openingGate)
  | .openingGate =>
    match endpoint.onGate WorkGate.resume with
    | (.ok _, endpoint) => (endpoint, .finished (.ok ()))
    | (.error source, endpoint) => (endpoint, .deactivating source)
  | .deactivating source =>
    ({ endpoint with phase := .quiescing }, .reclosingMessages (.workGate source))
  | .reclosingMessages error =>
    ((endpoint.onMessages MessageRegistry.beginQuiesce).2, .finished (.error error))
  | .finished result => (endpoint, .finished result)

end ResumeStep

namespace ReleaseStep

def advance (endpoint : Endpoint ρ) : ReleaseStep → Endpoint ρ × ReleaseStep
  | .checking =>
    if endpoint.phase = .released then (endpoint, .finished (.ok ()))
    else (endpoint, .closingGate)
  | .closingGate =>
    let endpoint := { endpoint with gate := endpoint.gate.quiesce }
    (endpoint, if endpoint.gate.isDrained then .quiescing else .awaitingWork)
  | .awaitingWork =>
    (endpoint, if endpoint.gate.isDrained then .quiescing else .awaitingWork)
  | .quiescing =>
    if endpoint.phase = .released then (endpoint, .finished (.ok ()))
    else ({ endpoint with phase := .quiescing }, .releasingMessages)
  | .releasingMessages =>
    if endpoint.messages.phase = .released then (endpoint, .committing)
    else
      let messages := { endpoint.messages with phase := .quiescing }
      if messages.isDrained then
        ({ endpoint with messages := messages.invalidate }, .committing)
      else ({ endpoint with messages }, .awaitingSignals)
  | .awaitingSignals =>
    if endpoint.messages.isDrained then
      ({ endpoint with messages := endpoint.messages.invalidate }, .committing)
    else (endpoint, .awaitingSignals)
  | .committing => ({ endpoint with phase := .released }, .finished (.ok ()))
  | .finished result => (endpoint, .finished result)

end ReleaseStep

namespace Call

variable [MessageRoute ρ]

/-- The next locked section of a call. -/
def advance (answer : Except SignalError Unit) (endpoint : Endpoint ρ) :
    Call ρ → Endpoint ρ × Call ρ
  | .work step => (step.advance endpoint).map id .work
  | .signal message step => (step.advance endpoint answer message).map id (.signal message)
  | .quiesce since step => (step.advance endpoint).map id (.quiesce since)
  | .resume step => (step.advance endpoint).map id .resume
  | .release step => (step.advance endpoint).map id .release

end Call

/-! ## Many threads -/

inductive EndpointEvent where
  | admitDeviceWork
  | signal (message : GuestMessage)
  | beginQuiesce
  | resume
  | release
  /-- One call runs its next locked section, or its route answers a signal. -/
  | turn (index : Nat) (answer : Except SignalError Unit)
deriving DecidableEq, Repr

/-- An endpoint with the calls of all threads, in the order in which they were made. -/
abbrev EndpointPool (ρ : Type) := Pool (Endpoint ρ) (Call ρ)

def Call.isResume : Call ρ → Bool
  | .resume _ => true
  | _ => false

namespace EndpointPool

variable [MessageRoute ρ]

def new (routes : List ρ) : EndpointPool ρ where
  shared := .new routes
  tasks := []

variable (pool : EndpointPool ρ)

/-- How often `resume` has been called. -/
def resumeCalls : Nat := pool.tasks.countP Call.isResume

def step : EndpointEvent → EndpointPool ρ
  | .admitDeviceWork => pool.spawn (.work .checking)
  | .signal message => pool.spawn (.signal message .resolving)
  | .beginQuiesce => pool.spawn (.quiesce pool.resumeCalls .checking)
  | .resume => pool.spawn (.resume .checking)
  | .release => pool.spawn (.release .checking)
  | .turn index answer => pool.turn (Call.advance answer) index

def run (events : List EndpointEvent) : EndpointPool ρ := events.foldl step pool

end EndpointPool
end Bangbang.Pci
