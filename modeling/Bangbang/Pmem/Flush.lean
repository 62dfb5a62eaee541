import Bangbang.RateLimit.TokenBucket
import Bangbang.Virtio.AvailableRing
import Bangbang.Virtio.LiveQueue

/-!
# The flush queue of a persistent-memory device

The guest stores to a range which is mapped from a file, and asks through a virtqueue that its
stores be made durable. A dispatch serves the queue while the guest keeps storing and publishing:
the first well-formed request makes the host synchronise the file, and the answer is kept for the
other requests of the dispatch.

`PmemMachine` counts the guest's stores, remembers how many there were when each request was
published, and keeps what the device stored to guest memory. The dispatch writes down what it does
in a log of its own.
-/

namespace Bangbang.Pmem

open Bangbang.Action (mapError attempt check)
open Memory RateLimit Virtio

section

def virtioPmemRequestSize : Nat := 4

def virtioPmemStatusSize : Nat := 4

def virtioPmemRequestTypeFlush : Nat := 0

def virtioPmemStatusSuccess : Int := 0

def virtioPmemStatusFailure : Int := -1

inductive VirtioPmemFlushStatus where
  | success
  | failure
deriving DecidableEq, Repr

def VirtioPmemFlushStatus.statusCode : VirtioPmemFlushStatus → Int
  | .success => virtioPmemStatusSuccess
  | .failure => virtioPmemStatusFailure

/-- A status code as the guest reads it. -/
def statusBytes (statusCode : Int) : List UInt8 := leBytes 4 (statusCode % 2 ^ 32).toNat

structure VirtioPmemStatusDescriptor where
  index : UInt16
  address : Nat
deriving DecidableEq, Repr

structure VirtioPmemRequest where
  descriptorHead : UInt16
  status : VirtioPmemStatusDescriptor
deriving DecidableEq, Repr

inductive VirtioPmemRequestError where
  | descriptorChainTooShort (expected actual : Nat)
  | requestDescriptorWriteOnly (index : UInt16)
  | requestDescriptorInvalidLength (index : UInt16) (len expected : Nat)
  | readRequest (address : Nat) (source : GuestMemoryAccessError)
  | unsupportedRequestType (requestType : Nat)
  | statusDescriptorReadOnly (index : UInt16)
  | statusDescriptorInvalidLength (index : UInt16) (len expected : Nat)
deriving DecidableEq, Repr

structure VirtioPmemRequestCompletion where
  descriptorHead : UInt16
  bytesWrittenToGuest : UInt32
deriving DecidableEq, Repr

inductive VirtioPmemRequestExecutionOutcome where
  | ok
  | flushFailed
  | statusWriteFailed (address : Nat) (source : GuestMemoryAccessError)
deriving DecidableEq, Repr

structure VirtioPmemRequestExecution where
  completion : VirtioPmemRequestCompletion
  statusCode : Int
  outcome : VirtioPmemRequestExecutionOutcome
deriving DecidableEq, Repr

variable (descriptor : VirtqueueDescriptor) (chain : VirtqueueDescriptorChain)

def descriptorChainHead : Option UInt16 :=
  if chain.descriptors.isEmpty then none else some chain.headIndex

def descriptorAt (index expected : Nat) : Except VirtioPmemRequestError VirtqueueDescriptor :=
  okOr chain.descriptors[index]? (.descriptorChainTooShort expected chain.descriptors.length)

def validateRequestDescriptor : Except VirtioPmemRequestError Unit := do
  rejectIf descriptor.isWriteOnly (.requestDescriptorWriteOnly descriptor.index)
  rejectIf (descriptor.len ≠ virtioPmemRequestSize)
    (.requestDescriptorInvalidLength descriptor.index descriptor.len virtioPmemRequestSize)

def validateStatusDescriptor : Except VirtioPmemRequestError VirtioPmemStatusDescriptor := do
  rejectIf (!descriptor.isWriteOnly) (.statusDescriptorReadOnly descriptor.index)
  rejectIf (descriptor.len ≠ virtioPmemStatusSize)
    (.statusDescriptorInvalidLength descriptor.index descriptor.len virtioPmemStatusSize)
  return { index := descriptor.index, address := descriptor.address }

end

inductive VirtioPmemQueueDispatchOutcome where
  | ok
  | flushFailed
  | parseError (source : VirtioPmemRequestError)
  | statusWriteFailed
deriving DecidableEq, Repr

def VirtioPmemQueueDispatchOutcome.fromExecution (execution : VirtioPmemRequestExecution) :
    VirtioPmemQueueDispatchOutcome :=
  match execution.outcome with
  | .ok => .ok
  | .flushFailed => .flushFailed
  | .statusWriteFailed _ _ => .statusWriteFailed

structure VirtioPmemQueueDispatch where
  processedRequests : Nat := 0
  successfulFlushes : Nat := 0
  failedFlushes : Nat := 0
  parseFailures : Nat := 0
  statusWriteFailures : Nat := 0
  firstParseFailure : Option VirtioPmemRequestError := none
  needsQueueInterrupt : Bool := false
  rateLimiterThrottledEvents : Nat := 0
  rateLimiterEvents : Nat := 0
  rateLimiterRetryAfter : Option Nat := none
deriving DecidableEq, Repr

namespace VirtioPmemQueueDispatch

variable (dispatch : VirtioPmemQueueDispatch)

def recordRateLimiterThrottle (retryAfter : Nat) : VirtioPmemQueueDispatch :=
  { dispatch with
    rateLimiterThrottledEvents := dispatch.rateLimiterThrottledEvents + 1
    rateLimiterRetryAfter := some (match dispatch.rateLimiterRetryAfter with
      | some current => min current retryAfter
      | none => retryAfter) }

def recordRateLimiterEvent : VirtioPmemQueueDispatch :=
  { dispatch with rateLimiterEvents := dispatch.rateLimiterEvents + 1 }

def record (outcome : VirtioPmemQueueDispatchOutcome)
    (publication : VirtqueueUsedRingPublication) : VirtioPmemQueueDispatch :=
  let recorded := { dispatch with
    processedRequests := dispatch.processedRequests + 1
    needsQueueInterrupt := dispatch.needsQueueInterrupt || publication.needsQueueInterrupt }
  match outcome with
  | .ok => { recorded with successfulFlushes := dispatch.successfulFlushes + 1 }
  | .flushFailed => { recorded with failedFlushes := dispatch.failedFlushes + 1 }
  | .parseError source => { recorded with
      parseFailures := dispatch.parseFailures + 1
      firstParseFailure := dispatch.firstParseFailure.or (some source) }
  | .statusWriteFailed => { recorded with
      statusWriteFailures := dispatch.statusWriteFailures + 1 }

@[simp] theorem record_rateLimiterThrottledEvents (outcome publication) :
    (dispatch.record outcome publication).rateLimiterThrottledEvents =
      dispatch.rateLimiterThrottledEvents := by
  cases outcome <;> rfl

end VirtioPmemQueueDispatch

inductive VirtioPmemQueueDispatchError where
  | availableRing (completedDispatch : VirtioPmemQueueDispatch)
      (source : VirtqueueAvailableRingError)
  | emptyDescriptorChain (completedDispatch : VirtioPmemQueueDispatch)
  | usedRing (completedDispatch : VirtioPmemQueueDispatch) (descriptorHead : UInt16)
      (bytesWrittenToGuest : UInt32) (source : VirtqueueUsedRingError)
deriving DecidableEq, Repr

/-- The dispatch which was completed before the error, changed. -/
def VirtioPmemQueueDispatchError.mapCompletedDispatch
    (change : VirtioPmemQueueDispatch → VirtioPmemQueueDispatch) :
    VirtioPmemQueueDispatchError → VirtioPmemQueueDispatchError
  | .availableRing completedDispatch source => .availableRing (change completedDispatch) source
  | .emptyDescriptorChain completedDispatch => .emptyDescriptorChain (change completedDispatch)
  | .usedRing completedDispatch descriptorHead bytesWrittenToGuest source =>
    .usedRing (change completedDispatch) descriptorHead bytesWrittenToGuest source

structure VirtioPmemDeviceNotificationDispatch where
  drainedNotifications : List Nat
  queueDispatch : Option VirtioPmemQueueDispatch
deriving DecidableEq, Repr

inductive VirtioPmemDeviceNotificationError where
  | inactive (drainedNotifications : List Nat)
  | unsupportedQueue (drainedNotifications : List Nat) (queueIndex : Nat)
  | queueDispatch (drainedNotifications : List Nat) (source : VirtioPmemQueueDispatchError)
deriving DecidableEq, Repr

structure VirtioPmemQueue where
  available : VirtqueueAvailableRing
  used : VirtqueueUsedRing
deriving DecidableEq, Repr

structure VirtioPmemRateLimiter where
  (bandwidth ops : Option TokenBucket)
deriving DecidableEq, Repr

structure VirtioPmemDevice where
  activeQueue : Option VirtioPmemQueue
  fileLen : Nat
  rateLimiter : Option VirtioPmemRateLimiter
  pendingRateLimitedQueue : Bool
deriving DecidableEq, Repr

/-- A reduction of a bucket which may not be configured. -/
def reduceBucket (bucket : Option TokenBucket)
    (reduce : TokenBucket → TokenBucketReduction × TokenBucket) :
    TokenBucketReduction × Option TokenBucket :=
  match bucket with
  | none => (.allowed, none)
  | some bucket => ((reduce bucket).1, some (reduce bucket).2)

/-- One operation, then the bytes; the operation is given back when the bytes are refused. -/
def VirtioPmemRateLimiter.reduceAt (limiter : VirtioPmemRateLimiter) (bytes now : Nat) :
    TokenBucketReduction × VirtioPmemRateLimiter :=
  let ops := reduceBucket limiter.ops (·.reduceWithRetryAt 1 now)
  match ops.1 with
  | .throttled retryAfter => (.throttled retryAfter, { limiter with ops := ops.2 })
  | .allowed =>
    let bandwidth :=
      reduceBucket limiter.bandwidth (·.reduceAllowOverconsumptionWithRetryAt bytes now)
    match bandwidth.1 with
    | .throttled retryAfter => (.throttled retryAfter, { limiter with bandwidth := bandwidth.2 })
    | .allowed => (.allowed, { bandwidth := bandwidth.2, ops := ops.2 })

/-- What the limiter of a device says to one event. -/
def VirtioPmemDevice.reduceAt (device : VirtioPmemDevice) (now : Nat) :
    TokenBucketReduction × Option VirtioPmemRateLimiter :=
  match device.rateLimiter with
  | none => (.allowed, none)
  | some limiter =>
    ((limiter.reduceAt device.fileLen now).1, some (limiter.reduceAt device.fileLen now).2)

/-- Guest memory, how many stores the guest has made to the device's range, how many it had made
when each request was published, up to which store the file is durable, how often the host was
asked to synchronise it, and what the device has stored to guest memory. -/
structure PmemMachine where
  memory : GuestMemory
  stores : Nat
  published : List Nat
  (durable flushes : Nat)
  deviceStores : List (Nat × List UInt8)

section
variable (ring : VirtqueueAvailableRing)

/-- The published index of a ring, zero where the ring is not mapped. -/
def availableIndexOf (memory : GuestMemory) : UInt16 :=
  (ring.loadAvailableIndex memory).toOption.getD 0

/-- A store to guest memory publishes as many requests as it moves the index on. -/
def pmemView : MemoryView PmemMachine where
  memory := PmemMachine.memory
  write machine memory :=
    { machine with
      memory
      published := machine.published ++ List.replicate
        (availableIndexOf ring memory - availableIndexOf ring machine.memory).toNat machine.stores }
  record machine address bytes :=
    { machine with deviceStores := machine.deviceStores ++ [(address, bytes)] }

/-- What another processor can do: store to the device's range, or to guest memory. -/
inductive GuestStep (ring : VirtqueueAvailableRing) : PmemMachine → PmemMachine → Prop
  | store (machine : PmemMachine) :
      GuestStep ring machine { machine with stores := machine.stores + 1 }
  | write (machine : PmemMachine) (bytes : List UInt8) (address : Nat) :
      GuestStep ring machine
        ((pmemView ring).write machine (machine.memory.writeSlice bytes address).2)

/-- Any number of steps of other processors. -/
def GuestSteps : PmemMachine → PmemMachine → Prop := Relation.ReflTransGen (GuestStep ring)

end

inductive PmemEvent where
  /-- The chain in this slot was popped. -/
  | popped (slot : UInt16) (chain : VirtqueueDescriptorChain)
  | rejected (error : VirtioPmemRequestError)
  /-- The host was asked to synchronise the file when so many requests had been published. -/
  | flushed (offered : Nat) (status : VirtioPmemFlushStatus)
  | statusWritten (status : VirtioPmemFlushStatus)
  | used (head : UInt16) (len : UInt32)
deriving DecidableEq, Repr

structure PmemOwn where
  device : VirtioPmemDevice
  log : List PmemEvent

section

/-- What the host answers when it is asked for the n-th time. -/
abbrev Host := Nat → VirtioPmemFlushStatus

abbrev PmemAction (ε : Type) := Live PmemMachine PmemOwn ε

variable {ε : Type} (view : MemoryView PmemMachine) (host : Host) (reserves : Nat → Bool)

def logEvent (event : PmemEvent) : PmemAction ε Unit :=
  note fun own => { own with log := own.log ++ [event] }

variable (chains : Nat) (drainedNotifications : List Nat) (device : VirtioPmemDevice)
  (request : VirtioPmemRequest) (flushStatus : VirtioPmemFlushStatus) (pass : PmemPass)
  (chain : VirtqueueDescriptorChain) (descriptorHead : UInt16) (queue : VirtioPmemQueue)

def setActiveQueue : PmemAction ε Unit :=
  note fun own => { own with device := { own.device with activeQueue := some queue } }

def setPendingRateLimitedQueue (pending : Bool) : PmemAction ε Unit :=
  note fun own => { own with device := { own.device with pendingRateLimitedQueue := pending } }

def setRateLimiter (rateLimiter : Option VirtioPmemRateLimiter) : PmemAction ε Unit :=
  note fun own => { own with device := { own.device with rateLimiter } }

def readVirtioPmemRequestType (descriptor : VirtqueueDescriptor) :
    PmemAction VirtioPmemRequestError Nat := do
  let bytes ← mapError (.readRequest descriptor.address)
    (view.load descriptor.address virtioPmemRequestSize)
  return ofLe bytes

def VirtioPmemRequest.parse : PmemAction VirtioPmemRequestError VirtioPmemRequest := do
  let request ← check (descriptorAt chain 0 1)
  check (validateRequestDescriptor request)
  let requestType ← readVirtioPmemRequestType view request
  check (rejectIf (requestType ≠ virtioPmemRequestTypeFlush) (.unsupportedRequestType requestType))
  let second ← check (descriptorAt chain 1 2)
  let status ← check (validateStatusDescriptor second)
  return { descriptorHead := chain.headIndex, status }

/-- What is reported about a status which was written, or could not be. -/
def VirtioPmemRequest.executed :
    Except GuestMemoryAccessError Unit → PmemAction ε VirtioPmemRequestExecution
  | .ok () => do
    logEvent (.statusWritten flushStatus)
    return { completion := ⟨request.descriptorHead, UInt32.ofNat virtioPmemStatusSize⟩
             statusCode := flushStatus.statusCode
             outcome := match flushStatus with
               | .success => .ok
               | .failure => .flushFailed }
  | .error source =>
    return { completion := ⟨request.descriptorHead, 0⟩
             statusCode := flushStatus.statusCode
             outcome := .statusWriteFailed request.status.address source }

def VirtioPmemRequest.execute : PmemAction ε VirtioPmemRequestExecution := do
  let written ← attempt (view.store (statusBytes flushStatus.statusCode) request.status.address)
  request.executed flushStatus written

/-- The host synchronises the file: what was stored before it began is durable when it says so. -/
def flush : PmemAction ε VirtioPmemFlushStatus := do
  let began ← access fun machine => (machine, { machine with flushes := machine.flushes + 1 })
  let status := host began.flushes
  access fun machine => ((), match status with
    | .success => { machine with durable := max machine.durable began.stores }
    | .failure => machine)
  logEvent (.flushed began.published.length status)
  return status

/-- The kept answer of the host, or a new one. -/
def flushStatusOf : Option VirtioPmemFlushStatus → PmemAction ε VirtioPmemFlushStatus
  | some status => pure status
  | none => flush host

/-- The completion of a chain, its outcome, and the answer of the host to keep. -/
structure PmemAnswer where
  completion : VirtioPmemRequestCompletion
  outcome : VirtioPmemQueueDispatchOutcome
  cachedFlushStatus : Option VirtioPmemFlushStatus

def answer (cachedFlushStatus : Option VirtioPmemFlushStatus) :
    Except VirtioPmemRequestError VirtioPmemRequest → PmemAction ε PmemAnswer
  | .ok request => do
    let flushStatus ← flushStatusOf host cachedFlushStatus
    let execution ← request.execute view flushStatus
    return ⟨execution.completion, .fromExecution execution, some flushStatus⟩
  | .error source => do
    logEvent (.rejected source)
    return ⟨⟨descriptorHead, 0⟩, .parseError source, cachedFlushStatus⟩

/-- What a dispatch carries from one chain to the next. -/
structure PmemPass where
  queue : VirtioPmemQueue
  cachedFlushStatus : Option VirtioPmemFlushStatus
  dispatch : VirtioPmemQueueDispatch

/-- Answer a popped chain and complete it. -/
def completeChain (parsed : Except VirtioPmemRequestError VirtioPmemRequest) :
    PmemAction VirtioPmemQueueDispatchError PmemPass := do
  let answered ← answer view host descriptorHead pass.cachedFlushStatus parsed
  let completion := answered.completion
  let published ←
    mapError (.usedRing pass.dispatch completion.descriptorHead completion.bytesWrittenToGuest)
      (view.publishUsedElementWithNotification pass.queue.used completion.descriptorHead
        completion.bytesWrittenToGuest .disabled)
  logEvent (.used completion.descriptorHead completion.bytesWrittenToGuest)
  setActiveQueue { pass.queue with used := published.2 }
  return { queue := { pass.queue with used := published.2 }
           cachedFlushStatus := answered.cachedFlushStatus
           dispatch := pass.dispatch.record answered.outcome published.1 }

/-- Serve a chain which was popped. -/
def serveChain : PmemAction VirtioPmemQueueDispatchError PmemPass := do
  let descriptorHead ←
    check (okOr (descriptorChainHead chain) (.emptyDescriptorChain pass.dispatch))
  let parsed ← attempt (VirtioPmemRequest.parse view chain)
  completeChain view host pass descriptorHead parsed

/-- Pop the next chain; `none` when there is none. -/
def popChain (reserved : Bool) :
    PmemAction VirtioPmemQueueDispatchError (Option (VirtqueueDescriptorChain × PmemPass)) := do
  let popped ← mapError (.availableRing pass.dispatch)
    (view.popDescriptorChain pass.queue.available reserved)
  match popped with
  | none => return none
  | some (chain, available) =>
    logEvent (.popped pass.queue.available.nextAvail chain)
    setActiveQueue { pass.queue with available }
    return some (chain, { pass with queue := { pass.queue with available } })

/-- Serve the queue until it is empty, for so many chains at most; `none` when there are more. -/
def VirtioPmemQueue.dispatch : (chains : Nat) → PmemPass →
    PmemAction VirtioPmemQueueDispatchError (Option VirtioPmemQueueDispatch)
  | 0, _ => return none
  | chains + 1, pass => do
    let popped ← popChain view pass (reserves chains)
    match popped with
    | none => return some pass.dispatch
    | some (chain, popped) =>
      let served ← serveChain view host popped chain
      dispatch chains served

def VirtioPmemQueue.hasAvailableWork : PmemAction VirtqueueAvailableRingError Bool := do
  let availableLen ← view.availableDescriptorCount queue.available
  return availableLen ≠ 0

/-- What a device reports after its queue was served, or failed. -/
def finishDispatch (hadPending : Bool) :
    Except VirtioPmemQueueDispatchError (Option VirtioPmemQueueDispatch) →
      PmemAction VirtioPmemDeviceNotificationError (Option VirtioPmemDeviceNotificationDispatch)
  | .ok none => return none
  | .ok (some dispatch) => do
    setPendingRateLimitedQueue false
    return some ⟨drainedNotifications,
      some (if hadPending then dispatch.recordRateLimiterEvent else dispatch)⟩
  | .error source => do
    setPendingRateLimitedQueue false
    throw (.queueDispatch drainedNotifications
      (if hadPending then source.mapCompletedDispatch (·.recordRateLimiterEvent) else source))

/-- A device serves its queue unless the limiter refuses. -/
def admitDispatch (admission : VirtioPmemQueueDispatch) (now : Nat) :
    PmemAction VirtioPmemDeviceNotificationError (Option VirtioPmemDeviceNotificationDispatch) := do
  let reduced := device.reduceAt now
  setRateLimiter reduced.2
  match reduced.1 with
  | .throttled retryAfter =>
    setPendingRateLimitedQueue true
    return some ⟨drainedNotifications, some (admission.recordRateLimiterThrottle retryAfter)⟩
  | .allowed =>
    let served ← attempt (VirtioPmemQueue.dispatch view host reserves chains ⟨queue, none, {}⟩)
    finishDispatch drainedNotifications device.pendingRateLimitedQueue served

/-- A device looks for work, and does it. -/
def dispatchQueue (admission : VirtioPmemQueueDispatch) (now : Nat) :
    Except VirtqueueAvailableRingError Bool →
      PmemAction VirtioPmemDeviceNotificationError (Option VirtioPmemDeviceNotificationDispatch)
  | .error source => do
    setPendingRateLimitedQueue false
    throw (.queueDispatch drainedNotifications (.availableRing admission source))
  | .ok false => do
    setPendingRateLimitedQueue false
    return some ⟨drainedNotifications, some admission⟩
  | .ok true =>
    admitDispatch view host reserves chains drainedNotifications device queue admission now

/-- Serve the notifications of a device, for so many chains at most; `none` when there are more. -/
def dispatchDrainedQueueNotificationsAt (now : Nat) : PmemAction VirtioPmemDeviceNotificationError
      (Option VirtioPmemDeviceNotificationDispatch) := do
  let own ← consult
  let device := own.device
  if drainedNotifications.isEmpty && !device.pendingRateLimitedQueue then
    return some ⟨drainedNotifications, none⟩
  else
    match drainedNotifications.find? (· ≠ 0), device.activeQueue with
    | some queueIndex, _ => throw (.unsupportedQueue drainedNotifications queueIndex)
    | none, none => throw (.inactive drainedNotifications)
    | none, some queue =>
      let admission : VirtioPmemQueueDispatch :=
        if device.pendingRateLimitedQueue then ({} : VirtioPmemQueueDispatch).recordRateLimiterEvent
        else {}
      let hasWork ← attempt (queue.hasAvailableWork view)
      dispatchQueue view host reserves chains drainedNotifications device queue admission now
        hasWork

end
end Bangbang.Pmem
