import Bangbang.Base.Action

/-!
# Queue notifications of the network device

A dispatch takes every recorded notification, makes a pass over the receive queue and then
one over the transmit queue, and may try the receive queue again. `PacketIo` says how each
pass ends. Guest memory, packet source and sink, and rate limiters are together a world.
-/

namespace Bangbang.Network

open Bangbang.Action

def virtioNetRxQueueIndex : Nat := 0
def virtioNetTxQueueIndex : Nat := 1

/-- What a pass over a queue reports. -/
structure QueueDispatch where
  rateLimiterThrottled : Nat
  needsQueueInterrupt : Bool

/-- What one dispatch reports. -/
structure NotificationDispatch where
  drainedNotifications : List Nat
  (rxQueueDispatch txQueueDispatch postTxRxQueueDispatch : Option QueueDispatch)
  (rxRateLimiterEvent txRateLimiterEvent : Bool)

inductive NotificationError (E : Type) where
  | inactive (drainedNotifications : List Nat)
  | unsupportedQueue (drainedNotifications : List Nat) (queueIndex : Nat)
  | txQueueDispatch (drainedNotifications : List Nat) (completedRxDispatch : Option QueueDispatch)
      (source : E)
  | rxQueueDispatch (drainedNotifications : List Nat)
      (completedTxDispatch completedInitialRxDispatch : Option QueueDispatch) (source : E)

/-- What the host does for a device. -/
structure PacketIo (W R T E : Type) where
  (hostReadinessHint retryAfterTxHint : W → Bool)
  dispatchRx (requireReadyHint : Bool) : R → W → Except E QueueDispatch × R × W
  dispatchTx : T → W → Except E QueueDispatch × T × W
  /-- What a pass had done when it failed. -/
  completedDispatch : E → Option QueueDispatch

/-- The device, with the passes which the present dispatch made. -/
structure VirtioNetworkDevice (W R T : Type) where
  activeRxQueue : Option R
  activeTxQueue : Option T
  (pendingRateLimitedRxQueue pendingRateLimitedTxQueue : Bool)
  world : W
  passes : List Nat

structure VirtioNetworkMmioHandler (W R T : Type) where
  device : VirtioNetworkDevice W R T
  (queueNotifications queueInterrupts : List Nat)

variable {W R T E : Type} (io : PacketIo W R T E)

namespace VirtioNetworkDevice

variable (device : VirtioNetworkDevice W R T)

def isActivated : Bool :=
  device.activeRxQueue.isSome && device.activeTxQueue.isSome

/-- A pass over the receive queue. A failure leaves the mark of the rate limiter alone. -/
def rxPass (drained : List Nat) (requireReadyHint : Bool) (failure : E → NotificationError E) :
    Action (VirtioNetworkDevice W R T) (NotificationError E) QueueDispatch := do
  let device ← get
  let queue ← check (okOr device.activeRxQueue (.inactive drained))
  let (result, queue, world) := io.dispatchRx requireReadyHint queue device.world
  set { device with
    activeRxQueue := some queue, world, passes := device.passes ++ [virtioNetRxQueueIndex] }
  let dispatch ← check (result.mapError failure)
  modify ({ · with pendingRateLimitedRxQueue := dispatch.rateLimiterThrottled != 0 })
  return dispatch

def txPass (drained : List Nat) (failure : E → NotificationError E) :
    Action (VirtioNetworkDevice W R T) (NotificationError E) QueueDispatch := do
  let device ← get
  let queue ← check (okOr device.activeTxQueue (.inactive drained))
  let (result, queue, world) := io.dispatchTx queue device.world
  set { device with
    activeTxQueue := some queue, world, passes := device.passes ++ [virtioNetTxQueueIndex] }
  let dispatch ← check (result.mapError failure)
  modify ({ · with pendingRateLimitedTxQueue := dispatch.rateLimiterThrottled != 0 })
  return dispatch

/-- A pass which is skipped when it is not needed. -/
def passIf {σ ε α : Type} (needed : Bool) (pass : Action σ ε α) : Action σ ε (Option α) :=
  if needed then return some (← pass) else return none

/-- The passes of a dispatch. The receive queue is tried again after a transmission. -/
def dispatchQueues (drained : List Nat) (dispatchRx dispatchTx : Bool) :
    Action (VirtioNetworkDevice W R T) (NotificationError E) NotificationDispatch := do
  let before ← get
  let rx ← passIf dispatchRx (rxPass io drained false (.rxQueueDispatch drained none none))
  let tx ← passIf dispatchTx (txPass io drained (.txQueueDispatch drained rx))
  let device ← get
  let postTx ← passIf (dispatchTx && !device.pendingRateLimitedRxQueue &&
      io.retryAfterTxHint device.world)
    (rxPass io drained true (.rxQueueDispatch drained tx rx))
  return ⟨drained, rx, tx, postTx, before.pendingRateLimitedRxQueue,
    before.pendingRateLimitedTxQueue⟩

/-- Nothing asks for a pass, or only the packet source of an inactive device does. -/
def isIdle (drained : List Nat) : Bool :=
  drained.isEmpty && if io.hostReadinessHint device.world then !device.isActivated
    else !(device.pendingRateLimitedRxQueue || device.pendingRateLimitedTxQueue)

def dispatchDrainedQueueNotifications (drained : List Nat) :
    Action (VirtioNetworkDevice W R T) (NotificationError E) NotificationDispatch := do
  let device ← get
  if device.isIdle io drained then
    return ⟨drained, none, none, none, false, false⟩
  else
    check (rejectIf (!device.isActivated) (.inactive drained))
    check (match drained.find? fun queueIndex =>
        queueIndex ≠ virtioNetRxQueueIndex ∧ queueIndex ≠ virtioNetTxQueueIndex with
      | some queueIndex => .error (.unsupportedQueue drained queueIndex)
      | none => .ok ())
    dispatchQueues io drained (drained.contains virtioNetRxQueueIndex ||
        device.pendingRateLimitedRxQueue || io.hostReadinessHint device.world)
      (drained.contains virtioNetTxQueueIndex || device.pendingRateLimitedTxQueue)

end VirtioNetworkDevice

def networkQueueInterrupts : Except (NotificationError E) NotificationDispatch → Bool × Bool
  | .ok dispatch => (dispatch.rxQueueDispatch.any (·.needsQueueInterrupt) ||
      dispatch.postTxRxQueueDispatch.any (·.needsQueueInterrupt),
      dispatch.txQueueDispatch.any (·.needsQueueInterrupt))
  | .error (.txQueueDispatch _ rx source) => (rx.any (·.needsQueueInterrupt),
      (io.completedDispatch source).any (·.needsQueueInterrupt))
  | .error (.rxQueueDispatch _ tx rx source) => (rx.any (·.needsQueueInterrupt) ||
      (io.completedDispatch source).any (·.needsQueueInterrupt), tx.any (·.needsQueueInterrupt))
  | .error _ => (false, false)

namespace VirtioNetworkMmioHandler

variable (handler : VirtioNetworkMmioHandler W R T)

def dispatchNetworkQueueNotificationsWithPacketIo :
    Except (NotificationError E) NotificationDispatch × VirtioNetworkMmioHandler W R T :=
  let (result, device) :=
    (VirtioNetworkDevice.dispatchDrainedQueueNotifications io handler.queueNotifications).outcome
      { handler.device with passes := [] }
  let (rxInterrupt, txInterrupt) := networkQueueInterrupts io result
  (result, ⟨device, [], handler.queueInterrupts ++
    (if rxInterrupt then [virtioNetRxQueueIndex] else []) ++
    if txInterrupt then [virtioNetTxQueueIndex] else []⟩)

end VirtioNetworkMmioHandler

namespace VirtioNetworkDevice

/-- A queue is notified, or waits for its rate limiter. -/
def Due (device : VirtioNetworkDevice W R T) (notified : List Nat) (queueIndex : Nat) : Prop :=
  queueIndex ∈ notified ∨
    queueIndex = virtioNetRxQueueIndex ∧ device.pendingRateLimitedRxQueue = true ∨
    queueIndex = virtioNetTxQueueIndex ∧ device.pendingRateLimitedTxQueue = true

/-- A receive pass over the queue fails. -/
def RxFails (requireReadyHint : Bool) (device : VirtioNetworkDevice W R T) : Prop :=
  ∃ queue source, device.activeRxQueue = some queue ∧
    (io.dispatchRx requireReadyHint queue device.world).1 = .error source

/-- A dispatch of the notifications begins with a receive pass, which fails. -/
def ReceiveFails (device : VirtioNetworkDevice W R T) (notified : List Nat) : Prop :=
  (virtioNetRxQueueIndex ∈ notified ∨ device.pendingRateLimitedRxQueue = true ∨
    io.hostReadinessHint device.world = true) ∧ device.RxFails io false

variable {io} {device : VirtioNetworkDevice W R T} {drained : List Nat}

/-- The device is active, made the passes which it had made, and that over a queue if needed. -/
def Passed (needed : Bool) (queueIndex : Nat) (device next : VirtioNetworkDevice W R T) : Prop :=
  next.isActivated = true ∧ device.passes ⊆ next.passes ∧
    (needed = true → queueIndex ∈ next.passes)

variable {needed requireReadyHint : Bool} {failure : E → NotificationError E}
  (active : device.isActivated = true)
include active

/-- A receive pass ends as the packets say, and a failed one leaves the transmit queue alone. -/
theorem rxPass_ensures : (passIf needed (rxPass io drained requireReadyHint failure)).Ensures device
    (fun _ next => Passed needed virtioNetRxQueueIndex device next ∧
      ¬ (needed = true ∧ device.RxFails io requireReadyHint))
    fun _ next => Passed needed virtioNetRxQueueIndex device next ∧
      (needed = true ∧ device.RxFails io requireReadyHint) ∧
      next.passes = device.passes ++ [virtioNetRxQueueIndex] ∧
      next.pendingRateLimitedTxQueue = device.pendingRateLimitedTxQueue := by
  cases needed with
  | false => exact ⟨⟨active, List.Subset.refl _, nofun⟩, nofun⟩
  | true =>
    refine ensures_bind.mpr ?_
    simp only [isActivated, Bool.and_eq_true, Option.isSome_iff_exists] at active
    obtain ⟨⟨queue, isQueue⟩, other, isOther⟩ := active
    simp only [rxPass, ensures_bind, ensures_get, ensures_okOr, isQueue]
    rcases answer : io.dispatchRx requireReadyHint queue device.world with ⟨source | dispatch, _, _⟩
    all_goals
      simp [ensures_check, Except.mapError, Passed, isActivated, isOther, RxFails, isQueue, answer]

/-- The transmit queue is passed when it is needed. -/
theorem txPass_ensures : (passIf needed (txPass io drained failure)).Ensures device
    (fun _ => Passed needed virtioNetTxQueueIndex device)
    fun _ => Passed needed virtioNetTxQueueIndex device := by
  cases needed with
  | false => exact ⟨active, List.Subset.refl _, nofun⟩
  | true =>
    refine ensures_bind.mpr ?_
    simp only [isActivated, Bool.and_eq_true, Option.isSome_iff_exists] at active
    obtain ⟨⟨other, isOther⟩, queue, isQueue⟩ := active
    simp only [txPass, ensures_bind, ensures_get, ensures_okOr, isQueue]
    rcases io.dispatchTx queue device.world with ⟨source | dispatch, _, _⟩
    all_goals simp [ensures_check, Except.mapError, Passed, isActivated, isOther]

/-- What the passes of a dispatch come to: each queue which needs a pass has one, but for the
transmit queue after a first receive pass which failed. -/
def Served (dispatchRx dispatchTx fails : Prop) (device next : VirtioNetworkDevice W R T) : Prop :=
  (dispatchRx → virtioNetRxQueueIndex ∈ next.passes) ∧
    (¬ fails → dispatchTx → virtioNetTxQueueIndex ∈ next.passes) ∧
    (fails → next.passes = device.passes ++ [virtioNetRxQueueIndex] ∧
      next.pendingRateLimitedTxQueue = device.pendingRateLimitedTxQueue)

omit active in
theorem Served.mono {rx tx fails rxDue txDue failing} {next : VirtioNetworkDevice W R T}
    (served : Served rx tx fails device next) (rxNeeds : rxDue → rx) (txNeeds : txDue → tx)
    (same : failing ↔ fails) : Served rxDue txDue failing device next := by
  obtain ⟨rxDone, txDone, ends⟩ := served
  exact ⟨fun due => rxDone (rxNeeds due), fun works due => txDone (mt same.mpr works) (txNeeds due),
    fun fails => ends (same.mp fails)⟩

/-- The two queues are served as they are needed. -/
theorem dispatchQueues_ensures (dispatchRx dispatchTx : Bool) :
    let served := Served (dispatchRx = true) (dispatchTx = true)
      (dispatchRx = true ∧ device.RxFails io false) device
    (dispatchQueues io drained dispatchRx dispatchTx).Ensures device (fun _ => served)
      fun _ => served := by
  simp only [dispatchQueues, ensures_bind, ensures_get, ensures_pure]
  refine (rxPass_ensures active).mono ?_ ?_
  · rintro rx first ⟨⟨active, -, rxDone⟩, works⟩
    refine (txPass_ensures active).mono ?_ ?_
    · rintro tx second ⟨active, kept, txDone⟩
      refine (rxPass_ensures active).mono ?_ ?_
      · rintro _ next ⟨⟨-, still, -⟩, -⟩
        exact ⟨fun due => still (kept (rxDone due)), fun _ due => still (txDone due),
          fun fails => absurd fails works⟩
      · rintro _ next ⟨⟨-, still, -⟩, -⟩
        exact ⟨fun due => still (kept (rxDone due)), fun _ due => still (txDone due),
          fun fails => absurd fails works⟩
    · rintro _ next ⟨-, kept, txDone⟩
      exact ⟨fun due => kept (rxDone due), fun _ due => txDone due,
        fun fails => absurd fails works⟩
  · rintro _ next ⟨⟨-, -, rxDone⟩, fails, ends⟩
    exact ⟨rxDone, fun works => absurd fails works, fun _ => ends⟩

/-- Every queue which is due is served. -/
theorem dispatch_ensures (supported : ∀ queueIndex ∈ drained,
      queueIndex = virtioNetRxQueueIndex ∨ queueIndex = virtioNetTxQueueIndex) :
    let served := Served (device.Due drained virtioNetRxQueueIndex)
      (device.Due drained virtioNetTxQueueIndex) (device.ReceiveFails io drained) device
    (dispatchDrainedQueueNotifications io drained).Ensures device (fun _ => served)
      fun _ => served := by
  have known : (drained.find? fun queueIndex =>
      queueIndex ≠ virtioNetRxQueueIndex ∧ queueIndex ≠ virtioNetTxQueueIndex) = none := by
    simpa [List.find?_eq_none, or_iff_not_imp_left] using supported
  have rxNeeded : (drained.contains virtioNetRxQueueIndex || device.pendingRateLimitedRxQueue ||
      io.hostReadinessHint device.world) = true ↔ virtioNetRxQueueIndex ∈ drained ∨
        device.pendingRateLimitedRxQueue = true ∨ io.hostReadinessHint device.world = true := by
    simp [or_assoc]
  simp only [dispatchDrainedQueueNotifications, ensures_bind, ensures_get]
  split
  next idle =>
    cases hint : io.hostReadinessHint device.world <;>
      simp_all [isIdle, Due, Served, ReceiveFails]
  · have rxNeeds : device.Due drained virtioNetRxQueueIndex → _ := fun due => rxNeeded.mpr <| by
      rcases due with notified | ⟨-, waits⟩ | ⟨⟨⟩, -⟩
      · exact .inl notified
      · exact .inr (.inl waits)
    have txNeeds : device.Due drained virtioNetTxQueueIndex →
        (drained.contains virtioNetTxQueueIndex || device.pendingRateLimitedTxQueue) = true := by
      rintro (notified | ⟨⟨⟩, -⟩ | ⟨-, waits⟩)
      · simp [notified]
      · simp [waits]
    simp only [ensures_bind, ensures_rejectIf, active, known]
    exact ⟨by simp, fun _ => (dispatchQueues_ensures active _ _).mono
      (fun _ _ served => served.mono rxNeeds txNeeds (and_congr_left' rxNeeded.symm))
      fun _ _ served => served.mono rxNeeds txNeeds (and_congr_left' rxNeeded.symm)⟩

end VirtioNetworkDevice

namespace VirtioNetworkMmioHandler

variable {io} {handler : VirtioNetworkMmioHandler W R T} {queueIndex : Nat}

/-- After a dispatch a queue which was due has had a pass or is still due, and the only exception
is a transmit queue which did not wait for its limiter, when the dispatch begins with a receive
pass which fails. -/
theorem due_queue_passed (active : handler.device.isActivated = true)
    (supported : ∀ index ∈ handler.queueNotifications,
      index = virtioNetRxQueueIndex ∨ index = virtioNetTxQueueIndex)
    (due : handler.device.Due handler.queueNotifications queueIndex) :
    let after := (handler.dispatchNetworkQueueNotificationsWithPacketIo io).2
    queueIndex ∈ after.device.passes ∨ after.device.Due after.queueNotifications queueIndex ↔
      ¬ (queueIndex = virtioNetTxQueueIndex ∧ handler.device.pendingRateLimitedTxQueue = false ∧
        handler.device.ReceiveFails io handler.queueNotifications) := by
  intro after
  have ends : (VirtioNetworkDevice.dispatchDrainedQueueNotifications io
      handler.queueNotifications).Ensures { handler.device with passes := [] } _ _ :=
    VirtioNetworkDevice.dispatch_ensures active supported
  obtain ⟨rxDone, txDone, failed⟩ : VirtioNetworkDevice.Served _ _ _
      { handler.device with passes := [] } after.device := by
    rcases ends.cases with ⟨_, -, served⟩ | ⟨_, -, served⟩ <;> exact served
  have which : queueIndex = virtioNetRxQueueIndex ∨ queueIndex = virtioNetTxQueueIndex := by
    rcases due with notified | ⟨isRx, -⟩ | ⟨isTx, -⟩
    · exact supported _ notified
    · exact .inl isRx
    · exact .inr isTx
  rcases which with rfl | rfl
  · exact iff_of_true (.inl (rxDone due)) (by rintro ⟨⟨⟩, -⟩)
  · by_cases fails : handler.device.ReceiveFails io handler.queueNotifications
    · -- Only the mark of the limiter is left then.
      obtain ⟨passes, waits⟩ := failed fails
      have notPassed : virtioNetTxQueueIndex ∉ after.device.passes := by
        simp [passes, virtioNetTxQueueIndex, virtioNetRxQueueIndex]
      have remains : after.device.Due after.queueNotifications virtioNetTxQueueIndex ↔
          handler.device.pendingRateLimitedTxQueue = true := by
        rw [← waits]
        refine ⟨?_, fun waits => .inr (.inr ⟨rfl, waits⟩)⟩
        rintro (⟨⟨⟩⟩ | ⟨⟨⟩, -⟩ | ⟨-, waits⟩)
        exact waits
      rw [or_iff_right notPassed, remains]
      simp [fails]
    · exact iff_of_true (.inl (txDone fails due)) fun ⟨_, _, failing⟩ => fails failing

/-- Both queues are notified. -/
def notified : VirtioNetworkMmioHandler Unit Unit Unit :=
  ⟨⟨some (), some (), false, false, (), []⟩, [virtioNetRxQueueIndex, virtioNetTxQueueIndex], []⟩

/-- Packets where a receive pass ends as given and a transmit pass finds no chain. -/
def answering (received : Except Unit QueueDispatch) : PacketIo Unit Unit Unit Unit :=
  ⟨fun _ => false, fun _ => false, fun _ _ _ => (received, (), ()),
    fun _ _ => (.ok ⟨0, false⟩, (), ()), fun _ => none⟩

theorem due_queue_passed_notified :
    let after :=
      (notified.dispatchNetworkQueueNotificationsWithPacketIo (answering (.ok ⟨0, false⟩))).2
    virtioNetTxQueueIndex ∈ after.device.passes ∨
      after.device.Due after.queueNotifications virtioNetTxQueueIndex := by
  refine (due_queue_passed rfl (by decide) (.inl (by decide))).mpr ?_
  rintro ⟨-, -, -, _, _, -, ⟨⟩⟩

/-- A failed receive pass loses the notification of the transmit queue. -/
theorem transmit_notification_lost :
    let after := (notified.dispatchNetworkQueueNotificationsWithPacketIo (answering (.error ()))).2
    notified.device.isActivated = true ∧ virtioNetTxQueueIndex ∈ notified.queueNotifications ∧
      virtioNetTxQueueIndex ∉ after.device.passes ∧
      ¬after.device.Due after.queueNotifications virtioNetTxQueueIndex := by
  refine ⟨rfl, by decide, by decide, ?_⟩
  rintro (listed | ⟨-, waits⟩ | ⟨-, waits⟩)
  · cases listed
  · cases waits
  · cases waits

end VirtioNetworkMmioHandler
end Bangbang.Network
