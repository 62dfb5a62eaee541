import Bangbang.Vsock.StepEffect

/-!
# Credit is asked for and announced

A connection which has no credit left at the guest has asked for more, and one which has
forwarded much more than it reported has an update to send. Both follow from what a step does
to the credit. Only the second holds for every guest: a header which shrinks the buffer of the
guest may take the last credit, and no step asks for more then (`shrunk_buffer_unasked`).
-/

namespace Bangbang.Vsock

namespace VsockConnectionCredit

section
variable (credit : VsockConnectionCredit)

/-- An exhausted peer has been asked for credit, or is about to be. -/
def Requested : Prop := credit.peerAvailableCredit = 0 → credit.creditRequestOutstanding = true

/-- What was forwarded beyond the last report is small, or an update is pending. -/
def Announced : Prop :=
  virtioVsockConnectionBufferSize - vsockCreditUpdateThreshold <
      (credit.forwardedCount - credit.lastReportedForwardedCount).toNat →
    credit.pendingCreditUpdatePacket = true

/-- A header takes the last credit: the buffer which it announces is full of what the guest has
not yet forwarded and of what is reserved. -/
def Exhausts (header : VirtioVsockPacketHeader) : Prop :=
  credit.peerAvailableCredit ≠ 0 ∧ header.bufferAllocation.toNat ≤
    (credit.sentCount - header.forwardedCount).toNat + credit.reservedPeerBytes

end

instance (credit : VsockConnectionCredit) (header : VirtioVsockPacketHeader) :
    Decidable (credit.Exhausts header) :=
  inferInstanceAs (Decidable (_ ∧ _))

variable {credit next : VsockConnectionCredit} {len header}

theorem reservePeerBytes_eq_some (reserved : credit.reservePeerBytes len = some next) :
    ∃ total, next = ensureCreditRequestIfExhausted { credit with reservedPeerBytes := total } := by
  simp only [reservePeerBytes, Option.bind_eq_bind, Option.bind_eq_some_iff, guard_eq_some,
    Option.pure_def, Option.some.injEq, exists_const] at reserved
  obtain ⟨_, _, same⟩ := reserved
  exact ⟨_, same.symm⟩

/-- Credit which is exhausted is requested. -/
theorem Requested.ensureCreditRequestIfExhausted :
    credit.ensureCreditRequestIfExhausted.Requested := by
  unfold VsockConnectionCredit.ensureCreditRequestIfExhausted
  split
  · exact fun _ => rfl
  · next asked =>
      intro exhausted
      rw [not_and, Bool.not_eq_false] at asked
      exact asked exhausted

/-- A header which leaves credit, or found none, needs no request. -/
theorem Requested.refreshPeer (requested : credit.Requested) (keeps : ¬ credit.Exhausts header) :
    (credit.refreshPeer header).Requested := by
  intro exhausted
  unfold VsockConnectionCredit.refreshPeer at exhausted ⊢
  dsimp only at exhausted ⊢
  split
  · next left =>
      rw [if_pos left] at exhausted
      exact absurd exhausted left
  · next none =>
      refine requested (by_contra fun some => keeps ⟨some, ?_⟩)
      simp only [peerAvailableCredit, peerOutstandingBytes, not_not] at none
      omega

/-- A guarded change, or none where the guard fails. -/
theorem getD_guard {fits : Prop} [Decidable fits] {changed} {holds : VsockConnectionCredit → Prop}
    (after : holds changed) (before : holds credit) :
    holds ((guard fits >>= fun _ => some changed).getD credit) := by
  by_cases passed : fits <;> simpa [guard, passed]

theorem Requested.commitReservedPeerBytes (requested : credit.Requested) :
    ((credit.commitReservedPeerBytes len).getD credit).Requested :=
  getD_guard .ensureCreditRequestIfExhausted requested

/-- Reservations which are given back only leave more credit. -/
theorem Requested.releaseReservedPeerBytes (requested : credit.Requested) :
    ((credit.releaseReservedPeerBytes len).getD credit).Requested := by
  refine getD_guard (fun exhausted => requested ?_) requested
  simp only [peerAvailableCredit, peerOutstandingBytes] at exhausted ⊢
  omega

theorem Announced.refreshPeer (announced : credit.Announced) :
    (credit.refreshPeer header).Announced := by
  unfold VsockConnectionCredit.refreshPeer
  dsimp only
  split <;> exact announced

theorem Announced.ensureCreditRequestIfExhausted (announced : credit.Announced) :
    credit.ensureCreditRequestIfExhausted.Announced := by
  unfold VsockConnectionCredit.ensureCreditRequestIfExhausted
  split <;> exact announced

/-- Every packet reports what was forwarded until now. -/
theorem Announced.markPacketDelivered {operation} :
    (credit.markPacketDelivered operation).Announced := by
  intro unreported
  simp [VsockConnectionCredit.markPacketDelivered] at unreported

theorem Announced.recordForwardedBytes : (credit.recordForwardedBytes len).Announced := by
  intro unreported
  change (credit.pendingCreditUpdatePacket || decide _) = true
  rw [Bool.or_eq_true, decide_eq_true_eq]
  exact .inr unreported

theorem Announced.releaseReservedPeerBytes (announced : credit.Announced) :
    ((credit.releaseReservedPeerBytes len).getD credit).Announced :=
  getD_guard announced announced

theorem Requested.acceptGuestBytes (requested : credit.Requested)
    (accepts : credit.acceptGuestBytes len = .ok next) : next.Requested := by
  simp only [VsockConnectionCredit.acceptGuestBytes, bind_eq_ok, pure_eq_ok] at accepts
  obtain ⟨_, _, rfl⟩ := accepts
  exact requested

end VsockConnectionCredit

namespace VsockConnection

open VsockConnectionCredit

variable {connection next : VsockConnection} {brought reply} {events : List VsockEvent}

/-- Every effect keeps the credit announced. -/
theorem Effect.announced (announced : connection.credit.Announced)
    (effect : connection.Effect brought reply next) : next.credit.Announced := by
  cases effect with
  | stay | suppress => exact announced
  | refresh header => exact announced.refreshPeer
  | promise header => exact fun _ => rfl
  | close header => exact announced.refreshPeer.releaseReservedPeerBytes
  | request => exact announced.ensureCreditRequestIfExhausted
  | reserve bytes credit short reserves =>
    obtain ⟨_, rfl⟩ := reservePeerBytes_eq_some reserves
    exact Announced.ensureCreditRequestIfExhausted announced
  | answer asked => exact Announced.markPacketDelivered.ensureCreditRequestIfExhausted
  | take payload rest front =>
    rw [takePendingHostRwPayload, front]
    exact .markPacketDelivered
  | deliver operation handshake other same => exact .markPacketDelivered
  | flush | write => exact .recordForwardedBytes
  | acknowledge => exact announced.refreshPeer.ensureCreditRequestIfExhausted

/-- An established connection has asked an exhausted guest for credit. -/
def Asks (connection : VsockConnection) : Prop :=
  connection.isEstablished = true → connection.credit.Requested

/-- The header by which an event refreshes the credit of the connection. The other headers are
ignored, or end the connection. -/
def takenHeader (connection : VsockConnection) : VsockEvent → Option VirtioVsockPacketHeader
  | .guestResponse header =>
    match connection.handshake with
    | .guest _ => none
    | .host _ requestPacketPending _ =>
      if header.payloadLen = 0 ∧ requestPacketPending = false then some header else none
  | .guestRw header _ _ _ =>
    if connection.responseStillPending = false ∧ connection.guestSendShutdown = false then
      some header
    else none
  | .guestCreditUpdate header | .guestCreditRequest header =>
    if header.payloadLen = 0 ∧ connection.isEstablished = true then some header else none
  | .guestShutdown header _ =>
    if header.payloadLen = 0 ∧
        header.flags &&& (virtioVsockFlagsShutdownRcv ||| virtioVsockFlagsShutdownSend) ≠ 0 then
      some header
    else none
  | .guestRst _ | .hostReadable _ _ | .deliver _ | .flush | .expire _ => none

/-- A header which is not taken leaves a connection as it is, unless it ends it. -/
theorem takenHeader_cases (connection : VsockConnection) (event) :
    connection.takenHeader event = event.header ∨
      ∀ next, (connection.step event).2 = some next → next = connection := by
  cases event with
  | hostReadable | deliver | flush | expire => exact .inl rfl
  | guestRst header =>
    refine .inr fun next steps => ?_
    simp only [step] at steps
    split at steps <;> cases steps
    rfl
  | guestResponse header =>
    cases opened : connection.handshake with
    | guest pending =>
      refine .inr fun next steps => ?_
      simp only [step, acknowledgeGuestResponse, opened] at steps
      exact (Option.some.inj steps).symm
    | host localPort pending acknowledged =>
      simp only [takenHeader, opened, VsockEvent.header, step, acknowledgeGuestResponse]
      split
      · exact .inl rfl
      · next untaken =>
          refine .inr fun next steps => ?_
          rw [if_pos (by grind)] at steps
          exact (Option.some.inj steps).symm
  | guestRw | guestCreditUpdate | guestCreditRequest | guestShutdown =>
    simp only [takenHeader, VsockEvent.header]
    split
    · exact .inl rfl
    · next untaken =>
        refine .inr fun next steps => ?_
        simp only [step, forwardGuestRwPacket, consumeCreditUpdatePacket,
          queuePendingCreditUpdatePacket, shutdownGuestConnectionPacket] at steps
        grind

/-- Every effect keeps asking for credit, unless the guest takes it away. -/
theorem Effect.asks (asks : connection.Asks)
    (keeps : connection.isEstablished = true → ∀ header ∈ brought,
      ¬ connection.credit.Exhausts header)
    (effect : connection.Effect brought reply next) : next.Asks := by
  intro established
  cases effect with
  | stay | suppress | flush => exact asks established
  | refresh header | promise header =>
    exact (asks established).refreshPeer (keeps established header rfl)
  | close header =>
    exact ((asks established).refreshPeer (keeps established header rfl)).releaseReservedPeerBytes
  | request | answer | acknowledge => exact .ensureCreditRequestIfExhausted
  | reserve bytes credit short reserves =>
    obtain ⟨_, rfl⟩ := reservePeerBytes_eq_some reserves
    exact .ensureCreditRequestIfExhausted
  | take payload rest front =>
    rw [takePendingHostRwPayload, front] at established ⊢
    exact (asks established).commitReservedPeerBytes
  | deliver operation handshake other same =>
    change (decide (connection.lifecycle.phase ≠ .handshake) &&
      hostAcknowledged { connection with handshake }) = true at established
    rw [same] at established
    exact asks established
  | write header payload reserves credit total pending stream acknowledged accepts writes =>
    have refreshed := (asks established).refreshPeer (keeps established header rfl)
    have accepted := refreshed.acceptGuestBytes accepts
    exact accepted

/-- What becomes of a connection, unless a step removes it. -/
def after (connection : VsockConnection) : List VsockEvent → Option VsockConnection
  | [] => some connection
  | event :: events => (connection.step event).2.bind (·.after events)

/-- No header which an established connection takes takes its last credit. -/
def Sustained (connection : VsockConnection) : List VsockEvent → Prop
  | [] => True
  | event :: events => (connection.isEstablished = true →
      ∀ header ∈ connection.takenHeader event, ¬ connection.credit.Exhausts header) ∧
      ∀ next ∈ (connection.step event).2, next.Sustained events

/-- A connection of either side before its first step. -/
inductive Opened : VsockConnection → Prop
  | host (localPort : Nat) (stream : HostStream) : Opened (.fromAccepted localPort stream)
  | guest (stream : HostStream) (requestHeader : VirtioVsockPacketHeader) :
      Opened (.fromStream stream requestHeader)

theorem step_announced {event} (announced : connection.credit.Announced)
    (steps : (connection.step event).2 = some next) : next.credit.Announced := by
  obtain ⟨middle, effect, ⟨lifecycle, shutdown, -⟩⟩ := step_effect (Prod.ext rfl steps)
  have kept := effect.announced announced
  exact kept

/-- Every step keeps asking for credit, unless the guest takes it away. -/
theorem step_asks {event} (asks : connection.Asks)
    (keeps : connection.isEstablished = true →
      ∀ header ∈ connection.takenHeader event, ¬ connection.credit.Exhausts header)
    (steps : (connection.step event).2 = some next) : next.Asks := by
  rcases connection.takenHeader_cases event with taken | ignored
  swap
  · rw [ignored next steps]
    exact asks
  rw [taken] at keeps
  obtain ⟨middle, effect, ⟨lifecycle, shutdown, phase⟩⟩ := step_effect (Prod.ext rfl steps)
  have kept := effect.asks asks keeps
  intro established
  refine kept ?_
  simp only [isEstablished, Bool.and_eq_true, decide_eq_true_eq] at established ⊢
  exact ⟨fun opening => established.1 (phase.mpr opening), established.2⟩

/-- What every step keeps of a connection and the events ahead of it holds after a run. -/
theorem after_of_steps (holds : VsockConnection → List VsockEvent → Prop)
    (keeps : ∀ {connection event events next}, holds connection (event :: events) →
      (connection.step event).2 = some next → holds next events) (start : holds connection events)
    (runs : connection.after events = some next) : holds next [] := by
  induction events generalizing connection with
  | nil =>
    cases runs
    exact start
  | cons event events ih =>
    obtain ⟨middle, steps, rest⟩ := Option.bind_eq_some_iff.mp runs
    exact ih (keeps start steps) rest

/-- In every reachable state an update is pending once much is unreported. An established
connection without credit has asked for it, unless a header took the last credit. -/
theorem credit_asked_and_announced (connection : VsockConnection) (opened : connection.Opened)
    (events : List VsockEvent) (final : VsockConnection)
    (runs : connection.after events = some final) :
    (virtioVsockConnectionBufferSize - vsockCreditUpdateThreshold <
        (final.credit.forwardedCount - final.credit.lastReportedForwardedCount).toNat →
      final.credit.pendingCreditUpdatePacket = true) ∧
    (connection.Sustained events → final.isEstablished = true →
      final.credit.peerAvailableCredit = 0 → final.credit.pendingCreditRequestPacket = true ∨
          final.credit.creditRequestOutstanding = true) := by
  have fresh : VsockConnectionCredit.new.Announced := fun unreported =>
    absurd unreported (by decide)
  have start : connection.credit.Announced ∧ connection.Asks := by
    cases opened with
    | host => exact ⟨fresh, fun established => by cases established⟩
    | guest => exact ⟨fresh.refreshPeer, fun established => by cases established⟩
  constructor
  · exact after_of_steps (fun connection _ => connection.credit.Announced) step_announced start.1
      runs
  · intro sustained established exhausted
    have kept := after_of_steps
      (fun connection events => connection.Asks ∧ connection.Sustained events)
      (fun before steps => ⟨step_asks before.1 before.2.1 steps, before.2.2 _ steps⟩)
      ⟨start.2, sustained⟩ runs
    exact .inr (kept.1 established exhausted)

/-- The guest opens a connection with eight bytes of room. -/
def roomy : VsockConnection := .fromStream ⟨[], []⟩ ⟨0, 0, 8, 0⟩

/-- A credit update which takes the room back leaves an established connection without credit,
and it asks for none, also when the host has data. -/
theorem shrunk_buffer_unasked :
    ∃ final, roomy.after [.deliver 0, .guestCreditUpdate ⟨0, 0, 0, 0⟩] = some final ∧
      final.isEstablished = true ∧ final.credit.peerAvailableCredit = 0 ∧
      final.credit.pendingCreditRequestPacket = false ∧
      final.credit.creditRequestOutstanding = false ∧
      ∀ read now, final.pollHost read now = some final :=
  ⟨_, rfl, by decide, by decide, by decide, by decide, fun _ _ => rfl⟩

/-- A header with a payload is ignored, and half of the room is left. -/
theorem credit_asked_and_announced_roomy :
    ∃ final, roomy.after [.deliver 0, .guestCreditUpdate ⟨1, 0, 0, 0⟩,
        .guestCreditUpdate ⟨0, 0, 4, 0⟩] = some final ∧ final.isEstablished = true ∧
      (final.credit.peerAvailableCredit = 0 → final.credit.pendingCreditRequestPacket = true ∨
        final.credit.creditRequestOutstanding = true) := by
  refine ⟨_, rfl, by decide, (credit_asked_and_announced roomy (.guest _ _) [.deliver 0,
    .guestCreditUpdate ⟨1, 0, 0, 0⟩, .guestCreditUpdate ⟨0, 0, 4, 0⟩] _ rfl).2 ?_ (by decide)⟩
  refine ⟨by decide, ?_⟩
  rintro _ ⟨⟩
  refine ⟨by decide, ?_⟩
  rintro _ ⟨⟩
  refine ⟨by decide, fun _ _ => trivial⟩

end VsockConnection
end Bangbang.Vsock
