import Bangbang.Vsock.Connection

/-!
# What a step does to a connection

`step_effect` runs through the branches of a step once. Every branch has one of the effects
below on the credit, the queues, the stream and the handshake, and after it the dates and the
shutdown state of the connection may still change, which leaves all of these alone.
-/

namespace Bangbang.Vsock

open VsockConnectionLifecycle

/-- The header of a guest packet. -/
def VsockEvent.header : VsockEvent → Option VirtioVsockPacketHeader
  | .guestResponse header | .guestRw header _ _ _ | .guestCreditUpdate header
  | .guestCreditRequest header | .guestShutdown header _ | .guestRst header => some header
  | .hostReadable _ _ | .deliver _ | .flush | .expire _ => none

namespace VsockConnection

/-- What a step does, with the header which it brought and its reply. -/
inductive Effect (connection : VsockConnection) :
    Option VirtioVsockPacketHeader → VsockReply → VsockConnection → Prop
  | stay (header : Option VirtioVsockPacketHeader) : Effect connection header .none connection
  | suppress (header : VirtioVsockPacketHeader) :
      Effect connection (some header) (.rw .suppressed) connection
  | refresh (header : VirtioVsockPacketHeader) :
      Effect connection (some header) .none (connection.refreshPeerCredit header)
  | promise (header : VirtioVsockPacketHeader) :
      Effect connection (some header) .none { connection with
        credit := (connection.credit.refreshPeer header).queueCreditUpdatePacket }
  | close (header : VirtioVsockPacketHeader) :
      Effect connection (some header) .none { connection with
        pendingHostRwPayloads := []
        credit := ((connection.credit.refreshPeer header).releaseReservedPeerBytes
          (BitVec.ofNat 32 (releasedBytes connection.pendingHostRwPayloads))).getD
            (connection.credit.refreshPeer header) }
  | request : Effect connection none .none { connection with
      credit := connection.credit.ensureCreditRequestIfExhausted }
  | reserve (bytes : List UInt8) (credit : VsockConnectionCredit)
      (short : bytes.length ≤ vsockHostRwPrefetchPayloadLimit)
      (reserves : connection.credit.reservePeerBytes (payloadLenU32 bytes.length) = some credit) :
      Effect connection none .none { connection with
        credit
        pendingHostRwPayloads := connection.pendingHostRwPayloads ++ [bytes] }
  | answer (asked : connection.handshake = .guest true) :
      Effect connection none (.delivered (connection.pendingRxPacket .response)) { connection with
        handshake := .guest false
        lifecycle := connection.lifecycle.markEstablished
        credit := (connection.credit.markPacketDelivered .response).ensureCreditRequestIfExhausted }
  | take (payload : List UInt8) (rest : List (List UInt8))
      (front : connection.pendingHostRwPayloads = payload :: rest) :
      Effect connection none (.delivered (connection.pendingRxPacket .rw))
        connection.takePendingHostRwPayload
  | deliver (operation : VsockOperation) (handshake : VsockHandshake) (other : operation ≠ .rw)
      (same : hostAcknowledged { connection with handshake } = connection.hostAcknowledged) :
      Effect connection none (.delivered (connection.pendingRxPacket operation)) { connection with
        handshake
        credit := connection.credit.markPacketDelivered operation }
  | flush (total : Nat) (pending : VsockGuestRwPendingWrites) (stream : HostStream)
      (flushes : connection.pendingGuestRwWrites.flush connection.stream =
        (.ok total, pending, stream)) :
      Effect connection none .none { connection with
        pendingGuestRwWrites := pending
        stream
        credit := connection.credit.recordForwardedBytes (forwardedByteCountU32 total) }
  | write (header : VirtioVsockPacketHeader) (payload : List UInt8) (reserves : Bool)
      (credit : VsockConnectionCredit) (total : Nat) (pending : VsockGuestRwPendingWrites)
      (stream : HostStream) (acknowledged : connection.hostAcknowledged = true)
      (accepts : (connection.credit.refreshPeer header).acceptGuestBytes
        (payloadLenU32 payload.length) = .ok credit)
      (writes : connection.pendingGuestRwWrites.writeOrQueue connection.stream reserves payload =
        (.ok total, pending, stream)) :
      Effect connection (some header) (.rw (.forwarded payload.length)) { connection with
        pendingGuestRwWrites := pending
        stream
        credit := credit.recordForwardedBytes (forwardedByteCountU32 total) }
  | acknowledge (header : VirtioVsockPacketHeader) (localPort : Nat) (requested : Bool)
      (written : Nat) (stream : HostStream)
      (silent : connection.handshake = .host localPort requested false)
      (writes : connection.stream.write (acknowledgement localPort) = (.ok written, stream)) :
      Effect connection (some header) .none { connection with
        handshake := .host localPort requested true
        lifecycle := connection.lifecycle.markEstablished
        stream
        credit := (connection.credit.refreshPeer header).ensureCreditRequestIfExhausted }

/-- The dates and the shutdown state may change; a handshake stays where it is. -/
inductive Restaged (connection : VsockConnection) : VsockConnection → Prop
  | mk (lifecycle : VsockConnectionLifecycle) (shutdown : VsockConnectionShutdownState)
      (phase : lifecycle.phase = .handshake ↔ connection.lifecycle.phase = .handshake) :
      Restaged connection { connection with lifecycle, shutdown }

/-- A step is one effect, and a change of dates after it. -/
def Steps (connection : VsockConnection) (header : Option VirtioVsockPacketHeader)
    (reply : VsockReply) (next : VsockConnection) : Prop :=
  ∃ middle, connection.Effect header reply middle ∧ middle.Restaged next

variable {connection next : VsockConnection} {header now reply brought}

/-- An effect is a step. -/
theorem Effect.steps (effect : connection.Effect brought reply next) :
    connection.Steps brought reply next :=
  ⟨next, effect, .mk next.lifecycle next.shutdown Iff.rfl⟩

/-- Dates may change again after a step. -/
theorem Steps.restaged {middle} (steps : connection.Steps brought reply middle)
    (restaged : middle.Restaged next) : connection.Steps brought reply next := by
  obtain ⟨first, effect, ⟨lifecycle, shutdown, phase⟩⟩ := steps
  cases restaged with
  | mk later closed laterPhase => exact ⟨first, effect, .mk later closed (laterPhase.trans phase)⟩

section
variable (lifecycle : VsockConnectionLifecycle)
include lifecycle

theorem phase_markLocalClosed :
    (lifecycle.markLocalClosed now).phase = .handshake ↔ lifecycle.phase = .handshake := by
  unfold markLocalClosed armShutdownDeadline
  split
  · next established => split <;> simp [established]
  · rfl

theorem phase_armShutdownDeadline :
    (lifecycle.armShutdownDeadline now).phase = lifecycle.phase := by
  unfold armShutdownDeadline
  split <;> rfl

theorem phase_markLocalShutdownPacketDelivered :
    (lifecycle.markLocalShutdownPacketDelivered now).phase = lifecycle.phase := by
  unfold markLocalShutdownPacketDelivered
  split <;> rfl

end

variable {read}

theorem pollHostRwPayloadsFromStream_effect :
    connection.Effect none .none
      (connection.pollHostRwPayloadsFromStream vsockHostRwPrefetchPayloadLimit read).2 := by
  unfold pollHostRwPayloadsFromStream
  dsimp only
  split
  · exact .stay _
  split
  · exact .request
  rcases read with kind | bytes
  · cases kind <;> exact .stay _
  dsimp only
  split
  · exact .stay _
  split
  · exact .stay _
  next fits =>
    cases reserves : connection.credit.reservePeerBytes (payloadLenU32 bytes.length) with
    | none => exact .stay _
    | some credit => exact .reserve bytes credit (Nat.le_of_not_lt fits) reserves

/-- A poll of the host takes steps. -/
theorem pollHost_steps (polled : connection.pollHost read now = some next) :
    connection.Steps none .none next := by
  have effect : connection.Effect none .none (connection.pollHostRwPayloads read).2 := by
    unfold pollHostRwPayloads
    split
    · exact pollHostRwPayloadsFromStream_effect
    · exact .stay _
  unfold pollHost at polled
  rcases outcome : connection.pollHostRwPayloads read with ⟨noData | queued | closed | failed, after⟩
    <;> rw [outcome] at effect polled <;> cases polled
  · exact effect.steps
  · exact effect.steps
  · exact ⟨after, effect, .mk _ after.shutdown (phase_markLocalClosed _)⟩

/-- A delivered packet takes steps. -/
theorem consumePendingRxPacket_steps {operation}
    (pending : connection.firstPendingOperation = some operation) :
    connection.Steps none (.delivered (connection.pendingRxPacket operation))
      (connection.consumePendingRxPacket operation now) := by
  unfold consumePendingRxPacket
  split
  · exact (Effect.answer (handshake_of_response pending)).steps
  · next localPort requested acknowledged isHost =>
      refine ⟨_, .deliver .request (.host localPort false acknowledged) nofun ?_,
        .mk _ connection.shutdown Iff.rfl⟩
      simp [hostAcknowledged, isHost]
  · obtain ⟨payload, rest, front⟩ := pendingHostRwPayloads_of_rw pending
    exact (Effect.take payload rest front).steps
  · refine ⟨_, .deliver .shutdown connection.handshake nofun rfl, .mk _ connection.shutdown ?_⟩
    rw [phase_markLocalShutdownPacketDelivered]
  · next other _ _ =>
      exact (Effect.deliver _ connection.handshake other rfl).steps

theorem deliver_steps {packet}
    (delivers : connection.deliver now = (packet, next)) :
    connection.Steps none ((packet.map .delivered).getD .none) next := by
  unfold deliver at delivers
  cases pending : connection.firstPendingOperation with
  | none =>
    rw [pending] at delivers
    cases delivers
    exact (Effect.stay none).steps
  | some operation =>
    rw [pending] at delivers
    cases delivers
    exact consumePendingRxPacket_steps pending

theorem flushPendingGuestRwWrites_effect
    (flushed : connection.flushPendingGuestRwWrites = some next) :
    connection.Effect none .none next := by
  unfold flushPendingGuestRwWrites at flushed
  split at flushed
  · cases flushed
    exact .stay none
  split at flushed
  · cases flushed
  · next total pending stream flushes =>
      dsimp only at flushed
      split at flushed
      · cases flushed
      · cases flushed
        exact .flush total pending stream flushes

theorem acknowledged_of_ready (ready : ¬ connection.responseStillPending = true) :
    connection.hostAcknowledged = true := by
  cases opened : connection.handshake with
  | host localPort requested acknowledged =>
    simp only [responseStillPending, isEstablished, opened, Bool.not_eq_true, Bool.not_eq_false',
      Bool.and_eq_true] at ready
    exact ready.2
  | guest responding => simp only [hostAcknowledged, opened]

/-- A forwarded packet has the effect of its outcome. -/
theorem forwardGuestRwPacket_effect {memory segments reserves outcome}
    (forwards : connection.forwardGuestRwPacket header memory segments reserves =
      (outcome, some next)) : connection.Effect (some header) (.rw outcome) next := by
  unfold forwardGuestRwPacket at forwards
  dsimp only at forwards
  split at forwards
  · cases forwards
  next ready =>
    split at forwards
    · cases forwards
      exact .suppress header
    split at forwards
    · cases forwards
    split at forwards
    · cases forwards
    next payload _ =>
      unfold writeGuestRwPayload at forwards
      cases accepts : (connection.refreshPeerCredit header).credit.acceptGuestBytes
        (payloadLenU32 payload.length) with
      | error source =>
        rw [accepts] at forwards
        cases forwards
      | ok credit =>
        rw [accepts] at forwards
        rcases writes : connection.pendingGuestRwWrites.writeOrQueue connection.stream
          reserves.queued payload with ⟨failure | total, pending, stream⟩ <;>
          simp only [refreshPeerCredit, writes] at forwards <;> cases forwards
        exact .write header payload reserves.queued credit total pending stream
          (acknowledged_of_ready ready) accepts writes

theorem acknowledgeGuestResponse_effect
    (acknowledged : connection.acknowledgeGuestResponse header = some next) :
    connection.Effect (some header) .none next := by
  unfold acknowledgeGuestResponse at acknowledged
  dsimp only at acknowledged
  split at acknowledged
  · cases acknowledged
    exact .stay _
  next localPort requested acknowledges isHost =>
    split at acknowledged
    · cases acknowledged
      exact .stay _
    split at acknowledged
    · cases acknowledged
      exact .refresh header
    next silent =>
      rw [Bool.not_eq_true] at silent
      subst silent
      split at acknowledged
      · next written stream writes =>
          split at acknowledged <;> cases acknowledged
          exact .acknowledge header localPort requested written stream isHost writes
      · cases acknowledged

theorem applyGuestShutdownFlags_steps (connection : VsockConnection)
    (header : VirtioVsockPacketHeader) (flags : BitVec 32) :
    connection.Steps (some header) .none
      ((connection.refreshPeerCredit header).applyGuestShutdownFlags flags) := by
  unfold applyGuestShutdownFlags
  dsimp only
  split
  · exact ⟨_, .close header, .mk connection.lifecycle _ Iff.rfl⟩
  · exact ⟨_, .refresh header, .mk connection.lifecycle _ Iff.rfl⟩

/-- A guest shutdown takes steps. -/
theorem shutdownGuestConnectionPacket_steps
    (shuts : connection.shutdownGuestConnectionPacket header now = some next) :
    connection.Steps (some header) .none next := by
  have applies := connection.applyGuestShutdownFlags_steps header
  unfold shutdownGuestConnectionPacket at shuts
  dsimp only at shuts
  split at shuts
  · cases shuts
    exact (Effect.stay _).steps
  split at shuts
  · cases shuts
    exact (Effect.refresh header).steps
  split at shuts
  · split at shuts
    · cases shuts
      exact (applies _).restaged (.mk _ _ (by rw [phase_armShutdownDeadline]))
    split at shuts <;> cases shuts
    exact applies _
  · cases shuts
    exact applies _

/-- A step which keeps the connection has one of the effects. -/
theorem step_effect {event} (steps : connection.step event = (reply, some next)) :
    connection.Steps event.header reply next := by
  cases event with
  | hostReadable read now =>
    obtain ⟨rfl, polled⟩ := Prod.ext_iff.mp steps
    exact pollHost_steps polled
  | deliver now =>
    simp only [step] at steps
    split at steps
    · next packet after delivers =>
        cases steps
        exact deliver_steps delivers
    · next after delivers =>
        cases steps
        exact deliver_steps delivers
  | flush =>
    obtain ⟨rfl, flushed⟩ := Prod.ext_iff.mp steps
    exact (flushPendingGuestRwWrites_effect flushed).steps
  | expire now =>
    simp only [step] at steps
    split at steps <;> cases steps
    exact (Effect.stay none).steps
  | guestResponse header =>
    obtain ⟨rfl, acknowledged⟩ := Prod.ext_iff.mp steps
    exact (acknowledgeGuestResponse_effect acknowledged).steps
  | guestRw header memory segments reserves =>
    obtain ⟨rfl, forwards⟩ := Prod.ext_iff.mp steps
    exact (forwardGuestRwPacket_effect (Prod.ext rfl forwards)).steps
  | guestCreditUpdate header =>
    obtain ⟨rfl, updated⟩ := Prod.ext_iff.mp steps
    cases updated
    unfold consumeCreditUpdatePacket
    split
    · exact (Effect.stay (some header)).steps
    · exact (Effect.refresh header).steps
  | guestCreditRequest header =>
    obtain ⟨rfl, updated⟩ := Prod.ext_iff.mp steps
    cases updated
    unfold queuePendingCreditUpdatePacket
    split
    · exact (Effect.stay (some header)).steps
    · exact (Effect.promise header).steps
  | guestShutdown header now =>
    obtain ⟨rfl, shuts⟩ := Prod.ext_iff.mp steps
    exact shutdownGuestConnectionPacket_steps shuts
  | guestRst header =>
    simp only [step] at steps
    split at steps <;> cases steps
    exact (Effect.stay (some header)).steps

end VsockConnection
end Bangbang.Vsock
