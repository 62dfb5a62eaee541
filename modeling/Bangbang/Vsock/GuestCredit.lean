import Bangbang.Base.Word
import Bangbang.Vsock.PendingWrites
import Bangbang.Vsock.StepEffect

/-!
# Credit of the device

`GuestSide` is the part of a connection which concerns the direction to the host. The bytes
which it accepted are those which the host stream took and, after them, those which are
queued, and the wrapping counters count them. A guest which computes its credit from the
counters in the packets of the device stays within the 64 KiB of the device, so its data is
refused only when a blocked host stream has left four payloads in the queue.
-/

namespace Bangbang.Vsock

open List

/-- The direction to the host. -/
structure GuestSide where
  (received forwarded : BitVec 32)
  pending : VsockGuestRwPendingWrites
  stream : HostStream
  acknowledged : Bool

/-- The two counters of the direction to the host. -/
def VsockConnectionCredit.counters (credit : VsockConnectionCredit) : BitVec 32 × BitVec 32 :=
  (credit.receivedCount, credit.forwardedCount)

namespace VsockConnectionCredit

variable {credit next : VsockConnectionCredit} {len}

@[simp] theorem counters_refreshPeer (header : VirtioVsockPacketHeader) :
    (credit.refreshPeer header).counters = credit.counters := by
  unfold refreshPeer
  dsimp only
  split <;> rfl

@[simp] theorem counters_ensureCreditRequestIfExhausted :
    credit.ensureCreditRequestIfExhausted.counters = credit.counters := by
  unfold ensureCreditRequestIfExhausted
  split <;> rfl

@[simp] theorem counters_markPacketDelivered (operation : VsockOperation) :
    (credit.markPacketDelivered operation).counters = credit.counters := rfl

@[simp] theorem counters_queueCreditUpdatePacket :
    credit.queueCreditUpdatePacket.counters = credit.counters := rfl

theorem counters_reservePeerBytes (reserved : credit.reservePeerBytes len = some next) :
    next.counters = credit.counters := by
  simp only [reservePeerBytes, Option.bind_eq_bind, Option.bind_eq_some_iff, guard_eq_some,
    Option.pure_def, Option.some.injEq, exists_const] at reserved
  obtain ⟨_, _, rfl⟩ := reserved
  exact counters_ensureCreditRequestIfExhausted

@[simp] theorem counters_commitReservedPeerBytes :
    ((credit.commitReservedPeerBytes len).getD credit).counters = credit.counters := by
  cases committed : credit.commitReservedPeerBytes len with
  | none => rfl
  | some next =>
    simp only [commitReservedPeerBytes, Option.bind_eq_bind, Option.bind_eq_some_iff,
      guard_eq_some, Option.pure_def, Option.some.injEq, exists_const] at committed
    obtain ⟨_, rfl⟩ := committed
    exact counters_ensureCreditRequestIfExhausted

@[simp] theorem counters_releaseReservedPeerBytes :
    ((credit.releaseReservedPeerBytes len).getD credit).counters = credit.counters := by
  cases released : credit.releaseReservedPeerBytes len with
  | none => rfl
  | some next =>
    simp only [releaseReservedPeerBytes, Option.bind_eq_bind, Option.bind_eq_some_iff,
      guard_eq_some, Option.pure_def, Option.some.injEq, exists_const] at released
    obtain ⟨_, rfl⟩ := released
    rfl

end VsockConnectionCredit

namespace GuestSide

/-- What a step may do, with the number of bytes which it accepted from the guest. -/
inductive Move (side : GuestSide) : Nat → GuestSide → Prop
  | stay : Move side 0 side
  | acknowledge (stream : HostStream) (line : List UInt8) (silent : side.acknowledged = false)
      (taken : stream.accepted = side.stream.accepted ++ line) :
      Move side 0 { side with stream, acknowledged := true }
  | flush (total : Nat) (pending : VsockGuestRwPendingWrites) (stream : HostStream)
      (flushes : side.pending.flush side.stream = (.ok total, pending, stream)) :
      Move side 0 { side with
        pending
        stream
        forwarded := side.forwarded + BitVec.ofNat 32 total }
  | write (payload : List UInt8) (reserves : Bool) (total : Nat)
      (pending : VsockGuestRwPendingWrites) (stream : HostStream)
      (acknowledged : side.acknowledged = true)
      (writes : side.pending.writeOrQueue side.stream reserves payload =
        (.ok total, pending, stream)) :
      Move side payload.length { side with
        pending
        stream
        received := side.received + BitVec.ofNat 32 payload.length
        forwarded := side.forwarded + BitVec.ofNat 32 total }

theorem Move.congr {side next final : GuestSide} {bytes} (move : side.Move bytes next)
    (same : final = next) : side.Move bytes final := by
  rw [same]
  exact move

/-- The guest sent `received`, and the host stream has taken `forwarded` of it. -/
structure Accounts (side : GuestSide) (received forwarded : List UInt8) : Prop where
  wellFormed : side.pending.WellFormed
  receives : Counts side.received received.length
  forwards : Counts side.forwarded forwarded.length
  divides : received = forwarded ++ side.pending.queued
  /-- The host stream starts with the line which opens a connection of the host. -/
  taken : ∃ opening, side.stream.accepted = opening ++ forwarded
  silent : side.acknowledged = false → received = []

variable {side next : GuestSide} {received forwarded bytes}

/-- A move is accounted for. -/
theorem Accounts.moves (accounts : side.Accounts received forwarded)
    (move : side.Move bytes next) :
    ∃ payload more, payload.length = bytes ∧
      next.Accounts (received ++ payload) (forwarded ++ more) := by
  obtain ⟨wellFormed, receives, forwards, divides, ⟨opening, taken⟩, silent⟩ := accounts
  cases move with
  | stay =>
    refine ⟨[], [], rfl, ?_⟩
    rw [append_nil, append_nil]
    exact ⟨wellFormed, receives, forwards, divides, ⟨opening, taken⟩, silent⟩
  | acknowledge stream line isSilent takes =>
    -- Nothing was received before the host was told, so the line is not among data.
    have nothing := silent isSilent
    have noneTaken : forwarded = [] := by
      rw [nothing] at divides
      exact (append_eq_nil_iff.mp divides.symm).1
    refine ⟨[], [], rfl, ?_⟩
    rw [append_nil, append_nil]
    refine ⟨wellFormed, receives, forwards, divides, ⟨opening ++ line, ?_⟩, nofun⟩
    rw [takes, taken, noneTaken, append_nil, append_nil]
  | flush total pending stream flushes =>
    have flushed := side.pending.flush_flushed wellFormed side.stream
    rw [flushes] at flushed
    obtain ⟨wellFormedNext, _, more, takes, split, isTotal⟩ := flushed
    rw [Nat.zero_add] at isTotal
    subst isTotal
    refine ⟨[], more, rfl, ?_⟩
    rw [append_nil]
    refine ⟨wellFormedNext, receives, ?_, ?_, ⟨opening, ?_⟩, silent⟩
    · rw [length_append]
      exact forwards.add _
    · rw [append_assoc, split, divides]
    · rw [takes, taken, append_assoc]
  | write payload reserves total pending stream acknowledged writes =>
    have outcome := side.pending.writeOrQueue_forwarded wellFormed side.stream reserves payload
    rw [writes] at outcome
    obtain ⟨wellFormedNext, more, takes, split, isTotal⟩ := outcome
    subst isTotal
    refine ⟨payload, more, rfl, wellFormedNext, ?_, ?_, ?_, ⟨opening, ?_⟩, ?_⟩
    · rw [length_append]
      exact receives.add _
    · rw [length_append]
      exact forwards.add _
    · rw [append_assoc, split, divides, append_assoc]
    · rw [takes, taken, append_assoc]
    · intro isSilent
      rw [acknowledged] at isSilent
      cases isSilent

end GuestSide

/-- What a connection keeps of the guest's bytes. -/
def VsockConnection.guestSide (connection : VsockConnection) : GuestSide where
  received := connection.credit.receivedCount
  forwarded := connection.credit.forwardedCount
  pending := connection.pendingGuestRwWrites
  stream := connection.stream
  acknowledged := connection.hostAcknowledged

open VsockConnectionCredit

/-- The bytes of a guest packet which a step accepted. -/
def VsockReply.receivedBytes : VsockReply → Nat
  | .rw (.forwarded bytes) => bytes
  | _ => 0

namespace VsockConnection

open GuestSide

variable {connection next : VsockConnection} {header} {now : Nat}

theorem guestSide_congr (counters : next.credit.counters = connection.credit.counters)
    (pending : next.pendingGuestRwWrites = connection.pendingGuestRwWrites)
    (stream : next.stream = connection.stream)
    (acknowledged : next.hostAcknowledged = connection.hostAcknowledged) :
    next.guestSide = connection.guestSide := by
  obtain ⟨received, forwarded⟩ := Prod.ext_iff.mp counters
  change next.credit.receivedCount = connection.credit.receivedCount at received
  change next.credit.forwardedCount = connection.credit.forwardedCount at forwarded
  simp only [guestSide, received, forwarded, pending, stream, acknowledged]

@[simp] theorem guestSide_refreshPeerCredit (header : VirtioVsockPacketHeader) :
    (connection.refreshPeerCredit header).guestSide = connection.guestSide :=
  guestSide_congr (counters_refreshPeer header) rfl rfl rfl

variable {reply}

/-- Every effect is a move of the guest's side. -/
theorem Effect.moves_guestSide {brought}
    (effect : connection.Effect brought reply next) :
    connection.guestSide.Move reply.receivedBytes next.guestSide := by
  cases effect with
  | stay | suppress => exact .stay
  | refresh header => exact Move.stay.congr (guestSide_refreshPeerCredit header)
  | promise | close | request => exact Move.stay.congr (guestSide_congr (by simp) rfl rfl rfl)
  | reserve bytes credit short reserves =>
    exact Move.stay.congr
      (guestSide_congr (counters_reservePeerBytes reserves) rfl rfl rfl)
  | answer asked =>
    refine Move.stay.congr (guestSide_congr (by simp) rfl rfl ?_)
    simp [hostAcknowledged, asked]
  | take payload rest front =>
    refine Move.stay.congr ?_
    rw [takePendingHostRwPayload, front]
    exact guestSide_congr (by simp) rfl rfl rfl
  | deliver operation handshake other same =>
    exact Move.stay.congr (guestSide_congr (by simp) rfl rfl same)
  | flush total pending stream flushes => exact .flush total pending stream flushes
  | write header payload reserves credit total pending stream acknowledged accepts writes =>
    simp only [acceptGuestBytes, bind_eq_ok, pure_eq_ok] at accepts
    obtain ⟨_, _, rfl⟩ := accepts
    have written : connection.guestSide.Move payload.length _ :=
      .write payload reserves total pending stream acknowledged writes
    refine written.congr ?_
    have counters : (connection.credit.refreshPeer header).counters = connection.credit.counters :=
      counters_refreshPeer header
    obtain ⟨received, forwarded⟩ := Prod.ext_iff.mp counters
    change _ = connection.credit.receivedCount at received
    change _ = connection.credit.forwardedCount at forwarded
    simp only [guestSide, recordForwardedBytes, payloadLenU32,
      forwardedByteCountU32, hostAcknowledged]
    rw [← received, ← forwarded]
    rfl
  | acknowledge header localPort requested written stream silent writes =>
    have isSilent : connection.guestSide.acknowledged = false := by
      simp [guestSide, hostAcknowledged, silent]
    have told : connection.guestSide.Move 0 (guestSide { connection with
        handshake := .host localPort requested true, stream }) :=
      .acknowledge stream _ isSilent (HostStream.accepted_of_write writes)
    exact told.congr (guestSide_congr (by simp) rfl rfl rfl)

/-- Every step is a move of the guest's side. -/
theorem step_moves_guestSide {event} (steps : connection.step event = (reply, some next)) :
    connection.guestSide.Move reply.receivedBytes next.guestSide := by
  obtain ⟨middle, effect, ⟨lifecycle, shutdown, -⟩⟩ := step_effect steps
  have moves := effect.moves_guestSide
  exact moves

end VsockConnection

open VsockConnection

namespace GuestSide.Accounts

variable {connection : VsockConnection} {received forwarded : List UInt8}

variable (accounts : connection.guestSide.Accounts received forwarded)
include accounts

/-- What is outstanding is what is queued. -/
theorem localOutstandingBytes_eq (small : connection.pendingGuestRwWrites.queued.length < 2 ^ 32) :
    connection.credit.localOutstandingBytes = connection.pendingGuestRwWrites.queued.length := by
  have total : received.length = forwarded.length +
      connection.pendingGuestRwWrites.queued.length := by
    rw [accounts.divides, length_append]
    rfl
  change (connection.guestSide.received - connection.guestSide.forwarded).toNat = _
  rw [accounts.receives.toNat_sub accounts.forwards (by omega) (by omega)]
  omega

/-- Data which fits beside what is queued is within the credit. -/
theorem checkGuestBytes_eq {len}
    (fits : connection.pendingGuestRwWrites.queued.length + len.toNat ≤
      virtioVsockConnectionBufferSize) : connection.credit.checkGuestBytes len = .ok () := by
  have limit : virtioVsockConnectionBufferSize = 65536 := rfl
  rw [checkGuestBytes, rejectIf_eq_ok,
    localAvailableCredit, accounts.localOutstandingBytes_eq (by omega)]
  omega

end GuestSide.Accounts

namespace VsockConnection

variable {connection next : VsockConnection} {received forwarded : List UInt8}

/-- The reasons for which the data of a guest within its credit may be refused: none of the
limits, except that four payloads are left in the queue when it has been flushed. -/
structure Excuses (connection : VsockConnection) (source : VsockGuestRwForwardError) : Prop where
  credit : ∀ available requested, source ≠ .creditExceeded available requested
  bytes : ∀ limit attempted, source ≠ .pendingBufferByteLimit limit attempted
  packets : ∀ limit, source = .pendingBufferFull limit → ∃ total flushed stream,
    connection.pendingGuestRwWrites.flush connection.stream = (.ok total, flushed, stream) ∧
      vsockGuestRwPendingPacketLimit ≤ flushed.payloads.length

theorem length_readVsockTxPayloadBytes {reserves memory payloadLen segments payload}
    (read : readVsockTxPayloadBytes reserves memory payloadLen segments = .ok payload) :
    payload.length = payloadLen := by
  simp only [readVsockTxPayloadBytes, bind_eq_ok, rejectIf_eq_ok, pure_eq_ok, not_not,
    exists_const] at read
  obtain ⟨_, _, _, same, rfl⟩ := read
  exact same

theorem excuses_readPayloadSegments {memory payloadLen payload segments source}
    (failed : readPayloadSegments memory payloadLen payload segments = .error source) :
    connection.Excuses source := by
  induction segments generalizing payload with
  | nil => cases failed
  | cons segment segments ih =>
    simp only [readPayloadSegments, bind_eq_error, rejectIf_eq_error] at failed
    rcases failed with ⟨_, rfl⟩ | ⟨_, _, unread | ⟨_, _, later⟩⟩
    · exact ⟨by simp, by simp, by simp⟩
    · rcases found : Virtio.readBytes memory segment.address segment.len with error | bytes
      · rw [found] at unread
        cases unread
        exact ⟨by simp, by simp, by simp⟩
      · rw [found] at unread
        cases unread
    · exact ih later

theorem excuses_readVsockTxPayloadBytes {reserves memory payloadLen segments source}
    (failed : readVsockTxPayloadBytes reserves memory payloadLen segments = .error source) :
    connection.Excuses source := by
  simp only [readVsockTxPayloadBytes, bind_eq_error, rejectIf_eq_error] at failed
  rcases failed with ⟨_, rfl⟩ | ⟨_, _, unread | ⟨_, _, ⟨_, rfl⟩ | ⟨_, _, impossible⟩⟩⟩
  · exact ⟨by simp, by simp, by simp⟩
  · exact excuses_readPayloadSegments unread
  · exact ⟨by simp, by simp, by simp⟩
  · cases impossible

section
variable (accounts : connection.guestSide.Accounts received forwarded)
include accounts

/-- A write which fits fails only with an excuse. -/
theorem excuses_writeGuestRwPayload {reserves payload failure}
    (fits : connection.pendingGuestRwWrites.queued.length + payload.length ≤
      virtioVsockConnectionBufferSize)
    (failed : connection.writeGuestRwPayload reserves payload = (.error failure, next)) :
    connection.Excuses failure.source := by
  have limit : virtioVsockConnectionBufferSize = 65536 := rfl
  have accepts : connection.credit.acceptGuestBytes (payloadLenU32 payload.length) =
      .ok { connection.credit with
        receivedCount := connection.credit.receivedCount + payloadLenU32 payload.length } := by
    have length : (payloadLenU32 payload.length).toNat = payload.length :=
      (BitVec.toNat_ofNat _ _).trans (Nat.mod_eq_of_lt (by omega))
    rw [acceptGuestBytes, accounts.checkGuestBytes_eq (by omega)]
    rfl
  have outcome := connection.pendingGuestRwWrites.writeOrQueue_forwarded accounts.wellFormed
    connection.stream reserves payload
  unfold writeGuestRwPayload at failed
  rw [accepts] at failed
  dsimp only at failed
  split at failed
  · cases failed
  · next writes =>
      cases failed
      rw [writes] at outcome
      rcases outcome with isWrite | ⟨_, noMemory⟩ | ⟨full, _, total, flushed, after, flushes, four⟩ |
        heavy
      · refine ⟨?_, ?_, ?_⟩
        · intro available requested isCredit
          rw [isCredit] at isWrite
          cases isWrite
        · intro limit attempted isBytes
          rw [isBytes] at isWrite
          cases isWrite
        · intro limit isFull
          rw [isFull] at isWrite
          cases isWrite
      · rw [noMemory]
        exact ⟨nofun, nofun, nofun⟩
      · rw [full]
        exact ⟨nofun, nofun, fun _ _ => ⟨total, flushed, after, flushes, four⟩⟩
      · omega

/-- A packet which fits is dropped only with an excuse. -/
theorem excuses_forwardGuestRwPacket {header memory segments reserves source reset gone}
    (fits : connection.pendingGuestRwWrites.queued.length + header.payloadLen.toNat ≤
      virtioVsockConnectionBufferSize)
    (drops : connection.forwardGuestRwPacket header memory segments reserves =
      (.dropped source reset, gone)) : connection.Excuses source := by
  have refreshed : (connection.refreshPeerCredit header).guestSide.Accounts received forwarded := by
    rw [guestSide_refreshPeerCredit]
    exact accounts
  unfold forwardGuestRwPacket at drops
  dsimp only at drops
  split at drops
  · cases drops
    exact ⟨nofun, nofun, nofun⟩
  split at drops
  · cases drops
  rw [refreshed.checkGuestBytes_eq fits] at drops
  dsimp only at drops
  split at drops
  · next unread =>
      cases drops
      exact excuses_readVsockTxPayloadBytes unread
  · next payload read =>
      have length := length_readVsockTxPayloadBytes read
      split at drops
      · cases drops
      · next failed =>
          cases drops
          obtain ⟨credit, bytes, packets⟩ :=
            excuses_writeGuestRwPayload refreshed (length ▸ fits) failed
          exact ⟨credit, bytes, packets⟩

end

/-- Data is forwarded whole, and its connection stays. -/
theorem forwarded_eq {header memory segments reserves bytes after}
    (forwards : connection.forwardGuestRwPacket header memory segments reserves =
      (.forwarded bytes, after)) : bytes = header.payloadLen.toNat ∧ after.isSome := by
  unfold forwardGuestRwPacket at forwards
  dsimp only at forwards
  split at forwards
  · cases forwards
  split at forwards
  · cases forwards
  split at forwards
  · cases forwards
  split at forwards
  · cases forwards
  next read =>
    split at forwards <;> cases forwards
    exact ⟨length_readVsockTxPayloadBytes read, rfl⟩

end VsockConnection

/-- The bytes which the guest sends. -/
def VsockEvent.sentBytes : VsockEvent → Nat
  | .guestRw header _ _ _ => header.payloadLen.toNat
  | _ => 0

/-- The forwarded count which a packet of the device carries. -/
def VsockReply.forwardedCount : VsockReply → Option (BitVec 32)
  | .delivered packet => some packet.forwardedCount
  | _ => .none

/-- A connection and the data which the guest sends on it. -/
structure GuestLink where
  connection : Option VsockConnection
  /-- The bytes which the guest has sent. -/
  sent : Nat
  /-- The bytes which the device has accepted. -/
  received : Nat
  /-- The forwarded count in the last packet which the guest got. -/
  lastForwarded : BitVec 32

namespace GuestLink

/-- An event, with what it adds to the counts. -/
def act (link : GuestLink) (event : VsockEvent) : VsockReply × GuestLink :=
  match link.connection with
  | none => (.none, link)
  | some connection =>
    let (reply, next) := connection.step event
    (reply, {
      connection := next
      sent := link.sent + event.sentBytes
      received := link.received + reply.receivedBytes
      lastForwarded := reply.forwardedCount.getD link.lastForwarded })

/-- A run of events. -/
def run (link : GuestLink) (events : List VsockEvent) : GuestLink :=
  events.foldl (fun link event => (link.act event).2) link

/-- A packet with data stays within the buffer of the device, as the guest computes it from
its own counter and the last count which it got. -/
def Respects (link : GuestLink) : VsockEvent → Prop
  | .guestRw header _ _ _ =>
    (BitVec.ofNat 32 link.sent - link.lastForwarded).toNat + header.payloadLen.toNat ≤
      virtioVsockConnectionBufferSize
  | _ => True

instance (link : GuestLink) : (event : VsockEvent) → Decidable (link.Respects event)
  | .guestRw _ _ _ _ => inferInstanceAs (Decidable (_ ≤ _))
  | .hostReadable _ _ | .deliver _ | .flush | .expire _ | .guestResponse _ | .guestCreditUpdate _
  | .guestCreditRequest _ | .guestShutdown _ _ | .guestRst _ => .isTrue trivial

/-- The guest stays within its credit in a run. -/
def RespectsAll (link : GuestLink) : List VsockEvent → Prop
  | [] => True
  | event :: events => link.Respects event ∧ (link.act event).2.RespectsAll events

instance decidableRespectsAll :
    (link : GuestLink) → (events : List VsockEvent) → Decidable (link.RespectsAll events)
  | _, [] => .isTrue trivial
  | link, event :: events =>
    have := decidableRespectsAll (link.act event).2 events
    inferInstanceAs (Decidable (_ ∧ _))

/-- The connection has just been opened. -/
inductive Opened : GuestLink → Prop
  | host (localPort : Nat) (stream : HostStream) :
      Opened ⟨some (.fromAccepted localPort stream), 0, 0, 0⟩
  | guest (stream : HostStream) (requestHeader : VirtioVsockPacketHeader) :
      Opened ⟨some (.fromStream stream requestHeader), 0, 0, 0⟩

/-- The guest was told of `seen` bytes, and what it sent beyond them fits the buffer. -/
structure Solvent (link : GuestLink) (received forwarded : List UInt8) (seen : Nat) : Prop where
  accepted : received.length = link.received
  told : Counts link.lastForwarded seen
  seen_le : seen ≤ forwarded.length
  received_le : received.length ≤ link.sent
  forwarded_le : forwarded.length ≤ received.length
  within : link.sent ≤ seen + virtioVsockConnectionBufferSize
  accounts : ∀ connection ∈ link.connection, connection.guestSide.Accounts received forwarded

variable {link : GuestLink} {event : VsockEvent} {received forwarded : List UInt8} {seen}
  {connection : VsockConnection}

theorem Opened.solvent (opened : link.Opened) : link.Solvent [] [] 0 := by
  cases opened with
  | host localPort stream =>
    refine ⟨rfl, .zero, le_rfl, le_rfl, le_rfl, Nat.zero_le _, ?_⟩
    rintro _ ⟨⟩
    exact ⟨.new, .zero, .zero, rfl, ⟨stream.accepted, (append_nil _).symm⟩,
      fun _ => rfl⟩
  | guest stream requestHeader =>
    refine ⟨rfl, .zero, le_rfl, le_rfl, le_rfl, Nat.zero_le _, ?_⟩
    rintro _ ⟨⟩
    have same : (fromStream stream requestHeader).guestSide =
        ⟨0, 0, .new, stream, true⟩ := by
      have counters : (new.refreshPeer requestHeader).counters = (0, 0) :=
        counters_refreshPeer requestHeader
      obtain ⟨received, forwarded⟩ := Prod.ext_iff.mp counters
      simp only [guestSide, fromStream, fromPeerHeader]
      congr
    rw [same]
    exact ⟨.new, .zero, .zero, rfl, ⟨stream.accepted, (append_nil _).symm⟩, fun _ => rfl⟩

/-- A guest within its credit sends no more than the queue has room for. -/
theorem Solvent.fits (solvent : link.Solvent received forwarded seen)
    (respects : link.Respects event) :
    link.sent + event.sentBytes ≤ seen + virtioVsockConnectionBufferSize := by
  obtain ⟨_, told, seen_le, received_le, forwarded_le, within, _⟩ := solvent
  have limit : virtioVsockConnectionBufferSize = 65536 := rfl
  cases event with
  | guestRw header memory segments reserves =>
    have counts : Counts (BitVec.ofNat 32 link.sent) link.sent := rfl
    change (BitVec.ofNat 32 link.sent - link.lastForwarded).toNat + _ ≤ _ at respects
    rw [counts.toNat_sub told (by omega) (by omega)] at respects
    change link.sent + header.payloadLen.toNat ≤ _
    omega
  | _ => exact within

variable {next : Option VsockConnection} {reply : VsockReply}

theorem act_of_step (present : link.connection = some connection)
    (steps : connection.step event = (reply, next)) :
    link.act event = (reply, ⟨next, link.sent + event.sentBytes,
      link.received + reply.receivedBytes, reply.forwardedCount.getD link.lastForwarded⟩) := by
  rw [act, present]
  dsimp only
  rw [steps]

section
variable (steps : connection.step event = (reply, next))
include steps

/-- Only a packet with data is received, and its connection stays. -/
theorem receivedBytes_cases :
    reply.receivedBytes = 0 ∨ reply.receivedBytes = event.sentBytes ∧ next.isSome := by
  cases event with
  | guestRw header memory segments reserves =>
    rw [step] at steps
    rcases outcome : connection.forwardGuestRwPacket header memory segments reserves with
      ⟨forwarded | suppressed | dropped, after⟩ <;> rw [outcome] at steps <;> cases steps
    · exact .inr (forwarded_eq outcome)
    · exact .inl rfl
    · exact .inl rfl
  | deliver | expire | guestRst =>
    simp only [step] at steps
    split at steps <;> cases steps <;> exact .inl rfl
  | _ =>
    obtain ⟨rfl, _⟩ := Prod.ext_iff.mp steps
    exact .inl rfl

/-- Every packet of the device carries its counter. -/
theorem forwardedCount_eq {count} (carries : reply.forwardedCount = some count) :
    count = connection.credit.forwardedCount := by
  cases event with
  | deliver now =>
    simp only [step, deliver] at steps
    cases pending : connection.firstPendingOperation with
    | none =>
      rw [pending] at steps
      cases steps
      cases carries
    | some operation =>
      rw [pending] at steps
      cases steps
      cases carries
      rfl
  | expire | guestRst =>
    simp only [step] at steps
    split at steps <;> cases steps <;> cases carries
  | _ =>
    obtain ⟨rfl, _⟩ := Prod.ext_iff.mp steps
    cases carries

end

/-- The bytes of a connection after a step, which keeps it or removes it. -/
theorem accounts_step (accounts : connection.guestSide.Accounts received forwarded)
    (steps : connection.step event = (reply, next)) :
    ∃ received' forwarded', received'.length = received.length + reply.receivedBytes ∧
      forwarded.length ≤ forwarded'.length ∧ forwarded'.length ≤ received'.length ∧
      ∀ after ∈ next, after.guestSide.Accounts received' forwarded' := by
  have ordered : ∀ {side : GuestSide} {received forwarded : List UInt8},
      side.Accounts received forwarded → forwarded.length ≤ received.length := by
    intro side received forwarded accounts
    rw [accounts.divides, length_append]
    exact Nat.le_add_right _ _
  cases next with
  | none =>
    refine ⟨received, forwarded, ?_, le_rfl, ordered accounts, fun _ absent => by cases absent⟩
    rcases receivedBytes_cases steps with nothing | ⟨_, stays⟩
    · rw [nothing, Nat.add_zero]
    · cases stays
  | some next =>
    obtain ⟨payload, more, length, after⟩ :=
      accounts.moves (connection.step_moves_guestSide steps)
    refine ⟨received ++ payload, forwarded ++ more, ?_, ?_, ordered after, ?_⟩
    · rw [length_append, length]
    · rw [length_append]
      exact Nat.le_add_right _ _
    · rintro _ ⟨⟩
      exact after

section
variable (solvent : link.Solvent received forwarded seen)
include solvent

/-- Every act keeps the link solvent. -/
theorem Solvent.act (respects : link.Respects event) :
    ∃ received forwarded seen, (link.act event).2.Solvent received forwarded seen := by
  have fits := solvent.fits respects
  cases present : link.connection with
  | none =>
    rw [GuestLink.act, present]
    exact ⟨received, forwarded, seen, solvent⟩
  | some connection =>
    rcases steps : connection.step event with ⟨reply, next⟩
    rw [act_of_step present steps]
    have accounts := solvent.accounts connection present
    have atMost : reply.receivedBytes ≤ event.sentBytes := by
      rcases receivedBytes_cases steps with nothing | ⟨whole, _⟩ <;> omega
    obtain ⟨received', forwarded', length, more, ordered, after⟩ := accounts_step accounts steps
    obtain ⟨accepted, told, seen_le, received_le, _, _, _⟩ := solvent
    have accepted' : received'.length = link.received + reply.receivedBytes := by omega
    have received_le' : received'.length ≤ link.sent + event.sentBytes := by omega
    cases carries : reply.forwardedCount with
    | none =>
      exact ⟨received', forwarded', seen,
        ⟨accepted', told, by omega, received_le', ordered, fits, after⟩⟩
    | some count =>
      -- The guest now knows all that was forwarded before the packet.
      have isCount := forwardedCount_eq steps carries
      subst isCount
      have fitsMore : link.sent + event.sentBytes ≤
          forwarded.length + virtioVsockConnectionBufferSize := by omega
      exact ⟨received', forwarded', forwarded.length,
        ⟨accepted', accounts.forwards, more, received_le', ordered, fitsMore, after⟩⟩

/-- Every run keeps the link solvent. -/
theorem Solvent.run {events} (respects : link.RespectsAll events) :
    ∃ received forwarded seen, (link.run events).Solvent received forwarded seen := by
  induction events generalizing link received forwarded seen with
  | nil => exact ⟨received, forwarded, seen, solvent⟩
  | cons event events ih =>
    obtain ⟨_, _, _, after⟩ := solvent.act respects.1
    exact ih after respects.2

end

/-- The bytes which are queued for the host are those which were received and are not yet
forwarded, for the counters of the connection as well. -/
structure Balances (connection : VsockConnection) (total : Nat) : Prop where
  outstanding : connection.credit.localOutstandingBytes =
    connection.pendingGuestRwWrites.queued.length
  pendingBytes : connection.pendingGuestRwWrites.pendingBytes =
    connection.pendingGuestRwWrites.queued.length
  ordered : ∃ opening received forwarded, received.length = total ∧
    received = forwarded ++ connection.pendingGuestRwWrites.queued ∧
      connection.stream.accepted = opening ++ forwarded

/-- A solvent link is balanced. -/
theorem Solvent.balances (solvent : link.Solvent received forwarded seen)
    (present : link.connection = some connection) : Balances connection link.received := by
  have limit : virtioVsockConnectionBufferSize = 65536 := rfl
  obtain ⟨accepted, _, seen_le, received_le, _, within, accounts⟩ := solvent
  have account := accounts connection present
  have total : received.length = forwarded.length +
      connection.pendingGuestRwWrites.queued.length := by
    rw [account.divides, length_append]
    rfl
  obtain ⟨opening, taken⟩ := account.taken
  exact ⟨account.localOutstandingBytes_eq (by omega), account.wellFormed.pendingBytes_eq,
    opening, received, forwarded, accepted, account.divides, taken⟩

/-- Only a packet with data is refused. -/
theorem dropped_of_step {source reset}
    (steps : connection.step event = (.rw (.dropped source reset), next)) :
    ∃ header memory segments reserves, event = .guestRw header memory segments reserves ∧
      connection.forwardGuestRwPacket header memory segments reserves =
        (.dropped source reset, next) := by
  cases event with
  | guestRw header memory segments reserves =>
    obtain ⟨outcome, after⟩ := Prod.ext_iff.mp steps
    exact ⟨header, memory, segments, reserves, rfl, Prod.ext (VsockReply.rw.inj outcome) after⟩
  | deliver | expire | guestRst =>
    simp only [step] at steps
    split at steps <;> cases steps
  | _ => cases steps

/-- What is sent within the credit fits beside what is queued. -/
theorem Solvent.room (solvent : link.Solvent received forwarded seen)
    (present : link.connection = some connection) (respects : link.Respects event) :
    connection.pendingGuestRwWrites.queued.length + event.sentBytes ≤
      virtioVsockConnectionBufferSize := by
  have fits := solvent.fits respects
  obtain ⟨_, _, seen_le, received_le, _, _, accounts⟩ := solvent
  have total : received.length = forwarded.length +
      connection.pendingGuestRwWrites.queued.length := by
    rw [(accounts connection present).divides, length_append]
    rfl
  omega

/-- The data of a guest which respects its credit is refused for no limit but that of four
queued payloads, whatever the host stream does, and the queue holds what was received and
is not yet forwarded. -/
theorem guest_credit_respected (link : GuestLink) (opened : link.Opened) (events : List VsockEvent)
    (respects : link.RespectsAll events) :
    (∀ connection ∈ (link.run events).connection, Balances connection (link.run events).received) ∧
    (∀ event source reset, (link.run events).Respects event →
      ((link.run events).act event).1 = .rw (.dropped source reset) →
        ∃ connection ∈ (link.run events).connection, connection.Excuses source) ∧
    ∀ connection ∈ (link.run events).connection, ∀ failure pending stream,
      connection.pendingGuestRwWrites.flush connection.stream = (.error failure, pending, stream) →
        failure.source.isStreamWriteFailure := by
  obtain ⟨received, forwarded, seen, solvent⟩ := opened.solvent.run respects
  refine ⟨fun connection present => solvent.balances present, ?_, ?_⟩
  · intro event source reset respectsNext drops
    cases present : (link.run events).connection with
    | none =>
      rw [act, present] at drops
      cases drops
    | some connection =>
      refine ⟨connection, rfl, ?_⟩
      rcases steps : connection.step event with ⟨reply, next⟩
      rw [act_of_step present steps] at drops
      subst drops
      obtain ⟨header, memory, segments, reserves, rfl, outcome⟩ := dropped_of_step steps
      exact excuses_forwardGuestRwPacket (solvent.accounts connection present)
        (solvent.room present respectsNext) outcome
  · intro connection present failure pending stream fails
    have flushed := connection.pendingGuestRwWrites.flush_flushed
      (solvent.accounts connection present).wellFormed connection.stream
    rw [fails] at flushed
    exact flushed

section

open Memory

/-- A memory of one page, whose first byte is sent. -/
def onePage : GuestMemory :=
  { GuestMemory.emptyWithBacking .anonymous with
    regions := [⟨⟨0, 0x1000, (by decide : 1 ≤ 0x1000), (by decide : 0x1000 < 2 ^ 64)⟩, ⟨0, 0x1000⟩, 0,
      0x1000⟩] }

def oneByte : VsockEvent :=
  .guestRw ⟨1, 0, 0x10000, 0⟩ onePage [⟨0, 0, 1⟩] ⟨true, true⟩

/-- The guest opens a connection to a host which accepts the first `writes`. -/
def openedWith (writes : List (Except ErrorKind Nat)) : GuestLink :=
  ⟨some (.fromStream ⟨writes, []⟩ ⟨0, 0, 0x10000, 0⟩), 0, 0, 0⟩

/-- The host stream blocks, and the fifth byte of a guest far within its credit ends the
connection. -/
theorem fifth_byte_dropped :
    let link := (openedWith []).run [.deliver 0, oneByte, oneByte, oneByte, oneByte]
    (openedWith []).RespectsAll [.deliver 0, oneByte, oneByte, oneByte, oneByte, oneByte] ∧
      (link.act oneByte).1 = .rw (.dropped (.pendingBufferFull 4) ⟨.rst, 0x10000, 0, []⟩) ∧
      (link.act oneByte).2.connection.isNone := by
  decide +kernel

/-- A host stream which takes one byte leaves one of two bytes in the queue. -/
theorem one_byte_queued :
    ∃ connection, ((openedWith [.ok 1]).run [.deliver 0, oneByte, oneByte]).connection =
      some connection ∧ Balances connection 2 := by
  have respects : (openedWith [.ok 1]).RespectsAll [.deliver 0, oneByte, oneByte] := by
    decide +kernel
  have received : ((openedWith [.ok 1]).run [.deliver 0, oneByte, oneByte]).received = 2 := by
    decide +kernel
  have stays : ((openedWith [.ok 1]).run [.deliver 0, oneByte, oneByte]).connection.isSome := by
    decide +kernel
  obtain ⟨connection, present⟩ := Option.isSome_iff_exists.mp stays
  refine ⟨connection, present, ?_⟩
  exact (guest_credit_respected _ (.guest _ _) _ respects).1 connection present

end
end GuestLink
end Bangbang.Vsock
