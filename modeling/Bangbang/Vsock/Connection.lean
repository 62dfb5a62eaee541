import Bangbang.Virtio.Queue

/-!
# Vsock connections

A retained connection joins a stream of the host to a stream of the guest. It counts the
bytes of both directions in wrapping 32-bit counters, queues what the other side cannot take
yet, and reports its counters to the guest in every header. A connection which the host
opened and one which the guest opened differ in their handshake only. `step` is what the
device does to one connection: the tables, the addressing of packets and the queue of
expiring connections only choose which connection takes a step. The host stream answers the
writes from a list, and blocks when the list is over; what a read returned is part of the
step. An instant is a number of nanoseconds.
-/

namespace Bangbang.Vsock

open Memory Virtio

def virtioVsockConnectionBufferSize : Nat := 64 * 1024

def vsockGuestRwPendingPacketLimit : Nat := 4

def vsockHostRwPendingPacketLimit : Nat := 4

def vsockHostRwPrefetchPayloadLimit : Nat := 2 * 1024

def vsockCreditUpdateThreshold : Nat := 4 * 1024

def vsockConnectionRequestTimeout : Nat := 2 * 10 ^ 9

def vsockConnectionShutdownTimeout : Nat := 2 * 10 ^ 9

def virtioVsockFlagsShutdownRcv : BitVec 32 := 1

def virtioVsockFlagsShutdownSend : BitVec 32 := 2

inductive VsockOperation where
  | request
  | response
  | rst
  | shutdown
  | rw
  | creditUpdate
  | creditRequest
deriving DecidableEq

/-- What a connection looks at in the header of a guest packet. -/
structure VirtioVsockPacketHeader where
  (payloadLen flags bufferAllocation forwardedCount : BitVec 32)
deriving DecidableEq

/-- A packet for the guest, with the two counters of its header. -/
structure VirtioVsockRxPacket where
  operation : VsockOperation
  bufferAllocation : Nat
  forwardedCount : BitVec 32
  payload : List UInt8
deriving DecidableEq

structure VirtioVsockTxPayloadSegment where
  (descriptorIndex address len : Nat)
deriving DecidableEq

inductive ErrorKind where
  | wouldBlock
  | interrupted
  | other (code : Nat)
deriving DecidableEq

inductive VsockGuestRwForwardError where
  | responseStillPending
  | payloadLenTooLarge (len : Nat)
  | payloadAllocationFailed (len : Nat)
  | payloadLengthMismatch (expected actual : Nat)
  | payloadRead (descriptorIndex address len : Nat) (source : GuestMemoryAccessError)
  | creditExceeded (available requested : Nat)
  | pendingBufferFull (limit : Nat)
  | pendingBufferByteLimit (limit attempted : Nat)
  | pendingOffsetOutOfBounds (offset len : Nat)
  | invalidWriteCount (attempted actual : Nat)
  | streamWrite (kind : ErrorKind)
  | writeZero (expected : Nat)
deriving DecidableEq

def VsockGuestRwForwardError.isStreamWriteFailure : VsockGuestRwForwardError → Bool
  | .invalidWriteCount _ _ | .streamWrite _ | .writeZero _ => true
  | _ => false

def payloadLenU32 (payloadLen : Nat) : BitVec 32 := BitVec.ofNat 32 payloadLen

def forwardedByteCountU32 (byteCount : Nat) : BitVec 32 := BitVec.ofNat 32 byteCount

/-- Append the segments of a payload, which may not be longer than announced. -/
def readPayloadSegments (memory : GuestMemory) (payloadLen : Nat) :
    List UInt8 → List VirtioVsockTxPayloadSegment → Except VsockGuestRwForwardError (List UInt8)
  | payload, [] => .ok payload
  | payload, segment :: segments => do
      rejectIf (payloadLen < payload.length + segment.len) (.payloadLenTooLarge payloadLen)
      let bytes ← (readBytes memory segment.address segment.len).mapError
        (.payloadRead segment.descriptorIndex segment.address segment.len)
      readPayloadSegments memory payloadLen (payload ++ bytes) segments

def readVsockTxPayloadBytes (reserves : Bool) (memory : GuestMemory) (payloadLen : Nat)
    (segments : List VirtioVsockTxPayloadSegment) :
    Except VsockGuestRwForwardError (List UInt8) := do
  rejectIf (reserves = false) (.payloadAllocationFailed payloadLen)
  let payload ← readPayloadSegments memory payloadLen [] segments
  rejectIf (payload.length ≠ payloadLen) (.payloadLengthMismatch payloadLen payload.length)
  return payload

structure VsockConnectionCredit where
  (receivedCount forwardedCount lastReportedForwardedCount : BitVec 32)
  peerBufferAllocation : Nat
  (peerForwardedCount sentCount : BitVec 32)
  reservedPeerBytes : Nat
  (pendingCreditRequestPacket creditRequestOutstanding pendingCreditUpdatePacket : Bool)
deriving DecidableEq

namespace VsockConnectionCredit

def new : VsockConnectionCredit where
  receivedCount := 0
  forwardedCount := 0
  lastReportedForwardedCount := 0
  peerBufferAllocation := 0
  peerForwardedCount := 0
  sentCount := 0
  reservedPeerBytes := 0
  pendingCreditRequestPacket := false
  creditRequestOutstanding := false
  pendingCreditUpdatePacket := false

variable (credit : VsockConnectionCredit)

def peerOutstandingBytes : Nat := (credit.sentCount - credit.peerForwardedCount).toNat

-- Subtraction of natural numbers stops at zero, as `saturating_sub` does.
def peerAvailableCredit : Nat :=
  credit.peerBufferAllocation - credit.peerOutstandingBytes - credit.reservedPeerBytes

variable (operation : VsockOperation) (header : VirtioVsockPacketHeader) (len : BitVec 32)

def refreshPeer : VsockConnectionCredit :=
  let credit := { credit with
    peerBufferAllocation := header.bufferAllocation.toNat
    peerForwardedCount := header.forwardedCount }
  if credit.peerAvailableCredit ≠ 0 then
    { credit with pendingCreditRequestPacket := false, creditRequestOutstanding := false }
  else credit

def fromPeerHeader : VsockConnectionCredit := new.refreshPeer header

def localOutstandingBytes : Nat := (credit.receivedCount - credit.forwardedCount).toNat

def localAvailableCredit : Nat := virtioVsockConnectionBufferSize - credit.localOutstandingBytes

def checkGuestBytes : Except VsockGuestRwForwardError Unit :=
  rejectIf (credit.localAvailableCredit < len.toNat)
    (.creditExceeded credit.localAvailableCredit len.toNat)

def acceptGuestBytes : Except VsockGuestRwForwardError VsockConnectionCredit := do
  credit.checkGuestBytes len
  return { credit with receivedCount := credit.receivedCount + len }

def recordForwardedBytes : VsockConnectionCredit :=
  let forwardedCount := credit.forwardedCount + len
  let unreported := (forwardedCount - credit.lastReportedForwardedCount).toNat
  { credit with
    forwardedCount
    pendingCreditUpdatePacket := credit.pendingCreditUpdatePacket ||
      virtioVsockConnectionBufferSize - vsockCreditUpdateThreshold < unreported }

def ensureCreditRequestIfExhausted : VsockConnectionCredit :=
  if credit.peerAvailableCredit = 0 ∧ credit.creditRequestOutstanding = false then
    { credit with pendingCreditRequestPacket := true, creditRequestOutstanding := true }
  else credit

def reservePeerBytes : Option VsockConnectionCredit := do
  guard (len.toNat ≤ credit.peerAvailableCredit)
  guard (credit.reservedPeerBytes + len.toNat < 2 ^ 32)
  return ensureCreditRequestIfExhausted
    { credit with reservedPeerBytes := credit.reservedPeerBytes + len.toNat }

def commitReservedPeerBytes : Option VsockConnectionCredit := do
  guard (len.toNat ≤ credit.reservedPeerBytes)
  return ensureCreditRequestIfExhausted { credit with
    reservedPeerBytes := credit.reservedPeerBytes - len.toNat
    sentCount := credit.sentCount + len }

def releaseReservedPeerBytes : Option VsockConnectionCredit := do
  guard (len.toNat ≤ credit.reservedPeerBytes)
  return { credit with reservedPeerBytes := credit.reservedPeerBytes - len.toNat }

def queueCreditUpdatePacket : VsockConnectionCredit :=
  { credit with pendingCreditUpdatePacket := true }

def applyToPacket (payload : List UInt8) : VirtioVsockRxPacket where
  operation
  bufferAllocation := virtioVsockConnectionBufferSize
  forwardedCount := credit.forwardedCount
  payload

def markPacketDelivered : VsockConnectionCredit :=
  { credit with
    lastReportedForwardedCount := credit.forwardedCount
    pendingCreditUpdatePacket :=
      credit.pendingCreditUpdatePacket && operation ≠ .creditUpdate
    pendingCreditRequestPacket :=
      credit.pendingCreditRequestPacket && operation ≠ .creditRequest }

end VsockConnectionCredit

/-- A stream of the host: what it answers to the next writes, and the bytes it took. -/
structure HostStream where
  writes : List (Except ErrorKind Nat)
  accepted : List UInt8

def HostStream.write (stream : HostStream) (bytes : List UInt8) :
    Except ErrorKind Nat × HostStream :=
  match stream.writes with
  | [] => (.error .wouldBlock, stream)
  | .error kind :: writes => (.error kind, { stream with writes })
  | .ok written :: writes => (.ok written, ⟨writes, stream.accepted ++ bytes.take written⟩)

inductive VsockGuestRwWriteOutcome where
  | complete (written : Nat)
  | blocked (written : Nat)
deriving DecidableEq

structure VsockGuestRwForwardFailure where
  forwardedBytes : Nat
  source : VsockGuestRwForwardError
  duringFlush : Bool
deriving DecidableEq

/-- The writes of the rest of a payload. Every turn asks the stream once, so the answers of
the stream bound the turns. -/
def writeRemaining (remaining : List UInt8) (totalWritten : Nat) (accepted : List UInt8) :
    List (Except ErrorKind Nat) →
      Except VsockGuestRwForwardFailure VsockGuestRwWriteOutcome × HostStream
  | [] =>
    if remaining.isEmpty then (.ok (.complete totalWritten), ⟨[], accepted⟩)
    else (.ok (.blocked totalWritten), ⟨[], accepted⟩)
  | answer :: writes =>
    if remaining.isEmpty then (.ok (.complete totalWritten), ⟨answer :: writes, accepted⟩)
    else match answer with
      | .ok 0 =>
        (.error ⟨totalWritten, .writeZero remaining.length, false⟩, ⟨writes, accepted⟩)
      | .ok written =>
        if remaining.length < written then
          (.error ⟨totalWritten, .invalidWriteCount remaining.length written, false⟩,
            ⟨writes, accepted ++ remaining⟩)
        else writeRemaining (remaining.drop written) (totalWritten + written)
          (accepted ++ remaining.take written) writes
      | .error .wouldBlock | .error .interrupted =>
        (.ok (.blocked totalWritten), ⟨writes, accepted⟩)
      | .error kind => (.error ⟨totalWritten, .streamWrite kind, false⟩, ⟨writes, accepted⟩)

def writeGuestRwPayloadToStream (stream : HostStream) (payload : List UInt8) :
    Except VsockGuestRwForwardFailure VsockGuestRwWriteOutcome × HostStream :=
  writeRemaining payload 0 stream.accepted stream.writes

structure VsockGuestRwPendingWrites where
  payloads : List (List UInt8)
  (frontOffset pendingBytes : Nat)
deriving DecidableEq

namespace VsockGuestRwPendingWrites

def new : VsockGuestRwPendingWrites := ⟨[], 0, 0⟩

def isEmpty (pending : VsockGuestRwPendingWrites) : Bool := pending.payloads.isEmpty

variable (pending : VsockGuestRwPendingWrites) (stream : HostStream) (reserves : Bool)
  (payload : List UInt8)

def advanceFront (written : Nat) : Except VsockGuestRwForwardError VsockGuestRwPendingWrites :=
  match pending.payloads with
  | [] => do
      rejectIf (written ≠ 0) (.invalidWriteCount 0 written)
      return pending
  | payload :: payloads => do
      let remaining := payload.length - pending.frontOffset
      rejectIf (remaining < written) (.invalidWriteCount remaining written)
      let frontOffset := pending.frontOffset + written
      let pendingBytes := pending.pendingBytes - written
      if frontOffset = payload.length then return ⟨payloads, 0, pendingBytes⟩
      else return ⟨payload :: payloads, frontOffset, pendingBytes⟩

/-- The turns of a flush, one for each queued payload. -/
def flushFrom (forwardedBytes frontOffset pendingBytes : Nat) (stream : HostStream) :
    List (List UInt8) →
      Except VsockGuestRwForwardFailure Nat × VsockGuestRwPendingWrites × HostStream
  | [] => (.ok forwardedBytes, ⟨[], 0, pendingBytes⟩, stream)
  | payload :: payloads =>
    let pending : VsockGuestRwPendingWrites := ⟨payload :: payloads, frontOffset, pendingBytes⟩
    if payload.length < frontOffset then
      (.error ⟨forwardedBytes, .pendingOffsetOutOfBounds frontOffset payload.length, false⟩,
        pending, stream)
    else if (payload.drop frontOffset).isEmpty then
      flushFrom forwardedBytes 0 pendingBytes stream payloads
    else match writeGuestRwPayloadToStream stream (payload.drop frontOffset) with
      | (.ok (.complete written), stream) =>
        match pending.advanceFront written with
        | .error source => (.error ⟨forwardedBytes, source, false⟩, pending, stream)
        | .ok advanced =>
          -- A complete write is of all that was left, so the front is gone.
          flushFrom (forwardedBytes + written) advanced.frontOffset advanced.pendingBytes
            stream payloads
      | (.ok (.blocked written), stream) =>
        match pending.advanceFront written with
        | .error source => (.error ⟨forwardedBytes, source, false⟩, pending, stream)
        | .ok advanced => (.ok (forwardedBytes + written), advanced, stream)
      | (.error failure, stream) =>
        match pending.advanceFront failure.forwardedBytes with
        | .error source => (.error ⟨forwardedBytes, source, false⟩, pending, stream)
        | .ok advanced =>
          (.error { failure with forwardedBytes := failure.forwardedBytes + forwardedBytes },
            advanced, stream)

def flush : Except VsockGuestRwForwardFailure Nat × VsockGuestRwPendingWrites × HostStream :=
  flushFrom 0 pending.frontOffset pending.pendingBytes stream pending.payloads

def pushPayload : Except VsockGuestRwForwardError VsockGuestRwPendingWrites := do
  if payload.isEmpty then return pending
  rejectIf (vsockGuestRwPendingPacketLimit ≤ pending.payloads.length)
    (.pendingBufferFull vsockGuestRwPendingPacketLimit)
  let attempted := pending.pendingBytes + payload.length
  rejectIf (virtioVsockConnectionBufferSize < attempted)
    (.pendingBufferByteLimit virtioVsockConnectionBufferSize attempted)
  rejectIf (reserves = false) (.payloadAllocationFailed payload.length)
  return { pending with payloads := pending.payloads ++ [payload], pendingBytes := attempted }

def pushPayloadSuffix (offset : Nat) :
    Except VsockGuestRwForwardError VsockGuestRwPendingWrites := do
  rejectIf (payload.length < offset) (.invalidWriteCount payload.length offset)
  pending.pushPayload reserves (payload.drop offset)

def writeOrQueue : Except VsockGuestRwForwardFailure Nat × VsockGuestRwPendingWrites × HostStream :=
  if payload.isEmpty then (.ok 0, pending, stream)
  else match pending.flush stream with
    | (.error failure, pending, stream) =>
      (.error { failure with duringFlush := true }, pending, stream)
    | (.ok forwardedBytes, pending, stream) =>
      if pending.isEmpty = false then
        match pending.pushPayload reserves payload with
        | .error source => (.error ⟨forwardedBytes, source, false⟩, pending, stream)
        | .ok pending => (.ok forwardedBytes, pending, stream)
      else match writeGuestRwPayloadToStream stream payload with
        | (.ok (.complete written), stream) => (.ok (forwardedBytes + written), pending, stream)
        | (.ok (.blocked written), stream) =>
          match pending.pushPayloadSuffix reserves payload written with
          | .error source =>
            (.error ⟨forwardedBytes + written, source, false⟩, pending, stream)
          | .ok pending => (.ok (forwardedBytes + written), pending, stream)
        | (.error failure, stream) =>
          (.error { failure with forwardedBytes := failure.forwardedBytes + forwardedBytes },
            pending, stream)

end VsockGuestRwPendingWrites

structure VsockConnectionShutdownState where
  (receiveClosed sendClosed : Bool)
deriving DecidableEq

section
variable (shutdown : VsockConnectionShutdownState)

def VsockConnectionShutdownState.fullyClosed : Bool := shutdown.receiveClosed && shutdown.sendClosed

def VsockConnectionShutdownState.applyGuestShutdownFlags (flags : BitVec 32)
    : VsockConnectionShutdownState where
  receiveClosed := shutdown.receiveClosed || flags &&& virtioVsockFlagsShutdownRcv ≠ 0
  sendClosed := shutdown.sendClosed || flags &&& virtioVsockFlagsShutdownSend ≠ 0

end

inductive VsockConnectionPhase where
  | handshake
  | established
  | localClosed
deriving DecidableEq

inductive VsockConnectionDeadlineKind where
  | request
  | shutdown
deriving DecidableEq

structure VsockConnectionDeadline where
  kind : VsockConnectionDeadlineKind
  instant : Nat
deriving DecidableEq

structure VsockConnectionLifecycle where
  phase : VsockConnectionPhase
  armed : Option VsockConnectionDeadline
  localShutdownPacketPending : Bool
deriving DecidableEq

namespace VsockConnectionLifecycle

def new : VsockConnectionLifecycle := ⟨.handshake, none, false⟩

variable (lifecycle : VsockConnectionLifecycle)

def deadline : Option VsockConnectionDeadline :=
  if lifecycle.localShutdownPacketPending then none else lifecycle.armed

variable (now : Nat)

def markRequestDelivered : VsockConnectionLifecycle :=
  { lifecycle with armed := some ⟨.request, now + vsockConnectionRequestTimeout⟩ }

def markEstablished : VsockConnectionLifecycle :=
  { lifecycle with phase := .established, armed := none }

def armShutdownDeadline : VsockConnectionLifecycle :=
  if lifecycle.armed.any fun deadline => deadline.kind = .shutdown then lifecycle
  else { lifecycle with armed := some ⟨.shutdown, now + vsockConnectionShutdownTimeout⟩ }

def markLocalClosed : VsockConnectionLifecycle :=
  if lifecycle.phase = .established then
    armShutdownDeadline
      { lifecycle with phase := .localClosed, localShutdownPacketPending := true } now
  else lifecycle

def markLocalShutdownPacketDelivered : VsockConnectionLifecycle :=
  if lifecycle.localShutdownPacketPending then
    { lifecycle with
      localShutdownPacketPending := false
      armed := some ⟨.shutdown, now + vsockConnectionShutdownTimeout⟩ }
  else lifecycle

end VsockConnectionLifecycle

/-- How far the opening of a connection is, by the side which opened it. -/
inductive VsockHandshake where
  | host (localPort : Nat) (requestPacketPending hostAckSent : Bool)
  | guest (responsePacketPending : Bool)
deriving DecidableEq

structure VsockConnection where
  handshake : VsockHandshake
  lifecycle : VsockConnectionLifecycle
  credit : VsockConnectionCredit
  pendingGuestRwWrites : VsockGuestRwPendingWrites
  pendingHostRwPayloads : List (List UInt8)
  shutdown : VsockConnectionShutdownState
  stream : HostStream

inductive VsockGuestRwOutcome where
  | forwarded (bytes : Nat)
  | suppressed
  | dropped (source : VsockGuestRwForwardError) (reset : VirtioVsockRxPacket)
deriving DecidableEq

inductive VsockHostRwPollOutcome where
  | noData
  | queued
  | closed
  | readError
deriving DecidableEq

namespace VsockConnection

/-- A connection which the host opened. -/
def fromAccepted (localPort : Nat) (stream : HostStream) : VsockConnection where
  handshake := .host localPort true false
  lifecycle := .new
  credit := .new
  pendingGuestRwWrites := .new
  pendingHostRwPayloads := []
  shutdown := ⟨false, false⟩
  stream

/-- A connection which the guest asked for. -/
def fromStream (stream : HostStream) (requestHeader : VirtioVsockPacketHeader) :
    VsockConnection where
  handshake := .guest true
  lifecycle := .new
  credit := .fromPeerHeader requestHeader
  pendingGuestRwWrites := .new
  pendingHostRwPayloads := []
  shutdown := ⟨false, false⟩
  stream

variable (connection : VsockConnection)

/-- A host which opened the connection has been told that it is open. -/
def hostAcknowledged : Bool :=
  match connection.handshake with
  | .host _ _ hostAckSent => hostAckSent
  | .guest _ => true

def isEstablished : Bool :=
  connection.lifecycle.phase ≠ .handshake && connection.hostAcknowledged

/-- The guest may not send data yet. -/
def responseStillPending : Bool :=
  match connection.handshake with
  | .host _ _ _ => !connection.isEstablished
  | .guest responsePacketPending => responsePacketPending

def canPollHostRwPayload : Bool :=
  connection.lifecycle.phase = .established && connection.hostAcknowledged &&
    !connection.shutdown.receiveClosed &&
    connection.pendingHostRwPayloads.length < vsockHostRwPendingPacketLimit &&
    connection.credit.peerAvailableCredit ≠ 0

def guestSendShutdown : Bool :=
  connection.shutdown.sendClosed || connection.lifecycle.phase = .localClosed

def hasPendingHostRwPacket : Bool :=
  !connection.shutdown.receiveClosed && !connection.pendingHostRwPayloads.isEmpty

def resetPacket : VirtioVsockRxPacket := connection.credit.applyToPacket .rst []

def refreshPeerCredit (header : VirtioVsockPacketHeader) : VsockConnection :=
  { connection with credit := connection.credit.refreshPeer header }

section

/-- One read of the host stream into a buffer of `scratchLen` bytes. -/
def pollHostRwPayloadsFromStream (scratchLen : Nat) (read : Except ErrorKind (List UInt8)) :
    VsockHostRwPollOutcome × VsockConnection :=
  let readLen := min connection.credit.peerAvailableCredit scratchLen
  if vsockHostRwPendingPacketLimit ≤ connection.pendingHostRwPayloads.length then
    (.noData, connection)
  else if readLen = 0 then
    (.noData, { connection with credit := connection.credit.ensureCreditRequestIfExhausted })
  else match read with
    | .ok bytes =>
      if bytes.isEmpty then (.closed, connection)
      else if scratchLen < bytes.length then (.readError, connection)
      else match connection.credit.reservePeerBytes (payloadLenU32 bytes.length) with
        | none => (.readError, connection)
        | some credit => (.queued, { connection with
            credit
            pendingHostRwPayloads := connection.pendingHostRwPayloads ++ [bytes] })
    | .error .wouldBlock | .error .interrupted => (.noData, connection)
    | .error (.other _) => (.readError, connection)

variable (read : Except ErrorKind (List UInt8))

def pollHostRwPayloads : VsockHostRwPollOutcome × VsockConnection :=
  if connection.canPollHostRwPayload then
    connection.pollHostRwPayloadsFromStream vsockHostRwPrefetchPayloadLimit read
  else (.noData, connection)

/-- What becomes of a connection whose host stream is readable. -/
def pollHost (now : Nat) : Option VsockConnection :=
  match connection.pollHostRwPayloads read with
  | (.noData, connection) | (.queued, connection) => some connection
  | (.closed, connection) =>
    some { connection with lifecycle := connection.lifecycle.markLocalClosed now }
  | (.readError, _) => none

end

section

/-- The packet which the connection has to send first. -/
def firstPendingOperation : Option VsockOperation :=
  match connection.handshake with
  | .guest true => some .response
  | .host _ true _ => some .request
  | _ =>
    if connection.hasPendingHostRwPacket then some .rw
    else if connection.lifecycle.localShutdownPacketPending then some .shutdown
    else if connection.credit.pendingCreditRequestPacket then some .creditRequest
    else if connection.credit.pendingCreditUpdatePacket then some .creditUpdate
    else none

variable {connection} in
/-- Data is only sent when there is some. -/
theorem pendingHostRwPayloads_of_rw (pending : connection.firstPendingOperation = some .rw) :
    ∃ payload rest, connection.pendingHostRwPayloads = payload :: rest := by
  have hasPayload : connection.hasPendingHostRwPacket = true := by
    revert pending
    unfold firstPendingOperation
    grind
  rw [hasPendingHostRwPacket, Bool.and_eq_true, Bool.not_eq_true', Bool.not_eq_true',
    List.isEmpty_eq_false_iff] at hasPayload
  exact List.exists_cons_of_ne_nil hasPayload.2

variable {connection} in
/-- A response belongs to a connection which the guest opened. -/
theorem handshake_of_response (pending : connection.firstPendingOperation = some .response) :
    connection.handshake = .guest true := by
  revert pending
  unfold firstPendingOperation
  grind

variable (operation : VsockOperation) (now : Nat)

def pendingRxPacket : VirtioVsockRxPacket :=
  connection.credit.applyToPacket operation <|
    if operation = .rw then connection.pendingHostRwPayloads.headD [] else []

def takePendingHostRwPayload : VsockConnection :=
  match connection.pendingHostRwPayloads with
  | [] => connection
  | payload :: payloads => { connection with
      pendingHostRwPayloads := payloads
      credit := ((connection.credit.commitReservedPeerBytes
        (payloadLenU32 payload.length)).getD connection.credit).markPacketDelivered .rw }

/-- What a connection does once its packet is in the ring of the guest. -/
def consumePendingRxPacket : VsockConnection :=
  match operation, connection.handshake with
  | .response, _ => { connection with
      handshake := .guest false
      lifecycle := connection.lifecycle.markEstablished
      credit := (connection.credit.markPacketDelivered .response).ensureCreditRequestIfExhausted }
  | .request, .host localPort _ hostAckSent => { connection with
      handshake := .host localPort false hostAckSent
      lifecycle := connection.lifecycle.markRequestDelivered now
      credit := connection.credit.markPacketDelivered .request }
  | .rw, _ => connection.takePendingHostRwPayload
  | .shutdown, _ => { connection with
      lifecycle := connection.lifecycle.markLocalShutdownPacketDelivered now
      credit := connection.credit.markPacketDelivered .shutdown }
  | operation, _ => { connection with
      credit := connection.credit.markPacketDelivered operation }

/-- Deliver the first pending packet, if there is one. -/
def deliver : Option VirtioVsockRxPacket × VsockConnection :=
  match connection.firstPendingOperation with
  | none => (none, connection)
  | some operation =>
    (some (connection.pendingRxPacket operation), connection.consumePendingRxPacket operation now)

end

section

def writeGuestRwPayload (reserves : Bool) (payload : List UInt8) :
    Except VsockGuestRwForwardFailure Nat × VsockConnection :=
  match connection.credit.acceptGuestBytes (payloadLenU32 payload.length) with
  | .error source => (.error ⟨0, source, false⟩, connection)
  | .ok credit =>
    match connection.pendingGuestRwWrites.writeOrQueue connection.stream reserves payload with
    | (.ok forwardedBytes, pendingGuestRwWrites, stream) => (.ok forwardedBytes, { connection with
        pendingGuestRwWrites
        stream
        credit := credit.recordForwardedBytes (forwardedByteCountU32 forwardedBytes) })
    | (.error failure, pendingGuestRwWrites, stream) => (.error failure, { connection with
        pendingGuestRwWrites
        stream
        credit := credit.recordForwardedBytes (forwardedByteCountU32 failure.forwardedBytes) })

/-- Whether the payload of a packet could be allocated, and its copy in the queue. -/
structure PayloadReservations where
  (read queued : Bool)
deriving DecidableEq

variable (header : VirtioVsockPacketHeader)

def forwardGuestRwPacket (memory : GuestMemory) (segments : List VirtioVsockTxPayloadSegment)
    (reserves : PayloadReservations) : VsockGuestRwOutcome × Option VsockConnection :=
  if connection.responseStillPending then
    (.dropped .responseStillPending connection.resetPacket, none)
  else if connection.guestSendShutdown then (.suppressed, some connection)
  else
    let connection := connection.refreshPeerCredit header
    match connection.credit.checkGuestBytes header.payloadLen with
    | .error source => (.dropped source connection.resetPacket, none)
    | .ok () =>
      match readVsockTxPayloadBytes reserves.read memory header.payloadLen.toNat segments with
      | .error source => (.dropped source connection.resetPacket, none)
      | .ok payload =>
        match connection.writeGuestRwPayload reserves.queued payload with
        | (.ok _, connection) => (.forwarded payload.length, some connection)
        | (.error failure, connection) =>
          (.dropped failure.source connection.resetPacket, none)

/-- Flush what is queued for the host; a connection which is over goes when it is done. -/
def flushPendingGuestRwWrites : Option VsockConnection :=
  if connection.pendingGuestRwWrites.isEmpty then some connection
  else match connection.pendingGuestRwWrites.flush connection.stream with
    | (.error _, _, _) => none
    | (.ok forwardedBytes, pendingGuestRwWrites, stream) =>
      let connection := { connection with
        pendingGuestRwWrites
        stream
        credit := connection.credit.recordForwardedBytes
          (forwardedByteCountU32 forwardedBytes) }
      if connection.shutdown.fullyClosed ∧ pendingGuestRwWrites.isEmpty ∧
          connection.lifecycle.localShutdownPacketPending = false then none
      else some connection

/-- The line which tells the host that its connection is open. -/
def acknowledgement (localPort : Nat) : List UInt8 :=
  (s!"OK {localPort}\n").toUTF8.toList

/-- The guest answers a request; the host is told by one write, which has to be complete. -/
def acknowledgeGuestResponse : Option VsockConnection :=
  match connection.handshake with
  | .guest _ => some connection
  | .host localPort requestPacketPending hostAckSent =>
    if header.payloadLen ≠ 0 ∨ requestPacketPending then some connection
    else
      let connection := connection.refreshPeerCredit header
      if hostAckSent then some connection
      else match connection.stream.write (acknowledgement localPort) with
        | (.ok written, stream) =>
          if written = (acknowledgement localPort).length then some { connection with
            handshake := .host localPort requestPacketPending true
            lifecycle := connection.lifecycle.markEstablished
            stream
            credit := connection.credit.ensureCreditRequestIfExhausted }
          else none
        | (.error _, _) => none

def consumeCreditUpdatePacket : VsockConnection :=
  if header.payloadLen ≠ 0 ∨ connection.isEstablished = false then connection
  else connection.refreshPeerCredit header

def queuePendingCreditUpdatePacket : VsockConnection :=
  if header.payloadLen ≠ 0 ∨ connection.isEstablished = false then connection
  else
    let connection := connection.refreshPeerCredit header
    { connection with credit := connection.credit.queueCreditUpdatePacket }

/-- The total of the payloads of a queue, as the source adds it up. -/
def releasedBytes (payloads : List (List UInt8)) : Nat :=
  payloads.foldl (fun total payload =>
    min (total + (payloadLenU32 payload.length).toNat) (2 ^ 32 - 1)) 0

def applyGuestShutdownFlags (flags : BitVec 32) : VsockConnection :=
  let connection := { connection with
    shutdown := connection.shutdown.applyGuestShutdownFlags flags }
  if connection.shutdown.receiveClosed then
    { connection with
      pendingHostRwPayloads := []
      credit := (connection.credit.releaseReservedPeerBytes
        (BitVec.ofNat 32 (releasedBytes connection.pendingHostRwPayloads))).getD
          connection.credit }
  else connection

def shutdownGuestConnectionPacket (now : Nat) : Option VsockConnection :=
  let flags := header.flags &&& (virtioVsockFlagsShutdownRcv ||| virtioVsockFlagsShutdownSend)
  if header.payloadLen ≠ 0 ∨ flags = 0 then some connection
  else
    let connection := connection.refreshPeerCredit header
    if connection.lifecycle.phase = .localClosed then some connection
    else
      let connection := connection.applyGuestShutdownFlags flags
      if connection.shutdown.fullyClosed then
        if connection.pendingGuestRwWrites.isEmpty = false then
          some { connection with lifecycle := connection.lifecycle.armShutdownDeadline now }
        else if connection.lifecycle.localShutdownPacketPending then some connection
        else none
      else some connection

end
end VsockConnection

inductive VsockEvent where
  | hostReadable (read : Except ErrorKind (List UInt8)) (now : Nat)
  | deliver (now : Nat)
  | flush
  | expire (now : Nat)
  | guestResponse (header : VirtioVsockPacketHeader)
  | guestRw (header : VirtioVsockPacketHeader) (memory : GuestMemory)
      (segments : List VirtioVsockTxPayloadSegment)
      (reserves : VsockConnection.PayloadReservations)
  | guestCreditUpdate (header : VirtioVsockPacketHeader)
  | guestCreditRequest (header : VirtioVsockPacketHeader)
  | guestShutdown (header : VirtioVsockPacketHeader) (now : Nat)
  | guestRst (header : VirtioVsockPacketHeader)

/-- What a step of a connection shows to the guest. -/
inductive VsockReply where
  | none
  | delivered (packet : VirtioVsockRxPacket)
  | rw (outcome : VsockGuestRwOutcome)
deriving DecidableEq

/-- One step of the device on a connection. A connection which is removed is gone. -/
def VsockConnection.step (connection : VsockConnection) :
    VsockEvent → VsockReply × Option VsockConnection
  | .hostReadable read now => (.none, connection.pollHost read now)
  | .deliver now =>
    match connection.deliver now with
    | (some packet, connection) => (.delivered packet, some connection)
    | (.none, connection) => (.none, some connection)
  | .flush => (.none, connection.flushPendingGuestRwWrites)
  | .expire now =>
    if connection.lifecycle.deadline.any fun deadline => deadline.instant ≤ now then (.none, none)
    else (.none, some connection)
  | .guestResponse header => (.none, connection.acknowledgeGuestResponse header)
  | .guestRw header memory segments reserves =>
    (connection.forwardGuestRwPacket header memory segments reserves).map .rw id
  | .guestCreditUpdate header => (.none, some (connection.consumeCreditUpdatePacket header))
  | .guestCreditRequest header => (.none, some (connection.queuePendingCreditUpdatePacket header))
  | .guestShutdown header now => (.none, connection.shutdownGuestConnectionPacket header now)
  | .guestRst header => if header.payloadLen ≠ 0 then (.none, some connection) else (.none, none)

end Bangbang.Vsock
