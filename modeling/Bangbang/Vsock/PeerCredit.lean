import Bangbang.Base.Word
import Bangbang.Vsock.StepEffect

/-!
# Credit of the guest

`PeerSide` is the part of a connection which concerns the direction to the guest, and
`PeerSide.Move` says once what a step may do to it. A `Link` runs a connection against a
guest whose counters do not wrap: the bytes delivered to it, and how many of them it has
forwarded. What the guest holds and what is queued for it then fit its buffer at any time.
-/

namespace Bangbang.Vsock

open List

/-- What a connection knows of the buffer of the guest. -/
structure PeerCredit where
  allocation : Nat
  (forwarded sent : BitVec 32)
  reserved : Nat

namespace VsockConnectionCredit

/-- The counters of the peer's credit. -/
def peer (credit : VsockConnectionCredit) : PeerCredit where
  allocation := credit.peerBufferAllocation
  forwarded := credit.peerForwardedCount
  sent := credit.sentCount
  reserved := credit.reservedPeerBytes

variable (credit : VsockConnectionCredit)

@[simp] theorem peer_refreshPeer (header) :
    (credit.refreshPeer header).peer = { credit.peer with
      allocation := header.bufferAllocation.toNat
      forwarded := header.forwardedCount } := by
  unfold refreshPeer
  dsimp only
  split <;> rfl

@[simp] theorem peer_ensureCreditRequestIfExhausted :
    credit.ensureCreditRequestIfExhausted.peer = credit.peer := by
  unfold ensureCreditRequestIfExhausted
  split <;> rfl

@[simp] theorem peer_markPacketDelivered (operation) :
    (credit.markPacketDelivered operation).peer = credit.peer := rfl

@[simp] theorem peer_recordForwardedBytes (len) :
    (credit.recordForwardedBytes len).peer = credit.peer := rfl

@[simp] theorem peer_queueCreditUpdatePacket :
    credit.queueCreditUpdatePacket.peer = credit.peer := rfl

theorem peer_acceptGuestBytes {len next} (accepted : credit.acceptGuestBytes len = .ok next) :
    next.peer = credit.peer := by
  simp only [acceptGuestBytes, bind_eq_ok, pure_eq_ok] at accepted
  obtain ⟨_, _, rfl⟩ := accepted
  rfl

end VsockConnectionCredit

/-- The direction to the guest. -/
structure PeerSide where
  credit : PeerCredit
  queue : List (List UInt8)

namespace PeerSide

/-- The total size of the queued payloads. -/
def queuedBytes (side : PeerSide) : Nat := (side.queue.map List.length).sum

/-- The side after a header. -/
def refreshed (side : PeerSide) (header : VirtioVsockPacketHeader) : PeerSide :=
  { side with credit := { side.credit with
      allocation := header.bufferAllocation.toNat
      forwarded := header.forwardedCount } }

/-- What is reserved is what is queued. -/
structure Balanced (side : PeerSide) : Prop where
  reserved_eq : side.credit.reserved = side.queuedBytes
  bounded : side.credit.reserved < 2 ^ 32

/-- What a step may do, with the header which it brought and the bytes it delivered. -/
inductive Move (side : PeerSide) :
    Option VirtioVsockPacketHeader → Nat → PeerSide → Prop
  | stay (header : Option VirtioVsockPacketHeader) : Move side header 0 side
  | refresh (header : VirtioVsockPacketHeader) : Move side (some header) 0 (side.refreshed header)
  | close (header : VirtioVsockPacketHeader) :
      Move side (some header) 0
        ⟨{ (side.refreshed header).credit with reserved := 0 }, []⟩
  | reserve (bytes : List UInt8)
      (fits : bytes.length ≤ side.credit.allocation -
        (side.credit.sent - side.credit.forwarded).toNat - side.credit.reserved)
      (bounded : side.credit.reserved + bytes.length < 2 ^ 32) :
      Move side none 0
        ⟨{ side.credit with reserved := side.credit.reserved + bytes.length },
          side.queue ++ [bytes]⟩
  | commit (payload : List UInt8) (rest : List (List UInt8))
      (front : side.queue = payload :: rest) :
      Move side none payload.length
        ⟨{ side.credit with
          sent := side.credit.sent + BitVec.ofNat 32 payload.length
          reserved := side.credit.reserved - payload.length }, rest⟩

variable {side next : PeerSide} {header delivered}

theorem queuedBytes_cons {credit payload rest} :
    queuedBytes ⟨credit, payload :: rest⟩ = payload.length + queuedBytes ⟨credit, rest⟩ := by
  simp [queuedBytes]

/-- A move keeps the balance. -/
theorem Balanced.moves (balanced : side.Balanced) (move : side.Move header delivered next) :
    next.Balanced := by
  obtain ⟨reserved, bounded⟩ := balanced
  cases move with
  | stay | refresh => exact ⟨reserved, bounded⟩
  | close => exact ⟨rfl, Nat.two_pow_pos 32⟩
  | reserve bytes fits small =>
    refine ⟨?_, small⟩
    simp only [queuedBytes, map_append, map_cons, map_nil, sum_append, sum_singleton, reserved]
  | commit payload rest front =>
    obtain ⟨credit, queue⟩ := side
    subst front
    change credit.reserved = payload.length + (rest.map length).sum at reserved
    constructor
    · change credit.reserved - payload.length = (rest.map length).sum
      omega
    · exact Nat.lt_of_le_of_lt (Nat.sub_le _ _) bounded

end PeerSide

/-- What a connection keeps of the peer's bytes. -/
def VsockConnection.peerSide (connection : VsockConnection) : PeerSide :=
  ⟨connection.credit.peer, connection.pendingHostRwPayloads⟩

open VsockConnectionCredit

/-- The payload bytes which a step put into the ring of the guest. -/
def VsockReply.payloadBytes : VsockReply → Nat
  | .delivered packet => packet.payload.length
  | .none | .rw _ => 0

namespace VsockConnection

open PeerSide

variable {connection next : VsockConnection} {header} {now : Nat}

theorem toNat_payloadLenU32 {len} (small : len < 2 ^ 32) : (payloadLenU32 len).toNat = len :=
  (BitVec.toNat_ofNat _ _).trans (Nat.mod_eq_of_lt small)

/-- Adding up with saturation is exact below the limit. -/
theorem releasedBytes_eq {payloads} (small : (payloads.map List.length).sum < 2 ^ 32) :
    releasedBytes payloads = (payloads.map List.length).sum := by
  have general : ∀ total, total + (payloads.map length).sum < 2 ^ 32 →
      payloads.foldl (fun total payload =>
        min (total + (payloadLenU32 payload.length).toNat) (2 ^ 32 - 1)) total =
          total + (payloads.map length).sum := by
    clear small
    induction payloads with
    | nil => exact fun total _ => rfl
    | cons payload payloads ih =>
      intro total small
      rw [map_cons, sum_cons] at small
      rw [foldl_cons, toNat_payloadLenU32 (by omega), Nat.min_eq_left (by omega),
        ih _ (by omega), map_cons, sum_cons, Nat.add_assoc]
  rw [releasedBytes, general 0 (by omega), Nat.zero_add]

theorem peerSide_refreshPeerCredit (header) :
    (connection.refreshPeerCredit header).peerSide = connection.peerSide.refreshed header := by
  simp [peerSide, refreshPeerCredit, refreshed]

/-- Reserved bytes are queued. -/
theorem reservePeerBytes_moves {credit bytes} (small : bytes.length < 2 ^ 32)
    (reserved : connection.credit.reservePeerBytes (payloadLenU32 bytes.length) = some credit) :
    connection.peerSide.Move none 0
      ⟨credit.peer, connection.pendingHostRwPayloads ++ [bytes]⟩ := by
  simp only [reservePeerBytes, Option.bind_eq_bind, Option.bind_eq_some_iff,
    guard_eq_some, Option.pure_def, Option.some.injEq, toNat_payloadLenU32 small,
    exists_const] at reserved
  obtain ⟨fits, bounded, rfl⟩ := reserved
  rw [peer_ensureCreditRequestIfExhausted]
  exact .reserve bytes fits bounded

variable (balanced : connection.peerSide.Balanced)
include balanced

/-- A payload which is taken is delivered. -/
theorem takePendingHostRwPayload_moves {payload rest}
    (front : connection.pendingHostRwPayloads = payload :: rest) :
    connection.peerSide.Move none payload.length connection.takePendingHostRwPayload.peerSide := by
  obtain ⟨reserved, bounded⟩ := balanced
  have fits : payload.length ≤ connection.credit.reservedPeerBytes := by
    change connection.credit.reservedPeerBytes = _ at reserved
    rw [reserved, peerSide, front, queuedBytes_cons]
    exact Nat.le_add_right _ _
  have small : payload.length < 2 ^ 32 := Nat.lt_of_le_of_lt fits bounded
  have commits : connection.credit.commitReservedPeerBytes (payloadLenU32 payload.length) =
      some (ensureCreditRequestIfExhausted { connection.credit with
        reservedPeerBytes := connection.credit.reservedPeerBytes - payload.length
        sentCount := connection.credit.sentCount + payloadLenU32 payload.length }) := by
    simp [commitReservedPeerBytes, toNat_payloadLenU32 small, guard, fits]
  have side : connection.takePendingHostRwPayload.peerSide =
      ⟨{ connection.peerSide.credit with
        sent := connection.peerSide.credit.sent + BitVec.ofNat 32 payload.length
        reserved := connection.peerSide.credit.reserved - payload.length }, rest⟩ := by
    rw [takePendingHostRwPayload, front]
    dsimp only
    rw [commits, Option.getD_some, peerSide, peer_markPacketDelivered,
      peer_ensureCreditRequestIfExhausted]
    rfl
  rw [side]
  exact .commit payload rest front

/-- All that is reserved is released when the queue is dropped. -/
theorem peer_releaseReservedPeerBytes (header) :
    (((connection.credit.refreshPeer header).releaseReservedPeerBytes (BitVec.ofNat 32
      (releasedBytes connection.pendingHostRwPayloads))).getD
        (connection.credit.refreshPeer header)).peer =
      { (connection.peerSide.refreshed header).credit with reserved := 0 } := by
  obtain ⟨reserved, bounded⟩ := balanced
  change connection.credit.reservedPeerBytes =
    (connection.pendingHostRwPayloads.map length).sum at reserved
  have total : (BitVec.ofNat 32 (releasedBytes connection.pendingHostRwPayloads)).toNat =
      connection.credit.reservedPeerBytes := by
    rw [releasedBytes_eq (reserved ▸ bounded), ← reserved]
    exact toNat_payloadLenU32 bounded
  have kept : (connection.credit.refreshPeer header).reservedPeerBytes =
      connection.credit.reservedPeerBytes :=
    congrArg PeerCredit.reserved (connection.credit.peer_refreshPeer header)
  have releases : (connection.credit.refreshPeer header).releaseReservedPeerBytes
      (BitVec.ofNat 32 (releasedBytes connection.pendingHostRwPayloads)) =
        some { connection.credit.refreshPeer header with reservedPeerBytes := 0 } := by
    simp [releaseReservedPeerBytes, guard, total, kept]
  rw [releases, Option.getD_some]
  exact congrArg (fun peer : PeerCredit => { peer with reserved := 0 })
    (connection.credit.peer_refreshPeer header)

/-- Every effect is a move of the peer's side. -/
theorem Effect.moves {brought reply} (effect : connection.Effect brought reply next) :
    connection.peerSide.Move brought reply.payloadBytes next.peerSide := by
  cases effect with
  | stay | suppress | flush => exact .stay _
  | refresh header =>
    rw [peerSide_refreshPeerCredit]
    exact .refresh header
  | promise header =>
    simp only [peerSide, peer_queueCreditUpdatePacket,
      peer_refreshPeer]
    exact .refresh header
  | close header =>
    simp only [peerSide, peer_releaseReservedPeerBytes balanced]
    exact .close header
  | request | answer =>
    simp only [peerSide, peer_ensureCreditRequestIfExhausted]
    exact .stay _
  | reserve bytes credit short reserves =>
    exact reservePeerBytes_moves (Nat.lt_of_le_of_lt short (by decide)) reserves
  | take payload rest front =>
    have length : VsockReply.payloadBytes (.delivered (connection.pendingRxPacket .rw)) =
        payload.length := by
      simp [VsockReply.payloadBytes, pendingRxPacket, applyToPacket, front]
    rw [length]
    exact takePendingHostRwPayload_moves balanced front
  | deliver operation handshake other same =>
    have length : VsockReply.payloadBytes (.delivered (connection.pendingRxPacket operation)) =
        0 := by
      simp [VsockReply.payloadBytes, pendingRxPacket, applyToPacket, other]
    rw [length]
    exact .stay _
  | write header payload reserves credit total pending stream acknowledged accepts writes =>
    simp only [peerSide, peer_recordForwardedBytes,
      peer_acceptGuestBytes _ accepts,
      peer_refreshPeer]
    exact .refresh header
  | acknowledge header =>
    simp only [peerSide, peer_ensureCreditRequestIfExhausted,
      peer_refreshPeer]
    exact .refresh header

/-- Every step is a move of the peer's side. -/
theorem step_moves {event reply} (steps : connection.step event = (reply, some next)) :
    connection.peerSide.Move event.header reply.payloadBytes next.peerSide := by
  obtain ⟨middle, effect, ⟨lifecycle, shutdown, -⟩⟩ := step_effect steps
  have moves := effect.moves balanced
  exact moves

end VsockConnection

open VsockConnection

namespace PeerSide

/-- The guest has been sent `delivered` bytes and has reported `reported` of them. The
connection knows a count which was reported, and counts on no more than the buffer. -/
structure Covered (allocation delivered reported : Nat) (side : PeerSide) : Prop where
  balanced : side.Balanced
  allocated : side.credit.allocation ≤ allocation
  sent : Counts side.credit.sent delivered
  known : ∃ known ≤ reported, known ≤ delivered ∧ Counts side.credit.forwarded known ∧
    delivered + side.credit.reserved ≤ known + allocation

variable {side next : PeerSide} {header : Option VirtioVsockPacketHeader}
  {allocation delivered reported bytes : Nat}

/-- A report which is at most as large as what was delivered. -/
structure Reports (allocation delivered : Nat) (header : VirtioVsockPacketHeader)
    (reported : Nat) : Prop where
  allocation_eq : header.bufferAllocation.toNat = allocation
  forwarded : Counts header.forwardedCount reported
  bounded : reported ≤ delivered

variable (covered : side.Covered allocation delivered reported)
include covered

theorem Covered.refreshed {header later} (ordered : reported ≤ later)
    (reports : Reports allocation delivered header later) :
    (side.refreshed header).Covered allocation delivered later := by
  obtain ⟨balanced, allocated, sent, known, atMost, _, _, covers⟩ := covered
  refine ⟨balanced.moves (.refresh header), reports.allocation_eq.le, sent, later, le_rfl,
    reports.bounded, reports.forwarded, ?_⟩
  change delivered + side.credit.reserved ≤ later + allocation
  omega

/-- A move stays within what the peer has reported. -/
theorem Covered.moves {later} (small : allocation < 2 ^ 32) (ordered : reported ≤ later)
    (reports : ∀ found ∈ header, Reports allocation delivered found later)
    (move : side.Move header bytes next) : next.Covered allocation (delivered + bytes) later := by
  have balanced := covered.balanced.moves move
  cases move with
  | stay =>
    obtain ⟨_, allocated, sent, known, atMost, counted⟩ := covered
    exact ⟨balanced, allocated, sent, known, atMost.trans ordered, counted⟩
  | refresh header => exact covered.refreshed ordered (reports header rfl)
  | close header =>
    obtain ⟨_, allocated, sent, known, atMost, isDelivered, counts, covers⟩ :=
      covered.refreshed ordered (reports header rfl)
    exact ⟨balanced, allocated, sent, known, atMost, isDelivered, counts, by
      change delivered + 0 ≤ known + allocation
      omega⟩
  | reserve payload fits _ =>
    obtain ⟨_, allocated, sent, known, atMost, isDelivered, counts, covers⟩ := covered
    rw [sent.toNat_sub counts isDelivered (by omega)] at fits
    refine ⟨balanced, allocated, sent, known, atMost.trans ordered, isDelivered, counts, ?_⟩
    change delivered + 0 + (side.credit.reserved + payload.length) ≤ known + allocation
    omega
  | commit payload rest front =>
    obtain ⟨before, allocated, sent, known, atMost, isDelivered, counts, covers⟩ := covered
    have reserved := before.reserved_eq
    rw [queuedBytes, front, map_cons, sum_cons] at reserved
    refine ⟨balanced, allocated, sent.add _, known, atMost.trans ordered,
      isDelivered.trans (Nat.le_add_right _ _), counts, ?_⟩
    change delivered + payload.length + (side.credit.reserved - payload.length) ≤
      known + allocation
    omega

end PeerSide

/-- A connection and the guest at its other end. The guest was sent `delivered` bytes, it
has forwarded `forwarded` of them, and the packets which it sent report `reported`. -/
structure Link where
  connection : Option VsockConnection
  (delivered forwarded reported : Nat)

/-- A step of the connection or of the peer. -/
inductive LinkEvent where
  /-- The guest has now forwarded so many bytes. -/
  | forwards (total : Nat)
  /-- The device takes a packet of the guest, which carries a count of the guest. -/
  | packet (event : VsockEvent) (reported : Nat)
  | device (event : VsockEvent)

namespace Link

/-- An event of the connection. -/
def act (link : Link) (event : VsockEvent) : Link :=
  match link.connection with
  | none => link
  | some connection =>
    let (reply, next) := connection.step event
    { link with connection := next, delivered := link.delivered + reply.payloadBytes }

/-- One event. -/
def step (link : Link) : LinkEvent → Link
  | .forwards total => { link with forwarded := total }
  | .packet event reported => { link.act event with reported }
  | .device event => link.act event

/-- A run of events. -/
def run (link : Link) (events : List LinkEvent) : Link := events.foldl step link

/-- The bytes which were read from the host and wait for the guest. -/
def queuedBytes (link : Link) : Nat :=
  (link.connection.map fun connection => connection.peerSide.queuedBytes).getD 0

/-- The guest has a buffer of a fixed size, forwards what it received, and reports in its
packets how much it has forwarded. A packet may be older than the latest count. -/
def Honest (allocation : BitVec 32) (link : Link) : LinkEvent → Prop
  | .forwards total => link.forwarded ≤ total ∧ total ≤ link.delivered
  | .packet event reported => link.reported ≤ reported ∧ reported ≤ link.forwarded ∧
      ∃ header, event.header = some header ∧ header.bufferAllocation = allocation ∧
        header.forwardedCount = BitVec.ofNat 32 reported
  | .device event => event.header = none

/-- The peer is honest in a run. -/
def HonestAll (allocation : BitVec 32) (link : Link) : List LinkEvent → Prop
  | [] => True
  | event :: events => link.Honest allocation event ∧ (link.step event).HonestAll allocation events

/-- A connection which was just opened by the host, or by a guest which has received nothing. -/
inductive Opened (allocation : BitVec 32) : Link → Prop
  | host (localPort : Nat) (stream : HostStream) :
      Opened allocation ⟨some (.fromAccepted localPort stream), 0, 0, 0⟩
  | guest (stream : HostStream) (requestHeader : VirtioVsockPacketHeader)
      (allocated : requestHeader.bufferAllocation = allocation)
      (forwarded : requestHeader.forwardedCount = 0) :
      Opened allocation ⟨some (.fromStream stream requestHeader), 0, 0, 0⟩

/-- The guest has room for what it holds and for what is queued. -/
structure Within (allocation : Nat) (link : Link) : Prop where
  reported : link.reported ≤ link.forwarded
  forwarded : link.forwarded ≤ link.delivered
  held : link.delivered ≤ link.forwarded + allocation
  covered : ∀ connection ∈ link.connection,
    connection.peerSide.Covered allocation link.delivered link.reported

variable {allocation : BitVec 32} {link : Link}

theorem Opened.within (opened : link.Opened allocation) : link.Within allocation.toNat := by
  cases opened with
  | host localPort stream =>
    refine ⟨le_rfl, le_rfl, Nat.zero_le _, ?_⟩
    rintro _ ⟨⟩
    exact ⟨⟨rfl, Nat.two_pow_pos 32⟩, Nat.zero_le _, .zero, 0, le_rfl, le_rfl, .zero, Nat.zero_le _⟩
  | guest stream requestHeader allocated forwarded =>
    refine ⟨le_rfl, le_rfl, Nat.zero_le _, ?_⟩
    rintro _ ⟨⟩
    have side : (fromStream stream requestHeader).peerSide =
        ⟨⟨allocation.toNat, 0, 0, 0⟩, []⟩ := by
      simp [peerSide, fromStream,
        fromPeerHeader, allocated, forwarded]
      exact ⟨rfl, rfl⟩
    rw [side]
    exact ⟨⟨rfl, Nat.two_pow_pos 32⟩, le_rfl, .zero, 0, le_rfl, le_rfl, .zero, Nat.zero_le _⟩

variable {event : VsockEvent} {connection : VsockConnection}

/-- A connection which goes delivers nothing with its last step. -/
theorem payloadBytes_of_removed {reply} (steps : connection.step event = (reply, none)) :
    reply.payloadBytes = 0 := by
  cases event with
  | deliver now =>
    simp only [VsockConnection.step] at steps
    split at steps <;> cases steps
  | expire | guestRst =>
    simp only [VsockConnection.step] at steps
    split at steps <;> cases steps
    rfl
  | _ =>
    obtain ⟨rfl, _⟩ := Prod.ext_iff.mp steps
    rfl

theorem act_of_step {reply next} (present : link.connection = some connection)
    (steps : connection.step event = (reply, next)) :
    link.act event =
      ⟨next, link.delivered + reply.payloadBytes, link.forwarded, link.reported⟩ := by
  rw [act, present]
  dsimp only
  rw [steps]

theorem act_of_removed (absent : link.connection = none) : link.act event = link := by
  rw [act, absent]

section
variable (within : link.Within allocation.toNat)
include within

theorem Within.act {later} (ordered : link.reported ≤ later) (bounded : later ≤ link.forwarded)
    (reports : ∀ header ∈ event.header,
      PeerSide.Reports allocation.toNat link.delivered header later) :
    Within allocation.toNat { link.act event with reported := later } := by
  obtain ⟨_, forwarded, held, covered⟩ := within
  cases present : link.connection with
  | none =>
    rw [act_of_removed present]
    refine ⟨bounded, forwarded, held, fun connection isPresent => ?_⟩
    rw [present] at isPresent
    cases isPresent
  | some connection =>
    rcases steps : connection.step event with ⟨reply, next⟩
    rw [act_of_step present steps]
    cases next with
    | none =>
      rw [payloadBytes_of_removed steps]
      exact ⟨bounded, forwarded, held, fun _ absent => by cases absent⟩
    | some next =>
      have before := covered connection present
      have small : allocation.toNat < 2 ^ 32 := allocation.isLt
      have after := before.moves small ordered reports
        (connection.step_moves before.balanced steps)
      obtain ⟨known, atMost, _, _, covers⟩ := after.known
      have room : link.delivered + reply.payloadBytes ≤ link.forwarded + allocation.toNat := by
        omega
      refine ⟨bounded, forwarded.trans (Nat.le_add_right _ _), room, ?_⟩
      rintro _ ⟨⟩
      exact after

/-- An honest step stays within the peer's credit. -/
theorem Within.step {event} (honest : link.Honest allocation event) :
    (link.step event).Within allocation.toNat := by
  cases event with
  | forwards total =>
    obtain ⟨more, received⟩ := honest
    obtain ⟨reported, forwarded, held, covered⟩ := within
    refine ⟨reported.trans more, received, ?_, covered⟩
    change link.delivered ≤ total + allocation.toNat
    omega
  | packet event reported =>
    obtain ⟨ordered, bounded, header, isHeader, allocated, counted⟩ := honest
    refine within.act ordered bounded ?_
    intro found isFound
    rw [isHeader] at isFound
    cases isFound
    exact ⟨by rw [allocated], counted, bounded.trans within.forwarded⟩
  | device event =>
    have noHeader : event.header = none := honest
    have same : { link.act event with reported := link.reported } = link.act event := by
      cases present : link.connection with
      | none => rw [act_of_removed present]
      | some connection => rw [act_of_step present rfl]
    change (link.act event).Within allocation.toNat
    rw [← same]
    exact within.act le_rfl within.reported (by rw [noHeader]; nofun)

/-- An honest run stays within the peer's credit. -/
theorem Within.run {events} (honest : link.HonestAll allocation events) :
    (link.run events).Within allocation.toNat := by
  induction events generalizing link with
  | nil => exact within
  | cons event events ih => exact ih (within.step honest.1) honest.2

end

/-- Against an honest guest, what the guest holds and what is queued for it fit its buffer,
and what is reserved is what is queued. -/
theorem peer_credit_safe (allocation : BitVec 32) (link : Link) (opened : link.Opened allocation)
    (events : List LinkEvent) (honest : link.HonestAll allocation events) :
    (link.run events).delivered - (link.run events).forwarded + (link.run events).queuedBytes ≤
        allocation.toNat ∧
      ∀ connection ∈ (link.run events).connection,
        connection.credit.reservedPeerBytes =
          (connection.pendingHostRwPayloads.map List.length).sum := by
  have within := opened.within.run honest
  constructor
  · obtain ⟨reported, forwarded, held, covered⟩ := within
    cases present : (link.run events).connection with
    | none =>
      rw [queuedBytes, present]
      change _ - _ + 0 ≤ _
      omega
    | some connection =>
      obtain ⟨balanced, _, _, known, atMost, _, _, covers⟩ := covered connection present
      rw [queuedBytes, present]
      change _ - _ + connection.peerSide.queuedBytes ≤ _
      rw [← balanced.reserved_eq]
      omega
  · intro connection present
    exact (within.covered connection present).balanced.reserved_eq

/-- A guest with a buffer of eight bytes opens a connection. -/
def eightBytes : VirtioVsockPacketHeader := ⟨0, 0, 8, 0⟩

def eightByteLink : Link := ⟨some (.fromStream ⟨[], []⟩ eightBytes), 0, 0, 0⟩

/-- Five bytes arrive from the host, the guest forwards three of them and says so, and four
more bytes are read. -/
def eightByteEvents : List LinkEvent :=
  [.device (.deliver 0), .device (.hostReadable (.ok [1, 2, 3, 4, 5]) 0), .device (.deliver 0),
    .forwards 3, .packet (.guestCreditUpdate { eightBytes with forwardedCount := 3 }) 3,
    .device (.hostReadable (.ok [6, 7, 8, 9]) 0)]

theorem peer_credit_safe_eight_bytes :
    (eightByteLink.run eightByteEvents).delivered = 5 ∧
      (eightByteLink.run eightByteEvents).queuedBytes = 4 ∧
      (eightByteLink.run eightByteEvents).delivered -
        (eightByteLink.run eightByteEvents).forwarded +
          (eightByteLink.run eightByteEvents).queuedBytes ≤ 8 := by
  have honest : eightByteLink.HonestAll 8 eightByteEvents := by
    refine ⟨rfl, rfl, rfl, ⟨by decide, by decide +kernel⟩, ⟨by decide, by decide, _, rfl, rfl, rfl⟩,
      rfl, trivial⟩
  exact ⟨by decide +kernel, by decide +kernel,
    (peer_credit_safe 8 eightByteLink (.guest _ _ rfl rfl) eightByteEvents honest).1⟩

end Link
end Bangbang.Vsock
