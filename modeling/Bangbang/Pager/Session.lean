import Bangbang.Base.Action
import Bangbang.Base.Table
import Bangbang.Pager.Frame

/-!
# Pager sessions

The two ends of the pager protocol. A `VmmSession` offers limits, configures
regions, issues page and removal requests, and shuts down once they are answered.
A `PeerSession` selects limits, collects the regions, and answers requests. Each
end checks every frame of the other one and ends its session on a mismatch.
-/

namespace Bangbang.Pager

open Bangbang.Action

inductive PagerVmmState where
  | new
  | awaitHelloAck
  | configureRegions
  | awaitReady
  | active
  | awaitCancelled
  | awaitShutdownAck
  | closed
  | terminal
  deriving DecidableEq, Repr

inductive PagerPeerState where
  | awaitHello
  | selectLimits
  | configureRegions
  | readyToConfirm
  | active
  | readyToCancel
  | readyToShutdown
  | closed
  | terminal
  deriving DecidableEq, Repr

inductive PendingRequest where
  | page (request : PagerPageRequest)
  | remove (request : PagerRemoveRequest)
  deriving DecidableEq

def PendingRequest.request : PendingRequest → PagerRequestId
  | .page request => request.request
  | .remove request => request.request

def saturatingAdd (left right : BitVec 64) : Nat :=
  (checkedAdd left.toNat right.toNat).getD (wordLimit - 1)

def sourceRangesOverlap (first second : PagerRegion) : Bool :=
  first.sourceOffset.toNat < saturatingAdd second.sourceOffset second.length ∧
    second.sourceOffset.toNat < saturatingAdd first.sourceOffset first.length

def pageRangeIsValid (region : PagerRegion) (offset : BitVec 64) (length pageSize : BitVec 32) :
    Bool :=
  length = pageSize ∧ pageSize.toNat ∣ offset.toNat ∧
    (checkedAdd offset.toNat length.toNat).any (· ≤ region.length.toNat)

def removeRangeIsValid (region : PagerRegion) (offset length : BitVec 64) (pageSize : BitVec 32) :
    Bool :=
  length ≠ 0 ∧ pageSize.toNat ∣ offset.toNat ∧ pageSize.toNat ∣ length.toNat ∧
    (checkedAdd offset.toNat length.toNat).any (· ≤ region.length.toNat)

/-- Refuse a region identity which occurs twice. -/
def rejectDuplicates : Table PagerRegionId PagerRegion → List PagerRegion → Except PagerError Unit
  | _, [] => .ok ()
  | identities, region :: regions => do
      rejectIf (identities.lookup region.id).isSome .invalidConfiguration
      rejectDuplicates (identities.insert region.id region) regions

/-- Refuse a region whose source range meets that of a later one. -/
def rejectOverlaps : List PagerRegion → Except PagerError Unit
  | [] => .ok ()
  | region :: regions => do
      rejectIf (regions.any (sourceRangesOverlap region)) .invalidConfiguration
      rejectOverlaps regions

def validateRegions (limits : PagerLimits) (regions : List PagerRegion) :
    Except PagerError Unit := do
  rejectIf (regions.length ≠ limits.regionCount.toNat ∨
    regions.any fun region => ¬ region.isValidFor limits.pageSize) .invalidConfiguration
  rejectDuplicates ∅ regions
  rejectOverlaps regions

/-- The end which owns the guest memory. -/
structure VmmSession where
  session : PagerSessionId
  offered : PagerLimits
  selected : Option PagerLimits
  regions : List PagerRegion
  nextRegion : Nat
  state : PagerVmmState
  nextRequest : BitVec 64
  outstanding : Table PagerRequestId PendingRequest

namespace VmmSession

abbrev M := Action VmmSession PagerError

def new (session : PagerSessionId) (offered : PagerLimits) (regions : List PagerRegion) :
    Except PagerError VmmSession := do
  validateRegions offered regions
  return {
    session, offered, selected := none, regions, nextRegion := 0, state := .new,
    nextRequest := 1, outstanding := ∅ }

def frame (vmm : VmmSession) (message : PagerMessage) : PagerFrame := ⟨vmm.session, message⟩

def hello : M PagerFrame := do
  let vmm ← get
  check (rejectIf (vmm.state ≠ .new) .invalidLifecycle)
  modify fun vmm => { vmm with state := .awaitHelloAck }
  return vmm.frame (.hello vmm.offered)

def nextRegionFrame : M PagerFrame := do
  let vmm ← get
  check (rejectIf (vmm.state ≠ .configureRegions) .invalidLifecycle)
  let region ← check (okOr (vmm.regions[vmm.nextRegion]?) .invalidLifecycle)
  let next ← check (okOr (checkedAdd vmm.nextRegion 1) .invalidLifecycle)
  modify fun vmm => { vmm with nextRegion := next }
  return vmm.frame (.region region)

def start : M PagerFrame := do
  let vmm ← get
  check (rejectIf (vmm.state ≠ .configureRegions ∨ vmm.nextRegion ≠ vmm.regions.length)
    .invalidLifecycle)
  modify fun vmm => { vmm with state := .awaitReady }
  return vmm.frame .start

def requireActiveCapacity (vmm : VmmSession) : Except PagerError Unit := do
  rejectIf (vmm.state ≠ .active) .invalidLifecycle
  let selected ← okOr vmm.selected .invalidLifecycle
  rejectIf (vmm.outstanding.size ≥ selected.maxInFlight.toNat) .limitExceeded

def findRegion (vmm : VmmSession) (id : PagerRegionId) : Except PagerError PagerRegion :=
  okOr (vmm.regions.find? fun region => region.id = id) .invalidConfiguration

def allocateRequestId : M PagerRequestId := do
  let vmm ← get
  let next ← check (okOr (checkedAdd vmm.nextRequest.toNat 1) .limitExceeded)
  let request ← check ((NonzeroIdentifier.new vmm.nextRequest).mapError fun _ => .limitExceeded)
  modify fun vmm => { vmm with nextRequest := BitVec.ofNat 64 next }
  return request

/-- Record a new request; an identity which is already pending is an error. -/
def insertOutstanding (pending : PendingRequest) : M Unit := do
  let vmm ← get
  modify fun vmm => { vmm with outstanding := vmm.outstanding.insert pending.request pending }
  check (rejectIf (vmm.outstanding.lookup pending.request).isSome .invalidLifecycle)

def requestPage (region : PagerRegionId) (generation : PagerGeneration) (offset : BitVec 64)
    (access : PageAccess) : M PagerFrame := do
  let vmm ← get
  check vmm.requireActiveCapacity
  let selected ← check (okOr vmm.selected .invalidLifecycle)
  let configured ← check (vmm.findRegion region)
  let length := selected.pageSize
  check (rejectIf (¬ pageRangeIsValid configured offset length selected.pageSize)
    .invalidConfiguration)
  let request : PagerPageRequest :=
    { request := ← allocateRequestId, region, access, generation, offset, length }
  insertOutstanding (.page request)
  return vmm.frame (.pageRequest request)

def remove (region : PagerRegionId) (generation : PagerGeneration) (offset length : BitVec 64) :
    M PagerFrame := do
  let vmm ← get
  check vmm.requireActiveCapacity
  let selected ← check (okOr vmm.selected .invalidLifecycle)
  let configured ← check (vmm.findRegion region)
  check (rejectIf (¬ removeRangeIsValid configured offset length selected.pageSize)
    .invalidConfiguration)
  let request : PagerRemoveRequest :=
    { request := ← allocateRequestId, region, generation, offset, length }
  insertOutstanding (.remove request)
  return vmm.frame (.remove request)

def cancel (reason : CancelReason) : M PagerFrame := do
  let vmm ← get
  check (rejectIf (¬ (vmm.state = .awaitHelloAck ∨ vmm.state = .configureRegions ∨
    vmm.state = .awaitReady ∨ vmm.state = .active)) .invalidLifecycle)
  modify fun vmm => { vmm with outstanding := ∅, state := .awaitCancelled }
  return vmm.frame (.cancel reason)

def shutdown : M PagerFrame := do
  let vmm ← get
  check (rejectIf (vmm.state ≠ .active ∨ vmm.outstanding.size ≠ 0) .invalidLifecycle)
  modify fun vmm => { vmm with state := .awaitShutdownAck }
  return vmm.frame .shutdown

def terminal (code : TerminalCode) : M PagerFrame := do
  let vmm ← get
  check (rejectIf (vmm.state = .new ∨ vmm.state = .closed ∨ vmm.state = .terminal)
    .invalidLifecycle)
  modify fun vmm => { vmm with outstanding := ∅, state := .terminal }
  return vmm.frame (.terminal code)

def removeOutstanding (request : PagerRequestId) : M Unit := do
  let vmm ← get
  modify fun vmm => { vmm with outstanding := vmm.outstanding.erase request }
  check (rejectIf (vmm.outstanding.lookup request).isNone .invalidPeerState)

def completePage (response : PagerPageRequest) (data : Option (List UInt8)) : M Unit := do
  let vmm ← get
  let expected ← check (okOr (vmm.outstanding.lookup response.request) .invalidPeerState)
  check (rejectIf (expected ≠ .page response ∨
    data.any fun bytes => bytes.length ≠ response.length.toNat) .invalidPeerState)
  removeOutstanding response.request

def completeRemove (response : PagerRemoveRequest) : M Unit := do
  let vmm ← get
  check (rejectIf (vmm.outstanding.lookup response.request ≠ some (.remove response))
    .invalidPeerState)
  removeOutstanding response.request

def receiveInner (frame : PagerFrame) : M Unit := do
  let vmm ← get
  check (rejectIf (frame.session ≠ vmm.session) .invalidPeerState)
  match vmm.state, frame.message with
  | .awaitHelloAck, .helloAck selected =>
    check (rejectIf (¬ selected.isSelectionFor vmm.offered) .invalidLifecycle)
    modify fun vmm => { vmm with selected := some selected, state := .configureRegions }
  | .awaitReady, .ready => modify fun vmm => { vmm with state := .active }
  | .active, .pageData response data => completePage response (some data)
  | .active, .pageZero response => completePage response none
  | .active, .removed response => completeRemove response
  | .awaitCancelled, .cancelled => modify fun vmm => { vmm with state := .closed }
  | .awaitShutdownAck, .shutdownAck => modify fun vmm => { vmm with state := .closed }
  | .awaitHelloAck, .terminal _ | .configureRegions, .terminal _ | .awaitReady, .terminal _
  | .active, .terminal _ | .awaitCancelled, .terminal _ | .awaitShutdownAck, .terminal _ =>
    modify fun vmm => { vmm with outstanding := ∅, state := .terminal }
  | _, _ => check (.error .invalidLifecycle)

/-- Apply one frame of the peer; a refused frame ends the session. -/
def receive (vmm : VmmSession) (frame : PagerFrame) : Except PagerError PagerFrame × VmmSession :=
  match (receiveInner frame).outcome vmm with
  | (.ok _, next) => (.ok frame, next)
  | (.error error, next) => (.error error, { next with outstanding := ∅, state := .terminal })

end VmmSession

/-- The end which serves the snapshot source. -/
structure PeerSession where
  session : Option PagerSessionId
  (offered selected : Option PagerLimits)
  regions : Table PagerRegionId PagerRegion
  state : PagerPeerState
  lastRequest : BitVec 64
  outstanding : Table PagerRequestId PendingRequest

namespace PeerSession

abbrev M := Action PeerSession PagerError

def new : PeerSession where
  session := none
  offered := none
  selected := none
  regions := ∅
  state := .awaitHello
  lastRequest := 0
  outstanding := ∅

def frame (message : PagerMessage) : M PagerFrame := do
  let peer ← get
  let session ← check (okOr peer.session .invalidLifecycle)
  return ⟨session, message⟩

def helloAck (selected : PagerLimits) : M PagerFrame := do
  let peer ← get
  let offered ← check (okOr peer.offered .invalidLifecycle)
  check (rejectIf (peer.state ≠ .selectLimits ∨ ¬ selected.isSelectionFor offered)
    .invalidConfiguration)
  modify fun peer => { peer with selected := some selected, state := .configureRegions }
  frame (.helloAck selected)

def ready : M PagerFrame := do
  let peer ← get
  check (rejectIf (peer.state ≠ .readyToConfirm) .invalidLifecycle)
  modify fun peer => { peer with state := .active }
  frame .ready

def removeOutstanding (request : PagerRequestId) : M Unit := do
  let peer ← get
  modify fun peer => { peer with outstanding := peer.outstanding.erase request }
  check (rejectIf (peer.outstanding.lookup request).isNone .invalidPeerState)

/-- The metadata of a pending page request. -/
def pendingPage (peer : PeerSession) (request : PagerRequestId) :
    Except PagerError PagerPageRequest :=
  match peer.outstanding.lookup request with
  | some (.page metadata) => .ok metadata
  | _ => .error .invalidPeerState

/-- The metadata of a pending removal. -/
def pendingRemove (peer : PeerSession) (request : PagerRequestId) :
    Except PagerError PagerRemoveRequest :=
  match peer.outstanding.lookup request with
  | some (.remove metadata) => .ok metadata
  | _ => .error .invalidPeerState

def pageData (request : PagerRequestId) (data : List UInt8) : M PagerFrame := do
  let peer ← get
  check (rejectIf (peer.state ≠ .active) .invalidLifecycle)
  let metadata ← check (peer.pendingPage request)
  check (rejectIf (data.length ≠ metadata.length.toNat) .invalidConfiguration)
  removeOutstanding request
  frame (.pageData metadata data)

def pageZero (request : PagerRequestId) : M PagerFrame := do
  let peer ← get
  check (rejectIf (peer.state ≠ .active) .invalidLifecycle)
  let metadata ← check (peer.pendingPage request)
  removeOutstanding request
  frame (.pageZero metadata)

def removed (request : PagerRequestId) : M PagerFrame := do
  let peer ← get
  check (rejectIf (peer.state ≠ .active) .invalidLifecycle)
  let metadata ← check (peer.pendingRemove request)
  removeOutstanding request
  frame (.removed metadata)

def cancelled : M PagerFrame := do
  let peer ← get
  check (rejectIf (peer.state ≠ .readyToCancel) .invalidLifecycle)
  modify fun peer => { peer with state := .closed }
  frame .cancelled

def shutdownAck : M PagerFrame := do
  let peer ← get
  check (rejectIf (peer.state ≠ .readyToShutdown) .invalidLifecycle)
  modify fun peer => { peer with state := .closed }
  frame .shutdownAck

def terminal (code : TerminalCode) : M PagerFrame := do
  let peer ← get
  check (rejectIf (peer.state = .awaitHello ∨ peer.state = .closed ∨ peer.state = .terminal)
    .invalidLifecycle)
  modify fun peer => { peer with outstanding := ∅, state := .terminal }
  frame (.terminal code)

def acceptRegion (region : PagerRegion) : M Unit := do
  let peer ← get
  let selected ← check (okOr peer.selected .invalidLifecycle)
  check (rejectIf (¬ region.isValidFor selected.pageSize ∨
    peer.regions.size ≥ selected.regionCount.toNat ∨ (peer.regions.lookup region.id).isSome ∨
    peer.regions.values.any fun existing => sourceRangesOverlap existing region) .invalidPeerState)
  modify fun peer => { peer with regions := peer.regions.insert region.id region }

def acceptRequestIdAndCapacity (peer : PeerSession) (request : PagerRequestId) :
    Except PagerError Unit := do
  let selected ← okOr peer.selected .invalidLifecycle
  rejectIf (request.get.toNat ≤ peer.lastRequest.toNat) .invalidPeerState
  rejectIf (peer.outstanding.size ≥ selected.maxInFlight.toNat) .limitExceeded

def acceptPage (request : PagerPageRequest) : M Unit := do
  let peer ← get
  check (peer.acceptRequestIdAndCapacity request.request)
  let selected ← check (okOr peer.selected .invalidLifecycle)
  let region ← check (okOr (peer.regions.lookup request.region) .invalidPeerState)
  check (rejectIf (¬ pageRangeIsValid region request.offset request.length selected.pageSize)
    .invalidPeerState)
  modify fun peer => { peer with
    lastRequest := request.request.get
    outstanding := peer.outstanding.insert request.request (.page request) }

def acceptRemove (request : PagerRemoveRequest) : M Unit := do
  let peer ← get
  check (peer.acceptRequestIdAndCapacity request.request)
  let selected ← check (okOr peer.selected .invalidLifecycle)
  let region ← check (okOr (peer.regions.lookup request.region) .invalidPeerState)
  check (rejectIf (¬ removeRangeIsValid region request.offset request.length selected.pageSize)
    .invalidPeerState)
  modify fun peer => { peer with
    lastRequest := request.request.get
    outstanding := peer.outstanding.insert request.request (.remove request) }

def acceptStart : M Unit := do
  let peer ← get
  let selected ← check (okOr peer.selected .invalidLifecycle)
  check (rejectIf (peer.regions.size ≠ selected.regionCount.toNat) .invalidPeerState)
  modify fun peer => { peer with state := .readyToConfirm }

def receiveInner (frame : PagerFrame) : M Unit := do
  let peer ← get
  check (rejectIf (peer.session.any fun session => frame.session ≠ session) .invalidPeerState)
  match peer.state, frame.message with
  | .awaitHello, .hello offered =>
    modify fun peer => { peer with
      session := some frame.session, offered := some offered, state := .selectLimits }
  | .configureRegions, .region region => acceptRegion region
  | .configureRegions, .start => acceptStart
  | .active, .pageRequest request => acceptPage request
  | .active, .remove request => acceptRemove request
  | .selectLimits, .cancel _ | .configureRegions, .cancel _ | .readyToConfirm, .cancel _
  | .active, .cancel _ =>
    modify fun peer => { peer with outstanding := ∅, state := .readyToCancel }
  | .active, .shutdown =>
    check (rejectIf (peer.outstanding.size ≠ 0) .invalidLifecycle)
    modify fun peer => { peer with state := .readyToShutdown }
  | .selectLimits, .terminal _ | .configureRegions, .terminal _ | .readyToConfirm, .terminal _
  | .active, .terminal _ | .readyToCancel, .terminal _ | .readyToShutdown, .terminal _ =>
    modify fun peer => { peer with outstanding := ∅, state := .terminal }
  | _, _ => check (.error .invalidLifecycle)

/-- Apply one frame of the VMM; a refused frame ends the session. -/
def receive (peer : PeerSession) (frame : PagerFrame) :
    Except PagerError PagerFrame × PeerSession :=
  match (receiveInner frame).outcome peer with
  | (.ok _, next) => (.ok frame, next)
  | (.error error, next) => (.error error, { next with outstanding := ∅, state := .terminal })

end PeerSession

/-- The calls which make a VMM emit a frame. -/
inductive VmmCall where
  | hello
  | nextRegion
  | start
  | requestPage (region : PagerRegionId) (generation : PagerGeneration) (offset : BitVec 64)
      (access : PageAccess)
  | remove (region : PagerRegionId) (generation : PagerGeneration) (offset length : BitVec 64)
  | cancel (reason : CancelReason)
  | shutdown
  | terminal (code : TerminalCode)

/-- The calls which make a peer emit a frame. -/
inductive PeerCall where
  | helloAck (selected : PagerLimits)
  | ready
  | pageData (request : PagerRequestId) (data : List UInt8)
  | pageZero (request : PagerRequestId)
  | removed (request : PagerRequestId)
  | cancelled
  | shutdownAck
  | terminal (code : TerminalCode)

def VmmCall.action : VmmCall → VmmSession.M PagerFrame
  | .hello => VmmSession.hello
  | .nextRegion => VmmSession.nextRegionFrame
  | .start => VmmSession.start
  | .requestPage region generation offset access =>
    VmmSession.requestPage region generation offset access
  | .remove region generation offset length => VmmSession.remove region generation offset length
  | .cancel reason => VmmSession.cancel reason
  | .shutdown => VmmSession.shutdown
  | .terminal code => VmmSession.terminal code

def PeerCall.action : PeerCall → PeerSession.M PagerFrame
  | .helloAck selected => PeerSession.helloAck selected
  | .ready => PeerSession.ready
  | .pageData request data => PeerSession.pageData request data
  | .pageZero request => PeerSession.pageZero request
  | .removed request => PeerSession.removed request
  | .cancelled => PeerSession.cancelled
  | .shutdownAck => PeerSession.shutdownAck
  | .terminal code => PeerSession.terminal code

end Bangbang.Pager
