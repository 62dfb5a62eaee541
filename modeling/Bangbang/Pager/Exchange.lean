import Bangbang.Pager.FrameCodec
import Bangbang.Pager.Session

/-!
# What the calls of a session do

For every call which an end accepts, the condition under which it is accepted, the
frame, and the state it leaves. For every frame which an end receives, a condition
under which it is accepted. Page and removal requests are treated alike through
`PendingRequest`.
-/

namespace Bangbang.Pager

open Bangbang.Action

namespace PendingRequest

def region : PendingRequest → PagerRegionId
  | .page request => request.region
  | .remove request => request.region

/-- The frame content which issues a request. -/
def message : PendingRequest → PagerMessage
  | .page request => .pageRequest request
  | .remove request => .remove request

/-- The range check of a request. -/
def rangeIsValid (region : PagerRegion) (pageSize : BitVec 32) : PendingRequest → Bool
  | .page request => pageRangeIsValid region request.offset request.length pageSize
  | .remove request => removeRangeIsValid region request.offset request.length pageSize

end PendingRequest

/-- The frame contents which answer a request. -/
inductive Answers : PendingRequest → PagerMessage → Prop
  | pageData (request : PagerPageRequest) (data : List UInt8)
      (sameLength : data.length = request.length.toNat) :
      Answers (.page request) (.pageData request data)
  | pageZero (request : PagerPageRequest) : Answers (.page request) (.pageZero request)
  | removed (request : PagerRemoveRequest) : Answers (.remove request) (.removed request)

namespace VmmSession

variable {vmm next : VmmSession} {frame}

/-- The first frame offers the limits. -/
theorem hello_eq_ok : hello.outcome vmm = (.ok frame, next) ↔
    vmm.state = .new ∧ vmm.frame (.hello vmm.offered) = frame ∧
      { vmm with state := .awaitHelloAck } = next := by
  simp only [hello, outcome_get_bind, outcome_check_bind_eq_ok, outcome_modify_bind, outcome_pure,
    Prod.mk.injEq, Except.ok.injEq, rejectIf_eq_ok, not_not, exists_const]

/-- The regions are sent in order. -/
theorem nextRegionFrame_eq_ok : nextRegionFrame.outcome vmm = (.ok frame, next) ↔
    vmm.state = .configureRegions ∧ ∃ region, vmm.regions[vmm.nextRegion]? = some region ∧
      vmm.nextRegion + 1 < wordLimit ∧ vmm.frame (.region region) = frame ∧
      { vmm with nextRegion := vmm.nextRegion + 1 } = next := by
  simp only [nextRegionFrame, outcome_get_bind, outcome_check_bind_eq_ok, outcome_modify_bind,
    outcome_pure, Prod.mk.injEq, Except.ok.injEq, rejectIf_eq_ok, okOr_eq_ok, checkedAdd_eq_some,
    not_not, exists_const, and_assoc, exists_and_left, exists_eq_left']

/-- A start follows the last region. -/
theorem start_eq_ok : start.outcome vmm = (.ok frame, next) ↔
    vmm.state = .configureRegions ∧ vmm.nextRegion = vmm.regions.length ∧
      vmm.frame .start = frame ∧ { vmm with state := .awaitReady } = next := by
  simp only [start, outcome_get_bind, outcome_check_bind_eq_ok, outcome_modify_bind, outcome_pure,
    Prod.mk.injEq, Except.ok.injEq, rejectIf_eq_ok, not_or, not_not, exists_const, and_assoc]

/-- A shutdown waits until nothing is outstanding. -/
theorem shutdown_eq_ok : shutdown.outcome vmm = (.ok frame, next) ↔
    vmm.state = .active ∧ vmm.outstanding.size = 0 ∧ vmm.frame .shutdown = frame ∧
      { vmm with state := .awaitShutdownAck } = next := by
  simp only [shutdown, outcome_get_bind, outcome_check_bind_eq_ok, outcome_modify_bind,
    outcome_pure, Prod.mk.injEq, Except.ok.injEq, rejectIf_eq_ok, not_or, not_not, exists_const,
    and_assoc]

theorem cancel_eq_ok {reason} : (cancel reason).outcome vmm = (.ok frame, next) ↔
    (vmm.state = .awaitHelloAck ∨ vmm.state = .configureRegions ∨ vmm.state = .awaitReady ∨
        vmm.state = .active) ∧
      vmm.frame (.cancel reason) = frame ∧
      { vmm with outstanding := ∅, state := .awaitCancelled } = next := by
  simp only [cancel, outcome_get_bind, outcome_check_bind_eq_ok, outcome_modify_bind,
    outcome_pure, Prod.mk.injEq, Except.ok.injEq, rejectIf_eq_ok, not_not, exists_const]

theorem terminal_eq_ok {code} : (terminal code).outcome vmm = (.ok frame, next) ↔
    ¬ (vmm.state = .new ∨ vmm.state = .closed ∨ vmm.state = .terminal) ∧
      vmm.frame (.terminal code) = frame ∧
      { vmm with outstanding := ∅, state := .terminal } = next := by
  simp only [terminal, outcome_get_bind, outcome_check_bind_eq_ok, outcome_modify_bind,
    outcome_pure, Prod.mk.injEq, Except.ok.injEq, rejectIf_eq_ok, exists_const]

/-- A request needs an active session with room. -/
theorem requireActiveCapacity_eq_ok {done} : vmm.requireActiveCapacity = .ok done ↔
    vmm.state = .active ∧ ∃ limits, vmm.selected = some limits ∧
      vmm.outstanding.size < limits.maxInFlight.toNat := by
  simp [requireActiveCapacity, bind_eq_ok]

/-- Request ids increase. -/
theorem allocateRequestId_eq_ok {request} :
    allocateRequestId.outcome vmm = (.ok request, next) ↔
      vmm.nextRequest.toNat + 1 < wordLimit ∧ vmm.nextRequest = request.get ∧
        { vmm with nextRequest := BitVec.ofNat 64 (vmm.nextRequest.toNat + 1) } = next := by
  have made : ∀ id : PagerRequestId,
      NonzeroIdentifier.new vmm.nextRequest = .ok id ↔ vmm.nextRequest = id.get := by
    intro id
    rw [← NonzeroIdentifier.decode_eq_ok, NonzeroIdentifier.decode, mapError_eq_ok]
  simp only [allocateRequestId, outcome_get_bind, outcome_check_bind_eq_ok, outcome_modify_bind,
    outcome_pure, Prod.mk.injEq, Except.ok.injEq, okOr_eq_ok, checkedAdd_eq_some, mapError_eq_ok,
    made, and_assoc, exists_and_left, exists_eq_left']
  constructor
  · rintro ⟨left, id, same, rfl, rfl⟩
    exact ⟨left, same, rfl⟩
  · rintro ⟨left, same, rfl⟩
    exact ⟨left, request, same, rfl, rfl⟩

variable {pending : PendingRequest}

/-- A request is outstanding once. -/
theorem insertOutstanding_eq_ok {done} :
    (insertOutstanding pending).outcome vmm = (.ok done, next) ↔
      vmm.outstanding.lookup pending.request = none ∧
        { vmm with outstanding := vmm.outstanding.insert pending.request pending } = next := by
  simp [insertOutstanding]

/-- The state after a request was issued. -/
def issued (vmm : VmmSession) (pending : PendingRequest) : VmmSession :=
  { vmm with
    nextRequest := BitVec.ofNat 64 (vmm.nextRequest.toNat + 1)
    outstanding := vmm.outstanding.insert pending.request pending }

/-- When a request is issued. -/
structure Issues (vmm : VmmSession) (pending : PendingRequest) (limits : PagerLimits)
    (region : PagerRegion) : Prop where
  active : vmm.state = .active
  selected : vmm.selected = some limits
  room : vmm.outstanding.size < limits.maxInFlight.toNat
  configured : vmm.regions.find? (fun region => region.id = pending.region) = some region
  inRange : pending.rangeIsValid region limits.pageSize
  identity : vmm.nextRequest = pending.request.get
  identitiesLeft : vmm.nextRequest.toNat + 1 < wordLimit
  fresh : vmm.outstanding.lookup pending.request = none

variable {generation target}

/-- Pages and removals are requested in one way. -/
theorem request_eq_ok {offset call}
    (requests : (∃ access, call = requestPage target generation offset access) ∨
      ∃ length, call = remove target generation offset length)
    (accepted : call.outcome vmm = (.ok frame, next)) :
    ∃ pending limits region, vmm.Issues pending limits region ∧
      vmm.frame pending.message = frame ∧ vmm.issued pending = next := by
  rcases requests with ⟨access, rfl⟩ | ⟨length, rfl⟩
  all_goals
    simp only [requestPage, remove, outcome_get_bind, outcome_check_bind_eq_ok,
      requireActiveCapacity_eq_ok, findRegion, okOr_eq_ok, rejectIf_eq_ok, not_not,
      exists_const] at accepted
    simp only [outcome_bind_eq_ok, allocateRequestId_eq_ok, insertOutstanding_eq_ok, outcome_pure,
      Prod.mk.injEq, Except.ok.injEq] at accepted
    obtain ⟨⟨active, limits, selected, room⟩, _, again, region, configured, inRange, id, _,
      ⟨left, identity, rfl⟩, _, _, ⟨fresh, rfl⟩, sent, rfl⟩ := accepted
    obtain rfl := Option.some.inj (selected.symm.trans again)
    refine ⟨_, limits, region, ?_, ?_, rfl⟩
    · exact ⟨active, selected, room, configured, inRange, identity, left, fresh⟩
    · exact sent

variable {message}

/-- A frame of this session is received when its content is accepted. -/
theorem receive_eq_ok :
    vmm.receive (vmm.frame message) = (.ok (vmm.frame message), next) ↔
      (receiveInner (vmm.frame message)).outcome vmm = (.ok (), next) := by
  unfold receive
  split
  · rename_i done state answer
    simp [answer]
  · rename_i error state answer
    simp [answer]

theorem receive_helloAck {limits} (waiting : vmm.state = .awaitHelloAck)
    (selection : limits.isSelectionFor vmm.offered) :
    vmm.receive (vmm.frame (.helloAck limits)) = (.ok (vmm.frame (.helloAck limits)),
      { vmm with selected := some limits, state := .configureRegions }) := by
  rw [receive_eq_ok]
  simp [receiveInner, frame, waiting, selection]

/-- A ready session becomes active. -/
theorem receive_ready (waiting : vmm.state = .awaitReady) :
    vmm.receive (vmm.frame .ready) = (.ok (vmm.frame .ready), { vmm with state := .active }) := by
  rw [receive_eq_ok]
  simp [receiveInner, frame, waiting]

theorem receive_shutdownAck (waiting : vmm.state = .awaitShutdownAck) :
    vmm.receive (vmm.frame .shutdownAck) =
      (.ok (vmm.frame .shutdownAck), { vmm with state := .closed }) := by
  rw [receive_eq_ok]
  simp [receiveInner, frame, waiting]

/-- An answer to an outstanding request is accepted and settles it. -/
theorem receive_answer (active : vmm.state = .active)
    (found : vmm.outstanding.lookup pending.request = some pending)
    (answer : Answers pending message) :
    vmm.receive (vmm.frame message) = (.ok (vmm.frame message),
      { vmm with outstanding := vmm.outstanding.erase pending.request }) := by
  rw [receive_eq_ok]
  cases answer <;>
    simp_all [receiveInner, frame, completePage, completeRemove, removeOutstanding,
      PendingRequest.request]

end VmmSession

namespace PeerSession

variable {peer next : PeerSession} {frame : PagerFrame} {session}

theorem frame_eq_ok {message} :
    (PeerSession.frame message).outcome peer = (.ok frame, next) ↔
      ∃ session, peer.session = some session ∧ ⟨session, message⟩ = frame ∧ peer = next := by
  simp only [PeerSession.frame, outcome_get_bind, outcome_check_bind_eq_ok, outcome_pure,
    Prod.mk.injEq, Except.ok.injEq, okOr_eq_ok]

variable {limits : PagerLimits}

/-- The peer selects within the offered limits. -/
theorem helloAck_eq_ok :
    (helloAck limits).outcome peer = (.ok frame, next) ↔
      ∃ offered, peer.offered = some offered ∧ peer.state = .selectLimits ∧
        limits.isSelectionFor offered ∧ ∃ session, peer.session = some session ∧
          ⟨session, .helloAck limits⟩ = frame ∧
          { peer with selected := some limits, state := .configureRegions } = next := by
  simp [helloAck, frame_eq_ok, and_assoc]

theorem ready_eq_ok : ready.outcome peer = (.ok frame, next) ↔
    peer.state = .readyToConfirm ∧ ∃ session, peer.session = some session ∧
      ⟨session, .ready⟩ = frame ∧ { peer with state := .active } = next := by
  simp [ready, frame_eq_ok]

theorem shutdownAck_eq_ok : shutdownAck.outcome peer = (.ok frame, next) ↔
    peer.state = .readyToShutdown ∧ ∃ session, peer.session = some session ∧
      ⟨session, .shutdownAck⟩ = frame ∧ { peer with state := .closed } = next := by
  simp [shutdownAck, frame_eq_ok]

theorem cancelled_eq_ok : cancelled.outcome peer = (.ok frame, next) ↔
    peer.state = .readyToCancel ∧ ∃ session, peer.session = some session ∧
      ⟨session, .cancelled⟩ = frame ∧ { peer with state := .closed } = next := by
  simp [cancelled, frame_eq_ok]

theorem terminal_eq_ok {code} :
    (terminal code).outcome peer = (.ok frame, next) ↔
      ¬ (peer.state = .awaitHello ∨ peer.state = .closed ∨ peer.state = .terminal) ∧
        ∃ session, peer.session = some session ∧ ⟨session, .terminal code⟩ = frame ∧
          { peer with outstanding := ∅, state := .terminal } = next := by
  simp [terminal, frame_eq_ok]

variable {request : PagerRequestId}

theorem removeOutstanding_eq_ok {done} :
    (removeOutstanding request).outcome peer = (.ok done, next) ↔
      (∃ pending, peer.outstanding.lookup request = some pending) ∧
        { peer with outstanding := peer.outstanding.erase request } = next := by
  simp [removeOutstanding, ← Option.ne_none_iff_exists']

theorem pendingPage_eq_ok {metadata} :
    peer.pendingPage request = .ok metadata ↔
      peer.outstanding.lookup request = some (.page metadata) := by
  unfold pendingPage
  split <;> simp_all

theorem pendingRemove_eq_ok {metadata} :
    peer.pendingRemove request = .ok metadata ↔
      peer.outstanding.lookup request = some (.remove metadata) := by
  unfold pendingRemove
  split <;> simp_all

/-- What an accepted answer is: it settles one outstanding request. -/
structure Settles (peer : PeerSession) (request : PagerRequestId) (pending : PendingRequest)
    (frame : PagerFrame) (next : PeerSession) : Prop where
  active : peer.state = .active
  found : peer.outstanding.lookup request = some pending
  answer : Answers pending frame.message
  bound : peer.session = some frame.session
  settled : { peer with outstanding := peer.outstanding.erase request } = next

/-- Page data settles a page request. -/
theorem pageData_eq_ok {data}
    (accepted : (pageData request data).outcome peer = (.ok frame, next)) :
    ∃ pending, peer.Settles request pending frame next := by
  simp only [pageData, outcome_get_bind, outcome_check_bind_eq_ok, rejectIf_eq_ok, not_not,
    exists_const, pendingPage_eq_ok] at accepted
  simp only [outcome_bind_eq_ok, removeOutstanding_eq_ok, frame_eq_ok] at accepted
  obtain ⟨active, metadata, found, sameLength, _, _, ⟨-, rfl⟩, session, bound, rfl, rfl⟩ := accepted
  exact ⟨.page metadata, active, found, .pageData metadata data sameLength, bound, rfl⟩

/-- A zero page settles a page request. -/
theorem pageZero_eq_ok (accepted : (pageZero request).outcome peer = (.ok frame, next)) :
    ∃ pending, peer.Settles request pending frame next := by
  simp only [pageZero, outcome_get_bind, outcome_check_bind_eq_ok, rejectIf_eq_ok, not_not,
    exists_const, pendingPage_eq_ok] at accepted
  simp only [outcome_bind_eq_ok, removeOutstanding_eq_ok, frame_eq_ok] at accepted
  obtain ⟨active, metadata, found, _, _, ⟨-, rfl⟩, session, bound, rfl, rfl⟩ := accepted
  exact ⟨.page metadata, active, found, .pageZero metadata, bound, rfl⟩

/-- A removal settles a remove request. -/
theorem removed_eq_ok (accepted : (removed request).outcome peer = (.ok frame, next)) :
    ∃ pending, peer.Settles request pending frame next := by
  simp only [removed, outcome_get_bind, outcome_check_bind_eq_ok, rejectIf_eq_ok, not_not,
    exists_const, pendingRemove_eq_ok] at accepted
  simp only [outcome_bind_eq_ok, removeOutstanding_eq_ok, frame_eq_ok] at accepted
  obtain ⟨active, metadata, found, _, _, ⟨-, rfl⟩, session, bound, rfl, rfl⟩ := accepted
  exact ⟨.remove metadata, active, found, .removed metadata, bound, rfl⟩

theorem receive_eq_ok :
    peer.receive frame = (.ok frame, next) ↔ (receiveInner frame).outcome peer = (.ok (), next) := by
  unfold receive
  split
  · rename_i done state answer
    simp [answer]
  · rename_i error state answer
    simp [answer]

/-- The peer binds the session of the first frame. -/
theorem receive_hello :
    new.receive ⟨session, .hello limits⟩ = (.ok ⟨session, .hello limits⟩,
      { new with session := some session, offered := some limits, state := .selectLimits }) := by
  rw [receive_eq_ok]
  simp [receiveInner, new]

section
variable (bound : peer.session = some session)
include bound

/-- A further region is accepted when it fits the selection and the earlier ones. -/
theorem receive_region {region} (waiting : peer.state = .configureRegions)
    (selected : peer.selected = some limits) (valid : region.isValidFor limits.pageSize)
    (room : peer.regions.size < limits.regionCount.toNat)
    (fresh : peer.regions.lookup region.id = none)
    (apart : ∀ existing ∈ peer.regions.values, ¬ sourceRangesOverlap existing region) :
    peer.receive ⟨session, .region region⟩ = (.ok ⟨session, .region region⟩,
      { peer with regions := peer.regions.insert region.id region }) := by
  rw [receive_eq_ok]
  simp_all [receiveInner, acceptRegion, okOr, rejectIf]

theorem receive_start (waiting : peer.state = .configureRegions)
    (selected : peer.selected = some limits)
    (complete : peer.regions.size = limits.regionCount.toNat) :
    peer.receive ⟨session, .start⟩ =
      (.ok ⟨session, .start⟩, { peer with state := .readyToConfirm }) := by
  rw [receive_eq_ok]
  simp_all [receiveInner, acceptStart, okOr, rejectIf]

theorem receive_shutdown (active : peer.state = .active) (drained : peer.outstanding.size = 0) :
    peer.receive ⟨session, .shutdown⟩ =
      (.ok ⟨session, .shutdown⟩, { peer with state := .readyToShutdown }) := by
  rw [receive_eq_ok]
  simp_all [receiveInner]

end

theorem acceptRequestIdAndCapacity_eq_ok {done} :
    peer.acceptRequestIdAndCapacity request = .ok done ↔
      ∃ limits, peer.selected = some limits ∧ peer.lastRequest.toNat < request.get.toNat ∧
        peer.outstanding.size < limits.maxInFlight.toNat := by
  simp [acceptRequestIdAndCapacity, bind_eq_ok]

/-- The state after a request was accepted. -/
def accepted (peer : PeerSession) (pending : PendingRequest) : PeerSession :=
  { peer with
    lastRequest := pending.request.get
    outstanding := peer.outstanding.insert pending.request pending }

/-- When a request is accepted. -/
structure Accepts (peer : PeerSession) (pending : PendingRequest) (limits : PagerLimits)
    (region : PagerRegion) : Prop where
  active : peer.state = .active
  selected : peer.selected = some limits
  increasing : peer.lastRequest.toNat < pending.request.get.toNat
  room : peer.outstanding.size < limits.maxInFlight.toNat
  configured : peer.regions.lookup pending.region = some region
  inRange : pending.rangeIsValid region limits.pageSize

/-- A request within the limits is accepted. -/
theorem receive_request {pending region} (bound : peer.session = some session)
    (accepts : peer.Accepts pending limits region) :
    peer.receive ⟨session, pending.message⟩ =
      (.ok ⟨session, pending.message⟩, peer.accepted pending) := by
  obtain ⟨active, selected, increasing, room, configured, inRange⟩ := accepts
  rw [receive_eq_ok]
  cases pending <;>
    simp_all [receiveInner, acceptPage, acceptRemove, acceptRequestIdAndCapacity_eq_ok, accepted,
      PendingRequest.message, PendingRequest.request, PendingRequest.region,
      PendingRequest.rangeIsValid]

end PeerSession
end Bangbang.Pager
