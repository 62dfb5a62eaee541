import Bangbang.Pager.Exchange

/-!
# Two pager sessions understand each other

A `PagerLink` connects a VMM session and a peer session by two queues of frames.
Either end makes any call that its own session accepts, and either queue delivers
its first frame at any time. `Phase` lists the pairs of session states which occur
together, with what is in flight in each of them: the handshake, the regions on
their way, the requests and answers on their way, and the shutdown. Every step
keeps the phase, and in every phase the first frame of each queue is one that its
receiver accepts.
-/

namespace Bangbang.Pager

open List PeerSession Table

section
variable {limits selected offered : PagerLimits} {regions : List PagerRegion}
  {table : Table PagerRegionId PagerRegion} {region : PagerRegion} {done}

theorem rejectDuplicates_eq_ok {identities} :
    rejectDuplicates identities regions = .ok done ↔
      (∀ region ∈ regions, identities.lookup region.id = none) ∧
        regions.Pairwise fun first second => first.id ≠ second.id := by
  induction regions generalizing identities with
  | nil => simp [rejectDuplicates]
  | cons region regions ih =>
    simp only [rejectDuplicates, bind_eq_ok, rejectIf_eq_ok, exists_const, ih,
      Bool.not_eq_true, Option.isSome_eq_false_iff, Option.isNone_iff_eq_none,
      forall_mem_cons, pairwise_cons, AList.lookup_insert_eq_none]
    constructor
    · rintro ⟨absent, others, distinct⟩
      exact ⟨⟨absent, fun other member => (others other member).2⟩,
        fun other member same => (others other member).1 same.symm, distinct⟩
    · rintro ⟨⟨absent, others⟩, first, distinct⟩
      exact ⟨absent, fun other member => ⟨fun same => first other member same.symm,
        others other member⟩, distinct⟩

theorem rejectOverlaps_eq_ok :
    rejectOverlaps regions = .ok done ↔
      regions.Pairwise fun first second => ¬ sourceRangesOverlap first second := by
  induction regions with
  | nil => simp [rejectOverlaps]
  | cons region regions ih =>
    simp only [rejectOverlaps, bind_eq_ok, rejectIf_eq_ok, exists_const, ih, any_eq_true,
      not_exists, not_and, pairwise_cons]

/-- What a complete region offer satisfies. -/
structure RegionsValid (limits : PagerLimits) (regions : List PagerRegion) : Prop where
  count : regions.length = limits.regionCount.toNat
  valid : ∀ region ∈ regions, region.isValidFor limits.pageSize
  distinct : regions.Pairwise fun first second => first.id ≠ second.id
  apart : regions.Pairwise fun first second => ¬ sourceRangesOverlap first second

/-- Regions which pass the checks are valid. -/
theorem validateRegions_eq_ok (passed : validateRegions limits regions = .ok done) :
    RegionsValid limits regions := by
  simp only [validateRegions, bind_eq_ok, rejectIf_eq_ok, exists_const, rejectDuplicates_eq_ok,
    rejectOverlaps_eq_ok, not_or, not_not, any_eq_true, decide_eq_true_eq, not_exists,
    not_and] at passed
  obtain ⟨⟨count, valid⟩, ⟨-, distinct⟩, apart⟩ := passed
  exact ⟨count, valid, distinct, apart⟩

/-- A selection is within what was offered. -/
theorem PagerLimits.isSelectionFor_iff : selected.isSelectionFor offered ↔
    selected.pageSize = offered.pageSize ∧ selected.regionCount = offered.regionCount ∧
      selected.maxInFlight.toNat ≤ offered.maxInFlight.toNat ∧
      selected.maxFrameBytes.toNat ≤ offered.maxFrameBytes.toNat ∧
      selected.operations.bits = offered.operations.bits := by
  simp [isSelectionFor]

/-- A table holds exactly the listed regions, each under its identity. -/
structure Holds (table : Table PagerRegionId PagerRegion) (regions : List PagerRegion) : Prop where
  values : table.values.Perm regions
  keyed : table.Keyed PagerRegion.id

theorem Holds.empty : Holds ∅ [] := ⟨.refl _, Table.keyed_empty⟩

variable (holds : Holds table regions)
include holds

/-- The table has one entry for each region. -/
theorem Holds.size : table.size = regions.length := by
  rw [← length_values, holds.values.length_eq]

section
variable (fresh : ∀ earlier ∈ regions, earlier.id ≠ region.id)
include fresh

theorem Holds.lookup_eq_none : table.lookup region.id = none :=
  holds.keyed.lookup_eq_none fun earlier member => fresh earlier (holds.values.mem_iff.mp member)

/-- A region is added to the table. -/
theorem Holds.insert : Holds (table.insert region.id region) (regions ++ [region]) := by
  constructor
  · rw [values_insert (holds.lookup_eq_none fresh)]
    exact (holds.values.cons region).trans (perm_append_singleton region regions).symm
  · exact holds.keyed.insert

end

/-- A complete table answers as a search of the list does. -/
theorem Holds.lookup (id) : table.lookup id = regions.find? fun region => region.id = id := by
  cases found : regions.find? fun region => region.id = id with
  | none =>
    apply holds.keyed.lookup_eq_none
    intro region member
    have missing := find?_eq_none.mp found region (holds.values.mem_iff.mp member)
    simpa using missing
  | some region =>
    have member := holds.values.mem_iff.mpr (mem_of_find?_eq_some found)
    have same : region.id = id := by simpa using find?_some found
    rw [← same]
    exact holds.keyed.lookup member

end

/-- A VMM and a peer with the frames on their way between them. -/
structure PagerLink where
  vmm : VmmSession
  peer : PeerSession
  (toPeer toVmm : List PagerFrame)

/-- The calls of an orderly session: neither cancellation nor a terminal frame. -/
def VmmCall.Orderly : VmmCall → Prop
  | .cancel _ | .terminal _ => False
  | _ => True

/-- The peer declares no terminal failure. -/
def PeerCall.Orderly : PeerCall → Prop
  | .terminal _ => False
  | _ => True

/-- What can happen on a link. -/
inductive LinkEvent where
  | vmmCall (call : VmmCall)
  | peerCall (call : PeerCall)
  | deliverToPeer
  | deliverToVmm

/-- Neither side breaks the session off. -/
def LinkEvent.Orderly : LinkEvent → Prop
  | .vmmCall call => call.Orderly
  | .peerCall call => call.Orderly
  | .deliverToPeer | .deliverToVmm => True

/-- The requests among some frames, in their order. -/
def requestsIn (frames : List PagerFrame) : List PendingRequest :=
  frames.filterMap fun frame =>
    match frame.message with
    | .pageRequest request => some (.page request)
    | .remove request => some (.remove request)
    | _ => none

/-- The requests which some frames answer, in their order. -/
def responsesIn (frames : List PagerFrame) : List PendingRequest :=
  frames.filterMap fun frame =>
    match frame.message with
    | .pageData response _ => some (.page response)
    | .pageZero response => some (.page response)
    | .removed response => some (.remove response)
    | _ => none

namespace PagerLink

/-- Nothing was said yet. -/
def initial (vmm : VmmSession) : PagerLink := ⟨vmm, .new, [], []⟩

/-- One accepted call of either end, or the delivery of one frame. -/
def advance (link : PagerLink) : LinkEvent → Option PagerLink
  | .vmmCall call =>
    match call.action.outcome link.vmm with
    | (.ok frame, vmm) => some { link with vmm, toPeer := link.toPeer ++ [frame] }
    | (.error _, _) => none
  | .peerCall call =>
    match call.action.outcome link.peer with
    | (.ok frame, peer) => some { link with peer, toVmm := link.toVmm ++ [frame] }
    | (.error _, _) => none
  | .deliverToPeer =>
    match link.toPeer with
    | frame :: rest => some { link with peer := (link.peer.receive frame).2, toPeer := rest }
    | [] => none
  | .deliverToVmm =>
    match link.toVmm with
    | frame :: rest => some { link with vmm := (link.vmm.receive frame).2, toVmm := rest }
    | [] => none

/-- The link after some events, when each of them was possible. -/
def run (link : PagerLink) (events : List LinkEvent) : Option PagerLink :=
  events.foldlM advance link

/-- The region frames which a VMM emits. -/
def regionFrames (vmm : VmmSession) (regions : List PagerRegion) : List PagerFrame :=
  regions.map fun region => vmm.frame (.region region)

/-- No request is outstanding at either end. -/
structure Idle (link : PagerLink) : Prop where
  vmmDone : link.vmm.outstanding = ∅
  peerDone : link.peer.outstanding = ∅
  ordered : link.peer.lastRequest.toNat < link.vmm.nextRequest.toNat

/-- No region was emitted yet. -/
structure Opening (link : PagerLink) : Prop where
  vmmDone : link.vmm.outstanding = ∅
  peerDone : link.peer.outstanding = ∅
  ordered : link.peer.lastRequest.toNat < link.vmm.nextRequest.toNat
  nextRegion : link.vmm.nextRegion = 0
  noRegions : link.peer.regions = ∅
  unselected : link.vmm.selected = none

/-- The peer answered the offer. -/
structure Answered (link : PagerLink) (limits : PagerLimits) : Prop where
  bound : link.peer.session = some link.vmm.session
  peerSelected : link.peer.selected = some limits
  selection : limits.isSelectionFor link.vmm.offered

/-- Both ends know the selection. -/
structure Agreed (link : PagerLink) (limits : PagerLimits) : Prop where
  bound : link.peer.session = some link.vmm.session
  peerSelected : link.peer.selected = some limits
  vmmSelected : link.vmm.selected = some limits
  selection : limits.isSelectionFor link.vmm.offered

/-- Both ends know the selection and the regions. -/
structure Configured (link : PagerLink) (limits : PagerLimits) : Prop where
  bound : link.peer.session = some link.vmm.session
  peerSelected : link.peer.selected = some limits
  vmmSelected : link.vmm.selected = some limits
  selection : limits.isSelectionFor link.vmm.offered
  regions : Holds link.peer.regions link.vmm.regions

/-- The requests are split over the queue to the peer, the peer, and the queue back. -/
structure Serving (link : PagerLink) (limits : PagerLimits) (requests : List PendingRequest)
    (responses : List (PendingRequest × PagerMessage)) : Prop where
  toPeer : link.toPeer = requests.map fun pending => link.vmm.frame pending.message
  toVmm : link.toVmm = responses.map fun response => link.vmm.frame response.2
  answers : ∀ response ∈ responses, Answers response.1 response.2
  split : link.vmm.outstanding.values.Perm
    (requests ++ (link.peer.outstanding.values ++ responses.map Prod.fst))
  vmmKeyed : link.vmm.outstanding.Keyed PendingRequest.request
  peerKeyed : link.peer.outstanding.Keyed PendingRequest.request
  increasing : requests.Pairwise fun first second =>
    first.request.get.toNat < second.request.get.toNat
  later : ∀ pending ∈ requests, link.peer.lastRequest.toNat < pending.request.get.toNat
  issued : ∀ pending ∈ link.vmm.outstanding.values,
    pending.request.get.toNat < link.vmm.nextRequest.toNat
  ordered : link.peer.lastRequest.toNat < link.vmm.nextRequest.toNat
  inRange : ∀ pending ∈ requests, ∃ region,
    link.vmm.regions.find? (fun region => region.id = pending.region) = some region ∧
      pending.rangeIsValid region limits.pageSize
  bounded : link.vmm.outstanding.size ≤ limits.maxInFlight.toNat

/-- The pairs of session states which occur together, and what is in flight. -/
inductive Phase (link : PagerLink) : PagerVmmState → PagerPeerState → Prop
  | unopened (opening : link.Opening) (peer : link.peer = .new) (toPeer : link.toPeer = [])
      (toVmm : link.toVmm = []) : Phase link .new .awaitHello
  | offered (opening : link.Opening) (peer : link.peer = .new)
      (toPeer : link.toPeer = [link.vmm.frame (.hello link.vmm.offered)])
      (toVmm : link.toVmm = []) : Phase link .awaitHelloAck .awaitHello
  | selecting (opening : link.Opening) (bound : link.peer.session = some link.vmm.session)
      (offer : link.peer.offered = some link.vmm.offered) (toPeer : link.toPeer = [])
      (toVmm : link.toVmm = []) : Phase link .awaitHelloAck .selectLimits
  | selected (limits : PagerLimits) (opening : link.Opening) (answered : link.Answered limits)
      (toPeer : link.toPeer = []) (toVmm : link.toVmm = [link.vmm.frame (.helloAck limits)]) :
      Phase link .awaitHelloAck .configureRegions
  | configuring (limits : PagerLimits) (count : Nat) (idle : link.Idle)
      (agreed : link.Agreed limits)
      (received : Holds link.peer.regions (link.vmm.regions.take count))
      (behind : count ≤ link.vmm.nextRegion) (inside : link.vmm.nextRegion ≤ link.vmm.regions.length)
      (toPeer : link.toPeer = regionFrames link.vmm
        ((link.vmm.regions.take link.vmm.nextRegion).drop count))
      (toVmm : link.toVmm = []) : Phase link .configureRegions .configureRegions
  | started (limits : PagerLimits) (count : Nat) (idle : link.Idle) (agreed : link.Agreed limits)
      (received : Holds link.peer.regions (link.vmm.regions.take count))
      (inside : count ≤ link.vmm.regions.length)
      (toPeer : link.toPeer = regionFrames link.vmm (link.vmm.regions.drop count) ++
        [link.vmm.frame .start])
      (toVmm : link.toVmm = []) : Phase link .awaitReady .configureRegions
  | confirming (limits : PagerLimits) (idle : link.Idle) (configured : link.Configured limits)
      (toPeer : link.toPeer = []) (toVmm : link.toVmm = []) : Phase link .awaitReady .readyToConfirm
  | confirmed (limits : PagerLimits) (idle : link.Idle) (configured : link.Configured limits)
      (toPeer : link.toPeer = []) (toVmm : link.toVmm = [link.vmm.frame .ready]) :
      Phase link .awaitReady .active
  | serving (limits : PagerLimits) (requests : List PendingRequest)
      (responses : List (PendingRequest × PagerMessage)) (configured : link.Configured limits)
      (served : link.Serving limits requests responses) : Phase link .active .active
  | draining (limits : PagerLimits) (idle : link.Idle) (configured : link.Configured limits)
      (toPeer : link.toPeer = [link.vmm.frame .shutdown]) (toVmm : link.toVmm = []) :
      Phase link .awaitShutdownAck .active
  | drained (idle : link.Idle) (bound : link.peer.session = some link.vmm.session)
      (toPeer : link.toPeer = []) (toVmm : link.toVmm = []) :
      Phase link .awaitShutdownAck .readyToShutdown
  | acknowledged (idle : link.Idle) (toPeer : link.toPeer = [])
      (toVmm : link.toVmm = [link.vmm.frame .shutdownAck]) : Phase link .awaitShutdownAck .closed
  | closed (idle : link.Idle) (toPeer : link.toPeer = []) (toVmm : link.toVmm = []) :
      Phase link .closed .closed

/-- What every reachable link satisfies. -/
structure Coherent (link : PagerLink) : Prop where
  valid : RegionsValid link.vmm.offered link.vmm.regions
  phase : link.Phase link.vmm.state link.peer.state

theorem Coherent.of_phase {link : PagerLink} {vmmState}
    {peerState} (valid : RegionsValid link.vmm.offered link.vmm.regions)
    (sameVmm : link.vmm.state = vmmState) (samePeer : link.peer.state = peerState)
    (phase : link.Phase vmmState peerState) : link.Coherent :=
  ⟨valid, sameVmm ▸ samePeer ▸ phase⟩

variable {link : PagerLink} {vmm : VmmSession} {peer frame rest limits requests}
  {responses : List (PendingRequest × PagerMessage)}

section

section
variable (coherent : link.Coherent)
include coherent

/-- A coherent link stands in some phase. -/
theorem Coherent.exists_phase : ∃ vmmState peerState,
    link.vmm.state = vmmState ∧ link.peer.state = peerState ∧ link.Phase vmmState peerState :=
  ⟨_, _, rfl, rfl, coherent.phase⟩

/-- A coherent link in a given VMM state. -/
theorem Coherent.phase_of_vmm {state} (same : link.vmm.state = state) :
    ∃ peerState, link.peer.state = peerState ∧
      link.Phase state peerState :=
  ⟨_, rfl, same ▸ coherent.phase⟩

/-- A coherent link in a given peer state. -/
theorem Coherent.phase_of_peer {state} (same : link.peer.state = state) :
    ∃ vmmState, link.vmm.state = vmmState ∧
      link.Phase vmmState state :=
  ⟨_, rfl, same ▸ coherent.phase⟩

/-- A hello keeps the link coherent. -/
theorem Coherent.hello (accepted : VmmSession.hello.outcome link.vmm = (.ok frame, vmm)) :
    Coherent { link with vmm, toPeer := link.toPeer ++ [frame] } := by
  obtain ⟨state, rfl, rfl⟩ := VmmSession.hello_eq_ok.mp accepted
  obtain ⟨_, peerState, phase⟩ := coherent.phase_of_vmm state
  refine .of_phase coherent.valid rfl peerState ?_
  cases phase with
  | unopened opening peer toPeer toVmm =>
    exact .offered { opening with } peer (by rw [toPeer]; rfl) toVmm

theorem Coherent.nextRegion
    (accepted : VmmSession.nextRegionFrame.outcome link.vmm = (.ok frame, vmm)) :
    Coherent { link with vmm, toPeer := link.toPeer ++ [frame] } := by
  obtain ⟨state, region, found, -, rfl, rfl⟩ := VmmSession.nextRegionFrame_eq_ok.mp accepted
  obtain ⟨_, peerState, phase⟩ := coherent.phase_of_vmm state
  refine .of_phase coherent.valid state peerState ?_
  cases phase with
  | configuring limits count idle agreed received behind inside toPeer toVmm =>
    have before : link.vmm.nextRegion < link.vmm.regions.length :=
      (List.getElem?_eq_some_iff.mp found).1
    refine .configuring limits count { idle with } { agreed with } received
      (Nat.le_succ_of_le behind) before ?_ toVmm
    rw [toPeer, take_add_one, found, Option.toList_some,
      drop_append_of_le_length (by rw [length_take_of_le inside]; exact behind),
      regionFrames, regionFrames, map_append]
    rfl

theorem Coherent.start (accepted : VmmSession.start.outcome link.vmm = (.ok frame, vmm)) :
    Coherent { link with vmm, toPeer := link.toPeer ++ [frame] } := by
  obtain ⟨state, complete, rfl, rfl⟩ := VmmSession.start_eq_ok.mp accepted
  obtain ⟨_, peerState, phase⟩ := coherent.phase_of_vmm state
  refine .of_phase coherent.valid rfl peerState ?_
  cases phase with
  | configuring limits count idle agreed received behind inside toPeer toVmm =>
    refine .started limits count { idle with } { agreed with } received (complete ▸ behind) ?_ toVmm
    rw [toPeer, complete, take_length]
    rfl

end

variable {pending region}

/-- Issuing a request appends it to the queue to the peer. -/
theorem Serving.issue (served : link.Serving limits requests responses)
    (issues : link.vmm.Issues pending limits region) :
    Serving { link with
        vmm := link.vmm.issued pending
        toPeer := link.toPeer ++ [link.vmm.frame pending.message] }
      limits (requests ++ [pending]) responses := by
  have values : (link.vmm.issued pending).outstanding.values =
      pending :: link.vmm.outstanding.values := values_insert issues.fresh
  have identity : pending.request.get.toNat = link.vmm.nextRequest.toNat := by
    rw [issues.identity]
  have nextRequest : (link.vmm.issued pending).nextRequest.toNat = link.vmm.nextRequest.toNat + 1 := by
    change (BitVec.ofNat 64 _).toNat = _
    exact Nat.mod_eq_of_lt issues.identitiesLeft
  have queued : ∀ earlier ∈ requests,
      earlier.request.get.toNat < pending.request.get.toNat := by
    intro earlier member
    rw [identity]
    exact served.issued earlier (served.split.mem_iff.mpr (mem_append_left _ member))
  constructor
  · rw [served.toPeer, map_append]
    rfl
  · exact served.toVmm
  · exact served.answers
  · rw [values, append_assoc]
    exact (served.split.cons pending).trans perm_middle.symm
  · exact served.vmmKeyed.insert
  · exact served.peerKeyed
  · rw [pairwise_append]
    exact ⟨served.increasing, pairwise_singleton _ _, fun earlier member last isLast => by
      rw [mem_singleton.mp isLast]
      exact queued earlier member⟩
  · intro other member
    rcases mem_append.mp member with older | newest
    · exact served.later other older
    · rw [mem_singleton.mp newest, identity]
      exact served.ordered
  · intro other member
    rw [values] at member
    rw [nextRequest]
    rcases mem_cons.mp member with rfl | older
    · omega
    · have := served.issued other older
      omega
  · have := served.ordered
    rw [nextRequest]
    exact Nat.lt_succ_of_lt this
  · intro other member
    rcases mem_append.mp member with older | newest
    · exact served.inRange other older
    · rw [mem_singleton.mp newest]
      exact ⟨region, issues.configured, issues.inRange⟩
  · rw [← length_values, values, length_cons, length_values]
    exact issues.room

/-- A request keeps the link coherent. -/
theorem Coherent.issue (coherent : link.Coherent) (issues : link.vmm.Issues pending limits region) :
    Coherent { link with
      vmm := link.vmm.issued pending
      toPeer := link.toPeer ++ [link.vmm.frame pending.message] } := by
  obtain ⟨_, peerState, phase⟩ := coherent.phase_of_vmm issues.active
  refine .of_phase coherent.valid issues.active peerState ?_
  cases phase with
  | serving agreedLimits requests responses configured served =>
    obtain rfl := Option.some.inj (issues.selected.symm.trans configured.vmmSelected)
    exact .serving limits (requests ++ [pending]) responses { configured with }
      (served.issue issues)

/-- Without outstanding requests nothing is on its way. -/
theorem Serving.idle (served : link.Serving limits requests responses)
    (empty : link.vmm.outstanding.size = 0) : link.Idle ∧ requests = [] ∧ responses = [] := by
  have split := served.split
  rw [size_eq_zero.mp empty, values_empty] at split
  have parts := split.nil_eq
  simp only [nil_eq, append_eq_nil_iff, map_eq_nil_iff] at parts
  obtain ⟨noRequests, noPending, noResponses⟩ := parts
  refine ⟨⟨size_eq_zero.mp empty, ?_, served.ordered⟩, noRequests, noResponses⟩
  rw [← size_eq_zero, ← length_values, noPending]
  rfl

section
variable (coherent : link.Coherent)
include coherent

theorem Coherent.shutdown (accepted : VmmSession.shutdown.outcome link.vmm = (.ok frame, vmm)) :
    Coherent { link with vmm, toPeer := link.toPeer ++ [frame] } := by
  obtain ⟨state, empty, rfl, rfl⟩ := VmmSession.shutdown_eq_ok.mp accepted
  obtain ⟨_, peerState, phase⟩ := coherent.phase_of_vmm state
  refine .of_phase coherent.valid rfl peerState ?_
  cases phase with
  | serving limits requests responses configured served =>
    obtain ⟨idle, rfl, rfl⟩ := served.idle empty
    refine .draining limits { idle with } { configured with } ?_ served.toVmm
    rw [served.toPeer]
    rfl

/-- An accepted call of the VMM keeps the link coherent. -/
theorem Coherent.vmmCall {call : VmmCall} (orderly : call.Orderly)
    (accepted : call.action.outcome link.vmm = (.ok frame, vmm)) :
    Coherent { link with vmm, toPeer := link.toPeer ++ [frame] } := by
  cases call with
  | hello => exact coherent.hello accepted
  | nextRegion => exact coherent.nextRegion accepted
  | start => exact coherent.start accepted
  | requestPage region generation offset access =>
    obtain ⟨pending, limits, region, issues, rfl, rfl⟩ :=
      VmmSession.request_eq_ok (.inl ⟨_, rfl⟩) accepted
    exact coherent.issue issues
  | remove region generation offset length =>
    obtain ⟨pending, limits, region, issues, rfl, rfl⟩ :=
      VmmSession.request_eq_ok (.inr ⟨_, rfl⟩) accepted
    exact coherent.issue issues
  | shutdown => exact coherent.shutdown accepted
  | cancel | terminal => exact orderly.elim

theorem Coherent.helloAck
    (accepted : (PeerSession.helloAck limits).outcome link.peer = (.ok frame, peer)) :
    Coherent { link with peer, toVmm := link.toVmm ++ [frame] } := by
  obtain ⟨offer, offered, state, selection, session, bound, rfl, rfl⟩ :=
    helloAck_eq_ok.mp accepted
  obtain ⟨_, vmmState, phase⟩ := coherent.phase_of_peer state
  refine .of_phase coherent.valid vmmState rfl ?_
  cases phase with
  | selecting opening boundHere offeredHere toPeer toVmm =>
    obtain rfl := Option.some.inj (boundHere.symm.trans bound)
    obtain rfl := Option.some.inj (offeredHere.symm.trans offered)
    exact .selected limits { opening with } ⟨bound, rfl, selection⟩ toPeer (by rw [toVmm]; rfl)

theorem Coherent.ready (accepted : PeerSession.ready.outcome link.peer = (.ok frame, peer)) :
    Coherent { link with peer, toVmm := link.toVmm ++ [frame] } := by
  obtain ⟨state, session, bound, rfl, rfl⟩ := ready_eq_ok.mp accepted
  obtain ⟨_, vmmState, phase⟩ := coherent.phase_of_peer state
  refine .of_phase coherent.valid vmmState rfl ?_
  cases phase with
  | confirming limits idle configured toPeer toVmm =>
    obtain rfl := Option.some.inj (configured.bound.symm.trans bound)
    exact .confirmed limits { idle with } { configured with } toPeer (by rw [toVmm]; rfl)

theorem Coherent.shutdownAck
    (accepted : PeerSession.shutdownAck.outcome link.peer = (.ok frame, peer)) :
    Coherent { link with peer, toVmm := link.toVmm ++ [frame] } := by
  obtain ⟨state, session, bound, rfl, rfl⟩ := shutdownAck_eq_ok.mp accepted
  obtain ⟨_, vmmState, phase⟩ := coherent.phase_of_peer state
  refine .of_phase coherent.valid vmmState rfl ?_
  cases phase with
  | drained idle boundHere toPeer toVmm =>
    obtain rfl := Option.some.inj (boundHere.symm.trans bound)
    exact .acknowledged { idle with } toPeer (by rw [toVmm]; rfl)

end

variable {request}

/-- Answering a request moves it to the queue back. -/
theorem Serving.settle (served : link.Serving limits requests responses)
    (settles : link.peer.Settles request pending frame peer)
    (bound : link.peer.session = some link.vmm.session) :
    Serving { link with peer, toVmm := link.toVmm ++ [frame] } limits requests
      (responses ++ [(pending, frame.message)]) := by
  obtain ⟨active, found, answer, boundHere, rfl⟩ := settles
  have session : frame.session = link.vmm.session :=
    Option.some.inj (boundHere.symm.trans bound)
  constructor
  · exact served.toPeer
  · rw [served.toVmm, map_append]
    change _ = _ ++ [link.vmm.frame frame.message]
    rw [VmmSession.frame, ← session]
  · intro response member
    rcases mem_append.mp member with older | newest
    · exact served.answers response older
    · rw [mem_singleton.mp newest]
      exact answer
  · -- The settled request leaves the middle part and ends the last one.
    refine served.split.trans (List.Perm.append_left requests ?_)
    rw [map_append, ← append_assoc]
    refine ((values_perm_erase found).append_right _).trans ?_
    exact (perm_append_singleton _ _).symm
  · exact served.vmmKeyed
  · exact served.peerKeyed.erase
  · exact served.increasing
  · exact served.later
  · exact served.issued
  · exact served.ordered
  · exact served.inRange
  · exact served.bounded

/-- A response keeps the link coherent. -/
theorem Coherent.settle (coherent : link.Coherent)
    (settles : link.peer.Settles request pending frame peer) :
    Coherent { link with peer, toVmm := link.toVmm ++ [frame] } := by
  have found := settles.found
  obtain ⟨_, vmmState, phase⟩ := coherent.phase_of_peer settles.active
  have active : peer.state = .active := settles.settled ▸ settles.active
  refine .of_phase coherent.valid vmmState active ?_
  cases phase with
  | confirmed _ idle | draining _ idle =>
    rw [idle.peerDone] at found
    cases found
  | serving limits requests responses configured served =>
    have settled := settles.settled
    refine .serving limits requests _ ?_ (served.settle settles configured.bound)
    subst settled
    exact { configured with }

/-- An accepted call of the peer keeps the link coherent. -/
theorem Coherent.peerCall (coherent : link.Coherent) {call : PeerCall} (orderly : call.Orderly)
    (accepted : call.action.outcome link.peer = (.ok frame, peer)) :
    Coherent { link with peer, toVmm := link.toVmm ++ [frame] } := by
  cases call with
  | helloAck limits => exact coherent.helloAck accepted
  | ready => exact coherent.ready accepted
  | pageData request data =>
    obtain ⟨pending, settles⟩ := pageData_eq_ok accepted
    exact coherent.settle settles
  | pageZero request =>
    obtain ⟨pending, settles⟩ := pageZero_eq_ok accepted
    exact coherent.settle settles
  | removed request =>
    obtain ⟨pending, settles⟩ := removed_eq_ok accepted
    exact coherent.settle settles
  | cancelled =>
    -- The peer waits to acknowledge a cancellation in no phase.
    obtain ⟨state, -⟩ := cancelled_eq_ok.mp accepted
    obtain ⟨_, -, phase⟩ := coherent.phase_of_peer state
    cases phase
  | shutdownAck => exact coherent.shutdownAck accepted
  | terminal code => exact orderly.elim

end

section

/-- The next region of a coherent link is one that the peer accepts. -/
theorem receive_nextRegion (valid : RegionsValid link.vmm.offered link.vmm.regions)
    (agreed : link.Agreed limits) (waiting : link.peer.state = .configureRegions) {count region}
    (received : Holds link.peer.regions (link.vmm.regions.take count))
    (found : link.vmm.regions[count]? = some region) :
    link.peer.receive (link.vmm.frame (.region region)) = (.ok (link.vmm.frame (.region region)),
        { link.peer with regions := link.peer.regions.insert region.id region }) ∧
      Holds (link.peer.regions.insert region.id region) (link.vmm.regions.take (count + 1)) := by
  obtain ⟨samePage, sameCount, -⟩ := PagerLimits.isSelectionFor_iff.mp agreed.selection
  obtain ⟨inside, rfl⟩ := List.getElem?_eq_some_iff.mp found
  have member : link.vmm.regions[count] ∈ link.vmm.regions := List.getElem_mem inside
  have prior : link.vmm.regions.take (count + 1) =
      link.vmm.regions.take count ++ [link.vmm.regions[count]] := take_succ_eq_append_getElem inside
  -- Both pairwise conditions hold between an earlier region and the next one.
  have distinct := valid.distinct.sublist (take_sublist (count + 1) _)
  have apart := valid.apart.sublist (take_sublist (count + 1) _)
  rw [prior, pairwise_append] at distinct apart
  have fresh : ∀ earlier ∈ link.vmm.regions.take count, earlier.id ≠ link.vmm.regions[count].id :=
    fun earlier older => distinct.2.2 earlier older _ (mem_singleton_self _)
  constructor
  · apply PeerSession.receive_region agreed.bound waiting agreed.peerSelected
    · rw [samePage]
      exact valid.valid _ member
    · rw [received.size, sameCount, ← valid.count, length_take_of_le (Nat.le_of_lt inside)]
      exact inside
    · exact received.lookup_eq_none fresh
    · intro existing stored
      exact apart.2.2 existing (received.values.mem_iff.mp stored) _ (mem_singleton_self _)
  · rw [prior]
    exact received.insert fresh

/-- The first of the region frames left to deliver. -/
theorem regionFrames_drop_eq_cons {regions : List PagerRegion} {count}
    (queued : regionFrames vmm (regions.drop count) = frame :: rest) :
    ∃ region, regions[count]? = some region ∧ vmm.frame (.region region) = frame ∧
      regionFrames vmm (regions.drop (count + 1)) = rest := by
  rw [regionFrames, map_eq_cons_iff] at queued
  obtain ⟨region, others, split, sent, rfl⟩ := queued
  refine ⟨region, ?_, sent, ?_⟩
  · rw [← head?_drop, split]
    rfl
  · rw [← tail_drop, split]
    rfl

variable {pending}

section
variable (served : link.Serving limits (pending :: requests) responses)
include served

/-- The next request of a coherent link is one that the peer accepts. -/
theorem Serving.accepts (configured : link.Configured limits) (active : link.peer.state = .active) :
    ∃ region, link.peer.Accepts pending limits region := by
  obtain ⟨region, found, inRange⟩ := served.inRange pending mem_cons_self
  have total := served.split.length_eq
  simp only [length_append, length_cons, length_values] at total
  have bounded := served.bounded
  exact ⟨region, active, configured.peerSelected, served.later pending mem_cons_self, by omega,
    by rw [configured.regions.lookup, found], inRange⟩

/-- Accepting a request moves it from the queue into the peer. -/
theorem Serving.accept (queued : link.toPeer = frame :: rest) :
    Serving { link with peer := link.peer.accepted pending, toPeer := rest } limits requests
      responses := by
  have increasing := pairwise_cons.mp served.increasing
  have identities := (served.split.map PendingRequest.request).nodup served.vmmKeyed.nodup
  rw [map_append, map_cons, cons_append, nodup_cons] at identities
  have absent : link.peer.outstanding.lookup pending.request = none := by
    apply served.peerKeyed.lookup_eq_none
    intro other member same
    apply identities.1
    rw [map_append]
    apply mem_append_right
    apply mem_append_left
    exact same ▸ mem_map_of_mem member
  have values : (link.peer.accepted pending).outstanding.values =
      pending :: link.peer.outstanding.values := values_insert absent
  have identity := served.issued pending (served.split.mem_iff.mpr (by simp))
  constructor
  · have toPeer := served.toPeer
    rw [queued, map_cons] at toPeer
    exact (cons.inj toPeer).2
  · exact served.toVmm
  · exact served.answers
  · rw [values]
    exact served.split.trans (perm_middle (a := pending)).symm
  · exact served.vmmKeyed
  · exact served.peerKeyed.insert
  · exact increasing.2
  · exact increasing.1
  · exact served.issued
  · exact identity
  · intro other member
    exact served.inRange other (mem_cons_of_mem _ member)
  · exact served.bounded

end

/-- The peer accepts the next frame of a coherent link, which stays coherent. -/
theorem Coherent.deliverToPeer (coherent : link.Coherent) (queued : link.toPeer = frame :: rest) :
    ∃ peer, link.peer.receive frame = (.ok frame, peer) ∧
      Coherent { link with peer, toPeer := rest } := by
  obtain ⟨_, _, sameVmm, samePeer, phase⟩ := coherent.exists_phase
  cases phase with
  | unopened opening peer toPeer toVmm | selecting opening bound offer toPeer toVmm
  | selected limits opening answered toPeer toVmm
  | confirming limits idle configured toPeer toVmm | confirmed limits idle configured toPeer toVmm
  | drained idle bound toPeer toVmm | acknowledged idle toPeer toVmm | closed idle toPeer toVmm =>
    rw [toPeer] at queued
    cases queued
  | offered opening peer toPeer toVmm =>
    rw [toPeer] at queued
    obtain ⟨rfl, rfl⟩ := cons.inj queued
    refine ⟨_, by rw [peer]; exact PeerSession.receive_hello,
      .of_phase coherent.valid sameVmm rfl ?_⟩
    have ordered := opening.ordered
    rw [peer] at ordered
    exact .selecting ⟨opening.vmmDone, rfl, ordered, opening.nextRegion, rfl, opening.unselected⟩
      rfl rfl rfl toVmm
  | configuring limits count idle agreed received behind inside toPeer toVmm =>
    rw [toPeer] at queued
    obtain ⟨region, found, rfl, rfl⟩ := regionFrames_drop_eq_cons queued
    rw [getElem?_take, Option.ite_none_right_eq_some] at found
    obtain ⟨before, found⟩ := found
    obtain ⟨accepted, holds⟩ := receive_nextRegion coherent.valid agreed samePeer received found
    refine ⟨_, accepted, .of_phase coherent.valid sameVmm samePeer ?_⟩
    exact .configuring limits (count + 1) { idle with } { agreed with } holds before inside rfl
      toVmm
  | started limits count idle agreed received inside toPeer toVmm =>
    rw [toPeer] at queued
    by_cases complete : count = link.vmm.regions.length
    · subst complete
      rw [drop_length] at queued
      obtain ⟨rfl, rfl⟩ := cons.inj queued
      rw [take_length] at received
      have full : link.peer.regions.size = limits.regionCount.toNat := by
        obtain ⟨-, sameCount, -⟩ := PagerLimits.isSelectionFor_iff.mp agreed.selection
        rw [received.size, coherent.valid.count, sameCount]
      refine ⟨_, PeerSession.receive_start agreed.bound samePeer agreed.peerSelected full,
        .of_phase coherent.valid sameVmm rfl ?_⟩
      exact .confirming limits { idle with } { agreed with regions := received } rfl toVmm
    · obtain ⟨region, others, cons⟩ := exists_cons_of_length_pos
        (l := link.vmm.regions.drop count) (by rw [length_drop]; omega)
      rw [cons] at queued
      obtain ⟨rfl, rfl⟩ := List.cons.inj queued
      have found : link.vmm.regions[count]? = some region := by
        rw [← head?_drop, cons]
        rfl
      obtain ⟨accepted, holds⟩ := receive_nextRegion coherent.valid agreed samePeer received found
      refine ⟨_, accepted, .of_phase coherent.valid sameVmm samePeer ?_⟩
      have left : count + 1 ≤ link.vmm.regions.length := by omega
      refine .started limits (count + 1) { idle with } { agreed with } holds left ?_ toVmm
      rw [← tail_drop, cons]
      rfl
  | serving limits requests responses configured served =>
    cases requests with
    | nil =>
      rw [served.toPeer] at queued
      cases queued
    | cons pending requests =>
      obtain ⟨region, accepts⟩ := served.accepts configured samePeer
      have sent : link.vmm.frame pending.message = frame := by
        have toPeer := served.toPeer
        rw [queued, map_cons] at toPeer
        exact (cons.inj toPeer).1.symm
      subst sent
      refine ⟨_, PeerSession.receive_request configured.bound accepts,
        .of_phase coherent.valid sameVmm samePeer ?_⟩
      exact .serving limits requests responses { configured with } (served.accept queued)
  | draining limits idle configured toPeer toVmm =>
    rw [toPeer] at queued
    obtain ⟨rfl, rfl⟩ := cons.inj queued
    have empty : link.peer.outstanding.size = 0 := Table.size_eq_zero.mpr idle.peerDone
    refine ⟨_, PeerSession.receive_shutdown configured.bound samePeer empty,
      .of_phase coherent.valid sameVmm rfl ?_⟩
    exact .drained { idle with } configured.bound rfl toVmm

/-- Receiving an answer takes it off the queue and out of the outstanding requests. -/
theorem Serving.complete {message}
    (served : link.Serving limits requests ((pending, message) :: responses))
    (queued : link.toVmm = frame :: rest) :
    Serving { link with
        vmm := { link.vmm with outstanding := link.vmm.outstanding.erase pending.request }
        toVmm := rest } limits requests responses := by
  have member : pending ∈ link.vmm.outstanding.values := served.split.mem_iff.mpr (by simp)
  have removed := values_perm_erase (served.vmmKeyed.lookup member)
  have subset : ∀ other ∈ values (link.vmm.outstanding.erase pending.request),
      other ∈ link.vmm.outstanding.values :=
    fun other stored => removed.mem_iff.mpr (mem_cons_of_mem _ stored)
  constructor
  · exact served.toPeer
  · have toVmm := served.toVmm
    rw [queued, map_cons] at toVmm
    exact (cons.inj toVmm).2
  · exact fun response later => served.answers response (mem_cons_of_mem _ later)
  · have split := removed.symm.trans served.split
    rw [map_cons, ← append_assoc] at split
    have settled := (split.trans perm_middle).cons_inv
    rwa [append_assoc] at settled
  · exact served.vmmKeyed.erase
  · exact served.peerKeyed
  · exact served.increasing
  · exact served.later
  · exact fun other stored => served.issued other (subset other stored)
  · exact served.ordered
  · exact served.inRange
  · have sizes := removed.length_eq
    rw [length_cons, length_values, length_values] at sizes
    have bounded := served.bounded
    change size (link.vmm.outstanding.erase pending.request) ≤ _
    omega

/-- The VMM accepts the next frame of a coherent link, which stays coherent. -/
theorem Coherent.deliverToVmm (coherent : link.Coherent) (queued : link.toVmm = frame :: rest) :
    ∃ vmm, link.vmm.receive frame = (.ok frame, vmm) ∧
      Coherent { link with vmm, toVmm := rest } := by
  obtain ⟨_, _, sameVmm, samePeer, phase⟩ := coherent.exists_phase
  cases phase with
  | unopened opening peer toPeer toVmm | offered opening peer toPeer toVmm
  | selecting opening bound offer toPeer toVmm
  | configuring limits count idle agreed received behind inside toPeer toVmm
  | started limits count idle agreed received inside toPeer toVmm
  | confirming limits idle configured toPeer toVmm | draining limits idle configured toPeer toVmm
  | drained idle bound toPeer toVmm | closed idle toPeer toVmm =>
    rw [toVmm] at queued
    cases queued
  | selected limits opening answered toPeer toVmm =>
    rw [toVmm] at queued
    obtain ⟨rfl, rfl⟩ := cons.inj queued
    refine ⟨_, VmmSession.receive_helloAck sameVmm answered.selection,
      .of_phase coherent.valid rfl samePeer ?_⟩
    have received : Holds link.peer.regions (link.vmm.regions.take 0) := by
      rw [opening.noRegions]
      exact .empty
    have none : link.vmm.nextRegion = 0 := opening.nextRegion
    refine .configuring limits 0 { opening with } { answered with vmmSelected := rfl } received
      (Nat.zero_le _) ?_ ?_ rfl
    · exact none ▸ Nat.zero_le _
    · rw [toPeer]
      rw [none]
      rfl
  | confirmed limits idle configured toPeer toVmm =>
    rw [toVmm] at queued
    obtain ⟨rfl, rfl⟩ := cons.inj queued
    refine ⟨_, VmmSession.receive_ready sameVmm, .of_phase coherent.valid rfl samePeer ?_⟩
    refine .serving limits [] [] { configured with } ?_
    exact {
      toPeer := toPeer
      toVmm := rfl
      answers := nofun
      split := by
        rw [idle.vmmDone, idle.peerDone]
        exact .refl _
      vmmKeyed := idle.vmmDone ▸ keyed_empty
      peerKeyed := idle.peerDone ▸ keyed_empty
      increasing := .nil
      later := nofun
      issued := by rw [idle.vmmDone]; exact nofun
      ordered := idle.ordered
      inRange := nofun
      bounded := by rw [idle.vmmDone]; exact Nat.zero_le _ }
  | serving limits requests responses configured served =>
    cases responses with
    | nil =>
      rw [served.toVmm] at queued
      cases queued
    | cons response responses =>
      obtain ⟨pending, message⟩ := response
      have sent : link.vmm.frame message = frame := by
        have toVmm := served.toVmm
        rw [queued, map_cons] at toVmm
        exact (cons.inj toVmm).1.symm
      subst sent
      have found := served.vmmKeyed.lookup (served.split.mem_iff.mpr
        (by simp : pending ∈ requests ++ (link.peer.outstanding.values ++
          ((pending, message) :: responses).map Prod.fst)))
      refine ⟨_, VmmSession.receive_answer sameVmm found (served.answers _ mem_cons_self),
        .of_phase coherent.valid sameVmm samePeer ?_⟩
      exact .serving limits requests responses { configured with } (served.complete queued)
  | acknowledged idle toPeer toVmm =>
    rw [toVmm] at queued
    obtain ⟨rfl, rfl⟩ := cons.inj queued
    refine ⟨_, VmmSession.receive_shutdownAck sameVmm, .of_phase coherent.valid rfl samePeer ?_⟩
    exact .closed { idle with } toPeer rfl

end

/-- One event keeps a link coherent. -/
theorem Coherent.advance (coherent : link.Coherent) {event : LinkEvent} (orderly : event.Orderly)
    {next} (advanced : link.advance event = some next) : next.Coherent := by
  cases event with
  | vmmCall call =>
    simp only [PagerLink.advance] at advanced
    split at advanced
    · rename_i accepted
      cases advanced
      exact coherent.vmmCall orderly accepted
    · cases advanced
  | peerCall call =>
    simp only [PagerLink.advance] at advanced
    split at advanced
    · rename_i accepted
      cases advanced
      exact coherent.peerCall orderly accepted
    · cases advanced
  | deliverToPeer =>
    simp only [PagerLink.advance] at advanced
    split at advanced
    · rename_i frame rest queued
      obtain ⟨peer, received, kept⟩ := coherent.deliverToPeer queued
      cases advanced
      rw [received]
      exact kept
    · cases advanced
  | deliverToVmm =>
    simp only [PagerLink.advance] at advanced
    split at advanced
    · rename_i frame rest queued
      obtain ⟨vmm, received, kept⟩ := coherent.deliverToVmm queued
      cases advanced
      rw [received]
      exact kept
    · cases advanced

/-- Every run keeps a link coherent. -/
theorem Coherent.run (coherent : link.Coherent) {events} (orderly : ∀ event ∈ events, event.Orderly)
    {final} (reached : link.run events = some final) : final.Coherent := by
  induction events generalizing link with
  | nil =>
    cases reached
    exact coherent
  | cons event events ih =>
    rw [PagerLink.run, foldlM_cons, Option.bind_eq_bind, Option.bind_eq_some_iff] at reached
    obtain ⟨middle, advanced, rest⟩ := reached
    obtain ⟨first, others⟩ := forall_mem_cons.mp orderly
    exact ih (coherent.advance first advanced) others rest

/-- A new link is coherent. -/
theorem Coherent.initial {session offered regions}
    (made : VmmSession.new session offered regions = .ok vmm) :
    (PagerLink.initial vmm).Coherent := by
  simp only [VmmSession.new, bind_eq_ok, pure_eq_ok] at made
  obtain ⟨_, valid, rfl⟩ := made
  have ordered : (0 : BitVec 64).toNat < (1 : BitVec 64).toNat := by decide
  exact ⟨validateRegions_eq_ok valid, .unopened ⟨rfl, rfl, ordered, rfl, rfl, rfl⟩ rfl rfl rfl⟩

section

/-- The requests under way are read back from their frames. -/
theorem requestsIn_requests (vmm : VmmSession) (requests : List PendingRequest) :
    requestsIn (requests.map fun pending => vmm.frame pending.message) = requests := by
  induction requests with
  | nil => rfl
  | cons pending requests ih =>
    cases pending <;> exact congrArg (cons _) ih

/-- The responses under way are read back from their frames. -/
theorem responsesIn_responses (vmm : VmmSession) {responses : List (PendingRequest × PagerMessage)}
    (answers : ∀ response ∈ responses, Answers response.1 response.2) :
    responsesIn (responses.map fun response => vmm.frame response.2) = responses.map Prod.fst := by
  induction responses with
  | nil => rfl
  | cons response responses ih =>
    obtain ⟨first, others⟩ := forall_mem_cons.mp answers
    obtain ⟨pending, message⟩ := response
    cases first <;> exact congrArg (cons _) (ih others)

theorem requestsIn_regionFrames (vmm regions) : requestsIn (regionFrames vmm regions) = [] := by
  induction regions with
  | nil => rfl
  | cons region regions ih => exact ih

/-- Frames which carry no request and no answer leave an idle link accounted for. -/
theorem Idle.accounted (idle : link.Idle) (noRequests : requestsIn link.toPeer = [])
    (noResponses : responsesIn link.toVmm = []) :
    link.vmm.outstanding.values.Perm
      (requestsIn link.toPeer ++ (link.peer.outstanding.values ++ responsesIn link.toVmm)) := by
  rw [noRequests, noResponses, idle.vmmDone, idle.peerDone]
  exact .refl _

variable (coherent : link.Coherent)
include coherent

/-- Every outstanding request is in exactly one place. -/
theorem Coherent.accounted :
    link.vmm.outstanding.values.Perm
      (requestsIn link.toPeer ++ (link.peer.outstanding.values ++ responsesIn link.toVmm)) := by
  obtain ⟨_, _, -, -, phase⟩ := coherent.exists_phase
  cases phase with
  | unopened opening peer toPeer toVmm | offered opening peer toPeer toVmm
  | selecting opening bound offer toPeer toVmm
  | selected limits opening answered toPeer toVmm =>
    exact Idle.accounted { opening with } (by rw [toPeer]; rfl) (by rw [toVmm]; rfl)
  | configuring limits count idle agreed received behind inside toPeer toVmm =>
    exact idle.accounted (by rw [toPeer, requestsIn_regionFrames]) (by rw [toVmm]; rfl)
  | started limits count idle agreed received inside toPeer toVmm =>
    apply idle.accounted
    · rw [toPeer, requestsIn, filterMap_append]
      exact congrArg (· ++ []) (requestsIn_regionFrames link.vmm _)
    · rw [toVmm]
      rfl
  | confirming limits idle configured toPeer toVmm | confirmed limits idle configured toPeer toVmm
  | draining limits idle configured toPeer toVmm | drained idle bound toPeer toVmm
  | acknowledged idle toPeer toVmm | closed idle toPeer toVmm =>
    exact idle.accounted (by rw [toPeer]; rfl) (by rw [toVmm]; rfl)
  | serving limits requests responses configured served =>
    rw [served.toPeer, served.toVmm, requestsIn_requests, responsesIn_responses _ served.answers]
    exact served.split

/-- The outstanding requests have distinct identities and fit the selection. -/
theorem Coherent.bounded :
    link.vmm.outstanding.Keyed PendingRequest.request ∧
      ∀ limits, link.vmm.selected = some limits →
        link.vmm.outstanding.size ≤ limits.maxInFlight.toNat := by
  have quiet : link.vmm.outstanding = ∅ → link.vmm.outstanding.Keyed PendingRequest.request ∧
      ∀ limits, link.vmm.selected = some limits →
        link.vmm.outstanding.size ≤ limits.maxInFlight.toNat := by
    intro empty
    rw [empty]
    exact ⟨keyed_empty, fun limits _ => Nat.zero_le _⟩
  obtain ⟨_, _, -, -, phase⟩ := coherent.exists_phase
  cases phase with
  | unopened opening | offered opening | selecting opening | selected _ opening =>
    exact quiet opening.vmmDone
  | configuring _ _ idle | started _ _ idle | confirming _ idle | confirmed _ idle
  | draining _ idle | drained idle | acknowledged idle | closed idle => exact quiet idle.vmmDone
  | serving limits requests responses configured served =>
    refine ⟨served.vmmKeyed, fun other selected => ?_⟩
    obtain rfl := Option.some.inj (configured.vmmSelected.symm.trans selected)
    exact served.bounded

/-- An active peer has the regions of the VMM. -/
theorem Coherent.regions (active : link.peer.state = .active) :
    Holds link.peer.regions link.vmm.regions := by
  obtain ⟨_, -, phase⟩ := coherent.phase_of_peer active
  cases phase with
  | confirmed _ _ configured | serving _ _ _ configured | draining _ _ configured =>
    exact configured.regions

/-- Nothing is outstanding once a shutdown was acknowledged. -/
theorem Coherent.drained (acknowledged : link.peer.state = .closed ∨ link.vmm.state = .closed) :
    link.vmm.outstanding = ∅ ∧ link.peer.outstanding = ∅ := by
  rcases acknowledged with peerClosed | vmmClosed
  · obtain ⟨_, -, phase⟩ := coherent.phase_of_peer peerClosed
    cases phase with
    | acknowledged idle | closed idle => exact ⟨idle.vmmDone, idle.peerDone⟩
  · obtain ⟨_, -, phase⟩ := coherent.phase_of_vmm vmmClosed
    cases phase with
    | closed idle => exact ⟨idle.vmmDone, idle.peerDone⟩

end
end PagerLink

/-- Two sessions of any offer, regions and selection never refuse each other's frames. The
outstanding requests of the VMM are those on their way to the peer, at the peer, and on their
way back, each in one of these places and never more than the selection allows. -/
theorem pagerLink_compatible {session : PagerSessionId} {offered : PagerLimits}
    {regions : List PagerRegion} {vmm : VmmSession} {events : List LinkEvent} {link : PagerLink}
    (made : VmmSession.new session offered regions = .ok vmm)
    (orderly : ∀ event ∈ events, event.Orderly)
    (reached : (PagerLink.initial vmm).run events = some link) :
    (∀ frame rest, link.toPeer = frame :: rest → (link.peer.receive frame).1 = .ok frame) ∧
      (∀ frame rest, link.toVmm = frame :: rest → (link.vmm.receive frame).1 = .ok frame) ∧
      link.vmm.outstanding.values.Perm
        (requestsIn link.toPeer ++ (link.peer.outstanding.values ++ responsesIn link.toVmm)) ∧
      (link.vmm.outstanding.values.map PendingRequest.request).Nodup ∧
      (∀ limits, link.vmm.selected = some limits →
        link.vmm.outstanding.size ≤ limits.maxInFlight.toNat) ∧
      (link.peer.state = .active → link.peer.regions.values.Perm link.vmm.regions ∧
        ∀ id, link.peer.regions.lookup id = link.vmm.regions.find? fun region => region.id = id) ∧
      (link.peer.state = .closed ∨ link.vmm.state = .closed →
        link.vmm.outstanding = ∅ ∧ link.peer.outstanding = ∅) := by
  have coherent := (PagerLink.Coherent.initial made).run orderly reached
  obtain ⟨keyed, bounded⟩ := coherent.bounded
  refine ⟨?_, ?_, coherent.accounted, keyed.nodup, bounded, ?_, coherent.drained⟩
  · intro frame rest queued
    obtain ⟨peer, received, -⟩ := coherent.deliverToPeer queued
    rw [received]
  · intro frame rest queued
    obtain ⟨vmm, received, -⟩ := coherent.deliverToVmm queued
    rw [received]
  · intro active
    have holds := coherent.regions active
    exact ⟨holds.values, holds.lookup⟩

private def sampleSession : PagerSessionId where
  bytes := 1 :: List.replicate 31 0
  size := rfl
  nonzero := by decide

private def sampleLimits : PagerLimits where
  pageSize := 4096
  regionCount := 1
  maxInFlight := 2
  maxFrameBytes := 4192
  operations := .v1
  admitted := by decide

private def sampleId (width : Nat) (nonzero : (1 : BitVec width) ≠ 0) : NonzeroIdentifier width :=
  ⟨1, nonzero⟩

private def sampleRegion : PagerRegion where
  id := sampleId 32 (by decide)
  sourceOffset := 0
  length := 8192
  nonempty := by decide
  bounded := by decide

private def sampleVmm : VmmSession where
  session := sampleSession
  offered := sampleLimits
  selected := none
  regions := [sampleRegion]
  nextRegion := 0
  state := .new
  nextRequest := 1
  outstanding := ∅

/-- A handshake, two requests, and an answer to the first of them. -/
private def sampleEvents : List LinkEvent :=
  [.vmmCall .hello, .deliverToPeer, .peerCall (.helloAck sampleLimits), .deliverToVmm,
    .vmmCall .nextRegion, .vmmCall .start, .deliverToPeer, .deliverToPeer, .peerCall .ready,
    .deliverToVmm,
    .vmmCall (.requestPage (sampleId 32 (by decide)) (sampleId 64 (by decide)) 4096 .read),
    .vmmCall (.remove (sampleId 32 (by decide)) (sampleId 64 (by decide)) 0 4096),
    .deliverToPeer, .peerCall (.pageZero (sampleId 64 (by decide)))]

/-- Two requests are outstanding in the sample: one on its way, and one answered. -/
theorem pagerLink_compatible_sample : ∃ link,
    (PagerLink.initial sampleVmm).run sampleEvents = some link ∧
    link.vmm.outstanding.size = 2 ∧ (requestsIn link.toPeer).length = 1 ∧
    (responsesIn link.toVmm).length = 1 ∧
    link.vmm.outstanding.values.Perm
      (requestsIn link.toPeer ++ (link.peer.outstanding.values ++ responsesIn link.toVmm)) := by
  have made : VmmSession.new sampleSession sampleLimits [sampleRegion] = .ok sampleVmm := rfl
  have orderly : ∀ event ∈ sampleEvents, event.Orderly := by
    simp [sampleEvents, LinkEvent.Orderly, VmmCall.Orderly, PeerCall.Orderly]
  have final : ∃ link, (PagerLink.initial sampleVmm).run sampleEvents = some link ∧
      link.vmm.outstanding.size = 2 ∧ (requestsIn link.toPeer).length = 1 ∧
      (responsesIn link.toVmm).length = 1 := by
    have counted : ((PagerLink.initial sampleVmm).run sampleEvents).any (fun link =>
        link.vmm.outstanding.size = 2 ∧ (requestsIn link.toPeer).length = 1 ∧
          (responsesIn link.toVmm).length = 1) = true := by decide +kernel
    simpa [Option.any_eq_true] using counted
  obtain ⟨link, reached, outstanding, waiting, answered⟩ := final
  obtain ⟨-, -, accounted, -⟩ := pagerLink_compatible made orderly reached
  exact ⟨link, reached, outstanding, waiting, answered, accounted⟩

/-- Active ends work under one session, one selection and one region table, and the requests
which are under way were never seen by the peer and are in range for it. -/
theorem active_sessions_agree {session : PagerSessionId} {offered : PagerLimits}
    {regions : List PagerRegion} {vmm : VmmSession} {events : List LinkEvent} {link : PagerLink}
    (made : VmmSession.new session offered regions = .ok vmm)
    (orderly : ∀ event ∈ events, event.Orderly)
    (reached : (PagerLink.initial vmm).run events = some link)
    (vmmActive : link.vmm.state = .active) (peerActive : link.peer.state = .active) :
    ∃ limits, link.vmm.selected = some limits ∧ link.peer.selected = some limits ∧
      limits.isSelectionFor link.vmm.offered ∧ link.peer.session = some link.vmm.session ∧
      ((requestsIn link.toPeer).map (·.request.get.toNat)).Pairwise (· < ·) ∧
      ∀ pending ∈ requestsIn link.toPeer, link.peer.lastRequest.toNat < pending.request.get.toNat ∧
        ∃ region, link.peer.regions.lookup pending.region = some region ∧
          pending.rangeIsValid region limits.pageSize := by
  have phase := ((PagerLink.Coherent.initial made).run orderly reached).phase
  rw [vmmActive, peerActive] at phase
  cases phase with
  | serving limits requests responses configured served =>
    rw [served.toPeer, PagerLink.requestsIn_requests]
    refine ⟨limits, configured.vmmSelected, configured.peerSelected, configured.selection,
      configured.bound, pairwise_map.mpr served.increasing, fun pending waits => ?_⟩
    obtain ⟨region, known, inRange⟩ := served.inRange pending waits
    exact ⟨served.later pending waits, region, (configured.regions.lookup _).trans known, inRange⟩

/-- Both ends of the sample are active, under one session. -/
theorem active_sessions_agree_sample : ∃ link,
    (PagerLink.initial sampleVmm).run sampleEvents = some link ∧
      link.peer.session = some link.vmm.session := by
  have active : ((PagerLink.initial sampleVmm).run sampleEvents).any (fun link =>
      link.vmm.state = .active ∧ link.peer.state = .active) = true := by decide +kernel
  simp only [Option.any_eq_true, decide_eq_true_eq] at active
  obtain ⟨link, reached, vmmActive, peerActive⟩ := active
  have made : VmmSession.new sampleSession sampleLimits [sampleRegion] = .ok sampleVmm := rfl
  have orderly : ∀ event ∈ sampleEvents, event.Orderly := by
    simp [sampleEvents, LinkEvent.Orderly, VmmCall.Orderly, PeerCall.Orderly]
  obtain ⟨_, _, _, _, bound, _⟩ := active_sessions_agree made orderly reached vmmActive peerActive
  exact ⟨link, reached, bound⟩

end Bangbang.Pager
