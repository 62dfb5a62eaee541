import Bangbang.Pager.Exchange

/-!
# Every emitted frame has a wire form

The frames of a VMM session are in range because every request is checked against
its region before it is issued. The answers of a peer session echo a request which
it accepted, so they are in range because nothing else is ever outstanding. With
the codec this gives the round trip for everything that either session emits.
-/

namespace Bangbang.Pager

open Bangbang.Action VmmSession

/-- A page payload has the announced length and fits a frame. -/
def PagerMessage.Fits : PagerMessage → Prop
  | .pageData response data =>
    data.length = response.length.toNat ∧ response.length.toNat ≤ maxPageSize
  | _ => True

variable {frame : PagerFrame}

/-- A frame in range has a wire form which decodes to it. -/
theorem exists_encoding (inRange : frame.message.InRange) (fits : frame.message.Fits) :
    ∃ encoded, encodeFrame frame = .ok encoded ∧ decodeFrame encoded = .ok frame := by
  have made : ∃ payload, encodeMessage frame.message = .ok payload ∧
      headerBytes + (sessionBytes + payload.length) ≤ maxFrameBytes := by
    obtain ⟨session, message⟩ := frame
    cases message with
    | pageData response data =>
      obtain ⟨sameLength, small⟩ := fits
      refine ⟨encodePageMetadata response ++ data, ?_, ?_⟩
      · rw [encodeMessage, bind_eq_ok]
        exact ⟨(), by simpa using sameLength, rfl⟩
      · rw [List.length_append, length_encodePageMetadata, maxFrameBytes, pageMetadataBytes]
        omega
    | hello limits | helloAck limits =>
      exact ⟨_, rfl, by rw [length_encodeLimits]; decide⟩
    | region region => exact ⟨_, rfl, by rw [length_encodeRegion]; decide⟩
    | pageRequest request | pageZero request =>
      exact ⟨_, rfl, by rw [length_encodePageMetadata]; decide⟩
    | remove request | removed request =>
      exact ⟨_, rfl, by rw [length_encodeRemoveMetadata]; decide⟩
    | start | ready | cancelled | shutdown | shutdownAck => exact ⟨_, rfl, by decide⟩
    | cancel reason | terminal code =>
      exact ⟨_, rfl, by
        rw [List.length_append, length_toBeBytes, List.length_replicate]; decide⟩
  obtain ⟨payload, encoded, bounded⟩ := made
  have whole := encodeFrame_eq_ok.mpr ⟨payload, encoded, bounded, rfl⟩
  exact ⟨_, whole, decodeFrame_eq_ok.mpr ⟨inRange, whole⟩⟩

/-- A request which may be issued, accepted and answered. -/
def PendingRequest.Sound : PendingRequest → Prop
  | .page request => request.InRange ∧ request.length.toNat ≤ maxPageSize
  | .remove request => request.InRange

theorem checkedAdd_any_bound {left right bound} (within : (checkedAdd left right).any (· ≤ bound)) :
    left + right < wordLimit := by
  unfold checkedAdd at within
  split at within
  · assumption
  · cases within

variable {pending : PendingRequest}

/-- The range checks leave sound requests. -/
theorem PendingRequest.sound_of_rangeIsValid {region} {limits : PagerLimits}
    (valid : pending.rangeIsValid region limits.pageSize) : pending.Sound := by
  obtain ⟨-, -, ⟨atLeast, atMost⟩, -⟩ := limits.admitted
  cases pending with
  | page request =>
    simp only [rangeIsValid, pageRangeIsValid, decide_eq_true_eq] at valid
    obtain ⟨sameLength, -, within⟩ := valid
    refine ⟨⟨?_, checkedAdd_any_bound within⟩, by rw [sameLength]; exact atMost⟩
    intro zero
    rw [← sameLength, zero] at atLeast
    exact absurd atLeast (by decide)
  | remove request =>
    simp only [rangeIsValid, removeRangeIsValid, decide_eq_true_eq] at valid
    obtain ⟨nonempty, -, -, within⟩ := valid
    exact ⟨nonempty, checkedAdd_any_bound within⟩

/-- A request passed the range check of some region and limits. -/
def PendingRequest.RangeChecked (pending : PendingRequest) : Prop :=
  ∃ (region : PagerRegion) (limits : PagerLimits), pending.rangeIsValid region limits.pageSize

/-- The frame of a sound request is well formed and fits. -/
theorem PendingRequest.Sound.message (sound : pending.Sound) :
    pending.message.InRange ∧ pending.message.Fits := by
  cases pending with
  | page request => exact ⟨sound.1, trivial⟩
  | remove request => exact ⟨sound, trivial⟩

/-- The answer to a sound request is well formed and fits. -/
theorem PendingRequest.Sound.answer {message} (sound : pending.Sound)
    (answers : Answers pending message) : message.InRange ∧ message.Fits := by
  cases answers with
  | pageData request data sameLength => exact ⟨sound.1, sameLength, sound.2⟩
  | pageZero request => exact ⟨sound.1, trivial⟩
  | removed request => exact ⟨sound, trivial⟩

/-- What a VMM emits in any state has a wire form. -/
theorem VmmCall.emits {vmm next} {call : VmmCall}
    (accepted : call.action.outcome vmm = (.ok frame, next)) :
    frame.message.InRange ∧ frame.message.Fits := by
  cases call with
  | hello =>
    obtain ⟨-, rfl, -⟩ := hello_eq_ok.mp accepted
    exact ⟨trivial, trivial⟩
  | nextRegion =>
    obtain ⟨-, region, -, -, rfl, -⟩ := nextRegionFrame_eq_ok.mp accepted
    exact ⟨trivial, trivial⟩
  | start =>
    obtain ⟨-, -, rfl, -⟩ := start_eq_ok.mp accepted
    exact ⟨trivial, trivial⟩
  | requestPage region generation offset access =>
    obtain ⟨pending, limits, region, issues, rfl, -⟩ := request_eq_ok (.inl ⟨_, rfl⟩) accepted
    exact (PendingRequest.sound_of_rangeIsValid issues.inRange).message
  | remove region generation offset length =>
    obtain ⟨pending, limits, region, issues, rfl, -⟩ := request_eq_ok (.inr ⟨_, rfl⟩) accepted
    exact (PendingRequest.sound_of_rangeIsValid issues.inRange).message
  | cancel reason =>
    obtain ⟨-, rfl, -⟩ := cancel_eq_ok.mp accepted
    exact ⟨trivial, trivial⟩
  | shutdown =>
    obtain ⟨-, -, rfl, -⟩ := shutdown_eq_ok.mp accepted
    exact ⟨trivial, trivial⟩
  | terminal code =>
    obtain ⟨-, rfl, -⟩ := terminal_eq_ok.mp accepted
    exact ⟨trivial, trivial⟩

namespace PeerSession

variable {peer next : PeerSession}

/-- Everything outstanding afterwards was outstanding before. -/
def Shrinks (before after : PeerSession) : Prop :=
  ∀ pending ∈ after.outstanding.values, pending ∈ before.outstanding.values

theorem Shrinks.refl (peer : PeerSession) : Shrinks peer peer := fun _ member => member

theorem Shrinks.trans {first second third} (before : Shrinks first second)
    (after : Shrinks second third) : Shrinks first third :=
  fun pending member => before pending (after pending member)

theorem frame_shrinks (message : PagerMessage) : Keeps Shrinks (PeerSession.frame message) :=
  (keeps_get .refl).bind .trans fun _ => (keeps_check .refl _).bind .trans fun _ =>
    keeps_pure .refl _

/-- A settled request makes no other outstanding. -/
theorem removeOutstanding_shrinks (request : PagerRequestId) :
    Keeps Shrinks (removeOutstanding request) :=
  (keeps_get .refl).bind .trans fun _ =>
    (keeps_modify fun _ _ member => Table.mem_values_of_erase member).bind .trans fun _ =>
      keeps_check .refl _

/-- A call of the peer never makes a request outstanding, whether it succeeds or not. -/
theorem call_shrinks (call : PeerCall) : Keeps Shrinks call.action := by
  cases call with
  | helloAck limits =>
    exact (keeps_get .refl).bind .trans fun _ => (keeps_check .refl _).bind .trans fun _ =>
      (keeps_check .refl _).bind .trans fun _ =>
        (keeps_modify fun _ _ member => member).bind .trans fun _ => frame_shrinks _
  | ready | cancelled | shutdownAck =>
    exact (keeps_get .refl).bind .trans fun _ => (keeps_check .refl _).bind .trans fun _ =>
      (keeps_modify fun _ _ member => member).bind .trans fun _ => frame_shrinks _
  | pageData request data =>
    exact (keeps_get .refl).bind .trans fun _ => (keeps_check .refl _).bind .trans fun _ =>
      (keeps_check .refl _).bind .trans fun _ => (keeps_check .refl _).bind .trans fun _ =>
        (removeOutstanding_shrinks _).bind .trans fun _ => frame_shrinks _
  | pageZero request | removed request =>
    exact (keeps_get .refl).bind .trans fun _ => (keeps_check .refl _).bind .trans fun _ =>
      (keeps_check .refl _).bind .trans fun _ =>
        (removeOutstanding_shrinks _).bind .trans fun _ => frame_shrinks _
  | terminal code =>
    exact (keeps_get .refl).bind .trans fun _ => (keeps_check .refl _).bind .trans fun _ =>
      (keeps_modify fun _ _ member => by cases member).bind .trans fun _ => frame_shrinks _

theorem acceptRegion_shrinks (region : PagerRegion) : Keeps Shrinks (acceptRegion region) :=
  (keeps_get .refl).bind .trans fun _ => (keeps_check .refl _).bind .trans fun _ =>
    (keeps_check .refl _).bind .trans fun _ => keeps_modify fun _ _ member => member

theorem acceptStart_shrinks : Keeps Shrinks acceptStart :=
  (keeps_get .refl).bind .trans fun _ => (keeps_check .refl _).bind .trans fun _ =>
    (keeps_check .refl _).bind .trans fun _ => keeps_modify fun _ _ member => member

/-- An accepted page request has been checked. -/
theorem acceptPage_eq_ok {request done}
    (passed : (acceptPage request).outcome peer = (.ok done, next)) :
    (PendingRequest.page request).RangeChecked ∧
      peer.accepted (.page request) = next := by
  simp only [acceptPage, outcome_get_bind, outcome_check_bind_eq_ok, okOr_eq_ok, rejectIf_eq_ok,
    not_not, outcome_modify, Prod.mk.injEq] at passed
  obtain ⟨_, -, limits, -, region, -, _, valid, -, rfl⟩ := passed
  exact ⟨⟨region, limits, valid⟩, rfl⟩

theorem acceptRemove_eq_ok {request done}
    (passed : (acceptRemove request).outcome peer = (.ok done, next)) :
    (PendingRequest.remove request).RangeChecked ∧
      peer.accepted (.remove request) = next := by
  simp only [acceptRemove, outcome_get_bind, outcome_check_bind_eq_ok, okOr_eq_ok, rejectIf_eq_ok,
    not_not, outcome_modify, Prod.mk.injEq] at passed
  obtain ⟨_, -, limits, -, region, -, _, valid, -, rfl⟩ := passed
  exact ⟨⟨region, limits, valid⟩, rfl⟩

/-- Only sound requests are outstanding. -/
def Sound (peer : PeerSession) : Prop := ∀ pending ∈ peer.outstanding.values, pending.Sound

/-- An accepted request keeps the session sound. -/
theorem Sound.accepted {pending : PendingRequest} (sound : peer.Sound)
    (checked : pending.RangeChecked) : (peer.accepted pending).Sound := by
  obtain ⟨region, limits, valid⟩ := checked
  intro other member
  rcases Table.mem_values_of_insert member with rfl | older
  · exact PendingRequest.sound_of_rangeIsValid valid
  · exact sound other older

/-- A call which only settles requests keeps the session sound. -/
theorem Sound.of_keeps {α : Type} {action : M α} {result} (sound : peer.Sound)
    (ended : action.outcome peer = (result, next)) (keeps : Keeps Shrinks action) : next.Sound := by
  have shrinks := keeps peer
  rw [ended] at shrinks
  exact fun pending member => sound pending (shrinks pending member)

/-- A received frame keeps the outstanding requests sound. -/
theorem Sound.receiveInner {frame done} (sound : peer.Sound)
    (passed : (receiveInner frame).outcome peer = (.ok done, next)) : next.Sound := by
  simp only [PeerSession.receiveInner, outcome_get_bind, outcome_check_bind_eq_ok, rejectIf_eq_ok,
    exists_const] at passed
  obtain ⟨-, passed⟩ := passed
  split at passed
  case h_1 => exact sound.of_keeps passed (keeps_modify fun _ _ member => member)
  case h_2 => exact sound.of_keeps passed (acceptRegion_shrinks _)
  case h_3 => exact sound.of_keeps passed acceptStart_shrinks
  case h_4 =>
    obtain ⟨checked, rfl⟩ := acceptPage_eq_ok passed
    exact sound.accepted checked
  case h_5 =>
    obtain ⟨checked, rfl⟩ := acceptRemove_eq_ok passed
    exact sound.accepted checked
  case h_10 =>
    exact sound.of_keeps passed ((keeps_check .refl _).bind .trans fun _ =>
      keeps_modify fun _ _ member => member)
  case h_17 => cases passed
  -- Cancellation and terminal frames leave nothing outstanding.
  all_goals exact sound.of_keeps passed (keeps_modify fun _ _ member => by cases member)

/-- The states which a peer gets into by any calls and any received frames. -/
inductive Reachable : PeerSession → Prop
  | new : Reachable .new
  | call {peer : PeerSession} (call : PeerCall) (before : Reachable peer) :
      Reachable (call.action.outcome peer).2
  | receive {peer : PeerSession} (frame : PagerFrame) (before : Reachable peer) :
      Reachable (peer.receive frame).2

/-- Every reachable session is sound. -/
theorem Reachable.sound (reachable : peer.Reachable) : peer.Sound := by
  induction reachable with
  | new => exact nofun
  | call call _ sound => exact sound.of_keeps rfl (call_shrinks call)
  | @receive peer frame _ sound =>
    unfold PeerSession.receive
    split
    · rename_i ended
      exact sound.receiveInner ended
    · exact nofun

end PeerSession

open PeerSession

/-- What a peer emits in any reachable state has a wire form. -/
theorem PeerCall.emits {peer next : PeerSession} {call : PeerCall} (reachable : peer.Reachable)
    (accepted : call.action.outcome peer = (.ok frame, next)) :
    frame.message.InRange ∧ frame.message.Fits := by
  have settled : ∀ {request pending}, peer.Settles request pending frame next →
      frame.message.InRange ∧ frame.message.Fits := by
    intro request pending settles
    have sound := reachable.sound pending (Table.mem_values_of_lookup settles.found)
    exact sound.answer settles.answer
  cases call with
  | helloAck limits =>
    obtain ⟨-, -, -, -, -, -, rfl, -⟩ := helloAck_eq_ok.mp accepted
    exact ⟨trivial, trivial⟩
  | ready =>
    obtain ⟨-, -, -, rfl, -⟩ := ready_eq_ok.mp accepted
    exact ⟨trivial, trivial⟩
  | pageData request data =>
    obtain ⟨pending, settles⟩ := pageData_eq_ok accepted
    exact settled settles
  | pageZero request =>
    obtain ⟨pending, settles⟩ := pageZero_eq_ok accepted
    exact settled settles
  | removed request =>
    obtain ⟨pending, settles⟩ := removed_eq_ok accepted
    exact settled settles
  | cancelled =>
    obtain ⟨-, -, -, rfl, -⟩ := cancelled_eq_ok.mp accepted
    exact ⟨trivial, trivial⟩
  | shutdownAck =>
    obtain ⟨-, -, -, rfl, -⟩ := shutdownAck_eq_ok.mp accepted
    exact ⟨trivial, trivial⟩
  | terminal code =>
    obtain ⟨-, -, -, rfl, -⟩ := terminal_eq_ok.mp accepted
    exact ⟨trivial, trivial⟩

/-- Every emitted frame round-trips, every accepted byte string is the encoding of its frame,
and no accepted byte string continues another one. -/
theorem pagerFrame_codec :
    (∀ (vmm next : VmmSession) (call : VmmCall) (frame : PagerFrame),
      call.action.outcome vmm = (.ok frame, next) →
        ∃ encoded, encodeFrame frame = .ok encoded ∧ decodeFrame encoded = .ok frame) ∧
    (∀ (peer next : PeerSession) (call : PeerCall) (frame : PagerFrame), peer.Reachable →
      call.action.outcome peer = (.ok frame, next) →
        ∃ encoded, encodeFrame frame = .ok encoded ∧ decodeFrame encoded = .ok frame) ∧
    (∀ encoded frame, decodeFrame encoded = .ok frame → encodeFrame frame = .ok encoded) ∧
    (∀ shorter longer first second, decodeFrame shorter = .ok first →
      decodeFrame longer = .ok second → shorter <+: longer → shorter = longer) := by
  refine ⟨?_, ?_, ?_, ?_⟩
  · intro vmm next call frame accepted
    obtain ⟨inRange, fits⟩ := VmmCall.emits accepted
    exact exists_encoding inRange fits
  · intro peer next call frame reachable accepted
    obtain ⟨inRange, fits⟩ := PeerCall.emits reachable accepted
    exact exists_encoding inRange fits
  · intro encoded frame decoded
    exact (decodeFrame_eq_ok.mp decoded).2
  · intro shorter longer first second shortAccepted longAccepted continues
    exact decodeFrame_prefix_eq shortAccepted longAccepted continues

end Bangbang.Pager
