import Bangbang.Vsock.Connection

/-!
# Writes to the host stream

What a write, a flush and the queueing of a payload do to the bytes: those which the stream
takes and those which stay queued are together the ones which were there before, in order.
-/

namespace Bangbang.Vsock

open List

section
variable {remaining payload : List UInt8} {totalWritten : Nat} {accepted : List UInt8} {writes}
  {stream next : HostStream}

theorem HostStream.accepted_of_write {stream after : HostStream} {bytes written}
    (writes : stream.write bytes = (.ok written, after)) :
    after.accepted = stream.accepted ++ bytes.take written := by
  unfold HostStream.write at writes
  split at writes <;> cases writes
  rfl

/-- How the writes of a payload end. -/
def Written (payload : List UInt8) (totalWritten : Nat) (accepted : List UInt8) :
    Except VsockGuestRwForwardFailure VsockGuestRwWriteOutcome × HostStream → Prop
  | (.ok (.complete written), stream) =>
    written = totalWritten + payload.length ∧ stream.accepted = accepted ++ payload
  | (.ok (.blocked written), stream) => ∃ count < payload.length,
      written = totalWritten + count ∧ stream.accepted = accepted ++ payload.take count
  | (.error failure, _) => failure.source.isStreamWriteFailure ∧
      failure.forwardedBytes ≤ totalWritten + payload.length

/-- What was written before the rest of a payload is part of what was written. -/
theorem Written.after {count ended} (fits : count ≤ payload.length)
    (written : Written (payload.drop count) (totalWritten + count)
      (accepted ++ payload.take count) ended) : Written payload totalWritten accepted ended := by
  have length : (payload.drop count).length = payload.length - count := length_drop
  rcases ended with ⟨failure | (whole | part), stream⟩
  · obtain ⟨isFailure, bounded⟩ := written
    exact ⟨isFailure, by omega⟩
  · obtain ⟨total, taken⟩ := written
    refine ⟨by omega, ?_⟩
    rw [taken, append_assoc, take_append_drop]
  · obtain ⟨further, short, total, taken⟩ := written
    refine ⟨count + further, by omega, by omega, ?_⟩
    rw [taken, append_assoc, take_add]

/-- What is written is a prefix of what remains. -/
theorem writeRemaining_written :
    Written remaining totalWritten accepted
      (writeRemaining remaining totalWritten accepted writes) := by
  induction writes generalizing remaining totalWritten accepted with
  | nil =>
    unfold writeRemaining
    split
    · next empty => simp [Written, isEmpty_iff.mp empty]
    · next left =>
        refine ⟨0, ?_, rfl, by simp⟩
        exact length_pos_iff.mpr fun empty => left (isEmpty_iff.mpr empty)
  | cons answer writes ih =>
    unfold writeRemaining
    split
    · next empty => simp [Written, isEmpty_iff.mp empty]
    · next left =>
        have nonempty : 0 < remaining.length :=
          length_pos_iff.mpr fun empty => left (isEmpty_iff.mpr empty)
        rcases answer with kind | written
        · cases kind with
          | wouldBlock | interrupted => exact ⟨0, nonempty, rfl, by simp⟩
          | other code => exact ⟨rfl, Nat.le_add_right _ _⟩
        · cases written with
          | zero => exact ⟨rfl, Nat.le_add_right _ _⟩
          | succ written =>
            change Written _ _ _ (if remaining.length < written + 1 then _ else _)
            split
            · exact ⟨rfl, Nat.le_add_right _ _⟩
            · next fits => exact .after (by omega) ih

/-- A payload is written up to where the stream stops. -/
theorem writeGuestRwPayloadToStream_written (stream payload) :
    Written payload 0 stream.accepted (writeGuestRwPayloadToStream stream payload) :=
  writeRemaining_written

end

namespace VsockGuestRwPendingWrites

/-- The bytes which wait for the host stream. -/
def queued (pending : VsockGuestRwPendingWrites) : List UInt8 :=
  pending.payloads.flatten.drop pending.frontOffset

/-- Every queued payload has something left, and the bytes are counted. -/
structure WellFormed (pending : VsockGuestRwPendingWrites) : Prop where
  front : ∀ payload ∈ pending.payloads.head?, pending.frontOffset < payload.length
  idle : pending.payloads = [] → pending.frontOffset = 0
  nonempty : ∀ payload ∈ pending.payloads, payload ≠ []
  pendingBytes_eq : pending.pendingBytes = pending.queued.length

variable {pending next : VsockGuestRwPendingWrites} {stream : HostStream} {payload : List UInt8}
  {payloads} {frontOffset pendingBytes written forwardedBytes : Nat}

theorem WellFormed.new : WellFormed new :=
  ⟨nofun, fun _ => rfl, nofun, rfl⟩

theorem queued_cons (within : frontOffset ≤ payload.length) :
    queued ⟨payload :: payloads, frontOffset, pendingBytes⟩ =
      payload.drop frontOffset ++ payloads.flatten := by
  rw [queued, flatten_cons, drop_append_of_le_length within]

/-- Whole payloads are well formed when nothing is taken from them. -/
theorem WellFormed.whole (nonempty : ∀ payload ∈ payloads, payload ≠ [])
    (bytes : pendingBytes = payloads.flatten.length) : WellFormed ⟨payloads, 0, pendingBytes⟩ where
  front payload isFront := List.length_pos_iff.mpr (nonempty payload (List.mem_of_mem_head? isFront))
  idle _ := rfl
  nonempty := nonempty
  pendingBytes_eq := bytes

/-- Writing part of the front takes these bytes out of the queue. -/
theorem WellFormed.advanceFront
    (wellFormed : WellFormed ⟨payload :: payloads, frontOffset, pendingBytes⟩)
    (fits : written ≤ payload.length - frontOffset) :
    ∃ next, VsockGuestRwPendingWrites.advanceFront
        ⟨payload :: payloads, frontOffset, pendingBytes⟩ written = .ok next ∧
      next.WellFormed ∧ next.payloads.length ≤ payloads.length + 1 ∧
      next.queued = (payload.drop (frontOffset + written)) ++ payloads.flatten ∧
      (written = payload.length - frontOffset → next = ⟨payloads, 0, pendingBytes - written⟩) := by
  have inside : frontOffset < payload.length := wellFormed.front payload rfl
  have bytes := wellFormed.pendingBytes_eq
  rw [queued_cons inside.le, length_append, length_drop] at bytes
  change pendingBytes = _ at bytes
  have passes : ¬ payload.length - frontOffset < written := by omega
  by_cases whole : frontOffset + written = payload.length
  · refine ⟨⟨payloads, 0, pendingBytes - written⟩, ?_, ?_, Nat.le_succ _, ?_, fun _ => rfl⟩
    · simp only [VsockGuestRwPendingWrites.advanceFront, rejectIf, passes, if_false, ok_bind, whole,
        if_true]
      rfl
    · refine .whole (fun other member => wellFormed.nonempty other (.tail _ member)) ?_
      omega
    · rw [queued, whole, drop_zero, drop_length, nil_append]
  · refine ⟨⟨payload :: payloads, frontOffset + written, pendingBytes - written⟩, ?_, ?_, le_rfl, ?_,
      fun all => ?_⟩
    · simp only [VsockGuestRwPendingWrites.advanceFront, rejectIf, passes, if_false, ok_bind, whole]
      rfl
    · refine ⟨?_, by rintro ⟨⟩, wellFormed.nonempty, ?_⟩
      · rintro _ ⟨⟩
        change frontOffset + written < payload.length
        omega
      · rw [queued_cons (by omega), length_append, length_drop]
        change pendingBytes - written = _
        omega
    · rw [queued_cons (by omega)]
    · exact absurd (by omega) whole

/-- How a flush ends. -/
def Flushed (pending : VsockGuestRwPendingWrites) (forwardedBytes : Nat) (accepted : List UInt8) :
    Except VsockGuestRwForwardFailure Nat × VsockGuestRwPendingWrites × HostStream → Prop
  | (.ok total, next, stream) =>
    next.WellFormed ∧ next.payloads.length ≤ pending.payloads.length ∧
      ∃ taken, stream.accepted = accepted ++ taken ∧ taken ++ next.queued = pending.queued ∧
        total = forwardedBytes + taken.length
  | (.error failure, _, _) => failure.source.isStreamWriteFailure

/-- What left the queue before a flush is part of what left it. -/
theorem Flushed.before {middle : VsockGuestRwPendingWrites} {accepted taken ended}
    (took : stream.accepted = accepted ++ taken) (split : taken ++ middle.queued = pending.queued)
    (fewer : middle.payloads.length ≤ pending.payloads.length)
    (flushed : middle.Flushed (forwardedBytes + taken.length) stream.accepted ended) :
    pending.Flushed forwardedBytes accepted ended := by
  rcases ended with ⟨failure | total, next, after⟩
  · exact flushed
  · obtain ⟨wellFormed, atMost, further, tookFurther, splitFurther, isTotal⟩ := flushed
    refine ⟨wellFormed, atMost.trans fewer, taken ++ further, ?_, ?_, ?_⟩
    · rw [tookFurther, took, append_assoc]
    · rw [append_assoc, splitFurther, split]
    · rw [isTotal, length_append, Nat.add_assoc]

theorem flushFrom_flushed (wellFormed : WellFormed ⟨payloads, frontOffset, pendingBytes⟩) :
    Flushed ⟨payloads, frontOffset, pendingBytes⟩ forwardedBytes stream.accepted
      (flushFrom forwardedBytes frontOffset pendingBytes stream payloads) := by
  induction payloads generalizing forwardedBytes frontOffset pendingBytes stream with
  | nil =>
    refine ⟨.whole nofun ?_, le_rfl, [], by simp, ?_, rfl⟩
    · simpa [queued] using wellFormed.pendingBytes_eq
    · simp [queued]
  | cons payload payloads ih =>
    have inside : frontOffset < payload.length := wellFormed.front payload rfl
    have left : (payload.drop frontOffset).isEmpty = false := by
      rw [isEmpty_eq_false_iff, ← length_pos_iff, length_drop]
      omega
    have ended := writeGuestRwPayloadToStream_written stream (payload.drop frontOffset)
    rw [flushFrom]
    simp only [Nat.not_lt.mpr inside.le, if_false, left, Bool.false_eq_true]
    rcases answer : writeGuestRwPayloadToStream stream (payload.drop frontOffset) with
      ⟨failure | (whole | part), after⟩ <;> rw [answer] at ended
    · obtain ⟨isFailure, bounded⟩ := ended
      rw [length_drop, Nat.zero_add] at bounded
      obtain ⟨advanced, advances, _⟩ := wellFormed.advanceFront bounded
      dsimp only
      rw [advances]
      exact isFailure
    · obtain ⟨isWhole, took⟩ := ended
      rw [length_drop, Nat.zero_add] at isWhole
      obtain ⟨advanced, advances, rest, _, _, atEnd⟩ := wellFormed.advanceFront isWhole.le
      dsimp only
      rw [advances]
      have isRest := atEnd isWhole
      subst isRest
      -- The front went out whole, and the other payloads are flushed after it.
      rw [← length_drop] at isWhole
      subst isWhole
      refine .before took ?_ (Nat.le_succ _) (ih rest)
      rw [queued_cons inside.le]
      rfl
    · obtain ⟨count, short, isPart, took⟩ := ended
      rw [length_drop] at short
      rw [Nat.zero_add] at isPart
      subst isPart
      obtain ⟨advanced, advances, wellFormedNext, atMost, queuedNext, _⟩ :=
        wellFormed.advanceFront short.le
      dsimp only
      rw [advances]
      refine ⟨wellFormedNext, atMost, (payload.drop frontOffset).take part, took, ?_, ?_⟩
      · rw [queuedNext, queued_cons inside.le, ← drop_drop, ← append_assoc, take_append_drop]
      · rw [length_take, length_drop, Nat.min_eq_left short.le]

/-- A flush forwards the queue in order. -/
theorem flush_flushed (wellFormed : pending.WellFormed) (stream) :
    pending.Flushed 0 stream.accepted (pending.flush stream) :=
  flushFrom_flushed wellFormed

/-- How queueing a payload ends. -/
def Pushed (pending : VsockGuestRwPendingWrites) (payload : List UInt8) :
    Except VsockGuestRwForwardError VsockGuestRwPendingWrites → Prop
  | .ok next => next.WellFormed ∧ next.queued = pending.queued ++ payload
  | .error source =>
    source = .payloadAllocationFailed payload.length ∨
      source = .pendingBufferFull vsockGuestRwPendingPacketLimit ∧
        vsockGuestRwPendingPacketLimit ≤ pending.payloads.length ∨
      source = .pendingBufferByteLimit virtioVsockConnectionBufferSize
          (pending.queued.length + payload.length) ∧
        virtioVsockConnectionBufferSize < pending.queued.length + payload.length

theorem WellFormed.append (wellFormed : pending.WellFormed) (nonempty : payload ≠ []) :
    WellFormed { pending with
      payloads := pending.payloads ++ [payload]
      pendingBytes := pending.pendingBytes + payload.length } ∧
    queued { pending with
      payloads := pending.payloads ++ [payload]
      pendingBytes := pending.pendingBytes + payload.length } = pending.queued ++ payload := by
  have within : pending.frontOffset ≤ pending.payloads.flatten.length := by
    cases front : pending.payloads with
    | nil => exact (wellFormed.idle front).le
    | cons first others =>
      have inside := wellFormed.front first (by rw [front]; rfl)
      rw [flatten_cons, length_append]
      omega
  have appended : queued { pending with
      payloads := pending.payloads ++ [payload]
      pendingBytes := pending.pendingBytes + payload.length } = pending.queued ++ payload := by
    rw [queued, queued, flatten_append, flatten_singleton,
      drop_append_of_le_length within]
  refine ⟨⟨?_, ?_, ?_, ?_⟩, appended⟩
  · intro first isFirst
    cases front : pending.payloads with
    | nil =>
      rw [front] at isFirst
      cases isFirst
      rw [wellFormed.idle front]
      exact length_pos_iff.mpr nonempty
    | cons head others =>
      rw [front] at isFirst
      cases isFirst
      exact wellFormed.front _ (by rw [front]; rfl)
  · intro empty
    exact absurd empty (by simp)
  · intro other member
    rcases mem_append.mp member with older | isNew
    · exact wellFormed.nonempty other older
    · rw [mem_singleton.mp isNew]
      exact nonempty
  · rw [appended, length_append, ← wellFormed.pendingBytes_eq]

/-- A payload is queued behind the others. -/
theorem pushPayload_pushed (wellFormed : pending.WellFormed) (reserves payload) :
    pending.Pushed payload (pending.pushPayload reserves payload) := by
  unfold pushPayload
  split
  · next empty =>
      rw [isEmpty_iff.mp empty]
      exact ⟨wellFormed, (append_nil _).symm⟩
  next left =>
    have nonempty : payload ≠ [] := fun empty => left (isEmpty_iff.mpr empty)
    have bytes := wellFormed.pendingBytes_eq
    by_cases full : vsockGuestRwPendingPacketLimit ≤ pending.payloads.length
    · simp only [rejectIf, full, if_true, error_bind]
      exact .inr (.inl ⟨rfl, full⟩)
    by_cases heavy : virtioVsockConnectionBufferSize < pending.pendingBytes + payload.length
    · simp only [rejectIf, full, heavy, if_true, if_false, ok_bind, error_bind]
      rw [bytes] at heavy ⊢
      exact .inr (.inr ⟨rfl, heavy⟩)
    cases reserves with
    | false =>
      simp only [rejectIf, full, heavy, if_true, if_false, ok_bind, error_bind]
      exact .inl rfl
    | true =>
      simp only [rejectIf, full, heavy, if_false, ok_bind, Bool.true_eq_false]
      exact wellFormed.append nonempty

/-- How forwarding a payload ends. -/
def Forwarded (pending : VsockGuestRwPendingWrites) (stream : HostStream) (payload : List UInt8) :
    Except VsockGuestRwForwardFailure Nat × VsockGuestRwPendingWrites × HostStream → Prop
  | (.ok total, next, after) => next.WellFormed ∧
      ∃ taken, after.accepted = stream.accepted ++ taken ∧
        taken ++ next.queued = pending.queued ++ payload ∧ total = taken.length
  | (.error failure, _, _) =>
    failure.source.isStreamWriteFailure ∨
      (∃ len, failure.source = .payloadAllocationFailed len) ∨
      (failure.source = .pendingBufferFull vsockGuestRwPendingPacketLimit ∧ payload ≠ [] ∧
        ∃ forwardedBytes flushed after, pending.flush stream = (.ok forwardedBytes, flushed, after) ∧
          vsockGuestRwPendingPacketLimit ≤ flushed.payloads.length) ∨
      virtioVsockConnectionBufferSize < pending.queued.length + payload.length

/-- A payload is written after what is queued, or queued. -/
theorem writeOrQueue_forwarded (wellFormed : pending.WellFormed) (stream reserves payload) :
    pending.Forwarded stream payload (pending.writeOrQueue stream reserves payload) := by
  unfold writeOrQueue
  split
  · next empty =>
      rw [isEmpty_iff.mp empty]
      exact ⟨wellFormed, [], by simp, by simp, rfl⟩
  next left =>
    have nonempty : payload ≠ [] := fun empty => left (isEmpty_iff.mpr empty)
    have flushed := flush_flushed wellFormed stream
    rcases answer : pending.flush stream with ⟨failure | forwardedBytes, next, after⟩ <;>
      rw [answer] at flushed
    · exact .inl flushed
    obtain ⟨wellFormedNext, _, taken, took, divides, isTotal⟩ := flushed
    have shorter : next.queued.length ≤ pending.queued.length := by
      rw [← divides, length_append]
      exact Nat.le_add_left _ _
    rw [Nat.zero_add] at isTotal
    dsimp only
    split
    · -- Something is still queued, so the payload has to wait behind it.
      have pushed := pushPayload_pushed wellFormedNext reserves payload
      cases result : next.pushPayload reserves payload with
      | error source =>
        rw [result] at pushed
        rcases pushed with noMemory | ⟨full, isFull⟩ | ⟨_, heavy⟩
        · exact .inr (.inl ⟨_, noMemory⟩)
        · exact .inr (.inr (.inl ⟨full, nonempty, _, _, _, answer, isFull⟩))
        · exact .inr (.inr (.inr (by omega)))
      | ok queue =>
        rw [result] at pushed
        obtain ⟨wellFormedQueue, queued⟩ := pushed
        refine ⟨wellFormedQueue, taken, took, ?_, isTotal⟩
        rw [queued, ← append_assoc, divides]
    next idle =>
      have isIdle : next.payloads = [] := by
        rw [Bool.not_eq_false] at idle
        exact isEmpty_iff.mp idle
      have nothing : next.queued = [] := by simp [queued, isIdle]
      rw [nothing, append_nil] at divides
      have ended := writeGuestRwPayloadToStream_written after payload
      rcases written : writeGuestRwPayloadToStream after payload with
        ⟨failure | (whole | part), final⟩ <;> rw [written] at ended
      · exact .inl ended.1
      · obtain ⟨isWhole, took'⟩ := ended
        refine ⟨wellFormedNext, taken ++ payload, ?_, ?_, ?_⟩
        · rw [took', took, append_assoc]
        · rw [nothing, append_nil, divides]
        · rw [length_append, isTotal, isWhole, Nat.zero_add]
      · obtain ⟨count, short, isPart, took'⟩ := ended
        rw [Nat.zero_add] at isPart
        subst isPart
        have pushed := pushPayload_pushed wellFormedNext reserves (payload.drop part)
        dsimp only
        rw [pushPayloadSuffix, rejectIf, if_neg (Nat.not_lt.mpr short.le), ok_bind]
        cases result : next.pushPayload reserves (payload.drop part) with
        | error source =>
          rw [result] at pushed
          rcases pushed with noMemory | ⟨_, isFull⟩ | ⟨_, heavy⟩
          · exact .inr (.inl ⟨_, noMemory⟩)
          · rw [isIdle] at isFull
            exact absurd isFull (by decide)
          · rw [nothing, length_drop] at heavy
            refine .inr (.inr (.inr ?_))
            change _ < 0 + _ at heavy
            omega
        | ok queue =>
          rw [result] at pushed
          obtain ⟨wellFormedQueue, queued⟩ := pushed
          refine ⟨wellFormedQueue, taken ++ payload.take part, ?_, ?_, ?_⟩
          · rw [took', took, append_assoc]
          · rw [queued, nothing, nil_append, append_assoc, take_append_drop, divides]
          · rw [length_append, isTotal, length_take, Nat.min_eq_left short.le]

end VsockGuestRwPendingWrites
end Bangbang.Vsock
