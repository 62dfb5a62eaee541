import Bangbang.RateLimit.Refinement

/-!
# The rate limiter of a block device

A request takes one operation and its bytes. Each is charged to a bucket of its own, the
operation first, and a request whose bytes are refused gets its operation back. The bytes
themselves are not given back: a bucket which refuses them may have spent its one-time burst.
A bucket which refuses a request says when it will have the tokens, and nothing of the other
bucket.
-/

namespace Bangbang.RateLimit

inductive VirtioBlockRequestType where
  | read
  | write
  | flush
  | getDeviceId
  | unsupported (raw : Nat)
deriving DecidableEq, Repr

/-- The parts of a request which the limiter reads. -/
structure VirtioBlockRequest where
  requestType : VirtioBlockRequestType
  dataLen : Option Nat
deriving DecidableEq, Repr

def VirtioBlockRequest.rateLimiterBandwidthBytes (request : VirtioBlockRequest) : Nat :=
  match request.requestType with
  | .read | .write => request.dataLen.getD 0
  | .flush | .getDeviceId | .unsupported _ => 0

/-- A bucket for bytes and one for operations. -/
structure VirtioBlockRateLimiter where
  (bandwidth ops : Option TokenBucket)
deriving DecidableEq, Repr

open VirtioBlockRateLimiter

namespace VirtioBlockRateLimiter

variable (limiter : VirtioBlockRateLimiter)

/-- The charge for the bytes of a request, with the operations bucket as it is after the
operation and as it was before. -/
def reduceBandwidthAt (charged restored : Option TokenBucket) (bytes now : Nat)
    : TokenBucketReduction × VirtioBlockRateLimiter :=
  match limiter.bandwidth with
  | none => (.allowed, { limiter with ops := charged })
  | some bandwidth =>
    match bandwidth.reduceAllowOverconsumptionWithRetryAt bytes now with
    | (.allowed, bandwidth) => (.allowed, { bandwidth := some bandwidth, ops := charged })
    | (.throttled retryAfter, bandwidth) =>
      (.throttled retryAfter, { bandwidth := some bandwidth, ops := restored })

def reduceRequestAt (request : VirtioBlockRequest) (now : Nat) :
    TokenBucketReduction × VirtioBlockRateLimiter :=
  match limiter.ops with
  | none => limiter.reduceBandwidthAt none none request.rateLimiterBandwidthBytes now
  | some ops =>
    match (ops.reduceWithRetryAt 1 now).1 with
    | .throttled retryAfter =>
      (.throttled retryAfter, { limiter with ops := some (ops.reduceWithRetryAt 1 now).2 })
    | .allowed =>
      let charged := (ops.reduceWithRetryAt 1 now).2
      let restored := charged.restore ops.snapshot
        ((ops.reduceWithRetryAt_shape 1 now).1.symm ▸ ops.bounded)
      limiter.reduceBandwidthAt (some charged) (some restored) request.rateLimiterBandwidthBytes now

/-- The operations bucket, if there is one, admits an operation. -/
def opsAllowAt (now : Nat) : Prop := ∀ ops ∈ limiter.ops, (ops.reduceWithRetryAt 1 now).1 = .allowed

/-- The bandwidth bucket, if there is one, admits the bytes of a request. -/
def bandwidthAllowsAt (request : VirtioBlockRequest) (now : Nat) : Prop :=
  ∀ bandwidth ∈ limiter.bandwidth, (bandwidth.reduceAllowOverconsumptionWithRetryAt
    request.rateLimiterBandwidthBytes now).1 = .allowed

end VirtioBlockRateLimiter

/-- A bucket has lost nothing: it is as before, or refilled. -/
def Kept (now : Nat) (before after : Option TokenBucket) : Prop :=
  after = before ∨ after = before.map (·.replenishAt now)

namespace TokenBucket

variable {bucket next : TokenBucket} {tokens now later retryAfter : Nat}

/-- A throttled take keeps the bucket. -/
theorem takeBudget_refused (within : tokens ≤ bucket.size)
    (throttled : bucket.takeBudget tokens now = (.throttled retryAfter, next)) : next = bucket := by
  rw [takeBudget, if_neg (Nat.not_lt.mpr within)] at throttled
  split at throttled
  · exact (congrArg Prod.snd throttled).symm
  · cases throttled

/-- A bucket refuses a request only after it has given up its burst, and is refilled then. -/
theorem refused_kept (within : tokens ≤ bucket.size)
    (throttled : bucket.reduceWithRetryAt tokens now = (.throttled retryAfter, next)) :
    bucket.oneTimeBurst < tokens ∧ next = { bucket with oneTimeBurst := 0 }.replenishAt now := by
  rw [reduceWithRetryAt] at throttled
  split at throttled
  · cases throttled
  · split at throttled
    case isTrue => cases throttled
    case isFalse beyond =>
      refine ⟨Nat.not_le.mp beyond, takeBudget_refused ?_ throttled⟩
      exact (replenishAt_shape _ _).1.symm ▸ Nat.le_trans (Nat.sub_le _ _) within

theorem replenishAt_of_spent (spent : bucket.oneTimeBurst = 0) :
    { bucket with oneTimeBurst := 0 }.replenishAt now = bucket.replenishAt now := by
  rw [← spent]

theorem single_within (bucket : TokenBucket) : 1 ≤ bucket.size := bucket.sizePositive

/-- Within the size of the bucket the two reductions are one. -/
theorem reduce_eq_overconsume (within : tokens ≤ bucket.size) :
    bucket.reduceWithRetryAt tokens now =
      bucket.reduceAllowOverconsumptionWithRetryAt tokens now := (if_pos (.inr within)).symm

/-- A refill takes nothing away. -/
theorem budget_le_replenishAt : bucket.budget ≤ (bucket.replenishAt now).budget := by
  unfold replenishAt
  split
  · exact Nat.le_refl _
  · split
    case h_1 => exact Nat.le_refl _
    case h_2 => exact bucket.bounded
    case h_3 budget adjustedNanos refill =>
      rw [tokenBucketRefill_eq bucket.sizePositive bucket.sizeFits bucket.refillPositive
        bucket.refillFits, refillSpec] at refill
      have bounded := bucket.bounded
      grind

/-- Without a burst, an operation is admitted where a token is left or refilled. -/
theorem single_allowed_iff (spent : bucket.oneTimeBurst = 0) :
    (bucket.reduceWithRetryAt 1 now).1 = .allowed ↔ 1 ≤ (bucket.replenishAt now).budget := by
  rw [reduceWithRetryAt, if_neg (by decide), if_neg (by omega), replenishAt_of_spent spent, spent,
    takeBudget, if_neg (Nat.not_lt.mpr (single_within _))]
  split <;> simp <;> omega

/-- An operation which is admitted is admitted later as well, also by a clock which was behind. -/
theorem allowed_mono (ordered : now ≤ later)
    (allowed : (bucket.reduceWithRetryAt 1 now).1 = .allowed) :
    (bucket.reduceWithRetryAt 1 later).1 = .allowed := by
  by_cases spent : bucket.oneTimeBurst = 0
  · by_cases current : bucket.lastUpdate ≤ now
    · have decides : ∀ instant, now ≤ instant →
          ((bucket.reduceWithRetryAt 1 instant).1 = .allowed ↔
            (bucket.meterAt now).wait ((bucket.meterAt now).needed 1) ≤ instant - now) := by
        intro instant reached
        rw [reduce_eq_overconsume bucket.single_within,
          (reduceAllowOverconsumptionWithRetryAt_follows 1 (Nat.le_trans current reached)).answer,
          reduction_eq_allowed, meterAt_later current reached,
          Meter.allowed_advance_iff (show (bucket.meterAt now).burst = 0 from spent)]
      rw [decides later ordered]
      have now := (decides now (Nat.le_refl _)).mp allowed
      omega
    · rw [single_allowed_iff spent] at allowed ⊢
      rw [replenishAt, if_pos (Nat.not_le.mp current)] at allowed
      exact Nat.le_trans allowed budget_le_replenishAt
  · rw [reduceWithRetryAt, if_neg (by decide), if_pos (Nat.one_le_iff_ne_zero.mpr spent)]

end TokenBucket

open TokenBucket

namespace VirtioBlockRateLimiter

variable {limiter next : VirtioBlockRateLimiter} {request : VirtioBlockRequest}
  {now retryAfter : Nat}

/-- Restoring its snapshot undoes a reduction. -/
theorem restore_snapshot (ops : TokenBucket) (now : Nat)
    (bounded : ops.snapshot.budget ≤ (ops.reduceWithRetryAt 1 now).2.size) :
    (ops.reduceWithRetryAt 1 now).2.restore ops.snapshot bounded = ops := by
  obtain ⟨size, refill⟩ := ops.reduceWithRetryAt_shape 1 now
  ext
  · exact size
  · exact refill
  all_goals rfl

/-- How a request is throttled: by the operations bucket, or by the other one after the
operations bucket has admitted it and was restored. -/
theorem throttled_cases
    (throttled : limiter.reduceRequestAt request now = (.throttled retryAfter, next)) :
    (∃ ops charged, limiter.ops = some ops ∧
      ops.reduceWithRetryAt 1 now = (.throttled retryAfter, charged) ∧
      next = { limiter with ops := some charged }) ∨
    limiter.opsAllowAt now ∧ ∃ bandwidth charged, limiter.bandwidth = some bandwidth ∧
      bandwidth.reduceAllowOverconsumptionWithRetryAt request.rateLimiterBandwidthBytes now =
        (.throttled retryAfter, charged) ∧
      next = { limiter with bandwidth := some charged } := by
  -- Past the operations bucket, the other one refuses.
  refine Or.imp_right (b := ∃ charged, limiter.opsAllowAt now ∧
    limiter.reduceBandwidthAt charged limiter.ops request.rateLimiterBandwidthBytes now =
      (.throttled retryAfter, next)) ?bytes ?_
  case bytes =>
    rintro ⟨charged, admitted, refused⟩
    rw [reduceBandwidthAt] at refused
    split at refused
    · cases refused
    case h_2 bandwidth isBandwidth =>
      split at refused
      · cases refused
      case h_2 wait after reduced =>
        cases refused
        exact ⟨admitted, bandwidth, after, isBandwidth, reduced, rfl⟩
  rw [reduceRequestAt] at throttled
  split at throttled
  case h_1 absent =>
    refine .inr ⟨none, fun ops member => ?_, absent ▸ throttled⟩
    rw [absent] at member
    cases member
  case h_2 ops isOps =>
    split at throttled
    case h_1 wait reduced =>
      cases throttled
      exact .inl ⟨ops, _, isOps, Prod.ext reduced rfl, rfl⟩
    case h_2 reduced =>
      refine .inr ⟨some (ops.reduceWithRetryAt 1 now).2, fun other member => ?_, ?_⟩
      · rw [isOps, Option.mem_some_iff] at member
        rw [← member]
        exact reduced
      · simp only [restore_snapshot] at throttled
        rw [isOps]
        exact throttled

/-- Operations are allowed when one token can be taken. -/
theorem opsAllowAt_iff {ops : TokenBucket} (isOps : limiter.ops = some ops) :
    limiter.opsAllowAt now ↔ (ops.reduceWithRetryAt 1 now).1 = .allowed := by
  rw [opsAllowAt, isOps]
  simp

/-- A request which both buckets admit is allowed. -/
theorem reduceRequestAt_allowed (admitted : limiter.opsAllowAt now)
    (bandwidth : limiter.bandwidthAllowsAt request now) :
    (limiter.reduceRequestAt request now).1 = .allowed := by
  rcases answer : limiter.reduceRequestAt request now with ⟨reduction, next⟩
  cases reduction with
  | allowed => rfl
  | throttled retryAfter =>
    rcases throttled_cases answer with
      ⟨ops, _, isOps, refused, -⟩ | ⟨-, bucket, _, isBandwidth, refused, -⟩
    · rw [opsAllowAt_iff isOps, refused] at admitted
      cases admitted
    · have allowed := bandwidth bucket isBandwidth
      rw [refused] at allowed
      cases allowed

/-- The number of requests which a limiter admits of those made at some instants. -/
def admitted : VirtioBlockRateLimiter → List (VirtioBlockRequest × Nat) → Nat
  | _, [] => 0
  | limiter, (request, now) :: requests =>
    (if (limiter.reduceRequestAt request now).1 = .allowed then 1 else 0) +
      (limiter.reduceRequestAt request now).2.admitted requests

/-- A request counts as one operation of the operations bucket, or is refused at no cost. -/
theorem reduceRequestAt_ops {ops} (request now) (isOps : limiter.ops = some ops) :
    (limiter.reduceRequestAt request now).1 = (ops.reduceWithRetryAt 1 now).1 ∧
      (limiter.reduceRequestAt request now).2.ops = some (ops.reduceWithRetryAt 1 now).2 ∨
    (limiter.reduceRequestAt request now).1 ≠ .allowed ∧
      (limiter.reduceRequestAt request now).2.ops = some ops := by
  simp only [reduceRequestAt, isOps, restore_snapshot]
  split
  next refused => exact .inl ⟨refused.symm, rfl⟩
  next allowed =>
    unfold reduceBandwidthAt
    split
    · exact .inl ⟨allowed.symm, rfl⟩
    · split
      · exact .inl ⟨allowed.symm, rfl⟩
      · exact .inr ⟨nofun, rfl⟩

/-- The requests which were charged are the ones whose operation was not given back. -/
theorem exists_charged {ops} (isOps : limiter.ops = some ops) (requests) :
    ∃ calls, calls.Sublist (requests.map fun request => ⟨request.2, 1, false⟩) ∧
      limiter.admitted requests = ops.granted calls := by
  induction requests generalizing limiter ops with
  | nil => exact ⟨[], .slnil, rfl⟩
  | cons request requests ih =>
    rcases reduceRequestAt_ops request.1 request.2 isOps with
      ⟨answer, isNext⟩ | ⟨refused, isNext⟩
    · obtain ⟨calls, sublist, counts⟩ := ih isNext
      refine ⟨⟨request.2, 1, false⟩ :: calls, sublist.cons_cons _, ?_⟩
      rw [admitted, granted, answer, counts]
      rfl
    · obtain ⟨calls, sublist, counts⟩ := ih isNext
      refine ⟨calls, sublist.cons _, ?_⟩
      rw [admitted, if_neg refused, counts, Nat.zero_add]

end VirtioBlockRateLimiter

/-- A throttled request costs nothing, unless it got as far as a bandwidth bucket with a burst
which it can only use in part. Once the retry hint has passed, the operations bucket admits it,
and so does the bandwidth bucket if it was the one which refused; after a refusal by the operations
bucket only the bandwidth bucket can throttle the request again. The bucket which refused counts
its wait from `now` only if it was not updated after `now`. -/
theorem throttled_block_request {limiter next : VirtioBlockRateLimiter}
    {request : VirtioBlockRequest} {now retryAfter : Nat}
    (within : ∀ bandwidth ∈ limiter.bandwidth, request.rateLimiterBandwidthBytes ≤ bandwidth.size)
    (whole : limiter.opsAllowAt now → ∀ bandwidth ∈ limiter.bandwidth, bandwidth.oneTimeBurst = 0 ∨
      request.rateLimiterBandwidthBytes ≤ bandwidth.oneTimeBurst)
    (throttled : limiter.reduceRequestAt request now = (.throttled retryAfter, next)) :
    (Kept now limiter.ops next.ops ∧ Kept now limiter.bandwidth next.bandwidth) ∧
      (limiter.opsAllowAt now → next.opsAllowAt (now + retryAfter) ∧
        ((∀ bandwidth ∈ limiter.bandwidth, bandwidth.lastUpdate ≤ now) →
          (next.reduceRequestAt request (now + retryAfter)).1 = .allowed)) ∧
      (¬ limiter.opsAllowAt now → (∀ ops ∈ limiter.ops, ops.lastUpdate ≤ now) →
        next.opsAllowAt (now + retryAfter) ∧
        (limiter.bandwidthAllowsAt request (now + retryAfter) →
          (next.reduceRequestAt request (now + retryAfter)).1 = .allowed)) := by
  rcases throttled_cases throttled with
    ⟨ops, charged, isOps, refused, rfl⟩ | ⟨admitted, bandwidth, charged, isBandwidth, refused, rfl⟩
  · obtain ⟨few, isCharged⟩ := refused_kept ops.single_within refused
    have spent : ops.oneTimeBurst = 0 := by omega
    rw [replenishAt_of_spent spent] at isCharged
    refine ⟨⟨.inr ?_, .inl rfl⟩, fun admitted => ?_, fun _ opsCurrent => ?_⟩
    · rw [isOps, isCharged]
      rfl
    · rw [opsAllowAt_iff isOps, refused] at admitted
      cases admitted
    · have admits : opsAllowAt { limiter with ops := some charged } (now + retryAfter) := by
        rw [opsAllowAt_iff rfl]
        rw [reduce_eq_overconsume ops.single_within] at refused
        rw [reduce_eq_overconsume charged.single_within,
          retry_allowed_iff spent (opsCurrent ops isOps) refused (Nat.le_add_right _ _)]
      exact ⟨admits, reduceRequestAt_allowed admits⟩
  · have small := within bandwidth isBandwidth
    have plain := refused
    rw [← reduce_eq_overconsume small] at plain
    obtain ⟨few, isCharged⟩ := refused_kept small plain
    have spent : bandwidth.oneTimeBurst = 0 :=
      (whole admitted bandwidth isBandwidth).resolve_right (Nat.not_le.mpr few)
    rw [replenishAt_of_spent spent] at isCharged
    refine ⟨⟨.inl rfl, .inr ?_⟩, fun _ => ?_, fun refusing => absurd admitted refusing⟩
    · rw [isBandwidth, isCharged]
      rfl
    · have still : limiter.opsAllowAt (now + retryAfter) := fun ops member =>
        allowed_mono (Nat.le_add_right _ _) (admitted ops member)
      refine ⟨still, fun bandwidthCurrent => reduceRequestAt_allowed still ?_⟩
      intro bucket isBucket
      obtain rfl := Option.some.inj isBucket
      rw [retry_allowed_iff spent (bandwidthCurrent bandwidth isBandwidth) refused
        (Nat.le_add_right _ _)]

/-- The bucket of ten tokens a second, with nothing in it but a burst. -/
def drained (burst : Nat) : TokenBucket :=
  { smallBucket with oneTimeBurst := burst, budget := 0, bounded := Nat.zero_le _ }

def fiveBytes : VirtioBlockRequest := ⟨.write, some 5⟩

/-- Five bytes wait for half a second, and are written then. -/
theorem throttled_block_request_small :
    (mk (some (drained 0)) none).reduceRequestAt fiveBytes 0 =
        (.throttled 500000000, ⟨some (drained 0), none⟩) ∧
      ((mk (some (drained 0)) none).reduceRequestAt fiveBytes 500000000).1 =
        .allowed := by
  have throttled : (mk (some (drained 0)) none).reduceRequestAt fiveBytes 0 =
      (.throttled 500000000, ⟨some (drained 0), none⟩) := by decide +kernel
  have retried := throttled_block_request (by decide) (fun _ => by decide) throttled
  have admitted : (mk (some (drained 0)) none).opsAllowAt 0 := by
    simp [opsAllowAt]
  exact ⟨throttled, (retried.2.1 admitted).2 (by decide)⟩

/-- The empty bucket, last updated at a tenth of a second. -/
def ahead : TokenBucket := { drained 0 with lastUpdate := 100000000 }

/-- A burst of three is lost by a request of five bytes, which is throttled again after the
wait for the other two; a wait for one operation is not one for five bytes; and a bucket which was
updated after `now` does not have its tokens after the wait. -/
theorem throttled_block_request_loses :
    ((mk (some (drained 3)) none).reduceRequestAt fiveBytes 0 =
        (.throttled 200000000, ⟨some (drained 0), none⟩) ∧
      ((mk (some (drained 0)) none).reduceRequestAt fiveBytes 200000000).1 = .throttled 300000000) ∧
    ((mk (some (drained 0)) (some (drained 0))).reduceRequestAt fiveBytes 0 =
        (.throttled 100000000, ⟨some (drained 0), some (drained 0)⟩) ∧
      ((mk (some (drained 0)) (some (drained 0))).reduceRequestAt fiveBytes
        100000000).1 = .throttled 400000000) ∧
    ((mk (some ahead) none).reduceRequestAt fiveBytes 0 =
        (.throttled 500000000, ⟨some ahead, none⟩) ∧
      ((mk (some ahead) none).reduceRequestAt fiveBytes 500000000).1 = .throttled 100000000) ∧
    (mk none (some ahead)).reduceRequestAt fiveBytes 0 =
        (.throttled 100000000, ⟨none, some ahead⟩) ∧
      ((mk none (some ahead)).reduceRequestAt fiveBytes 100000000).1 = .throttled 100000000 := by
  decide +kernel

/-- In a window of time a device admits no more requests than its operations bucket allows,
however often an operation was given back. -/
theorem block_requests_bounded {limiter : VirtioBlockRateLimiter} {ops : TokenBucket}
    {now first last : Nat} {requests : List (VirtioBlockRequest × Nat)}
    (isOps : limiter.ops = some ops) (current : ops.lastUpdate ≤ now)
    (ordered : Ordered now (requests.map fun request => ⟨request.2, 1, false⟩))
    (inside : ∀ request ∈ requests, first ≤ request.2 ∧ request.2 ≤ last) :
    limiter.admitted requests ≤ ops.oneTimeBurst + ops.size +
      divCeil ((last - first) * ops.size) ops.refillTimeNanos := by
  obtain ⟨calls, sublist, counts⟩ := exists_charged isOps requests
  have charged : ∀ call ∈ calls, call.overconsume = false ∧ first ≤ call.now ∧ call.now ≤ last := by
    intro call member
    obtain ⟨request, isRequest, rfl⟩ := List.mem_map.mp (sublist.subset member)
    exact ⟨rfl, inside request isRequest⟩
  rw [counts]
  exact granted_window_le current (ordered.sublist sublist) (fun call member =>
    (charged call member).1) fun call member => (charged call member).2

/-- Twenty requests at one instant find ten operations and a burst of five. -/
theorem block_requests_bounded_small :
    (mk none (some smallBucket)).admitted (List.replicate 20 (fiveBytes, 0)) ≤ 15 :=
  block_requests_bounded rfl (show smallBucket.lastUpdate ≤ 0 from le_rfl) (by simp [Ordered])
    (show ∀ request ∈ List.replicate 20 (fiveBytes, 0), 0 ≤ request.2 ∧ request.2 ≤ 0 by simp)

end Bangbang.RateLimit
