import Bangbang.RateLimit.TokenBucket

/-!
# The token bucket is a token meter

`meterAt` is the meter which a bucket shows at an instant. Every operation of the
bucket is the operation of the meter, so that the rate bound of meters holds for
buckets, and two buckets with one meter, such as a bucket and its restored copy,
cannot be told apart.
-/

namespace Bangbang.RateLimit

open List Meter

namespace TokenBucket

variable (bucket : TokenBucket)

/-- The meter of a bucket at some time. -/
def meterAt (now : Nat) : Meter where
  size := bucket.size
  refill := bucket.refillTimeNanos
  budget := bucket.budget
  burst := bucket.oneTimeBurst
  elapsed := bucket.elapsedAt now
  sizePositive := bucket.sizePositive
  refillPositive := bucket.refillPositive
  bounded := bucket.bounded

/-- A decision of a meter in the bucket's terms. -/
def reduction : Decision → TokenBucketReduction
  | .allowed => .allowed
  | .throttled wait => .throttled (durationFromNanosSaturating wait)

section
variable {bucket} {now later tokens : Nat}

/-- A later reading is the earlier one after some time. -/
theorem meterAt_later (current : bucket.lastUpdate ≤ now) (ordered : now ≤ later) :
    bucket.meterAt later = (bucket.meterAt now).advance (later - now) := by
  ext <;> try rfl
  simp only [meterAt, advance, elapsedAt]
  omega

/-- A partial refill is paid from the unspent time. -/
theorem elapsedAt_consume {adjustedNanos} (current : bucket.lastUpdate ≤ now)
    (available : adjustedNanos ≤ bucket.elapsedAt now) :
    (bucket.consume adjustedNanos).elapsedAt now = bucket.elapsedAt now - adjustedNanos ∧
      (bucket.consume adjustedNanos).lastUpdate ≤ now := by
  simp only [consume, elapsedAt] at available ⊢
  split <;> omega

/-- The budget and the unspent time which a refill leaves. -/
def refilledTo (bucket : TokenBucket) (now : Nat) : TokenBucketRefill → Nat × Nat
  | .unchanged => (bucket.budget, bucket.elapsedAt now)
  | .full => (bucket.size, 0)
  | .partially budget adjustedNanos => (budget, bucket.elapsedAt now - adjustedNanos)

/-- The refill of the bucket is the refill of its meter. -/
theorem refilledTo_refillSpec (bucket : TokenBucket) (now : Nat) :
    bucket.refilledTo now (refillSpec bucket.size bucket.budget bucket.refillTimeNanos
      (bucket.elapsedAt now)) =
    ((bucket.meterAt now).replenish.budget, (bucket.meterAt now).replenish.elapsed) := by
  have bounded := bucket.bounded
  have free : divCeil 0 bucket.size = 0 := by
    have := bucket.sizePositive
    rw [divCeil, Nat.zero_add, Nat.div_eq_of_lt (by omega)]
  unfold refillSpec
  by_cases full : bucket.refillTimeNanos ≤ bucket.elapsedAt now
  · obtain ⟨budget, elapsed⟩ := @Meter.replenish_full (bucket.meterAt now) full
    simp only [if_pos full, budget, elapsed]
    rfl
  · obtain ⟨budget, elapsed⟩ := @Meter.replenish_short (bucket.meterAt now) (Nat.not_le.mp full)
    rw [budget, elapsed, earned]
    simp only [if_neg full, meterAt]
    by_cases nothing : bucket.elapsedAt now * bucket.size / bucket.refillTimeNanos = 0
    · simp only [nothing, if_true, Nat.zero_mul, free, Nat.add_zero, Nat.sub_zero,
        Nat.min_eq_left bounded]
      rfl
    · simp only [if_neg nothing]
      rfl

/-- A partial refill costs no more than the unspent time. -/
theorem adjustedNanos_le {budget adjustedNanos}
    (refill : refillSpec bucket.size bucket.budget bucket.refillTimeNanos (bucket.elapsedAt now) =
      .partially budget adjustedNanos) : adjustedNanos ≤ bucket.elapsedAt now := by
  have cost := cost_le_elapsed (bucket.meterAt now)
  unfold refillSpec at refill
  dsimp only at refill
  split at refill
  · cases refill
  · split at refill
    · cases refill
    · obtain ⟨-, rfl⟩ := TokenBucketRefill.partially.inj refill
      exact cost

/-- A bucket with the budget and the unspent time of a refilled meter shows it. -/
theorem meterAt_eq_replenish {next : TokenBucket} (size : next.size = bucket.size)
    (refill : next.refillTimeNanos = bucket.refillTimeNanos)
    (burst : next.oneTimeBurst = bucket.oneTimeBurst)
    (rest : (next.budget, next.elapsedAt now) =
      ((bucket.meterAt now).replenish.budget, (bucket.meterAt now).replenish.elapsed)) :
    next.meterAt now = (bucket.meterAt now).replenish := by
  obtain ⟨budget, elapsed⟩ := Prod.mk.inj rest
  ext
  · rw [replenish_size]
    exact size
  · rw [replenish_refill]
    exact refill
  · exact budget
  · rw [replenish_burst]
    exact burst
  · exact elapsed

section
variable (current : bucket.lastUpdate ≤ now)
include current

/-- A replenishment of the bucket is one of its meter. -/
theorem replenishAt_eq :
    (bucket.replenishAt now).meterAt now = (bucket.meterAt now).replenish ∧
      (bucket.replenishAt now).lastUpdate ≤ now := by
  have exact : tokenBucketRefill bucket.size bucket.budget bucket.refillTimeNanos
      (bucket.elapsedAt now) = refillSpec bucket.size bucket.budget bucket.refillTimeNanos
      (bucket.elapsedAt now) :=
    tokenBucketRefill_eq bucket.sizePositive bucket.sizeFits bucket.refillPositive bucket.refillFits
  have refilled := refilledTo_refillSpec bucket now
  unfold replenishAt
  rw [if_neg (Nat.not_lt.mpr current)]
  split
  case h_1 refill =>
    rw [← exact, refill] at refilled
    exact ⟨meterAt_eq_replenish rfl rfl rfl refilled, current⟩
  case h_2 refill =>
    rw [← exact, refill] at refilled
    refine ⟨meterAt_eq_replenish rfl rfl rfl ?_, Nat.le_refl _⟩
    rw [← refilled]
    simp [elapsedAt, refilledTo]
  case h_3 budget adjustedNanos refill =>
    obtain ⟨paid, still⟩ := elapsedAt_consume current (adjustedNanos_le (exact.symm.trans refill))
    rw [← exact, refill] at refilled
    refine ⟨meterAt_eq_replenish rfl rfl rfl ?_, still⟩
    rw [← refilled]
    exact congrArg (Prod.mk budget) paid

omit current in
/-- The retry time is the wait of the meter. -/
theorem retryAfterForTokens_eq :
    bucket.retryAfterForTokens tokens now =
      durationFromNanosSaturating ((bucket.meterAt now).wait tokens) := by
  have positive := bucket.sizePositive
  have narrow : (min tokens bucket.size - bucket.budget) * bucket.refillTimeNanos ≤ 2 ^ 128 - 1 := by
    have sizeFits := bucket.sizeFits
    have refillFits := bucket.refillFits
    rw [wordLimit_eq] at sizeFits refillFits
    have product : (min tokens bucket.size - bucket.budget) * bucket.refillTimeNanos ≤
        (2 ^ 64 - 1) * (2 ^ 64 - 1) := Nat.mul_le_mul (by omega) (by omega)
    exact Nat.le_trans product (by decide)
  unfold retryAfterForTokens wait
  simp only [meterAt, Nat.min_eq_left narrow]
  split
  case isTrue enough =>
    rw [enough, Nat.zero_mul, divCeil, Nat.zero_add, Nat.div_eq_of_lt (by omega), Nat.zero_sub]
    rfl
  case isFalse => rfl

/-- A step of the bucket and of its meter. -/
structure Follows (now : Nat) (concrete : TokenBucketReduction × TokenBucket)
    (abstract : Decision × Meter) : Prop where
  answer : concrete.1 = reduction abstract.1
  meter : concrete.2.meterAt now = abstract.2
  current : concrete.2.lastUpdate ≤ now

/-- Taking from the budget follows the meter. -/
theorem takeBudget_follows :
    Follows now (bucket.takeBudget tokens now) ((bucket.meterAt now).take tokens) := by
  unfold takeBudget Meter.take
  simp only [show (bucket.meterAt now).size = bucket.size from rfl,
    show (bucket.meterAt now).budget = bucket.budget from rfl]
  split
  · exact ⟨congrArg TokenBucketReduction.throttled retryAfterForTokens_eq, rfl, current⟩
  · split
    · exact ⟨congrArg TokenBucketReduction.throttled retryAfterForTokens_eq, rfl, current⟩
    · exact ⟨rfl, rfl, current⟩

omit current in
theorem takeOneTimeBurst_follows :
    Follows now (.allowed, bucket.takeOneTimeBurst tokens now)
      (.allowed, (bucket.meterAt now).takeBurst tokens) := by
  refine ⟨rfl, ?_, Nat.le_refl _⟩
  ext <;> try rfl
  simp [meterAt, takeBurst, elapsedAt, takeOneTimeBurst]

/-- The refill which gives up the burst. -/
theorem refilled_follows :
    ({ bucket with oneTimeBurst := 0 }.replenishAt now).meterAt now =
        (bucket.meterAt now).refilled ∧
      ({ bucket with oneTimeBurst := 0 }.replenishAt now).lastUpdate ≤ now :=
  @replenishAt_eq { bucket with oneTimeBurst := 0 } now current

omit current in
/-- A reduction follows the meter. -/
theorem reduceWithRetryAt_follows (tokens) (current : bucket.lastUpdate ≤ now) :
    Follows now (bucket.reduceWithRetryAt tokens now) ((bucket.meterAt now).reduce tokens) := by
  unfold reduceWithRetryAt reduce
  simp only [show (bucket.meterAt now).burst = bucket.oneTimeBurst from rfl]
  split
  · exact ⟨rfl, rfl, current⟩
  · split
    · exact takeOneTimeBurst_follows
    · obtain ⟨refilled, still⟩ := refilled_follows current
      rw [← refilled]
      exact takeBudget_follows still

theorem drainBudget_follows : Follows now (bucket.drainBudget now) (bucket.meterAt now).drain := by
  unfold drainBudget drain
  simp only [show (bucket.meterAt now).size = bucket.size from rfl,
    show (bucket.meterAt now).budget = bucket.budget from rfl]
  split
  · exact ⟨congrArg TokenBucketReduction.throttled retryAfterForTokens_eq, rfl, current⟩
  · exact ⟨rfl, rfl, current⟩

end

/-- A reduction which may overconsume follows the meter. -/
theorem reduceAllowOverconsumptionWithRetryAt_follows (tokens) (current : bucket.lastUpdate ≤ now) :
    Follows now (bucket.reduceAllowOverconsumptionWithRetryAt tokens now)
      ((bucket.meterAt now).reduceOverconsuming tokens) := by
  unfold reduceAllowOverconsumptionWithRetryAt reduceOverconsuming
  simp only [show (bucket.meterAt now).size = bucket.size from rfl,
    show (bucket.meterAt now).burst = bucket.oneTimeBurst from rfl]
  split
  · exact reduceWithRetryAt_follows tokens current
  · split
    · exact takeOneTimeBurst_follows
    · obtain ⟨refilled, still⟩ := refilled_follows current
      rw [← refilled]
      split
      · exact reduceWithRetryAt_follows _ still
      · exact drainBudget_follows still

theorem reduction_eq_allowed {decision} : reduction decision = .allowed ↔ decision = .allowed := by
  cases decision <;> simp [reduction]

/-- The same request made next is allowed once the retry hint has passed, and not before. -/
theorem retry_allowed_iff {retryAfter next} (spent : bucket.oneTimeBurst = 0)
    (current : bucket.lastUpdate ≤ now)
    (throttled : bucket.reduceAllowOverconsumptionWithRetryAt tokens now =
      (.throttled retryAfter, next)) (ordered : now ≤ later) :
    (next.reduceAllowOverconsumptionWithRetryAt tokens later).1 = .allowed ↔
      now + retryAfter ≤ later := by
  have follows := reduceAllowOverconsumptionWithRetryAt_follows tokens current
  rw [throttled] at follows
  obtain ⟨answer, meter, still⟩ := follows
  rcases decided : (bucket.meterAt now).reduceOverconsuming tokens with ⟨decision, after⟩
  rw [decided] at answer meter
  cases decision with
  | allowed => cases answer
  | throttled wait =>
    obtain ⟨-, isWait⟩ := (Meter.reduceOverconsuming_eq spent).2 wait after decided
    -- A wait is at most the refill time, so that it is not cut off.
    have short : wait < wordLimit := by
      have bounded := @Meter.wait_le_refill (bucket.meterAt now).replenish
        ((bucket.meterAt now).needed tokens)
      rw [Meter.replenish_refill, ← isWait] at bounded
      exact Nat.lt_of_le_of_lt bounded bucket.refillFits
    obtain rfl : retryAfter = wait := by
      have same := TokenBucketReduction.throttled.inj answer
      rw [durationFromNanosSaturating] at same
      omega
    have retried := reduceAllowOverconsumptionWithRetryAt_follows tokens
      (Nat.le_trans still ordered)
    rw [retried.answer, reduction_eq_allowed, meterAt_later still ordered, meter,
      Meter.retry_exact spent decided]
    omega

end
end TokenBucket

open TokenBucket

/-- A reduction at an instant. -/
structure TokenCall where
  (now tokens : Nat)
  overconsume : Bool
deriving DecidableEq, Repr

/-- The instants of the calls do not go back, from some instant on. -/
def Ordered : Nat → List TokenCall → Prop
  | _, [] => True
  | now, call :: calls => now ≤ call.now ∧ Ordered call.now calls

/-- The calls with the time between them. -/
def delays : Nat → List TokenCall → List Meter.Call
  | _, [] => []
  | now, call :: calls =>
    ⟨call.now - now, call.tokens, call.overconsume⟩ :: delays call.now calls

/-- The calls at their offsets after an instant. -/
def shift (base : Nat) (calls : List TokenCall) : List TokenCall :=
  calls.map fun call => { call with now := base + call.now }

theorem ordered_shift {now calls} (base) (ordered : Ordered now calls) :
    Ordered (base + now) (shift base calls) := by
  induction calls generalizing now with
  | nil => trivial
  | cons call calls ih => exact ⟨Nat.add_le_add_left ordered.1 base, ih ordered.2⟩

/-- Fewer calls are in order as well. -/
theorem Ordered.sublist {now calls fewer} (ordered : Ordered now calls)
    (sublist : fewer.Sublist calls) : Ordered now fewer := by
  induction sublist generalizing now with
  | slnil => exact ordered
  | cons_cons _ _ ih => exact ⟨ordered.1, ih ordered.2⟩
  | @cons fewer _ _ _ ih =>
    have later := ih ordered.2
    cases fewer with
    | nil => trivial
    | cons => exact ⟨ordered.1.trans later.1, later.2⟩

theorem delays_shift (base now calls) :
    delays (base + now) (shift base calls) = delays now calls := by
  induction calls generalizing now with
  | nil => rfl
  | cons call calls ih =>
    rw [shift, map_cons, ← shift, delays, delays, ih, Nat.add_sub_add_left]

namespace TokenBucket

/-- One call on a bucket. -/
def answer (bucket : TokenBucket) (call : TokenCall) : TokenBucketReduction × TokenBucket :=
  if call.overconsume then bucket.reduceAllowOverconsumptionWithRetryAt call.tokens call.now
  else bucket.reduceWithRetryAt call.tokens call.now

/-- The answers to calls in order. -/
def answers : TokenBucket → List TokenCall → List TokenBucketReduction
  | _, [] => []
  | bucket, call :: calls => (bucket.answer call).1 :: answers (bucket.answer call).2 calls

/-- The bucket after some calls. -/
def after : TokenBucket → List TokenCall → TokenBucket
  | bucket, [] => bucket
  | bucket, call :: calls => after (bucket.answer call).2 calls

/-- The tokens of the calls which are answered `allowed`. -/
def granted : TokenBucket → List TokenCall → Nat
  | _, [] => 0
  | bucket, call :: calls =>
    (if (bucket.answer call).1 = .allowed then call.tokens else 0) +
      granted (bucket.answer call).2 calls

variable {bucket : TokenBucket} {now : Nat} {calls : List TokenCall}

section
variable (current : bucket.lastUpdate ≤ now)
include current

/-- Every call follows the meter. -/
theorem answer_follows {call} (ordered : now ≤ call.now) :
    Follows call.now (bucket.answer call) ((bucket.meterAt now).answer
      ⟨call.now - now, call.tokens, call.overconsume⟩) := by
  have still := Nat.le_trans current ordered
  unfold answer Meter.answer
  rw [← meterAt_later current ordered]
  split
  · exact reduceAllowOverconsumptionWithRetryAt_follows _ still
  · exact reduceWithRetryAt_follows _ still

variable (ordered : Ordered now calls)
include ordered

/-- The answers of a run are the decisions of the meter. -/
theorem answers_eq :
    bucket.answers calls = ((bucket.meterAt now).decisions (delays now calls)).map reduction := by
  induction calls generalizing bucket now with
  | nil => rfl
  | cons call calls ih =>
    have follows := answer_follows current ordered.1
    rw [answers, delays, decisions, map_cons, follows.answer,
      ih follows.current ordered.2, follows.meter]

/-- A run is granted what the meter grants. -/
theorem granted_eq : bucket.granted calls = (bucket.meterAt now).granted (delays now calls) := by
  induction calls generalizing bucket now with
  | nil => rfl
  | cons call calls ih =>
    have follows := answer_follows current ordered.1
    rw [granted, delays, Meter.granted, follows.answer, ih follows.current ordered.2, follows.meter]
    simp only [reduction_eq_allowed]

/-- The instant of the last call. -/
def lastNow : Nat → List TokenCall → Nat
  | now, [] => now
  | _, call :: calls => lastNow call.now calls

/-- The clock of the bucket is not ahead of the calls. -/
theorem after_current : (bucket.after calls).lastUpdate ≤ lastNow now calls := by
  induction calls generalizing bucket now with
  | nil => exact current
  | cons call calls ih => exact ih (answer_follows current ordered.1).current ordered.2

/-- Plain reductions keep the size and the refill time. -/
theorem after_shape (plain : ∀ call ∈ calls, call.overconsume = false) :
    (bucket.after calls).size = bucket.size ∧
      (bucket.after calls).refillTimeNanos = bucket.refillTimeNanos := by
  induction calls generalizing bucket now with
  | nil => exact ⟨rfl, rfl⟩
  | cons call calls ih =>
    have follows := answer_follows current ordered.1
    obtain ⟨size, refill⟩ := ih follows.current ordered.2 fun later member =>
      plain later (mem_cons_of_mem _ member)
    have meter := follows.meter
    rw [answer_plain (plain call mem_cons_self)] at meter
    obtain ⟨sameSize, sameRefill⟩ := reduce_shape
      ((bucket.meterAt now).advance (call.now - now)) call.tokens
    rw [← meter] at sameSize sameRefill
    exact ⟨size.trans sameSize, refill.trans sameRefill⟩

end

theorem ordered_append {before rest} (ordered : Ordered now (before ++ rest)) :
    Ordered now before ∧ Ordered (lastNow now before) rest := by
  induction before generalizing now with
  | nil => exact ⟨trivial, ordered⟩
  | cons call before ih =>
    obtain ⟨first, last⟩ := ih ordered.2
    exact ⟨⟨ordered.1, first⟩, last⟩

/-- A new bucket is full. -/
theorem newAt_eq_some {config created} (made : newAt config created = some bucket) :
    bucket.size = config.size ∧
      bucket.refillTimeNanos = config.refillTime * nanosPerMillisecond ∧
      bucket.budget = config.size ∧ bucket.oneTimeBurst = config.oneTimeBurst.getD 0 ∧
      bucket.lastUpdate = created ∧ bucket.elapsedRefillCreditNanos = 0 := by
  unfold newAt at made
  split at made
  · obtain rfl := Option.some.inj made
    exact ⟨rfl, rfl, rfl, rfl, rfl, rfl⟩
  · cases made

/-- A state which fits its configuration is restored with its age as credit. -/
theorem fromPersistedStateAt_eq_ok (state now) (enabled : state.config.isEnabled = true)
    (budget : state.budget ≤ state.config.size)
    (burst : state.oneTimeBurst ≤ state.config.oneTimeBurst.getD 0) :
    ∃ restored, fromPersistedStateAt state now = .ok restored ∧
      restored.size = state.config.size ∧
      restored.refillTimeNanos = state.config.refillTime * nanosPerMillisecond ∧
      restored.budget = state.budget ∧ restored.oneTimeBurst = state.oneTimeBurst ∧
      restored.lastUpdate = now ∧ restored.elapsedRefillCreditNanos = state.ageNanos := by
  obtain ⟨fresh, made⟩ : ∃ fresh, newAt state.config now = some fresh := ⟨_, dif_pos enabled⟩
  obtain ⟨size, refill, -⟩ := newAt_eq_some made
  have attached : attach (okOr (newAt state.config now)
      PersistedTokenBucketStateError.disabledConfiguration) =
      .ok ⟨fresh, okOr_eq_ok.mpr made⟩ := attach_eq_ok
  have burstFits : rejectIf (state.config.oneTimeBurst.getD 0 < state.oneTimeBurst)
      PersistedTokenBucketStateError.burstOutOfBounds = .ok () :=
    rejectIf_eq_ok.mpr (Nat.not_lt.mpr burst)
  rw [fromPersistedStateAt, attached, ok_bind, dif_pos budget, burstFits, ok_bind]
  exact ⟨_, rfl, size, refill, rfl, rfl, rfl, rfl⟩

theorem plain_delays (plain : ∀ call ∈ calls, call.overconsume = false) :
    ∀ call ∈ delays now calls, call.overconsume = false := by
  induction calls generalizing now with
  | nil =>
    intro call member
    cases member
  | cons first calls ih =>
    intro call member
    rcases mem_cons.mp member with rfl | inRest
    · exact plain first mem_cons_self
    · exact ih (fun later isLater => plain later (mem_cons_of_mem _ isLater)) call inRest

/-- A run spans no more than its clock readings. -/
theorem span_delays_le {last} (ordered : Ordered now calls)
    (inside : ∀ call ∈ calls, call.now ≤ last) : Meter.span (delays now calls) ≤ last - now := by
  induction calls generalizing now with
  | nil => exact Nat.zero_le _
  | cons call calls ih =>
    have tail := ih ordered.2 fun later member => inside later (List.mem_cons_of_mem _ member)
    have := inside call List.mem_cons_self
    have := ordered.1
    rw [delays, Meter.span, List.map_cons, List.sum_cons, ← Meter.span]
    dsimp only
    omega

/-- In a window of time a bucket grants at most its burst, its size, and what the
window earns. -/
theorem granted_window_le (current : bucket.lastUpdate ≤ now) (ordered : Ordered now calls)
    (plain : ∀ call ∈ calls, call.overconsume = false) {first last}
    (inside : ∀ call ∈ calls, first ≤ call.now ∧ call.now ≤ last) :
    bucket.granted calls ≤ bucket.oneTimeBurst + bucket.size +
      divCeil ((last - first) * bucket.size) bucket.refillTimeNanos := by
  have bound := @Meter.granted_window (bucket.meterAt now) (delays now calls) (plain_delays plain)
  have window : span (delays now calls).tail ≤ last - first := by
    cases calls with
    | nil => exact Nat.zero_le _
    | cons call calls =>
      have tail : span (delays call.now calls) ≤ last - call.now :=
        span_delays_le ordered.2 fun later member => (inside later (mem_cons_of_mem _ member)).2
      have := (inside call mem_cons_self).1
      change span (delays call.now calls) ≤ last - first
      omega
  have earned := le_divCeil_mul ((last - first) * bucket.size) bucket.refillPositive
  have scaled := Nat.mul_le_mul_right bucket.size window
  rw [granted_eq current ordered]
  refine Nat.le_of_lt_succ (Nat.lt_of_mul_lt_mul_right (a := bucket.refillTimeNanos) ?_)
  simp only [meterAt, Nat.succ_eq_add_one, Nat.add_mul] at bound ⊢
  omega

end TokenBucket

/-- In any window of a run, a bucket grants at most the burst remaining at its start,
the size, and the tokens of the window rounded up; from its creation on, it grants at
most the burst, the size, and the tokens of the time rounded down. -/
theorem tokenBucket_rateBound {config : TokenBucketConfig} {created : Nat} {bucket : TokenBucket}
    {calls : List TokenCall} (made : TokenBucket.newAt config created = some bucket)
    (ordered : Ordered created calls) (plain : ∀ call ∈ calls, call.overconsume = false) :
    (∀ before inside later first last, calls = before ++ inside ++ later →
      (∀ call ∈ inside, first ≤ call.now ∧ call.now ≤ last) →
      (bucket.after before).granted inside ≤ (bucket.after before).oneTimeBurst + config.size +
        divCeil ((last - first) * config.size) (config.refillTime * nanosPerMillisecond)) ∧
    ∀ last, (∀ call ∈ calls, call.now ≤ last) →
      bucket.granted calls ≤ config.oneTimeBurst.getD 0 + config.size +
        (last - created) * config.size / (config.refillTime * nanosPerMillisecond) := by
  obtain ⟨size, refill, budget, burst, lastUpdate, credit⟩ := newAt_eq_some made
  have current : bucket.lastUpdate ≤ created := Nat.le_of_eq lastUpdate
  constructor
  · intro before inside later first last split within
    subst split
    obtain ⟨orderedBefore, orderedRest⟩ := ordered_append
      (append_assoc before inside later ▸ ordered)
    have orderedInside := (ordered_append orderedRest).1
    have plainBefore : ∀ call ∈ before, call.overconsume = false := fun call member =>
      plain call (mem_append_left _ (mem_append_left _ member))
    have plainInside : ∀ call ∈ inside, call.overconsume = false := fun call member =>
      plain call (mem_append_left _ (mem_append_right _ member))
    obtain ⟨sizeAfter, refillAfter⟩ := after_shape current orderedBefore plainBefore
    have bound := granted_window_le (after_current current orderedBefore)
      orderedInside plainInside within
    rwa [sizeAfter, refillAfter, size, refill] at bound
  · intro last within
    have bound := @Meter.granted_charge (bucket.meterAt created) (delays created calls)
      (plain_delays plain)
    rw [← granted_eq current ordered] at bound
    have charge : (bucket.meterAt created).charge = config.size * bucket.refillTimeNanos := by
      simp only [charge, meterAt, elapsedAt, budget, lastUpdate, credit,
        Nat.sub_self, Nat.zero_mul, Nat.add_zero]
    have window := Nat.mul_le_mul_right bucket.size (span_delays_le ordered within)
    rw [charge] at bound
    simp only [meterAt] at bound
    rw [← burst, ← size, ← refill]
    rw [← size] at bound
    have positive := bucket.refillPositive
    have total : bucket.granted calls * bucket.refillTimeNanos ≤
        (last - created) * bucket.size +
          (bucket.oneTimeBurst + bucket.size) * bucket.refillTimeNanos := by
      rw [Nat.add_mul]
      omega
    have quotient := (Nat.le_div_iff_mul_le positive).mpr total
    rw [Nat.add_mul_div_right _ _ positive] at quotient
    omega

/-- Ten tokens a second, and a burst of five. -/
def smallConfig : TokenBucketConfig := ⟨10, some 5, 1000, by decide⟩

def smallBucket : TokenBucket :=
  { size := 10
    refillTimeNanos := 1000000000
    budget := 10
    oneTimeBurst := 5
    lastUpdate := 0
    elapsedRefillCreditNanos := 0
    sizePositive := by decide
    sizeFits := by decide
    refillPositive := by decide
    refillFits := by decide
    bounded := by decide }

/-- Fifteen tokens at once and two more after a fifth of a second. -/
def smallCalls : List TokenCall := [⟨0, 15, false⟩, ⟨250000000, 2, false⟩, ⟨250000000, 1, false⟩]

theorem tokenBucket_rateBound_small :
    TokenBucket.newAt smallConfig 0 = some smallBucket ∧ smallBucket.granted smallCalls = 17 ∧
      smallBucket.granted smallCalls ≤ 5 + 10 + 250000000 * 10 / 1000000000 := by
  have made : newAt smallConfig 0 = some smallBucket := by decide +kernel
  have ordered : Ordered 0 smallCalls := by simp [Ordered, smallCalls]
  refine ⟨made, by decide +kernel, ?_⟩
  exact (tokenBucket_rateBound made ordered (by decide)).2 250000000 (by decide)

/-- The retry hint of a bucket without a burst is exact, for requests within the size and
for those which may take more. -/
theorem tokenBucket_retryHint {bucket : TokenBucket} {now : Nat} (spent : bucket.oneTimeBurst = 0)
    (current : bucket.lastUpdate ≤ now) :
    (∀ tokens retryAfter next, tokens ≤ bucket.size →
      bucket.reduceWithRetryAt tokens now = (.throttled retryAfter, next) →
      (next.reduceWithRetryAt tokens (now + retryAfter)).1 = .allowed ∧
      ∀ later, now ≤ later → later < now + retryAfter →
        ∃ retry, (next.reduceWithRetryAt tokens later).1 = .throttled retry) ∧
    ∀ tokens retryAfter next,
      bucket.reduceAllowOverconsumptionWithRetryAt tokens now = (.throttled retryAfter, next) →
      (next.reduceAllowOverconsumptionWithRetryAt tokens (now + retryAfter)).1 = .allowed ∧
      ∀ later, now ≤ later → later < now + retryAfter →
        ∃ retry, (next.reduceAllowOverconsumptionWithRetryAt tokens later).1 = .throttled retry := by
  -- The first part is a case of the second one.
  refine (fun exact => ⟨fun tokens retryAfter next within throttled => ?within, exact⟩) ?exact
  case exact =>
    intro tokens retryAfter next throttled
    have decides : ∀ later, now ≤ later →
        ((next.reduceAllowOverconsumptionWithRetryAt tokens later).1 = .allowed ↔
          now + retryAfter ≤ later) := fun _ =>
      TokenBucket.retry_allowed_iff spent current throttled
    refine ⟨(decides _ (Nat.le_add_right _ _)).mpr (Nat.le_refl _), fun later ordered early => ?_⟩
    rcases retried : (next.reduceAllowOverconsumptionWithRetryAt tokens later).1 with _ | retry
    · exact absurd ((decides later ordered).mp retried) (Nat.not_le.mpr early)
    · exact ⟨retry, rfl⟩
  have same : next.size = bucket.size := by
    have follows := TokenBucket.reduceWithRetryAt_follows tokens current
    rw [throttled] at follows
    exact (congrArg Meter.size follows.meter).trans (Meter.reduce_shape _ _).1
  have plain : ∀ later, next.reduceAllowOverconsumptionWithRetryAt tokens later =
      next.reduceWithRetryAt tokens later := fun _ => if_pos (.inr (same ▸ within))
  have answered := exact tokens retryAfter next ((if_pos (.inr within)).trans throttled)
  simp only [plain] at answered
  exact answered

/-- An empty bucket of ten tokens a second is throttled for three tenths of it. -/
theorem tokenBucket_retryHint_small :
    let empty : TokenBucket := { smallBucket with oneTimeBurst := 0, budget := 0, bounded := by decide }
    empty.reduceWithRetryAt 3 0 = (.throttled 300000000, empty) ∧
      (empty.reduceWithRetryAt 3 300000000).1 = .allowed := by
  intro empty
  have throttled : empty.reduceWithRetryAt 3 0 = (.throttled 300000000, empty) := by decide +kernel
  have hint := (@tokenBucket_retryHint empty 0 rfl (Nat.le_refl 0)).1 3 300000000 empty (by decide)
    throttled
  exact ⟨throttled, hint.1⟩

/-- A restored bucket answers every sequence of reductions as the original does. -/
theorem tokenBucket_persistence {bucket : TokenBucket} {config : TokenBucketConfig}
    {captured : Nat} {state : PersistedTokenBucketState}
    (persisted : bucket.persistedStateAt config captured = .ok state) (restoredAt : Nat) :
    ∃ restored, TokenBucket.fromPersistedStateAt state restoredAt = .ok restored ∧
      ∀ calls, Ordered 0 calls →
        restored.answers (shift restoredAt calls) = bucket.answers (shift captured calls) := by
  simp only [persistedStateAt, bind_eq_ok, okOr_eq_ok, checkedMul_eq_some,
    rejectIf_eq_ok, pure_eq_ok, not_or, ne_eq, not_not] at persisted
  obtain ⟨_, ⟨-, rfl⟩, _, enabled, _, ⟨size, refill⟩, _, budget, _, burst, _, current, _, -, rfl⟩ :=
    persisted
  obtain ⟨restored, isRestored, sizeR, refillR, budgetR, burstR, lastUpdateR, creditR⟩ :=
    fromPersistedStateAt_eq_ok ⟨config, bucket.budget, bucket.oneTimeBurst,
      bucket.elapsedAt captured⟩ restoredAt (by simpa using enabled) (size ▸ bucket.bounded)
      (Nat.not_lt.mp burst)
  refine ⟨restored, isRestored, ?_⟩
  intro calls ordered
  have same : restored.meterAt restoredAt = bucket.meterAt captured := by
    ext
    · exact sizeR.trans size.symm
    · exact refillR.trans refill.symm
    · exact budgetR
    · exact burstR
    · simp only [meterAt, elapsedAt, lastUpdateR, creditR, Nat.sub_self, Nat.zero_add]
  have orderedRestored : Ordered restoredAt (shift restoredAt calls) :=
    ordered_shift restoredAt ordered
  have orderedOriginal : Ordered captured (shift captured calls) := ordered_shift captured ordered
  have delaysRestored : delays restoredAt (shift restoredAt calls) = delays 0 calls :=
    delays_shift restoredAt 0 calls
  have delaysOriginal : delays captured (shift captured calls) = delays 0 calls :=
    delays_shift captured 0 calls
  rw [answers_eq (Nat.le_of_eq lastUpdateR) orderedRestored,
    answers_eq (Nat.not_lt.mp current) orderedOriginal, same, delaysRestored, delaysOriginal]

theorem tokenBucket_persistence_small :
    smallBucket.persistedStateAt smallConfig 100000000 = .ok ⟨smallConfig, 10, 5, 100000000⟩ ∧
      ∃ restored, TokenBucket.fromPersistedStateAt ⟨smallConfig, 10, 5, 100000000⟩ 7 = .ok restored ∧
        restored.answers (shift 7 smallCalls) = smallBucket.answers (shift 100000000 smallCalls) := by
  have persisted : smallBucket.persistedStateAt smallConfig 100000000 =
      .ok ⟨smallConfig, 10, 5, 100000000⟩ := by decide +kernel
  obtain ⟨restored, isRestored, same⟩ := tokenBucket_persistence persisted 7
  exact ⟨persisted, restored, isRestored, same smallCalls (by simp [Ordered, smallCalls])⟩

end Bangbang.RateLimit
