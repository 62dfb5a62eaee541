import Bangbang.Base.Fallible
import Bangbang.Base.TokenMeter

/-!
# The token bucket

A bucket keeps its unspent time in two places: what has passed since `lastUpdate`,
and a credit which a restored bucket brings along. Refills use 64-bit arithmetic
where it suffices, a small table-sized case first, and wide arithmetic otherwise.
Instants and durations are counted in nanoseconds.

`meterAt` forgets where the unspent time is kept and how a refill is computed. Every
operation of the bucket is the operation of its meter (`reduceWithRetryAt_eq`,
`reduceAllowOverconsumptionWithRetryAt_eq`).
-/

namespace Bangbang.RateLimit

def nanosPerMillisecond : Nat := 1000000

structure TokenBucketConfig where
  size : Nat
  oneTimeBurst : Option Nat
  refillTime : Nat
  sizeFits : size < wordLimit
deriving DecidableEq, Repr

def TokenBucketConfig.isEnabled (config : TokenBucketConfig) : Bool :=
  if config.size = 0 then false
  else (checkedMul config.refillTime nanosPerMillisecond).any fun refillTimeNanos =>
    refillTimeNanos ≠ 0

/-- A bucket of a configuration which is enabled. -/
@[ext] structure TokenBucket where
  size : Nat
  refillTimeNanos : Nat
  budget : Nat
  oneTimeBurst : Nat
  lastUpdate : Nat
  elapsedRefillCreditNanos : Nat
  sizePositive : 0 < size
  sizeFits : size < wordLimit
  refillPositive : 0 < refillTimeNanos
  refillFits : refillTimeNanos < wordLimit
  bounded : budget ≤ size
deriving Repr

instance : DecidableEq TokenBucket := fun _ _ => decidable_of_iff _ TokenBucket.ext_iff.symm

inductive TokenBucketReduction where
  | allowed
  | throttled (retryAfter : Nat)
deriving DecidableEq, Repr

section

inductive TokenBucketRefill where
  | unchanged
  | full
  | partially (budget adjustedNanos : Nat)
deriving DecidableEq, Repr

inductive BoundedMillisRefill where
  | unchanged
  | full
  | partially (budget tokens : Nat)
deriving DecidableEq, Repr

def verifiedTokenBucketBound : Nat := 15

def verifiedRefillMillisBound : Nat := 15

def tokenBucketRefillBoundedMillis (size budget refillTimeMillis elapsedMillis : Nat) :
    BoundedMillisRefill :=
  if elapsedMillis = refillTimeMillis then .full
  else
    let tokens := elapsedMillis * size / refillTimeMillis
    if tokens = 0 then .unchanged else .partially (min (budget + tokens) size) tokens

section
variable (size budget refillTimeNanos elapsedNanos : Nat)

/-- The refill of a small bucket by whole milliseconds. -/
def tokenBucketRefillMillis : Option TokenBucketRefill :=
  match tokenBucketRefillBoundedMillis size budget (refillTimeNanos / nanosPerMillisecond)
      (elapsedNanos / nanosPerMillisecond) with
  | .unchanged => some .unchanged
  | .full => some .full
  | .partially budget tokens => do
    let cost ← checkedMul tokens refillTimeNanos
    return .partially budget (divCeil cost size)

/-- The refill in 64-bit arithmetic, or `none` where a product does not fit. -/
def tokenBucketRefillNative : Option TokenBucketRefill :=
  if size = 0 ∨ refillTimeNanos = 0 then some .unchanged
  else if (size < verifiedTokenBucketBound ∧ budget ≤ size ∧
      refillTimeNanos % nanosPerMillisecond = 0 ∧ elapsedNanos % nanosPerMillisecond = 0) ∧
      1 ≤ refillTimeNanos / nanosPerMillisecond ∧
      refillTimeNanos / nanosPerMillisecond < verifiedRefillMillisBound ∧
      elapsedNanos / nanosPerMillisecond ≤ refillTimeNanos / nanosPerMillisecond then
    tokenBucketRefillMillis size budget refillTimeNanos elapsedNanos
  else if refillTimeNanos ≤ elapsedNanos then some .full
  else do
    let product ← checkedMul elapsedNanos size
    let tokens := product / refillTimeNanos
    if tokens = 0 then return .unchanged
    else
      let cost ← checkedMul tokens refillTimeNanos
      return .partially (min (min (budget + tokens) (wordLimit - 1)) size) (divCeil cost size)

/-- The refill in 128-bit arithmetic. -/
def tokenBucketRefillWide : TokenBucketRefill :=
  let tokens := elapsedNanos * size / refillTimeNanos
  if tokens = 0 then .unchanged
  else
    let newBudget := min (min (budget + tokens) (2 ^ 128 - 1)) size
    let adjustedNanos := divCeil (min (tokens * refillTimeNanos) (2 ^ 128 - 1)) size
    .partially (if newBudget < wordLimit then newBudget else size)
      (if adjustedNanos < wordLimit then adjustedNanos else refillTimeNanos)

def tokenBucketRefill : TokenBucketRefill :=
  if size = 0 ∨ refillTimeNanos = 0 then .unchanged
  else if ¬ elapsedNanos < wordLimit then .full
  else
    match tokenBucketRefillNative size budget refillTimeNanos elapsedNanos with
    | some refill => refill
    | none => tokenBucketRefillWide size budget refillTimeNanos elapsedNanos

/-- What every refill computes, in exact arithmetic. -/
def refillSpec : TokenBucketRefill :=
  let tokens := elapsedNanos * size / refillTimeNanos
  if refillTimeNanos ≤ elapsedNanos then .full
  else if tokens = 0 then .unchanged
  else .partially (min (budget + tokens) size) (divCeil (tokens * refillTimeNanos) size)

end

variable {size budget refillTimeNanos elapsedNanos : Nat}

/-- Whole milliseconds are worth as many tokens as their nanoseconds. -/
theorem millis_tokens (size : Nat) (refillWhole : refillTimeNanos % nanosPerMillisecond = 0)
    (elapsedWhole : elapsedNanos % nanosPerMillisecond = 0) :
    elapsedNanos / nanosPerMillisecond * size / (refillTimeNanos / nanosPerMillisecond) =
      elapsedNanos * size / refillTimeNanos := by
  obtain ⟨refill, rfl⟩ := Nat.dvd_of_mod_eq_zero refillWhole
  obtain ⟨elapsed, rfl⟩ := Nat.dvd_of_mod_eq_zero elapsedWhole
  have positive : 0 < nanosPerMillisecond := by decide
  rw [Nat.mul_div_cancel_left _ positive, Nat.mul_div_cancel_left _ positive, Nat.mul_assoc,
    Nat.mul_div_mul_left _ _ positive]

/-- The millisecond path computes the refill. -/
theorem tokenBucketRefillMillis_eq (refillWhole : refillTimeNanos % nanosPerMillisecond = 0)
    (elapsedWhole : elapsedNanos % nanosPerMillisecond = 0)
    (within : elapsedNanos / nanosPerMillisecond ≤ refillTimeNanos / nanosPerMillisecond) :
    match tokenBucketRefillMillis size budget refillTimeNanos elapsedNanos with
    | some refill => refill = refillSpec size budget refillTimeNanos elapsedNanos
    | none => elapsedNanos < refillTimeNanos := by
  have refillSplit := Nat.div_add_mod refillTimeNanos nanosPerMillisecond
  have elapsedSplit := Nat.div_add_mod elapsedNanos nanosPerMillisecond
  have tokens := millis_tokens size refillWhole elapsedWhole
  unfold tokenBucketRefillMillis tokenBucketRefillBoundedMillis refillSpec
  by_cases whole : elapsedNanos / nanosPerMillisecond = refillTimeNanos / nanosPerMillisecond
  · have full : refillTimeNanos ≤ elapsedNanos := by
      rw [whole] at elapsedSplit
      omega
    simp only [if_pos whole, if_pos full]
  · have short : elapsedNanos < refillTimeNanos :=
      Nat.lt_of_div_lt_div (Nat.lt_of_le_of_ne within whole)
    simp only [if_neg whole, if_neg (Nat.not_le.mpr short), tokens]
    by_cases none : elapsedNanos * size / refillTimeNanos = 0
    · simp only [if_pos none]
    · simp only [if_neg none]
      cases cost : checkedMul (elapsedNanos * size / refillTimeNanos) refillTimeNanos with
      | none => exact short
      | some product =>
        obtain ⟨-, rfl⟩ := checkedMul_eq_some.mp cost
        rfl

/-- The native path computes the refill, unless it overflows. -/
theorem tokenBucketRefillNative_eq (sizePositive : 0 < size) (sizeFits : size < wordLimit)
    (refillPositive : 0 < refillTimeNanos) :
    match tokenBucketRefillNative size budget refillTimeNanos elapsedNanos with
    | some refill => refill = refillSpec size budget refillTimeNanos elapsedNanos
    | none => elapsedNanos < refillTimeNanos := by
  unfold tokenBucketRefillNative
  rw [if_neg (by omega)]
  by_cases small : (size < verifiedTokenBucketBound ∧ budget ≤ size ∧
      refillTimeNanos % nanosPerMillisecond = 0 ∧ elapsedNanos % nanosPerMillisecond = 0) ∧
      1 ≤ refillTimeNanos / nanosPerMillisecond ∧
      refillTimeNanos / nanosPerMillisecond < verifiedRefillMillisBound ∧
      elapsedNanos / nanosPerMillisecond ≤ refillTimeNanos / nanosPerMillisecond
  · rw [if_pos small]
    obtain ⟨⟨-, -, refillWhole, elapsedWhole⟩, -, -, within⟩ := small
    exact tokenBucketRefillMillis_eq refillWhole elapsedWhole within
  · rw [if_neg small]
    unfold refillSpec
    by_cases full : refillTimeNanos ≤ elapsedNanos
    · simp only [if_pos full]
    · simp only [if_neg full]
      cases fits : checkedMul elapsedNanos size with
      | none => exact Nat.not_le.mp full
      | some product =>
        obtain ⟨-, rfl⟩ := checkedMul_eq_some.mp fits
        by_cases none : elapsedNanos * size / refillTimeNanos = 0
        · simp only [Option.bind_eq_bind, Option.bind_some, if_pos none]
          rfl
        · simp only [Option.bind_eq_bind, Option.bind_some, if_neg none]
          cases cost : checkedMul (elapsedNanos * size / refillTimeNanos) refillTimeNanos with
          | none => exact Nat.not_le.mp full
          | some product =>
            obtain ⟨-, rfl⟩ := checkedMul_eq_some.mp cost
            have saturation : min (min (budget + elapsedNanos * size / refillTimeNanos)
                (wordLimit - 1)) size = min (budget + elapsedNanos * size / refillTimeNanos)
                size := by omega
            simp only [Option.bind_some, saturation]
            rfl

/-- The wide path computes the refill. -/
theorem tokenBucketRefillWide_eq (sizePositive : 0 < size) (sizeFits : size < wordLimit)
    (refillFits : refillTimeNanos < wordLimit) (short : elapsedNanos < refillTimeNanos) :
    tokenBucketRefillWide size budget refillTimeNanos elapsedNanos =
      refillSpec size budget refillTimeNanos elapsedNanos := by
  unfold tokenBucketRefillWide refillSpec
  simp only [if_neg (Nat.not_le.mpr short)]
  have paid : elapsedNanos * size / refillTimeNanos * refillTimeNanos ≤ elapsedNanos * size :=
    Nat.div_mul_le_self _ _
  have cost : divCeil (elapsedNanos * size / refillTimeNanos * refillTimeNanos) size ≤
      elapsedNanos := divCeil_le sizePositive paid
  have narrow : elapsedNanos * size ≤ 2 ^ 128 - 1 := by
    have product : elapsedNanos * size ≤ (2 ^ 64 - 1) * (2 ^ 64 - 1) := by
      rw [wordLimit_eq] at sizeFits refillFits
      exact Nat.mul_le_mul (by omega) (by omega)
    exact Nat.le_trans product (by decide)
  have costNarrow : min (elapsedNanos * size / refillTimeNanos * refillTimeNanos) (2 ^ 128 - 1) =
      elapsedNanos * size / refillTimeNanos * refillTimeNanos := by omega
  have budgetNarrow : min (min (budget + elapsedNanos * size / refillTimeNanos) (2 ^ 128 - 1)) size =
      min (budget + elapsedNanos * size / refillTimeNanos) size := by
    rw [wordLimit_eq] at sizeFits
    omega
  have budgetFits := Nat.lt_of_le_of_lt (Nat.min_le_right
    (budget + elapsedNanos * size / refillTimeNanos) size) sizeFits
  have costFits : divCeil (elapsedNanos * size / refillTimeNanos * refillTimeNanos) size <
      wordLimit := by omega
  rw [costNarrow, budgetNarrow, if_pos budgetFits, if_pos costFits]

/-- Every way to compute a refill gives the exact one. -/
theorem tokenBucketRefill_eq (sizePositive : 0 < size) (sizeFits : size < wordLimit)
    (refillPositive : 0 < refillTimeNanos) (refillFits : refillTimeNanos < wordLimit) :
    tokenBucketRefill size budget refillTimeNanos elapsedNanos =
      refillSpec size budget refillTimeNanos elapsedNanos := by
  unfold tokenBucketRefill
  rw [if_neg (by omega)]
  split
  case isTrue huge =>
    rw [refillSpec, if_pos (by omega)]
  case isFalse =>
    have native := @tokenBucketRefillNative_eq size budget refillTimeNanos elapsedNanos
      sizePositive sizeFits refillPositive
    split
    case h_1 refill found =>
      rw [found] at native
      exact native
    case h_2 missing =>
      rw [missing] at native
      exact tokenBucketRefillWide_eq sizePositive sizeFits refillFits native

/-- A refill follows one exact specification, whichever arithmetic computes it: what is
left of a short time after its tokens are paid is worth less than one more. -/
theorem tokenBucketRefill_exact (sizePositive : 0 < size) (sizeFits : size < wordLimit)
    (refillPositive : 0 < refillTimeNanos) (refillFits : refillTimeNanos < wordLimit) :
    let refill := tokenBucketRefill size budget refillTimeNanos elapsedNanos
    let tokens := elapsedNanos * size / refillTimeNanos
    let adjustedNanos := divCeil (tokens * refillTimeNanos) size
    (refill = .full ↔ refillTimeNanos ≤ elapsedNanos) ∧
      (elapsedNanos < refillTimeNanos → (refill = .unchanged ↔ tokens = 0) ∧
        (tokens ≠ 0 → refill = .partially (min size (budget + tokens)) adjustedNanos) ∧
        adjustedNanos ≤ elapsedNanos ∧ (elapsedNanos - adjustedNanos) * size < refillTimeNanos) := by
  intro refill tokens adjustedNanos
  have spec : refill = refillSpec size budget refillTimeNanos elapsedNanos :=
    tokenBucketRefill_eq sizePositive sizeFits refillPositive refillFits
  rw [spec, refillSpec]
  constructor
  · by_cases full : refillTimeNanos ≤ elapsedNanos
    · simp [full]
    · by_cases nothing : tokens = 0
      · simp [full, show elapsedNanos * size / refillTimeNanos = 0 from nothing]
      · simp [full, show elapsedNanos * size / refillTimeNanos ≠ 0 from nothing]
  · intro short
    have paid : tokens * refillTimeNanos ≤ elapsedNanos * size := Nat.div_mul_le_self _ _
    have next : elapsedNanos * size < (tokens + 1) * refillTimeNanos :=
      Nat.lt_mul_of_div_lt (Nat.lt_succ_self _) refillPositive
    have cost : tokens * refillTimeNanos ≤ adjustedNanos * size := le_divCeil_mul _ sizePositive
    rw [if_neg (Nat.not_le.mpr short)]
    refine ⟨?_, fun some => ?_, divCeil_le sizePositive paid, ?_⟩
    · by_cases nothing : tokens = 0
      · rw [if_pos nothing]
        exact iff_of_true rfl nothing
      · rw [if_neg nothing]
        exact iff_of_false (by simp) nothing
    · rw [if_neg some, Nat.min_comm]
    · rw [Nat.sub_mul]
      rw [Nat.succ_mul] at next
      omega

theorem tokenBucketRefill_exact_small :
    tokenBucketRefill 3 1 7000000 5000000 = .partially 3 4666667 ∧
      (5000000 - 4666667) * 3 < 7000000 := by
  obtain ⟨-, short⟩ := @tokenBucketRefill_exact 3 1 7000000 5000000 (by decide) (by decide)
    (by decide) (by decide)
  obtain ⟨-, partially, -, rest⟩ := short (by decide)
  exact ⟨partially (by decide), rest⟩

theorem refillSpec_bounded {refilled adjustedNanos : Nat}
    (refill : refillSpec size budget refillTimeNanos elapsedNanos = .partially refilled adjustedNanos) :
    refilled ≤ size := by
  unfold refillSpec at refill
  dsimp only at refill
  split at refill
  · cases refill
  · split at refill
    · cases refill
    · obtain ⟨rfl, -⟩ := TokenBucketRefill.partially.inj refill
      exact Nat.min_le_right _ _

end

/-- A limiter is enabled when its rate is positive and in range. -/
theorem TokenBucketConfig.isEnabled_iff {config : TokenBucketConfig} :
    config.isEnabled = true ↔ 0 < config.size ∧ 0 < config.refillTime * nanosPerMillisecond ∧
      config.refillTime * nanosPerMillisecond < wordLimit := by
  unfold TokenBucketConfig.isEnabled
  by_cases zero : config.size = 0
  · rw [if_pos zero, zero]
    exact ⟨fun impossible => absurd impossible Bool.false_ne_true,
      fun enabled => absurd enabled.1 (Nat.lt_irrefl 0)⟩
  · rw [if_neg zero]
    cases fits : checkedMul config.refillTime nanosPerMillisecond with
    | none =>
      refine ⟨fun impossible => absurd impossible Bool.false_ne_true, fun enabled => ?_⟩
      exact absurd fits (by rw [checkedMul, if_pos enabled.2.2]; exact Option.some_ne_none _)
    | some refillTimeNanos =>
      obtain ⟨small, rfl⟩ := checkedMul_eq_some.mp fits
      rw [Option.any_some, decide_eq_true_iff]
      exact ⟨fun positive => ⟨Nat.pos_of_ne_zero zero, Nat.pos_of_ne_zero positive, small⟩,
        fun enabled => Nat.ne_of_gt enabled.2.1⟩

namespace TokenBucket

def newAt (config : TokenBucketConfig) (now : Nat) : Option TokenBucket :=
  if enabled : config.isEnabled = true then
    some { size := config.size
           refillTimeNanos := config.refillTime * nanosPerMillisecond
           budget := config.size
           oneTimeBurst := config.oneTimeBurst.getD 0
           lastUpdate := now
           elapsedRefillCreditNanos := 0
           sizePositive := (TokenBucketConfig.isEnabled_iff.mp enabled).1
           sizeFits := config.sizeFits
           refillPositive := (TokenBucketConfig.isEnabled_iff.mp enabled).2.1
           refillFits := (TokenBucketConfig.isEnabled_iff.mp enabled).2.2
           bounded := Nat.le_refl _ }
  else none

theorem newAt_size {config : TokenBucketConfig} {now : Nat} {bucket : TokenBucket}
    (made : newAt config now = some bucket) : bucket.size = config.size := by
  unfold newAt at made
  split at made
  · obtain rfl := Option.some.inj made
    rfl
  · cases made

variable (bucket : TokenBucket)

/-- The time which has not been turned into tokens, when the clock has not gone
back. -/
def elapsedAt (now : Nat) : Nat := now - bucket.lastUpdate + bucket.elapsedRefillCreditNanos

/-- Pay for a partial refill, from the credit first. -/
def consume (adjustedNanos : Nat) : TokenBucket :=
  let consumedCredit := min bucket.elapsedRefillCreditNanos adjustedNanos
  let consumedPhysical := adjustedNanos - consumedCredit
  { bucket with
    elapsedRefillCreditNanos := bucket.elapsedRefillCreditNanos - consumedCredit
    lastUpdate := if consumedPhysical ≠ 0 then bucket.lastUpdate + consumedPhysical
      else bucket.lastUpdate }

def replenishAt (now : Nat) : TokenBucket :=
  if now < bucket.lastUpdate then bucket
  else
    match refill : tokenBucketRefill bucket.size bucket.budget bucket.refillTimeNanos
        (bucket.elapsedAt now) with
    | .unchanged => bucket
    | .full =>
      { bucket with
        budget := bucket.size
        lastUpdate := now
        elapsedRefillCreditNanos := 0
        bounded := Nat.le_refl _ }
    | .partially budget adjustedNanos =>
      { bucket.consume adjustedNanos with
        budget
        bounded := refillSpec_bounded ((tokenBucketRefill_eq bucket.sizePositive bucket.sizeFits
          bucket.refillPositive bucket.refillFits).symm.trans refill) }

def durationFromNanosSaturating (nanos : Nat) : Nat := min nanos (wordLimit - 1)

variable (tokens now : Nat)

def retryAfterForTokens : Nat :=
  let targetBudget := min tokens bucket.size
  let tokenDeficit := targetBudget - bucket.budget
  if tokenDeficit = 0 then 0
  else
    let nanosSinceUpdate := bucket.elapsedAt now
    let nanosUntilBudget :=
      divCeil (min (tokenDeficit * bucket.refillTimeNanos) (2 ^ 128 - 1)) bucket.size
    durationFromNanosSaturating (nanosUntilBudget - nanosSinceUpdate)

def takeBudget : TokenBucketReduction × TokenBucket :=
  if bucket.size < tokens then
    let empty := { bucket with budget := 0, bounded := Nat.zero_le _ }
    (.throttled (empty.retryAfterForTokens bucket.size now), empty)
  else if bucket.budget < tokens then
    (.throttled (bucket.retryAfterForTokens tokens now), bucket)
  else
    (.allowed, { bucket with
      budget := bucket.budget - tokens
      bounded := Nat.le_trans (Nat.sub_le _ _) bucket.bounded })

def takeOneTimeBurst : TokenBucket :=
  { bucket with
    oneTimeBurst := bucket.oneTimeBurst - tokens
    lastUpdate := now
    elapsedRefillCreditNanos := 0 }

def reduceWithRetryAt : TokenBucketReduction × TokenBucket :=
  if tokens = 0 then (.allowed, bucket)
  else if tokens ≤ bucket.oneTimeBurst then (.allowed, bucket.takeOneTimeBurst tokens now)
  else
    ({ bucket with oneTimeBurst := 0 }.replenishAt now).takeBudget (tokens - bucket.oneTimeBurst) now

theorem replenishAt_shape (now : Nat) : (bucket.replenishAt now).size = bucket.size ∧
    (bucket.replenishAt now).refillTimeNanos = bucket.refillTimeNanos := by
  unfold replenishAt
  split
  · exact ⟨rfl, rfl⟩
  · split <;> exact ⟨rfl, rfl⟩

theorem takeBudget_shape (tokens now : Nat) :
    (bucket.takeBudget tokens now).2.size = bucket.size ∧
      (bucket.takeBudget tokens now).2.refillTimeNanos = bucket.refillTimeNanos := by
  unfold takeBudget
  split
  · exact ⟨rfl, rfl⟩
  · split <;> exact ⟨rfl, rfl⟩

theorem reduceWithRetryAt_shape (tokens now : Nat) :
    (bucket.reduceWithRetryAt tokens now).2.size = bucket.size ∧
      (bucket.reduceWithRetryAt tokens now).2.refillTimeNanos = bucket.refillTimeNanos := by
  unfold reduceWithRetryAt
  split
  · exact ⟨rfl, rfl⟩
  · split
    · exact ⟨rfl, rfl⟩
    · obtain ⟨size, refill⟩ := takeBudget_shape
        ({ bucket with oneTimeBurst := 0 }.replenishAt now) (tokens - bucket.oneTimeBurst) now
      obtain ⟨refilledSize, refilledRefill⟩ := replenishAt_shape { bucket with oneTimeBurst := 0 } now
      exact ⟨size.trans refilledSize, refill.trans refilledRefill⟩

def drainBudget (now : Nat) : TokenBucketReduction × TokenBucket :=
  if bucket.budget < bucket.size then
    (.throttled (bucket.retryAfterForTokens bucket.size now), bucket)
  else (.allowed, { bucket with budget := 0, bounded := Nat.zero_le _ })

def reduceAllowOverconsumptionWithRetryAt : TokenBucketReduction × TokenBucket :=
  if tokens = 0 ∨ tokens ≤ bucket.size then bucket.reduceWithRetryAt tokens now
  else if tokens ≤ bucket.oneTimeBurst then (.allowed, bucket.takeOneTimeBurst tokens now)
  else
    let refilled := { bucket with oneTimeBurst := 0 }.replenishAt now
    if tokens - bucket.oneTimeBurst ≤ bucket.size then
      refilled.reduceWithRetryAt (tokens - bucket.oneTimeBurst) now
    else refilled.drainBudget now

end TokenBucket

structure TokenBucketSnapshot where
  (budget oneTimeBurst lastUpdate elapsedRefillCreditNanos : Nat)
deriving DecidableEq, Repr

def TokenBucket.snapshot (bucket : TokenBucket) : TokenBucketSnapshot :=
  ⟨bucket.budget, bucket.oneTimeBurst, bucket.lastUpdate, bucket.elapsedRefillCreditNanos⟩

/-- Take back a snapshot of a bucket of the same size. -/
def TokenBucket.restore (bucket : TokenBucket) (snapshot : TokenBucketSnapshot)
    (bounded : snapshot.budget ≤ bucket.size) : TokenBucket :=
  { bucket with
    budget := snapshot.budget
    oneTimeBurst := snapshot.oneTimeBurst
    lastUpdate := snapshot.lastUpdate
    elapsedRefillCreditNanos := snapshot.elapsedRefillCreditNanos
    bounded }

inductive PersistedTokenBucketStateError where
  | disabledConfiguration
  | configurationMismatch
  | budgetOutOfBounds
  | burstOutOfBounds
  | captureTimeBeforeLastUpdate
  | ageOutOfBounds
deriving DecidableEq, Repr

structure PersistedTokenBucketState where
  config : TokenBucketConfig
  (budget oneTimeBurst ageNanos : Nat)
deriving DecidableEq, Repr

def TokenBucket.persistedStateAt (bucket : TokenBucket) (config : TokenBucketConfig) (now : Nat) :
    Except PersistedTokenBucketStateError PersistedTokenBucketState := do
  let refillTimeNanos ← okOr (checkedMul config.refillTime nanosPerMillisecond)
    .disabledConfiguration
  rejectIf (!config.isEnabled) .disabledConfiguration
  rejectIf (bucket.size ≠ config.size ∨ bucket.refillTimeNanos ≠ refillTimeNanos)
    .configurationMismatch
  rejectIf (bucket.size < bucket.budget) .budgetOutOfBounds
  rejectIf (config.oneTimeBurst.getD 0 < bucket.oneTimeBurst) .burstOutOfBounds
  rejectIf (now < bucket.lastUpdate) .captureTimeBeforeLastUpdate
  rejectIf (¬ bucket.elapsedAt now < wordLimit) .ageOutOfBounds
  return { config
           budget := bucket.budget
           oneTimeBurst := bucket.oneTimeBurst
           ageNanos := bucket.elapsedAt now }

def TokenBucket.fromPersistedStateAt (state : PersistedTokenBucketState) (now : Nat) :
    Except PersistedTokenBucketStateError TokenBucket := do
  let bucket ← attach (okOr (TokenBucket.newAt state.config now) .disabledConfiguration)
  if fits : state.budget ≤ state.config.size then
    rejectIf (state.config.oneTimeBurst.getD 0 < state.oneTimeBurst) .burstOutOfBounds
    return { bucket.val with
             budget := state.budget
             oneTimeBurst := state.oneTimeBurst
             lastUpdate := now
             elapsedRefillCreditNanos := state.ageNanos
             bounded := by rwa [TokenBucket.newAt_size (okOr_eq_ok.mp bucket.property)] }
  else throw .budgetOutOfBounds

end Bangbang.RateLimit
