import Mathlib.Algebra.Order.Ring.Nat
import Mathlib.Tactic.Ring

/-!
# Token meters

A token meter gives out tokens from a burst which is spent once and from a budget
which is refilled at the rate of `size` tokens in `refill` units of time. Time which
has not been turned into tokens yet is kept as `elapsed`. A refill takes as many
whole tokens as the elapsed time is worth and charges the time they cost, rounded
up.

The charge of a meter is the worth of its budget and its elapsed time, in units of
`1 / refill` tokens. No operation raises it; only time does. After a refill the
elapsed time is worth less than one token, which bounds what a meter gives out in
any window of time by the burst, the size, and the rate.
-/

namespace Bangbang

/-- Division which rounds up. -/
def divCeil (value divisor : Nat) : Nat := (value + divisor - 1) / divisor

section
variable {divisor bound : Nat}

/-- Rounding up loses nothing. -/
theorem le_divCeil_mul (value) (positive : 0 < divisor) :
    value ≤ divCeil value divisor * divisor := by
  have split := Nat.div_add_mod (value + divisor - 1) divisor
  have small := Nat.mod_lt (value + divisor - 1) positive
  rw [Nat.mul_comm] at split
  unfold divCeil
  omega

theorem divCeil_le {value : Nat} (positive : 0 < divisor) (bounded : value ≤ bound * divisor) :
    divCeil value divisor ≤ bound := by
  rw [divCeil, ← Nat.lt_succ_iff, Nat.div_lt_iff_lt_mul positive, Nat.succ_mul]
  omega

/-- A quotient rounded up is bounded as the value is. -/
theorem divCeil_le_iff {value : Nat} (positive : 0 < divisor) :
    divCeil value divisor ≤ bound ↔ value ≤ bound * divisor :=
  ⟨fun small => Nat.le_trans (le_divCeil_mul value positive) (Nat.mul_le_mul_right _ small),
    divCeil_le positive⟩

end

@[ext] structure Meter where
  size : Nat
  refill : Nat
  budget : Nat
  burst : Nat
  elapsed : Nat
  sizePositive : 0 < size
  refillPositive : 0 < refill
  bounded : budget ≤ size

namespace Meter

inductive Decision where
  | allowed
  | throttled (wait : Nat)
deriving DecidableEq, Repr

/-- A request for tokens some time after the one before it. An overconsuming request
may take more than the size from a full budget. -/
structure Call where
  (delay tokens : Nat)
  overconsume : Bool
deriving DecidableEq, Repr

variable (meter : Meter)

/-- Time passes. -/
def advance (time : Nat) : Meter := { meter with elapsed := meter.elapsed + time }

/-- The whole tokens which the elapsed time is worth. -/
def earned : Nat := meter.elapsed * meter.size / meter.refill

/-- The budget earns what the elapsed time is worth. -/
def replenish : Meter :=
  if meter.refill ≤ meter.elapsed then
    { meter with budget := meter.size, elapsed := 0, bounded := Nat.le_refl _ }
  else
    { meter with
      budget := min (meter.budget + meter.earned) meter.size
      elapsed := meter.elapsed - divCeil (meter.earned * meter.refill) meter.size
      bounded := Nat.min_le_right _ _ }

section
variable (tokens : Nat)

/-- The time until the budget holds some tokens. -/
def wait : Nat :=
  divCeil ((min tokens meter.size - meter.budget) * meter.refill) meter.size - meter.elapsed

/-- Take tokens from the budget alone. -/
def take : Decision × Meter :=
  if meter.size < tokens then
    let empty := { meter with budget := 0, bounded := Nat.zero_le _ }
    (.throttled (empty.wait meter.size), empty)
  else if meter.budget < tokens then (.throttled (meter.wait tokens), meter)
  else
    (.allowed, { meter with
      budget := meter.budget - tokens
      bounded := Nat.le_trans (Nat.sub_le _ _) meter.bounded })

/-- Take tokens from the burst; the elapsed time is forfeited. -/
def takeBurst : Meter := { meter with burst := meter.burst - tokens, elapsed := 0 }

/-- Give up the burst and refill the budget. -/
def refilled : Meter := { meter with burst := 0 }.replenish

/-- Take tokens, from the burst first. -/
def reduce : Decision × Meter :=
  if tokens = 0 then (.allowed, meter)
  else if tokens ≤ meter.burst then (.allowed, meter.takeBurst tokens)
  else meter.refilled.take (tokens - meter.burst)

/-- Take more than the size from a full budget. -/
def drain : Decision × Meter :=
  if meter.budget < meter.size then (.throttled (meter.wait meter.size), meter)
  else (.allowed, { meter with budget := 0, bounded := Nat.zero_le _ })

/-- Take tokens even beyond the size, which leaves the meter drained. -/
def reduceOverconsuming : Decision × Meter :=
  if tokens = 0 ∨ tokens ≤ meter.size then meter.reduce tokens
  else if tokens ≤ meter.burst then (.allowed, meter.takeBurst tokens)
  else if tokens - meter.burst ≤ meter.size then meter.refilled.reduce (tokens - meter.burst)
  else meter.refilled.drain

end

/-- A call after its delay. -/
def answer (call : Call) : Decision × Meter :=
  if call.overconsume then (meter.advance call.delay).reduceOverconsuming call.tokens
  else (meter.advance call.delay).reduce call.tokens

/-- The decisions on a sequence of calls. -/
def decisions : Meter → List Call → List Decision
  | _, [] => []
  | meter, call :: calls => (meter.answer call).1 :: decisions (meter.answer call).2 calls

/-- The tokens which a sequence of calls is given. -/
def granted : Meter → List Call → Nat
  | _, [] => 0
  | meter, call :: calls =>
    (if (meter.answer call).1 = .allowed then call.tokens else 0) + granted (meter.answer call).2 calls

section
variable {meter} {tokens : Nat}

/-- What the budget and the elapsed time are worth. -/
def charge (meter : Meter) : Nat := meter.budget * meter.refill + meter.elapsed * meter.size

/-- Time adds charge in proportion. -/
theorem charge_advance (time) : (meter.advance time).charge = meter.charge + time * meter.size := by
  simp only [charge, advance, Nat.add_mul, Nat.add_assoc]

/-- No more is earned than the elapsed time allows. -/
theorem earned_mul_le : meter.earned * meter.refill ≤ meter.elapsed * meter.size :=
  Nat.div_mul_le_self _ _

/-- The time which the earned tokens cost has elapsed. -/
theorem cost_le_elapsed (meter : Meter) :
    divCeil (meter.earned * meter.refill) meter.size ≤ meter.elapsed :=
  divCeil_le meter.sizePositive earned_mul_le

/-- A whole refill period fills the budget. -/
theorem replenish_full (full : meter.refill ≤ meter.elapsed) :
    meter.replenish.budget = meter.size ∧ meter.replenish.elapsed = 0 := by
  rw [replenish, if_pos full]
  exact ⟨rfl, rfl⟩

/-- A shorter time adds what it has earned, and keeps the time which earned nothing. -/
theorem replenish_short (short : meter.elapsed < meter.refill) :
    meter.replenish.budget = min (meter.budget + meter.earned) meter.size ∧
      meter.replenish.elapsed =
        meter.elapsed - divCeil (meter.earned * meter.refill) meter.size := by
  rw [replenish, if_neg (Nat.not_le.mpr short)]
  exact ⟨rfl, rfl⟩

/-- The elapsed time pays for the earned tokens, and its rest is worth less than a
token. -/
theorem replenish_remainder (short : meter.elapsed < meter.refill) :
    meter.replenish.elapsed * meter.size + meter.earned * meter.refill ≤ meter.elapsed * meter.size ∧
      meter.replenish.elapsed * meter.size < meter.refill := by
  have paid := le_divCeil_mul (meter.earned * meter.refill) meter.sizePositive
  have cost := cost_le_elapsed meter
  have next : meter.elapsed * meter.size < (meter.earned + 1) * meter.refill :=
    Nat.lt_mul_of_div_lt (Nat.lt_succ_self _) meter.refillPositive
  rw [(replenish_short short).2, Nat.sub_mul]
  rw [Nat.succ_mul] at next
  have scaled := Nat.mul_le_mul_right meter.size cost
  omega

@[simp] theorem replenish_size : meter.replenish.size = meter.size := by
  unfold replenish
  split <;> rfl

@[simp] theorem replenish_refill : meter.replenish.refill = meter.refill := by
  unfold replenish
  split <;> rfl

@[simp] theorem replenish_burst : meter.replenish.burst = meter.burst := by
  unfold replenish
  split <;> rfl

/-- A replenishment adds no charge. -/
theorem charge_replenish_le : meter.replenish.charge ≤ meter.charge := by
  by_cases full : meter.refill ≤ meter.elapsed
  · have worth : meter.size * meter.refill ≤ meter.elapsed * meter.size := by
      rw [Nat.mul_comm]
      exact Nat.mul_le_mul_right _ full
    obtain ⟨budget, elapsed⟩ := replenish_full full
    simp only [charge, budget, elapsed, replenish_size, replenish_refill]
    omega
  · obtain ⟨paid, -⟩ := replenish_remainder (Nat.not_le.mp full)
    have budget : meter.replenish.budget ≤ meter.budget + meter.earned := by
      rw [(replenish_short (Nat.not_le.mp full)).1]
      exact Nat.min_le_left _ _
    have scaled := Nat.mul_le_mul_right meter.refill budget
    rw [Nat.add_mul] at scaled
    simp only [charge, replenish_size, replenish_refill]
    omega

/-- After a refill the meter is worth less than one token more than its size. -/
theorem charge_replenish_lt : meter.replenish.charge < (meter.size + 1) * meter.refill := by
  have budget := Nat.mul_le_mul_right meter.refill meter.replenish.bounded
  have rest : meter.replenish.elapsed * meter.size < meter.refill := by
    by_cases full : meter.refill ≤ meter.elapsed
    · rw [(replenish_full full).2, Nat.zero_mul]
      exact meter.refillPositive
    · exact (replenish_remainder (Nat.not_le.mp full)).2
  rw [replenish_size] at budget
  rw [Nat.succ_mul]
  simp only [charge, replenish_size, replenish_refill]
  omega

/-- What a decision gives out. -/
def Decision.given (decision : Decision) (tokens : Nat) : Nat :=
  if decision = .allowed then tokens else 0

/-- Taking tokens from the budget costs their worth. -/
theorem take_charge (meter : Meter) (tokens : Nat) :
    (meter.take tokens).1.given tokens * meter.refill + (meter.take tokens).2.charge ≤
      meter.charge := by
  unfold take
  split
  · simp only [Decision.given, charge, reduceCtorEq, if_false, Nat.zero_mul, Nat.zero_add]
    exact Nat.le_add_left _ _
  · split
    · simp [Decision.given]
    case isFalse enough =>
      have split : tokens * meter.refill + (meter.budget - tokens) * meter.refill =
          meter.budget * meter.refill := by
        rw [← Nat.add_mul, Nat.add_sub_cancel' (Nat.not_lt.mp enough)]
      simp only [Decision.given, charge, if_true]
      omega

theorem take_shape (meter : Meter) (tokens : Nat) : (meter.take tokens).2.size = meter.size ∧
    (meter.take tokens).2.refill = meter.refill ∧ (meter.take tokens).2.burst = meter.burst := by
  unfold take
  split
  · exact ⟨rfl, rfl, rfl⟩
  · split <;> exact ⟨rfl, rfl, rfl⟩

theorem refilled_shape (meter : Meter) : meter.refilled.size = meter.size ∧
    meter.refilled.refill = meter.refill ∧ meter.refilled.burst = 0 := by
  simp only [refilled, replenish_size, replenish_refill, replenish_burst, and_self]

theorem reduce_shape (meter : Meter) (tokens : Nat) : (meter.reduce tokens).2.size = meter.size ∧
    (meter.reduce tokens).2.refill = meter.refill := by
  unfold reduce
  split
  · exact ⟨rfl, rfl⟩
  · split
    · exact ⟨rfl, rfl⟩
    · obtain ⟨size, refill, -⟩ := take_shape meter.refilled (tokens - meter.burst)
      obtain ⟨refilledSize, refilledRefill, -⟩ := refilled_shape meter
      exact ⟨size.trans refilledSize, refill.trans refilledRefill⟩

/-- A reduction which needs the budget gives the burst and what it takes from the
refilled budget. -/
theorem given_take_refilled {tokens : Nat} (beyond : meter.burst < tokens) :
    (meter.refilled.take (tokens - meter.burst)).1.given tokens * meter.refill +
        (meter.refilled.take (tokens - meter.burst)).2.charge ≤
      meter.burst * meter.refill + meter.refilled.charge := by
  have spent := take_charge meter.refilled (tokens - meter.burst)
  rw [(refilled_shape meter).2.1] at spent
  generalize meter.refilled.take (tokens - meter.burst) = taken at spent ⊢
  obtain ⟨decision, next⟩ := taken
  cases decision with
  | allowed =>
    have parts : tokens * meter.refill =
        meter.burst * meter.refill + (tokens - meter.burst) * meter.refill := by
      rw [← Nat.add_mul, Nat.add_sub_cancel' (Nat.le_of_lt beyond)]
    simp only [Decision.given, if_true] at spent ⊢
    omega
  | throttled wait =>
    simp only [Decision.given, reduceCtorEq, if_false] at spent ⊢
    omega

/-- No reduction gives more than the burst and the charge are worth. -/
theorem reduce_charge (meter : Meter) (tokens : Nat) :
    (meter.reduce tokens).1.given tokens * meter.refill +
        (meter.reduce tokens).2.burst * meter.refill + (meter.reduce tokens).2.charge ≤
      meter.burst * meter.refill + meter.charge := by
  unfold reduce
  split
  case isTrue nothing => simp [Decision.given, nothing]
  case isFalse =>
    split
    case isTrue covered =>
      have parts : tokens * meter.refill + (meter.burst - tokens) * meter.refill =
          meter.burst * meter.refill := by
        rw [← Nat.add_mul, Nat.add_sub_cancel' covered]
      simp only [Decision.given, if_true, takeBurst, charge]
      omega
    case isFalse beyond =>
      have given := given_take_refilled (Nat.not_le.mp beyond)
      have refilled : meter.refilled.charge ≤ meter.charge := charge_replenish_le
      have burst : (meter.refilled.take (tokens - meter.burst)).2.burst = 0 :=
        (take_shape _ _).2.2.trans (refilled_shape meter).2.2
      rw [burst]
      omega

end

section
variable {meter : Meter} {calls : List Call}

/-- The time which a sequence of calls spans, from before the first one. -/
def span (calls : List Call) : Nat := (calls.map (·.delay)).sum

theorem answer_plain {call : Call} (plain : call.overconsume = false) :
    meter.answer call = (meter.advance call.delay).reduce call.tokens := by
  simp [answer, plain]

theorem granted_cons (meter : Meter) (call : Call) (calls : List Call) :
    meter.granted (call :: calls) =
      (meter.answer call).1.given call.tokens + (meter.answer call).2.granted calls := rfl

variable (plain : ∀ call ∈ calls, call.overconsume = false)
include plain

/-- A meter gives out at most its burst, its charge, and what time earns. -/
theorem granted_charge :
    meter.granted calls * meter.refill ≤
      meter.burst * meter.refill + meter.charge + span calls * meter.size := by
  induction calls generalizing meter with
  | nil =>
    rw [granted, Nat.zero_mul]
    exact Nat.zero_le _
  | cons call calls ih =>
    have rest := @ih (meter.answer call).2 fun later member =>
      plain later (List.mem_cons_of_mem _ member)
    rw [answer_plain (plain call List.mem_cons_self)] at rest
    have first := reduce_charge (meter.advance call.delay) call.tokens
    have shape := reduce_shape (meter.advance call.delay) call.tokens
    rw [shape.1, shape.2] at rest
    rw [charge_advance] at first
    rw [granted_cons, answer_plain (plain call List.mem_cons_self), Nat.add_mul]
    rw [span, List.map_cons, List.sum_cons, ← span, Nat.add_mul]
    simp only [advance] at first rest ⊢
    omega

/-- In a window of time a meter gives out less than one token more than its burst,
its size, and what time earns from the first call of the window on. -/
theorem granted_window :
    meter.granted calls * meter.refill <
      (meter.burst + meter.size + 1) * meter.refill + span calls.tail * meter.size := by
  induction calls generalizing meter with
  | nil =>
    rw [granted, Nat.zero_mul]
    exact Nat.add_pos_left (Nat.mul_pos (Nat.succ_pos _) meter.refillPositive) _
  | cons call calls ih =>
    have plainRest : ∀ later ∈ calls, later.overconsume = false := fun later member =>
      plain later (List.mem_cons_of_mem _ member)
    have window : span calls.tail * meter.size ≤ span calls * meter.size := by
      refine Nat.mul_le_mul_right _ ?_
      cases calls with
      | nil => exact Nat.le_refl _
      | cons next later => exact Nat.le_add_left _ _
    rw [granted_cons, answer_plain (plain call List.mem_cons_self), Nat.add_mul, List.tail_cons]
    unfold reduce
    split
    case isTrue nothing =>
      have rest := @ih (meter.advance call.delay) plainRest
      simp only [Decision.given, nothing, advance, ite_self] at rest ⊢
      omega
    case isFalse =>
      split
      case isTrue covered =>
        -- A call which the burst covers starts the window later.
        have rest := @ih ((meter.advance call.delay).takeBurst call.tokens) plainRest
        have parts : call.tokens * meter.refill + (meter.burst - call.tokens + meter.size + 1) *
            meter.refill = (meter.burst + meter.size + 1) * meter.refill := by
          rw [← Nat.add_mul]
          congr 1
          simp only [advance] at covered
          omega
        simp only [Decision.given, takeBurst, advance, if_true] at rest ⊢
        omega
      case isFalse beyond =>
        -- The first refill of the window bounds what was earned before it.
        have given := given_take_refilled (Nat.not_le.mp beyond)
        have refilled : (meter.advance call.delay).refilled.charge <
            (meter.size + 1) * meter.refill := charge_replenish_lt
        have rest := @granted_charge ((meter.advance call.delay).refilled.take
          (call.tokens - meter.burst)).2 _ plainRest
        have shape := take_shape (meter.advance call.delay).refilled (call.tokens - meter.burst)
        obtain ⟨size, refill, burst⟩ := refilled_shape (meter.advance call.delay)
        rw [shape.1, shape.2.1, shape.2.2, size, refill, burst] at rest
        simp only [advance] at given refilled rest ⊢
        rw [Nat.add_assoc meter.burst, Nat.add_mul meter.burst]
        omega

end

section
variable {meter next : Meter} {tokens wait time : Nat}

/-- No wait is longer than a whole refill. -/
theorem wait_le_refill : meter.wait tokens ≤ meter.refill := by
  refine Nat.le_trans (Nat.sub_le _ _) (divCeil_le meter.sizePositive ?_)
  rw [Nat.mul_comm]
  exact Nat.mul_le_mul_left _ (Nat.le_trans (Nat.sub_le _ _) (Nat.min_le_right _ _))

/-- Tokens are in the budget exactly when they have been waited for. -/
theorem wait_le_iff (within : tokens ≤ meter.size) :
    meter.wait tokens ≤ time ↔ tokens ≤ (meter.advance time).replenish.budget := by
  have worth : meter.wait tokens ≤ time ↔
      (tokens - meter.budget) * meter.refill ≤ (meter.elapsed + time) * meter.size := by
    rw [wait, Nat.min_eq_left within, Nat.sub_le_iff_le_add, divCeil_le_iff meter.sizePositive,
      Nat.add_comm time]
  rw [worth]
  by_cases full : meter.refill ≤ meter.elapsed + time
  · rw [(@replenish_full (meter.advance time) full).1]
    refine iff_of_true ?_ within
    rw [Nat.mul_comm (meter.elapsed + time)]
    exact Nat.mul_le_mul (Nat.le_trans (Nat.sub_le _ _) within) full
  · rw [(@replenish_short (meter.advance time) (Nat.not_le.mp full)).1, le_min_iff,
      and_iff_left (show tokens ≤ (meter.advance time).size from within), ← Nat.sub_le_iff_le_add',
      earned, Nat.le_div_iff_mul_le (meter.advance time).refillPositive]
    rfl

/-- Without a burst a refill is a replenishment. -/
theorem refilled_eq (spent : meter.burst = 0) : meter.refilled = meter.replenish := by
  rw [refilled, ← spent]

/-- The tokens which a request needs in the budget. -/
def needed (meter : Meter) (tokens : Nat) : Nat := min tokens meter.size

variable (spent : meter.burst = 0)
include spent

/-- Without a burst a request is decided by the refilled budget alone. -/
theorem reduceOverconsuming_eq :
    ((meter.reduceOverconsuming tokens).1 = .allowed ↔
      meter.needed tokens ≤ meter.replenish.budget) ∧
    ∀ wait next, meter.reduceOverconsuming tokens = (.throttled wait, next) →
      next = meter.replenish ∧ wait = meter.replenish.wait (meter.needed tokens) := by
  have size := @replenish_size meter
  rw [reduceOverconsuming, reduce, refilled_eq spent, spent, needed, Nat.sub_zero]
  by_cases small : tokens ≤ meter.size
  · rw [if_pos (.inr small), Nat.min_eq_left small]
    by_cases nothing : tokens = 0
    · simp [nothing]
    · rw [if_neg nothing, if_neg (by omega), take, if_neg (by omega)]
      by_cases enough : meter.replenish.budget < tokens
      · simp [enough, eq_comm]
      · simp [enough, Nat.not_lt.mp enough]
  · rw [if_neg (by omega), if_neg (by omega), if_neg small, Nat.min_eq_right (by omega), drain]
    by_cases enough : meter.replenish.budget < meter.replenish.size
    · rw [size] at enough
      simp [enough, eq_comm]
    · rw [if_neg enough]
      rw [size] at enough
      simp [Nat.not_lt.mp enough]

/-- A request is allowed from the end of its wait on, and not before. -/
theorem allowed_advance_iff :
    ((meter.advance time).reduceOverconsuming tokens).1 = .allowed ↔
      meter.wait (meter.needed tokens) ≤ time :=
  (@reduceOverconsuming_eq (meter.advance time) tokens spent).1.trans
    (@wait_le_iff meter (meter.needed tokens) time (Nat.min_le_right _ _)).symm

/-- The wait of a throttled request is the one of the meter which it leaves. -/
theorem retry_exact (throttled : meter.reduceOverconsuming tokens = (.throttled wait, next)) :
    ((next.advance time).reduceOverconsuming tokens).1 = .allowed ↔ wait ≤ time := by
  obtain ⟨rfl, rfl⟩ := (reduceOverconsuming_eq spent).2 wait next throttled
  rw [allowed_advance_iff (replenish_burst.trans spent), needed, needed, replenish_size]

end
end Meter
end Bangbang
