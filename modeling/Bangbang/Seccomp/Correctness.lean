import Bangbang.Seccomp.Compiler
import Bangbang.Seccomp.Linking

/-!
# Compiled filters decide as their policies

Each emitter is described by `Emits` over the finished program; the description
of a condition says which of its two labels execution reaches. The compiled
program of a filter then returns the action of `Filter.decision` for every
system call.
-/

namespace Bangbang.Seccomp

open Emits CompiledRule NormalizedCondition List

section

/-- The high half of a 64-bit word. -/
abbrev highHalf (word : BitVec 64) : BitVec 32 := (word >>> 32).setWidth 32

/-- The low half of a 64-bit word. -/
abbrev lowHalf (word : BitVec 64) : BitVec 32 := word.setWidth 32

/-- A word is made of its two halves. -/
theorem toNat_halves (word) :
    word.toNat = (highHalf word).toNat * 2 ^ 32 + (lowHalf word).toNat := by
  have high : (highHalf word).toNat = word.toNat / 2 ^ 32 := by
    simp only [highHalf, BitVec.toNat_setWidth, BitVec.toNat_ushiftRight,
      Nat.shiftRight_eq_div_pow]
    omega
  have low : (lowHalf word).toNat = word.toNat % 2 ^ 32 := BitVec.toNat_setWidth ..
  omega

variable (left right : BitVec 64)
include left right

theorem eq_halves :
    (left == right) = (highHalf left == highHalf right && lowHalf left == lowHalf right) := by
  have leftSplit := toNat_halves left
  have rightSplit := toNat_halves right
  rw [Bool.eq_iff_iff, Bool.and_eq_true, beq_iff_eq, beq_iff_eq, beq_iff_eq]
  simp only [← BitVec.toNat_inj]
  omega

/-- Words are compared by their high halves first. -/
theorem ult_halves :
    left.ult right = ((highHalf left).ult (highHalf right) ||
      (highHalf right == highHalf left && (lowHalf left).ult (lowHalf right))) := by
  have leftSplit := toNat_halves left
  have rightSplit := toNat_halves right
  rw [Bool.eq_iff_iff, Bool.or_eq_true, Bool.and_eq_true, beq_iff_eq]
  simp only [BitVec.ult_iff_toNat_lt, ← BitVec.toNat_inj]
  omega

theorem ule_halves :
    left.ule right = ((highHalf left).ult (highHalf right) ||
      (highHalf right == highHalf left && (lowHalf left).ule (lowHalf right))) := by
  have leftSplit := toNat_halves left
  have rightSplit := toNat_halves right
  rw [Bool.eq_iff_iff, Bool.or_eq_true, Bool.and_eq_true, beq_iff_eq]
  simp only [BitVec.ult_iff_toNat_lt, BitVec.ule_iff_toNat_le, ← BitVec.toNat_inj]
  omega

theorem highHalf_and : highHalf (left &&& right) = highHalf left &&& highHalf right := by
  simp [highHalf, BitVec.ushiftRight_and_distrib, BitVec.setWidth_and]

theorem lowHalf_and : lowHalf (left &&& right) = lowHalf left &&& lowHalf right := by
  simp [lowHalf, BitVec.setWidth_and]

end

/-- The meaning of a condition after double-word equalities became masks. -/
def NormalizedCondition.holds (data : SeccompData) (condition : NormalizedCondition) : Bool :=
  let arg := data.arg condition.index.toNat
  let value := condition.value
  match condition.operator with
  | .eq => arg == value
  | .ge => value.ule arg
  | .gt => value.ult arg
  | .le => arg.ule value
  | .lt => arg.ult value
  | .maskedEq mask => arg &&& mask == value &&& mask
  | .ne => arg != value

/-- Normalization keeps the meaning of a condition. -/
theorem holds_normalizeCondition (data condition) :
    (normalizeCondition condition).holds data = condition.holds data := by
  obtain ⟨index, operator, value, valueLength⟩ := condition
  cases operator <;> cases valueLength <;> try rfl
  case eq.dword =>
    -- The mask clears the high half and keeps the low half.
    simp only [normalizeCondition, holds, Condition.holds]
    rw [eq_halves, highHalf_and, highHalf_and, lowHalf_and, lowHalf_and]
    have high : highHalf 0x00000000ffffffff#64 = 0#32 := by decide
    have low : lowHalf 0x00000000ffffffff#64 = BitVec.allOnes 32 := by decide
    rw [high, low, BitVec.and_zero, BitVec.and_zero, BitVec.and_allOnes, BitVec.and_allOnes]
    rfl

section
variable {image : Image}

/-- Execution from `start` reaches `matched` or `failed` as `holds` says. -/
def Decides (image : Image) (start : Nat) (holds : Bool) (matched failed : Label) : Prop :=
  ∀ acc, ∃ last, image.Steps ⟨start, acc⟩ ⟨image.position (if holds then matched else failed), last⟩

/-- A decision is swapped with its labels. -/
theorem Decides.swap {start holds matched failed}
    (decides : Decides image start holds matched failed) :
    Decides image start (!holds) failed matched := by
  intro acc
  obtain ⟨last, steps⟩ := decides acc
  refine ⟨last, ?_⟩
  cases holds <;> exact steps

variable {highOffset lowOffset high low}

/-- The emitted equality decides whether both halves are equal. -/
theorem emitEquality_emits (highLoad : image.load highOffset = some high)
    (lowLoad : image.load lowOffset = some low) (highValue lowValue equal different) :
    Emits image (emitEquality highOffset lowOffset highValue lowValue equal different)
      (fun start _ _ => Decides image start (high == highValue && low == lowValue)
        equal different) := by
  refine (newLabel.bind fun compareLow => (load highLoad).bind fun _ =>
    (branch rfl _ _ _).bind fun _ => (bindLabel _).bind fun _ =>
    (load lowLoad).bind fun _ => branch rfl _ _ _).mono ?_
  rintro start stop _ ⟨compareLow, _, rfl, _, _, loadHigh, _, _, testHigh, _, _, ⟨rfl, compareAt⟩,
    _, _, loadLow, testLow⟩ acc
  cases sameHigh : high == highValue with
  | false =>
    refine ⟨high, (loadHigh acc).trans ?_⟩
    simpa [sameHigh] using testHigh high
  | true =>
    have reached := (loadHigh acc).trans (testHigh high)
    simp only [sameHigh, if_true, compareAt] at reached
    exact ⟨low, reached.trans ((loadLow high).trans (testLow low))⟩

/-- The emitted order decides by the high halves first. -/
theorem emitOrder_emits (highLoad : image.load highOffset = some high)
    (lowLoad : image.load lowOffset = some low) {code test}
    (selected : Bpf.comparison code = some test) (highValue lowValue greater smaller) :
    Emits image (emitOrder highOffset lowOffset code highValue lowValue greater smaller)
      (fun start _ _ => Decides image start
        (highValue.ult high || (high == highValue && test low lowValue)) greater smaller) := by
  refine (newLabel.bind fun highNotGreater => newLabel.bind fun compareLow =>
    (load highLoad).bind fun _ => (branch rfl _ _ _).bind fun _ =>
    (bindLabel _).bind fun _ => (branch rfl _ _ _).bind fun _ =>
    (bindLabel _).bind fun _ => (load lowLoad).bind fun _ =>
    branch selected _ _ _).mono ?_
  rintro start stop _ ⟨highNotGreater, _, rfl, compareLow, _, rfl, _, _, loadHigh, _, _, testGreater,
    _, _, ⟨rfl, notGreaterAt⟩, _, _, testEqual, _, _, ⟨rfl, compareAt⟩, _, _, loadLow, testLow⟩ acc
  cases isGreater : highValue.ult high with
  | true =>
    refine ⟨high, (loadHigh acc).trans ?_⟩
    simpa [isGreater] using testGreater high
  | false =>
    have notGreater := (loadHigh acc).trans (testGreater high)
    simp only [isGreater, Bool.false_eq_true, if_false, notGreaterAt] at notGreater
    cases sameHigh : high == highValue with
    | false =>
      refine ⟨high, notGreater.trans ?_⟩
      simpa [sameHigh] using testEqual high
    | true =>
      have reached := notGreater.trans (testEqual high)
      simp only [sameHigh, if_true, compareAt] at reached
      exact ⟨low, reached.trans ((loadLow high).trans (testLow low))⟩

/-- A masked load leaves the masked word. -/
theorem loadMasked_emits {offset word} (loaded : image.load offset = some word) (mask) :
    Emits image (loadMasked offset mask)
      (fun start stop _ => ∀ acc, image.Steps ⟨start, acc⟩ ⟨stop, word &&& mask⟩) := by
  by_cases whole : mask = BitVec.allOnes 32
  · rw [whole, BitVec.and_allOnes]
    exact (load loaded).bind (fun _ => pure ()) |>.mono
      (by rintro start stop _ ⟨_, _, load, rfl, _⟩; exact load)
  · simp only [loadMasked, ne_eq, whole, not_false_eq_true, if_true]
    refine ((load loaded).bind fun _ => bitwiseAnd mask).mono ?_
    rintro start stop _ ⟨_, _, load, clear⟩ acc
    exact (load acc).trans (clear word)

theorem emitMaskedEqual_emits (highLoad : image.load highOffset = some high)
    (lowLoad : image.load lowOffset = some low) (matched failed value mask) :
    Emits image (emitMaskedEqual highOffset lowOffset matched failed value mask)
      (fun start _ _ => Decides image start (high &&& highHalf mask == highHalf (value &&& mask) &&
          low &&& lowHalf mask == lowHalf (value &&& mask)) matched failed) := by
  have highValue := highHalf_and value mask
  have lowValue := lowHalf_and value mask
  by_cases highMask : highHalf mask = 0#32 <;> by_cases lowMask : lowHalf mask = 0#32
  · -- Nothing is compared: the condition always matches.
    rw [highMask, BitVec.and_zero] at highValue
    rw [lowMask, BitVec.and_zero] at lowValue
    simp only [emitMaskedEqual, highMask, lowMask, and_self, if_true]
    refine (jump matched).mono fun start stop _ jumped acc => ⟨acc, ?_⟩
    simpa [highValue, lowValue] using jumped.2 acc
  · rw [highMask, BitVec.and_zero] at highValue
    simp only [emitMaskedEqual, highMask, lowMask, and_false, ne_eq, not_true, not_false_eq_true,
      if_true, if_false]
    refine ((loadMasked_emits lowLoad _).bind fun _ => branch rfl _ _ _).mono ?_
    rintro start stop _ ⟨_, _, loadLow, testLow⟩ acc
    refine ⟨low &&& lowHalf mask, (loadLow acc).trans ?_⟩
    simpa [highValue] using testLow (low &&& lowHalf mask)
  · rw [lowMask, BitVec.and_zero] at lowValue
    simp only [emitMaskedEqual, highMask, lowMask, false_and, ne_eq, not_true, not_false_eq_true,
      if_true, if_false]
    refine ((loadMasked_emits highLoad _).bind fun _ => branch rfl _ _ _).mono ?_
    rintro start stop _ ⟨_, _, loadHigh, testHigh⟩ acc
    refine ⟨high &&& highHalf mask, (loadHigh acc).trans ?_⟩
    simpa [lowValue] using testHigh (high &&& highHalf mask)
  · simp only [emitMaskedEqual, highMask, lowMask, and_self, ne_eq, not_false_eq_true,
      if_true, if_false]
    refine (newLabel.bind fun highMatches => (loadMasked_emits highLoad _).bind fun _ =>
      (branch rfl _ _ _).bind fun _ => (bindLabel _).bind fun _ =>
      (loadMasked_emits lowLoad _).bind fun _ => branch rfl _ _ _).mono ?_
    rintro start stop _ ⟨highMatches, _, rfl, _, _, loadHigh, _, _, testHigh, _, _,
      ⟨rfl, matchesAt⟩, _, _, loadLow, testLow⟩ acc
    have testedHigh := (loadHigh acc).trans (testHigh (high &&& highHalf mask))
    cases sameHigh : high &&& highHalf mask == highHalf (value &&& mask) with
    | false =>
      simp only [sameHigh, Bool.false_eq_true, if_false] at testedHigh
      exact ⟨_, testedHigh⟩
    | true =>
      simp only [sameHigh, if_true, matchesAt] at testedHigh
      exact ⟨_, testedHigh.trans ((loadLow _).trans (testLow _))⟩

/-- The code of a condition on an existing argument decides the condition. -/
theorem emitCondition_emits {data} (loads : image.load = data.load) {condition}
    (inside : condition.index.toNat < 6) (matched failed) :
    Emits image (emitCondition condition matched failed)
      (fun start _ _ => Decides image start (condition.holds data) matched failed) := by
  obtain ⟨index, operator, value⟩ := condition
  have lowLoad : image.load (BitVec.ofNat 32 (seccompDataArgsOffset + index.toNat *
      seccompDataArgSize)) = some (lowHalf (data.arg index.toNat)) := by
    rw [loads]
    exact data.load_low inside
  have highLoad : image.load (BitVec.ofNat 32 (seccompDataArgsOffset + index.toNat *
      seccompDataArgSize + 4)) = some (highHalf (data.arg index.toNat)) := by
    rw [loads]
    exact data.load_high inside
  refine afterLift fun _ _ => afterLift fun _ _ => ?_
  cases operator with
  | eq =>
    refine (emitEquality_emits highLoad lowLoad _ _ matched failed).mono fun _ _ _ decides => ?_
    simpa only [holds, eq_halves] using decides
  | ne =>
    refine (emitEquality_emits highLoad lowLoad _ _ failed matched).mono fun _ _ _ decides => ?_
    simpa only [holds, bne, eq_halves] using decides.swap
  | ge =>
    refine (emitOrder_emits highLoad lowLoad Bpf.comparison_jmpJgeK _ _ matched failed).mono
      fun _ _ _ decides => ?_
    simpa only [holds, ule_halves] using decides
  | gt =>
    refine (emitOrder_emits highLoad lowLoad Bpf.comparison_jmpJgtK _ _ matched failed).mono
      fun _ _ _ decides => ?_
    simpa only [holds, ult_halves] using decides
  | le =>
    refine (emitOrder_emits highLoad lowLoad Bpf.comparison_jmpJgtK _ _ failed matched).mono
      fun _ _ _ decides => ?_
    simpa only [holds, BitVec.ule_eq_not_ult, ult_halves] using decides.swap
  | lt =>
    refine (emitOrder_emits highLoad lowLoad Bpf.comparison_jmpJgeK _ _ failed matched).mono
      fun _ _ _ decides => ?_
    have reversed : (data.arg index.toNat).ult value = !value.ule (data.arg index.toNat) := by
      rw [BitVec.ule_eq_not_ult, Bool.not_not]
    simpa only [holds, reversed, ule_halves] using decides.swap
  | maskedEq mask =>
    refine (emitMaskedEqual_emits highLoad lowLoad matched failed value mask).mono
      fun _ _ _ decides => ?_
    simpa only [holds, eq_halves, highHalf_and _ mask, lowHalf_and _ mask]
      using decides

end

/-- A compiled rule applies when all of its conditions hold. -/
def CompiledRule.applies (data : SeccompData) (rule : CompiledRule) : Bool :=
  rule.conditions.all (holds data)

/-- Every condition inspects one of the six arguments. -/
def CompiledRule.Inside (rule : CompiledRule) : Prop :=
  ∀ condition ∈ rule.conditions, condition.index.toNat < 6

section
variable {image : Image} {data : SeccompData} (loads : image.load = data.load)
include loads

/-- An emitted rule decides whether all of its conditions hold. -/
theorem emitRule_emits {conditions} (inside : ∀ condition ∈ conditions, condition.index.toNat < 6)
    (matched failed) :
    Emits image (emitRule matched failed conditions) (fun start _ _ => conditions ≠ [] →
      Decides image start (conditions.all (holds data)) matched failed) := by
  induction conditions with
  | nil => exact (pure ()).mono fun _ _ _ _ absent => absurd rfl absent
  | cons condition conditions ih =>
    have first := emitCondition_emits loads (inside condition mem_cons_self)
    have rest := ih fun other member => inside other (mem_cons_of_mem _ member)
    cases conditions with
    | nil =>
      refine ((first matched failed).bind fun _ => rest).mono ?_
      rintro start stop _ ⟨_, _, decides, _⟩ _
      simpa using decides
    | cons next conditions =>
      refine (newLabel.bind fun conditionMatched =>
        (first conditionMatched failed).bind fun _ =>
        (bindLabel conditionMatched).bind fun _ => rest).mono ?_
      rintro start stop _ ⟨conditionMatched, _, rfl, _, _, decides, _, _, ⟨rfl, matchedAt⟩,
        restDecides⟩ _ acc
      obtain ⟨last, steps⟩ := decides acc
      cases holds : condition.holds data with
      | false =>
        refine ⟨last, ?_⟩
        simpa [holds] using steps
      | true =>
        simp only [holds, if_true, matchedAt] at steps
        obtain ⟨final, restSteps⟩ := restDecides (by simp) last
        refine ⟨final, steps.trans ?_⟩
        simpa [holds] using restSteps

variable {rules : List CompiledRule}

variable (inside : ∀ rule ∈ rules, rule.Inside)
include inside

/-- The rules of one syscall are tried in order until one applies. -/
theorem emitRules_emits (conditional : rules.any (·.conditions.isEmpty) = false) (matched) :
    Emits image
      (rules.forM fun rule => do
        let failed ← Assembler.newLabel
        emitRule matched failed rule.conditions
        Assembler.bind failed)
      (fun start stop _ => ∀ acc, ∃ last, image.Steps ⟨start, acc⟩
        ⟨if rules.any (applies data) then image.position matched else stop, last⟩) := by
  refine forM
    (fun rule start stop _ => ∀ acc, ∃ last, image.Steps ⟨start, acc⟩
      ⟨if rule.applies data then image.position matched else stop, last⟩)
    (fun rules start stop => ∀ acc, ∃ last, image.Steps ⟨start, acc⟩
      ⟨if rules.any (applies data) then image.position matched else stop, last⟩)
    (fun start acc => ⟨acc, .refl _⟩) ?_ ?_
  · intro rule rules start middle stop first rest acc
    obtain ⟨last, steps⟩ := first acc
    cases applies : rule.applies data with
    | true =>
      refine ⟨last, ?_⟩
      simpa [applies] using steps
    | false =>
      obtain ⟨final, restSteps⟩ := rest last
      refine ⟨final, steps.trans ?_⟩
      simpa [applies] using restSteps
  · intro rule member
    have nonempty : rule.conditions ≠ [] := by
      intro empty
      have := any_eq_false.mp conditional rule member
      simp [empty] at this
    refine (newLabel.bind fun failed =>
      (emitRule_emits loads (inside rule member) matched failed).bind fun _ =>
      bindLabel failed).mono ?_
    rintro start stop _ ⟨failed, _, rfl, _, _, decides, rfl, failedAt⟩ acc
    obtain ⟨last, steps⟩ := decides nonempty acc
    refine ⟨last, ?_⟩
    rw [← failedAt, ← apply_ite image.position]
    exact steps

/-- An emitted block returns the match action when a rule applies. -/
theorem emitSyscallBlock_emits (matchAction defaultAction) :
    Emits image (emitSyscallBlock rules matchAction defaultAction)
      (fun start _ _ => ∀ acc, image.Returns ⟨start, acc⟩
        (if rules.any (applies data) then matchAction else defaultAction)) := by
  cases conditional : rules.any (·.conditions.isEmpty) with
  | true =>
    obtain ⟨rule, member, empty⟩ := any_eq_true.mp conditional
    have applies : rules.any (applies data) = true := by
      refine any_eq_true.mpr ⟨rule, member, ?_⟩
      simp [applies, isEmpty_iff.mp empty]
    simp only [emitSyscallBlock, conditional, applies, if_true]
    exact returnAction matchAction
  | false =>
    simp only [emitSyscallBlock, conditional, Bool.false_eq_true, if_false]
    refine (newLabel.bind fun matched =>
      (emitRules_emits loads inside conditional matched).bind fun _ =>
      (returnAction defaultAction).bind fun _ => (bindLabel matched).bind fun _ =>
      returnAction matchAction).mono ?_
    rintro start stop _ ⟨matched, _, rfl, _, _, tried, _, _, returnDefault, _, _,
      ⟨rfl, matchedAt⟩, returnMatch⟩ acc
    obtain ⟨last, steps⟩ := tried acc
    refine .of_steps steps ?_
    cases rules.any (applies data)
    · exact returnDefault last
    · simpa [matchedAt] using returnMatch last

end

section
variable {image : Image}

/-- The guard refuses the calls of the other interface. -/
theorem emitX32Guard_emits :
    Emits image emitX32Guard (fun start stop _ => ∀ acc,
      if x32SyscallBit.ule acc && acc != BitVec.allOnes 32 then
        image.Returns ⟨start, acc⟩ badArchAction
      else image.Steps ⟨start, acc⟩ ⟨stop, acc⟩) := by
  refine (newLabel.bind fun check => newLabel.bind fun dispatch =>
    newLabel.bind fun badAbi =>
    (branch Bpf.comparison_jmpJgeK _ check dispatch).bind fun _ =>
    (bindLabel check).bind fun _ =>
    (branch Bpf.comparison_jmpJeqK _ dispatch badAbi).bind fun _ =>
    (bindLabel badAbi).bind fun _ => (returnAction badArchAction).bind fun _ =>
    bindLabel dispatch).mono ?_
  rintro start stop _ ⟨check, _, rfl, dispatch, _, rfl, badAbi, _, rfl, _, _, testRange, _, _,
    ⟨rfl, checkAt⟩, _, _, testSentinel, _, _, ⟨rfl, badAt⟩, _, _, returns, rfl, dispatchAt⟩ acc
  have ranged := testRange acc
  cases inRange : x32SyscallBit.ule acc with
  | false => simpa [inRange, dispatchAt] using ranged
  | true =>
    simp only [inRange, if_true, checkAt] at ranged
    have tested := ranged.trans (testSentinel acc)
    by_cases sentinel : acc = BitVec.allOnes 32
    · rw [if_neg (by simp [sentinel])]
      rwa [if_pos (beq_iff_eq.mpr sentinel), dispatchAt] at tested
    · rw [if_pos (by simpa using sentinel)]
      rw [if_neg (by simpa using sentinel), badAt] at tested
      exact .of_steps tested (returns acc)

theorem auditArch_eq (target) : auditArch target = target.audit := by
  cases target <;> rfl

/-- The guard returns for foreign system calls and otherwise passes the syscall
number on. -/
theorem emitArchitectureGuard_emits {data : SeccompData} (loads : image.load = data.load) (target) :
    Emits image (emitArchitectureGuard target) (fun start stop _ => ∀ acc,
      if data.foreign target then image.Returns ⟨start, acc⟩ badArchAction
      else image.Steps ⟨start, acc⟩ ⟨stop, data.nr⟩) := by
  have archLoad : image.load seccompDataArchOffset = some data.arch := by
    rw [loads]
    exact data.load_arch
  have nrLoad : image.load seccompDataNrOffset = some data.nr := by
    rw [loads]
    exact data.load_nr
  have numberGuard : Emits image (if target = .x86_64 then emitX32Guard else pure ())
      (fun start stop _ => ∀ acc,
        if target == .x86_64 && x32SyscallBit.ule acc && acc != BitVec.allOnes 32 then
          image.Returns ⟨start, acc⟩ badArchAction
        else image.Steps ⟨start, acc⟩ ⟨stop, acc⟩) := by
    cases target with
    | x86_64 => exact emitX32Guard_emits
    | aarch64 =>
      refine (pure ()).mono ?_
      rintro start _ _ ⟨rfl, _⟩ acc
      exact .refl _
  refine (newLabel.bind fun valid => newLabel.bind fun bad =>
    (load archLoad).bind fun _ =>
    (branch Bpf.comparison_jmpJeqK _ valid bad).bind fun _ =>
    (bindLabel bad).bind fun _ => (returnAction badArchAction).bind fun _ =>
    (bindLabel valid).bind fun _ => (load nrLoad).bind fun _ => numberGuard).mono ?_
  rintro start stop _ ⟨valid, _, rfl, bad, _, rfl, _, _, loadArch, _, _, testArch, _, _,
    ⟨rfl, badAt⟩, _, _, returns, _, _, ⟨rfl, validAt⟩, _, _, loadNr, guarded⟩ acc
  have tested := (loadArch acc).trans (testArch data.arch)
  rw [auditArch_eq] at tested
  by_cases native : data.arch = target.audit
  · rw [if_pos (beq_iff_eq.mpr native), validAt] at tested
    have reached := tested.trans (loadNr data.arch)
    have foreign : data.foreign target = (target == .x86_64 && x32SyscallBit.ule data.nr &&
        data.nr != BitVec.allOnes 32) := by
      simp [SeccompData.foreign, native, x32SyscallBit]
    have outcome := guarded data.nr
    rw [← foreign] at outcome
    split at outcome
    case isTrue rejected =>
      rw [if_pos rejected]
      exact .of_steps reached outcome
    case isFalse admitted =>
      rw [if_neg admitted]
      exact reached.trans outcome
  · rw [if_neg (by simpa using native), badAt] at tested
    rw [if_pos (by simp [SeccompData.foreign, native])]
    exact .of_steps tested (returns data.arch)

end

section
variable {target options table}

/-- The compiled rules of one syscall; a syscall without rules has none. -/
def GroupedRules.rules (grouped : GroupedRules) (number : BitVec 32) : List CompiledRule :=
  grouped[number]?.getD []

/-- Accumulation adds no other rule. -/
theorem mem_accumulate {conditions accumulated rule}
    (member : rule ∈ accumulate conditions accumulated) :
    rule ∈ accumulated ∨ rule = ⟨conditions⟩ := by
  unfold accumulate at member
  split at member
  · exact .inl member
  · split at member
    · exact .inr (mem_singleton.mp member)
    · simpa using member

/-- Dropping superfluous rules does not change whether some rule applies. -/
theorem any_applies_accumulate (data conditions accumulated) :
    (accumulate conditions accumulated).any (applies data) =
      (accumulated.any (applies data) || applies data ⟨conditions⟩) := by
  unfold accumulate
  split
  case isTrue unconditional =>
    obtain ⟨rule, member, empty⟩ := any_eq_true.mp unconditional
    have applies : accumulated.any (applies data) = true := by
      refine any_eq_true.mpr ⟨rule, member, ?_⟩
      simp [applies, isEmpty_iff.mp empty]
    simp [applies]
  case isFalse =>
    split
    case isTrue empty => simp [applies, isEmpty_iff.mp empty]
    case isFalse => simp [any_append]

/-- One rule changes the compiled rules of the syscall which its name denotes. -/
theorem groupRule_rules {grouped next rule}
    (result : groupRule target options table grouped rule = .ok next) (number) :
    next.rules number =
      if table.resolve rule.syscall target = some (.number number) then
        accumulate (ruleConditions options rule) (grouped.rules number)
      else grouped.rules number := by
  simp only [groupRule, bind_eq_ok, okOr_eq_ok] at result
  obtain ⟨resolution, found, result⟩ := result
  cases resolution with
  | pnr =>
    cases result
    simp [found]
  | number resolved =>
    cases result
    by_cases same : resolved = number
    · subst same
      simp [found, GroupedRules.rules]
    · simp [found, same, GroupedRules.rules, Std.TreeMap.getElem?_alter]

variable {first last : GroupedRules} {rules : List Rule}

variable (result : rules.foldlM (groupRule target options table) first = .ok last)
include result

/-- Rules are grouped without changing which syscalls they match. -/
theorem any_applies_groupRules {data} :
    (last.rules data.nr).any (applies data) =
      ((first.rules data.nr).any (applies data) ||
        rules.any (Rule.applies table target options data)) := by
  induction rules generalizing first with
  | nil =>
    cases result
    simp
  | cons rule rules ih =>
    simp only [foldlM_cons, bind_eq_ok] at result
    obtain ⟨middle, one, rest⟩ := result
    have conditions : applies data ⟨ruleConditions options rule⟩ =
        (options.isBasic || (rule.conditions.getD []).all (Condition.holds data)) := by
      cases basic : options.isBasic <;>
        simp [applies, ruleConditions, basic, holds_normalizeCondition, Function.comp_def]
    rw [ih rest, groupRule_rules one, any_cons, ← Bool.or_assoc]
    by_cases resolves : table.resolve rule.syscall target = some (.number data.nr)
    · simp [resolves, Rule.applies, any_applies_accumulate, conditions]
    · have notApplies : rule.applies table target options data = false := by
        rw [Rule.applies, beq_eq_false_iff_ne.mpr resolves, Bool.false_and]
      rw [if_neg resolves, notApplies, Bool.or_false]

/-- Grouped conditions come from the policy. -/
theorem inside_groupRules (firstInside : ∀ number, ∀ rule ∈ first.rules number, rule.Inside)
    (inside : ∀ rule ∈ rules, ∀ condition ∈ rule.conditions.getD [], condition.index.toNat < 6) :
    ∀ number, ∀ rule ∈ last.rules number, rule.Inside := by
  induction rules generalizing first with
  | nil =>
    cases result
    exact firstInside
  | cons rule rules ih =>
    simp only [foldlM_cons, bind_eq_ok] at result
    obtain ⟨middle, one, rest⟩ := result
    refine ih rest ?_ fun other member => inside other (mem_cons_of_mem _ member)
    intro number compiled member
    rw [groupRule_rules one] at member
    split at member
    · rcases mem_accumulate member with earlier | rfl
      · exact firstInside number compiled earlier
      · intro condition member
        simp only [ruleConditions] at member
        split at member
        · simp at member
        · obtain ⟨original, found, rfl⟩ := mem_map.mp member
          exact inside rule mem_cons_self original found
    · exact firstInside number compiled member

end

section
variable {image : Image} {data : SeccompData} {blocks : List SyscallBlock}

/-- The blocks are those of the groups. -/
theorem newBlocks_eq_ok {groups before after}
    (made : newBlocks groups before = .ok (blocks, after)) :
    blocks.map (fun block => (block.number, block.rules)) = groups := by
  induction groups generalizing before blocks with
  | nil =>
    cases made
    rfl
  | cons group groups ih =>
    rw [newBlocks, mapM_cons] at made
    obtain ⟨block, middle, one, rest⟩ := emit_bind_eq_ok.mp made
    obtain ⟨others, last, more, whole⟩ := emit_bind_eq_ok.mp rest
    cases one
    cases whole
    simp [ih more]

theorem newBlocks_emits (groups) :
    Emits image (newBlocks groups) (fun start stop _ => start = stop) := by
  induction groups with
  | nil => exact (pure []).mono fun _ _ _ unmoved => unmoved.1
  | cons group groups ih =>
    rw [newBlocks, mapM_cons]
    refine ((newLabel.bind fun _ => pure _).bind fun block =>
      bind ih fun blocks => pure (block :: blocks)).mono ?_
    rintro start stop _ ⟨block, _, ⟨label, _, rfl, rfl, rfl⟩, blocks, _, rfl, rfl, rfl⟩
    rfl

/-- Where the dispatch chain leads: to the block of a number, or past the chain. -/
def dispatchTarget (image : Image) (number : BitVec 32) (stop : Nat)
    (blocks : List SyscallBlock) : Nat :=
  match blocks.find? (number == ·.number) with
  | some block => image.position block.label
  | none => stop

/-- The dispatch finds the block of a number. -/
theorem dispatch_emits (blocks) :
    Emits image (blocks.forM fun block => Assembler.dispatchEqual block.number block.label)
      (fun start stop _ => ∀ acc,
        image.Steps ⟨start, acc⟩ ⟨dispatchTarget image acc stop blocks, acc⟩) := by
  refine forM _
    (fun blocks start stop => ∀ acc,
      image.Steps ⟨start, acc⟩ ⟨dispatchTarget image acc stop blocks, acc⟩)
    (fun start acc => .refl _) ?_ fun block _ => dispatchEqual block.number block.label
  intro block blocks start middle stop first rest acc
  have dispatched := first acc
  cases found : acc == block.number with
  | true =>
    rw [dispatchTarget, find?_cons_of_pos (by exact found)]
    simpa only [found, if_true] using dispatched
  | false =>
    rw [dispatchTarget, find?_cons_of_neg (by simp [found])]
    simp only [found, Bool.false_eq_true, if_false] at dispatched
    exact dispatched.trans (rest acc)

/-- Execution from a block's label returns the action for the block's rules. -/
def SyscallBlock.Answers (image : Image) (data : SeccompData)
    (filterAction defaultAction : BitVec 32) (block : SyscallBlock) : Prop :=
  ∀ acc, image.Returns ⟨image.position block.label, acc⟩
    (if block.rules.any (applies data) then filterAction else defaultAction)

/-- Every block is emitted at its label. -/
theorem bodies_emits (loads : image.load = data.load)
    (inside : ∀ block ∈ blocks, ∀ rule ∈ block.rules, rule.Inside) (filterAction defaultAction) :
    Emits image
      (blocks.forM fun block => do
        Assembler.bind block.label
        emitSyscallBlock block.rules filterAction defaultAction)
      (fun _ _ _ => ∀ block ∈ blocks, block.Answers image data filterAction defaultAction) := by
  refine forM
    (fun (block : SyscallBlock) _ _ _ => block.Answers image data filterAction defaultAction)
    (fun (blocks : List SyscallBlock) _ _ =>
      ∀ block ∈ blocks, block.Answers image data filterAction defaultAction)
    (by simp) ?_ ?_
  · intro block blocks _ _ _ first rest
    exact forall_mem_cons.mpr ⟨first, rest⟩
  · intro block member
    refine ((bindLabel block.label).bind fun _ =>
      emitSyscallBlock_emits loads (inside block member) filterAction defaultAction).mono ?_
    rintro start stop _ ⟨_, _, ⟨rfl, labelAt⟩, answers⟩
    rwa [SyscallBlock.Answers, labelAt]

variable {grouped : GroupedRules}

/-- The block found for a number holds the rules grouped under it. -/
theorem rules_eq_of_find
    (listed : blocks.map (fun block => (block.number, block.rules)) = grouped.toList) (number) :
    grouped.rules number =
      match blocks.find? (number == ·.number) with
      | some block => block.rules
      | none => [] := by
  cases found : blocks.find? (number == ·.number) with
  | some block =>
    have member : (block.number, block.rules) ∈ grouped.toList := by
      rw [← listed]
      exact mem_map_of_mem (mem_of_find?_eq_some found)
    have same : number = block.number := by
      simpa using find?_some found
    rw [GroupedRules.rules, same, Std.TreeMap.mem_toList_iff_getElem?_eq_some.mp member]
    rfl
  | none =>
    cases stored : grouped[number]? with
    | none => rw [GroupedRules.rules, stored, Option.getD_none]
    | some rules =>
      have member := Std.TreeMap.mem_toList_iff_getElem?_eq_some.mpr stored
      rw [← listed] at member
      obtain ⟨block, isBlock, pair⟩ := mem_map.mp member
      have := find?_eq_none.mp found block isBlock
      simp_all

theorem inside_of_listed (inside : ∀ number, ∀ rule ∈ grouped.rules number, rule.Inside)
    (listed : blocks.map (fun block => (block.number, block.rules)) = grouped.toList) :
    ∀ block ∈ blocks, ∀ rule ∈ block.rules, rule.Inside := by
  intro block member rule ruleMember
  have stored : (block.number, block.rules) ∈ grouped.toList := by
    rw [← listed]
    exact mem_map_of_mem member
  refine inside block.number rule ?_
  rwa [GroupedRules.rules, Std.TreeMap.mem_toList_iff_getElem?_eq_some.mp stored]

/-- The program of a filter, from its first instruction. -/
theorem emitFilter_emits (loads : image.load = data.load)
    (inside : ∀ number, ∀ rule ∈ grouped.rules number, rule.Inside)
    (target filterAction defaultAction) :
    Emits image (emitFilter grouped target filterAction defaultAction)
      (fun start _ _ => ∀ acc, image.Returns ⟨start, acc⟩ (if data.foreign target then badArchAction
          else if (grouped.rules data.nr).any (applies data) then filterAction
          else defaultAction)) := by
  refine ((emitArchitectureGuard_emits loads target).bind fun _ =>
    (newBlocks_emits grouped.toList).bindOf newBlocks_eq_ok fun blocks listed =>
    (dispatch_emits blocks).bind fun _ => (returnAction defaultAction).bind fun _ =>
    bodies_emits loads (inside_of_listed inside listed) filterAction defaultAction).mono ?_
  rintro start stop _ ⟨_, _, guarded, blocks, _, rfl, listed, _, chainEnd, dispatched, _, _,
    returnDefault, bodies⟩ acc
  have outcome := guarded acc
  split at outcome
  case isTrue foreign => rwa [if_pos foreign]
  case isFalse native =>
    rw [if_neg native]
    refine .of_steps (outcome.trans (dispatched data.nr)) ?_
    rw [rules_eq_of_find listed]
    unfold dispatchTarget
    cases found : blocks.find? (data.nr == ·.number) with
    | none => exact returnDefault data.nr
    | some block => exact bodies block (mem_of_find?_eq_some found) data.nr

end

/-- A compiled filter terminates on every system call and returns the encoding
of the action which the policy prescribes. -/
theorem compileFilter_decides {filter : Filter} {target : TargetArch} {options : CompileOptions}
    {table : SyscallTable} {words : List (BitVec 64)}
    (compiled : compileFilter filter target options table = .ok words)
    (inside : ∀ rule ∈ filter.rules, ∀ condition ∈ rule.conditions.getD [],
      condition.index.toNat < 6) (data : SeccompData) :
    Bpf.execute (ofWords words) data.load =
      some (filter.decision table target options data).encode := by
  simp only [compileFilter, bind_eq_ok] at compiled
  obtain ⟨grouped, groupedRules, ⟨_, assembler⟩, emitted, result⟩ := compiled
  obtain ⟨program, finished, rfl⟩ : ∃ program, assembler.finish = .ok program ∧
      toWords program = words := by
    cases finished : assembler.finish with
    | error error => simp [finished, Functor.map, Except.map] at result
    | ok program => exact ⟨program, rfl, by simpa [finished, Functor.map, Except.map] using result⟩
  have insideGroups := inside_groupRules groupedRules (by simp [GroupedRules.rules]) inside
  have emits : Emits ⟨program, data.load, assembler.position⟩ _ _ :=
    emitFilter_emits rfl insideGroups target filter.filterAction.encode
      filter.defaultAction.encode
  have returns := emits.runs emitted (Assembler.finish_linked finished) 0
  have applies : (grouped.rules data.nr).any (applies data) =
      filter.rules.any (Rule.applies table target options data) := by
    simpa [GroupedRules.rules] using any_applies_groupRules groupedRules
  rw [ofWords_toWords]
  refine Bpf.execute_eq_of_returns ?_
  rw [applies] at returns
  unfold Filter.decision
  split
  case isTrue foreign =>
    rw [if_pos foreign] at returns
    exact returns
  case isFalse native =>
    rw [if_neg native] at returns
    rwa [apply_ite Action.encode]

def readTable : SyscallTable := ⟨[⟨"read", .number 0#32, .number 63#32⟩]⟩

/-- Admit `read` from one descriptor only. -/
def readFilter : Filter where
  defaultAction := .killProcess
  filterAction := .allow
  rules := [⟨"read", some [⟨0#8, .eq, 5#64, .dword⟩]⟩]

def readCall : SeccompData where
  nr := 63#32
  arch := 0xc00000b7#32
  instructionPointer := 0
  args := #v[0x100000005#64, 0, 0, 0, 0, 0]

/-- The double-word equality ignores the high half of the descriptor. -/
theorem compileFilter_decides_read : ∃ words,
    compileFilter readFilter .aarch64 ⟨false⟩ readTable = .ok words ∧
      Bpf.execute (ofWords words) readCall.load = some Action.allow.encode := by
  have compiles : (compileFilter readFilter .aarch64 ⟨false⟩ readTable).isOk := by
    decide +kernel
  cases compiled : compileFilter readFilter .aarch64 ⟨false⟩ readTable with
  | error error => simp [compiled, Except.isOk, Except.toBool] at compiles
  | ok words =>
    refine ⟨words, rfl, ?_⟩
    rw [compileFilter_decides compiled (by decide) readCall]
    decide +kernel

end Bangbang.Seccomp
