import Mathlib.Algebra.Order.Ring.Nat

/-!
# Classic BPF execution

The accumulator fragment of classic BPF: absolute word loads, masking, forward
jumps, three unsigned comparisons, and constant returns. Every transfer moves
the program counter strictly forward, so `execute` needs no more fuel than the
program has instructions; `execute_eq_of_returns` is that adequacy statement.

The program is a parameter of every relation. The data a program inspects is
represented by its word-load function, which may refuse an offset.
-/

namespace Bangbang.Bpf

/-- One instruction in the kernel's `sock_filter` shape. -/
structure Instruction where
  code : BitVec 16
  (jt jf : BitVec 8)
  k : BitVec 32
deriving DecidableEq, Repr

def ldWAbs : BitVec 16 := 0x20#16
def aluAndK : BitVec 16 := 0x54#16
def jmpJa : BitVec 16 := 0x05#16
def jmpJeqK : BitVec 16 := 0x15#16
def jmpJgtK : BitVec 16 := 0x25#16
def jmpJgeK : BitVec 16 := 0x35#16
def retK : BitVec 16 := 0x06#16

/-- A bounds-checked word load at an absolute byte offset. -/
abbrev Load := BitVec 32 → Option (BitVec 32)

/-- Program counter and accumulator. -/
structure State where
  pc : Nat
  acc : BitVec 32
deriving DecidableEq, Repr

/-- What one instruction does. -/
inductive Outcome where
  | next (state : State)
  | returned (value : BitVec 32)
  | fault
deriving DecidableEq, Repr

/-- The comparison selected by a conditional-jump opcode. -/
def comparison (code : BitVec 16) : Option (BitVec 32 → BitVec 32 → Bool) :=
  if code = jmpJeqK then some fun acc k => acc == k
  else if code = jmpJgtK then some fun acc k => k.ult acc
  else if code = jmpJgeK then some fun acc k => k.ule acc
  else none

theorem comparison_jmpJeqK : comparison jmpJeqK = some fun acc k => acc == k := rfl

theorem comparison_jmpJgtK : comparison jmpJgtK = some fun acc k => k.ult acc := rfl

theorem comparison_jmpJgeK : comparison jmpJgeK = some fun acc k => k.ule acc := rfl

/-- Execute the instruction at the program counter. -/
def step (program : List Instruction) (load : Load) (state : State) : Outcome :=
  match program[state.pc]? with
  | none => .fault
  | some instruction =>
    if instruction.code = ldWAbs then
      match load instruction.k with
      | some word => .next ⟨state.pc + 1, word⟩
      | none => .fault
    else if instruction.code = aluAndK then
      .next ⟨state.pc + 1, state.acc &&& instruction.k⟩
    else if instruction.code = retK then
      .returned instruction.k
    else if instruction.code = jmpJa then
      .next ⟨state.pc + 1 + instruction.k.toNat, state.acc⟩
    else
      match comparison instruction.code with
      | some test =>
        let offset := if test state.acc instruction.k then instruction.jt else instruction.jf
        .next ⟨state.pc + 1 + offset.toNat, state.acc⟩
      | none => .fault

/-- Run at most `fuel` instructions. -/
def run (program : List Instruction) (load : Load) : Nat → State → Option (BitVec 32)
  | 0, _ => none
  | fuel + 1, state =>
    match step program load state with
    | .next state => run program load fuel state
    | .returned value => some value
    | .fault => none

/-- Run a whole program from its first instruction with a cleared accumulator. -/
def execute (program : List Instruction) (load : Load) : Option (BitVec 32) :=
  run program load program.length ⟨0, 0⟩

variable {program : List Instruction} {load : Load}

/-- Zero or more successful instructions. -/
inductive Steps (program : List Instruction) (load : Load) : State → State → Prop where
  | refl (state : State) : Steps program load state state
  | head {state middle last : State} (first : step program load state = .next middle)
      (rest : Steps program load middle last) : Steps program load state last

theorem Steps.single {state next} (first : step program load state = .next next) :
    Steps program load state next :=
  .head first (.refl next)

/-- Steps follow one another. -/
theorem Steps.trans {state middle last} (first : Steps program load state middle)
    (second : Steps program load middle last) : Steps program load state last := by
  induction first with
  | refl => exact second
  | head step _ ih => exact .head step (ih second)

/-- Execution from a state ends with a returned value. -/
def Returns (program : List Instruction) (load : Load) (state : State) (value : BitVec 32) : Prop :=
  ∃ fuel, run program load fuel state = some value

variable {value : BitVec 32} {state : State}

theorem Returns.of_step (last : step program load state = .returned value) :
    Returns program load state value :=
  ⟨1, by simp [run, last]⟩

/-- A program returns what it returns after some steps. -/
theorem Returns.of_steps {state middle} (steps : Steps program load state middle)
    (rest : Returns program load middle value) : Returns program load state value := by
  induction steps with
  | refl => exact rest
  | head first _ ih =>
    obtain ⟨fuel, result⟩ := ih rest
    exact ⟨fuel + 1, by simp [run, first, result]⟩

/-- Every transfer of control is forward and starts inside the program. -/
theorem step_next_forward {state next} (moved : step program load state = .next next) :
    state.pc < program.length ∧ state.pc < next.pc := by
  unfold step at moved
  cases fetched : program[state.pc]? with
  | none => simp [fetched] at moved
  | some instruction =>
    have inside : state.pc < program.length := (List.getElem?_eq_some_iff.mp fetched).1
    simp only [fetched] at moved
    repeat' split at moved
    all_goals
      first
      | (injection moved with moved; subst moved; exact ⟨inside, by simp only; omega⟩)
      | simp at moved

/-- More fuel gives the same result. -/
theorem run_mono {fuel more} (result : run program load fuel state = some value)
    (enough : fuel ≤ more) : run program load more state = some value := by
  induction fuel generalizing more state with
  | zero => simp [run] at result
  | succ fuel ih =>
    cases more with
    | zero => omega
    | succ more =>
      rw [run] at result ⊢
      cases stepped : step program load state with
      | next state =>
        simp only [stepped] at result ⊢
        exact ih result (by omega)
      | returned value => simpa only [stepped] using result
      | fault => simp [stepped] at result

/-- The instructions from the program counter on are fuel enough. -/
theorem run_remaining {fuel} (result : run program load fuel state = some value) :
    run program load (program.length - state.pc) state = some value := by
  induction fuel generalizing state with
  | zero => simp [run] at result
  | succ fuel ih =>
    rw [run] at result
    cases stepped : step program load state with
    | next state' =>
      simp only [stepped] at result
      have forward := step_next_forward stepped
      have fuelSplit : program.length - state.pc = program.length - state.pc - 1 + 1 := by
        omega
      rw [fuelSplit, run]
      simp only [stepped]
      exact run_mono (ih result) (by omega)
    | returned value' =>
      have inside : state.pc < program.length := by
        refine Nat.lt_of_not_le fun outside => ?_
        simp [step, List.getElem?_eq_none outside] at stepped
      have fuelSplit : program.length - state.pc = program.length - state.pc - 1 + 1 := by
        omega
      rw [fuelSplit, run]
      simpa only [stepped] using result
    | fault => simp [stepped] at result

/-- A whole-program execution which returns at all is found by `execute`. -/
theorem execute_eq_of_returns (returns : Returns program load ⟨0, 0⟩ value) :
    execute program load = some value := by
  obtain ⟨fuel, result⟩ := returns
  exact run_remaining result

section
variable {state : State} {instruction : Instruction}

variable (fetched : program[state.pc]? = some instruction)
include fetched

theorem step_load {word} (code : instruction.code = ldWAbs)
    (loaded : load instruction.k = some word) :
    step program load state = .next ⟨state.pc + 1, word⟩ := by
  simp [step, fetched, code, loaded]

theorem step_and (code : instruction.code = aluAndK) :
    step program load state = .next ⟨state.pc + 1, state.acc &&& instruction.k⟩ := by
  simp [step, fetched, code, aluAndK, ldWAbs]

theorem step_return (code : instruction.code = retK) :
    step program load state = .returned instruction.k := by
  simp [step, fetched, code, retK, aluAndK, ldWAbs]

theorem step_jump (code : instruction.code = jmpJa) :
    step program load state = .next ⟨state.pc + 1 + instruction.k.toNat, state.acc⟩ := by
  simp [step, fetched, code, jmpJa, retK, aluAndK, ldWAbs]

/-- A comparison continues at the offset of its outcome. -/
theorem step_comparison {test} (selected : comparison instruction.code = some test) :
    step program load state =
      .next ⟨state.pc + 1 +
        (if test state.acc instruction.k then instruction.jt else instruction.jf).toNat,
        state.acc⟩ := by
  have notStatement : instruction.code ≠ ldWAbs ∧ instruction.code ≠ aluAndK ∧
      instruction.code ≠ retK ∧ instruction.code ≠ jmpJa := by
    refine ⟨?_, ?_, ?_, ?_⟩ <;>
    · intro code
      rw [code] at selected
      exact absurd selected (by simp [comparison, ldWAbs, aluAndK, retK, jmpJa, jmpJeqK, jmpJgtK,
        jmpJgeK])
  obtain ⟨notLoad, notAnd, notReturn, notJump⟩ := notStatement
  simp [step, fetched, notLoad, notAnd, notReturn, notJump, selected]

end
end Bangbang.Bpf
