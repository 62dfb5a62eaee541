import Bangbang.Seccomp.Assembler

/-!
# The structural validator

A program which `validateProgram` accepts is structured: every instruction has a known code,
every load is of a word of the data, and every successor is a later instruction of the
program. A structured program runs to a return on every system call, in no more steps than
it has instructions (`validateProgram_sound`).
-/

namespace Bangbang.Seccomp

open Bpf
open Bpf (Instruction)

/-- One instruction whose successors are later instructions of the program. -/
inductive Structured (length index : Nat) (instruction : Instruction) : Prop where
  | load (code : instruction.code = ldWAbs) (offset : validLoadOffset instruction.k = true)
      (follows : index + 1 < length)
  | mask (code : instruction.code = aluAndK) (follows : index + 1 < length)
  | ret (code : instruction.code = retK)
  | jump (code : instruction.code = jmpJa) (inside : index + 1 + instruction.k.toNat < length)
  | branch (test : BitVec 32 → BitVec 32 → Bool)
      (selected : comparison instruction.code = some test)
      (ifTrue : index + 1 + instruction.jt.toNat < length)
      (ifFalse : index + 1 + instruction.jf.toNat < length)

section
variable {program : List Instruction} {index instruction}

/-- A checked target lies ahead and inside. -/
theorem checkedTarget_eq_ok {length offset target}
    (found : checkedTarget length index offset = .ok target) :
    target = index + 1 + offset ∧ target < length := by
  simp only [checkedTarget, bind_eq_ok, okOr_eq_ok, Option.bind_eq_some_iff, checkedAdd_eq_some,
    rejectIf_eq_ok, pure_eq_ok, Nat.not_le] at found
  obtain ⟨_, ⟨_, ⟨-, rfl⟩, -, rfl⟩, _, inside, rfl⟩ := found
  exact ⟨rfl, inside⟩

variable {terminates : List Bool} {verdict}

theorem terminationAt_eq_ok (found : terminationAt terminates index = .ok verdict) :
    index < terminates.length := by
  rw [terminationAt, okOr_eq_ok, List.getElem?_eq_some_iff] at found
  exact found.1

/-- The two checks on an instruction, with as many verdicts as there are instructions. -/
theorem structured_of_checks (sameLength : terminates.length = program.length)
    (fetched : program[index]? = some instruction)
    (valid : validateInstruction program.length index instruction = .ok ())
    (terminating : terminatesHere program terminates index = .ok verdict) :
    Structured program.length index instruction := by
  rw [terminatesHere, fetched, okOr, ok_bind] at terminating
  rw [validateInstruction] at valid
  by_cases isLoad : instruction.code = ldWAbs
  · rw [if_pos isLoad, rejectIf_eq_ok, not_or, not_or] at valid
    rw [if_neg (by rw [isLoad]; decide), if_pos (.inl isLoad)] at terminating
    exact .load isLoad (by simpa using valid.2.2) (sameLength ▸ terminationAt_eq_ok terminating)
  by_cases isReturn : instruction.code = retK
  · exact .ret isReturn
  rw [if_neg isReturn] at terminating
  rw [if_neg isLoad] at valid
  by_cases isMask : instruction.code = aluAndK
  · rw [if_pos (.inr isMask)] at terminating
    exact .mask isMask (sameLength ▸ terminationAt_eq_ok terminating)
  rw [if_neg (by tauto)] at valid
  by_cases isJump : instruction.code = jmpJa
  · rw [if_pos isJump, bind_eq_ok] at valid
    obtain ⟨_, -, valid⟩ := valid
    obtain ⟨target, found, -⟩ := bind_eq_ok.mp valid
    obtain ⟨rfl, inside⟩ := checkedTarget_eq_ok found
    exact .jump isJump inside
  rw [if_neg isJump] at valid
  split at valid
  case isFalse => cases valid
  case isTrue isComparison =>
    obtain ⟨test, selected⟩ := Option.isSome_iff_exists.mp isComparison
    obtain ⟨_, ifTrue, valid⟩ := bind_eq_ok.mp valid
    obtain ⟨_, ifFalse, -⟩ := bind_eq_ok.mp valid
    obtain ⟨rfl, insideTrue⟩ := checkedTarget_eq_ok ifTrue
    obtain ⟨rfl, insideFalse⟩ := checkedTarget_eq_ok ifFalse
    exact .branch test selected insideTrue insideFalse

/-- Every instruction was judged, with as many verdicts as there are instructions. -/
theorem judged_of_fold {indices : List Nat} {terminates final}
    (folded : indices.foldlM (fun terminates index => do
      let here ← terminatesHere program terminates index
      return terminates.set index here) terminates = .ok final)
    (sameLength : terminates.length = program.length) :
    ∀ index ∈ indices, ∃ terminates verdict, terminates.length = program.length ∧
      terminatesHere program terminates index = .ok verdict := by
  induction indices generalizing terminates with
  | nil => simp
  | cons first rest ih =>
    rw [List.foldlM_cons] at folded
    obtain ⟨next, judged, folded⟩ := bind_eq_ok.mp folded
    obtain ⟨here, found, isNext⟩ := bind_eq_ok.mp judged
    obtain rfl := pure_eq_ok.mp isNext
    intro index member
    rcases List.mem_cons.mp member with rfl | later
    · exact ⟨terminates, here, sameLength, found⟩
    · exact ih folded (by rw [List.length_set, sameLength]) index later

/-- An accepted program is not empty, and all of its instructions are structured. -/
theorem validateProgram_structured (accepted : validateProgram program = .ok ()) :
    0 < program.length ∧ ∀ index instruction, program[index]? = some instruction →
      Structured program.length index instruction := by
  simp only [validateProgram, bind_eq_ok, rejectIf_eq_ok] at accepted
  obtain ⟨_, nonempty, _, -, _, shapes, _, folded, -⟩ := accepted
  refine ⟨List.length_pos_iff.mpr nonempty, fun index instruction fetched => ?_⟩
  have inside := (List.getElem?_eq_some_iff.mp fetched).1
  obtain ⟨terminates, verdict, sameLength, judged⟩ :=
    judged_of_fold folded List.length_replicate index (by simpa using inside)
  refine structured_of_checks sameLength fetched ?_ judged
  refine forM_eq_ok.mp shapes (instruction, index) ?_
  exact List.mem_zipIdx_iff_getElem?.mpr fetched

end

section
variable {program : List Instruction} {data : SeccompData}

/-- A legal offset is one of a word of the data. -/
theorem load_of_validLoadOffset (data : SeccompData) {offset}
    (valid : validLoadOffset offset = true) : ∃ word, data.load offset = some word := by
  have size : data.bytes.length = 64 := by simp [SeccompData.bytes]
  obtain ⟨aligned, inside⟩ : offset.toNat % 4 = 0 ∧ offset.toNat + 4 ≤ 64 := by
    simp only [validLoadOffset, Bool.or_eq_true, beq_iff_eq, Bool.and_eq_true, decide_eq_true_eq]
      at valid
    rcases valid with (rfl | rfl) | ⟨⟨-, low⟩, aligned⟩
    · decide
    · decide
    · omega
  rw [SeccompData.load, if_pos aligned, readLe, slice, if_pos (size ▸ inside)]
  exact ⟨_, rfl⟩

/-- A structured instruction returns, or goes on at a later instruction. -/
theorem Structured.steps {state : Bpf.State} {instruction}
    (structured : Structured program.length state.pc instruction)
    (fetched : program[state.pc]? = some instruction) :
    (∃ value, step program data.load state = .returned value) ∨
      ∃ next, step program data.load state = .next next ∧ state.pc < next.pc ∧
        next.pc < program.length := by
  cases structured with
  | load code offset follows =>
    obtain ⟨word, loaded⟩ := load_of_validLoadOffset data offset
    exact .inr ⟨_, step_load fetched code loaded, Nat.lt_succ_self _, follows⟩
  | mask code follows =>
    exact .inr ⟨_, step_and fetched code, Nat.lt_succ_self _, follows⟩
  | ret code => exact .inl ⟨_, step_return fetched code⟩
  | jump code inside =>
    exact .inr ⟨_, step_jump fetched code, Nat.lt_add_right _ (Nat.lt_succ_self _), inside⟩
  | branch test selected ifTrue ifFalse =>
    refine .inr ⟨_, step_comparison fetched selected, Nat.lt_add_right _ (Nat.lt_succ_self _),
      ?_⟩
    dsimp only
    split
    · exact ifTrue
    · exact ifFalse

/-- Every instruction of a program is structured. -/
def AllStructured (program : List Instruction) : Prop :=
  ∀ index instruction, program[index]? = some instruction →
    Structured program.length index instruction

variable (structured : AllStructured program)
include structured

/-- A structured program returns or moves ahead. -/
theorem AllStructured.step {state : Bpf.State} (inside : state.pc < program.length) :
    (∃ value, step program data.load state = .returned value) ∨
      ∃ next, step program data.load state = .next next ∧ state.pc < next.pc ∧
        next.pc < program.length :=
  (structured _ _ (List.getElem?_eq_getElem inside)).steps (List.getElem?_eq_getElem inside)

/-- The instructions from a state on are fuel enough for a return. -/
theorem AllStructured.returns {fuel} {state : Bpf.State} (inside : state.pc < program.length)
    (enough : program.length - state.pc ≤ fuel) :
    ∃ value, run program data.load fuel state = some value := by
  induction fuel generalizing state with
  | zero => omega
  | succ fuel ih =>
    rw [run]
    rcases structured.step inside with ⟨value, returned⟩ | ⟨next, moved, forward, still⟩
    · rw [returned]
      exact ⟨value, rfl⟩
    · rw [moved]
      exact ih still (by omega)

/-- Every state which a run reaches is inside the program. -/
theorem AllStructured.inside {first last : Bpf.State} (inside : first.pc < program.length)
    (steps : Bpf.Steps program data.load first last) : last.pc < program.length := by
  induction steps with
  | refl => exact inside
  | head moved _ ih =>
    rcases structured.step inside with ⟨value, returned⟩ | ⟨next, isNext, -, still⟩
    · cases moved.symm.trans returned
    · cases moved.symm.trans isNext
      exact ih still

end

/-- On every system call an accepted program returns in no more steps than it has
instructions, and no state which it reaches is outside of it or faults: there is no jump or
load outside and no unknown code. -/
theorem validateProgram_sound {program : List Instruction}
    (accepted : validateProgram program = .ok ()) (data : SeccompData) :
    (∃ value, execute program data.load = some value) ∧
      ∀ state, Bpf.Steps program data.load ⟨0, 0⟩ state →
        state.pc < program.length ∧ step program data.load state ≠ .fault := by
  obtain ⟨nonempty, structured⟩ := validateProgram_structured accepted
  have all : AllStructured program := structured
  refine ⟨all.returns nonempty (Nat.sub_le _ _), fun state steps => ?_⟩
  have inside := all.inside nonempty steps
  refine ⟨inside, fun faults => ?_⟩
  rcases @AllStructured.step program data all state inside with ⟨_, returned⟩ | ⟨_, moved, -⟩
  · cases faults.symm.trans returned
  · cases faults.symm.trans moved

/-- Load the number of the call, and allow the call if it is zero. -/
def zeroOnly : List Instruction :=
  [⟨Bpf.ldWAbs, 0, 0, 0⟩, ⟨Bpf.jmpJeqK, 0, 1, 0⟩, ⟨Bpf.retK, 0, 0, 0x7fff0000⟩, ⟨Bpf.retK, 0, 0, 0⟩]

theorem validateProgram_sound_zeroOnly :
    validateProgram zeroOnly = .ok () ∧
      ∃ value, execute zeroOnly (SeccompData.load ⟨0, 0, 0, Vector.replicate 6 0⟩) =
        some value := by
  have accepted : validateProgram zeroOnly = .ok () := rfl
  exact ⟨accepted, (validateProgram_sound accepted _).1⟩

end Bangbang.Seccomp
