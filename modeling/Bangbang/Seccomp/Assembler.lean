import Bangbang.Seccomp.Policy

/-!
# The label assembler

A forward-only assembler. Branch targets are labels; every transfer to a label
is emitted as an unconditional jump whose distance is patched by `finish`. The
assembler carries the two facts which make patching unambiguous: each fixup
names an emitted instruction, and no two fixups name the same one.
-/

namespace Bangbang.Seccomp

open Bpf (Instruction)

def maxBpfInstructions : Nat := 4096

def seccompDataNrOffset : BitVec 32 := 0#32
def seccompDataArchOffset : BitVec 32 := 4#32
def seccompDataArgsOffset : Nat := 16
def seccompDataArgSize : Nat := 8

namespace Instruction

section
variable (code : BitVec 16) (k : BitVec 32)

def statement : Instruction := ⟨code, 0, 0, k⟩

def conditional : Instruction := ⟨code, 0, 1, k⟩

end

/-- The number whose little-endian bytes have the `sock_filter` layout. -/
def toU64 (instruction : Instruction) : BitVec 64 :=
  instruction.code.setWidth 64 ||| instruction.jt.setWidth 64 <<< 16 |||
    instruction.jf.setWidth 64 <<< 24 ||| instruction.k.setWidth 64 <<< 32

/-- The instruction which the kernel reads from one word. -/
def ofU64 (word : BitVec 64) : Instruction :=
  ⟨word.setWidth 16, (word >>> 16).setWidth 8, (word >>> 24).setWidth 8, (word >>> 32).setWidth 32⟩

/-- The word layout loses nothing. -/
@[simp] theorem ofU64_toU64 (instruction : Instruction) :
    ofU64 (toU64 instruction) = instruction := by
  obtain ⟨code, jt, jf, k⟩ := instruction
  simp only [ofU64, toU64, Bpf.Instruction.mk.injEq]
  refine ⟨?_, ?_, ?_, ?_⟩
  all_goals ext position inside
  · simp
  all_goals
    simp
    grind

end Instruction

def toWords (program : List Instruction) : List (BitVec 64) := program.map Instruction.toU64

/-- The program which the kernel executes for an emitted artifact. -/
def ofWords (words : List (BitVec 64)) : List Instruction := words.map Instruction.ofU64

@[simp] theorem ofWords_toWords (program : List Instruction) :
    ofWords (toWords program) = program := by
  simp [ofWords, toWords, Function.comp_def]

structure Label where
  id : Nat
deriving DecidableEq, Repr

structure Fixup where
  instruction : Nat
  label : Label
deriving DecidableEq, Repr

structure Assembler where
  instructions : List Instruction
  labels : List (Option Nat)
  fixups : List Fixup
  inside : ∀ fixup ∈ fixups, fixup.instruction < instructions.length
  distinct : (fixups.map (·.instruction)).Nodup

/-- An emitter threads the assembler and may reject the program. -/
abbrev Assemble := StateT Assembler (Except CompileError)

namespace Assembler

def new : Assembler := ⟨[], [], [], by simp, by simp⟩

def newLabel : Assemble Label := fun assembler =>
  let id := assembler.labels.length
  .ok (⟨id⟩, { assembler with labels := assembler.labels ++ [none] })

def bind (label : Label) : Assemble Unit := fun assembler => do
  let position := assembler.instructions.length
  let slot ← okOr assembler.labels[label.id]? .invalidProgram
  rejectIf slot.isSome .invalidProgram
  return ((), { assembler with labels := assembler.labels.set label.id (some position) })

/-- Append one instruction which needs no patching. -/
def push (instruction : Instruction) : Assemble Unit := fun assembler =>
  .ok ((), { assembler with
    instructions := assembler.instructions ++ [instruction]
    inside := fun fixup member => by
      have := assembler.inside fixup member
      simp only [List.length_append, List.length_singleton]
      omega })

def load (offset : BitVec 32) : Assemble Unit := push (Instruction.statement Bpf.ldWAbs offset)

def bitwiseAnd (mask : BitVec 32) : Assemble Unit := push (Instruction.statement Bpf.aluAndK mask)

def returnAction (action : BitVec 32) : Assemble Unit :=
  push (Instruction.statement Bpf.retK action)

def jump (label : Label) : Assemble Unit := fun assembler =>
  let instruction := assembler.instructions.length
  .ok ((), { assembler with
    instructions := assembler.instructions ++ [Instruction.statement Bpf.jmpJa 0]
    fixups := assembler.fixups ++ [⟨instruction, label⟩]
    inside := fun fixup member => by
      rcases List.mem_append.mp member with earlier | last
      · have := assembler.inside fixup earlier
        simp only [List.length_append, List.length_singleton]
        omega
      · simp [List.mem_singleton.mp last, instruction]
    distinct := by
      -- Every earlier fixup names an instruction before the one appended here.
      rw [List.map_append, List.nodup_append]
      refine ⟨assembler.distinct, by simp, ?_⟩
      rintro _ earlier _ last rfl
      obtain ⟨fixup, member, named⟩ := List.mem_map.mp earlier
      have := assembler.inside fixup member
      simp only [List.map_cons, List.map_nil, List.mem_singleton] at last
      omega })

/-- A comparison whose two one-byte branches select adjacent long jumps. -/
def branch (code : BitVec 16) (k : BitVec 32) (ifTrue ifFalse : Label) : Assemble Unit := do
  push (Instruction.conditional code k)
  jump ifTrue
  jump ifFalse

/-- The compact dispatch shape: equality falls into a long jump and inequality
skips it. -/
def dispatchEqual (k : BitVec 32) (ifEqual : Label) : Assemble Unit := do
  push (Instruction.conditional Bpf.jmpJeqK k)
  jump ifEqual

/-- Resolve one fixup against the final label positions. -/
def patch (labels : List (Option Nat)) (instructions : List Instruction) (fixup : Fixup) :
    Except CompileError (List Instruction) := do
  let target ← okOr labels[fixup.label.id]?.join .invalidProgram
  let next ← okOr (checkedAdd fixup.instruction 1) .invalidProgram
  let distance ← okOr (checkedSub target next) .invalidProgram
  rejectIf (2 ^ 32 ≤ distance) .invalidProgram
  let instruction ← okOr instructions[fixup.instruction]? .invalidProgram
  rejectIf (instruction.code ≠ Bpf.jmpJa) .invalidProgram
  return instructions.set fixup.instruction { instruction with k := BitVec.ofNat 32 distance }

end Assembler

section

def validLoadOffset (offset : BitVec 32) : Bool :=
  offset == seccompDataNrOffset || offset == seccompDataArchOffset ||
    (seccompDataArgsOffset ≤ offset.toNat && offset.toNat ≤ 60 && offset.toNat % 4 == 0)

variable (length index : Nat) (program : List Instruction) (terminates : List Bool)

def checkedTarget (offset : Nat) : Except CompileError Nat := do
  let target ← okOr ((checkedAdd index 1).bind (checkedAdd · offset)) .invalidProgram
  rejectIf (length ≤ target) .invalidProgram
  return target

def terminationAt (index : Nat) : Except CompileError Bool :=
  okOr terminates[index]? .invalidProgram

/-- The shape of one instruction, with every jump target inside the program. -/
def validateInstruction (instruction : Instruction) : Except CompileError Unit :=
  if instruction.code = Bpf.ldWAbs then
    rejectIf (instruction.jt ≠ 0 ∨ instruction.jf ≠ 0 ∨ !validLoadOffset instruction.k)
      .invalidProgram
  else if instruction.code = Bpf.aluAndK ∨ instruction.code = Bpf.retK then
    rejectIf (instruction.jt ≠ 0 ∨ instruction.jf ≠ 0) .invalidProgram
  else if instruction.code = Bpf.jmpJa then do
    rejectIf (instruction.jt ≠ 0 ∨ instruction.jf ≠ 0) .invalidProgram
    let _ ← checkedTarget length index instruction.k.toNat
  else if (Bpf.comparison instruction.code).isSome then do
    let _ ← checkedTarget length index instruction.jt.toNat
    let _ ← checkedTarget length index instruction.jf.toNat
  else .error .invalidProgram

/-- Whether every path from one instruction returns, given the verdicts on the
instructions after it. -/
def terminatesHere (index : Nat) : Except CompileError Bool := do
  let instruction ← okOr program[index]? .invalidProgram
  if instruction.code = Bpf.retK then return true
  else if instruction.code = Bpf.ldWAbs ∨ instruction.code = Bpf.aluAndK then
    terminationAt terminates (index + 1)
  else if instruction.code = Bpf.jmpJa then do
    let target ← checkedTarget program.length index instruction.k.toNat
    terminationAt terminates target
  else if (Bpf.comparison instruction.code).isSome then do
    let trueTarget ← checkedTarget program.length index instruction.jt.toNat
    let falseTarget ← checkedTarget program.length index instruction.jf.toNat
    if ← terminationAt terminates trueTarget then terminationAt terminates falseTarget
    else return false
  else .error .invalidProgram

def validateProgram : Except CompileError Unit := do
  rejectIf (program = []) .invalidProgram
  rejectIf (maxBpfInstructions < program.length) .programTooLarge
  program.zipIdx.forM fun (instruction, index) =>
    validateInstruction program.length index instruction
  -- The verdicts are filled in from the last instruction to the first.
  let terminates ← (List.range program.length).reverse.foldlM (fun terminates index => do
      let here ← terminatesHere program terminates index
      return terminates.set index here)
    (List.replicate program.length false)
  rejectIf (terminates.any (!·)) .invalidProgram

end

def Assembler.finish (assembler : Assembler) : Except CompileError (List Instruction) := do
  rejectIf (maxBpfInstructions < assembler.instructions.length) .programTooLarge
  let program ← assembler.fixups.foldlM (Assembler.patch assembler.labels) assembler.instructions
  validateProgram program
  return program

end Bangbang.Seccomp
