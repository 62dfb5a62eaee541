import Bangbang.Seccomp.Assembler

/-!
# The policy compiler

Rules are grouped by syscall number, each 64-bit condition is split into tests of
its two halves, and the resulting blocks are reached from one dispatch chain
behind the architecture guard.
-/

namespace Bangbang.Seccomp

open Assembler
open Bpf (jmpJeqK jmpJgtK jmpJgeK)
open Assembler (newLabel load bitwiseAnd returnAction jump branch dispatchEqual)

def auditArchX86_64 : BitVec 32 := 0xc000003e#32
def auditArchAarch64 : BitVec 32 := 0xc00000b7#32
def x32SyscallBit : BitVec 32 := 0x40000000#32
def badArchAction : BitVec 32 := 0x00000000#32

inductive NormalizedOperator where
  | eq
  | ge
  | gt
  | le
  | lt
  | maskedEq (mask : BitVec 64)
  | ne
deriving DecidableEq, Repr

structure NormalizedCondition where
  index : BitVec 8
  operator : NormalizedOperator
  value : BitVec 64
deriving DecidableEq, Repr

structure CompiledRule where
  conditions : List NormalizedCondition
deriving DecidableEq, Repr

structure SyscallBlock where
  number : BitVec 32
  rules : List CompiledRule
  label : Label

def normalizeCondition (condition : Condition) : NormalizedCondition where
  index := condition.index
  operator :=
    match condition.valueLength, condition.operator with
    | .dword, .eq => .maskedEq 0x00000000ffffffff#64
    | _, .eq => .eq
    | _, .ge => .ge
    | _, .gt => .gt
    | _, .le => .le
    | _, .lt => .lt
    | _, .maskedEq mask => .maskedEq mask
    | _, .ne => .ne
  value := condition.value

/-- Compiled rules by syscall number, in ascending order. -/
abbrev GroupedRules := Std.TreeMap (BitVec 32) (List CompiledRule)

/-- Add a rule to the rules of its syscall. A rule without conditions makes all
others of the same syscall superfluous. -/
def accumulate (conditions : List NormalizedCondition) (accumulated : List CompiledRule) :
    List CompiledRule :=
  if accumulated.any (·.conditions.isEmpty) then accumulated
  else if conditions.isEmpty then [⟨conditions⟩]
  else accumulated ++ [⟨conditions⟩]

/-- The conditions which a rule contributes; the basic mode drops them. -/
def ruleConditions (options : CompileOptions) (rule : Rule) : List NormalizedCondition :=
  if options.isBasic then [] else (rule.conditions.getD []).map normalizeCondition

def groupRule (targetArch : TargetArch) (options : CompileOptions) (syscallTable : SyscallTable)
    (grouped : GroupedRules) (rule : Rule) : Except CompileError GroupedRules := do
  let resolution ← okOr (syscallTable.resolve rule.syscall targetArch) .unknownSyscall
  match resolution with
  | .pnr => return grouped
  | .number number =>
    return grouped.alter number fun accumulated =>
      some (accumulate (ruleConditions options rule) (accumulated.getD []))

def groupRules (rules : List Rule) (targetArch : TargetArch) (options : CompileOptions)
    (syscallTable : SyscallTable) : Except CompileError GroupedRules :=
  rules.foldlM (groupRule targetArch options syscallTable) ∅

section
variable (highOffset lowOffset : BitVec 32)

/-- Compare both halves for equality. -/
def emitEquality (highValue lowValue : BitVec 32) (equal different : Label) : Assemble Unit := do
  let compareLow ← newLabel
  load highOffset
  branch jmpJeqK highValue compareLow different
  bind compareLow
  load lowOffset
  branch jmpJeqK lowValue equal different

/-- Compare the high halves, and the low halves with `code` when those agree. -/
def emitOrder (code : BitVec 16) (highValue lowValue : BitVec 32) (greater smaller : Label) :
    Assemble Unit := do
  let highNotGreater ← newLabel
  let compareLow ← newLabel
  load highOffset
  branch jmpJgtK highValue greater highNotGreater
  bind highNotGreater
  branch jmpJeqK highValue compareLow smaller
  bind compareLow
  load lowOffset
  branch code lowValue greater smaller

variable (highValue lowValue : BitVec 32) (matched failed : Label)

def emitEqual : Assemble Unit := emitEquality highOffset lowOffset highValue lowValue matched failed

def emitNotEqual : Assemble Unit :=
  emitEquality highOffset lowOffset highValue lowValue failed matched

def emitGreaterOrEqual : Assemble Unit :=
  emitOrder highOffset lowOffset jmpJgeK highValue lowValue matched failed

def emitGreaterThan : Assemble Unit :=
  emitOrder highOffset lowOffset jmpJgtK highValue lowValue matched failed

def emitLessOrEqual : Assemble Unit :=
  emitOrder highOffset lowOffset jmpJgtK highValue lowValue failed matched

def emitLessThan : Assemble Unit :=
  emitOrder highOffset lowOffset jmpJgeK highValue lowValue failed matched

/-- Load one half and clear the bits outside a mask with some bit set. -/
def loadMasked (offset mask : BitVec 32) : Assemble Unit := do
  load offset
  if mask ≠ BitVec.allOnes 32 then bitwiseAnd mask

def emitMaskedEqual (value mask : BitVec 64) : Assemble Unit := do
  let maskedValue := value &&& mask
  let highMask := (mask >>> 32).setWidth 32
  let lowMask := mask.setWidth 32
  let highValue := (maskedValue >>> 32).setWidth 32
  let lowValue := maskedValue.setWidth 32
  if highMask = 0#32 ∧ lowMask = 0#32 then
    jump matched
  else do
    if highMask ≠ 0#32 then
      let highMatches ← if lowMask = 0#32 then pure matched else newLabel
      loadMasked highOffset highMask
      branch jmpJeqK highValue highMatches failed
      if lowMask ≠ 0#32 then bind highMatches
    if lowMask ≠ 0#32 then
      loadMasked lowOffset lowMask
      branch jmpJeqK lowValue matched failed

end

def emitCondition (condition : NormalizedCondition) (matched failed : Label) : Assemble Unit := do
  let lowOffset := seccompDataArgsOffset + condition.index.toNat * seccompDataArgSize
  (rejectIf (2 ^ 32 ≤ lowOffset) .invalidProgram : Except CompileError Unit)
  let highOffset := lowOffset + 4
  (rejectIf (2 ^ 32 ≤ highOffset) .invalidProgram : Except CompileError Unit)
  let highOffset := BitVec.ofNat 32 highOffset
  let lowOffset := BitVec.ofNat 32 lowOffset
  let highValue := (condition.value >>> 32).setWidth 32
  let lowValue := condition.value.setWidth 32
  match condition.operator with
  | .eq => emitEqual highOffset lowOffset highValue lowValue matched failed
  | .ne => emitNotEqual highOffset lowOffset highValue lowValue matched failed
  | .ge => emitGreaterOrEqual highOffset lowOffset highValue lowValue matched failed
  | .gt => emitGreaterThan highOffset lowOffset highValue lowValue matched failed
  | .le => emitLessOrEqual highOffset lowOffset highValue lowValue matched failed
  | .lt => emitLessThan highOffset lowOffset highValue lowValue matched failed
  | .maskedEq mask => emitMaskedEqual highOffset lowOffset matched failed condition.value mask

/-- Test the conditions of one rule in order; the last one leads to `matched`. -/
def emitRule (matched failed : Label) : List NormalizedCondition → Assemble Unit
  | [] => pure ()
  | condition :: conditions => do
    let hasMore := !conditions.isEmpty
    let conditionMatched ← if hasMore then newLabel else pure matched
    emitCondition condition conditionMatched failed
    if hasMore then bind conditionMatched
    emitRule matched failed conditions

def emitSyscallBlock (rules : List CompiledRule) (matchAction defaultAction : BitVec 32) :
    Assemble Unit := do
  if rules.any (·.conditions.isEmpty) then
    returnAction matchAction
  else do
    let matched ← newLabel
    rules.forM fun rule => do
      let failed ← newLabel
      emitRule matched failed rule.conditions
      bind failed
    returnAction defaultAction
    bind matched
    returnAction matchAction

def auditArch : TargetArch → BitVec 32
  | .x86_64 => auditArchX86_64
  | .aarch64 => auditArchAarch64

/-- Reject numbers of the x32 interface, but not the tracing sentinel. -/
def emitX32Guard : Assemble Unit := do
  let checkTracingSentinel ← newLabel
  let dispatch ← newLabel
  let badAbi ← newLabel
  branch jmpJgeK x32SyscallBit checkTracingSentinel dispatch
  bind checkTracingSentinel
  branch jmpJeqK (BitVec.allOnes 32) dispatch badAbi
  bind badAbi
  returnAction badArchAction
  bind dispatch

def emitArchitectureGuard (targetArch : TargetArch) : Assemble Unit := do
  let validArchitecture ← newLabel
  let badArchitecture ← newLabel
  load seccompDataArchOffset
  branch jmpJeqK (auditArch targetArch) validArchitecture badArchitecture
  bind badArchitecture
  returnAction badArchAction
  bind validArchitecture
  load seccompDataNrOffset
  if targetArch = .x86_64 then emitX32Guard

/-- One block with a fresh label for every group of rules. -/
def newBlocks (groups : List (BitVec 32 × List CompiledRule)) : Assemble (List SyscallBlock) :=
  groups.mapM fun (number, rules) => do
    let label ← newLabel
    return { number, rules, label }

/-- The whole program of a filter: guard, dispatch chain, default, blocks. -/
def emitFilter (grouped : GroupedRules) (targetArch : TargetArch)
    (filterAction defaultAction : BitVec 32) : Assemble Unit := do
  emitArchitectureGuard targetArch
  let blocks ← newBlocks grouped.toList
  blocks.forM fun block => dispatchEqual block.number block.label
  returnAction defaultAction
  blocks.forM fun block => do
    bind block.label
    emitSyscallBlock block.rules filterAction defaultAction

def compileFilter (filter : Filter) (targetArch : TargetArch) (options : CompileOptions)
    (syscallTable : SyscallTable) : Except CompileError (List (BitVec 64)) := do
  let grouped ← groupRules filter.rules targetArch options syscallTable
  let (_, assembler) ←
    (emitFilter grouped targetArch filter.filterAction.encode filter.defaultAction.encode).run
      new
  toWords <$> assembler.finish

end Bangbang.Seccomp
