import Bangbang.Base.Table
import Bangbang.Base.Bytes
import Bangbang.Bpf.Machine

/-!
# Seccomp policies and their meaning

The parsed policy shape, the syscall-name table, and the kernel data a filter
inspects. `Filter.decision` states what a filter is for, independently of any
generated code: which action a system call receives on one target.
-/

namespace Bangbang.Seccomp

/-- Stable compilation failure category. -/
inductive CompileError where
  | inputTooLarge
  | invalidJson
  | duplicateObjectKey
  | invalidSchema
  | invalidThreadCategories
  | tooManyRules
  | tooManyConditions
  | invalidArgumentIndex
  | identicalActions
  | unknownSyscall
  | invalidEmbeddedSyscallTable
  | programTooLarge
  | invalidProgram
  | invalidTargetArchitecture
deriving DecidableEq, Repr

inductive TargetArch where
  | x86_64
  | aarch64
deriving DecidableEq, Repr

structure CompileOptions where
  basic : Bool
deriving DecidableEq, Repr

def CompileOptions.isBasic (options : CompileOptions) : Bool := options.basic

inductive CompareOperator where
  | eq
  | ge
  | gt
  | le
  | lt
  | maskedEq (mask : BitVec 64)
  | ne
deriving DecidableEq, Repr

inductive ArgumentLength where
  | dword
  | qword
deriving DecidableEq, Repr

structure Condition where
  index : BitVec 8
  operator : CompareOperator
  value : BitVec 64
  valueLength : ArgumentLength
deriving DecidableEq, Repr

structure Rule where
  syscall : String
  conditions : Option (List Condition)
deriving DecidableEq, Repr

inductive Action where
  | allow
  | errno (value : BitVec 16)
  | killThread
  | killProcess
  | log
  | trace (value : BitVec 16)
  | trap
deriving DecidableEq, Repr

def Action.encode : Action → BitVec 32
  | .allow => 0x7fff0000#32
  | .errno value => 0x00050000#32 ||| value.setWidth 32
  | .killThread => 0x00000000#32
  | .killProcess => 0x80000000#32
  | .log => 0x7ffc0000#32
  | .trace value => 0x7ff00000#32 ||| value.setWidth 32
  | .trap => 0x00030000#32

structure Filter where
  (defaultAction filterAction : Action)
  rules : List Rule
deriving DecidableEq, Repr

/-- What a syscall name denotes on one target: a number, or a name which the
target knows but does not implement. -/
inductive Resolution where
  | number (number : BitVec 32)
  | pnr
deriving DecidableEq, Repr

structure Entry where
  name : String
  (x86_64 aarch64 : Resolution)
deriving DecidableEq, Repr

/-- Syscall names in ascending order with their numbers on both targets. -/
structure SyscallTable where
  entries : List Entry
deriving DecidableEq, Repr

def SyscallTable.resolve (table : SyscallTable) (name : String) (arch : TargetArch) :
    Option Resolution := do
  let index ← binarySearchBy table.entries fun entry => compare entry.name name
  let entry ← table.entries[index]?
  match arch with
  | .x86_64 => some entry.x86_64
  | .aarch64 => some entry.aarch64

/-- The kernel's record of one system call. -/
structure SeccompData where
  (nr arch : BitVec 32)
  instructionPointer : BitVec 64
  args : Vector (BitVec 64) 6

namespace SeccompData

variable (data : SeccompData)

/-- The record's little-endian memory image. -/
def bytes : List UInt8 :=
  [leBytes 4 data.nr.toNat, leBytes 4 data.arch.toNat,
    leBytes 8 data.instructionPointer.toNat].flatten ++
    data.args.toList.flatMap fun arg => leBytes 8 arg.toNat

/-- The aligned word load which a seccomp program performs on its data. -/
def load : Bpf.Load := fun offset =>
  if offset.toNat % 4 = 0 then (readLe data.bytes offset.toNat 4).map (BitVec.ofNat 32) else none

/-- One argument; only the indices below six denote one. -/
def arg (index : Nat) : BitVec 64 := if inside : index < 6 then data.args[index] else 0

end SeccompData

/-- The meaning of one argument condition. A double-word equality inspects the
low half alone; every other operator is unsigned and 64 bits wide. -/
def Condition.holds (data : SeccompData) (condition : Condition) : Bool :=
  let arg := data.arg condition.index.toNat
  let value := condition.value
  match condition.operator, condition.valueLength with
  | .eq, .dword => arg.setWidth 32 == value.setWidth 32
  | .eq, .qword => arg == value
  | .ge, _ => value.ule arg
  | .gt, _ => value.ult arg
  | .le, _ => arg.ule value
  | .lt, _ => arg.ult value
  | .maskedEq mask, _ => arg &&& mask == value &&& mask
  | .ne, _ => arg != value

/-- A rule applies to a system call when its name denotes that call on the
target and, unless the basic mode drops them, all of its conditions hold. -/
def Rule.applies (table : SyscallTable) (target : TargetArch) (options : CompileOptions)
    (data : SeccompData) (rule : Rule) : Bool :=
  table.resolve rule.syscall target == some (.number data.nr) &&
    (options.isBasic || (rule.conditions.getD []).all (Condition.holds data))

/-- The kernel's audit identity of each target. -/
def TargetArch.audit : TargetArch → BitVec 32
  | .x86_64 => 0xc000003e#32
  | .aarch64 => 0xc00000b7#32

/-- A system call made through an interface the target does not admit: another
architecture, or on x86_64 a number in the x32 range other than the tracing
sentinel. -/
def SeccompData.foreign (target : TargetArch) (data : SeccompData) : Bool :=
  data.arch != target.audit ||
    (target == .x86_64 && (0x40000000#32).ule data.nr && data.nr != 0xffffffff#32)

/-- The action which a filter prescribes for one system call. -/
def Filter.decision (filter : Filter) (table : SyscallTable) (target : TargetArch)
    (options : CompileOptions) (data : SeccompData) : Action :=
  if data.foreign target then .killThread
  else if filter.rules.any (Rule.applies table target options data) then filter.filterAction
  else filter.defaultAction

namespace SeccompData

variable (data : SeccompData)

/-- A load returns the little-endian word which the image holds at an aligned
offset. -/
theorem load_of_slice {offset value} (aligned : offset % 4 = 0)
    (found : slice data.bytes offset 4 = some (leBytes 4 value)) :
    data.load (BitVec.ofNat 32 offset) = some (BitVec.ofNat 32 value) := by
  have bound := (slice_eq_some_iff.mp found).1
  have small : data.bytes.length = 64 := by
    simp [bytes]
  have position : (BitVec.ofNat 32 offset).toNat = offset := by
    rw [BitVec.toNat_ofNat]
    omega
  have loaded : readLe data.bytes offset 4 = some (value % 2 ^ 32) := by
    rw [readLe_eq_some_iff]
    refine ⟨Nat.mod_lt _ (by decide), ?_⟩
    rw [found]
    exact congrArg some (leBytes_mod 4 value).symm
  simp only [load, position, aligned, if_true, loaded, Option.map_some]
  congr 1
  apply BitVec.eq_of_toNat_eq
  simp

/-- The three fields before the arguments. -/
theorem slice_header {index field}
    (found : [leBytes 4 data.nr.toNat, leBytes 4 data.arch.toNat,
      leBytes 8 data.instructionPointer.toNat][index]? = some field) :
    slice data.bytes
      (([leBytes 4 data.nr.toNat, leBytes 4 data.arch.toNat,
        leBytes 8 data.instructionPointer.toNat].take index).map List.length).sum field.length =
      some field :=
  slice_flatten found _

theorem load_nr : data.load 0#32 = some data.nr := by
  have found : slice data.bytes 0 4 = some (leBytes 4 data.nr.toNat) := by
    simpa using data.slice_header (show _[0]? = some _ from rfl)
  simpa using data.load_of_slice (by decide) found

theorem load_arch : data.load 4#32 = some data.arch := by
  have found : slice data.bytes 4 4 = some (leBytes 4 data.arch.toNat) := by
    simpa using data.slice_header (show _[1]? = some _ from rfl)
  simpa using data.load_of_slice (by decide) found

/-- An argument's eight bytes follow the sixteen header bytes and the
arguments before it. -/
theorem slice_arg {index} (inside : index < 6) :
    slice data.bytes (16 + index * 8) 8 = some (leBytes 8 (data.arg index).toNat) := by
  have header : [leBytes 4 data.nr.toNat, leBytes 4 data.arch.toNat,
      leBytes 8 data.instructionPointer.toNat].flatten.length = 16 := by
    simp
  have found : data.args.toList[index]? = some (data.arg index) := by
    simp [arg, inside]
  have located := slice_records (fun arg : BitVec 64 => length_leBytes 8 arg.toNat) found []
  rw [List.append_nil] at located
  rw [bytes, ← header, slice_append_right, located]

/-- Both halves of an argument's image. -/
theorem slice_arg_halves {index} (inside : index < 6) :
    slice data.bytes (16 + index * 8) 4 = some (leBytes 4 (data.arg index).toNat) ∧
      slice data.bytes (16 + index * 8 + 4) 4 =
        some (leBytes 4 ((data.arg index).toNat / 2 ^ 32)) := by
  have whole := data.slice_arg inside
  rw [show leBytes 8 (data.arg index).toNat = _ from leBytes_add 4 4 _] at whole
  simpa using slice_split whole

/-- The low half of an argument stands at the argument's own offset. -/
theorem load_low {index} (inside : index < 6) :
    data.load (BitVec.ofNat 32 (16 + index * 8)) = some ((data.arg index).setWidth 32) := by
  rw [data.load_of_slice (by omega) (data.slice_arg_halves inside).1]
  simp

/-- The high half of an argument stands four bytes after the low half. -/
theorem load_high {index} (inside : index < 6) :
    data.load (BitVec.ofNat 32 (16 + index * 8 + 4)) =
      some ((data.arg index >>> 32).setWidth 32) := by
  rw [data.load_of_slice (by omega) (data.slice_arg_halves inside).2]
  congr 1
  apply BitVec.eq_of_toNat_eq
  simp [Nat.shiftRight_eq_div_pow]

end SeccompData
end Bangbang.Seccomp
