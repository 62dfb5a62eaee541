import Bangbang.Seccomp.Assembler

/-!
# Emitted code inside the finished program

An emitter only sees the instructions written so far, while its code runs in the
program which `finish` returns. `Linked` states what the finished program keeps
of an assembler; `Emits` states what an emitter's code does in every program its
assembler is linked into. `Emits.bind` composes the statements of two emitters,
so the meaning of each emitter follows the order of its own instructions.
-/

namespace Bangbang.Seccomp

open Assembler Bpf List

/-- One assembler continues another: nothing written is taken back. -/
structure Extends (before after : Assembler) : Prop where
  instructions : before.instructions <+: after.instructions
  fixups : before.fixups ⊆ after.fixups
  labels : ∀ {id position : Nat}, before.labels[id]? = some (some position) →
    after.labels[id]? = some (some position)

theorem Extends.refl (assembler) : Extends assembler assembler :=
  ⟨prefix_rfl, List.Subset.refl _, id⟩

/-- Extensions follow one another. -/
theorem Extends.trans {first second third} (earlier : Extends first second)
    (later : Extends second third) : Extends first third :=
  ⟨earlier.instructions.trans later.instructions, List.Subset.trans earlier.fixups later.fixups,
    fun bound => later.labels (earlier.labels bound)⟩

/-- The finished `program` keeps every instruction of an assembler, its jumps
lead to the positions of their labels, and bound labels have their positions. -/
structure Linked (program : List Instruction) (position : Label → Nat) (assembler : Assembler) :
    Prop where
  kept : ∀ {index : Nat} {instruction : Instruction},
    assembler.instructions[index]? = some instruction →
    instruction.code ≠ Bpf.jmpJa → program[index]? = some instruction
  jumps : ∀ {fixup : Fixup}, fixup ∈ assembler.fixups → ∃ instruction : Instruction,
    program[fixup.instruction]? = some instruction ∧ instruction.code = Bpf.jmpJa ∧
      fixup.instruction + 1 + instruction.k.toNat = position fixup.label
  bound : ∀ {id target : Nat}, assembler.labels[id]? = some (some target) → position ⟨id⟩ = target

variable {program : List Instruction} {before after : Assembler}

/-- What is linked with an assembler is linked with everything it continues. -/
theorem Linked.antitone {position} (linked : Linked program position after)
    (continues : Extends before after) : Linked program position before where
  kept found := by
    obtain ⟨rest, continued⟩ := continues.instructions
    refine linked.kept ?_
    rw [← continued, List.getElem?_append_left (List.getElem?_eq_some_iff.mp found).1, found]
  jumps member := linked.jumps (continues.fixups member)
  bound found := linked.bound (continues.labels found)

section
variable {instructions patched}

/-- What patching one fixup requires and changes. -/
theorem Assembler.patch_eq_ok {labels fixup}
    (result : Assembler.patch labels instructions fixup = .ok patched) :
    ∃ (target : Nat) (instruction : Instruction) (distance : BitVec 32),
      labels[fixup.label.id]? = some (some target) ∧
      instructions[fixup.instruction]? = some instruction ∧ instruction.code = Bpf.jmpJa ∧
      fixup.instruction + 1 + distance.toNat = target ∧
      patched = instructions.set fixup.instruction { instruction with k := distance } := by
  simp only [patch, bind_eq_ok, okOr_eq_ok, rejectIf_eq_ok, pure_eq_ok,
    checkedAdd_eq_some, checkedSub_eq_some, Option.join_eq_some_iff] at result
  obtain ⟨target, found, _, ⟨_, rfl⟩, _, ⟨forward, rfl⟩, _, small, instruction, fetched, _, code,
    rfl⟩ := result
  refine ⟨target, instruction, _, found, fetched, not_not.mp code, ?_, rfl⟩
  rw [BitVec.toNat_ofNat, Nat.mod_eq_of_lt (by omega)]
  omega

variable {labels} {fixups : List Fixup}

/-- Patching distinct fixups leaves every other instruction alone and resolves
each fixup to its label. -/
theorem Assembler.patches_eq_ok
    (result : fixups.foldlM (Assembler.patch labels) instructions = .ok patched)
    (distinct : (fixups.map (·.instruction)).Nodup) :
    (∀ index, index ∉ fixups.map (·.instruction) → patched[index]? = instructions[index]?) ∧
    ∀ fixup ∈ fixups, ∃ (target : Nat) (before after : Instruction),
      labels[fixup.label.id]? = some (some target) ∧
      instructions[fixup.instruction]? = some before ∧ before.code = Bpf.jmpJa ∧
      patched[fixup.instruction]? = some after ∧ after.code = Bpf.jmpJa ∧
      fixup.instruction + 1 + after.k.toNat = target := by
  induction fixups generalizing instructions with
  | nil =>
    simp only [List.foldlM_nil, pure_eq_ok] at result
    simp [result]
  | cons fixup fixups ih =>
    simp only [List.foldlM_cons, bind_eq_ok] at result
    obtain ⟨middle, first, rest⟩ := result
    simp only [List.map_cons, List.nodup_cons] at distinct
    obtain ⟨untouched, resolved⟩ := ih rest distinct.2
    obtain ⟨target, instruction, distance, found, fetched, code, lands, rfl⟩ :=
      Assembler.patch_eq_ok first
    have inside := (List.getElem?_eq_some_iff.mp fetched).1
    constructor
    · intro index absent
      simp only [List.map_cons, List.mem_cons, not_or] at absent
      rw [untouched index absent.2, List.getElem?_set_ne (Ne.symm absent.1)]
    · intro other member
      rcases List.mem_cons.mp member with rfl | later
      · refine ⟨target, instruction, { instruction with k := distance }, found, fetched, code,
          ?_, code, lands⟩
        rw [untouched _ distinct.1, List.getElem?_set_self inside]
      · obtain ⟨target, before, after, found, beforeFetched, rest⟩ := resolved other later
        have different : fixup.instruction ≠ other.instruction := by
          intro same
          exact distinct.1 (same ▸ List.mem_map_of_mem later)
        rw [List.getElem?_set_ne different] at beforeFetched
        exact ⟨target, before, after, found, beforeFetched, rest⟩

end

/-- The position which a finished assembler gives each label. -/
def Assembler.position (assembler : Assembler) (label : Label) : Nat :=
  (assembler.labels[label.id]?.join).getD 0

/-- A finished program is linked with its assembler. -/
theorem Assembler.finish_linked {assembler} (finished : assembler.finish = .ok program) :
    Linked program assembler.position assembler := by
  simp only [finish, bind_eq_ok, pure_eq_ok] at finished
  obtain ⟨_, _, patched, patches, _, _, rfl⟩ := finished
  obtain ⟨untouched, resolved⟩ := patches_eq_ok patches assembler.distinct
  constructor
  case kept =>
    intro index instruction found code
    by_cases patched : index ∈ assembler.fixups.map (·.instruction)
    · obtain ⟨fixup, member, rfl⟩ := mem_map.mp patched
      obtain ⟨_, before, _, _, fetched, isJump, _⟩ := resolved fixup member
      rw [found, Option.some.injEq] at fetched
      exact absurd (fetched ▸ isJump) code
    · rw [untouched index patched, found]
  case jumps =>
    intro fixup member
    obtain ⟨target, _, after, found, _, _, fetched, code, lands⟩ := resolved fixup member
    refine ⟨after, fetched, code, ?_⟩
    rw [lands, position, found]
    rfl
  case bound =>
    intro id target found
    simp [position, found]

/-- A finished program, the data it inspects, and the positions of its labels. -/
structure Image where
  program : List Instruction
  load : Load
  position : Label → Nat

namespace Image

/-- The image runs from one state to another. -/
abbrev Steps (image : Image) (first last : Bpf.State) : Prop :=
  Bpf.Steps image.program image.load first last

/-- The image returns a value. -/
abbrev Returns (image : Image) (state : Bpf.State) (value : BitVec 32) : Prop :=
  Bpf.Returns image.program image.load state value

end Image

/-- A successful sequence of two emitters passes through one assembler between
them. -/
theorem emit_bind_eq_ok {α β : Type} {first} {rest : α → Assemble β} {result : β} :
    (first >>= rest) before = .ok (result, after) ↔ ∃ value middle,
      first before = .ok (value, middle) ∧ rest value middle = .ok (result, after) := by
  constructor
  · intro emitted
    obtain ⟨⟨value, middle⟩, one, two⟩ := bind_eq_ok.mp emitted
    exact ⟨value, middle, one, two⟩
  · rintro ⟨value, middle, one, two⟩
    exact bind_eq_ok.mpr ⟨(value, middle), one, two⟩

/-- What an emitter's code does wherever it is linked: `code start stop result`
relates the positions before and after the emitted instructions. -/
structure Emits {α : Type} (image : Image) (emitter : Assemble α)
    (code : Nat → Nat → α → Prop) : Prop where
  grows : ∀ {before after result}, emitter before = .ok (result, after) → Extends before after
  runs : ∀ {before after result}, emitter before = .ok (result, after) →
    Linked image.program image.position after →
    code before.instructions.length after.instructions.length result

namespace Emits

variable {α β : Type} {image : Image}

/-- Weaker code is emitted as well. -/
theorem mono {emitter} {code weaker : Nat → Nat → α → Prop} (emits : Emits image emitter code)
    (weaken : ∀ start stop result, code start stop result → weaker start stop result) :
    Emits image emitter weaker where
  grows := emits.grows
  runs emitted linked := weaken _ _ _ (emits.runs emitted linked)

theorem pure (result : α) :
    Emits image (Pure.pure result : Assemble α)
      (fun start stop value => start = stop ∧ result = value) where
  grows emitted := by
    cases emitted
    exact Extends.refl _
  runs emitted _ := by
    cases emitted
    exact ⟨rfl, rfl⟩

variable {rest : α → Assemble β} {restCode : α → Nat → Nat → β → Prop}
  {code : Nat → Nat → α → Prop} {first}

/-- Compose two emitters; the second is described for the results which the
first can return. -/
theorem bindOf {good : α → Prop} (emits : Emits image first code)
    (returns : ∀ {before after value}, first before = .ok (value, after) → good value)
    (restEmits : ∀ value, good value → Emits image (rest value) (restCode value)) :
    Emits image (first >>= rest) fun start stop result =>
      ∃ value middle, code start middle value ∧ good value ∧ restCode value middle stop result where
  grows emitted := by
    obtain ⟨value, middle, firstEmitted, restEmitted⟩ := emit_bind_eq_ok.mp emitted
    have rest := restEmits value (returns firstEmitted)
    exact (emits.grows firstEmitted).trans (rest.grows restEmitted)
  runs emitted linked := by
    obtain ⟨value, middle, firstEmitted, restEmitted⟩ := emit_bind_eq_ok.mp emitted
    have rest := restEmits value (returns firstEmitted)
    have middleLinked := linked.antitone (rest.grows restEmitted)
    exact ⟨value, _, emits.runs firstEmitted middleLinked, returns firstEmitted,
      rest.runs restEmitted linked⟩

/-- A sequence emits its parts one after the other. -/
theorem bind (emits : Emits image first code)
    (restEmits : ∀ value, Emits image (rest value) (restCode value)) :
    Emits image (first >>= rest) fun start stop result =>
      ∃ value middle, code start middle value ∧ restCode value middle stop result :=
  (emits.bindOf (fun _ => trivial) fun value _ => restEmits value).mono
    fun _ _ _ ⟨value, middle, first, _, rest⟩ => ⟨value, middle, first, rest⟩

/-- A value computed beside the assembler may reject the program and emits
nothing. -/
theorem afterLift {computed : Except CompileError α} {code : Nat → Nat → β → Prop}
    (restEmits : ∀ value, computed = .ok value → Emits image (rest value) code) :
    Emits image ((computed : Assemble α) >>= rest) code := by
  cases computed with
  | error error => exact ⟨nofun, nofun⟩
  | ok value =>
    obtain ⟨grows, runs⟩ := restEmits value rfl
    exact ⟨grows, runs⟩

/-- Emitting the items of a list in order: `whole` describes the code of a list
whose first item is followed by the code of the others. -/
theorem forM {emitter} (code : α → Nat → Nat → Unit → Prop) (whole : List α → Nat → Nat → Prop)
    (none : ∀ start, whole [] start start)
    (more : ∀ item items start middle stop, code item start middle () →
      whole items middle stop → whole (item :: items) start stop) {items}
    (each : ∀ item ∈ items, Emits image (emitter item) (code item)) :
    Emits image (items.forM emitter) (fun start stop _ => whole items start stop) := by
  induction items with
  | nil =>
    refine (Emits.pure ()).mono ?_
    rintro start _ _ ⟨rfl, _⟩
    exact none start
  | cons item items ih =>
    have rest := ih fun other member => each other (mem_cons_of_mem _ member)
    refine ((each item mem_cons_self).bind fun _ => rest).mono ?_
    rintro start stop _ ⟨_, middle, first, rest⟩
    exact more item items start middle stop first rest

theorem newLabel : Emits image Assembler.newLabel (fun start stop _ => start = stop) where
  grows emitted := by
    cases emitted
    refine ⟨List.prefix_rfl, List.Subset.refl _, fun {id target} found => ?_⟩
    have inside := (List.getElem?_eq_some_iff.mp found).1
    simp only [List.getElem?_append_left inside, found]
  runs emitted _ := by
    cases emitted
    rfl

/-- A bound label stands at the current position. -/
theorem bindLabel (label) :
    Emits image (Assembler.bind label)
      (fun start stop _ => start = stop ∧ image.position label = start) where
  grows {before after result} emitted := by
    simp only [Assembler.bind, bind_eq_ok, okOr_eq_ok, rejectIf_eq_ok, pure_eq_ok] at emitted
    obtain ⟨slot, found, _, free, made⟩ := emitted
    cases made
    refine ⟨List.prefix_rfl, List.Subset.refl _, fun {id target} bound => ?_⟩
    have different : label.id ≠ id := by
      rintro rfl
      rw [found, Option.some.injEq] at bound
      simp [bound] at free
    simp only [List.getElem?_set_ne different, bound]
  runs {before after result} emitted linked := by
    simp only [Assembler.bind, bind_eq_ok, okOr_eq_ok, rejectIf_eq_ok, pure_eq_ok] at emitted
    obtain ⟨slot, found, _, free, made⟩ := emitted
    cases made
    have inside := (List.getElem?_eq_some_iff.mp found).1
    exact ⟨rfl, linked.bound (List.getElem?_set_self inside)⟩

/-- An instruction which is not patched is found in place. -/
theorem push {instruction} (code : instruction.code ≠ Bpf.jmpJa) :
    Emits image (Assembler.push instruction)
      (fun start stop _ => image.program[start]? = some instruction ∧ stop = start + 1) where
  grows emitted := by
    cases emitted
    exact ⟨prefix_append _ _, List.Subset.refl _, id⟩
  runs emitted linked := by
    cases emitted
    exact ⟨linked.kept (by simp) code, by simp⟩

theorem load {offset word} (loaded : image.load offset = some word) :
    Emits image (Assembler.load offset)
      (fun start stop _ => ∀ acc, image.Steps ⟨start, acc⟩ ⟨stop, word⟩) := by
  refine (push (by simp [Instruction.statement, ldWAbs, jmpJa])).mono fun start stop _ found acc => ?_
  obtain ⟨fetched, rfl⟩ := found
  exact .single (step_load fetched rfl loaded)

theorem bitwiseAnd (mask) :
    Emits image (Assembler.bitwiseAnd mask)
      (fun start stop _ => ∀ acc, image.Steps ⟨start, acc⟩ ⟨stop, acc &&& mask⟩) := by
  refine (push (by simp [Instruction.statement, aluAndK, jmpJa])).mono fun start stop _ found acc => ?_
  obtain ⟨fetched, rfl⟩ := found
  have masked : step image.program image.load ⟨start, acc⟩ = _ := step_and fetched rfl
  exact .single masked

theorem returnAction (action) :
    Emits image (Assembler.returnAction action)
      (fun start _ _ => ∀ acc, image.Returns ⟨start, acc⟩ action) := by
  refine (push (by simp [Instruction.statement, retK, jmpJa])).mono fun start stop _ found acc => ?_
  have returned : step image.program image.load ⟨start, acc⟩ = _ :=
    step_return found.1 rfl
  exact .of_step returned

/-- A jump continues at its label. -/
theorem jump (label) :
    Emits image (Assembler.jump label)
      (fun start stop _ => stop = start + 1 ∧
        ∀ acc, image.Steps ⟨start, acc⟩ ⟨image.position label, acc⟩) where
  grows emitted := by
    cases emitted
    exact ⟨prefix_append _ _, subset_append_left _ _, id⟩
  runs {before after result} emitted linked := by
    cases emitted
    obtain ⟨instruction, fetched, code, lands⟩ :=
      linked.jumps (mem_append_right _ (mem_singleton.mpr rfl))
    refine ⟨by simp, fun acc => ?_⟩
    rw [← lands]
    exact .single (step_jump fetched code)

variable {opcode} {test : BitVec 32 → BitVec 32 → Bool}

/-- A comparison skips the next instruction exactly when it fails. -/
theorem conditional (selected : Bpf.comparison opcode = some test) (k) :
    Emits image (Assembler.push (Instruction.conditional opcode k))
      (fun start stop _ => stop = start + 1 ∧ ∀ acc,
        image.Steps ⟨start, acc⟩ ⟨if test acc k then stop else stop + 1, acc⟩) := by
  have notJump : (Instruction.conditional opcode k).code ≠ Bpf.jmpJa := by
    rintro (rfl : opcode = _)
    simp [Bpf.comparison, Bpf.jmpJa, Bpf.jmpJeqK, Bpf.jmpJgtK, Bpf.jmpJgeK] at selected
  refine (push notJump).mono fun start stop _ found => ?_
  obtain ⟨fetched, rfl⟩ := found
  refine ⟨rfl, fun acc => .single ?_⟩
  rw [Bpf.step_comparison fetched selected]
  cases taken : test acc k <;> simp [Instruction.conditional, taken]

/-- A branch continues at the label of its outcome. -/
theorem branch (selected : Bpf.comparison opcode = some test) (k)
    (ifTrue ifFalse) :
    Emits image (Assembler.branch opcode k ifTrue ifFalse)
      (fun start _ _ => ∀ acc, image.Steps ⟨start, acc⟩
        ⟨image.position (if test acc k then ifTrue else ifFalse), acc⟩) := by
  refine ((conditional selected k).bind fun _ => (jump ifTrue).bind fun _ => jump ifFalse).mono ?_
  rintro start stop _ ⟨_, first, ⟨_, compared⟩, _, second, ⟨rfl, jumpTrue⟩, _, jumpFalse⟩ acc
  refine (compared acc).trans ?_
  cases test acc k
  · exact jumpFalse acc
  · exact jumpTrue acc

/-- A dispatch continues at its label when the number is equal. -/
theorem dispatchEqual (k) (ifEqual) :
    Emits image (Assembler.dispatchEqual k ifEqual)
      (fun start stop _ => ∀ acc, image.Steps ⟨start, acc⟩
        ⟨if acc == k then image.position ifEqual else stop, acc⟩) := by
  refine ((conditional rfl k).bind fun _ => jump ifEqual).mono ?_
  rintro start stop _ ⟨_, middle, ⟨_, compared⟩, rfl, jumped⟩ acc
  refine (compared acc).trans ?_
  cases acc == k
  · exact .refl _
  · exact jumped acc

end Emits
end Bangbang.Seccomp
