import Bangbang.Seccomp.Correctness
import Bangbang.Seccomp.Validation

/-!
# Lowered programs are valid

`Sound` is what the emitters keep of an assembler: every instruction has a legal shape, and
every jump stands before the position of its label. An emitter is described by the labels
which are open before and after it (`Emission`), so that a label is bound once, by the
emitter which made it. Whatever the emitters leave without an open label is accepted by
`finish`, unless it is too long.
-/

namespace Bangbang.Seccomp

open Bpf Instruction List

/-- One instruction as the emitters write it. -/
inductive Shaped (instructions : List Instruction) (fixups : List Fixup) (index : Nat) :
    Instruction → Prop where
  | load {offset} (legal : validLoadOffset offset = true) :
      Shaped instructions fixups index (Instruction.statement Bpf.ldWAbs offset)
  | mask (mask : BitVec 32) :
      Shaped instructions fixups index (Instruction.statement Bpf.aluAndK mask)
  | ret (action : BitVec 32) :
      Shaped instructions fixups index (Instruction.statement Bpf.retK action)
  | jump (patched : index ∈ fixups.map (·.instruction)) :
      Shaped instructions fixups index (Instruction.statement Bpf.jmpJa 0)
  | branch {code} {test} (k : BitVec 32)
      (selected : Bpf.comparison code = some test)
      (followed : instructions[index + 1]? = some (Instruction.statement Bpf.jmpJa 0)) :
      Shaped instructions fixups index (Instruction.conditional code k)

/-- An instruction keeps its shape as the program grows. -/
theorem Shaped.mono {instructions more fixups others index instruction}
    (shaped : Shaped instructions fixups index instruction) (longer : instructions <+: more)
    (further : fixups ⊆ others) : Shaped more others index instruction := by
  cases shaped with
  | load legal => exact .load legal
  | mask => exact .mask _
  | ret => exact .ret _
  | jump patched => exact .jump (map_subset _ further patched)
  | branch k selected followed =>
    obtain ⟨rest, rfl⟩ := longer
    refine .branch k selected ?_
    rw [List.getElem?_append_left (List.getElem?_eq_some_iff.mp followed).1, followed]

/-- The labels which have no position yet. -/
def Assembler.openLabels (assembler : Assembler) : Set Label :=
  { label | assembler.labels[label.id]? = some none }

theorem Assembler.mem_openLabels {assembler : Assembler} {label} :
    label ∈ assembler.openLabels ↔ assembler.labels[label.id]? = some none := Iff.rfl

/-- What every emitter keeps. -/
structure Sound (assembler : Assembler) : Prop where
  shapes : ∀ index instruction, assembler.instructions[index]? = some instruction →
    Shaped assembler.instructions assembler.fixups index instruction
  positions : ∀ {id position : Nat}, assembler.labels[id]? = some (some position) →
    position ≤ assembler.instructions.length
  jumps : ∀ fixup ∈ assembler.fixups,
    assembler.instructions[fixup.instruction]? = some (Instruction.statement Bpf.jmpJa 0) ∧
      ∃ slot, assembler.labels[fixup.label.id]? = some slot ∧
        ∀ position ∈ slot, fixup.instruction < position

/-- The last instruction is a return, and nothing is bound after it. -/
structure Sealed (assembler : Assembler) : Prop where
  returns : ∃ action, assembler.instructions.getLast? = some (Instruction.statement Bpf.retK action)
  positions : ∀ {id position : Nat}, assembler.labels[id]? = some (some position) →
    position < assembler.instructions.length

theorem Sound.new : Sound Assembler.new :=
  ⟨by simp [Assembler.new], by simp [Assembler.new], by simp [Assembler.new]⟩

/-- Some instructions and jumps to open labels are appended. -/
theorem Sound.appended {before after} (sound : Sound before) {block news}
    (instructions : after.instructions = before.instructions ++ block)
    (fixups : after.fixups = before.fixups ++ news) (labels : after.labels = before.labels)
    (shapes : ∀ index instruction, block[index]? = some instruction →
      Shaped after.instructions after.fixups (before.instructions.length + index) instruction)
    (jumps : ∀ fixup ∈ news, fixup.label ∈ before.openLabels ∧
      after.instructions[fixup.instruction]? = some (Instruction.statement Bpf.jmpJa 0)) :
    Sound after where
  shapes index instruction fetched := by
    rw [instructions] at fetched
    by_cases old : index < before.instructions.length
    · rw [getElem?_append_left old] at fetched
      exact (sound.shapes index instruction fetched).mono (instructions ▸ prefix_append _ _)
        (fixups ▸ subset_append_left _ _)
    · rw [getElem?_append_right (Nat.not_lt.mp old)] at fetched
      have := shapes _ instruction fetched
      rwa [Nat.add_sub_of_le (Nat.not_lt.mp old)] at this
  positions {id position} found := by
    rw [labels] at found
    rw [instructions, length_append]
    exact Nat.le_add_right_of_le (sound.positions found)
  jumps fixup member := by
    rw [fixups] at member
    rw [labels]
    rcases mem_append.mp member with old | new
    · obtain ⟨placed, slot⟩ := sound.jumps fixup old
      refine ⟨?_, slot⟩
      rw [instructions, getElem?_append_left (before.inside fixup old), placed]
    · obtain ⟨isOpen, placed⟩ := jumps fixup new
      exact ⟨placed, none, isOpen, by simp⟩

/-- An emitter which starts with some open labels succeeds, keeps the assembler sound, and ends
as described. -/
def Emission {α : Type} (opened : Set Label) (emitter : Assemble α)
    (ends : α → Assembler → Prop) : Prop :=
  ∀ before, Sound before → before.openLabels = opened → ∃ value after,
    emitter before = .ok (value, after) ∧ Sound after ∧ ends value after

/-- The emitter binds exactly the labels which it makes. -/
abbrev Balanced {α : Type} (opened : Set Label) (emitter : Assemble α) : Prop :=
  Emission opened emitter fun _ after => after.openLabels = opened

/-- A balanced emitter which ends in a return. -/
abbrev Closing {α : Type} (opened : Set Label) (emitter : Assemble α) : Prop :=
  Emission opened emitter fun _ after => after.openLabels = opened ∧ Sealed after

namespace Emission

variable {α β : Type} {opened : Set Label} {label ifTrue ifFalse}

theorem pure (value : α) : Emission opened (Pure.pure value : Assemble α)
    fun result after => result = value ∧ after.openLabels = opened :=
  fun before sound isOpen => ⟨value, before, rfl, sound, rfl, isOpen⟩

theorem skip : Balanced opened (Pure.pure () : Assemble Unit) :=
  fun before sound isOpen => ⟨(), before, rfl, sound, isOpen⟩

/-- A weaker end is reached as well. -/
theorem mono {emitter} {ends weaker : α → Assembler → Prop}
    (emission : Emission opened emitter ends)
    (weaken : ∀ value after, ends value after → weaker value after) :
    Emission opened emitter weaker := by
  intro before sound isOpen
  obtain ⟨value, after, emitted, still, ended⟩ := emission before sound isOpen
  exact ⟨value, after, emitted, still, weaken value after ended⟩

variable {ends : β → Assembler → Prop} {rest : α → Assemble β} {first}
  {middle : α → Assembler → Prop}

theorem bindAt (emission : Emission opened first middle)
    (others : ∀ value between, Sound between → middle value between →
      ∃ result after, rest value between = .ok (result, after) ∧ Sound after ∧ ends result after) :
    Emission opened (first >>= rest) ends := by
  intro before sound isOpen
  obtain ⟨value, between, emitted, stillSound, described⟩ := emission before sound isOpen
  obtain ⟨result, after, continued, ended⟩ := others value between stillSound described
  exact ⟨result, after, emit_bind_eq_ok.mpr ⟨value, between, emitted, continued⟩, ended⟩

/-- A sequence emits its parts one after the other. -/
theorem bind (emission : Emission opened first middle)
    (others : ∀ value between, middle value between →
      Emission between.openLabels (rest value) ends) : Emission opened (first >>= rest) ends :=
  emission.bindAt fun value between sound described =>
    others value between described between sound rfl

theorem next (balanced : Balanced opened first)
    (others : ∀ value, Emission opened (rest value) ends) :
    Emission opened (first >>= rest) ends := by
  refine balanced.bind fun value between same => ?_
  rw [same]
  exact others value

/-- Make a label for what comes next. -/
theorem newLabel {rest : Label → Assemble β}
    (others : ∀ label, label ∉ opened → Emission (insert label opened) (rest label) ends) :
    Emission opened (Assembler.newLabel >>= rest) ends := by
  have made : Emission opened Assembler.newLabel
      fun label after => label ∉ opened ∧ after.openLabels = insert label opened := by
    rintro before sound rfl
    refine ⟨_, _, rfl, ⟨sound.shapes, fun {id position} found => ?_, fun fixup member => ?_⟩,
      ?_, ?_⟩
    · by_cases inside : id < before.labels.length
      · rw [getElem?_append_left inside] at found
        exact sound.positions found
      · rw [getElem?_append_right (Nat.not_lt.mp inside)] at found
        cases mem_singleton.mp (mem_of_getElem? found)
    · obtain ⟨placed, slot, found, forward⟩ := sound.jumps fixup member
      refine ⟨placed, slot, ?_, forward⟩
      rw [List.getElem?_append_left (List.getElem?_eq_some_iff.mp found).1, found]
    · simp [Assembler.openLabels]
    · ext ⟨id⟩
      rw [Set.mem_insert_iff, Assembler.mem_openLabels, Assembler.mem_openLabels, Label.mk.injEq]
      by_cases inside : id < before.labels.length
      · rw [getElem?_append_left inside]
        exact ⟨.inr, fun found => found.resolve_left (Nat.ne_of_lt inside)⟩
      · rw [getElem?_append_right (Nat.not_lt.mp inside), getElem?_eq_none (Nat.not_lt.mp inside)]
        constructor
        · intro found
          have first := (List.getElem?_eq_some_iff.mp found).1
          rw [length_singleton] at first
          exact .inl (by omega)
        · rintro (rfl | absent)
          · rw [Nat.sub_self]
            rfl
          · cases absent
  refine made.bind ?_
  rintro label between ⟨fresh, same⟩
  rw [same]
  exact others label fresh

/-- A label which is bound is no longer open. -/
theorem bindLabel (isOpen : label ∈ opened) : Emission opened (Assembler.bind label)
    fun _ after => after.openLabels = opened \ {label} := by
  rintro before sound rfl
  have inside := (List.getElem?_eq_some_iff.mp isOpen).1
  have emitted : Assembler.bind label before = .ok ((), { before with
      labels := before.labels.set label.id (some before.instructions.length) }) := by
    rw [Assembler.bind, show before.labels[label.id]? = some none from isOpen]
    rfl
  refine ⟨_, _, emitted, ⟨sound.shapes, fun {id position} found => ?_, fun fixup member => ?_⟩, ?_⟩
  · by_cases same : label.id = id
    · subst same
      rw [getElem?_set_self inside] at found
      obtain rfl := Option.some.inj (Option.some.inj found)
      exact Nat.le_refl _
    · rw [getElem?_set_ne same] at found
      exact sound.positions found
  · obtain ⟨placed, slot, found, forward⟩ := sound.jumps fixup member
    refine ⟨placed, ?_⟩
    by_cases same : label.id = fixup.label.id
    · -- Every jump stands before the position which its label gets now.
      refine ⟨some before.instructions.length, by rw [← same, getElem?_set_self inside], ?_⟩
      simp only [Option.mem_def, Option.some.injEq]
      rintro _ rfl
      exact before.inside fixup member
    · exact ⟨slot, by rwa [getElem?_set_ne same], forward⟩
  · ext ⟨id⟩
    rw [Set.mem_sdiff, Set.mem_singleton_iff, Assembler.mem_openLabels, Assembler.mem_openLabels]
    by_cases same : label.id = id
    · subst same
      simp [getElem?_set_self inside]
    · rw [getElem?_set_ne same]
      have different : (⟨id⟩ : Label) ≠ label := fun equal => same (congrArg Label.id equal).symm
      simp [different]

/-- Bind one label, and go on without it. -/
theorem bound {rest others} (split : opened = insert label others) (fresh : label ∉ others)
    (continues : Emission others (rest ()) ends) :
    Emission opened (Assembler.bind label >>= rest) ends := by
  subst split
  refine (bindLabel (Set.mem_insert _ _)).bind fun _ between same => ?_
  rw [Set.insert_sdiff_self_of_notMem fresh] at same
  rw [same]
  exact continues

theorem boundLast (fresh : label ∉ opened) :
    Emission (insert label opened) (Assembler.bind label)
      fun _ after => after.openLabels = opened := by
  refine (bindLabel (Set.mem_insert _ _)).mono fun _ after same => ?_
  rwa [Set.insert_sdiff_self_of_notMem fresh] at same

/-- Append one instruction which is no jump and no comparison. -/
theorem push {instruction}
    (shaped : ∀ instructions fixups index, Shaped instructions fixups index instruction) :
    Balanced opened (Assembler.push instruction) := by
  intro before sound isOpen
  refine ⟨_, _, rfl, sound.appended rfl (append_nil _).symm rfl ?_ (by simp), isOpen⟩
  intro index found fetched
  obtain ⟨rfl, rfl⟩ : index = 0 ∧ found = instruction := by
    cases index <;> simp_all
  exact shaped _ _ _

theorem load {offset} (legal : validLoadOffset offset = true) :
    Balanced opened (Assembler.load offset) := push fun _ _ _ => .load legal

theorem bitwiseAnd (mask) : Balanced opened (Assembler.bitwiseAnd mask) :=
  push fun _ _ _ => .mask mask

/-- A return closes the code. -/
theorem returnAction (action) : Closing opened (Assembler.returnAction action) := by
  intro before sound isOpen
  obtain ⟨value, after, emitted, still, same⟩ :=
    @push opened _ (fun _ _ _ => .ret action) before sound isOpen
  refine ⟨value, after, emitted, still, same, ?_⟩
  cases emitted
  refine ⟨⟨action, getLast?_concat⟩, fun found => ?_⟩
  have := sound.positions found
  simp only [length_append, length_singleton]
  omega

theorem returning (action) : Balanced opened (Assembler.returnAction action) :=
  push fun _ _ _ => .ret action

/-- A jump needs an open label. -/
theorem jump (isOpen : label ∈ opened) : Balanced opened (Assembler.jump label) := by
  rintro before sound rfl
  refine ⟨_, _, rfl, sound.appended rfl rfl rfl ?_ ?_, rfl⟩
  · intro index found fetched
    obtain ⟨rfl, rfl⟩ : index = 0 ∧ found = statement jmpJa 0 := by
      cases index <;> simp_all
    exact .jump (by simp)
  · intro fixup member
    obtain rfl := mem_singleton.mp member
    exact ⟨isOpen, by simp⟩

/-- A branch needs two open labels. -/
theorem branch {code test} (selected : Bpf.comparison code = some test) (k)
    (trueOpen : ifTrue ∈ opened) (falseOpen : ifFalse ∈ opened) :
    Balanced opened (Assembler.branch code k ifTrue ifFalse) := by
  rintro before sound rfl
  have appended : ∃ after, Assembler.branch code k ifTrue ifFalse before = .ok ((), after) ∧
      after.instructions = before.instructions ++ [conditional code k,
        statement jmpJa 0, statement jmpJa 0] ∧
      after.fixups = before.fixups ++ [⟨before.instructions.length + 1, ifTrue⟩,
        ⟨before.instructions.length + 2, ifFalse⟩] ∧ after.labels = before.labels :=
    ⟨_, rfl, by simp, by simp, rfl⟩
  obtain ⟨after, emitted, instructions, fixups, labels⟩ := appended
  refine ⟨_, after, emitted, sound.appended instructions fixups labels ?_ ?_, ?_⟩
  · intro index found fetched
    rw [instructions, fixups]
    rcases index with _ | _ | _ | index
    · obtain rfl := Option.some.inj fetched
      exact .branch k selected (by simp)
    · obtain rfl := Option.some.inj fetched
      exact .jump (by simp)
    · obtain rfl := Option.some.inj fetched
      exact .jump (by simp)
    · cases fetched
  · rw [instructions]
    simp [trueOpen, falseOpen]
  · simp only [Assembler.openLabels, labels]

theorem dispatchEqual (k) (isOpen : label ∈ opened) :
    Balanced opened (Assembler.dispatchEqual k label) := by
  rintro before sound rfl
  have appended : ∃ after, Assembler.dispatchEqual k label before = .ok ((), after) ∧
      after.instructions = before.instructions ++ [conditional jmpJeqK k, statement jmpJa 0] ∧
      after.fixups = before.fixups ++ [⟨before.instructions.length + 1, label⟩] ∧
      after.labels = before.labels := ⟨_, rfl, by simp, by simp, rfl⟩
  obtain ⟨after, emitted, instructions, fixups, labels⟩ := appended
  refine ⟨_, after, emitted, sound.appended instructions fixups labels ?_ ?_, ?_⟩
  · intro index found fetched
    rw [instructions, fixups]
    rcases index with _ | _ | index
    · obtain rfl := Option.some.inj fetched
      exact .branch k comparison_jmpJeqK (by simp)
    · obtain rfl := Option.some.inj fetched
      exact .jump (by simp)
    · cases fetched
  · rw [instructions]
    simp [isOpen]
  · simp only [Assembler.openLabels, labels]

/-- A loop is balanced when its body is. -/
theorem forM {emitter : α → Assemble Unit} {items : List α}
    (each : ∀ item ∈ items, Balanced opened (emitter item)) :
    Balanced opened (items.forM emitter) := by
  induction items with
  | nil => exact skip
  | cons item items ih =>
    exact (each item mem_cons_self).next fun _ =>
      ih fun other member => each other (mem_cons_of_mem _ member)

end Emission

section

open Emission

variable {opened : Set Label}

theorem loadMasked_balanced {offset} (legal : validLoadOffset offset = true) (mask) :
    Balanced opened (loadMasked offset mask) := by
  refine (load legal).next fun _ => ?_
  by_cases whole : mask = BitVec.allOnes 32
  · rw [if_neg (not_not.mpr whole)]
    exact skip
  · rw [if_pos whole]
    exact bitwiseAnd mask

variable {highOffset lowOffset} (highLegal : validLoadOffset highOffset = true)
  (lowLegal : validLoadOffset lowOffset = true) {matched failed} (matchedOpen : matched ∈ opened)
  (failedOpen : failed ∈ opened)

section

include highLegal lowLegal matchedOpen failedOpen

theorem emitEquality_balanced (highValue lowValue) :
    Balanced opened (emitEquality highOffset lowOffset highValue lowValue matched failed) := by
  refine newLabel fun compareLow fresh => ?_
  refine (load highLegal).next fun _ => ?_
  refine (branch comparison_jmpJeqK _ (Set.mem_insert _ _)
    (Set.mem_insert_of_mem _ failedOpen)).next fun _ => ?_
  refine bound rfl fresh ?_
  refine (load lowLegal).next fun _ => ?_
  exact branch comparison_jmpJeqK _ matchedOpen failedOpen

theorem emitOrder_balanced {code test} (selected : Bpf.comparison code = some test)
    (highValue lowValue) :
    Balanced opened (emitOrder highOffset lowOffset code highValue lowValue matched failed) := by
  refine newLabel fun highNotGreater first => ?_
  refine newLabel fun compareLow second => ?_
  obtain ⟨different, secondFresh⟩ := not_or.mp (mt Set.mem_insert_iff.mpr second)
  refine (load highLegal).next fun _ => ?_
  refine (branch comparison_jmpJgtK _
    (Set.mem_insert_of_mem _ (Set.mem_insert_of_mem _ matchedOpen))
    (Set.mem_insert_of_mem _ (Set.mem_insert _ _))).next fun _ => ?_
  refine bound (Set.insert_comm _ _ _) (mt Set.mem_insert_iff.mp (by tauto)) ?_
  refine (branch comparison_jmpJeqK _ (Set.mem_insert _ _)
    (Set.mem_insert_of_mem _ failedOpen)).next fun _ => ?_
  refine bound rfl secondFresh ?_
  refine (load lowLegal).next fun _ => ?_
  exact branch selected _ matchedOpen failedOpen

theorem emitMaskedEqual_balanced (value mask) :
    Balanced opened (emitMaskedEqual highOffset lowOffset matched failed value mask) := by
  have compared : ∀ {offset : BitVec 32}, validLoadOffset offset = true → ∀ mask value,
      Balanced opened (do
        loadMasked offset mask
        Assembler.branch jmpJeqK value matched failed) :=
    fun legal mask value => (loadMasked_balanced legal mask).next fun _ =>
      branch comparison_jmpJeqK _ matchedOpen failedOpen
  by_cases highMask : highHalf mask = 0#32 <;> by_cases lowMask : lowHalf mask = 0#32
  · -- Nothing is compared: the code is one jump.
    simp only [emitMaskedEqual, highMask, lowMask, and_self, if_true]
    exact jump matchedOpen
  · simp only [emitMaskedEqual, highMask, lowMask, and_false, ne_eq, not_true, not_false_eq_true,
      if_true, if_false]
    exact compared lowLegal _ _
  · simp only [emitMaskedEqual, highMask, lowMask, false_and, ne_eq, not_true, not_false_eq_true,
      if_true, if_false]
    exact compared highLegal _ _
  · simp only [emitMaskedEqual, highMask, lowMask, and_self, ne_eq, not_false_eq_true,
      if_true, if_false]
    refine newLabel fun highMatches fresh => ?_
    refine (loadMasked_balanced highLegal _).next fun _ => ?_
    refine (branch comparison_jmpJeqK _ (Set.mem_insert _ _)
      (Set.mem_insert_of_mem _ failedOpen)).next fun _ => ?_
    exact bound rfl fresh (compared lowLegal _ _)

end

/-- The two words of an argument are legal. -/
theorem validLoadOffset_argument {index : BitVec 8} (inside : index.toNat < 6) :
    validLoadOffset (BitVec.ofNat 32 (seccompDataArgsOffset + index.toNat * seccompDataArgSize)) =
        true ∧
      validLoadOffset (BitVec.ofNat 32
        (seccompDataArgsOffset + index.toNat * seccompDataArgSize + 4)) = true := by
  have low : (BitVec.ofNat 32 (16 + index.toNat * 8)).toNat = 16 + index.toNat * 8 := by
    rw [BitVec.toNat_ofNat, Nat.mod_eq_of_lt (by omega)]
  have high : (BitVec.ofNat 32 (16 + index.toNat * 8 + 4)).toNat = 16 + index.toNat * 8 + 4 := by
    rw [BitVec.toNat_ofNat, Nat.mod_eq_of_lt (by omega)]
  simp only [validLoadOffset, seccompDataArgsOffset, seccompDataArgSize, Bool.or_eq_true,
    Bool.and_eq_true, decide_eq_true_eq, beq_iff_eq, low, high]
  exact ⟨.inr ⟨⟨by omega, by omega⟩, by omega⟩, .inr ⟨⟨by omega, by omega⟩, by omega⟩⟩

include matchedOpen failedOpen

/-- An emitted condition is balanced. -/
theorem emitCondition_balanced {condition : NormalizedCondition}
    (inside : condition.index.toNat < 6) :
    Balanced opened (emitCondition condition matched failed) := by
  obtain ⟨lowLegal, highLegal⟩ := validLoadOffset_argument inside
  obtain ⟨index, operator, value⟩ := condition
  have lifted : ∀ offset : Nat, offset < 2 ^ 32 → Balanced opened
      ((rejectIf (2 ^ 32 ≤ offset) .invalidProgram : Except CompileError Unit) :
        Assemble Unit) := by
    intro offset small before sound same
    rw [rejectIf, if_neg (Nat.not_le.mpr small)]
    exact ⟨(), before, rfl, sound, same⟩
  have small : seccompDataArgsOffset + index.toNat * seccompDataArgSize + 4 < 2 ^ 32 := by
    simp only [seccompDataArgsOffset, seccompDataArgSize]
    omega
  refine (lifted _ (Nat.lt_of_le_of_lt (Nat.le_add_right _ 4) small)).next fun _ => ?_
  refine (lifted _ small).next fun _ => ?_
  cases operator with
  | eq => exact emitEquality_balanced highLegal lowLegal matchedOpen failedOpen _ _
  | ne => exact emitEquality_balanced highLegal lowLegal failedOpen matchedOpen _ _
  | ge =>
    exact emitOrder_balanced highLegal lowLegal matchedOpen failedOpen comparison_jmpJgeK _ _
  | gt =>
    exact emitOrder_balanced highLegal lowLegal matchedOpen failedOpen comparison_jmpJgtK _ _
  | le =>
    exact emitOrder_balanced highLegal lowLegal failedOpen matchedOpen comparison_jmpJgtK _ _
  | lt =>
    exact emitOrder_balanced highLegal lowLegal failedOpen matchedOpen comparison_jmpJgeK _ _
  | maskedEq mask => exact emitMaskedEqual_balanced highLegal lowLegal matchedOpen failedOpen _ _

/-- An emitted rule is balanced. -/
theorem emitRule_balanced {conditions}
    (inside : ∀ condition ∈ conditions, condition.index.toNat < 6) :
    Balanced opened (emitRule matched failed conditions) := by
  induction conditions with
  | nil => exact skip
  | cons condition conditions ih =>
    have first := inside condition mem_cons_self
    have rest := ih fun other member => inside other (mem_cons_of_mem _ member)
    cases conditions with
    | nil => exact (emitCondition_balanced matchedOpen failedOpen first).next fun _ => rest
    | cons following conditions =>
      refine newLabel fun conditionMatched fresh => ?_
      refine (emitCondition_balanced (Set.mem_insert _ _)
        (Set.mem_insert_of_mem _ failedOpen) first).next fun _ => ?_
      exact bound rfl fresh rest

end

section

open Emission

variable {opened : Set Label}

/-- An emitted block ends with a return. -/
theorem emitSyscallBlock_closing {rules : List CompiledRule} (inside : ∀ rule ∈ rules, rule.Inside)
    (matchAction defaultAction) :
    Closing opened (emitSyscallBlock rules matchAction defaultAction) := by
  cases conditional : rules.any (·.conditions.isEmpty) with
  | true =>
    simp only [emitSyscallBlock, conditional, if_true]
    exact returnAction matchAction
  | false =>
    simp only [emitSyscallBlock, conditional, Bool.false_eq_true, if_false]
    refine newLabel fun matched fresh => ?_
    refine Emission.next (forM fun rule member => ?_) fun _ => ?_
    · refine newLabel fun failed failedFresh => ?_
      refine (emitRule_balanced (Set.mem_insert_of_mem _ (Set.mem_insert _ _))
        (Set.mem_insert _ _) (inside rule member)).next fun _ => ?_
      exact boundLast failedFresh
    · refine (returning defaultAction).next fun _ => ?_
      exact bound rfl fresh (returnAction matchAction)

theorem emitX32Guard_balanced : Balanced opened emitX32Guard := by
  refine newLabel fun check first => ?_
  refine newLabel fun dispatch second => ?_
  refine newLabel fun badAbi third => ?_
  simp only [Set.mem_insert_iff, not_or] at second third
  have split : insert badAbi (insert dispatch (insert check opened)) =
      insert check (insert badAbi (insert dispatch opened)) := by
    rw [Set.insert_comm dispatch check, Set.insert_comm badAbi check]
  refine (branch comparison_jmpJgeK _ (by simp) (by simp)).next fun _ => ?_
  refine bound split (by simp only [Set.mem_insert_iff]; tauto) ?_
  refine (branch comparison_jmpJeqK _ (by simp) (by simp)).next fun _ => ?_
  refine bound rfl (by simp only [Set.mem_insert_iff]; tauto) ?_
  refine (returning badArchAction).next fun _ => ?_
  exact boundLast second.2

theorem emitArchitectureGuard_balanced (target) :
    Balanced opened (emitArchitectureGuard target) := by
  refine newLabel fun valid first => ?_
  refine newLabel fun bad second => ?_
  refine (load rfl).next fun _ => ?_
  refine (branch comparison_jmpJeqK _ (by simp) (by simp)).next fun _ => ?_
  refine bound rfl (by simp only [Set.mem_insert_iff]; tauto) ?_
  refine (returning badArchAction).next fun _ => ?_
  refine bound rfl first ?_
  refine (load rfl).next fun _ => ?_
  cases target with
  | x86_64 => exact emitX32Guard_balanced
  | aarch64 => exact skip

/-- The labels of some blocks. -/
def blockLabels (blocks : List SyscallBlock) : Set Label :=
  { label | label ∈ blocks.map (·.label) }

theorem blockLabels_cons (block) (blocks) :
    blockLabels (block :: blocks) = insert block.label (blockLabels blocks) := by
  ext label
  exact mem_cons

/-- The blocks of some groups have one new label each. -/
theorem newBlocks_emission (groups) :
    Emission opened (newBlocks groups) fun blocks after =>
      (blocks.map (·.label)).Nodup ∧ (∀ label ∈ opened, label ∉ blocks.map (·.label)) ∧
        after.openLabels = opened ∪ blockLabels blocks := by
  induction groups generalizing opened with
  | nil =>
    refine (pure []).mono ?_
    rintro _ after ⟨rfl, same⟩
    exact ⟨nodup_nil, by simp, by rw [same]; simp [blockLabels]⟩
  | cons group groups ih =>
    rw [newBlocks, mapM_cons, bind_assoc]
    refine newLabel fun label fresh => ?_
    rw [pure_bind]
    refine ih.bind ?_
    rintro blocks between ⟨distinct, apart, same⟩
    refine (pure _).mono ?_
    rintro _ after ⟨rfl, stillSame⟩
    refine ⟨nodup_cons.mpr ⟨apart label (Set.mem_insert _ _), distinct⟩, ?_, ?_⟩
    · intro other isOpen member
      rcases mem_cons.mp member with rfl | later
      · exact fresh isOpen
      · exact apart other (Set.mem_insert_of_mem _ isOpen) later
    · rw [stillSame, same, blockLabels_cons, Set.insert_union, Set.union_insert]

/-- The code of the blocks, after a return. -/
theorem bodies_closing {blocks} (distinct : (blocks.map (·.label)).Nodup)
    (inside : ∀ block ∈ blocks, ∀ rule ∈ block.rules, rule.Inside)
    (filterAction defaultAction) {before} (sound : Sound before)
    (returned : Sealed before) (isOpen : before.openLabels = blockLabels blocks) :
    ∃ value after, (blocks.forM fun block => do
        Assembler.bind block.label
        emitSyscallBlock block.rules filterAction defaultAction) before = .ok (value, after) ∧
      Sound after ∧ after.openLabels = ∅ ∧ Sealed after := by
  induction blocks generalizing before with
  | nil => exact ⟨(), before, rfl, sound, by rw [isOpen]; simp [blockLabels], returned⟩
  | cons block blocks ih =>
    rw [map_cons, nodup_cons] at distinct
    have body : Emission (blockLabels (block :: blocks)) (do
        Assembler.bind block.label
        emitSyscallBlock block.rules filterAction defaultAction)
        fun _ after => after.openLabels = blockLabels blocks ∧ Sealed after :=
      bound (blockLabels_cons block blocks) distinct.1
        (emitSyscallBlock_closing (inside block mem_cons_self) _ _)
    obtain ⟨_, between, emitted, stillSound, stillOpen, stillSealed⟩ := body before sound isOpen
    obtain ⟨value, after, others, ended⟩ := ih distinct.2
      (fun other member => inside other (mem_cons_of_mem _ member)) stillSound stillSealed
      stillOpen
    exact ⟨value, after, emit_bind_eq_ok.mpr ⟨_, between, emitted, others⟩, ended⟩

/-- A filter is emitted without a failure: every label is bound, and the last instruction is a
return. -/
theorem emitFilter_closing {grouped : GroupedRules}
    (inside : ∀ number, ∀ rule ∈ grouped.rules number, rule.Inside) (target)
    (filterAction defaultAction) :
    Closing ∅ (emitFilter grouped target filterAction defaultAction) := by
  refine (emitArchitectureGuard_balanced target).next fun _ => ?_
  intro before sound isOpen
  obtain ⟨blocks, between, made, stillSound, distinct, -, same⟩ :=
    @newBlocks_emission ∅ grouped.toList before sound isOpen
  have listed := newBlocks_eq_ok made
  have blocksInside := inside_of_listed inside listed
  rw [Set.empty_union] at same
  have rest : Emission (blockLabels blocks) (do
      blocks.forM fun block => Assembler.dispatchEqual block.number block.label
      Assembler.returnAction defaultAction
      blocks.forM fun block => do
        Assembler.bind block.label
        emitSyscallBlock block.rules filterAction defaultAction)
      fun _ after => after.openLabels = ∅ ∧ Sealed after := by
    refine Emission.next (forM fun block member => ?_) fun _ => ?_
    · exact dispatchEqual _ (mem_map_of_mem member)
    · refine (returnAction defaultAction).bindAt fun _ middle middleSound returned => ?_
      exact bodies_closing distinct blocksInside filterAction defaultAction middleSound returned.2
        returned.1
  obtain ⟨value, after, emitted, ended⟩ := rest between stillSound same
  exact ⟨value, after, emit_bind_eq_ok.mpr ⟨blocks, between, made, emitted⟩, ended⟩

end

section

/-- A jump whose label has a later position. -/
def Fixup.Ready (labels : List (Option Nat)) (instructions : List Instruction) (fixup : Fixup) :
    Prop :=
  instructions[fixup.instruction]? = some (Instruction.statement Bpf.jmpJa 0) ∧
    ∃ target, labels[fixup.label.id]? = some (some target) ∧ fixup.instruction < target ∧
      target < 2 ^ 32

/-- The fixups of labels with later positions are patched. -/
theorem patches_succeed {labels} {fixups : List Fixup}
    {instructions} (distinct : (fixups.map (·.instruction)).Nodup)
    (ready : ∀ fixup ∈ fixups, fixup.Ready labels instructions) :
    ∃ patched, fixups.foldlM (Assembler.patch labels) instructions = .ok patched ∧
      patched.length = instructions.length ∧
      (∀ index, index ∉ fixups.map (·.instruction) → patched[index]? = instructions[index]?) ∧
      ∀ fixup ∈ fixups, ∃ target distance : Nat, labels[fixup.label.id]? = some (some target) ∧
        fixup.instruction + 1 + distance = target ∧
        patched[fixup.instruction]? =
          some (Instruction.statement Bpf.jmpJa (BitVec.ofNat 32 distance)) := by
  induction fixups generalizing instructions with
  | nil => exact ⟨instructions, rfl, rfl, fun _ _ => rfl, by simp⟩
  | cons fixup fixups ih =>
    rw [map_cons, nodup_cons] at distinct
    obtain ⟨placed, target, found, forward, small⟩ := ready fixup mem_cons_self
    have inside := (List.getElem?_eq_some_iff.mp placed).1
    have first : Assembler.patch labels instructions fixup = .ok (instructions.set
        fixup.instruction (Instruction.statement Bpf.jmpJa
          (BitVec.ofNat 32 (target - (fixup.instruction + 1))))) := by
      have bounded : 2 ^ 32 < wordLimit := by decide
      simp only [Assembler.patch, bind_eq_ok, okOr_eq_ok, rejectIf_eq_ok, pure_eq_ok,
        checkedAdd_eq_some, checkedSub_eq_some, Option.join_eq_some_iff]
      exact ⟨target, found, _, ⟨by omega, rfl⟩, _, ⟨by omega, rfl⟩, (), by omega, _, placed, (),
        not_not.mpr rfl, rfl⟩
    have others : ∀ other ∈ fixups, fixup.instruction ≠ other.instruction := by
      intro other member same
      exact distinct.1 (same ▸ mem_map_of_mem member)
    obtain ⟨patched, rest, length, untouched, resolved⟩ := @ih
      (instructions.set fixup.instruction (Instruction.statement Bpf.jmpJa
        (BitVec.ofNat 32 (target - (fixup.instruction + 1))))) distinct.2 (by
      intro other member
      rw [Fixup.Ready, getElem?_set_ne (others other member)]
      exact ready other (mem_cons_of_mem _ member))
    refine ⟨patched, ?_, ?_, ?_, ?_⟩
    · rw [foldlM_cons, first, ok_bind, rest]
    · rw [length, length_set]
    · intro index absent
      rw [map_cons, mem_cons, not_or] at absent
      rw [untouched index absent.2, getElem?_set_ne (Ne.symm absent.1)]
    · intro other member
      rcases mem_cons.mp member with rfl | later
      · refine ⟨target, target - (other.instruction + 1), found, by omega, ?_⟩
        rw [untouched _ distinct.1, getElem?_set_self inside]
      · exact resolved other later

/-- Instructions whose successors are later instructions, and which have no idle branches. -/
structure Placed (program : List Instruction) : Prop where
  structured : AllStructured program
  plain : ∀ instruction ∈ program, Bpf.comparison instruction.code = none →
    instruction.jt = 0 ∧ instruction.jf = 0

variable {program : List Instruction}

/-- A target inside the program passes the check. -/
theorem checkedTarget_inside {length index offset} (inside : index + 1 + offset < length)
    (small : length ≤ maxBpfInstructions) :
    checkedTarget length index offset = .ok (index + 1 + offset) := by
  have bounded : maxBpfInstructions < wordLimit := by decide
  simp only [checkedTarget, bind_eq_ok, okOr_eq_ok, Option.bind_eq_some_iff, checkedAdd_eq_some,
    rejectIf_eq_ok, pure_eq_ok, Nat.not_le]
  exact ⟨_, ⟨_, ⟨by omega, rfl⟩, by omega, rfl⟩, (), inside, rfl⟩

/-- A comparison is none of the other instructions. -/
theorem comparison_apart {code test} (selected : Bpf.comparison code = some test) :
    code ≠ Bpf.ldWAbs ∧ code ≠ Bpf.aluAndK ∧ code ≠ Bpf.retK ∧ code ≠ Bpf.jmpJa := by
  refine ⟨?_, ?_, ?_, ?_⟩
  all_goals
    rintro rfl
    cases selected

section
variable (placed : Placed program) (small : program.length ≤ maxBpfInstructions)
include placed small

/-- Every placed instruction is valid. -/
theorem Placed.validates {index instruction} (fetched : program[index]? = some instruction) :
    validateInstruction program.length index instruction = .ok () := by
  have plain := placed.plain instruction (mem_of_getElem? fetched)
  obtain ⟨code, jt, jf, k⟩ := instruction
  cases placed.structured index _ fetched with
  | load isLoad legal =>
    obtain rfl : code = ldWAbs := isLoad
    obtain ⟨rfl, rfl⟩ : jt = 0 ∧ jf = 0 := plain rfl
    simp [validateInstruction, legal, rejectIf]
  | mask isMask =>
    obtain rfl : code = aluAndK := isMask
    obtain ⟨rfl, rfl⟩ : jt = 0 ∧ jf = 0 := plain rfl
    rfl
  | ret isReturn =>
    obtain rfl : code = retK := isReturn
    obtain ⟨rfl, rfl⟩ : jt = 0 ∧ jf = 0 := plain rfl
    rfl
  | jump isJump inside =>
    obtain rfl : code = jmpJa := isJump
    obtain ⟨rfl, rfl⟩ : jt = 0 ∧ jf = 0 := plain rfl
    have target := checkedTarget_inside inside small
    simp [validateInstruction, target, jmpJa, ldWAbs, aluAndK, retK, rejectIf]
  | branch test selected ifTrue ifFalse =>
    obtain ⟨notLoad, notMask, notReturn, notJump⟩ := comparison_apart selected
    rw [validateInstruction, if_neg notLoad, if_neg (not_or.mpr ⟨notMask, notReturn⟩),
      if_neg notJump, if_pos (Option.isSome_iff_exists.mpr ⟨test, selected⟩),
      checkedTarget_inside ifTrue small, checkedTarget_inside ifFalse small]
    rfl

/-- Where everything later returns, an instruction returns on every path. -/
theorem Placed.terminates {index} (inside : index < program.length) {verdicts}
    (later : ∀ other, index < other → other < program.length → verdicts[other]? = some true) :
    terminatesHere program verdicts index = .ok true := by
  have fetched : program[index]? = some program[index] := getElem?_eq_getElem inside
  have judged : ∀ other, index < other → other < program.length →
      terminationAt verdicts other = .ok true := by
    intro other after within
    rw [terminationAt, later other after within]
    rfl
  rw [terminatesHere, fetched, okOr, ok_bind]
  cases placed.structured index _ fetched with
  | load isLoad legal follows =>
    rw [if_neg (by rw [isLoad]; decide), if_pos (.inl isLoad)]
    exact judged _ (Nat.lt_succ_self _) follows
  | mask isMask follows =>
    rw [if_neg (by rw [isMask]; decide), if_pos (.inr isMask)]
    exact judged _ (Nat.lt_succ_self _) follows
  | ret isReturn =>
    rw [if_pos isReturn]
    rfl
  | jump isJump target =>
    rw [if_neg (by rw [isJump]; decide), if_neg (by rw [isJump]; decide), if_pos isJump,
      checkedTarget_inside target small, ok_bind]
    exact judged _ (by omega) target
  | branch test selected ifTrue ifFalse =>
    obtain ⟨notLoad, notMask, notReturn, notJump⟩ := comparison_apart selected
    rw [if_neg notReturn, if_neg (not_or.mpr ⟨notLoad, notMask⟩), if_neg notJump,
      if_pos (Option.isSome_iff_exists.mpr ⟨test, selected⟩),
      checkedTarget_inside ifTrue small, checkedTarget_inside ifFalse small, ok_bind, ok_bind,
      judged _ (by omega) ifTrue, judged _ (by omega) ifFalse]
    rfl

/-- The verdicts are filled in from the last instruction to the first, and all of them say that
every path returns. -/
theorem Placed.verdicts {count} (inside : count ≤ program.length) {verdicts}
    (length : verdicts.length = program.length)
    (later : ∀ other, count ≤ other → other < program.length → verdicts[other]? = some true) :
    ∃ final, (List.range count).reverse.foldlM (fun verdicts index => do
        let here ← terminatesHere program verdicts index
        return verdicts.set index here) verdicts = .ok final ∧
      ∀ verdict ∈ final, verdict = true := by
  induction count generalizing verdicts with
  | zero =>
    refine ⟨verdicts, rfl, fun verdict member => ?_⟩
    obtain ⟨index, found⟩ := mem_iff_getElem?.mp member
    have within := (List.getElem?_eq_some_iff.mp found).1
    rw [later index (Nat.zero_le _) (length ▸ within)] at found
    exact (Option.some.inj found).symm
  | succ count ih =>
    rw [range_succ, reverse_append, reverse_singleton, singleton_append,
      foldlM_cons, placed.terminates small inside fun other after within =>
        later other after within]
    refine ih (Nat.le_of_succ_le inside) (by rw [length_set, length]) ?_
    intro other after within
    by_cases same : count = other
    · subst same
      rw [getElem?_set_self (length ▸ within)]
    · rw [getElem?_set_ne same]
      exact later other (by omega) within

/-- A placed program is accepted. -/
theorem Placed.accepted (nonempty : program ≠ []) : validateProgram program = .ok () := by
  obtain ⟨final, folded, all⟩ := placed.verdicts small (Nat.le_refl _)
    (@List.length_replicate _ program.length false) fun other after within =>
      absurd within (Nat.not_lt.mpr after)
  simp only [validateProgram, bind_eq_ok, rejectIf_eq_ok]
  refine ⟨(), nonempty, (), Nat.not_lt.mpr small, (), ?_, final, folded, ?_⟩
  · refine forM_eq_ok.mpr fun pair member => ?_
    exact placed.validates small (mem_zipIdx_iff_getElem?.mp member)
  · simpa using all

end

/-- The finished program of a sound assembler without an open label. -/
theorem Sound.placed {assembler} (sound : Sound assembler)
    (closed : assembler.openLabels = ∅) (returned : Sealed assembler)
    (small : assembler.instructions.length ≤ maxBpfInstructions) :
    ∃ program, assembler.fixups.foldlM (Assembler.patch assembler.labels) assembler.instructions =
        .ok program ∧ program.length = assembler.instructions.length ∧ Placed program := by
  have limit : maxBpfInstructions < 2 ^ 32 := by decide
  have ready : ∀ fixup ∈ assembler.fixups,
      fixup.Ready assembler.labels assembler.instructions := by
    intro fixup member
    obtain ⟨placed, slot, found, forward⟩ := sound.jumps fixup member
    cases slot with
    | none =>
      have isOpen : fixup.label ∈ assembler.openLabels := found
      rw [closed] at isOpen
      exact absurd isOpen (Set.notMem_empty _)
    | some target =>
      have := returned.positions found
      exact ⟨placed, target, found, forward target rfl, by omega⟩
  obtain ⟨program, patched, length, untouched, resolved⟩ :=
    patches_succeed assembler.distinct ready
  -- The last instruction returns, so every other one has a successor.
  have follows : ∀ {index : Nat} {instruction : Instruction},
      assembler.instructions[index]? = some instruction → instruction.code ≠ Bpf.retK →
      index + 1 < assembler.instructions.length := by
    intro index instruction fetched other
    have inside := (List.getElem?_eq_some_iff.mp fetched).1
    by_contra last
    obtain ⟨action, isLast⟩ := returned.returns
    rw [getLast?_eq_getElem?, show assembler.instructions.length - 1 = index by omega,
      fetched] at isLast
    obtain rfl := Option.some.inj isLast
    exact other rfl
  have each : ∀ index instruction, program[index]? = some instruction →
      Structured program.length index instruction ∧
        (Bpf.comparison instruction.code = none → instruction.jt = 0 ∧ instruction.jf = 0) := by
    intro index instruction fetched
    rw [length]
    by_cases isJump : index ∈ assembler.fixups.map (·.instruction)
    · obtain ⟨fixup, member, rfl⟩ := mem_map.mp isJump
      obtain ⟨target, distance, found, lands, isPatched⟩ := resolved fixup member
      rw [isPatched] at fetched
      obtain rfl := Option.some.inj fetched
      have below := returned.positions found
      refine ⟨.jump rfl ?_, fun _ => ⟨rfl, rfl⟩⟩
      simp only [Instruction.statement, BitVec.toNat_ofNat]
      omega
    · rw [untouched index isJump] at fetched
      cases sound.shapes index instruction fetched with
      | load legal =>
        have second := follows fetched (show Bpf.ldWAbs ≠ Bpf.retK by decide)
        exact ⟨.load rfl legal second, fun _ => ⟨rfl, rfl⟩⟩
      | mask =>
        have second := follows fetched (show Bpf.aluAndK ≠ Bpf.retK by decide)
        exact ⟨.mask rfl second, fun _ => ⟨rfl, rfl⟩⟩
      | ret => exact ⟨.ret rfl, fun _ => ⟨rfl, rfl⟩⟩
      | jump isPatched => exact absurd isPatched isJump
      | branch k selected followed =>
        have second := follows followed (by decide)
        refine ⟨.branch _ selected ?_ ?_, fun none => by cases selected.symm.trans none⟩
        · exact Nat.lt_of_succ_lt second
        · exact second
  refine ⟨program, patched, length, fun index instruction fetched => (each _ _ fetched).1, ?_⟩
  intro instruction member
  obtain ⟨index, fetched⟩ := mem_iff_getElem?.mp member
  exact (each index instruction fetched).2

/-- What the program of an assembler has to be: its instructions with every jump resolved, which
the validator accepts, and every path of which goes forward over legal loads to a return. -/
structure Finished (assembler : Assembler) (program : List Instruction) : Prop where
  length : program.length = assembler.instructions.length
  resolved : assembler.fixups.foldlM (Assembler.patch assembler.labels) assembler.instructions =
    .ok program
  accepted : validateProgram program = .ok ()
  structured : AllStructured program

/-- A closed assembler is finished, unless its program is too long. -/
theorem Sound.finish {assembler} (sound : Sound assembler) (closed : assembler.openLabels = ∅)
    (returned : Sealed assembler) :
    (maxBpfInstructions < assembler.instructions.length ∧
        assembler.finish = .error .programTooLarge) ∨
      ∃ program, assembler.finish = .ok program ∧ Finished assembler program := by
  by_cases large : maxBpfInstructions < assembler.instructions.length
  · refine .inl ⟨large, ?_⟩
    rw [Assembler.finish, rejectIf, if_pos large]
    rfl
  · obtain ⟨program, patched, length, placed⟩ := sound.placed closed returned (Nat.not_lt.mp large)
    have nonempty : program ≠ [] := by
      obtain ⟨action, isLast⟩ := returned.returns
      rintro rfl
      rw [eq_nil_of_length_eq_zero length.symm] at isLast
      cases isLast
    have accepted := placed.accepted (length ▸ Nat.not_lt.mp large) nonempty
    refine .inr ⟨program, ?_, length, patched, accepted, placed.structured⟩
    simp only [Assembler.finish, bind_eq_ok, rejectIf_eq_ok, pure_eq_ok]
    exact ⟨(), large, program, patched, (), accepted, rfl⟩

end

def maxRulesPerThread : Nat := 1024

def maxConditionsPerRule : Nat := 6

/-- A condition of the schema, whose comment is dropped, is a condition of the policy. -/
def convertCondition (condition : Condition) : Except CompileError Condition := do
  rejectIf (5 < condition.index.toNat) .invalidArgumentIndex
  return condition

def convertRule (rule : Rule) : Except CompileError Rule := do
  rejectIf (maxConditionsPerRule < (rule.conditions.getD []).length) .tooManyConditions
  match rule.conditions with
  | none => return rule
  | some conditions => do
    let conditions ← conditions.mapM convertCondition
    return { rule with conditions := some conditions }

def convertFilter (filter : Filter) : Except CompileError Filter := do
  rejectIf (maxRulesPerThread < filter.rules.length) .tooManyRules
  rejectIf (filter.rules ≠ [] ∧ filter.defaultAction = filter.filterAction) .identicalActions
  let rules ← filter.rules.mapM convertRule
  return { filter with rules }

/-- Every result of a traversal is the result of one of its items. -/
theorem mem_of_mapM {α β : Type} {action : α → Except CompileError β} {items : List α}
    {results} (traversed : items.mapM action = .ok results) {result : β}
    (member : result ∈ results) : ∃ item ∈ items, action item = .ok result := by
  have listed : Except.ok result ∈ items.map action := by
    rw [mapM_eq_ok.mp traversed]
    exact mem_map_of_mem member
  exact mem_map.mp listed

/-- The conditions of an accepted filter are on the six arguments. -/
theorem convertFilter_inside {wire filter} (accepted : convertFilter wire = .ok filter) :
    ∀ rule ∈ filter.rules, ∀ condition ∈ rule.conditions.getD [], condition.index.toNat < 6 := by
  simp only [convertFilter, bind_eq_ok, pure_eq_ok] at accepted
  obtain ⟨_, -, _, -, rules, converted, rfl⟩ := accepted
  intro rule member condition inRule
  obtain ⟨original, -, isRule⟩ := mem_of_mapM converted member
  obtain ⟨_, -, isRule⟩ := bind_eq_ok.mp isRule
  split at isRule
  case h_1 unconditional =>
    obtain rfl := pure_eq_ok.mp isRule
    rw [unconditional] at inRule
    cases inRule
  case h_2 =>
    obtain ⟨conditions, traversed, isRule⟩ := bind_eq_ok.mp isRule
    obtain rfl := pure_eq_ok.mp isRule
    obtain ⟨_, -, isCondition⟩ := mem_of_mapM traversed inRule
    obtain ⟨_, small, isCondition⟩ := bind_eq_ok.mp isCondition
    obtain rfl := pure_eq_ok.mp isCondition
    have := rejectIf_eq_ok.mp small
    omega

/-- Only a name which the table does not know is refused. -/
theorem groupRules_error {rules : List Rule} {target options table first error}
    (failed : rules.foldlM (groupRule target options table) first = .error error) :
    error = .unknownSyscall := by
  induction rules generalizing first with
  | nil => cases failed
  | cons rule rules ih =>
    rcases bind_eq_error.mp failed with here | ⟨grouped, -, later⟩
    · rcases bind_eq_error.mp here with unknown | ⟨resolution, -, later⟩
      · exact (okOr_eq_error.mp unknown).2.symm
      · split at later
        · cases later
        · cases later
    · exact ih later

/-- The grouped rules of an accepted filter are lowered to code which leaves no label open, and
the compiled program is this code with its jumps resolved. -/
theorem compileFilter_lowered {wire filter : Filter} (accepted : convertFilter wire = .ok filter)
    {target options table grouped}
    (found : groupRules filter.rules target options table = .ok grouped) : ∃ assembler,
      emitFilter grouped target filter.filterAction.encode filter.defaultAction.encode
          Assembler.new = .ok ((), assembler) ∧
        Sound assembler ∧ assembler.openLabels = ∅ ∧ Sealed assembler ∧
        (maxBpfInstructions < assembler.instructions.length ∧
            compileFilter filter target options table = .error .programTooLarge ∨
          ∃ program, compileFilter filter target options table = .ok (toWords program) ∧
            Finished assembler program) := by
  have inside := inside_groupRules found (by simp [GroupedRules.rules])
    (convertFilter_inside accepted)
  obtain ⟨_, assembler, emits, sound, closed, returned⟩ := emitFilter_closing inside target
    filter.filterAction.encode filter.defaultAction.encode Assembler.new Sound.new
    (by simp [Assembler.openLabels, Assembler.new])
  -- What is left of a compilation after the rules are grouped and lowered.
  have runs : compileFilter filter target options table = toWords <$> assembler.finish := by
    rw [compileFilter, found, ok_bind, StateT.run, emits]
    rfl
  refine ⟨assembler, emits, sound, closed, returned, ?_⟩
  rcases sound.finish closed returned with ⟨large, tooLarge⟩ | ⟨program, finished, described⟩
  · exact .inl ⟨large, by rw [runs, tooLarge]; rfl⟩
  · exact .inr ⟨program, by rw [runs, finished]; rfl, described⟩

/-- An accepted filter is lowered to a valid program. It is refused only for an unknown name or
for the length of its program. Its code leaves no label open, every jump stands before the
position of its label, which is inside the program, and the last instruction is a return. Unless
that code is too long, the compiled program is this code with its jumps resolved. A compiled
program passes the validator, so it is not empty, and it is structured: its loads are legal, and
every path goes forward to a return. -/
theorem compileFilter_valid {wire filter : Filter} (accepted : convertFilter wire = .ok filter)
    (target : TargetArch) (options : CompileOptions) (table : SyscallTable) :
    (∀ error, compileFilter filter target options table = .error error →
      error = .unknownSyscall ∨ error = .programTooLarge) ∧
    (∀ grouped, groupRules filter.rules target options table = .ok grouped → ∃ assembler,
      emitFilter grouped target filter.filterAction.encode filter.defaultAction.encode
          Assembler.new = .ok ((), assembler) ∧
        Sound assembler ∧ assembler.openLabels = ∅ ∧ Sealed assembler ∧
        (maxBpfInstructions < assembler.instructions.length ∧
            compileFilter filter target options table = .error .programTooLarge ∨
          ∃ program, compileFilter filter target options table = .ok (toWords program) ∧
            Finished assembler program)) ∧
    (∀ words, compileFilter filter target options table = .ok words →
      validateProgram (ofWords words) = .ok () ∧ AllStructured (ofWords words)) := by
  refine ⟨fun error failed => ?_, fun _ => compileFilter_lowered accepted, fun words compiled => ?_⟩
  · cases found : groupRules filter.rules target options table with
    | error unknown =>
      rw [compileFilter, found] at failed
      cases failed
      exact .inl (groupRules_error found)
    | ok grouped =>
      obtain ⟨_, -, -, -, -, ⟨-, tooLarge⟩ | ⟨program, finished, -⟩⟩ :=
        compileFilter_lowered accepted found
      · exact .inr (Except.error.inj (failed.symm.trans tooLarge))
      · cases failed.symm.trans finished
  · cases found : groupRules filter.rules target options table with
    | error unknown =>
      rw [compileFilter, found] at compiled
      cases compiled
    | ok grouped =>
      obtain ⟨_, -, -, -, -, ⟨-, tooLarge⟩ | ⟨program, finished, described⟩⟩ :=
        compileFilter_lowered accepted found
      · cases compiled.symm.trans tooLarge
      · obtain rfl := Except.ok.inj (compiled.symm.trans finished)
        rw [ofWords_toWords]
        exact ⟨described.accepted, described.structured⟩

/-- A filter with one rule is accepted and compiled. -/
theorem compileFilter_valid_read :
    convertFilter readFilter = .ok readFilter ∧ ∃ words,
      compileFilter readFilter .aarch64 ⟨false⟩ readTable = .ok words ∧
        validateProgram (ofWords words) = .ok () := by
  have accepted : convertFilter readFilter = .ok readFilter := rfl
  have valid := (compileFilter_valid accepted .aarch64 ⟨false⟩ readTable).2.2
  have compiles : (compileFilter readFilter .aarch64 ⟨false⟩ readTable).isOk := by
    decide +kernel
  refine ⟨accepted, ?_⟩
  cases compiled : compileFilter readFilter .aarch64 ⟨false⟩ readTable with
  | error error =>
    rw [compiled] at compiles
    cases compiles
  | ok words => exact ⟨words, rfl, (valid words compiled).1⟩

end Bangbang.Seccomp
