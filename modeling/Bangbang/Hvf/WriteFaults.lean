import Bangbang.Memory.DirtyTracker

/-!
# Write faults of protected guest memory

The tracker maps guest RAM without write permission. The first write to a page faults,
and the tracker restores the permission and marks the page dirty. A fault which another
member resolved meanwhile is admitted once; a second one of the same member on the same
page is reported as no progress. Answers of the hypervisor are arguments of each call:
`answers k` is the one to its `k`-th protection request. The dirty tracker is shared with
the devices, whose own marks change no permission and are no events here.
-/

namespace Bangbang.Hvf

open Memory

def maxSupportedVcpus : Nat := 32

structure HvfMemoryPermissions where
  (read write execute : Bool)

structure HvfExceptionExit where
  syndrome : BitVec 64
  physicalAddress : Nat

def HvfExceptionExit.matchesObservedHvfProtectedWriteSyndrome (exit : HvfExceptionExit) : Bool :=
  exit.syndrome.extractLsb' 26 6 == 0x24 && exit.syndrome.getLsbD 6 && !exit.syndrome.getLsbD 7 &&
    [0x05, 0x06, 0x07, 0x0f].contains (exit.syndrome.extractLsb' 0 6)

structure HvfDirtyWriteProtectionFailure where
  operationIndex : Nat
  source : String

inductive HvfDirtyWriteFaultError where
  | invalidState (message : String)
  | invalidMemberIndex (index : Nat)
  | unprotectFailed (failure : HvfDirtyWriteProtectionFailure)
  | noProgress

inductive HvfDirtyWriteEpochResetError where
  | invalidState (message : String)
  | allocationFailed
  | protectionFailed (failure : HvfDirtyWriteProtectionFailure)
      (rollbackFailures : List HvfDirtyWriteProtectionFailure)

inductive HvfDirtyWriteMappingMutationError where
  | unalignedRegion
  | overlappingRegion
  | missingRegion
  | allocationFailed

structure HvfDirtyWriteFault where
  page : Nat
  firstWrite : Bool

/-- Whether faults are handled. -/
inductive TrackerStatus where
  | active
  | stopping
  | poisoned
  | stopped

/-- A mapped region and the pages of it which may be written. -/
structure TrackedRegion where
  range : GuestMemoryRange
  originalPermissions : HvfMemoryPermissions
  restoredWriteWords : List (BitVec 64)

/-- The regions, the status, and the page last admitted for each vCPU. -/
structure TrackerState where
  status : TrackerStatus
  pageSize : Nat
  regions : List TrackedRegion
  dirtyTracker : GuestMemoryDirtyTracker
  lastAdmittedPages : Vector (Option Nat) maxSupportedVcpus

/-- Change the first item which `holds`. -/
def changeFirst {α : Type} (holds : α → Bool) (change : α → α) : List α → List α
  | [] => []
  | item :: items =>
    if holds item then change item :: items else item :: changeFirst holds change items

def TrackedRegion.restore (pageIndex : Nat) (region : TrackedRegion) : TrackedRegion :=
  { region with restoredWriteWords := Bitmap.insert region.restoredWriteWords pageIndex }

def TrackedRegion.pageHasRestoredWrite (region : TrackedRegion) (pageIndex : Nat) : Option Bool :=
  if pageIndex / 64 < region.restoredWriteWords.length then
    some (Bitmap.test region.restoredWriteWords pageIndex)
  else none

/-- The message of a tracker which is not active. -/
def TrackerStatus.refusal : TrackerStatus → Option String
  | .active => none
  | .poisoned => some "dirty-write tracker requires VM teardown"
  | .stopping | .stopped => some "dirty-write tracker is not active"

namespace TrackerState

/-- What a fault is answered, and the tracker after it. -/
abbrev FaultResult := Except HvfDirtyWriteFaultError (Option HvfDirtyWriteFault) × TrackerState

variable (state : TrackerState)

def setPageRestoredWrite (page pageIndex : Nat) : TrackerState :=
  { state with regions := changeFirst (·.range.contains page) (·.restore pageIndex) state.regions }

def admitPage (memberIndex page : Nat) : TrackerState :=
  { state with lastAdmittedPages := state.lastAdmittedPages.setIfInBounds memberIndex (some page) }

/-- A fault on a page which has its write permission back. -/
def admitStale (memberIndex page : Nat) : FaultResult :=
  match state.lastAdmittedPages[memberIndex]? with
  | none => (.error (.invalidMemberIndex memberIndex), state)
  | some last =>
    if last = some page then (.error .noProgress, state)
    else (.ok (some ⟨page, false⟩), state.admitPage memberIndex page)

/-- A fault on a protected page, with the answer to the request to restore its permission. -/
def restoreWrite (memberIndex pageIndex page : Nat) (answer : Except String Unit) : FaultResult :=
  match GuestMemoryRange.new page state.pageSize, answer with
  | .error _, _ => (.error (.invalidState "dirty-write page range is invalid"), state)
  | .ok _, .error source =>
    (.error (.unprotectFailed ⟨0, source⟩), { state with status := .poisoned })
  | .ok pageRange, .ok () =>
    let state := state.setPageRestoredWrite page pageIndex
    match state.dirtyTracker.markRange pageRange with
    | (.error _, _) => (.error (.invalidState "dirty bitmap does not cover a protected page"),
        { state with status := .poisoned })
    | (.ok (), dirtyTracker) =>
      (.ok (some ⟨page, true⟩), { state with dirtyTracker }.admitPage memberIndex page)

def faultPage (exit : HvfExceptionExit) : Nat :=
  exit.physicalAddress - exit.physicalAddress % state.pageSize

def handleException (memberIndex : Nat) (exit : HvfExceptionExit) (answer : Except String Unit) :
    FaultResult :=
  let page := state.faultPage exit
  if !exit.matchesObservedHvfProtectedWriteSyndrome then (.ok none, state)
  else if maxSupportedVcpus ≤ memberIndex then (.error (.invalidMemberIndex memberIndex), state)
  else
    match state.status.refusal with
    | some message => (.error (.invalidState message), state)
    | none =>
      if wordLimit ≤ page + state.pageSize then (.ok none, state)
      else
        match state.regions.find? (·.range.contains page) with
        | none => (.ok none, state)
        | some region =>
          let pageIndex := (page - region.range.start) / state.pageSize
          match region.pageHasRestoredWrite pageIndex with
          | none => (.error (.invalidState "dirty-write page is outside its protection bitmap"),
              state)
          | some true => state.admitStale memberIndex page
          | some false => state.restoreWrite memberIndex pageIndex page answer

/-- The number of runs of restored pages, of which each takes one request. -/
def restoredWriteRunCount (region : TrackedRegion) : Option Nat := do
  let restored ← (List.range (region.range.size / state.pageSize)).mapM region.pageHasRestoredWrite
  return (restored.zip (false :: restored)).count (true, false)

/-- The failures among the requests which undo the first `completed` ones, last one first. -/
def rollbackFailures (answers : Nat → Except String Unit) (completed : Nat) :
    List HvfDirtyWriteProtectionFailure :=
  (List.range completed).reverse.filterMap fun index =>
    match answers (2 * completed - index) with
    | .error source => some ⟨index, source⟩
    | .ok () => none

/-- Protect every restored page again and begin a new epoch. -/
def resetEpochQuiesced (reserved : Bool) (answers : Nat → Except String Unit) :
    Except HvfDirtyWriteEpochResetError Nat × TrackerState :=
  match state.status.refusal, state.regions.mapM state.restoredWriteRunCount with
  | some message, _ => (.error (.invalidState message), state)
  | none, none => (.error (.invalidState "tracked page is outside its protection bitmap"), state)
  | none, some counts =>
    if !reserved then (.error .allocationFailed, state)
    else
      match (List.range counts.sum).findSome? fun index =>
        match answers index with
        | .error source => some (index, source)
        | .ok () => none with
      | some (index, source) =>
        let failures := rollbackFailures answers index
        (.error (.protectionFailed ⟨index, source⟩ failures),
          if failures.isEmpty then state else { state with status := .poisoned })
      | none =>
        let (epoch, dirtyTracker) := state.dirtyTracker.clearQuiesced
        (.ok epoch, { state with
          regions := state.regions.map fun region =>
            { region with restoredWriteWords := region.restoredWriteWords.map fun _ => 0#64 }
          dirtyTracker
          lastAdmittedPages := state.lastAdmittedPages.map fun _ => none })

variable (range : GuestMemoryRange) (permissions : HvfMemoryPermissions)

def prepareAdd (reserved : Bool) :
    Except HvfDirtyWriteMappingMutationError (Option TrackedRegion) := do
  if !permissions.write then return none
  (range.validateAlignment state.pageSize).mapError fun _ => .unalignedRegion
  rejectIf (state.regions.any (·.range.overlaps range)) .overlappingRegion
  rejectIf (!reserved) .allocationFailed
  let rounded ← okOr (checkedAdd (range.size / state.pageSize) 63) .allocationFailed
  return some ⟨range, permissions, List.replicate (rounded / 64) 0⟩

/-- The new region goes before the first one which starts above it. -/
def commitAdd (region : TrackedRegion) : TrackerState :=
  { state with regions := state.regions.takeWhile (·.range.start ≤ region.range.start) ++
      region :: state.regions.dropWhile (·.range.start ≤ region.range.start) }

def prepareRemove : Except HvfDirtyWriteMappingMutationError Bool := do
  if !permissions.write then return false
  rejectIf (!state.regions.any (·.range == range)) .missingRegion
  return true

def commitRemove : TrackerState :=
  { state with regions := state.regions.eraseP (·.range == range) }

/-- A mapping is added once the hypervisor mapped it, under the lock of the tracker. -/
def plug (reserved mapped : Bool) : TrackerState :=
  match state.status.refusal, state.prepareAdd range permissions reserved, mapped with
  | none, .ok (some region), true => state.commitAdd region
  | _, _, _ => state

def unplug (unmapped : Bool) : TrackerState :=
  match state.status.refusal, state.prepareRemove range permissions, unmapped with
  | none, .ok true, true => state.commitRemove range
  | _, _, _ => state

/-! ## Histories -/

/-- The write permission of a page is restored. -/
def Writable (page : Nat) : Prop :=
  ∃ region, state.regions.find? (·.range.contains page) = some region ∧
    region.pageHasRestoredWrite ((page - region.range.start) / state.pageSize) = some true

/-- A fault, a reset, or a change of the mapping. -/
inductive Event where
  | fault (memberIndex : Nat) (exit : HvfExceptionExit) (answer : Except String Unit)
  | reset (reserved : Bool) (answers : Nat → Except String Unit)
  | plug (range : GuestMemoryRange) (permissions : HvfMemoryPermissions) (reserved mapped : Bool)
  | unplug (range : GuestMemoryRange) (permissions : HvfMemoryPermissions) (unmapped : Bool)

/-- What an event does to the tracker. -/
def step : Event → TrackerState
  | .fault memberIndex exit answer => (state.handleException memberIndex exit answer).2
  | .reset reserved answers => (state.resetEpochQuiesced reserved answers).2
  | .plug range permissions reserved mapped => state.plug range permissions reserved mapped
  | .unplug range permissions unmapped => state.unplug range permissions unmapped

/-- The fault of a member which an event admits. -/
def admits (memberIndex : Nat) : Event → Option HvfDirtyWriteFault
  | .fault index exit answer =>
    if index = memberIndex then (state.handleException index exit answer).1.toOption.join else none
  | _ => none

/-- An event takes the memory of a page away. A removal which is refused does not. -/
def Unplugs (page : Nat) : Event → Prop
  | .unplug range permissions unmapped => state.status.refusal = none ∧
      state.prepareRemove range permissions = .ok true ∧ unmapped = true ∧
      range.contains page = true
  | _ => False

/-- An event after which the page is not writable, or not the same memory: a reset which answers
with its epoch, and memory which is plugged or unplugged there. -/
def Interrupts (page : Nat) : Event → Prop
  | .fault _ _ _ => False
  | .reset reserved answers => (state.resetEpochQuiesced reserved answers).1.isOk = true
  | .plug range permissions reserved mapped => state.status.refusal = none ∧
      (∃ region, state.prepareAdd range permissions reserved = .ok (some region)) ∧
      mapped = true ∧ range.contains page = true
  | .unplug range permissions unmapped => state.Unplugs page (.unplug range permissions unmapped)

/-- What happened since the last admitted fault of a member: whether its page stayed
writable without interruption, whether a first write restored it, and whether its memory was
unplugged. -/
structure Watch where
  page : Nat
  (held restored unplugged : Prop)

/-- What has been seen of the page last admitted for a member. -/
def observe (event : Event) (watch : Nat → Option Watch) (memberIndex : Nat) : Option Watch :=
  match state.admits memberIndex event with
  | some fault => some ⟨fault.page, (state.step event).Writable fault.page, False, False⟩
  | none => (watch memberIndex).map fun seen =>
    { page := seen.page
      held := seen.held ∧ (state.step event).Writable seen.page ∧
        ¬ state.Interrupts seen.page event
      restored := seen.restored ∨ ∃ other, state.admits other event = some ⟨seen.page, true⟩
      unplugged := seen.unplugged ∨ state.Unplugs seen.page event }

/-- A history of a tracker which has admitted no fault yet. -/
inductive Run : TrackerState → (Nat → Option Watch) → Prop
  | start {state : TrackerState}
      (fresh : state.lastAdmittedPages = Vector.replicate _ none) :
      Run state fun _ => none
  | step {state : TrackerState} {watch : Nat → Option Watch} (run : Run state watch)
      (event : Event) : Run (state.step event) (state.observe event watch)

section
variable {α : Type} (holds other : α → Bool) (change : α → α) (items : List α)

/-- A change of the first match changes no other lookup, or that of the same item. -/
theorem find?_changeFirst (same : ∀ item, other (change item) = other item) :
    (changeFirst holds change items).find? other = items.find? other ∨
      ∃ item, items.find? other = some item ∧
        (changeFirst holds change items).find? other = some (change item) := by
  induction items with
  | nil => exact .inl rfl
  | cons item items ih =>
    unfold changeFirst
    by_cases here : other item = true <;> split <;> simp [same, here, ih]

theorem find?_changeFirst_self (same : ∀ item, holds (change item) = holds item) :
    (changeFirst holds change items).find? holds = (items.find? holds).map change := by
  induction items with
  | nil => rfl
  | cons item items ih =>
    unfold changeFirst
    split <;> simp [*]

/-- An erased item was not the one looked up. -/
theorem find?_eraseP (apart : ∀ item, holds item = true → other item = false) :
    (items.eraseP holds).find? other = items.find? other := by
  induction items with
  | nil => rfl
  | cons item items ih =>
    by_cases here : holds item = true
    · simp [here, apart item here]
    · simp [here, List.find?_cons, ih]

end

variable {state range permissions} {memberIndex page : Nat} {exit : HvfExceptionExit}
  {answer : Except String Unit} {event : Event}

/-- What a fault on a page does. -/
inductive Fault (state : TrackerState) (memberIndex page : Nat) : FaultResult → Prop
  | passed {result after} (none : result.toOption.join = none)
      (progress : result = .error .noProgress →
        state.lastAdmittedPages[memberIndex]? = some (some page))
      (last : after.lastAdmittedPages = state.lastAdmittedPages)
      (keeps : ∀ page, state.Writable page → after.Writable page) :
      Fault state memberIndex page (result, after)
  | admitted {firstWrite after}
      (last : after.lastAdmittedPages =
        state.lastAdmittedPages.setIfInBounds memberIndex (some page))
      (keeps : ∀ page, state.Writable page → after.Writable page) (writable : after.Writable page)
      (first : firstWrite = true → ¬ state.Writable page) :
      Fault state memberIndex page (.ok (some ⟨page, firstWrite⟩), after)

/-- A fault on a page which is writable is admitted, unless it repeats the last one. -/
theorem admitStale_fault (writable : state.Writable page) :
    Fault state memberIndex page (state.admitStale memberIndex page) := by
  unfold admitStale
  split
  · exact .passed rfl (by simp) rfl fun _ => id
  next last found =>
    split
    next again => exact .passed rfl (fun _ => again ▸ found) rfl fun _ => id
    · exact .admitted rfl (fun _ => id) writable (by simp)

/-- Restoring a page keeps the others writable. -/
theorem Writable.set {other pageIndex : Nat} (writable : state.Writable page) :
    (state.setPageRestoredWrite other pageIndex).Writable page := by
  obtain ⟨region, found, isSet⟩ := writable
  rcases find?_changeFirst (·.range.contains other) (·.range.contains page) (·.restore pageIndex)
      state.regions fun _ => rfl with same | ⟨item, isItem, changed⟩
  · exact ⟨region, same.trans found, isSet⟩
  · cases found.symm.trans isItem
    refine ⟨_, changed, ?_⟩
    simp_all [TrackedRegion.pageHasRestoredWrite, TrackedRegion.restore, Bitmap.test_insert,
      setPageRestoredWrite]

section
variable {region : TrackedRegion}
  (found : state.regions.find? (·.range.contains page) = some region)
  (clear : region.pageHasRestoredWrite ((page - region.range.start) / state.pageSize) = some false)
include found clear

theorem writable_set : (state.setPageRestoredWrite page
    ((page - region.range.start) / state.pageSize)).Writable page := by
  refine ⟨_, (find?_changeFirst_self _ (TrackedRegion.restore _) _ fun _ => rfl).trans
    (congrArg _ found), ?_⟩
  simp_all [TrackedRegion.pageHasRestoredWrite, TrackedRegion.restore, Bitmap.test_insert,
    setPageRestoredWrite]

/-- A restored write makes its page writable, unless the protection fails. -/
theorem restoreWrite_fault : Fault state memberIndex page (state.restoreWrite memberIndex
    ((page - region.range.start) / state.pageSize) page answer) := by
  unfold restoreWrite
  split
  · exact .passed rfl (by simp) rfl fun _ => id
  · exact .passed rfl (by simp) rfl fun _ => id
  · dsimp only
    split
    · exact .passed rfl (by simp) rfl fun _ => Writable.set
    · refine .admitted rfl (fun _ => Writable.set) (writable_set found clear) ?_
      rintro - ⟨other, isOther, isSet⟩
      cases found.symm.trans isOther
      cases clear.symm.trans isSet

end

variable (state memberIndex exit answer) in
/-- Every exception is passed on, or admitted for its page. -/
theorem handleException_fault : Fault state memberIndex (state.faultPage exit)
    (state.handleException memberIndex exit answer) := by
  unfold handleException
  dsimp only
  repeat' split
  -- The state is unchanged unless the page lies in a tracked region.
  any_goals exact .passed rfl (by simp) rfl fun _ => id
  next region found _ isSet => exact admitStale_fault ⟨region, found, isSet⟩
  next region found _ clear => exact restoreWrite_fault found clear

section
variable {reserved : Bool} {region : TrackedRegion} (writable : state.Writable page)
  (prepared : state.prepareAdd range permissions reserved = .ok (some region))
include writable prepared

/-- Memory is plugged only where there is no tracked page. -/
theorem Writable.outside_plug : region.range = range ∧ ¬ range.contains page = true := by
  obtain ⟨old, found, -⟩ := writable
  unfold prepareAdd at prepared
  split at prepared
  · cases prepared
  · simp only [bind_eq_ok, rejectIf_eq_ok, pure_eq_ok, Option.some.injEq, exists_const] at prepared
    obtain ⟨_, -, apart, -, _, -, rfl⟩ := prepared
    refine ⟨rfl, fun inside => apart (List.any_eq_true.mpr ⟨old, List.mem_of_find?_eq_some found, ?_⟩)⟩
    exact GuestMemoryRange.overlaps_of_contains (by simpa using List.find?_some found) inside

/-- A region which is plugged keeps the writable pages. -/
theorem Writable.plug : (state.commitAdd region).Writable page := by
  obtain ⟨same, outside⟩ := writable.outside_plug prepared
  obtain ⟨old, found, isSet⟩ := writable
  refine ⟨old, ?_, isSet⟩
  unfold commitAdd
  rw [List.find?_append, List.find?_cons_of_neg (same ▸ outside), ← List.find?_append,
    List.takeWhile_append_dropWhile, found]

end

/-- A range which is unplugged keeps the writable pages outside it. -/
theorem Writable.unplug (writable : state.Writable page) (outside : ¬ range.contains page = true) :
    (state.commitRemove range).Writable page := by
  obtain ⟨old, found, isSet⟩ := writable
  refine ⟨old, (find?_eraseP _ _ _ fun region same => ?_).trans found, isSet⟩
  rw [beq_iff_eq.mp same]
  simpa using outside

/-- An event forgets every admitted page, or keeps the writable pages it does not unplug without
interruption and changes the admitted page of a member only by admitting a fault. -/
theorem step_cases (state : TrackerState) (event : Event) :
    (∀ member page : Nat, (state.step event).lastAdmittedPages[member]? ≠ some (some page)) ∨
    (∀ page, state.Writable page → ¬ state.Unplugs page event →
      (state.step event).Writable page ∧ ¬ state.Interrupts page event) ∧
    ∀ member page : Nat, (state.step event).lastAdmittedPages[member]? = some (some page) →
      match state.admits member event with
      | some fault => fault.page = page ∧ (state.step event).Writable page
      | none => state.lastAdmittedPages[member]? = some (some page) := by
  cases event with
  | fault index exit answer =>
    refine .inr ?_
    have fault := handleException_fault state index exit answer
    simp only [step, admits]
    generalize state.handleException index exit answer = outcome at fault
    cases fault with
    | passed none _ last keeps =>
      refine ⟨fun _ writable _ => ⟨keeps _ writable, not_false⟩, fun member page isLast => ?_⟩
      rw [none, ite_self]
      exact last ▸ isLast
    | admitted last keeps writable =>
      refine ⟨fun _ writable _ => ⟨keeps _ writable, not_false⟩, fun member page isLast => ?_⟩
      rw [last, Vector.getElem?_setIfInBounds] at isLast
      by_cases same : index = member
      · rw [if_pos same] at isLast ⊢
        split at isLast <;> cases isLast
        exact ⟨rfl, writable⟩
      · simpa [same] using isLast
  | reset reserved answers =>
    simp only [step, resetEpochQuiesced, admits, Interrupts]
    repeat' split
    all_goals first
      | exact .inr ⟨fun _ writable _ => ⟨writable, nofun⟩, fun _ _ => id⟩
      | exact .inl fun _ _ => by simp
  | plug range permissions reserved mapped =>
    simp only [step, plug, admits, Interrupts]
    split
    next region _ prepared =>
      exact .inr ⟨fun _ writable _ => ⟨writable.plug prepared, fun plugs =>
        (writable.outside_plug prepared).2 plugs.2.2.2⟩, fun _ _ => id⟩
    next idle =>
      refine .inr ⟨fun _ writable _ => ⟨writable, ?_⟩, fun _ _ => id⟩
      rintro ⟨active, ⟨region, prepared⟩, mapped, -⟩
      exact idle region active prepared mapped
  | unplug range permissions unmapped =>
    simp only [step, unplug, admits, Unplugs, Interrupts]
    split
    next active prepared =>
      refine .inr ⟨fun _ writable outside => ⟨writable.unplug fun inside => ?_, outside⟩,
        fun _ _ => id⟩
      exact outside ⟨active, prepared, rfl, inside⟩
    · exact .inr ⟨fun _ writable outside => ⟨writable, outside⟩, fun _ _ => id⟩

/-- A first admission is of a page which was not writable. -/
theorem not_writable_of_admits {index : Nat}
    (first : state.admits index event = some ⟨page, true⟩) : ¬ state.Writable page := by
  cases event with
  | fault index exit answer =>
    have fault := handleException_fault state index exit answer
    simp only [admits] at first
    generalize state.handleException index exit answer = outcome at fault first
    split at first
    · cases fault with
      | passed none => cases none.symm.trans first
      | admitted _ _ _ isFirst =>
        cases first
        exact isFirst rfl
    · cases first
  | reset | plug | unplug => cases first

variable {watch : Nat → Option Watch}

/-- What the last admitted page of a member says of the history. -/
theorem Run.watched (run : Run state watch)
    (last : state.lastAdmittedPages[memberIndex]? = some (some page)) :
    ∃ seen, watch memberIndex = some seen ∧ seen.page = page ∧
      (¬ seen.unplugged → seen.held ∧ ¬ seen.restored ∧ state.Writable page) := by
  induction run generalizing memberIndex page with
  | start fresh =>
    rw [fresh, Vector.getElem?_replicate] at last
    split at last <;> cases last
  | @step state watch run event ih =>
    rcases step_cases state event with forgets | ⟨keeps, changes⟩
    · exact absurd last (forgets _ _)
    · have change := changes _ _ last
      unfold observe
      cases admitted : state.admits memberIndex event with
      | some fault =>
        rw [admitted] at change
        obtain ⟨rfl, writable⟩ := change
        exact ⟨_, rfl, rfl, fun _ => ⟨writable, not_false, writable⟩⟩
      | none =>
        rw [admitted] at change
        obtain ⟨seen, isSeen, rfl, since⟩ := ih change
        rw [isSeen]
        refine ⟨_, rfl, rfl, fun plugged => ?_⟩
        obtain ⟨held, restored, writable⟩ := since (not_or.mp plugged).1
        have still := keeps _ writable (not_or.mp plugged).2
        refine ⟨⟨held, still⟩, not_or.mpr ⟨restored, ?_⟩, still.1⟩
        rintro ⟨other, first⟩
        exact not_writable_of_admits first writable

/-- A fault without progress repeats the last admission of its member. -/
theorem last_of_noProgress
    (refused : (state.handleException memberIndex exit answer).1 = .error .noProgress) :
    state.lastAdmittedPages[memberIndex]? = some (some (state.faultPage exit)) := by
  have fault := handleException_fault state memberIndex exit answer
  generalize state.handleException memberIndex exit answer = outcome at fault refused
  cases fault with
  | passed _ progress => exact progress refused
  | admitted => cases refused

/-- A fault reported as no progress repeats the last admitted one of its member on a page which
stayed writable without interruption meanwhile, and a fault on a page which a first write
restored since then is admitted, both unless the memory of the page was unplugged. -/
theorem no_progress_only_of_repeat (run : Run state watch) :
    ((state.handleException memberIndex exit answer).1 = .error .noProgress →
      ∃ seen, watch memberIndex = some seen ∧ seen.page = state.faultPage exit ∧
        (¬ seen.unplugged → seen.held)) ∧
    (exit.matchesObservedHvfProtectedWriteSyndrome = true → memberIndex < maxSupportedVcpus →
      state.status = .active → state.faultPage exit + state.pageSize < wordLimit →
      state.Writable (state.faultPage exit) →
      (∀ seen, watch memberIndex = some seen → seen.page = state.faultPage exit →
        seen.restored ∧ ¬ seen.unplugged) → (state.handleException memberIndex exit answer).1 =
        .ok (some ⟨state.faultPage exit, false⟩)) := by
  constructor
  · intro refused
    obtain ⟨seen, isSeen, samePage, since⟩ := run.watched (last_of_noProgress refused)
    exact ⟨seen, isSeen, samePage, fun plugged => (since plugged).1⟩
  · rintro observed supported active fits ⟨region, found, isSet⟩ overtaken
    have stale : state.handleException memberIndex exit answer =
        state.admitStale memberIndex (state.faultPage exit) := by
      simp [handleException, observed, Nat.not_le.mpr supported, active, TrackerStatus.refusal,
        Nat.not_le.mpr fits, found, isSet]
    rw [stale, admitStale, Vector.getElem?_eq_getElem supported]
    dsimp only
    split
    next again =>
      obtain ⟨seen, isSeen, samePage, since⟩ := run.watched
        ((Vector.getElem?_eq_getElem supported).trans (congrArg some again))
      obtain ⟨restored, plugged⟩ := overtaken seen isSeen samePage
      exact absurd restored (since plugged).2.1
    · rfl

def firstPage : GuestMemoryRange := ⟨0, 4096, Nat.succ_pos _, (by decide : 4096 < wordLimit)⟩

def writeFault : HvfExceptionExit := ⟨0x90000047, 0⟩

/-- A tracker of one protected page. -/
def onePage : TrackerState :=
  ⟨.active, 4096, [⟨firstPage, ⟨true, true, true⟩, [0]⟩], ⟨4096, 0, [⟨firstPage, [0]⟩]⟩,
    .replicate _ none⟩

theorem no_progress_only_of_repeat_onePage :
    ∃ seen, onePage.observe (.fault 0 writeFault (.ok ())) (fun _ => none) 0 = some seen ∧
      seen.page = 0 ∧ (¬ seen.unplugged → seen.held) :=
  (no_progress_only_of_repeat (.step (.start rfl) _)).1
    (show ((onePage.step (.fault 0 writeFault (.ok ()))).handleException 0 writeFault
      (.ok ())).1 = _ from rfl)

/-- The memory is unplugged and plugged again after a fault of the first member. Its next
fault is refused, though the second member restored the page only meanwhile. -/
theorem replugged_page_refused :
    ∃ state watch seen, Run state watch ∧ watch 0 = some seen ∧ ¬ seen.held ∧ seen.restored ∧
      (state.handleException 0 writeFault (.ok ())).1 = .error .noProgress := by
  refine ⟨_, _, _, .step (.step (.step (.step
    (.start (show onePage.lastAdmittedPages = _ from rfl)) (.fault 0 writeFault (.ok ())))
    (.unplug firstPage ⟨true, true, true⟩ true)) (.plug firstPage ⟨true, true, true⟩ true true))
    (.fault 1 writeFault (.ok ())), rfl, ?_, ?_, rfl⟩
  · rintro ⟨⟨⟨-, ⟨region, found, -⟩, -⟩, -⟩, -⟩
    cases found
  · exact .inr ⟨1, rfl⟩

end TrackerState
end Bangbang.Hvf
