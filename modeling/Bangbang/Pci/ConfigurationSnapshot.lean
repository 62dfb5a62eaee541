import Bangbang.Pci.Configuration

/-!
# Fidelity of a PCI configuration snapshot

Guest accesses change writable register bits and pending probes only: every reachable
configuration keeps its profile. A snapshot of such a configuration is taken, and
applying it to another one of the same profile gives the configuration it was taken
from: the supplied bytes carry every writable bit, and the rest already agrees.
-/

namespace Bangbang.Pci

open Memory MaskedWord Bangbang.Action List

/-- What a guest cannot change of an installed BAR register. -/
def installed (entry : Nat × PciBarRegister) : Nat × BitVec 32 × BitVec 32 :=
  (entry.1, entry.2.encodedAddress, entry.2.encodedSize)

@[simp] theorem map_fst_of_installed {first second : List (Nat × PciBarRegister)}
    (same : first.map installed = second.map installed) :
    first.map Prod.fst = second.map Prod.fst := by
  have indices := congrArg (map Prod.fst) same
  simpa [Function.comp_def, installed] using indices

namespace PciType0Configuration

variable {first second third configuration source target : PciType0Configuration}
  {profile : PciType0SnapshotProfile}

/-- The two configurations differ in writable bits and pending probes only. -/
structure SameProfile (first second : PciType0Configuration) : Prop where
  length : first.registers.length = second.registers.length
  writableMasks : first.writableMasks = second.writableMasks
  immutable : ∀ (index : Nat) (mask : BitVec 32), first.writableMasks[index]? = some mask →
    AgreeOutside mask (first.registers[index]?.getD 0) (second.registers[index]?.getD 0)
  bars : first.bars.map installed = second.bars.map installed
  lastCapability : first.lastCapability = second.lastCapability

/-- The shape which every builder's call keeps. -/
structure WellFormed (configuration : PciType0Configuration) : Prop where
  registers : configuration.registers.length = pciConfigRegisterCount
  writableMasks : configuration.writableMasks.length = pciConfigRegisterCount
  bars : (configuration.bars.map Prod.fst).Nodup

namespace SameProfile

theorem refl (configuration) : SameProfile configuration configuration where
  length := rfl
  writableMasks := rfl
  immutable _ mask _ := AgreeOutside.refl mask _
  bars := rfl
  lastCapability := rfl

theorem symm (same : SameProfile first second) : SameProfile second first where
  length := same.length.symm
  writableMasks := same.writableMasks.symm
  immutable index mask found := (same.immutable index mask (same.writableMasks ▸ found)).symm
  bars := same.bars.symm
  lastCapability := same.lastCapability.symm

theorem trans (one : SameProfile first second) (two : SameProfile second third) :
    SameProfile first third where
  length := one.length.trans two.length
  writableMasks := one.writableMasks.trans two.writableMasks
  immutable index mask found :=
    (one.immutable index mask found).trans (two.immutable index mask (one.writableMasks ▸ found))
  bars := one.bars.trans two.bars
  lastCapability := one.lastCapability.trans two.lastCapability

/-- A configuration of the same profile is well formed as well. -/
theorem wellFormed (same : SameProfile first second) (shape : WellFormed first) :
    WellFormed second where
  registers := same.length ▸ shape.registers
  writableMasks := same.writableMasks ▸ shape.writableMasks
  bars := map_fst_of_installed same.bars ▸ shape.bars

/-- A change of pending probes keeps the profile. -/
theorem updateBar (configuration index) {change}
    (keeps : ∀ bar, installed (index, change bar) = installed (index, bar)) :
    SameProfile configuration
      { configuration with bars := Pci.updateBar index change configuration.bars } where
  length := rfl
  writableMasks := rfl
  immutable _ mask _ := AgreeOutside.refl mask _
  bars := by
    simp only [Pci.updateBar, map_map]
    refine map_congr_left fun entry _ => ?_
    by_cases here : entry.1 = index
    · subst here
      simp [keeps]
    · simp [here]
  lastCapability := rfl

/-- A write of a register under its mask keeps the profile. -/
theorem setRegister {index register} (found : configuration.registers[index]? = some register)
    (reached value) :
    SameProfile configuration
      { configuration with
        registers := configuration.registers.set index
          (splice (reached &&& configuration.writableMasks[index]?.getD 0) register value) } where
  length := List.length_set.symm
  writableMasks := rfl
  immutable other mask masked := by
    by_cases here : index = other
    · subst here
      have inside := (List.getElem?_eq_some_iff.mp found).1
      simp only [List.getElem?_set_self inside, found, Option.getD_some, masked]
      exact AgreeOutside.splice fun bit reached => by simp_all
    · simp only [List.getElem?_set_ne here]
      exact AgreeOutside.refl mask _
  bars := rfl
  lastCapability := rfl

end SameProfile

/-! ## Guest accesses keep the profile -/

/-- A read keeps the profile. -/
theorem readConfig_keeps (offset data) : Action.Keeps SameProfile (readConfig offset data) := by
  refine (keeps_check SameProfile.refl _).bind (@SameProfile.trans) ?_
  rintro ⟨registerIndex, registerOffset⟩ configuration
  simp only [outcome_get_bind]
  split
  · split
    · exact SameProfile.updateBar configuration _ fun _ => rfl
    · exact SameProfile.refl configuration
  · exact SameProfile.refl configuration

/-- A write keeps the profile. -/
theorem writeConfig_keeps (offset data) : Action.Keeps SameProfile (writeConfig offset data) := by
  refine (keeps_check SameProfile.refl _).bind (@SameProfile.trans) ?_
  rintro ⟨registerIndex, registerOffset⟩ configuration
  simp only [outcome_get_bind]
  split
  · exact SameProfile.updateBar configuration _ fun _ => rfl
  · split
    · exact SameProfile.refl configuration
    · next found => exact SameProfile.setRegister found _ _

theorem serve_keeps (access) : Action.Keeps SameProfile (serve access) := by
  cases access with
  | read offset data => exact readConfig_keeps offset data
  | write offset data =>
    exact (writeConfig_keeps offset data).bind (@SameProfile.trans) fun _ =>
      keeps_pure SameProfile.refl _

/-- Every run of accesses keeps the profile. -/
theorem run_same (configuration accesses) :
    SameProfile configuration (configuration.run accesses).2 := by
  induction accesses generalizing configuration with
  | nil => exact SameProfile.refl configuration
  | cons access rest ih => exact (serve_keeps access configuration).trans (ih _)

/-! ## The guest state of a configuration -/

/-- A register of the file, or zero beyond its end. -/
def wordAt (file : List (BitVec 32)) (index : Nat) : BitVec 32 := file[index]?.getD 0

/-- The register and byte indices which hold a writable bit, in order. -/
def positions (writableMasks : List (BitVec 32)) : List (Nat × Nat) :=
  (List.range writableMasks.length).flatMap fun registerIndex =>
    ((List.range pciConfigRegisterSize).filter fun byteIndex =>
      byteOf (wordAt writableMasks registerIndex) byteIndex ≠ 0).map fun byteIndex =>
        (registerIndex, byteIndex)

/-- A byte under its mask. -/
def capturedByte (registers writableMasks : List (BitVec 32)) (position : Nat × Nat) :
    PciType0WritableByte where
  offset := position.1 * pciConfigRegisterSize + position.2
  value := byteOf (wordAt registers position.1) position.2 &&&
    byteOf (wordAt writableMasks position.1) position.2
  writableMask := byteOf (wordAt writableMasks position.1) position.2

/-- The state which a snapshot keeps. -/
def guestState (configuration : PciType0Configuration) : PciType0GuestState where
  writableBytes := (positions configuration.writableMasks).map
    (capturedByte configuration.registers configuration.writableMasks)
  barProbes := configuration.bars.map fun (index, bar) => ⟨index, bar.probePending⟩

variable {writableMasks : List (BitVec 32)} {registerIndex byteIndex : Nat}

/-- The captured positions are those of writable bytes. -/
theorem mem_positions :
    (registerIndex, byteIndex) ∈ positions writableMasks ↔
      registerIndex < writableMasks.length ∧ byteIndex < pciConfigRegisterSize ∧
        byteOf (wordAt writableMasks registerIndex) byteIndex ≠ 0 := by
  simp [positions]

/-- A byte with a writable bit has a place in the guest state. -/
theorem mem_positions_of_bit {registerIndex bit} (inside : bit < 32)
    (writable : (wordAt writableMasks registerIndex).getLsbD bit) :
    (registerIndex, bit / 8) ∈ positions writableMasks := by
  rw [mem_positions]
  refine ⟨?_, by simp only [pciConfigRegisterSize]; omega, fun empty => ?_⟩
  · by_contra beyond
    simp [wordAt, getElem?_eq_none (Nat.le_of_not_lt beyond)] at writable
  · have whole : 8 * (bit / 8) + bit % 8 = bit := by omega
    have absent := congrArg (·.getLsbD (bit % 8)) empty
    simp only [getLsbD_byteOf, whole, writable] at absent
    have short : bit % 8 < 8 := by omega
    simp [short] at absent

variable {registers writableMasks : List (BitVec 32)}

theorem zip_zipIdx_eq (length : registers.length = writableMasks.length) :
    (registers.zip writableMasks).zipIdx =
      (List.range writableMasks.length).map fun index =>
        ((wordAt registers index, wordAt writableMasks index), index) := by
  apply ext_getElem
  · simp [length]
  · intro index inZip _
    have inside : index < writableMasks.length := by simp at inZip; omega
    simp [wordAt, inside, length]

theorem registerWritableBytes_eq {registerIndex} (inside : registerIndex < pciConfigRegisterCount) :
    registerWritableBytes registerIndex (wordAt registers registerIndex)
        (wordAt writableMasks registerIndex) =
      .ok (((List.range pciConfigRegisterSize).filter fun byteIndex =>
        byteOf (wordAt writableMasks registerIndex) byteIndex ≠ 0).map fun byteIndex =>
          capturedByte registers writableMasks (registerIndex, byteIndex)) := by
  rw [registerWritableBytes, mapM_eq_ok, map_map]
  refine map_congr_left fun byteIndex member => ?_
  have short : byteIndex < 4 := by
    simpa [pciConfigRegisterSize] using (mem_filter.mp member).1
  have small : registerIndex < 1024 := inside
  have start : registerIndex * pciConfigRegisterSize < wordLimit := by
    rw [wordLimit_eq, pciConfigRegisterSize]
    omega
  have offset : registerIndex * pciConfigRegisterSize + byteIndex < 2 ^ 16 := by
    rw [pciConfigRegisterSize]
    omega
  have word : registerIndex * pciConfigRegisterSize + byteIndex < wordLimit :=
    offset.trans (by decide)
  simp only [checkedMul, checkedAdd, start, word, if_true, okOr, ok_bind, rejectIf, ge_iff_le,
    Nat.not_le.mpr offset, if_false, Function.comp_apply]
  rfl

/-- A configuration passes the check of its own profile. -/
theorem checkProfile_eq (same : SameProfile configuration profile.configuration) :
    configuration.checkProfile profile = .ok () := by
  simp only [checkProfile, bind_eq_ok, rejectIf_eq_ok, forM_eq_ok]
  refine ⟨(), ?_, (), ?_, ?_⟩
  · have bars : configuration.bars.length = profile.configuration.bars.length := by
      simpa using congrArg length same.bars
    simp [same.length, same.writableMasks, bars, same.lastCapability]
  · rintro ⟨⟨actual, expected⟩, writableMask⟩ member
    obtain ⟨index, found⟩ := mem_iff_getElem?.mp member
    simp only [getElem?_zip_eq_some] at found
    obtain ⟨⟨actualFound, expectedFound⟩, masked⟩ := found
    have agree := same.immutable index writableMask masked
    rw [actualFound, expectedFound, Option.getD_some, Option.getD_some] at agree
    exact not_not_intro (xor_and_not_eq_zero_iff.mpr agree)
  · rintro ⟨⟨actualIndex, actual⟩, ⟨expectedIndex, expected⟩⟩ member
    obtain ⟨index, found⟩ := mem_iff_getElem?.mp member
    simp only [getElem?_zip_eq_some] at found
    have entry := congrArg (·[index]?) same.bars
    simp only [getElem?_map, found.1, found.2, Option.map_some, Option.some.injEq,
      installed, Prod.mk.injEq] at entry
    simp [entry]

/-- A configuration which has its profile can be captured. -/
theorem snapshotGuestState_eq (same : SameProfile configuration profile.configuration)
    (shape : WellFormed configuration) :
    configuration.snapshotGuestState profile .granted = .ok configuration.guestState := by
  have length : configuration.registers.length = configuration.writableMasks.length :=
    shape.registers.trans shape.writableMasks.symm
  have captured : ((configuration.registers.zip configuration.writableMasks).zipIdx.mapM
      fun entry => registerWritableBytes entry.2 entry.1.1 entry.1.2) =
        .ok ((range configuration.writableMasks.length).map fun registerIndex =>
          ((range pciConfigRegisterSize).filter fun byteIndex =>
            byteOf (wordAt configuration.writableMasks registerIndex) byteIndex ≠ 0).map
              fun byteIndex => capturedByte configuration.registers configuration.writableMasks
                (registerIndex, byteIndex)) := by
    rw [mapM_eq_ok, zip_zipIdx_eq length, map_map, map_map]
    refine map_congr_left fun registerIndex member => ?_
    exact registerWritableBytes_eq (shape.writableMasks ▸ mem_range.mp member)
  simp only [snapshotGuestState, checkProfile_eq same, ok_bind, SnapshotReservations.granted]
  refine bind_eq_ok.mpr ⟨(), by simp, bind_eq_ok.mpr ⟨_, captured, bind_eq_ok.mpr ⟨(), by simp, ?_⟩⟩⟩
  simp only [pure_eq_ok, guestState, positions, map_flatMap, map_map, Function.comp_def]
  rw [flatMap_def]

/-! ## Applying a guest state -/

/-- The writable bits of the given places come from the source, all others from before. -/
structure Supplied (source writableMasks : List (BitVec 32)) (places : List (Nat × Nat))
    (before after : List (BitVec 32)) : Prop where
  length : after.length = before.length
  bits : ∀ index bit, bit < 32 → (wordAt after index).getLsbD bit =
    if (index, bit / 8) ∈ places ∧ (wordAt writableMasks index).getLsbD bit then
      (wordAt source index).getLsbD bit
    else (wordAt before index).getLsbD bit

variable {registers : List (BitVec 32)}

theorem applyWritableByte_supplies (source writableMasks)
    (inFile : registerIndex < registers.length) (inRegister : byteIndex < pciConfigRegisterSize) :
    ∃ next, applyWritableByte registers
        (capturedByte source writableMasks (registerIndex, byteIndex)) = .ok next ∧
      Supplied source writableMasks [(registerIndex, byteIndex)] registers next := by
  simp only [pciConfigRegisterSize] at inRegister
  have quotient : (registerIndex * 4 + byteIndex) / 4 = registerIndex := by omega
  have remainder : (registerIndex * 4 + byteIndex) % 4 = byteIndex := by omega
  simp only [applyWritableByte, capturedByte, pciConfigRegisterSize, quotient, remainder,
    getElem?_eq_getElem inFile, okOr, ok_bind]
  refine ⟨_, rfl, length_set, fun index bit small => ?_⟩
  by_cases here : registerIndex = index
  · subst here
    simp only [wordAt, getElem?_set_self inFile, Option.getD_some,
      getElem?_eq_getElem inFile, getLsbD_splice_placed _ _ _ small, mem_singleton,
      Prod.mk.injEq, true_and]
  · have elsewhere : ¬ index = registerIndex := fun same => here same.symm
    simp [wordAt, getElem?_set_ne here, elsewhere]

/-- Supplying the bytes of some places one after the other supplies them all. -/
theorem applyWritableBytes_supplies (source writableMasks) {places}
    (inside : ∀ place ∈ places, place.1 < registers.length ∧ place.2 < pciConfigRegisterSize) :
    ∃ final, (places.map (capturedByte source writableMasks)).foldlM applyWritableByte registers =
        .ok final ∧ Supplied source writableMasks places registers final := by
  induction places generalizing registers with
  | nil => exact ⟨registers, rfl, rfl, by simp⟩
  | cons place places ih =>
    obtain ⟨inFile, inRegister⟩ := inside place mem_cons_self
    obtain ⟨next, applied, supplied⟩ :=
      applyWritableByte_supplies source writableMasks inFile inRegister
    have others : ∀ place ∈ places,
        place.1 < next.length ∧ place.2 < pciConfigRegisterSize := by
      rw [supplied.length]
      exact fun place member => inside place (mem_cons_of_mem _ member)
    obtain ⟨final, folded, rest⟩ := ih others
    refine ⟨final, ?_, rest.length.trans supplied.length, fun index bit small => ?_⟩
    · rw [map_cons, foldlM_cons, applied, ok_bind, folded]
    · rw [rest.bits index bit small, supplied.bits index bit small]
      by_cases writable : (wordAt writableMasks index).getLsbD bit
      · by_cases later : (index, bit / 8) ∈ places
        · simp [writable, later]
        · simp [writable, later]
      · simp [writable]

/-- Every writable byte of the source, supplied to a configuration of the same profile. -/
theorem registers_eq_of_supplied (same : SameProfile source target) {final}
    (length : source.registers.length = source.writableMasks.length)
    (supplied : Supplied source.registers source.writableMasks (positions source.writableMasks)
      target.registers final) : final = source.registers := by
  apply ext_getElem?
  intro index
  have lengths : final.length = source.registers.length := supplied.length.trans same.length.symm
  by_cases inside : index < source.registers.length
  · have words : wordAt final index = wordAt source.registers index := by
      apply BitVec.eq_of_getLsbD_eq
      intro bit small
      rw [supplied.bits index bit small]
      by_cases writable : (wordAt source.writableMasks index).getLsbD bit
      · rw [if_pos ⟨mem_positions_of_bit small writable, writable⟩]
      · rw [if_neg (fun both => writable both.2)]
        have masked : source.writableMasks[index]? = some (wordAt source.writableMasks index) := by
          simp [wordAt, getElem?_eq_getElem (length ▸ inside)]
        exact ((same.immutable index _ masked) bit (by simpa using writable)).symm
    simpa [wordAt, inside, lengths] using words
  · rw [getElem?_eq_none (Nat.le_of_not_lt inside),
      getElem?_eq_none (lengths ▸ Nat.le_of_not_lt inside)]

variable {bars : List (Nat × PciBarRegister)} {index : Nat}

theorem updateBar_of_absent (change : PciBarRegister → PciBarRegister)
    (absent : index ∉ bars.map Prod.fst) : updateBar index change bars = bars := by
  conv_rhs => rw [← map_id bars]
  refine map_congr_left fun entry member => if_neg fun here => ?_
  exact absent (here ▸ mem_map_of_mem member)

/-- Supplying the probes of `rest` behind BAR registers of other indices. -/
theorem applyBarProbes_eq {before rest found : List (Nat × PciBarRegister)}
    (same : rest.map installed = found.map installed)
    (distinct : ((before ++ rest).map Prod.fst).Nodup) :
    (rest.map fun entry => (⟨entry.1, entry.2.probePending⟩ : PciType0BarProbeState)).foldlM
      applyBarProbe (before ++ found) = .ok (before ++ rest) := by
  induction rest generalizing before found with
  | nil =>
    have empty : found = [] := by simpa using same.symm
    simp [empty, pure, Except.pure]
  | cons entry rest ih =>
    obtain ⟨index, bar⟩ := entry
    obtain _ | ⟨⟨otherIndex, other⟩, found⟩ := found
    · simp at same
    · simp only [map_cons, cons.injEq, installed, Prod.mk.injEq] at same
      obtain ⟨⟨rfl, address, size⟩, same⟩ := same
      have unique := distinct
      rw [map_append, map_cons, nodup_middle, nodup_cons, mem_append, not_or] at unique
      obtain ⟨⟨notBefore, notAfter⟩, -⟩ := unique
      rw [map_fst_of_installed same] at notAfter
      have present : ((before ++ (index, other) :: found).lookup index).isSome := by
        simp only [lookup_isSome_iff, mem_append, mem_cons, beq_iff_eq]
        exact ⟨(index, other), .inr (.inl rfl), rfl⟩
      obtain ⟨current, looked⟩ := Option.isSome_iff_exists.mp present
      have updated : applyBarProbe (before ++ (index, other) :: found) ⟨index, bar.probePending⟩ =
          .ok (before ++ [(index, bar)] ++ found) := by
        simp only [applyBarProbe, looked, okOr, ok_bind, updateBar, map_append,
          map_cons]
        have first := updateBar_of_absent
          (fun bar' => { bar' with probePending := bar.probePending }) notBefore
        have last := updateBar_of_absent
          (fun bar' => { bar' with probePending := bar.probePending }) notAfter
        simp only [updateBar] at first last
        rw [first, last]
        simp [pure, Except.pure, ← address, ← size]
      rw [map_cons, foldlM_cons, updated, ok_bind, ih same (by simpa using distinct)]
      simp

/-- The supplied bytes name the bytes which the target itself would keep. -/
theorem suppliedBytes_pass (masks : target.writableMasks = source.writableMasks) :
    (target.guestState.writableBytes.zip source.guestState.writableBytes).forM
      (fun (expected, supplied) =>
        rejectIf (expected.offset ≠ supplied.offset ∨
          expected.writableMask ≠ supplied.writableMask ∨
          supplied.value &&& ~~~supplied.writableMask ≠ 0#8)
            PciType0SnapshotError.profileMismatch) = .ok () := by
  simp only [guestState, masks, zip_map', forM_eq_ok, forall_mem_map, rejectIf_eq_ok]
  intro position _
  simp only [capturedByte, ne_eq, not_true_eq_false, false_or, not_not]
  rw [BitVec.and_assoc, BitVec.and_not_self]
  exact BitVec.and_zero

/-- The supplied probes name the BAR registers which the target has. -/
theorem suppliedProbes_pass (same : source.bars.map installed = target.bars.map installed) :
    (target.guestState.barProbes.zip source.guestState.barProbes).forM
      (fun (expected, supplied) => rejectIf (expected.index ≠ supplied.index)
        PciType0SnapshotError.profileMismatch) = .ok () := by
  rw [forM_eq_ok]
  rintro ⟨expected, supplied⟩ member
  obtain ⟨place, found⟩ := mem_iff_getElem?.mp member
  simp only [guestState, getElem?_zip_eq_some, getElem?_map, Option.map_eq_some_iff]
    at found
  obtain ⟨⟨targetBar, targetFound, rfl⟩, ⟨sourceBar, sourceFound, rfl⟩⟩ := found
  have entry := congrArg (·[place]?) (map_fst_of_installed same)
  simp only [getElem?_map, targetFound, sourceFound, Option.map_some, Option.some.injEq]
    at entry
  simp [entry]

/-- Applying the guest state of one configuration to another of the same profile gives
the first one. -/
theorem applyGuestState_eq (sourceSame : SameProfile source profile.configuration)
    (targetSame : SameProfile target profile.configuration)
    (shape : WellFormed profile.configuration) :
    outcome (applyGuestState profile source.guestState .granted .granted) target =
      (.ok (), source) := by
  have same : SameProfile source target := sourceSame.trans targetSame.symm
  have sourceShape : WellFormed source := sourceSame.symm.wellFormed shape
  have targetShape : WellFormed target := targetSame.symm.wellFormed shape
  have inside : ∀ place ∈ positions source.writableMasks,
      place.1 < target.registers.length ∧ place.2 < pciConfigRegisterSize := by
    rintro ⟨registerIndex, byteIndex⟩ member
    obtain ⟨inFile, inRegister, -⟩ := mem_positions.mp member
    rw [sourceShape.writableMasks, ← targetShape.registers] at inFile
    exact ⟨inFile, inRegister⟩
  obtain ⟨registers, applied, supplied⟩ :=
    applyWritableBytes_supplies source.registers source.writableMasks inside
  have restored := registers_eq_of_supplied same
    (sourceShape.registers.trans sourceShape.writableMasks.symm) supplied
  have probes := @applyBarProbes_eq [] _ _ same.bars sourceShape.bars
  have candidate : { target with registers, bars := source.bars } = source := by
    rw [restored, ← same.writableMasks, ← same.lastCapability]
  have bars : target.bars.length = source.bars.length := by
    simpa using (congrArg length same.bars).symm
  simp only [applyGuestState, outcome_get_bind, outcome_check_bind_eq_ok]
  refine ⟨_, snapshotGuestState_eq targetSame targetShape, (), ?_, (),
    suppliedBytes_pass same.writableMasks.symm, (), suppliedProbes_pass same.bars, registers,
    applied, source.bars, probes, source.guestState, ?_, (), ?_, ?_⟩
  · simp [guestState, same.writableMasks, bars]
  · rw [candidate]
    exact snapshotGuestState_eq sourceSame sourceShape
  · simp
  · rw [candidate]
    rfl

/-- A refused application leaves the configuration. -/
theorem applyGuestState_kept (guestState reserves candidateReserves) {error}
    (failed : (outcome (applyGuestState profile guestState reserves candidateReserves)
      configuration).1 = .error error) :
    (outcome (applyGuestState profile guestState reserves candidateReserves)
      configuration).2 = configuration := by
  have ensures : Action.Ensures (applyGuestState profile guestState reserves candidateReserves)
      configuration (fun _ _ => True) fun _ final => final = configuration := by
    simp only [applyGuestState, ensures_bind, ensures_get, ensures_check,
      ensures_set, implies_true, and_self]
  obtain ⟨_, succeeded, -⟩ | ⟨_, -, kept⟩ := ensures.cases
  · rw [failed] at succeeded
    cases succeeded
  · exact kept

/-! ## Every built profile -/

theorem insertBar_perm {bar} (absent : index ∉ bars.map Prod.fst) :
    (insertBar index bar bars).Perm ((index, bar) :: bars) := by
  induction bars with
  | nil => exact List.Perm.refl _
  | cons entry rest ih =>
    obtain ⟨other, found⟩ := entry
    rw [map_cons, mem_cons, not_or] at absent
    rw [insertBar]
    split
    · exact List.Perm.refl _
    · rw [if_neg absent.1]
      exact ((ih absent.2).cons _).trans (List.Perm.swap ..)

theorem nodup_insertBar {bar} (absent : index ∉ bars.map Prod.fst)
    (distinct : (bars.map Prod.fst).Nodup) : ((insertBar index bar bars).map Prod.fst).Nodup :=
  ((insertBar_perm absent).map Prod.fst).nodup_iff.mpr (nodup_cons.mpr ⟨absent, distinct⟩)

/-- A new configuration is well formed. -/
theorem wellFormed_new (vendorId deviceId) (revisionId)
    (classCode) (subclass programmingInterface)
    (subsystemVendorId subsystemId) :
    WellFormed (new vendorId deviceId revisionId classCode subclass programmingInterface
      subsystemVendorId subsystemId) := by
  constructor <;> simp [new, setRegister, setWritableMask]

variable {final : PciType0Configuration}

/-- An installed BAR keeps the configuration well formed. -/
theorem WellFormed.installBarRange (shape : WellFormed configuration)
    {range addressSpace prefetchable}
    (done : configuration.installBarRange index range addressSpace prefetchable = .ok final) :
    WellFormed final := by
  simp only [PciType0Configuration.installBarRange, bind_eq_ok, rejectIf_eq_ok, forM_eq_ok,
    pure_eq_ok] at done
  obtain ⟨-, -, typeBits, -, -, free, rfl⟩ := done
  refine ⟨shape.registers, shape.writableMasks, ?_⟩
  have absent : ∀ register ∈ range' index (if addressSpace = .memory64 then 2 else 1),
      register ∉ configuration.bars.map Prod.fst := by
    intro register member present
    refine free register member ?_
    obtain ⟨entry, found, rfl⟩ := mem_map.mp present
    simp only [lookup_isSome_iff, beq_iff_eq]
    exact ⟨entry, found, rfl⟩
  cases addressSpace with
  | memory32 => exact nodup_insertBar (absent index (by simp)) shape.bars
  | memory64 =>
    have low := absent index (by simp)
    refine nodup_insertBar (fun present => ?_) (nodup_insertBar low shape.bars)
    rw [((insertBar_perm low).map Prod.fst).mem_iff, map_cons, mem_cons] at present
    rcases present with same | present
    · simp at same
    · exact absent (index + 1) (by simp) present

theorem length_setFileByte (file offset value) :
    (setFileByte file offset value).length = file.length :=
  length_modify ..

variable (shape : WellFormed configuration)
include shape

theorem WellFormed.setConfigurationByte (offset value) :
    WellFormed (configuration.setConfigurationByte offset value) :=
  ⟨(length_setFileByte ..).trans shape.registers, shape.writableMasks, shape.bars⟩

theorem WellFormed.setWritableConfigurationByte (offset value) :
    WellFormed (configuration.setWritableConfigurationByte offset value) :=
  ⟨shape.registers, (length_setFileByte ..).trans shape.writableMasks, shape.bars⟩

theorem WellFormed.setRegister (index value) : WellFormed (configuration.setRegister index value) :=
  ⟨length_set.trans shape.registers, shape.writableMasks, shape.bars⟩

/-- A builder which sets one byte at a time keeps the shape. -/
theorem WellFormed.foldl {α : Type} {set} (entries : List α)
    (keeps : ∀ {configuration}, WellFormed configuration →
      ∀ entry, WellFormed (set configuration entry)) :
    WellFormed (entries.foldl set configuration) :=
  foldlRecOn entries set shape fun _ shape entry _ => keeps shape entry

/-- An added capability keeps the configuration well formed. -/
theorem WellFormed.addCapability {id body bodyWritableMask offset}
    (done : configuration.addCapability id body bodyWritableMask = .ok (offset, final)) :
    WellFormed final := by
  simp only [PciType0Configuration.addCapability, bind_eq_ok, rejectIf_eq_ok,
    pure_eq_ok, Prod.mk.injEq] at done
  obtain ⟨-, -, totalLength, -, -, -, stop, -, -, -, -, -, rfl, rfl⟩ := done
  suffices built : WellFormed (PciType0Configuration.setRegister _ _ _) from
    ⟨built.registers, built.writableMasks, built.bars⟩
  refine WellFormed.setRegister ?_ _ _
  refine WellFormed.foldl ?_ _ fun shape entry => shape.setWritableConfigurationByte _ entry.1
  refine WellFormed.foldl ?_ _ fun shape entry => shape.setConfigurationByte _ entry.1
  refine WellFormed.setWritableConfigurationByte ?_ _ _
  refine WellFormed.setWritableConfigurationByte ?_ _ _
  refine WellFormed.setConfigurationByte ?_ _ _
  refine WellFormed.setConfigurationByte ?_ _ _
  exact shape.setConfigurationByte _ _

end PciType0Configuration

namespace PciType0SnapshotProfile

open PciType0Configuration

variable {profile : PciType0SnapshotProfile}

theorem wellFormed_change (shape : WellFormed profile.configuration) (step) :
    WellFormed (profile.change step).configuration := by
  cases step with
  | installBar index range addressSpace prefetchable =>
    rw [change]
    split
    · next done => exact shape.installBarRange done
    · exact shape
  | addCapability id body bodyWritableMask =>
    rw [change]
    split
    · next done => exact shape.addCapability done
    · exact shape

/-- Every profile has a well formed configuration. -/
theorem wellFormed_build (shape : WellFormed profile.configuration) (changes) :
    WellFormed (profile.build changes).configuration := by
  induction changes generalizing profile with
  | nil => exact shape
  | cons step changes ih => exact ih (wellFormed_change shape step)

/-- Guest accesses to a configuration of any profile keep everything but its writable
bits and pending probes. Where the lists of a snapshot can be reserved, its state is captured
and applied to any other reachable configuration of the profile, which from there on answers
every access as the captured one would. A refused application changes nothing, reserved or
not. -/
theorem guest_state_fidelity (vendorId deviceId : BitVec 16) (revisionId : Byte)
    (classCode : PciClassCode) (subclass programmingInterface : Byte)
    (subsystemVendorId subsystemId : BitVec 16) (changes : List Change) :
    let profile := (new vendorId deviceId revisionId classCode subclass programmingInterface
      subsystemVendorId subsystemId).build changes
    (∀ accesses, let source := (profile.configuration.run accesses).2
      SameProfile profile.configuration source ∧
      ∃ state, source.snapshotGuestState profile .granted = .ok state ∧
        ∀ others, ∃ restored, outcome (applyGuestState profile state .granted .granted)
              (profile.configuration.run others).2 = (.ok (), restored) ∧
            ∀ later, (restored.run later).1 = (source.run later).1) ∧
    ∀ (configuration : PciType0Configuration) (profile : PciType0SnapshotProfile)
      (state : PciType0GuestState) (reserves candidateReserves : SnapshotReservations)
      (error : PciType0SnapshotError),
      (outcome (applyGuestState profile state reserves candidateReserves) configuration).1 =
          .error error →
        (outcome (applyGuestState profile state reserves candidateReserves) configuration).2 =
          configuration := by
  intro profile
  have shape : WellFormed profile.configuration := wellFormed_build (wellFormed_new ..) changes
  refine ⟨fun accesses => ?_, fun configuration profile state reserves candidateReserves _ failed =>
    applyGuestState_kept state reserves candidateReserves failed⟩
  have kept := run_same profile.configuration accesses
  refine ⟨kept, _, snapshotGuestState_eq kept.symm (kept.wellFormed shape), fun others => ?_⟩
  have reached := run_same profile.configuration others
  exact ⟨_, applyGuestState_eq kept.symm reached.symm shape, fun _ => rfl⟩

end PciType0SnapshotProfile
end Bangbang.Pci
