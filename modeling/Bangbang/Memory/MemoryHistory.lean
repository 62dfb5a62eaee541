import Bangbang.Memory.Construction
import Bangbang.Memory.Discard

/-!
# Guest memory over whole histories

`Runs` relates a memory to its history through every sequence of calls, failing
ones included. The address map which a run arrives at is the one that
`MemoryEvent.lastByte` computes from the history alone, and the tracker covers
whatever differs from the memory at the last clear.
-/

namespace Bangbang.Memory

namespace GuestMemory

variable {start baseline memory next : GuestMemory} {history : List MemoryEvent}

/-- Clear the tracker of a memory, whose handle the memory shares. -/
def clearQuiesced (memory : GuestMemory) : GuestMemory :=
  { memory with dirtyTracker := memory.dirtyTracker.map fun tracker => tracker.clearQuiesced.2 }

/-- The runs of a memory from a start. The baseline is the memory at the last
clear, or the start. A read returns no memory, so it is no step. -/
inductive Runs (start : GuestMemory) :
    GuestMemory → List MemoryEvent → GuestMemory → Prop where
  | start : Runs start start [] start
  | insertRegion {baseline memory next history range environment : _}
      (runs : Runs start baseline history memory)
      (inserted : memory.insertRegion range environment = (.ok (), next)) :
      Runs start baseline (.insert range :: history) next
  | insertRegionFailed {baseline memory next history range environment error : _}
      (runs : Runs start baseline history memory)
      (failed : memory.insertRegion range environment = (.error error, next)) :
      Runs start baseline history next
  | removeRegion {baseline memory next history range : _}
      (runs : Runs start baseline history memory)
      (removed : memory.removeRegion range = (.ok (), next)) :
      Runs start baseline (.remove range :: history) next
  | removeRegionFailed {baseline memory next history range error : _}
      (runs : Runs start baseline history memory)
      (failed : memory.removeRegion range = (.error error, next)) : Runs start baseline history next
  | writeSlice {baseline memory next history source address : _}
      (runs : Runs start baseline history memory)
      (wrote : memory.writeSlice source address = (.ok (), next)) :
      Runs start baseline (.write address source :: history) next
  | writeSliceFailed {baseline memory next history source address error : _}
      (runs : Runs start baseline history memory)
      (failed : memory.writeSlice source address = (.error error, next)) :
      Runs start baseline history next
  | discardRange {baseline memory next history range adviser outcome : _}
      (runs : Runs start baseline history memory)
      (discarded : memory.discardRange range adviser = (outcome, next)) :
      Runs start baseline (.discard range (memory.discarded range adviser) :: history) next
  | clearQuiesced {baseline memory history : _} (runs : Runs start baseline history memory) :
      Runs start memory.clearQuiesced (.clear :: history) memory.clearQuiesced

/-- The memories which the constructors and calls arrive at. -/
inductive Reachable : GuestMemory → Prop where
  | emptyWithBacking (backing : GuestMemoryBacking) : Reachable (emptyWithBacking backing)
  | allocateWithMapper {memory ranges layout pageSize backing metadata map : _}
      (made : GuestMemoryLayout.new ranges = .ok layout)
      (allocated : allocateWithMapper layout pageSize backing metadata map = .ok memory) :
      Reachable memory
  | fromPrivateFileRanges {memory extents file backing system layoutMetadata metadata map : _}
      (built : fromPrivateFileRanges extents file backing system layoutMetadata metadata map = .ok
        memory) : Reachable memory
  | enableDirtyTracking {memory next system trackerMemory result : _} (reachable : Reachable memory)
      (enabled : memory.enableDirtyTracking system trackerMemory = (result, next)) : Reachable next
  | reserveSharedRegion {memory next range environment result : _} (reachable : Reachable memory)
      (reserved : memory.reserveSharedRegion range environment = (result, next)) : Reachable next
  | runs {start baseline memory history : _} (reachable : Reachable start)
      (runs : Runs start baseline history memory) : Reachable memory

/-- A reset of the tracker is a reset of the history. -/
theorem clearQuiesced_follows (wf : memory.Wf) : Follows memory .clear memory.clearQuiesced := by
  refine ⟨⟨wf.ordered, wf.reservationsOrdered, wf.based, wf.placed, wf.fresh, wf.views, ?_⟩, rfl,
    by simp [clearQuiesced], fun _ => Iff.rfl, fun _ => rfl, fun _ _ touches => touches.elim,
    fun clears => absurd trivial clears⟩
  intro current isCurrent
  obtain ⟨tracker, isTracker, rfl⟩ := Option.map_eq_some_iff.mp isCurrent
  obtain ⟨sameRanges, history, faithful⟩ := wf.tracked tracker isTracker
  refine ⟨?_, _, faithful.clearQuiesced⟩
  refine Eq.trans ?_ sameRanges
  simp [GuestMemoryDirtyTracker.ranges, GuestMemoryDirtyTracker.clearQuiesced, DirtyRegion.clear]

section
variable {destination bytes : List UInt8} {address : Nat}

/-- A mapped address has a value. -/
theorem Wf.valueAt_isSome (wf : memory.Wf) (mapped : memory.Mapped address) :
    ∃ byte, memory.valueAt address = some byte := by
  obtain ⟨_, member, contained⟩ := mapped
  obtain ⟨region, inRegions, rfl⟩ := List.mem_map.mp member
  exact ⟨_, wf.valueAt_eq (List.mem_append_left _ inRegions) contained⟩

theorem Wf.byteAt_eq (wf : memory.Wf) (mapped : memory.Mapped address) :
    memory.byteAt address = memory.valueAt address := by
  obtain ⟨byte, value⟩ := wf.valueAt_isSome mapped
  rw [value, (byteAt_eq_some wf).mpr ⟨mapped, value⟩]

theorem byteAt_eq_none (unmapped : ¬ memory.Mapped address) : memory.byteAt address = none := by
  have absent : memory.regions.find? (·.range.contains address) = none := by
    rw [List.find?_eq_none]
    exact fun region member contained =>
      unmapped ⟨region.range, List.mem_map_of_mem member, contained⟩
  rw [byteAt, absent, Option.map_none]

variable (wf : memory.Wf)
include wf

/-- A read of covered addresses succeeds with the byte of each of them. -/
theorem Wf.readSlice_covered {range}
    (nonempty : accessRange address destination.length = .ok (some range))
    (covered : Covers memory.ranges range.start range.endExclusive) :
    memory.readSlice destination address = (.ok (),
      (List.range' address destination.length).map fun current =>
        (memory.byteAt current).getD 0) := by
  obtain ⟨rfl, stop⟩ := accessRange_eq_some nonempty
  have mapped : memory.validateMappedRange range = .ok () :=
    (validateMappedRange_eq_ok wf).mpr covered
  rw [readSlice, nonempty]
  simp only [mapped]
  refine readRegions_eq wf.ordered covered (fun region member current contained => ?_) stop.symm
    range.endExclusive_lt
  rw [wf.byteAt_eq ⟨_, List.mem_map_of_mem member, contained⟩,
    wf.valueAt_eq (List.mem_append_left _ member) contained, Option.getD_some]

/-- A successful read returns the byte of every address it covers. -/
theorem readSlice_eq_ok (read : memory.readSlice destination address = (.ok (), bytes)) :
    bytes.length = destination.length ∧
      ∀ index < bytes.length, memory.Mapped (address + index) ∧
        bytes[index]? = memory.byteAt (address + index) := by
  cases request : accessRange address destination.length with
  | error error => simp [readSlice, request] at read
  | ok found =>
    cases found with
    | none =>
      have empty := accessRange_eq_none request
      simp only [readSlice, request, Prod.mk.injEq, true_and] at read
      exact ⟨by rw [read], fun index inside => by rw [← read] at inside; omega⟩
    | some range =>
      obtain ⟨rfl, stop⟩ := accessRange_eq_some request
      cases mapped : memory.validateMappedRange range with
      | error error => simp [readSlice, request, mapped] at read
      | ok done =>
        have covered := (validateMappedRange_eq_ok wf).mp mapped
        rw [wf.readSlice_covered request covered] at read
        obtain ⟨-, rfl⟩ := Prod.mk.inj read
        refine ⟨by simp, fun index inside => ?_⟩
        rw [List.length_map, List.length_range'] at inside
        have found : memory.Mapped (range.start + index) := covered _ (by omega) (by omega)
        obtain ⟨byte, value⟩ := wf.valueAt_isSome found
        refine ⟨found, ?_⟩
        rw [List.getElem?_map, List.getElem?_range' inside, Option.map_some, Nat.one_mul,
          wf.byteAt_eq found, value, Option.getD_some]

/-- A failed read leaves its destination as it was. -/
theorem readSlice_error {error}
    (failed : memory.readSlice destination address = (.error error, bytes)) :
    bytes = destination := by
  cases request : accessRange address destination.length with
  | error error =>
    simp only [readSlice, request] at failed
    exact (Prod.mk.inj failed).2.symm
  | ok found =>
    cases found with
    | none => simp [readSlice, request] at failed
    | some range =>
      cases mapped : memory.validateMappedRange range with
      | error error =>
        simp only [readSlice, request, mapped] at failed
        exact (Prod.mk.inj failed).2.symm
      | ok done =>
        rw [wf.readSlice_covered request ((validateMappedRange_eq_ok wf).mp mapped)] at failed
        simp at failed

/-- A mapped range can be read. -/
theorem readSlice_isOk (bounded : address + destination.length < wordLimit)
    (mapped : ∀ index < destination.length, memory.Mapped (address + index)) :
    (memory.readSlice destination address).1 = .ok () := by
  cases request : accessRange address destination.length with
  | error error =>
    simp only [accessRange] at request
    split at request
    · simp at request
    · simp at request
  | ok found =>
    cases found with
    | none => simp [readSlice, request]
    | some range =>
      obtain ⟨rfl, stop⟩ := accessRange_eq_some request
      rw [wf.readSlice_covered request fun current above below => ?_]
      have := mapped (current - range.start) (by omega)
      rwa [show range.start + (current - range.start) = current by omega] at this

end

/-- What a run maintains. -/
structure Tells (start baseline : GuestMemory) (history : List MemoryEvent) (memory : GuestMemory) :
    Prop where
  wf : memory.Wf
  reservations : memory.sharedReservations = start.sharedReservations
  tracking : memory.dirtyTracker.isSome = start.dirtyTracker.isSome
  ranges : ∀ range, range ∈ memory.ranges ↔ Stands (· = MemoryEvent.remove range)
    (· = MemoryEvent.insert range) (range ∈ start.ranges) history
  value : ∀ address, memory.valueAt address =
    MemoryEvent.lastByte start.reserved (start.valueAt address) address history
  dirty : start.dirtyTracker.isSome = true → ∀ address, memory.Mapped address →
    memory.byteAt address ≠ baseline.byteAt address ∨
      Since MemoryEvent.Clears (MemoryEvent.Inserts address) history → memory.DirtyAt address

/-- An address which an event does not touch had its region and byte before. -/
theorem Follows.untouched {event} (follows : Follows memory event next) (wf : memory.Wf) {address}
    (untouched : ¬ event.Touches address) (mapped : next.Mapped address) :
    memory.Mapped address ∧ next.byteAt address = memory.byteAt address := by
  obtain ⟨range, member, contained⟩ := mapped
  have shown := (follows.ranges range).mp member
  have before : memory.Mapped address := by
    refine ⟨range, ?_, contained⟩
    cases event with
    | insert other =>
      rcases shown with rfl | earlier
      · exact absurd contained untouched
      · exact earlier
    | remove other => exact shown.2
    | write | discard | clear => exact shown
  refine ⟨before, ?_⟩
  obtain ⟨byte, shows⟩ := follows.wf.valueAt_isSome ⟨range, member, contained⟩
  rw [follows.wf.byteAt_eq ⟨range, member, contained⟩, wf.byteAt_eq before, follows.value]
  rw [follows.value] at shows
  cases event with
  | insert other => simp_all [MemoryEvent.update, MemoryEvent.Touches]
  | remove other =>
    -- A removed address would have lost its byte.
    simp only [MemoryEvent.update] at shows ⊢
    split at shows
    · simp at shows
    case isFalse kept => rw [if_neg kept]
  | write | discard => exact if_neg untouched
  | clear => rfl

/-- One more event keeps the regions to those which the history leaves. -/
theorem Follows.stands {event} {atFirst : GuestMemoryRange → Prop}
    (follows : Follows memory event next)
    (ranges : ∀ range, range ∈ memory.ranges ↔ Stands (· = MemoryEvent.remove range)
      (· = MemoryEvent.insert range) (atFirst range) history) (range : GuestMemoryRange) :
    range ∈ next.ranges ↔ Stands (· = MemoryEvent.remove range) (· = MemoryEvent.insert range)
      (atFirst range) (event :: history) := by
  rw [follows.ranges, stands_cons, ← ranges]
  cases event <;> simp [MemoryEvent.Shows, eq_comm]

section
variable (tells : Tells start baseline history memory)
include tells

/-- A history tells of one more event. -/
theorem Tells.follows {event} (follows : Follows memory event next) (notClear : ¬ event.Clears) :
    Tells start baseline (event :: history) next := by
  have sameReserved : memory.reserved = start.reserved := by
    funext address
    rw [reserved, tells.reservations, reserved]
  refine ⟨follows.wf, follows.reservations.trans tells.reservations,
    follows.tracking.trans tells.tracking, follows.stands tells.ranges, fun address => ?_,
    fun tracked address mapped changed => ?_⟩
  · rw [follows.value, tells.value, sameReserved]
    rfl
  · by_cases touches : event.Touches address
    · exact follows.touched (tells.tracking.trans tracked) address touches mapped
    · obtain ⟨before, sameByte⟩ := follows.untouched tells.wf touches mapped
      refine follows.dirty notClear address (tells.dirty tracked address before ?_) mapped
      rw [sameByte, since_cons] at changed
      refine changed.imp_right fun inserted => ?_
      rcases inserted with now | ⟨-, earlier⟩
      · cases event with
        | insert range => exact absurd now touches
        | remove _ | write _ _ | discard _ _ | clear => exact now.elim
      · exact earlier

/-- A history tells of a state which keeps everything. -/
theorem Tells.keeps (keeps : Keeps memory next) : Tells start baseline history next := by
  have sameRanges : next.ranges = memory.ranges := by
    rw [GuestMemory.ranges, keeps.regions, GuestMemory.ranges]
  refine ⟨keeps.wf, keeps.reservations.trans tells.reservations, ?_, sameRanges ▸ tells.ranges,
    fun address => ?_, fun tracked address mapped changed => ?_⟩
  · rw [keeps.tracker, tells.tracking]
  · rw [keeps.value, tells.value]
  · have before : memory.Mapped address := by rwa [Mapped, ← sameRanges]
    rw [keeps.wf.byteAt_eq mapped, keeps.value, ← tells.wf.byteAt_eq before] at changed
    have wasDirty := tells.dirty tracked address before changed
    rwa [DirtyAt, keeps.tracker]

/-- A history starts again at a reset. -/
theorem Tells.clearQuiesced :
    Tells start memory.clearQuiesced (.clear :: history) memory.clearQuiesced := by
  have follows := clearQuiesced_follows tells.wf
  refine ⟨follows.wf, tells.reservations, follows.tracking.trans tells.tracking,
    follows.stands tells.ranges, fun address => ?_, fun _ address _ changed => ?_⟩
  · rw [follows.value, tells.value]
    rfl
  · rcases changed with differs | inserted
    · exact absurd rfl differs
    · simp [since_cons, MemoryEvent.Inserts, MemoryEvent.Clears] at inserted

end

/-- Every run is told by its history. -/
theorem Runs.tells (runs : Runs start baseline history memory) (wf : start.Wf) :
    Tells start baseline history memory := by
  induction runs with
  | start =>
    refine ⟨wf, rfl, rfl, fun _ => stands_nil.symm, fun _ => rfl, fun _ address _ changed => ?_⟩
    simp at changed
  | insertRegion _ inserted ih => exact ih.follows (insertRegion_follows ih.wf inserted) id
  | insertRegionFailed _ failed ih => exact ih.keeps (insertRegion_keeps ih.wf failed)
  | removeRegion _ removed ih => exact ih.follows (removeRegion_follows ih.wf removed) id
  | removeRegionFailed _ failed ih => exact ih.keeps (removeRegion_keeps ih.wf failed)
  | writeSlice _ wrote ih => exact ih.follows (writeSlice_follows ih.wf wrote) id
  | writeSliceFailed _ failed ih => exact writeSlice_error ih.wf failed ▸ ih
  | discardRange _ discarded ih => exact ih.follows (discardRange_follows ih.wf discarded) id
  | clearQuiesced _ ih => exact ih.clearQuiesced

/-- A discard of the history zeroed nothing outside the range which it requested. -/
theorem Runs.discarded_inside (runs : Runs start baseline history memory) {requested zeroed}
    (member : MemoryEvent.discard requested zeroed ∈ history) {address}
    (isZeroed : zeroed address = true) : requested.contains address = true := by
  induction runs with
  | start => cases member
  | insertRegion _ _ ih | removeRegion _ _ ih | writeSlice _ _ ih | clearQuiesced _ ih =>
    exact ih (by simpa using member)
  | insertRegionFailed _ _ ih | removeRegionFailed _ _ ih | writeSliceFailed _ _ ih =>
    exact ih member
  | discardRange _ _ ih =>
    rcases List.mem_cons.mp member with same | earlier
    · cases same
      exact contains_of_discarded isZeroed
    · exact ih earlier

/-- Every reachable memory is well formed. -/
theorem Reachable.wf (reachable : Reachable memory) : memory.Wf := by
  induction reachable with
  | emptyWithBacking backing => exact emptyWithBacking_wf backing
  | allocateWithMapper made allocated => exact allocateWithMapper_wf made allocated
  | fromPrivateFileRanges built => exact fromPrivateFileRanges_wf built
  | enableDirtyTracking _ enabled ih => exact enableDirtyTracking_wf ih enabled
  | reserveSharedRegion _ reserved ih => exact reserveSharedRegion_wf ih reserved
  | runs _ runs ih => exact (runs.tells ih).wf

/-- Guest memory and dirty tracking are one address map over every run of a tracked memory: the
regions are those which the history leaves, ordered, and the tracker has the same ones, a discard
stays inside the requested range, reads return the byte which the history gives to each address,
failed accesses change nothing, and every address whose byte differs from the baseline, or whose
region was inserted since, lies in a reported page. -/
theorem runs_addressMap (reachable : Reachable start) (tracked : start.dirtyTracker.isSome = true)
    (runs : Runs start baseline history memory) :
    (Ordered memory.ranges ∧ ∀ range, range ∈ memory.ranges ↔ Stands (· = MemoryEvent.remove range)
      (· = MemoryEvent.insert range) (range ∈ start.ranges) history) ∧
    (∀ requested zeroed, MemoryEvent.discard requested zeroed ∈ history → ∀ address,
      zeroed address = true → requested.contains address = true) ∧
    (∃ tracker ∈ memory.dirtyTracker, tracker.ranges = memory.ranges ∧
      ∃ pages : List Nat, (∀ reserve, Collects reserve pages (tracker.dirtyPages reserve)) ∧
        ∀ address, memory.Mapped address → memory.byteAt address ≠ baseline.byteAt address ∨
            Since MemoryEvent.Clears (MemoryEvent.Inserts address) history →
          ∃ page ∈ pages, page ≤ address ∧ address < page + tracker.pageSize) ∧
    (∀ destination address bytes, memory.readSlice destination address = (.ok (), bytes) →
      bytes.length = destination.length ∧ ∀ index < bytes.length,
        bytes[index]? = MemoryEvent.lastByte start.reserved (start.valueAt (address + index))
          (address + index) history) ∧
    (∀ destination address, address + destination.length < wordLimit →
      (∀ index < destination.length, memory.Mapped (address + index)) →
      (memory.readSlice destination address).1 = .ok ()) ∧
    (∀ destination address error bytes,
      memory.readSlice destination address = (.error error, bytes) → bytes = destination) ∧
    ∀ source address error next, memory.writeSlice source address = (.error error, next) →
      next = memory := by
  have tells := runs.tells reachable.wf
  have wf := tells.wf
  refine ⟨⟨wf.ordered, tells.ranges⟩, fun _ _ member _ => runs.discarded_inside member, ?_,
    fun destination address bytes read => ?_,
    fun _ _ bounded mapped => readSlice_isOk wf bounded mapped,
    fun _ _ _ _ failed => readSlice_error wf failed,
    fun _ _ _ _ failed => writeSlice_error wf failed⟩
  · rw [← tells.tracking, Option.isSome_iff_exists] at tracked
    obtain ⟨tracker, isTracker⟩ := tracked
    obtain ⟨sameRanges, trackerHistory, faithful⟩ := wf.tracked tracker isTracker
    refine ⟨tracker, isTracker, sameRanges, tracker.allPages, faithful.dirtyPages_collects,
      fun address mapped changed => ?_⟩
    obtain ⟨current, isCurrent, dirty⟩ := tells.dirty (by rw [← tells.tracking, isTracker]; rfl)
      address mapped changed
    obtain rfl := Option.mem_unique isTracker isCurrent
    exact faithful.exists_page dirty
  · obtain ⟨length, found⟩ := readSlice_eq_ok wf read
    refine ⟨length, fun index inside => ?_⟩
    obtain ⟨mapped, byte⟩ := found index inside
    rw [byte, wf.byteAt_eq mapped, tells.value]

/-- The initial region and a shared aperture above it. -/
def boot : GuestMemoryRange := ⟨0, 0x4000, by decide, by decide⟩

def aperture : GuestMemoryRange := ⟨0x10000, 0x4000, by decide, by decide⟩

def willingInsert : InsertEnvironment := ⟨some 0x4000, .ok (), .ok (), true, ⟨true, true⟩⟩

def willingReserve : ReserveEnvironment := ⟨some 0x4000, .ok (), true, .ok (), .ok ()⟩

/-- One region after the start. -/
def booted : GuestMemory :=
  { emptyWithBacking .anonymous with
    regions := [⟨boot, ⟨0, 0x4000⟩, 0, 0x4000⟩]
    nextIdentity := 1 }

/-- An aperture is reserved. -/
def apertureReserved : GuestMemory := (booted.reserveSharedRegion aperture willingReserve).2

/-- A tracked memory with one region and one shared reservation. -/
def reservedStart : GuestMemory :=
  (apertureReserved.enableDirtyTracking (some 0x4000) fun _ => ⟨true, true⟩).2

theorem reservedStart_reachable : Reachable reservedStart := by
  have layout : GuestMemoryLayout.new [boot] = .ok ⟨[boot]⟩ := by decide
  have allocated : allocateWithMapper ⟨[boot]⟩ 0x4000 .anonymous true (fun _ => .ok ()) =
      .ok booted := rfl
  have reserves : booted.reserveSharedRegion aperture willingReserve =
      (.ok (), apertureReserved) := rfl
  have enabled : apertureReserved.enableDirtyTracking (some 0x4000) (fun _ => ⟨true, true⟩) =
      (.ok ⟨0x4000, 0, [⟨boot, [0#64]⟩]⟩, reservedStart) := rfl
  exact .enableDirtyTracking (.reserveSharedRegion (.allocateWithMapper layout allocated) reserves)
    enabled

/-- The aperture is mapped. -/
def shown : GuestMemory := (reservedStart.insertRegion aperture willingInsert).2

/-- A byte is written through it. -/
def written : GuestMemory := (shown.writeSlice [1] 0x10000).2

/-- The aperture is removed. -/
def hidden : GuestMemory := (written.removeRegion aperture).2

/-- The aperture after one byte was written and its region removed and inserted
again. -/
def reshown : GuestMemory := (hidden.insertRegion aperture willingInsert).2

theorem reshown_runs : Runs reservedStart reservedStart
    [.insert aperture, .remove aperture, .write 0x10000 [1], .insert aperture] reshown := by
  have shows : reservedStart.insertRegion aperture willingInsert = (.ok (), shown) := rfl
  have writes : shown.writeSlice [1] 0x10000 = (.ok (), written) := rfl
  have hides : written.removeRegion aperture = (.ok (), hidden) := rfl
  have showsAgain : hidden.insertRegion aperture willingInsert = (.ok (), reshown) := rfl
  exact .insertRegion (.removeRegion (.writeSlice (.insertRegion .start shows) writes) hides)
    showsAgain

/-- An inserted region shows what its reservation retained: the byte read here was
written before the region was last inserted, where the history without
reservations has a zero. -/
theorem reshown_retains : Reachable reservedStart ∧ reservedStart.dirtyTracker.isSome = true ∧
    Runs reservedStart reservedStart
      [.insert aperture, .remove aperture, .write 0x10000 [1], .insert aperture] reshown ∧
    reshown.readSlice [0] 0x10000 = (.ok (), [1]) ∧
    MemoryEvent.lastByte (fun _ => false) (reservedStart.valueAt 0x10000) 0x10000
      [.insert aperture, .remove aperture, .write 0x10000 [1], .insert aperture] = some 0 :=
  ⟨reservedStart_reachable, rfl, reshown_runs, rfl, rfl⟩

theorem runs_addressMap_reshown :
    reservedStart.dirtyTracker.isSome = true ∧ Ordered reshown.ranges ∧
      Stands (· = MemoryEvent.remove aperture) (· = MemoryEvent.insert aperture)
        (aperture ∈ reservedStart.ranges)
        [.insert aperture, .remove aperture, .write 0x10000 [1], .insert aperture] ∧
      ∃ tracker ∈ reshown.dirtyTracker, tracker.ranges = [boot, aperture] := by
  obtain ⟨⟨ordered, ranges⟩, _, ⟨tracker, isTracker, sameRanges, _⟩, _⟩ :=
    runs_addressMap reservedStart_reachable rfl reshown_runs
  exact ⟨rfl, ordered, (ranges aperture).mp (by decide), tracker, isTracker, sameRanges⟩

end GuestMemory
end Bangbang.Memory
