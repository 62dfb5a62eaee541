import Bangbang.Boot.Payloads

/-!
# Boot payloads are placed apart and loaded exactly

What the loader checks before it writes is enough for both writes to succeed, so a failure
leaves guest memory as it was. After a success the kernel's file, the initrd's file and the
window of the device tree lie apart from each other, the files are in guest memory byte by
byte, and nothing else has changed.
-/

namespace Bangbang.Boot

open Memory GuestMemoryRange

variable {openFile : String → Except Errno PayloadFile} {layout : GuestMemoryLayout}
  {memory next : GuestMemory} {source : BootSource} {files : BootSourceFiles}
  {path : String} {provided : Option PayloadFile} {payload : BootPayloadKind}
  {range : GuestMemoryRange} {file : PayloadFile} {bytes : List UInt8} {address size fdt : Nat}

/-! ## What is promised -/

/-- The file which the caller provides, or else the one which the path opens. -/
def Names (openFile : String → Except Errno PayloadFile) (path : String)
    (provided : Option PayloadFile) (file : PayloadFile) : Prop :=
  match provided with
  | some given => file = given
  | none => openFile path = .ok file

/-- A memory shows some bytes from an address on. -/
def Shows (memory : GuestMemory) (address : Nat) (bytes : List UInt8) : Prop :=
  ∀ index < bytes.length, memory.byteAt (address + index) = bytes[index]?

/-- One stretch of addresses ends before the other begins. -/
def Apart (first firstSize second secondSize : Nat) : Prop :=
  first + firstSize ≤ second ∨ second + secondSize ≤ first

/-- An address in one of the loaded payloads. -/
def LoadedBootSource.Touches (loaded : LoadedBootSource) (address : Nat) : Prop :=
  (loaded.kernel.loadAddress ≤ address ∧ address < loaded.kernel.loadAddress + loaded.kernel.size) ∨
    ∃ initrd ∈ loaded.initrd, initrd.address ≤ address ∧ address < initrd.address + initrd.size

/-- What a successful load has done. -/
structure Places (openFile : String → Except Errno PayloadFile) (source : BootSource)
    (layout : GuestMemoryLayout) (memory : GuestMemory) (files : BootSourceFiles)
    (loaded : LoadedBootSource) (fdt : Nat) (final : GuestMemory) : Prop where
  kernel : ∃ file, Names openFile source.kernelImagePath files.kernel file ∧
    loaded.kernel.size = file.contents.length ∧
    Shows final loaded.kernel.loadAddress file.contents
  initrd : ∀ initrd ∈ loaded.initrd, ∃ path file, source.initrdPath = some path ∧
    Names openFile path files.initrd file ∧ initrd.size = file.contents.length ∧
    Shows final initrd.address file.contents
  complete : loaded.initrd.isSome = source.initrdPath.isSome
  kernel_covered : Covers memory.ranges loaded.kernel.loadAddress
    (loaded.kernel.loadAddress + loaded.kernel.size)
  initrd_covered : ∀ initrd ∈ loaded.initrd,
    Covers memory.ranges initrd.address (initrd.address + initrd.size)
  fdt_covered : memory.ranges = layout.ranges → Covers memory.ranges fdt (fdt + fdtMaxSize)
  payloads_apart : ∀ initrd ∈ loaded.initrd,
    Apart loaded.kernel.loadAddress loaded.kernel.size initrd.address initrd.size
  kernel_apart : Apart loaded.kernel.loadAddress loaded.kernel.size fdt fdtMaxSize
  initrd_apart : ∀ initrd ∈ loaded.initrd, Apart initrd.address initrd.size fdt fdtMaxSize
  untouched : ∀ address, ¬ loaded.Touches address →
    final.byteAt address = memory.byteAt address

/-! ## The checks -/

theorem containsFrom_eq {regions current} :
    containsFrom range current regions =
      coversFrom range.endExclusive current (regions.map (·.range)) := by
  induction regions generalizing current with
  | nil => rfl
  | cons region regions ih =>
    rw [containsFrom, List.map_cons, coversFrom]
    split
    · exact ih
    case isFalse reaches =>
      by_cases inside : region.range.contains current = true
      · have starts : ¬ current < region.range.start :=
          Nat.not_lt.mpr (contains_iff.mp inside).1
        simp only [inside, Bool.not_true, Bool.false_eq_true, if_false, starts]
        by_cases last : range.endExclusive ≤ region.range.endExclusive
        · rw [Nat.min_eq_right last, if_pos rfl, if_pos last]
        · rw [Nat.min_eq_left (by omega), if_neg (by omega), if_neg last]
          exact ih
      · have gap : current < region.range.start := by
          rw [contains_iff] at inside
          omega
        rw [if_pos (by simpa using inside), if_pos gap]

/-- A range is in the memory when every address of it is mapped. -/
theorem memoryContainsRange_iff (wf : memory.Wf) :
    memoryContainsRange memory range = true ↔
      Covers memory.ranges range.start range.endExclusive := by
  rw [memoryContainsRange, containsFrom_eq,
    ← coversFrom_iff wf.ordered range.start_lt_endExclusive]
  rfl

/-- A stretch of mapped addresses which ends below the device tree. -/
structure Fits (layout : GuestMemoryLayout) (memory : GuestMemory) (fdt address size : Nat) :
    Prop where
  isFdt : fdtAddress layout = .ok fdt
  positive : 0 < size
  bounded : address + size < wordLimit
  covered : Covers memory.ranges address (address + size)
  below : address + size ≤ fdt

theorem payloadRange_eq_ok (made : payloadRange address size payload = .ok range) :
    range.start = address ∧ range.endExclusive = address + size ∧ 0 < size := by
  rw [payloadRange, mapError_eq_ok] at made
  obtain ⟨rfl, rfl⟩ := new_eq_ok made
  exact ⟨rfl, rfl, range.positive⟩

/-- A kernel which is accepted fits below the device tree. -/
theorem validateKernelRange_eq_ok (wf : memory.Wf) {done}
    (valid : validateKernelRange layout memory address size payload = .ok done) :
    ∃ fdt, Fits layout memory fdt address size := by
  simp only [validateKernelRange, validateMemoryBackedRange, bind_eq_ok, rejectIf_eq_ok,
    mapError_eq_ok, Decidable.not_not] at valid
  obtain ⟨range, made, -, backed, fdt, isFdt, below⟩ := valid
  obtain ⟨rfl, stop, positive⟩ := payloadRange_eq_ok made
  have covered := (memoryContainsRange_iff wf).mp backed
  have bounded := range.endExclusive_lt
  rw [stop] at covered bounded below
  exact ⟨fdt, isFdt, positive, bounded, covered, by omega⟩

/-- A loaded kernel has the size of its payload and fits. -/
theorem loadedKernel_eq_ok (wf : memory.Wf) {header loaded}
    (made : loadedKernelFromArm64Header header size layout memory = .ok loaded) :
    loaded.size = size ∧ ∃ fdt, Fits layout memory fdt loaded.loadAddress size := by
  simp only [loadedKernelFromArm64Header, bind_eq_ok, pure_eq_ok] at made
  obtain ⟨_, -, loadAddress, -, _, valid, rfl⟩ := made
  exact ⟨rfl, validateKernelRange_eq_ok wf valid⟩

/-- An initrd ends at or below the device tree. -/
theorem initrdLoadAddress_eq_some (made : initrdLoadAddress layout size = .ok (some address)) :
    ∃ fdt, fdtAddress layout = .ok fdt ∧ address + size ≤ fdt := by
  simp only [initrdLoadAddress, bind_eq_ok] at made
  obtain ⟨fdt, isFdt, made⟩ := made
  refine ⟨fdt, isFdt, ?_⟩
  split at made
  · simp [pure_eq_ok] at made
  case h_2 roundedSize rounds =>
    split at made
    · simp [pure_eq_ok] at made
    case h_2 loadAddress fits =>
      simp only [bind_eq_ok, pure_eq_ok] at made
      obtain ⟨range, -, placed⟩ := made
      split at placed
      · obtain rfl := Option.some.inj placed
        have rounded := (alignUp_eq_some rounds).1
        rw [checkedSub_eq_some] at fits
        omega
      · simp at placed

/-- With the memory of its own layout, a device tree above a mapped payload is mapped. -/
theorem Fits.fdt_covered (fits : Fits layout memory fdt address size) (wf : memory.Wf)
    (same : memory.ranges = layout.ranges) : Covers memory.ranges fdt (fdt + fdtMaxSize) := by
  have isFdt := fits.isFdt
  simp only [fdtAddress, firstRange, bind_eq_ok, okOr_eq_ok] at isFdt
  obtain ⟨first, isFirst, isFdt⟩ := isFdt
  obtain ⟨rest, isRanges⟩ : ∃ rest, layout.ranges = first :: rest := by
    cases ranges : layout.ranges with
    | nil => simp [ranges] at isFirst
    | cons head rest =>
      rw [ranges] at isFirst
      cases isFirst
      exact ⟨rest, rfl⟩
  have ordered := wf.ordered
  rw [same, isRanges] at ordered ⊢
  -- The payload is mapped below the window, so the window is not the start of the first range.
  have above : first.start < fdt := by
    obtain ⟨found, member, contained⟩ := fits.covered address (Nat.le_refl _)
      (by have := fits.positive; omega)
    rw [same, isRanges] at member
    rw [contains_iff] at contained
    have lowest : first.start ≤ found.start := by
      rcases List.mem_cons.mp member with rfl | later
      · exact Nat.le_refl _
      · have := (List.pairwise_cons.mp ordered).1 found later
        have := first.start_lt_endExclusive
        omega
    have := fits.below
    have := fits.positive
    omega
  have isWindow : fdt + fdtMaxSize = first.endExclusive := by
    split at isFdt
    case h_1 candidate isCandidate =>
      rw [pure_eq_ok] at isFdt
      split at isFdt
      · rw [checkedSub_eq_some] at isCandidate
        omega
      · omega
    case h_2 =>
      rw [pure_eq_ok] at isFdt
      omega
  intro other low high
  exact ⟨first, List.mem_cons_self, contains_iff.mpr (by omega)⟩

/-! ## The files -/

/-- An opened payload is the file which its path or its grant names, with the size it has. -/
theorem openPayloadFile_eq_ok (opened : openPayloadFile openFile path provided payload =
      .ok (file, size)) : Names openFile path provided file ∧ size = file.contents.length := by
  simp only [openPayloadFile, bind_eq_ok, rejectIf_eq_ok, mapError_eq_ok, pure_eq_ok] at opened
  obtain ⟨_, -, found, isFile, _, -, _, -, _, -, made⟩ := opened
  cases made
  refine ⟨?_, rfl⟩
  cases provided with
  | some given => exact (Except.ok.inj isFile).symm
  | none => exact mapError_eq_ok.mp isFile

/-- A payload which is read is the whole of its file. -/
theorem readPayloadFile_eq_ok
    (read : readPayloadFile file payload file.contents.length = .ok bytes) :
    bytes = file.contents := by
  simp only [readPayloadFile, bind_eq_ok, okOr_eq_ok, checkedAdd_eq_some, pure_eq_ok] at read
  obtain ⟨_, -, limit, ⟨-, rfl⟩, _, -, _, -, _, -, rfl⟩ := read
  exact List.take_of_length_le (by omega)

/-- A payload whose file is read and which may be written to its address. -/
structure Ready (openFile : String → Except Errno PayloadFile) (layout : GuestMemoryLayout)
    (memory : GuestMemory) (path : String) (provided : Option PayloadFile) (fdt address size : Nat)
    (bytes : List UInt8) : Prop where
  names : ∃ file, Names openFile path provided file ∧ file.contents = bytes
  length : size = bytes.length
  fits : Fits layout memory fdt address size

theorem prepareKernelPayload_eq_ok {prepared}
    (made : prepareKernelPayload openFile path provided layout memory = .ok prepared) :
    Names openFile path provided prepared.file ∧
      prepared.size = prepared.file.contents.length := by
  simp only [prepareKernelPayload, bind_eq_ok, pure_eq_ok] at made
  obtain ⟨⟨file, size⟩, opened, _, -, header, -, loaded, -, rfl⟩ := made
  exact openPayloadFile_eq_ok opened

variable {kernel : KernelPayload}

/-- A loaded kernel payload is ready to be written. -/
theorem loadKernelPayload_eq_ok (wf : memory.Wf) (names : Names openFile path provided file)
    (made : loadKernelPayload file file.contents.length layout memory = .ok kernel) :
    ∃ fdt, Ready openFile layout memory path provided fdt kernel.loaded.loadAddress
      kernel.loaded.size kernel.bytes := by
  simp only [loadKernelPayload, bind_eq_ok, pure_eq_ok] at made
  obtain ⟨bytes, read, header, -, loaded, isLoaded, rfl⟩ := made
  obtain rfl := readPayloadFile_eq_ok read
  obtain ⟨isSize, fdt, fits⟩ := loadedKernel_eq_ok wf isLoaded
  exact ⟨fdt, ⟨file, names, rfl⟩, isSize, isSize ▸ fits⟩

theorem prepareInitrdPayload_eq_ok (wf : memory.Wf) {prepared}
    (made : prepareInitrdPayload openFile path provided layout memory = .ok prepared) :
    Names openFile path provided prepared.file ∧
      prepared.loaded.size = prepared.file.contents.length ∧
      ∃ fdt, Fits layout memory fdt prepared.loaded.address prepared.loaded.size := by
  simp only [prepareInitrdPayload, validateMemoryBackedRange, bind_eq_ok, mapError_eq_ok,
    okOr_eq_ok, rejectIf_eq_ok, pure_eq_ok, Decidable.not_not] at made
  obtain ⟨⟨file, size⟩, opened, _, placed, address, rfl, range, isRange, _, backed, rfl⟩ := made
  obtain ⟨names, isSize⟩ := openPayloadFile_eq_ok opened
  obtain ⟨fdt, isFdt, below⟩ := initrdLoadAddress_eq_some placed
  obtain ⟨rfl, stop, positive⟩ := payloadRange_eq_ok isRange
  have covered := (memoryContainsRange_iff wf).mp backed
  have bounded := range.endExclusive_lt
  rw [stop] at covered bounded
  exact ⟨names, isSize, fdt, isFdt, positive, bounded, covered, below⟩

/-- Payloads which pass the check do not overlap. -/
theorem validatePayloadsDoNotOverlap_eq_ok {kernel initrd done}
    (valid : validatePayloadsDoNotOverlap kernel initrd = .ok done) :
    Apart kernel.loadAddress kernel.size initrd.address initrd.size := by
  simp only [validatePayloadsDoNotOverlap, bind_eq_ok, rejectIf_eq_ok,
    overlaps_iff] at valid
  obtain ⟨first, isFirst, second, isSecond, apart⟩ := valid
  obtain ⟨starts, stop, positive⟩ := payloadRange_eq_ok isFirst
  obtain ⟨isStart, otherStop, otherPositive⟩ := payloadRange_eq_ok isSecond
  unfold Apart
  omega

/-- What was checked before anything is written. -/
structure Prepared (openFile : String → Except Errno PayloadFile) (source : BootSource)
    (layout : GuestMemoryLayout) (memory : GuestMemory) (files : BootSourceFiles) (fdt : Nat)
    (kernel : KernelPayload) (initrd : Option (List UInt8 × LoadedInitrd)) : Prop where
  kernel_ready : Ready openFile layout memory source.kernelImagePath files.kernel fdt
    kernel.loaded.loadAddress kernel.loaded.size kernel.bytes
  initrd_ready : ∀ payload ∈ initrd, ∃ path, source.initrdPath = some path ∧
    Ready openFile layout memory path files.initrd fdt payload.2.address payload.2.size payload.1
  complete : initrd.isSome = source.initrdPath.isSome
  apart : ∀ payload ∈ initrd,
    Apart kernel.loaded.loadAddress kernel.loaded.size payload.2.address payload.2.size

variable {initrd : Option (List UInt8 × LoadedInitrd)} {commandLine : KernelCommandLine}

/-- A boot source which is prepared has all of its payloads in place. -/
theorem prepareBootSource_eq_ok (wf : memory.Wf)
    (made : prepareBootSource openFile source layout memory files =
      .ok (commandLine, kernel, initrd)) :
    ∃ fdt, Prepared openFile source layout memory files fdt kernel initrd := by
  simp only [prepareBootSource, bind_eq_ok] at made
  obtain ⟨_, -, _, -, prepared, isPrepared, made⟩ := made
  obtain ⟨names, isSize⟩ := prepareKernelPayload_eq_ok isPrepared
  rw [isSize] at made
  cases isPath : source.initrdPath with
  | none =>
    simp only [isPath, bind_eq_ok, pure_eq_ok] at made
    obtain ⟨loaded, isLoaded, same⟩ := made
    cases same
    obtain ⟨fdt, ready⟩ := loadKernelPayload_eq_ok wf names isLoaded
    exact ⟨fdt, ready, by simp, by simp [isPath], by simp⟩
  | some path =>
    simp only [isPath, bind_eq_ok, pure_eq_ok] at made
    obtain ⟨initrd, isInitrd, _, -, loaded, isLoaded, _, valid, bytes, read, same⟩ := made
    cases same
    obtain ⟨fdt, ready⟩ := loadKernelPayload_eq_ok wf names isLoaded
    obtain ⟨initrdNames, initrdSize, window, fits⟩ := prepareInitrdPayload_eq_ok wf isInitrd
    obtain rfl : window = fdt := Except.ok.inj (fits.isFdt.symm.trans ready.fits.isFdt)
    rw [initrdSize] at read
    have isBytes := readPayloadFile_eq_ok read
    refine ⟨window, ready, ?_, by simp [isPath], ?_⟩
    · rintro payload ⟨⟩
      exact ⟨path, isPath, ⟨initrd.file, initrdNames, isBytes.symm⟩, isBytes ▸ initrdSize, fits⟩
    · rintro payload ⟨⟩
      exact validatePayloadsDoNotOverlap_eq_ok valid

/-! ## The writes -/

/-- Bytes were written to one place and nowhere else. -/
structure Wrote (memory next : GuestMemory) (address : Nat) (bytes : List UInt8) : Prop where
  wf : next.Wf
  ranges : ∀ range, range ∈ next.ranges ↔ range ∈ memory.ranges
  shows : Shows next address bytes
  outside : ∀ other, ¬ (address ≤ other ∧ other < address + bytes.length) →
    next.byteAt other = memory.byteAt other

/-- A write leaves the covered addresses covered. -/
theorem Wrote.covers (wrote : Wrote memory next address bytes) {first stop}
    (covers : Covers memory.ranges first stop) : Covers next.ranges first stop := by
  intro other low high
  obtain ⟨range, member, contained⟩ := covers other low high
  exact ⟨range, (wrote.ranges range).mpr member, contained⟩

/-- What fits is written. -/
theorem Fits.writes (fits : Fits layout memory fdt address bytes.length) (wf : memory.Wf) :
    ∃ next, memory.writeSlice bytes address = (.ok (), next) ∧ Wrote memory next address bytes := by
  obtain ⟨next, done⟩ := wf.writeSlice_covered fits.bounded fits.covered
  have follows := GuestMemory.writeSlice_follows wf done
  have sameRanges : ∀ range, range ∈ next.ranges ↔ range ∈ memory.ranges := follows.ranges
  refine ⟨next, done, follows.wf, sameRanges, fun index inside => ?_, fun other outside => ?_⟩
  · obtain ⟨range, member, contained⟩ := fits.covered (address + index) (by omega) (by omega)
    rw [follows.wf.byteAt_eq ⟨range, (sameRanges range).mpr member, contained⟩, follows.value,
      MemoryEvent.update, if_pos (by omega), Nat.add_sub_cancel_left,
      List.getElem?_eq_getElem inside, List.getD_eq_getElem?_getD,
      List.getElem?_eq_getElem inside, Option.getD_some]
  · by_cases mapped : next.Mapped other
    · exact (follows.untouched wf outside mapped).2
    · have unmapped : ¬ memory.Mapped other := by
        rintro ⟨range, member, contained⟩
        exact mapped ⟨range, (sameRanges range).mpr member, contained⟩
      rw [GuestMemory.byteAt_eq_none mapped, GuestMemory.byteAt_eq_none unmapped]

/-- Two writes apart from each other both stand. -/
theorem Wrote.trans {last other others} (first : Wrote memory next address bytes)
    (second : Wrote next last other others)
    (apart : Apart address bytes.length other others.length) :
    Shows last address bytes ∧ ∀ place, ¬ (address ≤ place ∧ place < address + bytes.length) →
      ¬ (other ≤ place ∧ place < other + others.length) →
      last.byteAt place = memory.byteAt place := by
  constructor
  · intro index inside
    have elsewhere : ¬ (other ≤ address + index ∧ address + index < other + others.length) := by
      unfold Apart at apart
      omega
    rw [second.outside _ elsewhere, first.shows index inside]
  · intro place outsideFirst outsideSecond
    rw [second.outside place outsideSecond, first.outside place outsideFirst]

section
variable (ready : Ready openFile layout memory path provided fdt address size bytes)
include ready

/-- What is ready fits below the device tree. -/
theorem Ready.apart : Apart address size fdt fdtMaxSize :=
  .inl ready.fits.below

theorem Ready.fits_bytes : Fits layout memory fdt address bytes.length :=
  ready.length ▸ ready.fits

end

/-- Once everything is prepared the writes succeed. -/
theorem Prepared.places
    (prepared : Prepared openFile source layout memory files fdt kernel initrd) (wf : memory.Wf)
    (made : prepareBootSource openFile source layout memory files =
      .ok (commandLine, kernel, initrd)) :
    ∃ final, loadBootSourceWithFiles openFile source layout memory files =
        (.ok ⟨commandLine, kernel.loaded, initrd.map Prod.snd⟩, final) ∧
      Places openFile source layout memory files ⟨commandLine, kernel.loaded, initrd.map Prod.snd⟩
        fdt final := by
  obtain ⟨next, writes, wrote⟩ := prepared.kernel_ready.fits_bytes.writes wf
  obtain ⟨kernelFile, kernelNames, kernelBytes⟩ := prepared.kernel_ready.names
  have kernelLength := prepared.kernel_ready.length
  cases initrd with
  | none =>
    refine ⟨next, by simp [loadBootSourceWithFiles, made, writes], ?_⟩
    exact {
      kernel := ⟨kernelFile, kernelNames, kernelBytes ▸ kernelLength, kernelBytes ▸ wrote.shows⟩
      initrd := by simp
      complete := prepared.complete
      kernel_covered := prepared.kernel_ready.fits.covered
      initrd_covered := by simp
      fdt_covered := prepared.kernel_ready.fits.fdt_covered wf
      payloads_apart := by simp
      kernel_apart := prepared.kernel_ready.apart
      initrd_apart := by simp
      untouched := fun place untouched => wrote.outside place fun inside =>
        untouched (.inl (kernelLength ▸ inside)) }
  | some payload =>
    obtain ⟨initrdBytes, initrd⟩ := payload
    obtain ⟨path, isPath, ready⟩ := prepared.initrd_ready _ rfl
    obtain ⟨initrdFile, initrdNames, isBytes⟩ := ready.names
    have initrdLength := ready.length
    have payloadsApart := prepared.apart _ rfl
    have fits := ready.fits_bytes
    have laterFits : Fits layout next fdt initrd.address initrdBytes.length :=
      ⟨fits.isFdt, fits.positive, fits.bounded, wrote.covers fits.covered, fits.below⟩
    obtain ⟨final, laterWrites, laterWrote⟩ := laterFits.writes wrote.wf
    have apart : Apart kernel.loaded.loadAddress kernel.bytes.length initrd.address
        initrdBytes.length :=
      kernelLength ▸ initrdLength ▸ payloadsApart
    obtain ⟨kernelShown, outside⟩ := wrote.trans laterWrote apart
    refine ⟨final, by simp [loadBootSourceWithFiles, made, writes, laterWrites], ?_⟩
    exact {
      kernel := ⟨kernelFile, kernelNames, kernelBytes ▸ kernelLength, kernelBytes ▸ kernelShown⟩
      initrd := by
        rintro _ ⟨⟩
        exact ⟨path, initrdFile, isPath, initrdNames, isBytes ▸ initrdLength,
          isBytes ▸ laterWrote.shows⟩
      complete := prepared.complete
      kernel_covered := prepared.kernel_ready.fits.covered
      initrd_covered := by
        rintro _ ⟨⟩
        exact ready.fits.covered
      fdt_covered := prepared.kernel_ready.fits.fdt_covered wf
      payloads_apart := by
        rintro _ ⟨⟩
        exact payloadsApart
      kernel_apart := prepared.kernel_ready.apart
      initrd_apart := by
        rintro _ ⟨⟩
        exact ready.apart
      untouched := fun place untouched => outside place
        (fun inside => untouched (.inl (kernelLength ▸ inside)))
        fun inside => untouched (.inr ⟨initrd, rfl, initrdLength ▸ inside⟩) }

/-- A load which fails leaves guest memory as it was. One which succeeds has put the kernel's
file, the initrd's file and the device tree's window apart from each other and into guest memory,
has written exactly the bytes of the files, and has changed nothing else. -/
theorem boot_payloads_placed (openFile : String → Except Errno PayloadFile) (source : BootSource)
    (layout : GuestMemoryLayout) (memory : GuestMemory) (files : BootSourceFiles)
    (reachable : GuestMemory.Reachable memory) :
    let final := loadBootSourceWithFiles openFile source layout memory files
    (∀ error, final.1 = .error error → final.2 = memory) ∧
      ∀ loaded, final.1 = .ok loaded → ∃ fdt, fdtAddress layout = .ok fdt ∧
        Places openFile source layout memory files loaded fdt final.2 := by
  intro final
  have wf := reachable.wf
  cases made : prepareBootSource openFile source layout memory files with
  | error error =>
    have isFinal : final = (.error error, memory) := by
      simp only [final, loadBootSourceWithFiles, made]
    rw [isFinal]
    exact ⟨fun _ _ => rfl, nofun⟩
  | ok prepared =>
    obtain ⟨commandLine, kernel, initrd⟩ := prepared
    obtain ⟨fdt, prepared⟩ := prepareBootSource_eq_ok wf made
    obtain ⟨last, isFinal, places⟩ := prepared.places wf made
    have isFinal : final = _ := isFinal
    rw [isFinal]
    refine ⟨nofun, ?_⟩
    rintro loaded ⟨⟩
    exact ⟨fdt, prepared.kernel_ready.fits.isFdt, places⟩

/-- Two stretches of addresses which begin at the start of system memory and a little later. -/
def systemRange : GuestMemoryRange := ⟨0x80000000, 0x4000000, by decide, by decide⟩

def highRange : GuestMemoryRange := ⟨0x90000000, 0x4000, Nat.succ_pos _, by decide⟩

/-- A memory of one range. -/
def systemMemory : GuestMemory :=
  { GuestMemory.emptyWithBacking .anonymous with
    regions := [⟨systemRange, ⟨0, 0x4000000⟩, 0, 0x4000000⟩]
    nextIdentity := 1 }

theorem systemMemory_reachable : GuestMemory.Reachable systemMemory := by
  have layout : GuestMemoryLayout.new [systemRange] = .ok ⟨[systemRange]⟩ := by decide
  have allocated : GuestMemory.allocateWithMapper ⟨[systemRange]⟩ 0x4000 .anonymous true
      (fun _ => .ok ()) = .ok systemMemory := rfl
  exact .allocateWithMapper layout allocated

section
variable (layout : GuestMemoryLayout) (imageSize : Nat)

/-- A kernel of a header only, which asks for some memory. -/
def headerOnly : List UInt8 :=
  List.replicate 16 0 ++ leBytes 8 imageSize ++ List.replicate 32 0 ++ leBytes 4 arm64ImageMagic ++
    List.replicate 4 0

def headerOnlyFile : PayloadFile where
  isFile := true
  contents := headerOnly imageSize
  position := 0
  metadata := .ok ()
  readExact := .ok ()
  rewind := .ok ()
  reserve := true
  readToEnd := .ok ()
  fits := by simp [headerOnly, leBytes, wordLimit]

def smallInitrd : PayloadFile :=
  { headerOnlyFile 0 with contents := [1, 2], fits := by decide }

/-- The kernel's file, an initrd of two bytes and an empty command line. -/
def smallLoad : Except BootSourceLoadError LoadedBootSource × GuestMemory :=
  loadBootSourceWithFiles (fun _ => .error .notFound) ⟨"kernel", some "initrd", some []⟩ layout
    systemMemory ⟨some (headerOnlyFile imageSize), some smallInitrd⟩

/-- The kernel's file alone. -/
def kernelLoad : Except BootSourceLoadError LoadedBootSource × GuestMemory :=
  loadBootSourceWithFiles (fun _ => .error .notFound) ⟨"kernel", none, some []⟩ layout systemMemory
    ⟨some (headerOnlyFile 64), none⟩

end

/-- A small kernel and a small initrd are loaded. -/
theorem small_payloads_placed :
    (smallLoad ⟨[systemRange]⟩ 64).1.toOption.map (·.kernel.loadAddress) = some 0x80200000 ∧
      (∀ error, (smallLoad ⟨[systemRange]⟩ 64).1 = .error error →
        (smallLoad ⟨[systemRange]⟩ 64).2 = systemMemory) ∧
      ∀ loaded, (smallLoad ⟨[systemRange]⟩ 64).1 = .ok loaded →
        ∃ fdt, fdtAddress ⟨[systemRange]⟩ = .ok fdt ∧
          Places (fun _ => .error .notFound) ⟨"kernel", some "initrd", some []⟩ ⟨[systemRange]⟩
            systemMemory ⟨some (headerOnlyFile 64), some smallInitrd⟩ loaded fdt
            (smallLoad ⟨[systemRange]⟩ 64).2 := by
  refine ⟨by decide +kernel, ?_⟩
  exact boot_payloads_placed (fun _ => .error .notFound) ⟨"kernel", some "initrd", some []⟩
    ⟨[systemRange]⟩ systemMemory ⟨some (headerOnlyFile 64), some smallInitrd⟩
    systemMemory_reachable

/-- A kernel which asks for more memory than its file has is loaded although what it asks for
reaches past the initrd, the device tree and the end of memory; and with a layout which is not the
memory's own, a load succeeds although the device tree's window is not mapped. -/
theorem requested_image_not_reserved :
    ((smallLoad ⟨[systemRange]⟩ 0x40000000).1.toOption.map fun loaded =>
        (loaded.kernel.loadAddress, loaded.initrd.map (·.address))) =
      some (0x80200000, some 0x83dff000) ∧
      (fdtAddress ⟨[systemRange]⟩).toOption = some 0x83e00000 ∧
      0x83e00000 < 0x80200000 + 0x40000000 ∧ systemRange.endExclusive < 0x80200000 + 0x40000000 ∧
    ((kernelLoad ⟨[highRange]⟩).1.toOption.isSome ∧
      (fdtAddress ⟨[highRange]⟩).toOption = some 0x90000000 ∧
      systemMemory.byteAt 0x90000000 = none) := by
  decide +kernel

end Bangbang.Boot
