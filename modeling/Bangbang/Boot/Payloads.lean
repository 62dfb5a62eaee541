import Bangbang.Base.Bytes
import Bangbang.Base.Action
import Bangbang.Memory.MemoryHistory

/-!
# Loading a kernel and an initrd

A boot source names a kernel image, an optional initrd and a command line. Both files are
opened, measured and placed, and read in full, before the first byte of guest memory is
written. The kernel goes where its header asks for, the initrd directly below the window which
is reserved for the device tree at the end of the first memory range.

A file is known by its bytes and its position, together with the host's answers to what the
loader asks of it.
-/

namespace Bangbang

/-- The kinds of error which the host answers. -/
inductive Errno where
  | notFound
  | alreadyExists
  | permissionDenied
  | invalidInput
  | invalidData
  | unexpectedEof
  | other (code : Nat)
deriving DecidableEq, Repr

end Bangbang

namespace Bangbang.Boot

open Memory

inductive BootPayloadKind where
  | kernel
  | initrd
deriving DecidableEq, Repr

inductive BootCommandLineError where
  | containsNul
  | missingBootArgs
  | tooLarge (sizeWithNul maxSize : Nat)
deriving DecidableEq, Repr

inductive KernelImageError where
  | headerTooShort (size : Nat)
  | invalidMagic (magic : Nat)
  | baseAddressNotAligned (address alignment : Nat)
  | loadAddressOverflow (baseAddress textOffset : Nat)
deriving DecidableEq, Repr

inductive BootSourceLoadError where
  | emptyPath (payload : BootPayloadKind)
  | openFile (payload : BootPayloadKind) (source : Errno)
  | readMetadata (payload : BootPayloadKind) (source : Errno)
  | nonRegularFile (payload : BootPayloadKind)
  | emptyPayload (payload : BootPayloadKind)
  | unexpectedProvidedFile (payload : BootPayloadKind)
  | payloadTooLargeForHost (payload : BootPayloadKind) (size : Nat)
  | payloadBufferAllocationFailed (payload : BootPayloadKind) (size : Nat)
  | payloadSizeChanged (payload : BootPayloadKind) (expectedSize actualSize : Nat)
  | readFile (payload : BootPayloadKind) (source : Errno)
  | commandLine (error : BootCommandLineError)
  | kernelImage (error : KernelImageError)
  | invalidLayout (source : GuestMemoryError)
  | payloadRangeInvalid (payload : BootPayloadKind) (source : GuestMemoryError)
  | payloadDoesNotFit (payload : BootPayloadKind) (range : GuestMemoryRange)
  | payloadOverlapsFdt (payload : BootPayloadKind) (endExclusive fdtAddress : Nat)
  | payloadsOverlap (firstPayload : BootPayloadKind) (firstRange : GuestMemoryRange)
      (secondPayload : BootPayloadKind) (secondRange : GuestMemoryRange)
  | noInitrdSpace (size : Nat)
  | guestMemoryWrite (payload : BootPayloadKind) (source : GuestMemoryAccessError)
deriving DecidableEq, Repr

/-! ## Addresses -/

section

def systemMemStart : Nat := 0x80000000

def systemMemSize : Nat := 0x200000

def cmdlineMaxSize : Nat := 2048

def fdtMaxSize : Nat := 0x200000

def guestPageSize : Nat := 4096

def kernelLoadAddress : Nat := systemMemStart + systemMemSize

variable (layout : GuestMemoryLayout) (memory : GuestMemory) (range : GuestMemoryRange)

def firstRange : Except GuestMemoryError GuestMemoryRange := okOr layout.ranges.head? .emptyLayout

/-- The last window of the first range, or its start where it is too small for one. -/
def fdtAddress : Except GuestMemoryError Nat := do
  let range ← firstRange layout
  match checkedSub range.endExclusive fdtMaxSize with
  | some candidate => pure (if range.contains candidate then candidate else range.start)
  | none => pure range.start

def initrdLoadAddress (initrdSize : Nat) : Except GuestMemoryError (Option Nat) := do
  let fdt ← fdtAddress layout
  match alignUp initrdSize guestPageSize with
  | none => pure none
  | some roundedSize =>
    match checkedSub fdt roundedSize with
    | none => pure none
    | some loadAddress =>
      let range ← firstRange layout
      pure (if range.contains loadAddress then some loadAddress else none)

def payloadRange (address size : Nat) (payload : BootPayloadKind) :
    Except BootSourceLoadError GuestMemoryRange :=
  (GuestMemoryRange.new address size).mapError (.payloadRangeInvalid payload)

/-- Walk the regions from `current`, the first address not yet found. -/
def containsFrom (range : GuestMemoryRange) (current : Nat) : List GuestMemoryRegion → Bool
  | [] => false
  | region :: regions =>
    if region.range.endExclusive ≤ current then containsFrom range current regions
    else if !region.range.contains current then false
    else
      let current := min region.range.endExclusive range.endExclusive
      if current = range.endExclusive then true else containsFrom range current regions

def memoryContainsRange : Bool := containsFrom range range.start memory.regions

def validateMemoryBackedRange (payload : BootPayloadKind) : Except BootSourceLoadError Unit :=
  rejectIf (¬ memoryContainsRange memory range) (.payloadDoesNotFit payload range)

def validateKernelRange (loadAddress size : Nat) (payload : BootPayloadKind)
    : Except BootSourceLoadError Unit := do
  let range ← payloadRange loadAddress size payload
  validateMemoryBackedRange memory range payload
  let fdt ← (fdtAddress layout).mapError .invalidLayout
  rejectIf (range.endExclusive > fdt) (.payloadOverlapsFdt payload range.endExclusive fdt)

end

/-! ## The command line -/

section

def defaultKernelCommandLine : String :=
  "reboot=k panic=1 nomodule 8250.nr_uarts=0 i8042.noaux i8042.nomux i8042.dumbkbd swiotlb=noforce"

/-- The characters which `str::trim` removes. -/
def isWhitespace (character : Char) : Bool :=
  let code := character.toNat
  0x9 ≤ code ∧ code ≤ 0xd ∨ code = 0x20 ∨ code = 0x85 ∨ code = 0xa0 ∨ code = 0x1680 ∨
    0x2000 ≤ code ∧ code ≤ 0x200a ∨ code = 0x2028 ∨ code = 0x2029 ∨ code = 0x202f ∨
    code = 0x205f ∨ code = 0x3000

section
variable (raw : List Char) (text : List Char)

def trim : List Char := ((text.dropWhile isWhitespace).reverse.dropWhile isWhitespace).reverse

/-- The length of a text in bytes. -/
def byteLength : Nat := (text.map Char.utf8Size).sum

def initArgsSeparator : List Char := [' ', '-', '-', ' ']

def separatorIsOutsideDoubleQuotes (before : List Char) : Bool := before.count '"' % 2 = 0

/-- Split at the first separator outside quotes; `before` is what was already looked at. -/
def splitCommandLineFrom (before : List Char) : List Char → List Char × List Char
  | ' ' :: '-' :: '-' :: ' ' :: rest =>
    if separatorIsOutsideDoubleQuotes before then (before, rest)
    else splitCommandLineFrom (before ++ initArgsSeparator) rest
  | character :: rest => splitCommandLineFrom (before ++ [character]) rest
  | [] => (before, [])

def splitCommandLine : List Char × List Char := splitCommandLineFrom [] raw

structure CanonicalCommandLine where
  (bootArgs initArgs : List Char)
deriving DecidableEq, Repr

def canonicalCommandLine : Except BootCommandLineError CanonicalCommandLine := do
  let bootArgs := trim (splitCommandLine raw).1
  let initArgs := trim (splitCommandLine raw).2
  rejectIf (bootArgs = [] ∧ initArgs ≠ []) .missingBootArgs
  pure ⟨bootArgs, initArgs⟩

end

namespace CanonicalCommandLine

variable (line : CanonicalCommandLine)

def sizeWithNul : Except BootCommandLineError Nat := do
  let tooLarge : BootCommandLineError := .tooLarge (wordLimit - 1) cmdlineMaxSize
  let size ← okOr (checkedAdd (byteLength line.bootArgs) 1) tooLarge
  if line.initArgs = [] then pure size
  else
    okOr ((checkedAdd size initArgsSeparator.length).bind (checkedAdd · (byteLength line.initArgs)))
      tooLarge

def toText : List Char :=
  if line.initArgs = [] then line.bootArgs
  else line.bootArgs ++ initArgsSeparator ++ line.initArgs

end CanonicalCommandLine

structure KernelCommandLine where
  text : List Char
  bytesWithNul : List UInt8
deriving DecidableEq, Repr

variable (bootArgs : Option (List Char))

def validateCommandLineText : Except BootCommandLineError KernelCommandLine := do
  let text := bootArgs.getD defaultKernelCommandLine.toList
  rejectIf ('\x00' ∈ text) .containsNul
  let line ← canonicalCommandLine text
  let sizeWithNul ← line.sizeWithNul
  rejectIf (sizeWithNul > cmdlineMaxSize) (.tooLarge sizeWithNul cmdlineMaxSize)
  let text := line.toText
  pure ⟨text, (String.ofList text).toUTF8.toList ++ [0]⟩

def validateCommandLine : Except BootSourceLoadError KernelCommandLine :=
  (validateCommandLineText bootArgs).mapError .commandLine

end

/-! ## Files -/

section

/-- An open file, and what the host answers: to a look at its metadata, to a read of its first
bytes, to rewinding it, to a request for a buffer, and to a read of all of it. -/
structure PayloadFile where
  isFile : Bool
  contents : List UInt8
  position : Nat
  (metadata readExact rewind : Except Errno Unit)
  reserve : Bool
  readToEnd : Except Errno Unit
  fits : contents.length < wordLimit

variable (openFile : String → Except Errno PayloadFile)

section
variable (path : String) (provided : Option PayloadFile)

/-- The file which the caller has opened, or else the one at the path. -/
def providedOrOpened (payload : BootPayloadKind) : Except BootSourceLoadError PayloadFile :=
  match provided with
  | some file => .ok file
  | none => (openFile path).mapError (.openFile payload)

def openPayloadFile (payload : BootPayloadKind) :
    Except BootSourceLoadError (PayloadFile × Nat) := do
  rejectIf (path = "") (.emptyPath payload)
  let file ← providedOrOpened openFile path provided payload
  file.metadata.mapError (.readMetadata payload)
  rejectIf (¬ file.isFile) (.nonRegularFile payload)
  let size := file.contents.length
  rejectIf (size = 0) (.emptyPayload payload)
  pure (file, size)

end

def readPayloadFile (file : PayloadFile) (payload : BootPayloadKind) (expectedSize : Nat) :
    Except BootSourceLoadError (List UInt8) := do
  file.rewind.mapError (.readFile payload)
  let readLimit ← okOr (checkedAdd expectedSize 1) (.payloadTooLargeForHost payload expectedSize)
  rejectIf (¬ file.reserve) (.payloadBufferAllocationFailed payload readLimit)
  file.readToEnd.mapError (.readFile payload)
  let bytes := file.contents.take readLimit
  rejectIf (bytes.length ≠ expectedSize) (.payloadSizeChanged payload expectedSize bytes.length)
  pure bytes

end

/-! ## The kernel -/

def arm64ImageHeaderSize : Nat := 64

def arm64ImageTextOffsetOffset : Nat := 8

def arm64ImageSizeOffset : Nat := 16

def arm64ImageMagicOffset : Nat := 56

def arm64ImageMagic : Nat := 0x644d5241

def arm64LegacyTextOffset : Nat := 0x80000

def arm64BaseAlignment : Nat := 0x200000

structure Arm64ImageHeader where
  (textOffset imageSize magic : Nat)
deriving DecidableEq, Repr

/-- A little-endian field of a header. -/
def readHeaderLe (bytes : List UInt8) (offset width : Nat) : Except BootSourceLoadError Nat :=
  okOr (readLe bytes offset width) (.kernelImage (.headerTooShort bytes.length))

def parseArm64ImageHeader (bytes : List UInt8) : Except BootSourceLoadError Arm64ImageHeader := do
  rejectIf (bytes.length < arm64ImageHeaderSize) (.kernelImage (.headerTooShort bytes.length))
  let textOffset ← readHeaderLe bytes arm64ImageTextOffsetOffset 8
  let imageSize ← readHeaderLe bytes arm64ImageSizeOffset 8
  let magic ← readHeaderLe bytes arm64ImageMagicOffset 4
  rejectIf (magic ≠ arm64ImageMagic) (.kernelImage (.invalidMagic magic))
  pure ⟨textOffset, imageSize, magic⟩

/-- Reads a header from where the file stands, without rewinding it. -/
def readArm64ImageHeader (file : PayloadFile) (size : Nat) :
    Except BootSourceLoadError Arm64ImageHeader := do
  rejectIf (size < arm64ImageHeaderSize) (.kernelImage (.headerTooShort size))
  file.readExact.mapError (.readFile .kernel)
  let bytes ← okOr (slice file.contents file.position arm64ImageHeaderSize)
    (.readFile .kernel .unexpectedEof)
  parseArm64ImageHeader bytes

structure LoadedKernel where
  (baseAddress loadAddress entryAddress size : Nat)
deriving DecidableEq, Repr

structure LoadedInitrd where
  (address size : Nat)
deriving DecidableEq, Repr

def loadedKernelFromArm64Header (header : Arm64ImageHeader) (size : Nat)
    (layout : GuestMemoryLayout) (memory : GuestMemory) :
    Except BootSourceLoadError LoadedKernel := do
  let baseAddress := kernelLoadAddress
  rejectIf (baseAddress % arm64BaseAlignment ≠ 0)
    (.kernelImage (.baseAddressNotAligned baseAddress arm64BaseAlignment))
  -- Images from before the header had a size are loaded at a fixed offset.
  let textOffset := if header.imageSize = 0 then arm64LegacyTextOffset else header.textOffset
  let loadAddress ← okOr (checkedAdd baseAddress textOffset)
    (.kernelImage (.loadAddressOverflow baseAddress textOffset))
  validateKernelRange layout memory loadAddress size .kernel
  pure ⟨baseAddress, loadAddress, loadAddress, size⟩

/-! ## Loading -/

section
variable (openFile : String → Except Errno PayloadFile)

structure PreparedKernelPayload where
  file : PayloadFile
  size : Nat
  loaded : LoadedKernel

structure KernelPayload where
  bytes : List UInt8
  loaded : LoadedKernel
deriving DecidableEq, Repr

structure PreparedInitrdPayload where
  file : PayloadFile
  loaded : LoadedInitrd

variable (path : String) (provided : Option PayloadFile) (source : BootSource)
  (layout : GuestMemoryLayout) (memory : GuestMemory) (files : BootSourceFiles)

def prepareKernelPayload : Except BootSourceLoadError PreparedKernelPayload := do
  let (file, size) ← openPayloadFile openFile path provided .kernel
  validateKernelRange layout memory kernelLoadAddress size .kernel
  let header ← readArm64ImageHeader file size
  let loaded ← loadedKernelFromArm64Header header size layout memory
  pure ⟨file, size, loaded⟩

def prepareInitrdPayload : Except BootSourceLoadError PreparedInitrdPayload := do
  let (file, size) ← openPayloadFile openFile path provided .initrd
  let found ← (initrdLoadAddress layout size).mapError .invalidLayout
  let address ← okOr found (.noInitrdSpace size)
  let range ← payloadRange address size .initrd
  validateMemoryBackedRange memory range .initrd
  pure ⟨file, ⟨address, size⟩⟩

def loadKernelPayload (file : PayloadFile) (size : Nat) (layout : GuestMemoryLayout)
    (memory : GuestMemory) : Except BootSourceLoadError KernelPayload := do
  let bytes ← readPayloadFile file .kernel size
  let header ← parseArm64ImageHeader bytes
  let loaded ← loadedKernelFromArm64Header header size layout memory
  pure ⟨bytes, loaded⟩

def validatePayloadsDoNotOverlap (kernel : LoadedKernel) (initrd : LoadedInitrd) :
    Except BootSourceLoadError Unit := do
  let kernelRange ← payloadRange kernel.loadAddress kernel.size .kernel
  let initrdRange ← payloadRange initrd.address initrd.size .initrd
  rejectIf (kernelRange.overlaps initrdRange)
    (.payloadsOverlap .kernel kernelRange .initrd initrdRange)

structure BootSource where
  kernelImagePath : String
  initrdPath : Option String
  bootArgs : Option (List Char)
deriving DecidableEq, Repr

/-- Files which the caller has already opened. -/
structure BootSourceFiles where
  (kernel initrd : Option PayloadFile)

structure LoadedBootSource where
  commandLine : KernelCommandLine
  kernel : LoadedKernel
  initrd : Option LoadedInitrd
deriving DecidableEq, Repr

/-- Everything which happens before guest memory is written. -/
def prepareBootSource : Except BootSourceLoadError
      (KernelCommandLine × KernelPayload × Option (List UInt8 × LoadedInitrd)) := do
  rejectIf (source.initrdPath.isNone ∧ files.initrd.isSome) (.unexpectedProvidedFile .initrd)
  let commandLine ← validateCommandLine source.bootArgs
  let preparedKernel ←
    prepareKernelPayload openFile source.kernelImagePath files.kernel layout memory
  match source.initrdPath with
  | none =>
    let kernel ← loadKernelPayload preparedKernel.file preparedKernel.size layout memory
    pure (commandLine, kernel, none)
  | some path =>
    let initrd ← prepareInitrdPayload openFile path files.initrd layout memory
    validatePayloadsDoNotOverlap preparedKernel.loaded initrd.loaded
    let kernel ← loadKernelPayload preparedKernel.file preparedKernel.size layout memory
    validatePayloadsDoNotOverlap kernel.loaded initrd.loaded
    let bytes ← readPayloadFile initrd.file .initrd initrd.loaded.size
    pure (commandLine, kernel, some (bytes, initrd.loaded))

def loadBootSourceWithFiles : Except BootSourceLoadError LoadedBootSource × GuestMemory :=
  match prepareBootSource openFile source layout memory files with
  | .error error => (.error error, memory)
  | .ok (commandLine, kernel, initrd) =>
    match memory.writeSlice kernel.bytes kernel.loaded.loadAddress with
    | (.error error, memory) => (.error (.guestMemoryWrite .kernel error), memory)
    | (.ok _, memory) =>
      match initrd with
      | none => (.ok ⟨commandLine, kernel.loaded, none⟩, memory)
      | some (bytes, loaded) =>
        match memory.writeSlice bytes loaded.address with
        | (.error error, memory) => (.error (.guestMemoryWrite .initrd error), memory)
        | (.ok _, memory) => (.ok ⟨commandLine, kernel.loaded, some loaded⟩, memory)

end
end Bangbang.Boot
