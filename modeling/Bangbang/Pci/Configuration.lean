import Bangbang.Base.Word
import Bangbang.Pci.BarAllocator

/-!
# PCI type-0 configuration space

A configuration is a file of 32-bit registers, the bits of each which the guest may
write, the installed BAR registers in the order of their index, and the place of the
last capability. Guest accesses reach a register through its bytes; a BAR register
answers its size once after it was written with ones. A snapshot keeps the writable bytes
and the pending probes, and is checked against a profile before it is taken or applied.
Whether a list could be reserved is an argument of each call.
-/

namespace Bangbang.Pci

open Memory MaskedWord
open Bangbang.Action (check)

abbrev Byte := BitVec 8

def pciConfigSpaceSize : Nat := 4096

def pciConfigRegisterSize : Nat := 4

def pciConfigRegisterCount : Nat := pciConfigSpaceSize / pciConfigRegisterSize

def pciBarRegisterFirst : Nat := 4

def pciBarRegisterCount : Nat := 6

def pciCommandWritableMask : BitVec 32 := 0x0000ffff

def pciCachelineWritableMask : BitVec 32 := 0x000000ff

def pciInterruptLineWritableMask : BitVec 32 := 0x000000ff

def pciStatusCapabilityListMask : BitVec 32 := 0x00100000

def pciCapabilityListHeadOffset : Nat := 0x34

def pciFirstCapabilityOffset : Nat := 0x40

def pciCapabilityEndExclusive : Nat := 0xc0

inductive PciClassCode where
  | unclassified
  | massStorage
  | network
  | bridge
  | unassigned
deriving DecidableEq, Repr

def PciClassCode.rawValue : PciClassCode → Byte
  | .unclassified => 0x00
  | .massStorage => 0x01
  | .network => 0x02
  | .bridge => 0x06
  | .unassigned => 0xff

inductive PciCapabilityId where
  | vendorSpecific
  | msiX
deriving DecidableEq, Repr

def PciCapabilityId.rawValue : PciCapabilityId → Byte
  | .vendorSpecific => 0x09
  | .msiX => 0x11

inductive PciBarPrefetchable where
  | no
  | yes
deriving DecidableEq, Repr

structure PciBarRegister where
  (encodedAddress encodedSize : BitVec 32)
  probePending : Bool
deriving DecidableEq, Repr

inductive PciConfigAccessError where
  | invalidWidth (length : Nat)
  | outsideConfigurationSpace (offset length : Nat)
  | crossesRegister (offset length : Nat)
deriving DecidableEq, Repr

inductive PciCapabilityError where
  | writableMaskLength (body mask : Nat)
  | lengthOverflow
  | invalidOffset (offset : Nat)
  | noSpace (offset length : Nat)
deriving DecidableEq, Repr

inductive PciBarConfigurationError where
  | invalidIndex (index : Nat)
  | missingHighRegister (index : Nat)
  | duplicateRegister (index : Nat)
  | addressExceeds32Bit (range : GuestMemoryRange)
deriving DecidableEq, Repr

inductive PciType0SnapshotError where
  | profileMismatch
  | allocation
deriving DecidableEq, Repr

structure PciType0Configuration where
  (registers writableMasks : List (BitVec 32))
  bars : List (Nat × PciBarRegister)
  lastCapability : Option (Nat × Nat)
deriving DecidableEq, Repr

structure PciType0WritableByte where
  offset : Nat
  (value writableMask : Byte)
deriving DecidableEq, Repr

structure PciType0BarProbeState where
  index : Nat
  pending : Bool
deriving DecidableEq, Repr

structure PciType0GuestState where
  writableBytes : List PciType0WritableByte
  barProbes : List PciType0BarProbeState
deriving DecidableEq, Repr

structure PciType0SnapshotProfile where
  configuration : PciType0Configuration
deriving DecidableEq, Repr

/-- Whether each of the two lists of a snapshot could be reserved. -/
structure SnapshotReservations where
  (writableBytes barProbes : Bool)
deriving DecidableEq, Repr

def SnapshotReservations.granted : SnapshotReservations := ⟨true, true⟩

/-- Insert a BAR register at the place of its index, over an older one. -/
def insertBar (index : Nat) (bar : PciBarRegister) :
    List (Nat × PciBarRegister) → List (Nat × PciBarRegister)
  | [] => [(index, bar)]
  | (other, found) :: rest =>
    if index < other then (index, bar) :: (other, found) :: rest
    else if index = other then (index, bar) :: rest
    else (other, found) :: insertBar index bar rest

/-- Change the BAR register of one index. -/
def updateBar (index : Nat) (change : PciBarRegister → PciBarRegister)
    (bars : List (Nat × PciBarRegister)) : List (Nat × PciBarRegister) :=
  bars.map fun entry => if entry.1 = index then (entry.1, change entry.2) else entry

/-- Replace one byte of a word of a register file. -/
def setFileByte (file : List (BitVec 32)) (offset : Nat) (value : Byte) : List (BitVec 32) :=
  file.modify (offset / pciConfigRegisterSize) fun register =>
    (register &&& ~~~(placed 0xff (offset % pciConfigRegisterSize))) |||
      placed value (offset % pciConfigRegisterSize)

/-- Copy the bytes of a register over a buffer, as far as the register reaches. -/
def copyRegisterBytes (value : BitVec 32) (registerOffset : Nat) (destination : List Byte) :
    List Byte :=
  destination.zipIdx.map fun (byte, index) => (toLeBytes value)[registerOffset + index]?.getD byte

namespace PciType0Configuration

variable (configuration : PciType0Configuration) (registerIndex : Nat) (index : Nat)
  (value : BitVec 32) (range : GuestMemoryRange) (offset : Nat) (data : List Byte)
  (profile : PciType0SnapshotProfile)

def setRegister : PciType0Configuration :=
  { configuration with registers := configuration.registers.set index value }

def setWritableMask : PciType0Configuration :=
  { configuration with writableMasks := configuration.writableMasks.set index value }

def setConfigurationByte (value : Byte) : PciType0Configuration :=
  { configuration with registers := setFileByte configuration.registers offset value }

def setWritableConfigurationByte (value : Byte) : PciType0Configuration :=
  { configuration with writableMasks := setFileByte configuration.writableMasks offset value }

def new (vendorId deviceId : BitVec 16) (revisionId : Byte) (classCode : PciClassCode)
    (subclass programmingInterface : Byte) (subsystemVendorId subsystemId : BitVec 16) :
    PciType0Configuration :=
  let configuration : PciType0Configuration :=
    { registers := List.replicate pciConfigRegisterCount 0
      writableMasks := List.replicate pciConfigRegisterCount 0
      bars := []
      lastCapability := none }
  let configuration := configuration.setRegister 0 (deviceId ++ vendorId)
  let configuration := configuration.setRegister 2
    (classCode.rawValue ++ subclass ++ programmingInterface ++ revisionId)
  let configuration := configuration.setRegister 3 0
  let configuration := configuration.setRegister 11 (subsystemId ++ subsystemVendorId)
  let configuration := configuration.setWritableMask 1 pciCommandWritableMask
  let configuration := configuration.setWritableMask 3 pciCachelineWritableMask
  configuration.setWritableMask 15 pciInterruptLineWritableMask

/-- The type bits of a BAR, when its index and range suit its address space. -/
def barTypeBits : PciBarAddressSpace → Except PciBarConfigurationError (BitVec 32)
  | .memory32 => do
      rejectIf (range.endExclusive > 2 ^ 32) (.addressExceeds32Bit range)
      pure 0
  | .memory64 => do
      rejectIf (index ≥ pciBarRegisterCount - 1) (.missingHighRegister index)
      pure 0b100

def installBarRange (addressSpace : PciBarAddressSpace) (prefetchable : PciBarPrefetchable) :
    Except PciBarConfigurationError PciType0Configuration := do
  rejectIf (index ≥ pciBarRegisterCount) (.invalidIndex index)
  let typeBits ← barTypeBits index range addressSpace
  let occupiedRegisters := if addressSpace = .memory64 then 2 else 1
  (List.range' index occupiedRegisters).forM fun register =>
    rejectIf ((configuration.bars.lookup register).isSome) (.duplicateRegister register)
  let prefetchableBit : BitVec 32 := match prefetchable with
    | .no => 0
    | .yes => 0b1000
  let sizeMask := ~~~BitVec.ofNat 64 (range.size - 1)
  let bars := insertBar index
    { encodedAddress :=
        (BitVec.ofNat 32 range.start &&& 0xfffffff0) ||| typeBits ||| prefetchableBit
      encodedSize := sizeMask.setWidth 32
      probePending := false } configuration.bars
  let bars := if addressSpace = .memory64 then
      insertBar (index + 1)
        { encodedAddress := BitVec.ofNat 32 (range.start / 2 ^ 32)
          encodedSize := (sizeMask >>> 32).setWidth 32
          probePending := false } bars
    else bars
  pure { configuration with bars }

/-- The place of the next capability, and of the pointer which will name it. -/
def nextCapability : Option (Nat × Nat) → Nat × Nat
  | some (previousOffset, previousLength) =>
    ((previousOffset + previousLength + 3) / 4 * 4, previousOffset + 1)
  | none => (pciFirstCapabilityOffset, pciCapabilityListHeadOffset)

/-- Add a capability whose header is immutable and whose body is writable under a mask,
and return its offset. -/
def addCapability (id : PciCapabilityId) (body bodyWritableMask : List Byte) :
    Except PciCapabilityError (Nat × PciType0Configuration) := do
  rejectIf (body.length ≠ bodyWritableMask.length)
    (.writableMaskLength body.length bodyWritableMask.length)
  let totalLength ← okOr (checkedAdd body.length 2) .lengthOverflow
  rejectIf (totalLength ≥ 2 ^ 8) .lengthOverflow
  let (offset, previousNextPointer) := nextCapability configuration.lastCapability
  let stop ← okOr (checkedAdd offset totalLength) .lengthOverflow
  rejectIf (stop > pciCapabilityEndExclusive) (.noSpace offset totalLength)
  rejectIf (offset ≥ 2 ^ 8) (.invalidOffset offset)
  let configuration := configuration.setConfigurationByte previousNextPointer (.ofNat 8 offset)
  let configuration := configuration.setConfigurationByte offset id.rawValue
  let configuration := configuration.setConfigurationByte (offset + 1) 0
  let configuration := configuration.setWritableConfigurationByte offset 0
  let configuration := configuration.setWritableConfigurationByte (offset + 1) 0
  let configuration := body.zipIdx.foldl (fun configuration (byte, index) =>
    configuration.setConfigurationByte (offset + 2 + index) byte) configuration
  let configuration := bodyWritableMask.zipIdx.foldl (fun configuration (mask, index) =>
    configuration.setWritableConfigurationByte (offset + 2 + index) mask) configuration
  let status := configuration.registers[1]?.getD 0 ||| pciStatusCapabilityListMask
  let configuration := configuration.setRegister 1 status
  pure (offset, { configuration with lastCapability := some (offset, totalLength) })

/-- The writable bytes of one register, in order. -/
def registerWritableBytes (register writableMask : BitVec 32) :
    Except PciType0SnapshotError (List PciType0WritableByte) :=
  ((List.range pciConfigRegisterSize).filter fun byteIndex => byteOf writableMask byteIndex ≠ 0).mapM
    fun byteIndex => do
      let start ← okOr (checkedMul registerIndex pciConfigRegisterSize) .profileMismatch
      let offset ← okOr (checkedAdd start byteIndex) .profileMismatch
      rejectIf (offset ≥ 2 ^ 16) .profileMismatch
      pure
        { offset
          value := byteOf register byteIndex &&& byteOf writableMask byteIndex
          writableMask := byteOf writableMask byteIndex }

/-- Compare a configuration with the profile which it should have. -/
def checkProfile : Except PciType0SnapshotError Unit := do
  let expected := profile.configuration
  rejectIf (configuration.registers.length ≠ expected.registers.length ∨
      configuration.writableMasks ≠ expected.writableMasks ∨
      configuration.bars.length ≠ expected.bars.length ∨
      configuration.lastCapability ≠ expected.lastCapability) .profileMismatch
  ((configuration.registers.zip expected.registers).zip configuration.writableMasks).forM
    fun ((actual, expected), writableMask) =>
      rejectIf ((actual ^^^ expected) &&& ~~~writableMask ≠ 0#32) .profileMismatch
  (configuration.bars.zip expected.bars).forM
    fun ((actualIndex, actual), (expectedIndex, expected)) =>
      rejectIf (actualIndex ≠ expectedIndex ∨ actual.encodedAddress ≠ expected.encodedAddress ∨
        actual.encodedSize ≠ expected.encodedSize) .profileMismatch

def snapshotGuestState (reserves : SnapshotReservations) :
    Except PciType0SnapshotError PciType0GuestState := do
  configuration.checkProfile profile
  rejectIf (!reserves.writableBytes) .allocation
  let writableBytes ← (configuration.registers.zip configuration.writableMasks).zipIdx.mapM
    fun ((register, writableMask), registerIndex) =>
      registerWritableBytes registerIndex register writableMask
  rejectIf (!reserves.barProbes) .allocation
  pure
    { writableBytes := writableBytes.flatten
      barProbes := configuration.bars.map fun (index, bar) => ⟨index, bar.probePending⟩ }

/-- Put one supplied byte into the register file. -/
def applyWritableByte (registers : List (BitVec 32)) (writable : PciType0WritableByte) :
    Except PciType0SnapshotError (List (BitVec 32)) := do
  let registerIndex := writable.offset / pciConfigRegisterSize
  let byteIndex := writable.offset % pciConfigRegisterSize
  let register ← okOr registers[registerIndex]? .profileMismatch
  pure (registers.set registerIndex
    (splice (placed writable.writableMask byteIndex) register (placed writable.value byteIndex)))

/-- Put one supplied probe into the BAR registers. -/
def applyBarProbe (bars : List (Nat × PciBarRegister)) (probe : PciType0BarProbeState) :
    Except PciType0SnapshotError (List (Nat × PciBarRegister)) := do
  let _ ← okOr (bars.lookup probe.index) .profileMismatch
  pure (updateBar probe.index (fun bar => { bar with probePending := probe.pending }) bars)

def applyGuestState (guestState : PciType0GuestState)
    (reserves candidateReserves : SnapshotReservations) :
    Action PciType0Configuration PciType0SnapshotError Unit := do
  let configuration ← get
  let expected ← check (configuration.snapshotGuestState profile reserves)
  check (rejectIf (expected.writableBytes.length ≠ guestState.writableBytes.length ∨
    expected.barProbes.length ≠ guestState.barProbes.length) .profileMismatch)
  check ((expected.writableBytes.zip guestState.writableBytes).forM fun (expected, supplied) =>
    rejectIf (expected.offset ≠ supplied.offset ∨
      expected.writableMask ≠ supplied.writableMask ∨
      supplied.value &&& ~~~supplied.writableMask ≠ 0#8) .profileMismatch)
  check ((expected.barProbes.zip guestState.barProbes).forM fun (expected, supplied) =>
    rejectIf (expected.index ≠ supplied.index) .profileMismatch)
  let registers ← check (guestState.writableBytes.foldlM applyWritableByte configuration.registers)
  let bars ← check (guestState.barProbes.foldlM applyBarProbe configuration.bars)
  let candidate := { configuration with registers, bars }
  let captured ← check (candidate.snapshotGuestState profile candidateReserves)
  check (rejectIf (captured ≠ guestState) .profileMismatch)
  set candidate

/-- The register which an access reaches and the first byte of it. -/
def validateAccess (offset length : Nat) : Except PciConfigAccessError (Nat × Nat) := do
  rejectIf (length ≠ 1 ∧ length ≠ 2 ∧ length ≠ 4) (.invalidWidth length)
  rejectIf (offset + length > pciConfigSpaceSize) (.outsideConfigurationSpace offset length)
  let registerOffset := offset % pciConfigRegisterSize
  rejectIf (registerOffset + length > pciConfigRegisterSize) (.crossesRegister offset length)
  pure (offset / pciConfigRegisterSize, registerOffset)

/-- The installed BAR register behind a register of the file. -/
def barBehind : Option (Nat × PciBarRegister) := do
  let index ← (checkedSub registerIndex pciBarRegisterFirst).filter (· < pciBarRegisterCount)
  let bar ← configuration.bars.lookup index
  pure (index, bar)

/-- Read over a buffer; a read of a probed BAR register ends its probe. -/
def readConfig : Action PciType0Configuration PciConfigAccessError (List Byte) := do
  let (registerIndex, registerOffset) ← check (validateAccess offset data.length)
  let configuration ← get
  match configuration.barBehind registerIndex with
  | some (index, bar) =>
    if bar.probePending then
      set { configuration with
        bars := updateBar index (fun bar => { bar with probePending := false })
          configuration.bars }
      pure (copyRegisterBytes bar.encodedSize registerOffset data)
    else
      pure (copyRegisterBytes bar.encodedAddress registerOffset data)
  | none =>
    pure (copyRegisterBytes (configuration.registers[registerIndex]?.getD (.allOnes 32))
      registerOffset data)

/-- The bits which a write gives to a register, and the bits which it reaches. -/
def writtenBits (registerOffset : Nat) (data : List Byte) : BitVec 32 × BitVec 32 :=
  data.zipIdx.foldl (fun (writeValue, byteMask) (byte, index) =>
    (writeValue ||| placed byte (registerOffset + index),
      byteMask ||| placed 0xff (registerOffset + index))) (0, 0)

def writeConfig : Action PciType0Configuration PciConfigAccessError Unit := do
  let (registerIndex, registerOffset) ← check (validateAccess offset data.length)
  let configuration ← get
  match configuration.barBehind registerIndex with
  | some (index, _) =>
    let probed := registerOffset = 0 ∧ data.length = pciConfigRegisterSize ∧
      ∀ byte ∈ data, byte = 0xff
    set { configuration with
      bars := updateBar index (fun bar => { bar with probePending := decide probed })
        configuration.bars }
  | none =>
    match configuration.registers[registerIndex]? with
    | none => pure ()
    | some register =>
      let writable := configuration.writableMasks[registerIndex]?.getD 0
      let (writeValue, byteMask) := writtenBits registerOffset data
      set { configuration with
        registers := configuration.registers.set registerIndex
          (splice (byteMask &&& writable) register writeValue) }

end PciType0Configuration

namespace PciType0SnapshotProfile

/-- One call of a profile's builder. -/
inductive Change where
  | installBar (index : Nat) (range : GuestMemoryRange) (addressSpace : PciBarAddressSpace)
      (prefetchable : PciBarPrefetchable)
  | addCapability (id : PciCapabilityId) (body bodyWritableMask : List Byte)
deriving DecidableEq, Repr

def new (vendorId deviceId : BitVec 16) (revisionId : Byte) (classCode : PciClassCode)
    (subclass programmingInterface : Byte) (subsystemVendorId subsystemId : BitVec 16) :
    PciType0SnapshotProfile :=
  ⟨.new vendorId deviceId revisionId classCode subclass programmingInterface subsystemVendorId
    subsystemId⟩

variable (profile : PciType0SnapshotProfile)

/-- The profile after a builder's call; a refused one changes nothing. -/
def change : Change → PciType0SnapshotProfile
  | .installBar index range addressSpace prefetchable =>
    match profile.configuration.installBarRange index range addressSpace prefetchable with
    | .ok configuration => ⟨configuration⟩
    | .error _ => profile
  | .addCapability id body bodyWritableMask =>
    match profile.configuration.addCapability id body bodyWritableMask with
    | .ok (_, configuration) => ⟨configuration⟩
    | .error _ => profile

def build (changes : List Change) : PciType0SnapshotProfile := changes.foldl change profile

end PciType0SnapshotProfile

/-- A guest access to the configuration space: a read over a buffer or a write. -/
inductive PciConfigAccess where
  | read (offset : Nat) (data : List Byte)
  | write (offset : Nat) (data : List Byte)
deriving DecidableEq, Repr

namespace PciType0Configuration

/-- Serve an access; a write is answered without data. -/
def serve : PciConfigAccess → Action PciType0Configuration PciConfigAccessError (List Byte)
  | .read offset data => readConfig offset data
  | .write offset data => do
      writeConfig offset data
      pure []

/-- The answers to a sequence of accesses and the configuration after them. -/
def run (configuration : PciType0Configuration) :
    List PciConfigAccess →
      List (Except PciConfigAccessError (List Byte)) × PciType0Configuration
  | [] => ([], configuration)
  | access :: rest =>
    let (answer, next) := Action.outcome (serve access) configuration
    let (answers, final) := next.run rest
    (answer :: answers, final)

end PciType0Configuration
end Bangbang.Pci
