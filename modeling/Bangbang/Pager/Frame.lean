import Bangbang.Base.Reader

/-!
# Pager frames

The messages of the `bangbang-pager-v1` protocol and their wire form: a header
with magic, version, kind and body length, followed by a body which starts with
the session identity. The identities, limits and regions carry what their
constructors check, so that a value of these types is always one which the wire
admits. The metadata of page and removal requests is checked where it is used.
-/

namespace Bangbang.Pager

inductive PagerError where
  | invalidConfiguration
  | invalidFrame
  | invalidPeerState
  | invalidLifecycle
  | limitExceeded
  | unexpectedEof
  deriving DecidableEq, Repr

def headerBytes : Nat := 24
def minPageSize : Nat := 4 * 1024
def maxPageSize : Nat := 2 * 1024 * 1024
def maxRegions : Nat := 128
def maxInFlight : Nat := 256

def sessionBytes : Nat := 32
def limitsBodyBytes : Nat := sessionBytes + 24
def regionBodyBytes : Nat := sessionBytes + 24
def pageMetadataBytes : Nat := sessionBytes + 40
def removeBodyBytes : Nat := sessionBytes + 40
def cancelBodyBytes : Nat := sessionBytes + 8
def terminalBodyBytes : Nat := sessionBytes + 8

def maxFrameBytes : Nat := headerBytes + pageMetadataBytes + maxPageSize

/-- The bytes of `BBPAGER` and a final zero. -/
def magic : List UInt8 := [0x42, 0x42, 0x50, 0x41, 0x47, 0x45, 0x52, 0]

def version : BitVec 16 := 1

def opPageData : BitVec 32 := 1 <<< 0
def opPageZero : BitVec 32 := 1 <<< 1
def opRemove : BitVec 32 := 1 <<< 2
def opCancel : BitVec 32 := 1 <<< 3
def opShutdown : BitVec 32 := 1 <<< 4

def v1Operations : BitVec 32 := opPageData ||| opPageZero ||| opRemove ||| opCancel ||| opShutdown

/-- The identity which every frame of one session carries. -/
structure PagerSessionId where
  bytes : List UInt8
  size : bytes.length = sessionBytes
  nonzero : bytes ≠ List.replicate sessionBytes 0
  deriving DecidableEq

namespace PagerSessionId

variable (bytes : { bytes : List UInt8 // bytes.length = sessionBytes })

def fromBytes : Except PagerError PagerSessionId :=
  if zero : bytes.1 = List.replicate sessionBytes 0 then .error .invalidConfiguration
  else .ok ⟨bytes.1, bytes.2, zero⟩

def decode : Except PagerError PagerSessionId := (fromBytes bytes).mapError fun _ => .invalidFrame

end PagerSessionId

/-- A nonzero number of a fixed width which names something in the protocol. -/
structure NonzeroIdentifier (width : Nat) where
  get : BitVec width
  nonzero : get ≠ 0
  deriving DecidableEq

namespace NonzeroIdentifier

variable {width : Nat}

variable (value : BitVec width)

def new : Except PagerError (NonzeroIdentifier width) :=
  if zero : value = 0 then .error .invalidConfiguration else .ok ⟨value, zero⟩

def decode : Except PagerError (NonzeroIdentifier width) :=
  (new value).mapError fun _ => .invalidFrame

end NonzeroIdentifier

abbrev PagerRegionId := NonzeroIdentifier 32
abbrev PagerRequestId := NonzeroIdentifier 64
abbrev PagerGeneration := NonzeroIdentifier 64

/-- The closed operation set of the first protocol version. -/
structure PagerOperations where
  bits : BitVec 32
  complete : bits = v1Operations
  deriving DecidableEq

namespace PagerOperations

def v1 : PagerOperations := ⟨v1Operations, rfl⟩

def fromBits (bits : BitVec 32) : Except PagerError PagerOperations :=
  if complete : bits = v1Operations then .ok ⟨bits, complete⟩ else .error .invalidConfiguration

def decode (bits : BitVec 32) : Except PagerError PagerOperations :=
  (fromBits bits).mapError fun _ => .invalidFrame

end PagerOperations

/-- What the constructor of a limit set checks. -/
def LimitsAdmitted (pageSize : BitVec 32) (regionCount inFlight : BitVec 16)
    (frameBytes : BitVec 32) (operations : PagerOperations) : Prop :=
  headerBytes + pageMetadataBytes + pageSize.toNat < 2 ^ 32 ∧
    (∃ shift < 32, pageSize.toNat = 2 ^ shift) ∧
    (minPageSize ≤ pageSize.toNat ∧ pageSize.toNat ≤ maxPageSize) ∧
    (1 ≤ regionCount.toNat ∧ regionCount.toNat ≤ maxRegions) ∧
    (1 ≤ inFlight.toNat ∧ inFlight.toNat ≤ maxInFlight) ∧
    (headerBytes + pageMetadataBytes + pageSize.toNat ≤ frameBytes.toNat ∧
      frameBytes.toNat ≤ maxFrameBytes) ∧
    operations = PagerOperations.v1

instance (pageSize : BitVec 32) (regionCount inFlight : BitVec 16) (frameBytes : BitVec 32)
    (operations : PagerOperations) :
    Decidable (LimitsAdmitted pageSize regionCount inFlight frameBytes operations) :=
  inferInstanceAs (Decidable (_ ∧ _))

/-- The limits which are offered or selected in the handshake. -/
structure PagerLimits where
  pageSize : BitVec 32
  (regionCount maxInFlight : BitVec 16)
  maxFrameBytes : BitVec 32
  operations : PagerOperations
  admitted : LimitsAdmitted pageSize regionCount maxInFlight maxFrameBytes operations
  deriving DecidableEq

namespace PagerLimits

section
variable (pageSize : BitVec 32) (regionCount inFlight : BitVec 16) (frameBytes : BitVec 32)

def new (operations : PagerOperations) : Except PagerError PagerLimits :=
  if admitted : LimitsAdmitted pageSize regionCount inFlight frameBytes operations then
    .ok ⟨pageSize, regionCount, inFlight, frameBytes, operations, admitted⟩
  else .error .invalidConfiguration

def decode (operations : PagerOperations) : Except PagerError PagerLimits :=
  (new pageSize regionCount inFlight frameBytes operations).mapError fun _ => .invalidFrame

end

/-- Whether a peer may answer the offer with these limits. -/
def isSelectionFor (selected offered : PagerLimits) : Bool :=
  selected.pageSize = offered.pageSize ∧ selected.regionCount = offered.regionCount ∧
    selected.maxInFlight.toNat ≤ offered.maxInFlight.toNat ∧
    selected.maxFrameBytes.toNat ≤ offered.maxFrameBytes.toNat ∧
    selected.operations.bits = offered.operations.bits

end PagerLimits

/-- What the constructor of a region checks against a page size. -/
def RegionValidFor (sourceOffset length : BitVec 64) (pageSize : BitVec 32) : Prop :=
  pageSize.toNat ≠ 0 ∧ length ≠ 0 ∧ pageSize.toNat ∣ sourceOffset.toNat ∧
    pageSize.toNat ∣ length.toNat ∧ (checkedAdd sourceOffset.toNat length.toNat).isSome

instance (sourceOffset length : BitVec 64) (pageSize : BitVec 32) :
    Decidable (RegionValidFor sourceOffset length pageSize) :=
  inferInstanceAs (Decidable (_ ∧ _))

/-- A region of the snapshot source. -/
structure PagerRegion where
  id : PagerRegionId
  (sourceOffset length : BitVec 64)
  nonempty : length ≠ 0
  bounded : (checkedAdd sourceOffset.toNat length.toNat).isSome
  deriving DecidableEq

namespace PagerRegion

def isValidFor (region : PagerRegion) (pageSize : BitVec 32) : Bool :=
  RegionValidFor region.sourceOffset region.length pageSize

variable (id : PagerRegionId) (sourceOffset length : BitVec 64)

def decode : Except PagerError PagerRegion :=
  if valid : length ≠ 0 ∧ (checkedAdd sourceOffset.toNat length.toNat).isSome then
    .ok ⟨id, sourceOffset, length, valid.1, valid.2⟩
  else .error .invalidFrame

end PagerRegion

inductive PageAccess where
  | read
  | write
  deriving DecidableEq, Repr

namespace PageAccess

def wire : PageAccess → BitVec 32
  | .read => 1
  | .write => 2

def decode (value : BitVec 32) : Except PagerError PageAccess :=
  match value.toNat with
  | 1 => .ok .read
  | 2 => .ok .write
  | _ => .error .invalidFrame

end PageAccess

inductive CancelReason where
  | requested
  | sourceFailure
  deriving DecidableEq, Repr

namespace CancelReason

def wire : CancelReason → BitVec 8
  | .requested => 1
  | .sourceFailure => 2

def decode (value : BitVec 8) : Except PagerError CancelReason :=
  match value.toNat with
  | 1 => .ok .requested
  | 2 => .ok .sourceFailure
  | _ => .error .invalidFrame

end CancelReason

inductive TerminalCode where
  | invalidFrame
  | invalidState
  | limitExceeded
  | internal
  deriving DecidableEq, Repr

namespace TerminalCode

def wire : TerminalCode → BitVec 16
  | .invalidFrame => 1
  | .invalidState => 2
  | .limitExceeded => 3
  | .internal => 4

def decode (value : BitVec 16) : Except PagerError TerminalCode :=
  match value.toNat with
  | 1 => .ok .invalidFrame
  | 2 => .ok .invalidState
  | 3 => .ok .limitExceeded
  | 4 => .ok .internal
  | _ => .error .invalidFrame

end TerminalCode

inductive PagerFrameKind where
  | hello
  | helloAck
  | region
  | start
  | ready
  | pageRequest
  | pageData
  | pageZero
  | remove
  | removed
  | cancel
  | cancelled
  | terminal
  | shutdown
  | shutdownAck
  deriving DecidableEq, Repr

namespace PagerFrameKind

def wire : PagerFrameKind → BitVec 16
  | .hello => 1
  | .helloAck => 2
  | .region => 3
  | .start => 4
  | .ready => 5
  | .pageRequest => 6
  | .pageData => 7
  | .pageZero => 8
  | .remove => 9
  | .removed => 10
  | .cancel => 11
  | .cancelled => 12
  | .terminal => 13
  | .shutdown => 14
  | .shutdownAck => 15

def decode (value : BitVec 16) : Except PagerError PagerFrameKind :=
  match value.toNat with
  | 1 => .ok .hello
  | 2 => .ok .helloAck
  | 3 => .ok .region
  | 4 => .ok .start
  | 5 => .ok .ready
  | 6 => .ok .pageRequest
  | 7 => .ok .pageData
  | 8 => .ok .pageZero
  | 9 => .ok .remove
  | 10 => .ok .removed
  | 11 => .ok .cancel
  | 12 => .ok .cancelled
  | 13 => .ok .terminal
  | 14 => .ok .shutdown
  | 15 => .ok .shutdownAck
  | _ => .error .invalidFrame

end PagerFrameKind

/-- The metadata of one page request, echoed by its response. -/
structure PagerPageRequest where
  request : PagerRequestId
  region : PagerRegionId
  access : PageAccess
  generation : PagerGeneration
  offset : BitVec 64
  length : BitVec 32
  deriving DecidableEq

/-- The metadata of one removed range, echoed by its acknowledgement. -/
structure PagerRemoveRequest where
  request : PagerRequestId
  region : PagerRegionId
  generation : PagerGeneration
  (offset length : BitVec 64)
  deriving DecidableEq

inductive PagerMessage where
  | hello (limits : PagerLimits)
  | helloAck (limits : PagerLimits)
  | region (region : PagerRegion)
  | start
  | ready
  | pageRequest (request : PagerPageRequest)
  | pageData (response : PagerPageRequest) (data : List UInt8)
  | pageZero (response : PagerPageRequest)
  | remove (request : PagerRemoveRequest)
  | removed (request : PagerRemoveRequest)
  | cancel (reason : CancelReason)
  | cancelled
  | terminal (code : TerminalCode)
  | shutdown
  | shutdownAck
  deriving DecidableEq

def PagerMessage.kind : PagerMessage → PagerFrameKind
  | .hello _ => .hello
  | .helloAck _ => .helloAck
  | .region _ => .region
  | .start => .start
  | .ready => .ready
  | .pageRequest _ => .pageRequest
  | .pageData _ _ => .pageData
  | .pageZero _ => .pageZero
  | .remove _ => .remove
  | .removed _ => .removed
  | .cancel _ => .cancel
  | .cancelled => .cancelled
  | .terminal _ => .terminal
  | .shutdown => .shutdown
  | .shutdownAck => .shutdownAck

structure PagerFrame where
  session : PagerSessionId
  message : PagerMessage
  deriving DecidableEq

def encodeLimits (limits : PagerLimits) : List UInt8 :=
  toBeBytes limits.pageSize ++ (toBeBytes limits.regionCount ++ (toBeBytes limits.maxInFlight ++
    (toBeBytes limits.maxFrameBytes ++ (toBeBytes limits.operations.bits ++ List.replicate 8 0))))

def encodeRegion (region : PagerRegion) : List UInt8 :=
  toBeBytes region.id.get ++ (toBeBytes (0 : BitVec 32) ++ (toBeBytes region.sourceOffset ++
    toBeBytes region.length))

def encodePageMetadata (request : PagerPageRequest) : List UInt8 :=
  toBeBytes request.request.get ++ (toBeBytes request.region.get ++
    (toBeBytes request.access.wire ++ (toBeBytes request.generation.get ++
      (toBeBytes request.offset ++ (toBeBytes request.length ++ toBeBytes (0 : BitVec 32))))))

def encodeRemoveMetadata (request : PagerRemoveRequest) : List UInt8 :=
  toBeBytes request.request.get ++ (toBeBytes request.region.get ++
    (toBeBytes (0 : BitVec 32) ++ (toBeBytes request.generation.get ++
      (toBeBytes request.offset ++ toBeBytes request.length))))

/-- What follows the session identity in the body of a frame. -/
def encodeMessage : PagerMessage → Except PagerError (List UInt8)
  | .hello limits | .helloAck limits => .ok (encodeLimits limits)
  | .region region => .ok (encodeRegion region)
  | .start | .ready | .cancelled | .shutdown | .shutdownAck => .ok []
  | .pageRequest request => .ok (encodePageMetadata request)
  | .pageData response data => do
      rejectIf (data.length ≠ response.length.toNat) .invalidFrame
      return encodePageMetadata response ++ data
  | .pageZero response => .ok (encodePageMetadata response)
  | .remove request | .removed request => .ok (encodeRemoveMetadata request)
  | .cancel reason => .ok (toBeBytes reason.wire ++ List.replicate 7 0)
  | .terminal code => .ok (toBeBytes code.wire ++ List.replicate 6 0)

def encodeHeader (kind : PagerFrameKind) (bodyLength : Nat) : List UInt8 :=
  magic ++ (toBeBytes version ++ (toBeBytes kind.wire ++
    (toBeBytes (BitVec.ofNat 32 bodyLength) ++ (toBeBytes (0 : BitVec 32) ++
      toBeBytes (0 : BitVec 32)))))

def encodeFrame (frame : PagerFrame) : Except PagerError (List UInt8) := do
  let payload ← encodeMessage frame.message
  let body := frame.session.bytes ++ payload
  let total ← okOr (checkedAdd headerBytes body.length) .limitExceeded
  rejectIf (total > maxFrameBytes) .limitExceeded
  -- The conversion of the body length to 32 bits.
  rejectIf (2 ^ 32 ≤ body.length) .limitExceeded
  return encodeHeader frame.message.kind body.length ++ body

section

def array (length : Nat) : Reader PagerError { bytes : List UInt8 // bytes.length = length } :=
  Reader.take .unexpectedEof length

def word (width : Nat) : Reader PagerError (BitVec width) := Reader.word .unexpectedEof width

def zeroes (length : Nat) : Reader PagerError Unit :=
  Reader.zeroes .unexpectedEof .invalidFrame length

variable (encoded : List UInt8) (kind : PagerFrameKind) (body : List UInt8)

def requireBodyLen (expected : Nat) : Reader PagerError Unit :=
  .lift (rejectIf (body.length ≠ expected) .invalidFrame)

def decodeLimits : Reader PagerError PagerLimits := do
  let pageSize ← word 32
  let regionCount ← word 16
  let inFlight ← word 16
  let frameBytes ← word 32
  let operations ← .lift (PagerOperations.decode (← word 32))
  zeroes 8
  .lift (PagerLimits.decode pageSize regionCount inFlight frameBytes operations)

def decodeRegion : Reader PagerError PagerRegion := do
  let id ← .lift (NonzeroIdentifier.decode (← word 32))
  zeroes 4
  let sourceOffset ← word 64
  let length ← word 64
  .lift (PagerRegion.decode id sourceOffset length)

def decodePageMetadata : Reader PagerError PagerPageRequest := do
  let request ← .lift (NonzeroIdentifier.decode (← word 64))
  let region ← .lift (NonzeroIdentifier.decode (← word 32))
  let access ← .lift (PageAccess.decode (← word 32))
  let generation ← .lift (NonzeroIdentifier.decode (← word 64))
  let offset ← word 64
  let length ← word 32
  zeroes 4
  .lift (rejectIf (length = 0 ∨ (checkedAdd offset.toNat length.toNat).isNone) .invalidFrame)
  return { request, region, access, generation, offset, length }

def decodeRemoveMetadata : Reader PagerError PagerRemoveRequest := do
  let request ← .lift (NonzeroIdentifier.decode (← word 64))
  let region ← .lift (NonzeroIdentifier.decode (← word 32))
  zeroes 4
  let generation ← .lift (NonzeroIdentifier.decode (← word 64))
  let offset ← word 64
  let length ← word 64
  .lift (rejectIf (length = 0 ∨ (checkedAdd offset.toNat length.toNat).isNone) .invalidFrame)
  return { request, region, generation, offset, length }

/-- The message of a body whose session identity has been read. -/
def decodeMessage : Reader PagerError PagerMessage :=
  match kind with
  | .hello => do
      requireBodyLen body limitsBodyBytes
      return .hello (← decodeLimits)
  | .helloAck => do
      requireBodyLen body limitsBodyBytes
      return .helloAck (← decodeLimits)
  | .region => do
      requireBodyLen body regionBodyBytes
      return .region (← decodeRegion)
  | .start => do
      requireBodyLen body sessionBytes
      return .start
  | .ready => do
      requireBodyLen body sessionBytes
      return .ready
  | .cancelled => do
      requireBodyLen body sessionBytes
      return .cancelled
  | .shutdown => do
      requireBodyLen body sessionBytes
      return .shutdown
  | .shutdownAck => do
      requireBodyLen body sessionBytes
      return .shutdownAck
  | .pageRequest => do
      requireBodyLen body pageMetadataBytes
      return .pageRequest (← decodePageMetadata)
  | .pageZero => do
      requireBodyLen body pageMetadataBytes
      return .pageZero (← decodePageMetadata)
  | .pageData => do
      .lift (rejectIf (body.length < pageMetadataBytes) .invalidFrame)
      let metadata ← decodePageMetadata
      let data ← Reader.remaining
      .lift (rejectIf (data.length ≠ metadata.length.toNat) .invalidFrame)
      return .pageData metadata data
  | .remove => do
      requireBodyLen body removeBodyBytes
      return .remove (← decodeRemoveMetadata)
  | .removed => do
      requireBodyLen body removeBodyBytes
      return .removed (← decodeRemoveMetadata)
  | .cancel => do
      requireBodyLen body cancelBodyBytes
      let reason ← .lift (CancelReason.decode (← word 8))
      zeroes 7
      return .cancel reason
  | .terminal => do
      requireBodyLen body terminalBodyBytes
      let code ← .lift (TerminalCode.decode (← word 16))
      zeroes 6
      return .terminal code

def readBody : Reader PagerError PagerFrame := do
  let session ← .lift (PagerSessionId.decode (← array sessionBytes))
  let message ← decodeMessage kind body
  Reader.finish .invalidFrame
  return { session, message }

def decodeBody : Except PagerError PagerFrame := do
  let (frame, _) ← readBody kind body body
  return frame

def readHeader : Reader PagerError (PagerFrameKind × BitVec 32) := do
  let found ← array 8
  .lift (rejectIf (found.1 ≠ magic) .invalidFrame)
  .lift (rejectIf ((← word 16) ≠ version) .invalidFrame)
  let kind ← .lift (PagerFrameKind.decode (← word 16))
  let bodyLength ← word 32
  .lift (rejectIf ((← word 32) ≠ 0) .invalidFrame)
  .lift (rejectIf ((← word 32) ≠ 0) .invalidFrame)
  Reader.finish .invalidFrame
  return (kind, bodyLength)

/-- The kind and the total length which a header declares. -/
def declaredFrame : Except PagerError (PagerFrameKind × Nat) := do
  rejectIf (encoded.length < headerBytes) .unexpectedEof
  let ((kind, bodyLength), _) ← readHeader (encoded.take headerBytes)
  let total ← okOr (checkedAdd headerBytes bodyLength.toNat) .limitExceeded
  rejectIf (bodyLength.toNat < sessionBytes ∨ total > maxFrameBytes) .limitExceeded
  return (kind, total)

def decodeFrame : Except PagerError PagerFrame := do
  let (kind, total) ← declaredFrame encoded
  rejectIf (encoded.length < total) .unexpectedEof
  rejectIf (encoded.length ≠ total) .invalidFrame
  decodeBody kind ((encoded.take total).drop headerBytes)

end
end Bangbang.Pager
