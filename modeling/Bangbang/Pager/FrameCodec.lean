import Bangbang.Pager.Frame

/-!
# The frame codec

Every decoder below succeeds exactly on the encodings of the values it returns.
`decodeFrame_eq_ok` assembles these equivalences: a byte string decodes to a frame
exactly when the frame's metadata is in range and the frame encodes to it. Both
round trips are the two directions, and `decodeFrame_prefix_eq` follows from the
length which the header declares.
-/

namespace Bangbang.Pager

open List Reader

section
variable {input rest : List UInt8}

/-- A session id is decoded from its bytes. -/
theorem PagerSessionId.decode_eq_ok {bytes : { bytes : List UInt8 // bytes.length = sessionBytes }}
    {session} : PagerSessionId.decode bytes = .ok session ↔ bytes.1 = session.bytes := by
  obtain ⟨bytes, size⟩ := bytes
  obtain ⟨expected, expectedSize, nonzero⟩ := session
  simp only [decode, mapError_eq_ok, fromBytes]
  split
  · rename_i zero
    simp only [reduceCtorEq, false_iff]
    rintro rfl
    exact nonzero zero
  · simp

/-- An identifier is decoded unless it is zero. -/
theorem NonzeroIdentifier.decode_eq_ok {width : Nat} {value : BitVec width}
    {id : NonzeroIdentifier width} : NonzeroIdentifier.decode value = .ok id ↔ value = id.get := by
  obtain ⟨expected, nonzero⟩ := id
  simp only [decode, mapError_eq_ok, new]
  split
  · rename_i zero
    simp only [reduceCtorEq, false_iff]
    rintro rfl
    exact nonzero zero
  · simp

theorem PagerOperations.decode_eq_ok {bits operations} :
    PagerOperations.decode bits = .ok operations ↔ bits = operations.bits := by
  obtain ⟨expected, complete⟩ := operations
  simp only [decode, mapError_eq_ok, fromBits]
  split
  · simp
  · rename_i other
    simp only [reduceCtorEq, false_iff]
    rintro rfl
    exact other complete

/-- Limits are decoded exactly when they are valid. -/
theorem PagerLimits.decode_eq_ok {pageSize regionCount inFlight frameBytes operations limits} :
    PagerLimits.decode pageSize regionCount inFlight frameBytes operations = .ok limits ↔
      pageSize = limits.pageSize ∧ regionCount = limits.regionCount ∧
        inFlight = limits.maxInFlight ∧ frameBytes = limits.maxFrameBytes ∧
        operations = limits.operations := by
  simp only [decode, mapError_eq_ok, new]
  split
  · rw [Except.ok.injEq, PagerLimits.mk.injEq]
  · rename_i refused
    simp only [reduceCtorEq, false_iff]
    rintro ⟨rfl, rfl, rfl, rfl, rfl⟩
    exact refused limits.admitted

theorem PagerRegion.decode_eq_ok {id sourceOffset length region} :
    PagerRegion.decode id sourceOffset length = .ok region ↔
      id = region.id ∧ sourceOffset = region.sourceOffset ∧ length = region.length := by
  unfold decode
  split
  · rw [Except.ok.injEq, PagerRegion.mk.injEq]
  · rename_i refused
    simp only [reduceCtorEq, false_iff]
    rintro ⟨rfl, rfl, rfl⟩
    exact refused ⟨region.nonempty, region.bounded⟩

theorem PageAccess.decode_eq_ok {value access} :
    PageAccess.decode value = .ok access ↔ value = access.wire := by
  rw [← BitVec.toNat_inj]
  unfold decode
  constructor
  · intro decoded
    split at decoded <;> simp_all [wire] <;> subst access <;> rfl
  · cases access <;> intro same <;> rw [same] <;> rfl

theorem CancelReason.decode_eq_ok {value reason} :
    CancelReason.decode value = .ok reason ↔ value = reason.wire := by
  rw [← BitVec.toNat_inj]
  unfold decode
  constructor
  · intro decoded
    split at decoded <;> simp_all [wire] <;> subst reason <;> rfl
  · cases reason <;> intro same <;> rw [same] <;> rfl

theorem TerminalCode.decode_eq_ok {value code} :
    TerminalCode.decode value = .ok code ↔ value = code.wire := by
  rw [← BitVec.toNat_inj]
  unfold decode
  constructor
  · intro decoded
    split at decoded <;> simp_all [wire] <;> subst code <;> rfl
  · cases code <;> intro same <;> rw [same] <;> rfl

theorem PagerFrameKind.decode_eq_ok {value kind} :
    PagerFrameKind.decode value = .ok kind ↔ value = kind.wire := by
  rw [← BitVec.toNat_inj]
  unfold decode
  constructor
  · intro decoded
    split at decoded <;> simp_all [wire] <;> subst kind <;> rfl
  · cases kind <;> intro same <;> rw [same] <;> rfl

end

section
variable {input rest : List UInt8}

@[simp] theorem array_eq_ok {length} {bytes : { bytes : List UInt8 // bytes.length = length }} :
    array length input = .ok (bytes, rest) ↔ input = bytes.1 ++ rest :=
  take_eq_ok

@[simp] theorem word8_eq_ok {value} :
    word 8 input = .ok (value, rest) ↔ input = toBeBytes value ++ rest :=
  word_eq_ok rfl

@[simp] theorem word16_eq_ok {value} :
    word 16 input = .ok (value, rest) ↔ input = toBeBytes value ++ rest :=
  word_eq_ok rfl

@[simp] theorem word32_eq_ok {value} :
    word 32 input = .ok (value, rest) ↔ input = toBeBytes value ++ rest :=
  word_eq_ok rfl

@[simp] theorem word64_eq_ok {value} :
    word 64 input = .ok (value, rest) ↔ input = toBeBytes value ++ rest :=
  word_eq_ok rfl

@[simp] theorem zeroes_eq_ok {length done} :
    zeroes length input = .ok (done, rest) ↔ input = replicate length 0 ++ rest :=
  Reader.zeroes_eq_ok

@[simp] theorem requireBodyLen_eq_ok {body expected done} :
    requireBodyLen body expected input = .ok (done, rest) ↔
      body.length = expected ∧ input = rest := by
  simp [requireBodyLen]

/-- A reserved word is written as zero bytes. -/
theorem toBeBytes_reserved : toBeBytes (0 : BitVec 32) = replicate 4 0 := by decide

/-- Limits are read from their encoding only. -/
theorem decodeLimits_eq_ok {limits} :
    decodeLimits input = .ok (limits, rest) ↔ input = encodeLimits limits ++ rest := by
  simp only [decodeLimits, Reader.bind_eq_ok, word32_eq_ok, word16_eq_ok, Reader.lift_eq_ok,
    PagerOperations.decode_eq_ok, zeroes_eq_ok, PagerLimits.decode_eq_ok, encodeLimits,
    append_assoc]
  constructor
  · rintro ⟨_, _, rfl, _, _, rfl, _, _, rfl, _, _, rfl, _, _, rfl, _, _, ⟨rfl, rfl⟩, _, _, rfl,
      ⟨rfl, rfl, rfl, rfl, rfl⟩, rfl⟩
    rfl
  · rintro rfl
    exact ⟨_, _, rfl, _, _, rfl, _, _, rfl, _, _, rfl, _, _, rfl, _, _, ⟨rfl, rfl⟩, (), _, rfl,
      ⟨rfl, rfl, rfl, rfl, rfl⟩, rfl⟩

/-- A region is read from its encoding only. -/
theorem decodeRegion_eq_ok {region : PagerRegion} :
    decodeRegion input = .ok (region, rest) ↔ input = encodeRegion region ++ rest := by
  simp only [decodeRegion, Reader.bind_eq_ok, word32_eq_ok, word64_eq_ok, Reader.lift_eq_ok,
    NonzeroIdentifier.decode_eq_ok, zeroes_eq_ok, PagerRegion.decode_eq_ok, encodeRegion,
    toBeBytes_reserved, append_assoc]
  constructor
  · rintro ⟨_, _, rfl, _, _, ⟨rfl, rfl⟩, _, _, rfl, _, _, rfl, _, _, rfl, ⟨rfl, rfl, rfl⟩, rfl⟩
    rfl
  · rintro rfl
    exact ⟨_, _, rfl, _, _, ⟨rfl, rfl⟩, (), _, rfl, _, _, rfl, _, _, rfl, ⟨rfl, rfl, rfl⟩, rfl⟩

/-- What the wire requires of the metadata of a page request. -/
structure PagerPageRequest.InRange (request : PagerPageRequest) : Prop where
  nonempty : request.length ≠ 0
  bounded : request.offset.toNat + request.length.toNat < wordLimit

/-- What the wire requires of the metadata of a removal. -/
structure PagerRemoveRequest.InRange (request : PagerRemoveRequest) : Prop where
  nonempty : request.length ≠ 0
  bounded : request.offset.toNat + request.length.toNat < wordLimit

theorem checkedAdd_isNone {left right} :
    (checkedAdd left right).isNone ↔ ¬ left + right < wordLimit := by
  unfold checkedAdd
  split <;> simp [*]

/-- A page request is read from its encoding only, and in range. -/
theorem decodePageMetadata_eq_ok {request : PagerPageRequest} :
    decodePageMetadata input = .ok (request, rest) ↔
      request.InRange ∧ input = encodePageMetadata request ++ rest := by
  simp only [decodePageMetadata, Reader.bind_eq_ok, word32_eq_ok, word64_eq_ok, Reader.lift_eq_ok,
    NonzeroIdentifier.decode_eq_ok, PageAccess.decode_eq_ok, zeroes_eq_ok, rejectIf_eq_ok,
    checkedAdd_isNone, not_or, not_not, Reader.pure_eq_ok, encodePageMetadata, toBeBytes_reserved,
    append_assoc]
  constructor
  · rintro ⟨_, _, rfl, _, _, ⟨rfl, rfl⟩, _, _, rfl, _, _, ⟨rfl, rfl⟩, _, _, rfl, _, _, ⟨rfl, rfl⟩,
      _, _, rfl, _, _, ⟨rfl, rfl⟩, _, _, rfl, _, _, rfl, _, _, rfl, _, _,
      ⟨⟨nonempty, bounded⟩, rfl⟩, rfl, rfl⟩
    exact ⟨⟨nonempty, bounded⟩, rfl⟩
  · rintro ⟨⟨nonempty, bounded⟩, rfl⟩
    exact ⟨_, _, rfl, _, _, ⟨rfl, rfl⟩, _, _, rfl, _, _, ⟨rfl, rfl⟩, _, _, rfl, _, _, ⟨rfl, rfl⟩,
      _, _, rfl, _, _, ⟨rfl, rfl⟩, _, _, rfl, _, _, rfl, (), _, rfl, (), _,
      ⟨⟨nonempty, bounded⟩, rfl⟩, rfl, rfl⟩

/-- A remove request is read from its encoding only, and in range. -/
theorem decodeRemoveMetadata_eq_ok {request : PagerRemoveRequest} :
    decodeRemoveMetadata input = .ok (request, rest) ↔
      request.InRange ∧ input = encodeRemoveMetadata request ++ rest := by
  simp only [decodeRemoveMetadata, Reader.bind_eq_ok, word32_eq_ok, word64_eq_ok,
    Reader.lift_eq_ok, NonzeroIdentifier.decode_eq_ok, zeroes_eq_ok, rejectIf_eq_ok,
    checkedAdd_isNone, not_or, not_not, Reader.pure_eq_ok, encodeRemoveMetadata,
    toBeBytes_reserved, append_assoc]
  constructor
  · rintro ⟨_, _, rfl, _, _, ⟨rfl, rfl⟩, _, _, rfl, _, _, ⟨rfl, rfl⟩, _, _, rfl,
      _, _, rfl, _, _, ⟨rfl, rfl⟩, _, _, rfl, _, _, rfl, _, _, ⟨⟨nonempty, bounded⟩, rfl⟩, rfl, rfl⟩
    exact ⟨⟨nonempty, bounded⟩, rfl⟩
  · rintro ⟨⟨nonempty, bounded⟩, rfl⟩
    exact ⟨_, _, rfl, _, _, ⟨rfl, rfl⟩, _, _, rfl, _, _, ⟨rfl, rfl⟩, (), _, rfl,
      _, _, rfl, _, _, ⟨rfl, rfl⟩, _, _, rfl, _, _, rfl, (), _,
      ⟨⟨nonempty, bounded⟩, rfl⟩, rfl, rfl⟩

end

section
variable {kind} {body payload : List UInt8} {message : PagerMessage}

/-- The messages which the wire can carry. -/
def PagerMessage.InRange : PagerMessage → Prop
  | .pageRequest request => request.InRange
  | .pageData response _ => response.InRange
  | .pageZero response => response.InRange
  | .remove request => request.InRange
  | .removed request => request.InRange
  | _ => True

@[simp] theorem length_encodeLimits (limits : PagerLimits) : (encodeLimits limits).length = 24 := by
  simp [encodeLimits]

@[simp] theorem length_encodeRegion (region : PagerRegion) : (encodeRegion region).length = 24 := by
  simp [encodeRegion]

@[simp] theorem length_encodePageMetadata (request : PagerPageRequest) :
    (encodePageMetadata request).length = 40 := by
  simp [encodePageMetadata]

@[simp] theorem length_encodeRemoveMetadata (request : PagerRemoveRequest) :
    (encodeRemoveMetadata request).length = 40 := by
  simp [encodeRemoveMetadata]

/-- A message which was read encodes to the payload it was read from. -/
theorem encodeMessage_of_decodeMessage
    (decoded : decodeMessage kind body payload = .ok (message, [])) :
    message.kind = kind ∧ message.InRange ∧ encodeMessage message = .ok payload := by
  cases kind <;>
    simp only [decodeMessage, Reader.bind_eq_ok, requireBodyLen_eq_ok, Reader.pure_eq_ok,
      decodeLimits_eq_ok, decodeRegion_eq_ok, decodePageMetadata_eq_ok, decodeRemoveMetadata_eq_ok,
      Reader.lift_eq_ok, Reader.remaining_eq_ok, rejectIf_eq_ok, not_not, Nat.not_lt,
      word8_eq_ok, word16_eq_ok, CancelReason.decode_eq_ok, TerminalCode.decode_eq_ok,
      zeroes_eq_ok] at decoded
  case hello | helloAck | region =>
    obtain ⟨_, _, ⟨-, rfl⟩, value, _, rfl, rfl, rfl⟩ := decoded
    exact ⟨rfl, trivial, by rw [append_nil]; rfl⟩
  case start | ready | cancelled | shutdown | shutdownAck =>
    obtain ⟨_, _, ⟨-, rfl⟩, rfl, rfl⟩ := decoded
    exact ⟨rfl, trivial, rfl⟩
  case pageRequest | pageZero | remove | removed =>
    obtain ⟨_, _, ⟨-, rfl⟩, metadata, _, ⟨inRange, rfl⟩, rfl, rfl⟩ := decoded
    exact ⟨rfl, inRange, by rw [append_nil]; rfl⟩
  case pageData =>
    obtain ⟨_, _, ⟨-, rfl⟩, metadata, _, ⟨inRange, rfl⟩, data, _, ⟨rfl, rfl⟩, _, _,
      ⟨sameLength, rfl⟩, rfl, -⟩ := decoded
    refine ⟨rfl, inRange, ?_⟩
    rw [encodeMessage, bind_eq_ok]
    exact ⟨(), by simpa using sameLength, rfl⟩
  case cancel | terminal =>
    obtain ⟨_, _, ⟨-, rfl⟩, _, _, rfl, value, _, ⟨rfl, rfl⟩, _, _, rfl, rfl, rfl⟩ := decoded
    exact ⟨rfl, trivial, by rw [append_nil]; rfl⟩

/-- An encoded message is read back from its payload. -/
theorem decodeMessage_of_encodeMessage (size : body.length = sessionBytes + payload.length)
    (inRange : message.InRange) (encoded : encodeMessage message = .ok payload) :
    decodeMessage message.kind body payload = .ok (message, []) := by
  cases message <;>
    simp only [PagerMessage.kind, decodeMessage, Reader.bind_eq_ok, requireBodyLen_eq_ok,
      Reader.pure_eq_ok, decodeLimits_eq_ok, decodeRegion_eq_ok, decodePageMetadata_eq_ok,
      decodeRemoveMetadata_eq_ok, Reader.lift_eq_ok, Reader.remaining_eq_ok, rejectIf_eq_ok,
      not_not, Nat.not_lt, word8_eq_ok, word16_eq_ok, CancelReason.decode_eq_ok,
      TerminalCode.decode_eq_ok, zeroes_eq_ok, size]
  case hello limits | helloAck limits =>
    cases encoded
    exact ⟨(), _, ⟨by rw [length_encodeLimits]; rfl, rfl⟩, limits, [], by rw [append_nil], rfl, rfl⟩
  case region region =>
    cases encoded
    exact ⟨(), _, ⟨by rw [length_encodeRegion]; rfl, rfl⟩, region, [], by rw [append_nil], rfl, rfl⟩
  case start | ready | cancelled | shutdown | shutdownAck =>
    cases encoded
    exact ⟨(), _, ⟨rfl, rfl⟩, trivial, rfl⟩
  case pageRequest request | pageZero request =>
    cases encoded
    exact ⟨(), _, ⟨by rw [length_encodePageMetadata]; rfl, rfl⟩, request, [],
      ⟨inRange, by rw [append_nil]⟩, rfl, rfl⟩
  case remove request | removed request =>
    cases encoded
    exact ⟨(), _, ⟨by rw [length_encodeRemoveMetadata]; rfl, rfl⟩, request, [],
      ⟨inRange, by rw [append_nil]⟩, rfl, rfl⟩
  case pageData response data =>
    rw [encodeMessage, bind_eq_ok] at encoded
    obtain ⟨_, sameLength, made⟩ := encoded
    cases made
    have enough : pageMetadataBytes ≤ sessionBytes + (encodePageMetadata response ++ data).length := by
      rw [length_append, length_encodePageMetadata, pageMetadataBytes]
      omega
    exact ⟨(), _, ⟨enough, rfl⟩, response, data, ⟨inRange, rfl⟩, data, [], ⟨rfl, rfl⟩, (), [],
      ⟨by simpa using sameLength, rfl⟩, rfl, rfl⟩
  case cancel reason =>
    cases encoded
    exact ⟨(), _, ⟨by simp [sessionBytes, cancelBodyBytes], rfl⟩, _, _, rfl, reason, _, ⟨rfl, rfl⟩,
      (), [], by rw [append_nil], rfl, rfl⟩
  case terminal code =>
    cases encoded
    exact ⟨(), _, ⟨by simp [sessionBytes, terminalBodyBytes], rfl⟩, _, _, rfl, code, _, ⟨rfl, rfl⟩,
      (), [], by rw [append_nil], rfl, rfl⟩

/-- A body is the session and the encoding of its message. -/
theorem decodeBody_eq_ok {frame} :
    decodeBody kind body = .ok frame ↔
      frame.message.kind = kind ∧ frame.message.InRange ∧
        ∃ payload, encodeMessage frame.message = .ok payload ∧
          body = frame.session.bytes ++ payload := by
  simp only [decodeBody, bind_eq_ok, Prod.exists, pure_eq_ok, readBody, Reader.bind_eq_ok,
    array_eq_ok, Reader.lift_eq_ok, PagerSessionId.decode_eq_ok, Reader.finish_eq_ok,
    Reader.pure_eq_ok]
  constructor
  · rintro ⟨_, _, ⟨found, payload, rfl, session, _, ⟨same, rfl⟩, message, _, decoded, _, _,
      ⟨rfl, rfl⟩, rfl, rfl⟩, rfl⟩
    obtain ⟨sameKind, inRange, encoded⟩ := encodeMessage_of_decodeMessage decoded
    exact ⟨sameKind, inRange, payload, encoded, by rw [same]⟩
  · rintro ⟨rfl, inRange, payload, encoded, rfl⟩
    have size : (frame.session.bytes ++ payload).length = sessionBytes + payload.length := by
      rw [length_append, frame.session.size]
    exact ⟨frame, [], ⟨⟨frame.session.bytes, frame.session.size⟩, payload, rfl, frame.session,
      payload, ⟨rfl, rfl⟩, frame.message, [], decodeMessage_of_encodeMessage size inRange encoded,
      (), [], ⟨rfl, rfl⟩, rfl, rfl⟩, rfl⟩

end

section
variable {kind encoded frame}

@[simp] theorem length_encodeHeader (kind : PagerFrameKind) (bodyLength : Nat) :
    (encodeHeader kind bodyLength).length = headerBytes := by
  simp [encodeHeader, magic, headerBytes]

/-- A header is read from its encoding only. -/
theorem readHeader_eq_ok {input bodyLength rest} :
    readHeader input = .ok ((kind, bodyLength), rest) ↔
      input = encodeHeader kind bodyLength.toNat ∧ [] = rest := by
  simp only [readHeader, Reader.bind_eq_ok, array_eq_ok, Reader.lift_eq_ok, rejectIf_eq_ok, not_not,
    word16_eq_ok, word32_eq_ok, PagerFrameKind.decode_eq_ok, Reader.finish_eq_ok,
    Reader.pure_eq_ok, Prod.mk.injEq, encodeHeader, BitVec.ofNat_toNat, BitVec.setWidth_eq]
  constructor
  · rintro ⟨found, _, rfl, _, _, ⟨same, rfl⟩, _, _, rfl, _, _, ⟨rfl, rfl⟩, _, _, rfl, _, _,
      ⟨rfl, rfl⟩, _, _, rfl, _, _, rfl, _, _, ⟨rfl, rfl⟩, _, _, rfl, _, _, ⟨rfl, rfl⟩, _, _,
      ⟨rfl, rfl⟩, ⟨rfl, rfl⟩, rfl⟩
    exact ⟨by rw [same, append_nil], rfl⟩
  · rintro ⟨rfl, rfl⟩
    exact ⟨⟨magic, rfl⟩, _, rfl, (), _, ⟨rfl, rfl⟩, _, _, rfl, (), _, ⟨rfl, rfl⟩, _, _, rfl, _, _,
      ⟨rfl, rfl⟩, _, _, rfl, _, _, rfl, (), _, ⟨rfl, rfl⟩, _, [], by rw [append_nil], (), _,
      ⟨rfl, rfl⟩, (), [], ⟨rfl, rfl⟩, ⟨rfl, rfl⟩, rfl⟩

/-- A header declares the frames which start with it. -/
theorem declaredFrame_eq_ok {total} :
    declaredFrame encoded = .ok (kind, total) ↔
      headerBytes + sessionBytes ≤ total ∧ total ≤ maxFrameBytes ∧
        encoded.take headerBytes = encodeHeader kind (total - headerBytes) := by
  simp only [declaredFrame, bind_eq_ok, rejectIf_eq_ok, Nat.not_lt, Prod.exists, readHeader_eq_ok,
    okOr_eq_ok, checkedAdd_eq_some, pure_eq_ok, Prod.mk.injEq, not_or]
  constructor
  · rintro ⟨_, enough, _, bodyLength, _, ⟨header, -⟩, _, ⟨-, rfl⟩, _, ⟨atLeast, atMost⟩, rfl, rfl⟩
    exact ⟨by omega, atMost, by rw [header, Nat.add_sub_cancel_left]⟩
  · rintro ⟨atLeast, atMost, header⟩
    have size := congrArg length header
    rw [length_encodeHeader, length_take] at size
    have small : maxFrameBytes < 2 ^ 32 := by decide
    have bodyLength : (BitVec.ofNat 32 (total - headerBytes)).toNat = total - headerBytes := by
      rw [BitVec.toNat_ofNat, Nat.mod_eq_of_lt (by omega)]
    exact ⟨(), by omega, kind, BitVec.ofNat 32 (total - headerBytes), [], ⟨by rw [bodyLength, header],
      rfl⟩, total, by rw [bodyLength, wordLimit_eq]; omega, (), ⟨by omega, by omega⟩, rfl, rfl⟩

/-- A frame is encoded as its header, session and payload. -/
theorem encodeFrame_eq_ok :
    encodeFrame frame = .ok encoded ↔
      ∃ payload, encodeMessage frame.message = .ok payload ∧
        headerBytes + (sessionBytes + payload.length) ≤ maxFrameBytes ∧
        encodeHeader frame.message.kind (sessionBytes + payload.length) ++
          (frame.session.bytes ++ payload) = encoded := by
  simp only [encodeFrame, bind_eq_ok, okOr_eq_ok, checkedAdd_eq_some, rejectIf_eq_ok, pure_eq_ok,
    Nat.not_lt, Nat.not_le, gt_iff_lt, length_append, frame.session.size]
  have small : maxFrameBytes < 2 ^ 32 := by decide
  constructor
  · rintro ⟨payload, encoded, _, ⟨-, rfl⟩, _, atMost, _, -, made⟩
    exact ⟨payload, encoded, atMost, made⟩
  · rintro ⟨payload, encoded, atMost, made⟩
    exact ⟨payload, encoded, _, ⟨by rw [wordLimit_eq]; omega, rfl⟩, (), atMost, (), by omega, made⟩

/-- A byte string decodes to the frames which encode to it. -/
theorem decodeFrame_eq_ok :
    decodeFrame encoded = .ok frame ↔
      frame.message.InRange ∧ encodeFrame frame = .ok encoded := by
  simp only [decodeFrame, bind_eq_ok, Prod.exists, declaredFrame_eq_ok, rejectIf_eq_ok, Nat.not_lt,
    not_not, decodeBody_eq_ok, encodeFrame_eq_ok]
  constructor
  · rintro ⟨kind, total, ⟨-, atMost, header⟩, _, -, _, rfl, rfl, inRange, payload, made, body⟩
    rw [take_length] at body
    have split := take_append_drop headerBytes encoded
    rw [header, body] at split
    have size := congrArg length split
    simp only [length_append, length_encodeHeader, frame.session.size] at size
    have bodySize : encoded.length - headerBytes = sessionBytes + payload.length := by omega
    rw [bodySize] at split
    exact ⟨inRange, payload, made, by omega, split⟩
  · rintro ⟨inRange, payload, made, atMost, rfl⟩
    have size : (encodeHeader frame.message.kind (sessionBytes + payload.length) ++
        (frame.session.bytes ++ payload)).length =
          headerBytes + (sessionBytes + payload.length) := by
      simp [frame.session.size]
    refine ⟨_, _, ⟨?_, atMost, ?_⟩, (), Nat.le_of_eq size.symm, (), size, rfl, inRange, payload,
      made, ?_⟩
    · omega
    · rw [Nat.add_sub_cancel_left, take_left' (length_encodeHeader _ _)]
    · rw [← size, take_length, drop_left' (length_encodeHeader _ _)]

/-- An accepted byte string has the length which its header declares. -/
theorem declaredFrame_of_decodeFrame (accepted : decodeFrame encoded = .ok frame) :
    ∃ kind, declaredFrame encoded = .ok (kind, encoded.length) := by
  simp only [decodeFrame, bind_eq_ok, Prod.exists, rejectIf_eq_ok, not_not] at accepted
  obtain ⟨kind, _, declared, _, -, _, rfl, -⟩ := accepted
  exact ⟨kind, declared⟩

/-- No accepted byte string continues another one. -/
theorem decodeFrame_prefix_eq {shorter longer first second}
    (shortAccepted : decodeFrame shorter = .ok first)
    (longAccepted : decodeFrame longer = .ok second) (continues : shorter <+: longer) :
    shorter = longer := by
  obtain ⟨shortKind, shortDeclared⟩ := declaredFrame_of_decodeFrame shortAccepted
  obtain ⟨longKind, longDeclared⟩ := declaredFrame_of_decodeFrame longAccepted
  have hasHeader : headerBytes ≤ shorter.length := by
    obtain ⟨atLeast, -, -⟩ := declaredFrame_eq_ok.mp shortDeclared
    omega
  have sameHeader : shorter.take headerBytes = longer.take headerBytes := by
    obtain ⟨more, rfl⟩ := continues
    rw [take_append_of_le_length hasHeader]
  -- Both headers are the same bytes, so they declare the same length.
  rw [declaredFrame_eq_ok, ← sameHeader, ← declaredFrame_eq_ok, shortDeclared] at longDeclared
  exact continues.eq_of_length (Prod.mk.inj (Except.ok.inj longDeclared)).2

end
end Bangbang.Pager
