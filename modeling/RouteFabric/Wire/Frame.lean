import RouteFabric.Core.Checksum
import RouteFabric.Store.Codec

/-!
# Wire frames

A frame is a header of sixteen bytes (magic, version, message identifier, payload length,
checksum) followed by its payload. The checksum covers the first twelve header bytes and the
payload. `decodeFrame_eq_ok` says which buffers the decoder takes; the rest of the module
derives from it what the decoder does with a damaged frame.

The length field has 32 bits while the frame bound is a machine size. The encoder writes the
low 32 bits of the length, so a longer payload, though within the bound, yields a frame that
its own decoder refuses.
-/

namespace RouteFabric

open ByteReader

/-! ## Message identifiers -/

inductive MessageId where
  | hello
  | helloResult
  | registerPublisher
  | registerPublisherResult
  | publishRoute
  | publishRouteResult
  | withdrawRoute
  | withdrawRouteResult
  | revalidateRoute
  | revalidateRouteResult
  | retireRoute
  | retireRouteResult
  | revokeRoute
  | revokeRouteResult
  | queryRoute
  | queryRouteResult
  | snapshotRequest
  | snapshotResponse
  | backendState
  | fenceNotice
  | error
  | reconcileRequest
  | reconcileResult
  | epochRequest
  | epochResult
  | statisticsRequest
  | statisticsResult
  | applyCompletion
  | applyCompletionResult
  | explainRoute
  | explainRouteResult
deriving DecidableEq

namespace MessageId

/-- The identifiers in the order of their numbers, which start at one. -/
def all : List MessageId :=
  [hello, helloResult, registerPublisher, registerPublisherResult, publishRoute,
    publishRouteResult, withdrawRoute, withdrawRouteResult, revalidateRoute,
    revalidateRouteResult, retireRoute, retireRouteResult, revokeRoute, revokeRouteResult,
    queryRoute, queryRouteResult, snapshotRequest, snapshotResponse, backendState, fenceNotice,
    error, reconcileRequest, reconcileResult, epochRequest, epochResult, statisticsRequest,
    statisticsResult, applyCompletion, applyCompletionResult, explainRoute, explainRouteResult]

/-- The stable number of an identifier. -/
def code (id : MessageId) : Nat := all.idxOf id + 1

/-- The identifier of a number; the decoder asks for a listed one only. -/
def ofCode (raw : Nat) : MessageId := (all[raw - 1]?).getD error

theorem ofCode_code (id : MessageId) : ofCode id.code = id := by cases id <;> rfl

end MessageId

/-- Whether a number is that of an identifier. -/
def isMessageIdValue (raw : Nat) : Bool :=
  decide (MessageId.hello.code ≤ raw) && decide (raw ≤ MessageId.explainRouteResult.code)

theorem MessageId.isMessageIdValue_code (id : MessageId) : isMessageIdValue id.code = true := by
  cases id <;> decide

theorem MessageId.code_lt (id : MessageId) : id.code < 256 ^ 2 := by
  cases id <;> decide

/-! ## Encoding and decoding -/

def wireFrameMagic : Nat := 0x52464652
def wireProtocolVersion : Nat := 1
def frameHeaderBytes : Nat := 16

/-- The header fields that the checksum covers. -/
def frameHeader (id : MessageId) (payloadLength : Nat) : Bytes :=
  [leBytes 4 wireFrameMagic, leBytes 2 wireProtocolVersion, leBytes 2 id.code,
    leBytes 4 payloadLength].flatten

def encodeFrame (id : MessageId) (payload : Bytes) : Bytes :=
  frameHeader id payload.length ++
    leBytes 4 (crc32c (frameHeader id payload.length ++ payload)).toNat ++ payload

inductive FrameStatus where
  | complete
  | incomplete
  | invalidMagic
  | invalidVersion
  | invalidMessageId
  | oversizedPayload
  | trailingBytes
  | integrityFailure
deriving DecidableEq

structure DecodedFrame where
  id : MessageId
  wireVersion : Nat
  payload : Bytes
deriving DecidableEq

/-- Why a buffer is not taken: a status other than `complete`, and the text for it. -/
structure FrameRefusal where
  status : FrameStatus
  why : String
deriving DecidableEq

/-- Continue when a check holds, and refuse with the given status otherwise. -/
def demand (condition : Prop) [Decidable condition] (status : FrameStatus) (why : String) :
    Except FrameRefusal Unit :=
  if condition then .ok () else .error ⟨status, why⟩

@[simp] theorem demand_eq_ok {condition : Prop} [Decidable condition] {status : FrameStatus}
    {why : String} {value : Unit} : demand condition status why = .ok value ↔ condition := by
  unfold demand
  split <;> simp_all

/-- Validates a frame header and reports the total frame size. -/
def frameHeaderStatus (buffer : Bytes) (limits : Limits) : Except FrameRefusal Nat := do
  demand (frameHeaderBytes ≤ buffer.length) .incomplete "incomplete frame header"
  demand (wordAt buffer 0 4 = wireFrameMagic) .invalidMagic "wrong frame magic"
  demand (wordAt buffer 4 2 = wireProtocolVersion) .invalidVersion
    "unsupported wire protocol version"
  demand (isMessageIdValue (wordAt buffer 6 2) = true) .invalidMessageId
    "unknown message identifier"
  demand (wordAt buffer 8 4 ≤ limits.maxFrameBytes) .oversizedPayload
    "frame payload exceeds the configured bound"
  pure (frameHeaderBytes + wordAt buffer 8 4)

/-- Decodes exactly one frame. -/
def decodeFrame (buffer : Bytes) (limits : Limits) : Except FrameRefusal DecodedFrame := do
  let total ← frameHeaderStatus buffer limits
  demand (total ≤ buffer.length) .incomplete "incomplete frame payload"
  demand (buffer.length ≤ total) .trailingBytes "trailing bytes after the frame payload"
  let payload := (buffer.drop frameHeaderBytes).take (wordAt buffer 8 4)
  demand ((crc32c (buffer.take (frameHeaderBytes - 4) ++ payload)).toNat = wordAt buffer 12 4)
    .integrityFailure "frame integrity check failed"
  pure ⟨MessageId.ofCode (wordAt buffer 6 2), wordAt buffer 4 2, payload⟩

/-! ## What the decoder takes -/

/-- The buffers that the decoder takes. -/
structure FrameFormed (buffer : Bytes) (limits : Limits) : Prop where
  header : frameHeaderBytes ≤ buffer.length
  magic : wordAt buffer 0 4 = wireFrameMagic
  version : wordAt buffer 4 2 = wireProtocolVersion
  identified : isMessageIdValue (wordAt buffer 6 2) = true
  bounded : wordAt buffer 8 4 ≤ limits.maxFrameBytes
  length : buffer.length = frameHeaderBytes + wordAt buffer 8 4
  checksum : (crc32c (buffer.take 12 ++ buffer.drop frameHeaderBytes)).toNat = wordAt buffer 12 4

/-- The frame in a buffer that is taken. -/
def frameOf (buffer : Bytes) : DecodedFrame :=
  ⟨MessageId.ofCode (wordAt buffer 6 2), wireProtocolVersion, buffer.drop frameHeaderBytes⟩

theorem decodeFrame_eq_ok {buffer : Bytes} {limits : Limits} {frame : DecodedFrame} :
    decodeFrame buffer limits = .ok frame ↔ FrameFormed buffer limits ∧ frame = frameOf buffer := by
  simp only [decodeFrame, frameHeaderStatus, bind_eq_ok, exists_unit, demand_eq_ok, pure_eq_ok]
  constructor
  · rintro ⟨total, ⟨header, magic, version, identified, bounded, rfl⟩, enough, whole, checksum, rfl⟩
    have length : buffer.length = frameHeaderBytes + wordAt buffer 8 4 := by omega
    have payload : (buffer.drop frameHeaderBytes).take (wordAt buffer 8 4) =
        buffer.drop frameHeaderBytes := by
      apply List.take_of_length_le
      rw [List.length_drop]
      omega
    rw [payload] at checksum
    refine ⟨⟨header, magic, version, identified, bounded, length, checksum⟩, ?_⟩
    rw [payload, version, frameOf]
  · rintro ⟨formed, rfl⟩
    have payload : (buffer.drop frameHeaderBytes).take (wordAt buffer 8 4) =
        buffer.drop frameHeaderBytes := by
      apply List.take_of_length_le
      rw [List.length_drop, formed.length]
      omega
    refine ⟨_, ⟨formed.header, formed.magic, formed.version, formed.identified, formed.bounded, rfl⟩,
      formed.length.ge, formed.length.le, ?_, ?_⟩
    · rw [payload]
      exact formed.checksum
    · rw [payload, formed.version, frameOf]

/-- A buffer is refused exactly when it is not formed. -/
theorem FrameFormed.refused {buffer : Bytes} {limits : Limits} (malformed : ¬ FrameFormed buffer limits)
    (frame : DecodedFrame) : decodeFrame buffer limits ≠ .ok frame := by
  intro decoded
  exact malformed (decodeFrame_eq_ok.mp decoded).1

/-! ## Damage -/

namespace FrameFormed

variable {image damaged : Bytes} {limits : Limits}

/-- The header fixes the length: a formed buffer has no other one with the same header. -/
theorem length_unique (formed : FrameFormed image limits) (again : FrameFormed damaged limits)
    (sameHeader : damaged.take 12 = image.take 12) : damaged.length = image.length := by
  have lengthField : wordAt damaged 8 4 = wordAt image 8 4 := by
    have slice := congrArg (fun bytes => bytes.drop 8) sameHeader
    rw [List.drop_take, List.drop_take] at slice
    exact congrArg leValue slice
  rw [formed.length, again.length, lengthField]

theorem not_truncated (formed : FrameFormed image limits) (truncated : damaged <+: image)
    (proper : damaged ≠ image) : ¬ FrameFormed damaged limits := by
  intro again
  obtain ⟨rest, rfl⟩ := truncated
  have header := again.header
  have sameHeader : damaged.take 12 = (damaged ++ rest).take 12 := by
    rw [List.take_append_of_le_length]
    exact le_trans (by decide) header
  have length := formed.length_unique again sameHeader
  apply proper
  have empty : rest = [] := by
    rw [List.length_append] at length
    exact List.eq_nil_of_length_eq_zero (by omega)
  rw [empty, List.append_nil]

theorem not_extended (formed : FrameFormed image limits) (extended : image <+: damaged)
    (proper : damaged ≠ image) : ¬ FrameFormed damaged limits := fun again =>
  again.not_truncated extended proper.symm formed

/-- A changed byte of the covered header or of the payload is caught by the checksum. -/
theorem not_changed_covered {first count : Nat} (formed : FrameFormed image limits)
    (change : ConfinedChange first count image damaged) (short : count ≤ 4)
    (covered : first + count ≤ 12 ∨ frameHeaderBytes ≤ first) :
    ¬ FrameFormed damaged limits := by
  intro again
  have stored : wordAt damaged 12 4 = wordAt image 12 4 := by
    have clear := @ConfinedChange.slice first count image damaged change 12 4
      (by unfold frameHeaderBytes at covered; omega)
    exact congrArg leValue clear
  have sameChecksum : crc32c (damaged.take 12 ++ damaged.drop frameHeaderBytes) =
      crc32c (image.take 12 ++ image.drop frameHeaderBytes) := by
    apply BitVec.eq_of_toNat_eq
    rw [formed.checksum, again.checksum, stored]
  obtain inHeader | inPayload := covered
  · have covered := (change.take inHeader).append [] (image.drop frameHeaderBytes)
    rw [change.drop_eq (by unfold frameHeaderBytes; omega)] at sameChecksum
    exact crc32c_ne_of_confined covered short sameChecksum
  · have covered := (change.drop inPayload).append (image.take 12) []
    simp only [List.append_nil] at covered
    rw [change.take_eq (by unfold frameHeaderBytes at inPayload; omega)] at sameChecksum
    exact crc32c_ne_of_confined covered short sameChecksum

/-- A single changed byte is caught wherever it stands: by its own field's check, by the length
of the buffer or by the checksum. -/
theorem not_changed_byte {position : Nat} (formed : FrameFormed image limits)
    (change : ConfinedChange position 1 image damaged) : ¬ FrameFormed damaged limits := by
  intro again
  have inside := change.first_lt
  by_cases covered : position + 1 ≤ 8 ∨ frameHeaderBytes ≤ position
  · exact formed.not_changed_covered change (by omega) (by omega) again
  · unfold frameHeaderBytes at covered
    by_cases lengthField : position < 12
    · have words := @ConfinedChange.leValue_ne position 1 image damaged change 8 4 (by omega)
      have lengths := change.length
      rw [formed.length, again.length] at lengths
      exact words (Nat.add_left_cancel lengths)
    · have words := @ConfinedChange.leValue_ne position 1 image damaged change 12 4 (by omega)
      apply words
      have stored := again.checksum
      rw [change.take_eq (by omega), change.drop_eq (by unfold frameHeaderBytes; omega),
        formed.checksum] at stored
      exact stored.symm

end FrameFormed

/-! ## Frames as they are written -/

theorem length_frameHeader (id : MessageId) (payloadLength : Nat) :
    (frameHeader id payloadLength).length = 12 := by
  simp [frameHeader]

theorem length_encodeFrame (id : MessageId) (payload : Bytes) :
    (encodeFrame id payload).length = frameHeaderBytes + payload.length := by
  simp [encodeFrame, length_frameHeader, frameHeaderBytes]
  omega

theorem encodeFrame_take (id : MessageId) (payload : Bytes) :
    (encodeFrame id payload).take 12 = frameHeader id payload.length := by
  rw [encodeFrame, List.append_assoc, List.take_left' (length_frameHeader id payload.length)]

theorem encodeFrame_drop (id : MessageId) (payload : Bytes) :
    (encodeFrame id payload).drop frameHeaderBytes = payload := by
  rw [encodeFrame]
  exact List.drop_left' (by simp [length_frameHeader, frameHeaderBytes])

/-- The fields of a written frame; the length field keeps the low 32 bits. -/
structure EncodedFields (id : MessageId) (payload : Bytes) : Prop where
  magic : wordAt (encodeFrame id payload) 0 4 = wireFrameMagic
  version : wordAt (encodeFrame id payload) 4 2 = wireProtocolVersion
  identifier : wordAt (encodeFrame id payload) 6 2 = id.code
  length : wordAt (encodeFrame id payload) 8 4 = payload.length % 2 ^ 32
  checksum : wordAt (encodeFrame id payload) 12 4 =
    (crc32c (frameHeader id payload.length ++ payload)).toNat

/-- A field as it is read back: the low bytes of what was written. -/
theorem wordAt_written (before after : Bytes) (value count : Nat) :
    wordAt (before ++ (leBytes count value ++ after)) before.length count = value % 256 ^ count := by
  rw [wordAt, List.drop_left, List.take_left' (length_leBytes count value), leValue_leBytes]

theorem encodeFrame_fields (id : MessageId) (payload : Bytes) : EncodedFields id payload where
  magic := by
    have word := wordAt_written [] (leBytes 2 wireProtocolVersion ++ (leBytes 2 id.code ++
      (leBytes 4 payload.length ++ (leBytes 4 (crc32c (frameHeader id payload.length ++
        payload)).toNat ++ payload)))) wireFrameMagic 4
    rw [Nat.mod_eq_of_lt (by decide)] at word
    simpa [encodeFrame, frameHeader] using word
  version := by
    have word := wordAt_written (leBytes 4 wireFrameMagic) (leBytes 2 id.code ++
      (leBytes 4 payload.length ++ (leBytes 4 (crc32c (frameHeader id payload.length ++
        payload)).toNat ++ payload))) wireProtocolVersion 2
    rw [Nat.mod_eq_of_lt (by decide)] at word
    simpa [encodeFrame, frameHeader] using word
  identifier := by
    have word := wordAt_written (leBytes 4 wireFrameMagic ++ leBytes 2 wireProtocolVersion)
      (leBytes 4 payload.length ++ (leBytes 4 (crc32c (frameHeader id payload.length ++
        payload)).toNat ++ payload)) id.code 2
    rw [Nat.mod_eq_of_lt id.code_lt] at word
    simpa [encodeFrame, frameHeader] using word
  length := by
    have word := wordAt_written (leBytes 4 wireFrameMagic ++ leBytes 2 wireProtocolVersion ++
      leBytes 2 id.code) (leBytes 4 (crc32c (frameHeader id payload.length ++
        payload)).toNat ++ payload) payload.length 4
    simpa [encodeFrame, frameHeader] using word
  checksum := by
    have word := wordAt_written (frameHeader id payload.length) payload
      (crc32c (frameHeader id payload.length ++ payload)).toNat 4
    have fits : (crc32c (frameHeader id payload.length ++ payload)).toNat < 256 ^ 4 := (crc32c _).isLt
    rw [length_frameHeader, Nat.mod_eq_of_lt fits] at word
    simpa [encodeFrame] using word

theorem encodeFrame_formed (id : MessageId) {payload : Bytes} {limits : Limits}
    (within : payload.length ≤ limits.maxFrameBytes) (fits : payload.length < 2 ^ 32) :
    FrameFormed (encodeFrame id payload) limits := by
  have fields := encodeFrame_fields id payload
  have length : wordAt (encodeFrame id payload) 8 4 = payload.length := by
    rw [fields.length, Nat.mod_eq_of_lt fits]
  constructor
  · rw [length_encodeFrame]
    exact Nat.le_add_right _ _
  · exact fields.magic
  · exact fields.version
  · rw [fields.identifier]
    exact id.isMessageIdValue_code
  · rw [length]
    exact within
  · rw [length_encodeFrame, length]
  · rw [encodeFrame_take, encodeFrame_drop, fields.checksum]

theorem frameOf_encodeFrame (id : MessageId) (payload : Bytes) :
    frameOf (encodeFrame id payload) = ⟨id, wireProtocolVersion, payload⟩ := by
  rw [frameOf, (encodeFrame_fields id payload).identifier, MessageId.ofCode_code, encodeFrame_drop]

/-- Decoding an encoded frame gives back what was encoded, and no damage goes unnoticed. -/
structure DetectsDamage (id : MessageId) (payload : Bytes) (limits : Limits) : Prop where
  intact : decodeFrame (encodeFrame id payload) limits = .ok ⟨id, wireProtocolVersion, payload⟩
  truncated : ∀ image, image <+: encodeFrame id payload → image ≠ encodeFrame id payload →
    ∀ frame, decodeFrame image limits ≠ .ok frame
  extended : ∀ image, encodeFrame id payload <+: image → image ≠ encodeFrame id payload →
    ∀ frame, decodeFrame image limits ≠ .ok frame
  byte : ∀ position image, ConfinedChange position 1 (encodeFrame id payload) image →
    ∀ frame, decodeFrame image limits ≠ .ok frame
  window : ∀ first count image, frameHeaderBytes ≤ first → count ≤ 4 →
    ConfinedChange first count (encodeFrame id payload) image →
    ∀ frame, decodeFrame image limits ≠ .ok frame

/-- A length that does not fit its field leaves bytes after the frame that it announces. -/
theorem encodeFrame_overlong (id : MessageId) {payload : Bytes} {limits : Limits}
    (long : 2 ^ 32 ≤ payload.length) : ¬ FrameFormed (encodeFrame id payload) limits := by
  intro formed
  have length := formed.length
  have announced : payload.length % 2 ^ 32 < 2 ^ 32 := Nat.mod_lt _ (by decide)
  rw [length_encodeFrame, (encodeFrame_fields id payload).length] at length
  omega

/-- Within the frame bound, frames detect damage exactly when their length fits its field. -/
theorem decodeFrame_detects_iff (id : MessageId) (payload : Bytes) (limits : Limits)
    (within : payload.length ≤ limits.maxFrameBytes) :
    DetectsDamage id payload limits ↔ payload.length < 2 ^ 32 := by
  constructor
  · intro detects
    by_contra long
    have formed := (decodeFrame_eq_ok.mp detects.intact).1
    exact encodeFrame_overlong id (Nat.le_of_not_lt long) formed
  · intro fits
    have formed := encodeFrame_formed id within fits
    constructor
    · rw [decodeFrame_eq_ok]
      exact ⟨formed, (frameOf_encodeFrame id payload).symm⟩
    · intro image truncated proper
      exact FrameFormed.refused (formed.not_truncated truncated proper)
    · intro image extended proper
      exact FrameFormed.refused (formed.not_extended extended proper)
    · intro position image change
      exact FrameFormed.refused (formed.not_changed_byte change)
    · intro first count image inPayload short change
      exact FrameFormed.refused (formed.not_changed_covered change short (.inr inPayload))

theorem decodeFrame_detects_hello :
    [7, 0, 9].length ≤ ({} : Limits).maxFrameBytes ∧ DetectsDamage .hello [7, 0, 9] {} :=
  ⟨by decide, (decodeFrame_detects_iff .hello [7, 0, 9] {} (by decide)).mpr (by decide)⟩

/-- A payload of 2^32 bytes is within a bound of as many, and its frame is refused. -/
theorem decodeFrame_refuses_overlong :
    (List.replicate (2 ^ 32) (0 : UInt8)).length ≤ ({ maxFrameBytes := 2 ^ 32 } : Limits).maxFrameBytes ∧
      ¬ DetectsDamage .hello (List.replicate (2 ^ 32) 0) { maxFrameBytes := 2 ^ 32 } := by
  have within : (List.replicate (2 ^ 32) (0 : UInt8)).length ≤
      ({ maxFrameBytes := 2 ^ 32 } : Limits).maxFrameBytes := by
    rw [List.length_replicate]
  refine ⟨within, fun detects => ?_⟩
  have formed := (decodeFrame_eq_ok.mp detects.intact).1
  exact encodeFrame_overlong .hello (by rw [List.length_replicate]) formed

end RouteFabric
