import RouteFabric.Core.Checksum
import RouteFabric.Store.Canonical

/-!
# Damaged store images

A decoder of the store takes the frames around the payloads of the values it accepts, and no
other image. `FrameDecoder` says this once for snapshots and journal entries, and
`FrameDecoder.rejects_iff` derives what happens to a damaged image.

The length word of a frame has 32 bits while the size bound is a machine size. A payload of
2^32 bytes or more is framed under the low 32 bits of its length. Such a frame is not read
back, and a cut of it is read when the payload carries, at the announced length, another
payload with its trailer: `Embeds` states that condition, and it is the only way in which
damage goes unnoticed.
-/

namespace RouteFabric

open ByteReader

/-- No damaged form of the image is decoded; `payloadLength` bytes of it, after the header, are
the payload. -/
structure RejectsDamage {α : Type} (decode : Bytes → Except String α) (image : Bytes)
    (payloadLength : Nat) : Prop where
  truncated : ∀ damaged, damaged <+: image → damaged ≠ image → ∀ value, decode damaged ≠ .ok value
  extended : ∀ damaged, image <+: damaged → damaged ≠ image → ∀ value, decode damaged ≠ .ok value
  byte : ∀ position damaged, ConfinedChange position 1 image damaged →
    ∀ value, decode damaged ≠ .ok value
  window : ∀ first count damaged, persistFrameHeaderBytes ≤ first →
    first + count ≤ persistFrameHeaderBytes + payloadLength → count ≤ 4 →
    ConfinedChange first count image damaged → ∀ value, decode damaged ≠ .ok value

/-! ## Frames in parts -/

/-- The integrity trailer of a payload. -/
def frameTrailer (payload : Bytes) : Bytes :=
  leBytes 4 (crc32c payload).toNat ++ leBytes 8 (fnv1a64 payload).toNat

theorem length_frameTrailer (payload : Bytes) : (frameTrailer payload).length = 12 := by
  simp [frameTrailer]

/-- The header of a frame around a payload of the given length. -/
def framePreamble (magic length : Nat) : Bytes :=
  leBytes 8 magic ++ leBytes 4 persistenceFormatVersion ++ leBytes 4 length

theorem length_framePreamble (magic length : Nat) : (framePreamble magic length).length = 16 := by
  simp [framePreamble]

theorem writeFrame_eq (magic : Nat) (payload : Bytes) :
    writeFrame magic payload = framePreamble magic payload.length ++ (payload ++ frameTrailer payload) := by
  simp [writeFrame, framePreamble, frameTrailer]

/-- The length word keeps the low 32 bits. -/
theorem framePreamble_mod (magic length : Nat) :
    framePreamble magic (length % 2 ^ 32) = framePreamble magic length := by
  have written := leBytes_leValue (leBytes 4 length)
  rw [leValue_leBytes, length_leBytes] at written
  rw [framePreamble, framePreamble, show 2 ^ 32 = 256 ^ 4 by rfl, written]

/-- Two frames with the same header have payloads of the same length, up to the width of the
length word. -/
theorem framePreamble_length {magic first second : Nat}
    (same : framePreamble magic first = framePreamble magic second) :
    first % 2 ^ 32 = second % 2 ^ 32 := by
  have words := congrArg leValue (List.append_cancel_left same)
  rwa [leValue_leBytes, leValue_leBytes] at words

/-- Frames of which one is the beginning of the other have the same header. -/
theorem framePreamble_of_prefix {magic : Nat} {short long : Bytes}
    (starts : writeFrame magic short <+: writeFrame magic long) :
    short.length % 2 ^ 32 = long.length % 2 ^ 32 ∧
      short ++ frameTrailer short <+: long ++ frameTrailer long := by
  rw [writeFrame_eq, writeFrame_eq] at starts
  obtain ⟨rest, whole⟩ := starts
  rw [List.append_assoc] at whole
  obtain ⟨headers, bodies⟩ := List.append_inj whole
    ((length_framePreamble magic _).trans (length_framePreamble magic _).symm)
  exact ⟨framePreamble_length headers, rest, bodies⟩

theorem writeFrame_payload (magic : Nat) (payload : Bytes) :
    ((writeFrame magic payload).drop 16).take payload.length = payload := by
  rw [writeFrame_eq, List.drop_left' (length_framePreamble magic _), List.take_left]

theorem writeFrame_trailer (magic : Nat) (payload : Bytes) :
    (writeFrame magic payload).drop (16 + payload.length) = frameTrailer payload := by
  rw [writeFrame_eq, ← List.drop_drop, List.drop_left' (length_framePreamble magic _), List.drop_left]

/-- A trailer determines the checksum in it. -/
theorem crc32c_of_frameTrailer {first second : Bytes}
    (same : frameTrailer first = frameTrailer second) : crc32c first = crc32c second := by
  have words := congrArg (fun bytes => leValue (bytes.take 4)) same
  simp only [frameTrailer, List.take_left' (length_leBytes 4 _), leValue_leBytes] at words
  rw [show 256 ^ 4 = 2 ^ 32 by rfl, Nat.mod_eq_of_lt (crc32c first).isLt,
    Nat.mod_eq_of_lt (crc32c second).isLt] at words
  exact BitVec.eq_of_toNat_eq words

/-! ## Decoders of frames -/

/-- The payload holds, at the length that its own frame announces, the payload of an accepted
value with its trailer. -/
def Embeds {α : Type} (payloadOf : α → Bytes) (accepted : α → Prop) (payload : Bytes) : Prop :=
  2 ^ 32 ≤ payload.length ∧ ∃ value, accepted value ∧
    (payloadOf value).length = payload.length % 2 ^ 32 ∧
    payloadOf value ++ frameTrailer (payloadOf value) <+: payload

/-- The decoder takes exactly the frames around the payloads of accepted values. -/
structure FrameDecoder {α : Type} (decode : Bytes → Except String α) (magic : Nat)
    (payloadOf : α → Bytes) (accepted : α → Prop) : Prop where
  decodes : ∀ image value, decode image = .ok value ↔
    image = writeFrame magic (payloadOf value) ∧ accepted value
  fits : ∀ value, accepted value → (payloadOf value).length < 2 ^ 32

namespace FrameDecoder

variable {α : Type} {decode : Bytes → Except String α} {magic : Nat} {payloadOf : α → Bytes}
  {accepted : α → Prop} {payload : Bytes}

theorem rejects_truncated (decoder : FrameDecoder decode magic payloadOf accepted)
    (safe : ¬ Embeds payloadOf accepted payload) {damaged : Bytes}
    (truncated : damaged <+: writeFrame magic payload) (proper : damaged ≠ writeFrame magic payload)
    (value : α) : decode damaged ≠ .ok value := by
  intro decoded
  obtain ⟨rfl, valid⟩ := (decoder.decodes _ _).mp decoded
  have fits := decoder.fits value valid
  obtain ⟨lengths, body⟩ := framePreamble_of_prefix truncated
  rw [Nat.mod_eq_of_lt fits] at lengths
  by_cases long : 2 ^ 32 ≤ payload.length
  · apply safe
    refine ⟨long, value, valid, lengths, ?_⟩
    apply List.prefix_of_prefix_length_le body (List.prefix_append _ _)
    have announced : payload.length % 2 ^ 32 + 2 ^ 32 ≤ payload.length := by omega
    rw [List.length_append, length_frameTrailer, lengths]
    omega
  · rw [Nat.mod_eq_of_lt (by omega)] at lengths
    apply proper
    apply truncated.eq_of_length
    rw [length_writeFrame, length_writeFrame, lengths]

theorem rejects_extended (decoder : FrameDecoder decode magic payloadOf accepted) {damaged : Bytes}
    (extended : writeFrame magic payload <+: damaged) (proper : damaged ≠ writeFrame magic payload)
    (value : α) : decode damaged ≠ .ok value := by
  intro decoded
  obtain ⟨rfl, valid⟩ := (decoder.decodes _ _).mp decoded
  have fits := decoder.fits value valid
  have longer := extended.length_le
  obtain ⟨lengths, -⟩ := framePreamble_of_prefix extended
  rw [length_writeFrame, length_writeFrame] at longer
  rw [Nat.mod_eq_of_lt fits, Nat.mod_eq_of_lt (by omega)] at lengths
  apply proper
  symm
  apply extended.eq_of_length
  rw [length_writeFrame, length_writeFrame, lengths]

/-- A change that spares the payload spares what the rest of the frame is computed from. -/
theorem rejects_outside (decoder : FrameDecoder decode magic payloadOf accepted)
    {first count : Nat} {damaged : Bytes}
    (change : ConfinedChange first count (writeFrame magic payload) damaged)
    (outside : first + count ≤ 16 ∨ 16 + payload.length ≤ first) (value : α) :
    decode damaged ≠ .ok value := by
  intro decoded
  obtain ⟨rfl, valid⟩ := (decoder.decodes _ _).mp decoded
  have length := change.length
  rw [length_writeFrame, length_writeFrame] at length
  have same := @ConfinedChange.slice first count _ _ change 16 payload.length (by omega)
  have lengths : (payloadOf value).length = payload.length := by omega
  rw [writeFrame_payload, ← lengths, writeFrame_payload] at same
  exact change.differs (by rw [same])

/-- A change of up to four payload bytes is caught by the checksum, which it spares. -/
theorem rejects_inside (decoder : FrameDecoder decode magic payloadOf accepted)
    {first count : Nat} {damaged : Bytes}
    (change : ConfinedChange first count (writeFrame magic payload) damaged)
    (inside : 16 ≤ first ∧ first + count ≤ 16 + payload.length) (short : count ≤ 4) (value : α) :
    decode damaged ≠ .ok value := by
  intro decoded
  obtain ⟨rfl, valid⟩ := (decoder.decodes _ _).mp decoded
  have lengths : (payloadOf value).length = payload.length := by
    have length := change.length
    rw [length_writeFrame, length_writeFrame] at length
    omega
  have trailers := change.drop_eq inside.2
  rw [writeFrame_trailer, ← lengths, writeFrame_trailer] at trailers
  have payloads := (change.drop inside.1).take (show first - 16 + count ≤ payload.length by omega)
  rw [writeFrame_payload, ← lengths, writeFrame_payload] at payloads
  exact crc32c_ne_of_confined payloads short (crc32c_of_frameTrailer trailers)

/-- The frame of a payload that embeds another begins with the other's frame. -/
theorem embedded_starts (embeds : Embeds payloadOf accepted payload) :
    ∃ value, accepted value ∧ writeFrame magic (payloadOf value) <+: writeFrame magic payload ∧
      writeFrame magic (payloadOf value) ≠ writeFrame magic payload := by
  obtain ⟨long, value, valid, length, rest, rfl⟩ := embeds
  refine ⟨value, valid, ?_, ?_⟩
  · rw [writeFrame_eq, writeFrame_eq, length, framePreamble_mod, List.prefix_append_right_inj]
    refine ⟨rest ++ frameTrailer (payloadOf value ++ frameTrailer (payloadOf value) ++ rest), ?_⟩
    rw [← List.append_assoc]
  · intro same
    have lengths := congrArg List.length same
    rw [length_writeFrame, length_writeFrame] at lengths
    have announced := Nat.mod_lt (payloadOf value ++ frameTrailer (payloadOf value) ++ rest).length
      (show 2 ^ 32 > 0 by decide)
    omega

/-- Damage goes unnoticed only when the payload embeds another one. -/
theorem rejects_iff (decoder : FrameDecoder decode magic payloadOf accepted) :
    RejectsDamage decode (writeFrame magic payload) payload.length ↔
      ¬ Embeds payloadOf accepted payload := by
  constructor
  · intro rejects embeds
    obtain ⟨value, valid, starts, proper⟩ := embedded_starts embeds
    exact rejects.truncated _ starts proper value ((decoder.decodes _ _).mpr ⟨rfl, valid⟩)
  · intro safe
    constructor
    · intro damaged truncated proper
      exact decoder.rejects_truncated safe truncated proper
    · intro damaged extended proper
      exact decoder.rejects_extended extended proper
    · intro position damaged change
      by_cases outside : position + 1 ≤ 16 ∨ 16 + payload.length ≤ position
      · exact decoder.rejects_outside change outside
      · exact decoder.rejects_inside change (by omega) (by omega)
    · intro first count damaged after before short change
      exact decoder.rejects_inside change ⟨after, before⟩ short

end FrameDecoder

/-! ## Snapshots and journal entries -/

theorem journalDecoder (limits : Limits) :
    FrameDecoder (decodeJournalEntry · limits) journalEntryMagic JournalEntry.payload
      (·.Recorded limits) where
  decodes := by
    intro image entry
    constructor
    · exact decodeJournalEntry_recorded
    · rintro ⟨rfl, recorded⟩
      exact (decodeJournalEntry_encode recorded.storable.formed recorded.bounded recorded.fits).1
        recorded.storable
  fits := fun _ recorded => recorded.fits

/-- What a snapshot image can be decoded to. -/
structure PersistedState.Saved (state : PersistedState) (limits : Limits) : Prop where
  storable : state.Storable limits
  bounded : state.payload.length ≤ limits.maxPersistBytes
  fits : state.payload.length < 2 ^ 32

theorem snapshotDecoder (limits : Limits) :
    FrameDecoder (decodeSnapshot · limits) persistenceMagic PersistedState.payload
      (·.Saved limits) where
  decodes := by
    intro image state
    constructor
    · intro decoded
      obtain ⟨rfl, storable, fits⟩ := decodeSnapshot_canonical decoded
      by_cases excess : limits.maxPersistBytes < state.payload.length
      · rw [encodeSnapshot, if_pos excess] at decoded
        contradiction
      · rw [encodeSnapshot, if_neg excess]
        exact ⟨rfl, storable, by omega, fits⟩
    · rintro ⟨rfl, saved⟩
      have formed : state.Formed := ⟨saved.storable.epoch.1, saved.storable.policyGeneration.1⟩
      exact (decodeSnapshot_encode formed saved.bounded saved.fits).1 saved.storable
  fits := fun _ saved => saved.fits

/-- An image is the frame around its payload unless it is the empty image. -/
theorem encodeSnapshot_of_ne {state : PersistedState} {limits : Limits}
    (present : encodeSnapshot state limits ≠ []) :
    encodeSnapshot state limits = writeFrame persistenceMagic state.payload := by
  unfold encodeSnapshot at present ⊢
  split at present
  · contradiction
  · rw [if_neg ‹_›]

theorem encodeJournalEntry_of_ne {entry : JournalEntry} {limits : Limits}
    (present : encodeJournalEntry entry limits ≠ []) :
    encodeJournalEntry entry limits = writeFrame journalEntryMagic entry.payload := by
  unfold encodeJournalEntry at present ⊢
  split at present
  · contradiction
  · rw [if_neg ‹_›]

/-- Images of snapshots and of journal entries detect damage exactly when their payload, longer
than a length word can say, does not embed another one. -/
theorem images_reject_damage (limits : Limits) :
    (∀ state : PersistedState, encodeSnapshot state limits ≠ [] →
      (RejectsDamage (decodeSnapshot · limits) (encodeSnapshot state limits) state.payload.length ↔
        ¬ Embeds PersistedState.payload (·.Saved limits) state.payload)) ∧
    (∀ entry : JournalEntry, encodeJournalEntry entry limits ≠ [] →
      (RejectsDamage (decodeJournalEntry · limits) (encodeJournalEntry entry limits)
          entry.payload.length ↔
        ¬ Embeds JournalEntry.payload (·.Recorded limits) entry.payload)) := by
  constructor
  · intro state present
    rw [encodeSnapshot_of_ne present]
    exact (snapshotDecoder limits).rejects_iff
  · intro entry present
    rw [encodeJournalEntry_of_ne present]
    exact (journalDecoder limits).rejects_iff

namespace Stored

/-- An entry that revokes one route for the given reason. -/
def revoking (reason : Bytes) : JournalEntry :=
  { epoch := .one, policyGeneration := .one, upserts := [],
    revocations := [{ route := ⟨5⟩, key := key, generation := .one, epoch := .one, attempt := ⟨1⟩,
                      reason := reason }],
    attempts := [] }

/-- A bound that lets payloads outgrow the length word. -/
def roomy : Limits := { maxPersistBytes := 2 ^ 40 }

theorem revoking_payload : ∃ front : Bytes, ∀ reason : Bytes,
    (revoking reason).payload = front ++ (leBytes 4 reason.length ++ (reason ++ leBytes 4 0)) := by
  refine ⟨writeHeaderCounter (.one : CoordinatorEpoch) ++
    writeHeaderCounter (.one : PolicyGeneration) ++ leBytes 4 0 ++ leBytes 4 1 ++
    (⟨5⟩ : RouteId).write ++ key.write ++ (.one : RouteGeneration).write ++
    (.one : CoordinatorEpoch).write ++ (⟨1⟩ : MutationAttemptId).write, fun reason => ?_⟩
  simp [JournalEntry.payload, JournalEntry.body, revoking, writeStateBody, writeList,
    RevocationRecord.write, writeString]

theorem revoking_recorded : (revoking []).Recorded roomy where
  storable := by
    refine ⟨CounterId.storable_one, CounterId.storable_one, by decide, ?_, by decide, ?_, by decide, ?_⟩
    · intro record member
      cases member
    · intro record member
      rw [List.mem_singleton.mp member]
      exact ⟨by decide, by decide, by decide, by decide, by decide, by decide⟩
    · intro record member
      cases member
  bounded := by decide +kernel
  fits := by decide +kernel

/-- A reason of 2^32 bytes that begins with the rest of an entry whose reason is empty: no
attempts, and the trailer. -/
def smuggling : Bytes :=
  leBytes 4 0 ++ (frameTrailer (revoking []).payload ++ List.replicate (2 ^ 32 - 16) 0)

theorem length_smuggling : smuggling.length = 2 ^ 32 := by
  rw [smuggling, List.length_append, List.length_append, length_leBytes, length_frameTrailer,
    List.length_replicate]
  omega

theorem length_revoking_smuggling :
    (revoking smuggling).payload.length = (revoking []).payload.length + 2 ^ 32 := by
  obtain ⟨front, payloads⟩ := revoking_payload
  rw [payloads, payloads]
  simp only [List.length_append, length_leBytes, length_smuggling, List.length_nil]
  omega

theorem smuggling_embeds :
    Embeds JournalEntry.payload (·.Recorded roomy) (revoking smuggling).payload := by
  obtain ⟨front, payloads⟩ := revoking_payload
  have words : leBytes 4 (2 ^ 32) = leBytes 4 0 := by decide
  have outer : (revoking smuggling).payload = (revoking []).payload ++
      frameTrailer (revoking []).payload ++ (List.replicate (2 ^ 32 - 16) 0 ++ leBytes 4 0) := by
    rw [payloads smuggling, length_smuggling, words, smuggling, payloads []]
    simp only [List.append_assoc, List.nil_append, List.length_nil]
  have lengths := length_revoking_smuggling
  refine ⟨by omega, revoking [], revoking_recorded, ?_, ?_⟩
  · rw [lengths, Nat.add_mod_right, Nat.mod_eq_of_lt revoking_recorded.fits]
  · rw [outer]
    exact List.prefix_append _ _

end Stored

theorem writeFrame_ne_nil (magic : Nat) (payload : Bytes) : writeFrame magic payload ≠ [] := by
  intro empty
  have length := length_writeFrame magic payload
  rw [empty, List.length_nil] at length
  omega

theorem images_reject_damage_stored :
    (encodeSnapshot Stored.state Stored.limits ≠ [] ∧
      RejectsDamage (decodeSnapshot · Stored.limits) (encodeSnapshot Stored.state Stored.limits)
        Stored.state.payload.length) ∧
    encodeJournalEntry (Stored.revoking []) Stored.roomy ≠ [] ∧
      RejectsDamage (decodeJournalEntry · Stored.roomy)
        (encodeJournalEntry (Stored.revoking []) Stored.roomy) (Stored.revoking []).payload.length := by
  have snapshot : encodeSnapshot Stored.state Stored.limits ≠ [] := by
    rw [encodeSnapshot, if_neg (Nat.not_lt.mpr Stored.bounded)]
    exact writeFrame_ne_nil _ _
  have entry : encodeJournalEntry (Stored.revoking []) Stored.roomy ≠ [] := by
    rw [encodeJournalEntry, if_neg (Nat.not_lt.mpr Stored.revoking_recorded.bounded)]
    exact writeFrame_ne_nil _ _
  refine ⟨⟨snapshot, ?_⟩, entry, ?_⟩
  · refine ((images_reject_damage Stored.limits).1 Stored.state snapshot).mpr ?_
    rintro ⟨long, -⟩
    have bounded : Stored.state.payload.length ≤ 2 ^ 30 := Stored.bounded
    omega
  · refine ((images_reject_damage Stored.roomy).2 (Stored.revoking []) entry).mpr ?_
    rintro ⟨long, -⟩
    exact Nat.not_lt.mpr long Stored.revoking_recorded.fits

/-- An entry with a reason of 2^32 bytes has an image of which a proper part decodes. -/
theorem smuggling_undetected :
    encodeJournalEntry (Stored.revoking Stored.smuggling) Stored.roomy ≠ [] ∧
      ¬ RejectsDamage (decodeJournalEntry · Stored.roomy)
        (encodeJournalEntry (Stored.revoking Stored.smuggling) Stored.roomy)
        (Stored.revoking Stored.smuggling).payload.length := by
  have encoded : encodeJournalEntry (Stored.revoking Stored.smuggling) Stored.roomy =
      writeFrame journalEntryMagic (Stored.revoking Stored.smuggling).payload := by
    rw [encodeJournalEntry, if_neg]
    rw [Stored.length_revoking_smuggling]
    have fits := Stored.revoking_recorded.fits
    change ¬ 2 ^ 40 < _
    omega
  rw [encoded]
  refine ⟨writeFrame_ne_nil _ _, fun rejects => ?_⟩
  exact (journalDecoder Stored.roomy).rejects_iff.mp rejects Stored.smuggling_embeds

end RouteFabric
