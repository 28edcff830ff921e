import RouteFabric.Store.State

/-!
# Store images

A frame wraps a payload in a header (magic, version, length) and an integrity trailer.
A snapshot image is a frame around the whole durable state, a journal image a frame
around one entry. The encoder writes what it is given; the decoder enforces count
bounds, per-record validity and, for snapshots, the digest and the absence of
duplicates. `Storable` says when an encoded image decodes to what was encoded; in every
other case the decoder refuses it.
-/

namespace RouteFabric

open ByteReader

/-! ## Frames -/

def persistenceMagic : Nat := 0x3152545342465452
def journalEntryMagic : Nat := 0x31524A4652465452
def persistenceFormatVersion : Nat := 1
def persistFrameHeaderBytes : Nat := 16
def persistFrameTrailerBytes : Nat := 12

def writeFrame (magic : Nat) (payload : Bytes) : Bytes :=
  [leBytes 8 magic, leBytes 4 persistenceFormatVersion, leBytes 4 payload.length, payload,
    leBytes 4 (crc32c payload).toNat, leBytes 8 (fnv1a64 payload).toNat].flatten

/-- The little-endian word of `count` bytes at `offset`. -/
def wordAt (image : Bytes) (offset count : Nat) : Nat := leValue ((image.drop offset).take count)

/-- Continue when a check holds, and refuse with the given reason otherwise. -/
def check (condition : Prop) [Decidable condition] (why : String) : Except String Unit :=
  if condition then .ok () else .error why

@[simp] theorem check_eq_ok {condition : Prop} [Decidable condition] {why : String} {value : Unit} :
    check condition why = .ok value ↔ condition := by
  unfold check
  split <;> simp_all

/-- A result that is not a success is a failure. -/
theorem exists_error {ε α : Type} {result : Except ε α} (fails : ∀ value, result ≠ .ok value) :
    ∃ why, result = .error why := by
  cases result with
  | error why => exact ⟨why, rfl⟩
  | ok value => exact absurd rfl (fails value)

/-- Validates a frame that fills the image and returns its payload. -/
def readFrame (image : Bytes) (expectedMagic : Nat) (limits : Limits) : Except String Bytes := do
  check (persistFrameHeaderBytes + persistFrameTrailerBytes ≤ image.length) "truncated header"
  check (wordAt image 0 8 = expectedMagic) "wrong magic"
  check (wordAt image 8 4 = persistenceFormatVersion) "unsupported format version"
  let payloadLength := wordAt image 12 4
  check (payloadLength ≤ limits.maxPersistBytes) "payload exceeds the configured bound"
  let expectedSize := persistFrameHeaderBytes + payloadLength + persistFrameTrailerBytes
  check (expectedSize ≤ image.length) "truncated payload"
  check (image.length ≤ expectedSize) "trailing bytes after the integrity trailer"
  let payload := (image.drop persistFrameHeaderBytes).take payloadLength
  check (wordAt image (persistFrameHeaderBytes + payloadLength) 4 = (crc32c payload).toNat)
    "integrity trailer mismatch"
  check (wordAt image (persistFrameHeaderBytes + payloadLength + 4) 8 = (fnv1a64 payload).toNat)
    "content hash mismatch"
  pure payload

/-- The word of one field of an image written field by field. -/
theorem wordAt_fields (before after : Bytes) {value count : Nat}
    (fits : value < 256 ^ count) :
    wordAt (before ++ (leBytes count value ++ after)) before.length count = value := by
  rw [wordAt, List.drop_left, List.take_left' (length_leBytes count value),
    leValue_leBytes_of_lt fits]

theorem length_writeFrame (magic : Nat) (payload : Bytes) :
    (writeFrame magic payload).length = 28 + payload.length := by
  simp [writeFrame]
  omega

/-- The header and trailer words of a written frame, and its payload. -/
structure FrameLayout (image payload : Bytes) (magic : Nat) : Prop where
  leading : wordAt image 0 8 = magic
  version : wordAt image 8 4 = persistenceFormatVersion
  length : wordAt image 12 4 = payload.length
  content : (image.drop 16).take payload.length = payload
  checksum : wordAt image (16 + payload.length) 4 = (crc32c payload).toNat
  hash : wordAt image (16 + payload.length + 4) 8 = (fnv1a64 payload).toNat

/-- The layout is that of the frame even when more bytes follow it. -/
theorem writeFrame_layout (magic : Nat) {payload : Bytes} (magicFits : magic < 256 ^ 8)
    (fits : payload.length < 2 ^ 32) (rest : Bytes) :
    FrameLayout (writeFrame magic payload ++ rest) payload magic := by
  have crcFits : (crc32c payload).toNat < 256 ^ 4 := (crc32c payload).isLt
  have fnvFits : (fnv1a64 payload).toNat < 256 ^ 8 := (fnv1a64 payload).isLt
  have lengthFits : payload.length < 256 ^ 4 := fits
  have versionFits : persistenceFormatVersion < 256 ^ 4 := by decide
  have headerLength : (leBytes 8 magic ++ leBytes 4 persistenceFormatVersion ++
      leBytes 4 payload.length).length = 16 := by simp
  constructor
  · exact wordAt_fields [] _ magicFits
  · have word := wordAt_fields (leBytes 8 magic) (leBytes 4 payload.length ++ (payload ++
      (leBytes 4 (crc32c payload).toNat ++ (leBytes 8 (fnv1a64 payload).toNat ++ rest)))) versionFits
    simpa [writeFrame] using word
  · have word := wordAt_fields (leBytes 8 magic ++ leBytes 4 persistenceFormatVersion)
      (payload ++ (leBytes 4 (crc32c payload).toNat ++
        (leBytes 8 (fnv1a64 payload).toNat ++ rest))) lengthFits
    simpa [writeFrame] using word
  · have dropped : (writeFrame magic payload ++ rest).drop 16 = payload ++
        (leBytes 4 (crc32c payload).toNat ++ (leBytes 8 (fnv1a64 payload).toNat ++ rest)) := by
      rw [← headerLength]
      simpa [writeFrame] using @List.drop_left _ (leBytes 8 magic ++
        leBytes 4 persistenceFormatVersion ++ leBytes 4 payload.length)
    rw [dropped, List.take_left]
  · have word := wordAt_fields (leBytes 8 magic ++ leBytes 4 persistenceFormatVersion ++
      leBytes 4 payload.length ++ payload) (leBytes 8 (fnv1a64 payload).toNat ++ rest) crcFits
    simpa [writeFrame, Nat.add_comm, Nat.add_left_comm, Nat.add_assoc] using word
  · have word := wordAt_fields (leBytes 8 magic ++ leBytes 4 persistenceFormatVersion ++
      leBytes 4 payload.length ++ payload ++ leBytes 4 (crc32c payload).toNat) rest fnvFits
    simpa [writeFrame, Nat.add_comm, Nat.add_left_comm, Nat.add_assoc] using word

/-- A frame within the bound is read back. -/
theorem readFrame_writeFrame (magic : Nat) {payload : Bytes} {limits : Limits}
    (magicFits : magic < 256 ^ 8) (bounded : payload.length ≤ limits.maxPersistBytes)
    (fits : payload.length < 2 ^ 32) :
    readFrame (writeFrame magic payload) magic limits = .ok payload := by
  have layout := writeFrame_layout magic magicFits fits []
  rw [List.append_nil] at layout
  have size := length_writeFrame magic payload
  simp only [readFrame, bind_eq_ok, exists_unit, check_eq_ok, pure_eq_ok, layout.leading,
    layout.version, layout.length, persistFrameHeaderBytes, persistFrameTrailerBytes, layout.content,
    layout.checksum, layout.hash, true_and, and_true]
  exact ⟨check_eq_ok.mpr (by omega), bounded, by omega, by omega⟩

/-! ## Payloads -/

/-- The three lists that both kinds of payload carry. -/
structure StateBody where
  routes : List RouteRecord
  revocations : List RevocationRecord
  attempts : List ProgrammingAttemptRecord

def writeStateBody (body : StateBody) : Bytes :=
  [writeList RouteRecord.write body.routes, writeList RevocationRecord.write body.revocations,
    writeList ProgrammingAttemptRecord.write body.attempts].flatten

def readStateBody (limits : Limits) : Reader StateBody := do
  let routes ← listOf "malformed route count" "route count exceeds the configured bound"
    limits.maxRoutes (RouteRecord.read limits)
  let revocations ← listOf "malformed revocation count" "revocation count exceeds the configured bound"
    limits.maxRoutes (RevocationRecord.read limits)
  let attempts ← listOf "malformed attempt count" "attempt count exceeds the configured bound"
    limits.maxOutstandingProgramming
    (because "malformed programming attempt record" ProgrammingAttemptRecord.read)
  pure { routes, revocations, attempts }

structure StateBody.Storable (body : StateBody) (limits : Limits) : Prop where
  routeCount : body.routes.length ≤ limits.maxRoutes
  routes : ∀ record ∈ body.routes, record.Storable limits
  revocationCount : body.revocations.length ≤ limits.maxRoutes
  revocations : ∀ record ∈ body.revocations, record.Storable limits
  attemptCount : body.attempts.length ≤ limits.maxOutstandingProgramming
  attempts : ∀ record ∈ body.attempts, record.Storable

/-- The bodies whose length prefixes hold the lengths they stand for. -/
structure StateBody.Measured (body : StateBody) : Prop where
  routeCount : body.routes.length < 2 ^ 32
  routes : ∀ record ∈ body.routes, record.Measured
  revocationCount : body.revocations.length < 2 ^ 32
  revocations : ∀ record ∈ body.revocations, record.write.length < 2 ^ 32
  attemptCount : body.attempts.length < 2 ^ 32

theorem StateBody.measured_of_length {body : StateBody} (fits : (writeStateBody body).length < 2 ^ 32) :
    body.Measured := by
  have lengths : (body.routes.flatMap RouteRecord.write).length < 2 ^ 32 ∧
      (body.revocations.flatMap RevocationRecord.write).length < 2 ^ 32 ∧
      (body.attempts.flatMap ProgrammingAttemptRecord.write).length < 2 ^ 32 := by
    simp only [writeStateBody, List.flatten_cons, List.length_append, length_writeList] at fits
    omega
  obtain ⟨routes, revocations, attempts⟩ := lengths
  constructor
  · exact (length_le_flatMap RouteRecord.one_le_length_write body.routes).trans_lt routes
  · intro record member
    exact RouteRecord.measured_of_length ((length_write_le member).trans_lt routes)
  · exact (length_le_flatMap RevocationRecord.one_le_length_write body.revocations).trans_lt revocations
  · intro record member
    exact (length_write_le member).trans_lt revocations
  · exact (length_le_flatMap ProgrammingAttemptRecord.one_le_length_write body.attempts).trans_lt attempts

theorem reads_stateBody {body : StateBody} (measured : body.Measured) (limits : Limits) :
    Reads (readStateBody limits) (writeStateBody body) (body.Storable limits) body := by
  have eachRoute : ∀ record ∈ body.routes,
      Reads (RouteRecord.read limits) record.write (record.Storable limits) record :=
    fun record member => RouteRecord.reads (measured.routes record member) limits
  have eachRevocation : ∀ record ∈ body.revocations,
      Reads (RevocationRecord.read limits) record.write (record.Storable limits) record :=
    fun record member => RevocationRecord.reads (measured.revocations record member) limits
  have eachAttempt : ∀ record ∈ body.attempts,
      Reads (because "malformed programming attempt record" ProgrammingAttemptRecord.read)
        record.write record.Storable record :=
    fun record _ => (ProgrammingAttemptRecord.reads record).because _
  refine Reads.restate ?_
    (Reads.field (Reads.listOf measured.routeCount _ _ _ eachRoute) fun _ =>
      Reads.field (Reads.listOf measured.revocationCount _ _ _ eachRevocation) fun _ =>
        Reads.field (Reads.listOf measured.attemptCount _ _ _ eachAttempt) fun _ => Reads.pure body)
  constructor
  · rintro ⟨⟨routeCount, routes⟩, ⟨revocationCount, revocations⟩, ⟨attemptCount, attempts⟩, -⟩
    exact ⟨routeCount, routes, revocationCount, revocations, attemptCount, attempts⟩
  · rintro ⟨routeCount, routes, revocationCount, revocations, attemptCount, attempts⟩
    exact ⟨⟨routeCount, routes⟩, ⟨revocationCount, revocations⟩, ⟨attemptCount, attempts⟩, trivial⟩

/-- The header counter of a payload: an absent counter is written as one. -/
def writeHeaderCounter {tag : CounterTag} (counter : CounterId tag) : Bytes :=
  leBytes 8 (if counter.isValid then counter.value else 1)

theorem reads_headerCounter {tag : CounterTag} {counter : CounterId tag} (positive : 1 ≤ counter.value) :
    Reads (word 8) (writeHeaderCounter counter) True counter.value := by
  rw [writeHeaderCounter, if_pos ((CounterId.isValid_iff counter).mpr positive)]
  exact CounterId.reads_word counter

/-- The epoch and the policy generation that both kinds of payload start with. -/
def readHeader (why : String) : Reader (CoordinatorEpoch × PolicyGeneration) := do
  let epoch ← because why (word 8)
  let policyGeneration ← because why (word 8)
  because "impossible coordinator epoch" (require (epoch ≠ 0 ∧ epoch ≤ CounterId.maxValue))
  because "impossible policy generation"
    (require (policyGeneration ≠ 0 ∧ policyGeneration ≤ CounterId.maxValue))
  pure (.fromValue epoch, .fromValue policyGeneration)

theorem reads_header {epoch : CoordinatorEpoch} {policyGeneration : PolicyGeneration}
    (positive : 1 ≤ epoch.value ∧ 1 ≤ policyGeneration.value) (why : String) :
    Reads (readHeader why) (writeHeaderCounter epoch ++ writeHeaderCounter policyGeneration)
      (epoch.Storable ∧ policyGeneration.Storable) (epoch, policyGeneration) := by
  have finish : Reads (pure (CounterId.fromValue epoch.value, CounterId.fromValue policyGeneration.value))
      [] True (epoch, policyGeneration) := by
    rw [CounterId.fromValue_value, CounterId.fromValue_value]
    exact Reads.pure _
  rw [← List.append_nil (writeHeaderCounter policyGeneration)]
  refine Reads.restate ?_
    (((reads_headerCounter positive.1).because why).bind fun _ =>
      ((reads_headerCounter positive.2).because why).bind fun _ =>
        Reads.silent ((Reads.require (epoch.value ≠ 0 ∧ epoch.value ≤ CounterId.maxValue)).because _)
          fun _ => Reads.silent ((Reads.require
            (policyGeneration.value ≠ 0 ∧ policyGeneration.value ≤ CounterId.maxValue)).because _)
              fun _ => finish)
  simp only [true_and, and_true, CounterId.Storable, Nat.one_le_iff_ne_zero]

/-! ## Journal entries -/

def JournalEntry.body (entry : JournalEntry) : StateBody :=
  ⟨entry.upserts, entry.revocations, entry.attempts⟩

def JournalEntry.payload (entry : JournalEntry) : Bytes :=
  [writeHeaderCounter entry.epoch ++ writeHeaderCounter entry.policyGeneration,
    writeStateBody entry.body].flatten

/-- An empty image stands for a payload over the bound. -/
def encodeJournalEntry (entry : JournalEntry) (limits : Limits) : Bytes :=
  if limits.maxPersistBytes < entry.payload.length then []
  else writeFrame journalEntryMagic entry.payload

def readJournalPayload (limits : Limits) : Reader JournalEntry := do
  let header ← readHeader "malformed journal header"
  let body ← readStateBody limits
  pure ⟨header.1, header.2, body.routes, body.revocations, body.attempts⟩

def decodeJournalEntry (image : Bytes) (limits : Limits) : Except String JournalEntry := do
  let payload ← readFrame image journalEntryMagic limits
  let (entry, rest) ← readJournalPayload limits payload
  check (rest = []) "trailing bytes inside the journal payload"
  pure entry

/-- The entries whose own image decodes to them. -/
structure JournalEntry.Storable (entry : JournalEntry) (limits : Limits) : Prop where
  epoch : entry.epoch.Storable
  policyGeneration : entry.policyGeneration.Storable
  body : entry.body.Storable limits

/-- What the runtime guarantees of every entry it writes. -/
structure JournalEntry.Formed (entry : JournalEntry) : Prop where
  epoch : 1 ≤ entry.epoch.value
  policyGeneration : 1 ≤ entry.policyGeneration.value

theorem JournalEntry.measured {entry : JournalEntry} (fits : entry.payload.length < 2 ^ 32) :
    entry.body.Measured := by
  apply StateBody.measured_of_length
  simp only [JournalEntry.payload, List.flatten_cons, List.length_append] at fits
  omega

theorem reads_journalPayload {entry : JournalEntry} (formed : entry.Formed)
    (measured : entry.body.Measured) (limits : Limits) :
    Reads (readJournalPayload limits) entry.payload (entry.Storable limits) entry := by
  refine Reads.restate ?_
    (Reads.field (reads_header ⟨formed.epoch, formed.policyGeneration⟩ _) fun _ =>
      Reads.field (reads_stateBody measured limits) fun _ => Reads.pure entry)
  constructor
  · rintro ⟨⟨epoch, policy⟩, body, -⟩
    exact ⟨epoch, policy, body⟩
  · rintro ⟨epoch, policy, body⟩
    exact ⟨⟨epoch, policy⟩, body, trivial⟩

/-- The image of an entry within the bound decodes to the entry exactly when the entry
is storable, and is refused otherwise. -/
theorem decodeJournalEntry_encode {entry : JournalEntry} {limits : Limits} (formed : entry.Formed)
    (bounded : entry.payload.length ≤ limits.maxPersistBytes) (fits : entry.payload.length < 2 ^ 32) :
    (entry.Storable limits →
      decodeJournalEntry (writeFrame journalEntryMagic entry.payload) limits = .ok entry) ∧
    (¬ entry.Storable limits →
      ∃ why, decodeJournalEntry (writeFrame journalEntryMagic entry.payload) limits = .error why) := by
  have frame := readFrame_writeFrame journalEntryMagic (by decide) bounded fits
  have reads := reads_journalPayload formed (JournalEntry.measured fits) limits
  constructor
  · intro storable
    have read := reads.accept storable []
    rw [List.append_nil] at read
    simp only [decodeJournalEntry, bind_eq_ok, frame, Except.ok.injEq, exists_eq_left', read,
      exists_unit, check_eq_ok, pure_eq_ok, and_true]
  · intro refused
    obtain ⟨why, failed⟩ := reads.refuse refused []
    rw [List.append_nil] at failed
    apply exists_error
    simp [decodeJournalEntry, frame, failed]

/-! ## Snapshots -/

def PersistedState.body (state : PersistedState) : StateBody :=
  ⟨state.routes, state.revocations, state.attempts⟩

def PersistedState.payload (state : PersistedState) : Bytes :=
  [writeHeaderCounter state.epoch ++ writeHeaderCounter state.policyGeneration,
    writeStateBody state.body, bytes128 state.digest].flatten

/-- An empty image stands for a payload over the bound. -/
def encodeSnapshot (state : PersistedState) (limits : Limits) : Bytes :=
  if limits.maxPersistBytes < state.payload.length then []
  else writeFrame persistenceMagic state.payload

def readSnapshotPayload (limits : Limits) : Reader (PersistedState × Bytes) := do
  let header ← readHeader "malformed epoch header"
  let body ← readStateBody limits
  let storedDigest ← because "missing state digest" (raw 16)
  pure (⟨header.1, header.2, body.routes, body.revocations, body.attempts⟩, storedDigest)

/-- The decoder sorts identities and looks for equal neighbours; that finds a repeated
identity whenever there is one. -/
def decodeSnapshot (image : Bytes) (limits : Limits) : Except String PersistedState := do
  let payload ← readFrame image persistenceMagic limits
  let ((state, storedDigest), rest) ← readSnapshotPayload limits payload
  check (rest = []) "trailing bytes inside the snapshot payload"
  check (value128 storedDigest = state.digest) "state digest mismatch"
  check (state.routes.map (·.id)).Nodup "duplicate RouteId in the stored state"
  check (state.routes.map (·.key)).Nodup "duplicate route key in the stored state"
  check (state.attempts.map (·.attempt)).Nodup
    "duplicate programming attempt identity in the stored state"
  check (state.revocations.map (·.route)).Nodup "duplicate revocation record in the stored state"
  pure state

/-- The states whose own image decodes to them. -/
structure PersistedState.Storable (state : PersistedState) (limits : Limits) : Prop where
  epoch : state.epoch.Storable
  policyGeneration : state.policyGeneration.Storable
  body : state.body.Storable limits
  unique : state.Unique
  keys : (state.routes.map (·.key)).Nodup

/-- What the runtime guarantees of every state it saves. -/
structure PersistedState.Formed (state : PersistedState) : Prop where
  epoch : 1 ≤ state.epoch.value
  policyGeneration : 1 ≤ state.policyGeneration.value

theorem reads_snapshotPayload {state : PersistedState} (formed : state.Formed)
    (fits : state.payload.length < 2 ^ 32) (limits : Limits) :
    Reads (readSnapshotPayload limits) state.payload
      ((state.epoch.Storable ∧ state.policyGeneration.Storable) ∧ state.body.Storable limits)
      (state, bytes128 state.digest) := by
  have bodyFits : (writeStateBody state.body).length < 2 ^ 32 := by
    simp only [PersistedState.payload, List.flatten_cons, List.length_append] at fits
    omega
  have digest : Reads (raw 16) (bytes128 state.digest) True (bytes128 state.digest) := by
    simpa only [length_bytes128] using Reads.raw (bytes128 state.digest)
  exact Reads.restate (by simp)
    (Reads.field (reads_header ⟨formed.epoch, formed.policyGeneration⟩ _) fun _ =>
      Reads.field (reads_stateBody (StateBody.measured_of_length bodyFits) limits) fun _ =>
        Reads.field (digest.because _) fun _ => Reads.pure (state, bytes128 state.digest))

/-- The image of a state within the bound decodes to the state exactly when the state is
storable, and is refused otherwise. -/
theorem decodeSnapshot_encode {state : PersistedState} {limits : Limits} (formed : state.Formed)
    (bounded : state.payload.length ≤ limits.maxPersistBytes) (fits : state.payload.length < 2 ^ 32) :
    (state.Storable limits →
      decodeSnapshot (writeFrame persistenceMagic state.payload) limits = .ok state) ∧
    (¬ state.Storable limits →
      ∃ why, decodeSnapshot (writeFrame persistenceMagic state.payload) limits = .error why) := by
  have frame := readFrame_writeFrame persistenceMagic (by decide) bounded fits
  have reads := reads_snapshotPayload formed fits limits
  constructor
  · rintro ⟨epoch, policy, body, unique, keys⟩
    have read := reads.accept ⟨⟨epoch, policy⟩, body⟩ []
    rw [List.append_nil] at read
    simp only [decodeSnapshot, bind_eq_ok, frame, Except.ok.injEq, exists_eq_left', read,
      exists_unit, check_eq_ok, pure_eq_ok, value128_bytes128, and_true, true_and]
    exact ⟨unique.routes, keys, unique.attempts, unique.revocations⟩
  · intro refused
    apply exists_error
    intro result decoded
    by_cases accepted : (state.epoch.Storable ∧ state.policyGeneration.Storable) ∧
        state.body.Storable limits
    · have read := reads.accept accepted []
      rw [List.append_nil] at read
      simp only [decodeSnapshot, bind_eq_ok, frame, Except.ok.injEq, exists_eq_left', read,
        exists_unit, check_eq_ok, true_and, value128_bytes128] at decoded
      obtain ⟨ids, keys, attempts, revocations, -⟩ := decoded
      exact refused ⟨accepted.1.1, accepted.1.2, accepted.2, ⟨ids, revocations, attempts⟩, keys⟩
    · obtain ⟨why, failed⟩ := reads.refuse accepted []
      rw [List.append_nil] at failed
      simp [decodeSnapshot, frame, failed] at decoded

end RouteFabric
