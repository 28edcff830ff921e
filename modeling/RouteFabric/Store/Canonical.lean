import RouteFabric.Store.Codec

/-!
# Store images are canonical

The decoders of the store accept no byte that the encoders would not have written: a frame
is rebuilt from its payload, a payload from its three lists, and the stored digest from the
decoded state. Conversely, an image whose parts the readers accept one by one decodes to
what was encoded.
-/

namespace RouteFabric

open ByteReader

/-! ## Frames -/

/-- The bytes of a word are those that its value is written with. -/
theorem drop_eq_word {image : Bytes} {offset count : Nat} (long : offset + count ≤ image.length) :
    image.drop offset = leBytes count (wordAt image offset count) ++ image.drop (offset + count) := by
  have length : ((image.drop offset).take count).length = count := by
    rw [List.length_take, List.length_drop]
    omega
  have written : leBytes count (wordAt image offset count) = (image.drop offset).take count := by
    have rewritten := leBytes_leValue ((image.drop offset).take count)
    rwa [length] at rewritten
  rw [written, ← List.drop_drop, List.take_append_drop]

/-- A frame that is read is the frame around the payload that it gives. -/
theorem readFrame_canonical {image payload : Bytes} {magic : Nat} {limits : Limits}
    (accepted : readFrame image magic limits = .ok payload) :
    image = writeFrame magic payload ∧ payload.length ≤ limits.maxPersistBytes ∧
      payload.length < 2 ^ 32 := by
  simp only [readFrame, bind_eq_ok, exists_unit, check_eq_ok, pure_eq_ok] at accepted
  obtain ⟨-, leading, version, bounded, enough, nothingMore, checksum, hash, content⟩ := accepted
  simp only [persistFrameHeaderBytes, persistFrameTrailerBytes] at enough nothingMore checksum hash content
  have length : payload.length = wordAt image 12 4 := by
    rw [← content, List.length_take, List.length_drop]
    omega
  have fits : payload.length < 2 ^ 32 := by
    have word := leValue_lt ((image.drop 12).take 4)
    have size : ((image.drop 12).take 4).length = 4 := by
      rw [List.length_take, List.length_drop]
      omega
    rw [size] at word
    exact length ▸ word
  rw [content, ← length] at checksum hash
  rw [← length] at bounded enough nothingMore content
  refine ⟨?_, bounded, fits⟩
  have body : image.drop 16 = payload ++ image.drop (16 + payload.length) := by
    nth_rewrite 1 [← content]
    rw [← List.drop_drop, List.take_append_drop]
  have trailer : image.drop (16 + payload.length) =
      leBytes 4 (crc32c payload).toNat ++ (leBytes 8 (fnv1a64 payload).toNat ++ []) := by
    rw [drop_eq_word (by omega : 16 + payload.length + 4 ≤ image.length), checksum,
      drop_eq_word (by omega : 16 + payload.length + 4 + 8 ≤ image.length), hash,
      List.drop_eq_nil_of_le (by omega : image.length ≤ 16 + payload.length + 4 + 8)]
  calc image
      = image.drop 0 := rfl
    _ = leBytes 8 magic ++ image.drop 8 := by
        rw [drop_eq_word (by omega : 0 + 8 ≤ image.length), leading]
    _ = leBytes 8 magic ++ (leBytes 4 persistenceFormatVersion ++ image.drop 12) := by
        rw [drop_eq_word (by omega : 8 + 4 ≤ image.length), version]
    _ = leBytes 8 magic ++ (leBytes 4 persistenceFormatVersion ++
          (leBytes 4 payload.length ++ image.drop 16)) := by
        rw [drop_eq_word (by omega : 12 + 4 ≤ image.length), length]
    _ = writeFrame magic payload := by
        rw [body, trailer]
        rfl

/-! ## Payloads -/

theorem canonical_stateBody (limits : Limits) :
    Canonical (readStateBody limits) writeStateBody (·.Storable limits) :=
  Consumes.field ((RouteRecord.canonical limits).listOf _ _ _) fun _ routes =>
    Consumes.field ((RevocationRecord.canonical limits).listOf _ _ _) fun _ revocations =>
      Consumes.field ((ProgrammingAttemptRecord.canonical.because _).listOf _ _ _) fun _ attempts =>
        Consumes.pure ⟨rfl, routes.1, fun record member => (routes.2.2 record member).1,
          revocations.1, revocations.2.2, attempts.1, attempts.2.2⟩

/-- A header word that was accepted is in range and is written back as it was. -/
theorem storable_fromValue {tag : CounterTag} {value : Nat} (fits : value < 256 ^ 8)
    (inRange : value ≠ 0 ∧ value ≤ CounterId.maxValue) :
    (CounterId.fromValue value : CounterId tag).Storable ∧
      writeHeaderCounter (.fromValue value : CounterId tag) = leBytes 8 value := by
  have positive : 1 ≤ (CounterId.fromValue value : CounterId tag).value :=
    CounterId.one_le_fromValue inRange
  refine ⟨⟨positive, ?_⟩, ?_⟩
  · rw [CounterId.value_fromValue fits]
    exact inRange.2
  · rw [writeHeaderCounter, if_pos ((CounterId.isValid_iff _).mpr positive),
      CounterId.value_fromValue fits]

theorem canonical_header (why : String) : Canonical (readHeader why)
    (fun header => writeHeaderCounter header.1 ++ writeHeaderCounter header.2)
    fun header => header.1.Storable ∧ header.2.Storable := by
  refine Consumes.field ((Canonical.word 8).because why) fun epoch epochFits =>
    Consumes.field ((Canonical.word 8).because why) fun policy policyFits =>
      Consumes.field (Canonical.guard _ _) fun _ epochRange =>
        Consumes.field (Canonical.guard _ _) fun _ policyRange => Consumes.pure ⟨?_, ?_⟩
  · simp only [(storable_fromValue epochFits epochRange).2, (storable_fromValue policyFits policyRange).2,
      List.append_nil]
  · exact ⟨(storable_fromValue epochFits epochRange).1, (storable_fromValue policyFits policyRange).1⟩

theorem canonical_journalPayload (limits : Limits) :
    Canonical (readJournalPayload limits) JournalEntry.payload (·.Storable limits) :=
  Consumes.field (canonical_header _) fun _ header =>
    Consumes.field (canonical_stateBody limits) fun _ body =>
      Consumes.pure ⟨rfl, header.1, header.2, body⟩

/-- The payload of a snapshot carries a digest of its own, which the decoder compares. -/
theorem canonical_snapshotPayload (limits : Limits) : Canonical (readSnapshotPayload limits)
    (fun stored => [writeHeaderCounter stored.1.epoch ++ writeHeaderCounter stored.1.policyGeneration,
      writeStateBody stored.1.body, stored.2].flatten) fun stored => stored.2.length = 16 ∧
        stored.1.epoch.Storable ∧ stored.1.policyGeneration.Storable ∧ stored.1.body.Storable limits :=
  Consumes.field (canonical_header _) fun _ header =>
    Consumes.field (canonical_stateBody limits) fun _ body =>
      Consumes.field ((Canonical.raw 16).because _) fun _ length =>
        Consumes.pure ⟨rfl, length, header.1, header.2, body⟩

/-! ## Images -/

/-- What the scan of a journal accepts: a storable entry within the bound and within the
length word of a frame. -/
structure JournalEntry.Recorded (entry : JournalEntry) (limits : Limits) : Prop where
  storable : entry.Storable limits
  bounded : entry.payload.length ≤ limits.maxPersistBytes
  fits : entry.payload.length < 2 ^ 32

theorem JournalEntry.Storable.formed {entry : JournalEntry} {limits : Limits}
    (storable : entry.Storable limits) : entry.Formed :=
  ⟨storable.epoch.1, storable.policyGeneration.1⟩

/-- An accepted journal image is the frame around the payload of its entry. -/
theorem decodeJournalEntry_recorded {image : Bytes} {limits : Limits} {entry : JournalEntry}
    (decoded : decodeJournalEntry image limits = .ok entry) :
    image = writeFrame journalEntryMagic entry.payload ∧ entry.Recorded limits := by
  simp only [decodeJournalEntry, bind_eq_ok, exists_unit, Prod.exists, pure_eq_ok, check_eq_ok] at decoded
  obtain ⟨payload, framed, read, rest, accepted, rfl, rfl⟩ := decoded
  obtain ⟨frame, bounded, fits⟩ := readFrame_canonical framed
  obtain ⟨rfl, storable⟩ := (canonical_journalPayload limits).whole accepted
  exact ⟨frame, storable, bounded, fits⟩

/-- An accepted journal image is the one its entry is encoded to. -/
theorem decodeJournalEntry_canonical {image : Bytes} {limits : Limits} {entry : JournalEntry}
    (decoded : decodeJournalEntry image limits = .ok entry) :
    encodeJournalEntry entry limits = image := by
  obtain ⟨frame, recorded⟩ := decodeJournalEntry_recorded decoded
  have bounded := recorded.bounded
  rw [encodeJournalEntry, if_neg (by omega), frame]

/-- An accepted snapshot image is the one its state is encoded to, and the state is
storable and fits a frame. -/
theorem decodeSnapshot_canonical {image : Bytes} {limits : Limits} {state : PersistedState}
    (decoded : decodeSnapshot image limits = .ok state) :
    encodeSnapshot state limits = image ∧ state.Storable limits ∧ state.payload.length < 2 ^ 32 := by
  simp only [decodeSnapshot, bind_eq_ok, exists_unit, Prod.exists, pure_eq_ok, check_eq_ok] at decoded
  obtain ⟨payload, framed, read, digest, rest, accepted, rfl, same, ids, keys, attempts, revocations, rfl⟩ :=
    decoded
  obtain ⟨frame, bounded, fits⟩ := readFrame_canonical framed
  obtain ⟨whole, length, epoch, policy, body⟩ := (canonical_snapshotPayload limits).whole accepted
  -- The stored digest was compared with the one recomputed, which fixes its bytes.
  have stored : digest = bytes128 read.digest := by
    rw [← same, bytes128_value128 length]
  have payloads : payload = read.payload := by
    rw [whole, stored]
    rfl
  refine ⟨?_, ⟨epoch, policy, body, ⟨ids, revocations, attempts⟩, keys⟩, payloads ▸ fits⟩
  rw [encodeSnapshot, if_neg (by rw [← payloads]; omega), ← payloads, frame]

/-- Whatever was decoded from images and replayed: every counter and every item is one that
its own reader accepts. -/
structure PersistedState.Sound (state : PersistedState) (limits : Limits) : Prop where
  epoch : state.epoch.Storable
  policyGeneration : state.policyGeneration.Storable
  routes : ∀ record ∈ state.routes, record.Storable limits
  revocations : ∀ revocation ∈ state.revocations, revocation.Storable limits
  attempts : ∀ attempt ∈ state.attempts, attempt.Storable

theorem PersistedState.Storable.sound {state : PersistedState} {limits : Limits}
    (storable : state.Storable limits) : state.Sound limits :=
  ⟨storable.epoch, storable.policyGeneration, storable.body.routes, storable.body.revocations,
    storable.body.attempts⟩

theorem sound_empty (limits : Limits) : ({} : PersistedState).Sound limits := by
  refine ⟨CounterId.storable_one, CounterId.storable_one, ?_, ?_, ?_⟩ <;> simp

/-- Every count is within its limit, and every item is accepted by its own reader. -/
structure StateBody.Accepted (body : StateBody) (limits : Limits) : Prop where
  routeCount : body.routes.length ≤ limits.maxRoutes
  revocationCount : body.revocations.length ≤ limits.maxRoutes
  attemptCount : body.attempts.length ≤ limits.maxOutstandingProgramming
  routes : ∀ record ∈ body.routes, ∃ result, RouteRecord.read limits record.write = .ok result
  revocations : ∀ record ∈ body.revocations,
    ∃ result, RevocationRecord.read limits record.write = .ok result
  attempts : ∀ record ∈ body.attempts,
    ∃ result, ProgrammingAttemptRecord.read record.write = .ok result

/-- An image that is accepted at all meets the condition of acceptance. -/
theorem accepts_of_read {α : Type} {reader : Reader α} {image : Bytes} {accepts : Prop} {value : α}
    (reads : Reads reader image accepts value) (accepted : ∃ result, reader image = .ok result) :
    accepts := by
  by_contra fails
  obtain ⟨why, refused⟩ := reads.refuse fails []
  obtain ⟨result, read⟩ := accepted
  rw [List.append_nil, read] at refused
  cases refused

theorem StateBody.Accepted.storable {body : StateBody} {limits : Limits} (accepted : body.Accepted limits)
    (measured : body.Measured) : body.Storable limits := by
  refine ⟨accepted.routeCount, ?_, accepted.revocationCount, ?_, accepted.attemptCount, ?_⟩
  · intro record member
    exact accepts_of_read (RouteRecord.reads (measured.routes record member) limits)
      (accepted.routes record member)
  · intro record member
    exact accepts_of_read (RevocationRecord.reads (measured.revocations record member) limits)
      (accepted.revocations record member)
  · intro record member
    exact accepts_of_read (ProgrammingAttemptRecord.reads record) (accepted.attempts record member)

theorem decodeSnapshot_encodeSnapshot {state : PersistedState} {limits : Limits}
    (epoch : state.epoch.Storable) (policy : state.policyGeneration.Storable)
    (accepted : state.body.Accepted limits) (unique : state.Unique)
    (keys : (state.routes.map (·.key)).Nodup) (bounded : state.payload.length ≤ limits.maxPersistBytes)
    (small : limits.maxPersistBytes < 2 ^ 32) :
    decodeSnapshot (encodeSnapshot state limits) limits = .ok state := by
  have fits : (writeStateBody state.body).length < 2 ^ 32 := by
    simp only [PersistedState.payload, List.flatten_cons, List.length_append] at bounded
    omega
  rw [encodeSnapshot, if_neg (by omega)]
  exact (decodeSnapshot_encode ⟨epoch.1, policy.1⟩ bounded (bounded.trans_lt small)).1
    ⟨epoch, policy, accepted.storable (StateBody.measured_of_length fits), unique, keys⟩

theorem decodeJournalEntry_encodeJournalEntry {entry : JournalEntry} {limits : Limits}
    (epoch : entry.epoch.Storable) (policy : entry.policyGeneration.Storable)
    (accepted : entry.body.Accepted limits) (bounded : entry.payload.length ≤ limits.maxPersistBytes)
    (small : limits.maxPersistBytes < 2 ^ 32) :
    decodeJournalEntry (encodeJournalEntry entry limits) limits = .ok entry := by
  have fits := bounded.trans_lt small
  rw [encodeJournalEntry, if_neg (by omega)]
  exact (decodeJournalEntry_encode ⟨epoch.1, policy.1⟩ bounded fits).1
    ⟨epoch, policy, accepted.storable (JournalEntry.measured fits)⟩

/-- Every accepted image is the one that its contents are encoded to; and a state, or an
entry, whose parts the readers accept one by one is decoded as it was encoded. -/
theorem images_canonical (limits : Limits) :
    (∀ image state, decodeSnapshot image limits = .ok state → encodeSnapshot state limits = image) ∧
      (∀ image entry, decodeJournalEntry image limits = .ok entry →
        encodeJournalEntry entry limits = image) ∧
      (∀ state : PersistedState, state.epoch.Storable → state.policyGeneration.Storable →
        state.body.Accepted limits → state.Unique → (state.routes.map (·.key)).Nodup →
        state.payload.length ≤ limits.maxPersistBytes → limits.maxPersistBytes < 2 ^ 32 →
        decodeSnapshot (encodeSnapshot state limits) limits = .ok state) ∧
      ∀ entry : JournalEntry, entry.epoch.Storable → entry.policyGeneration.Storable →
        entry.body.Accepted limits → entry.payload.length ≤ limits.maxPersistBytes →
        limits.maxPersistBytes < 2 ^ 32 →
        decodeJournalEntry (encodeJournalEntry entry limits) limits = .ok entry := by
  refine ⟨?_, ?_, ?_, ?_⟩
  · intro image state decoded
    exact (decodeSnapshot_canonical decoded).1
  · intro image entry decoded
    exact decodeJournalEntry_canonical decoded
  · intro state epoch policy accepted unique keys bounded small
    exact decodeSnapshot_encodeSnapshot epoch policy accepted unique keys bounded small
  · intro entry epoch policy accepted bounded small
    exact decodeJournalEntry_encodeJournalEntry epoch policy accepted bounded small

/-! ### A stored route, with its revocation and its attempt -/

namespace Stored

def limits : Limits := {}

def key : RouteKey :=
  { fabric := ⟨asciiBytes "fabric"⟩, routingNamespace := ⟨asciiBytes "default"⟩,
    destination :=
      { kind := .logicalDestination, valid := true, token := asciiBytes "web",
        wellFormed := fun _ => ⟨rfl, by decide, rfl⟩ },
    routeClass := .logical }

def record : RouteRecord :=
  { id := ⟨5⟩, key := key, generation := .one, authorityGeneration := .one,
    invalidationWatermark := .one, programmingGeneration := .one, lifecycle := .installed,
    binding :=
      { nextHop := { nextHop := ⟨7⟩, entityGeneration := .one }, policyGeneration := .one },
    applied := { classification := .applied, attempt := ⟨3⟩, programmingGeneration := .one,
                 programmedGeneration := .one, programmedAuthorityGeneration := .one,
                 backend := ⟨asciiBytes "backend"⟩ },
    observation := { backend := ⟨asciiBytes "backend"⟩ },
    provenance := { publisher := ⟨asciiBytes "operator"⟩, workerBoot := ⟨2⟩, epoch := .one,
                    sourceGeneration := .one, mutationAttempt := ⟨1⟩, policyGeneration := .one,
                    pathAuthorityGeneration := .one } }

def state : PersistedState :=
  { routes := [record],
    revocations := [{ route := ⟨5⟩, key := key, generation := .one, epoch := .one, attempt := ⟨1⟩, reason := [] }],
    attempts := [{ attempt := ⟨3⟩, route := ⟨5⟩, desiredGeneration := .one,
                   programmingGeneration := .one, operation := .install, epoch := .one,
                   resolved := true }] }

theorem record_accepted : RouteRecord.read limits record.write = .ok (record, []) := by
  decide +kernel

theorem accepted : state.body.Accepted limits where
  routeCount := by decide
  revocationCount := by decide
  attemptCount := by decide
  routes := by
    intro stored member
    rw [List.mem_singleton.mp member]
    exact ⟨_, record_accepted⟩
  revocations := by
    intro stored member
    rw [List.mem_singleton.mp member]
    exact ⟨_, rfl⟩
  attempts := by
    intro stored member
    rw [List.mem_singleton.mp member]
    exact ⟨_, rfl⟩
theorem bounded : state.payload.length ≤ limits.maxPersistBytes := by decide +kernel

end Stored

theorem images_canonical_stored :
    decodeSnapshot (encodeSnapshot Stored.state Stored.limits) Stored.limits = .ok Stored.state ∧
      ∃ image, decodeSnapshot image Stored.limits = .ok Stored.state ∧
        encodeSnapshot Stored.state Stored.limits = image := by
  have decodes := (images_canonical Stored.limits).2.2.1 Stored.state CounterId.storable_one
    CounterId.storable_one Stored.accepted
    ⟨List.nodup_singleton _, List.nodup_singleton _, List.nodup_singleton _⟩ (List.nodup_singleton _)
    Stored.bounded (by decide)
  exact ⟨decodes, _, decodes, (images_canonical Stored.limits).1 _ _ decodes⟩

end RouteFabric
