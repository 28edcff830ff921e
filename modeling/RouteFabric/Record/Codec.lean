import RouteFabric.Record.Validate

/-!
# The record codec

Writers and readers of route records, revocations and programming attempts. The
writers accept whatever the runtime holds; the readers re-validate. `Storable` says of
each record exactly when its own encoding is read back, and the `reads` theorems say
that an encoding is otherwise refused.
-/

namespace RouteFabric

open ByteReader

/-! ## Bindings -/

namespace RouteBinding

def write (binding : RouteBinding) : Bytes :=
  [[Enumerated.code binding.kind], [Enumerated.code binding.nextHop.kind],
    binding.nextHop.nextHop.write, binding.nextHop.nextHopGroup.write,
    binding.nextHop.entityGeneration.write, binding.path.write,
    binding.pathAuthorityGeneration.writeOptional, binding.policyGeneration.write].flatten

def read : Reader RouteBinding := do
  let kind ← enumerated
  let nextHopKind ← enumerated
  let nextHop ← FixedId.readOptional
  let nextHopGroup ← FixedId.readOptional
  let entityGeneration ← CounterId.read
  let path ← FixedId.readOptional
  let pathAuthorityGeneration ← CounterId.readOptional
  let policyGeneration ← CounterId.read
  let binding : RouteBinding :=
    { kind := kind
      nextHop := { kind := nextHopKind, nextHop, nextHopGroup, entityGeneration }
      path := path
      pathAuthorityGeneration := pathAuthorityGeneration
      policyGeneration := policyGeneration }
  require (binding.isValid = true)
  pure binding

/-- The counters that the reader requires of every binding, whatever its kind. -/
structure Storable (binding : RouteBinding) : Prop where
  entityGeneration : binding.nextHop.entityGeneration.Storable
  policyGeneration : binding.policyGeneration.Storable
  valid : binding.isValid = true

theorem reads (binding : RouteBinding) : Reads read binding.write binding.Storable binding := by
  refine Reads.restate ?_
    (Reads.field (Reads.enumerated binding.kind) fun _ =>
      Reads.field (Reads.enumerated binding.nextHop.kind) fun _ =>
        Reads.field (FixedId.reads_optional binding.nextHop.nextHop) fun _ =>
          Reads.field (FixedId.reads_optional binding.nextHop.nextHopGroup) fun _ =>
            Reads.field (CounterId.reads binding.nextHop.entityGeneration) fun _ =>
              Reads.field (FixedId.reads_optional binding.path) fun _ =>
                Reads.field (CounterId.reads_optional binding.pathAuthorityGeneration) fun _ =>
                  Reads.field (CounterId.reads binding.policyGeneration) fun _ =>
                    Reads.guard fun _ => Reads.pure binding)
  constructor
  · rintro ⟨-, -, -, -, entity, -, -, policy, valid, -⟩
    exact ⟨entity, policy, valid⟩
  · rintro ⟨entity, policy, valid⟩
    exact ⟨trivial, trivial, trivial, trivial, entity, trivial, trivial, policy, valid, trivial⟩

theorem canonical : Canonical read write Storable :=
  Consumes.field Canonical.enumerated fun _ _ =>
    Consumes.field Canonical.enumerated fun _ _ =>
      Consumes.field FixedId.canonical_optional fun _ _ =>
        Consumes.field FixedId.canonical_optional fun _ _ =>
          Consumes.field CounterId.canonical fun _ entity =>
            Consumes.field FixedId.canonical_optional fun _ _ =>
              Consumes.field CounterId.canonical_optional fun _ _ =>
                Consumes.field CounterId.canonical fun _ policy =>
                  Consumes.guard fun valid => Consumes.pure ⟨rfl, entity, policy, valid⟩

end RouteBinding

/-! ## Applied state and observation -/

namespace AppliedState

def write (applied : AppliedState) : Bytes :=
  [[Enumerated.code applied.classification], applied.attempt.write,
    applied.programmingGeneration.writeOptional, applied.programmedGeneration.writeOptional,
    applied.programmedAuthorityGeneration.writeOptional, applied.backend.write,
    writeString applied.detail].flatten

def read : Reader AppliedState := do
  let classification ← enumerated
  let attempt ← FixedId.readOptional
  let programmingGeneration ← CounterId.readOptional
  let programmedGeneration ← CounterId.readOptional
  let programmedAuthorityGeneration ← CounterId.readOptional
  let backend ← TokenId.read
  let detail ← string maxDiagnosticChars
  pure { classification, attempt, programmingGeneration, programmedGeneration,
         programmedAuthorityGeneration, backend, detail }

structure Storable (applied : AppliedState) : Prop where
  backend : applied.backend.isValid = true
  detail : applied.detail.length ≤ maxDiagnosticChars

theorem reads {applied : AppliedState} (fits : applied.write.length < 2 ^ 32) :
    Reads read applied.write applied.Storable applied := by
  have lengths : applied.backend.value.length < 2 ^ 32 ∧ applied.detail.length < 2 ^ 32 := by
    simp [write, TokenId.write] at fits
    omega
  refine Reads.restate ?_
    (Reads.field (Reads.enumerated applied.classification) fun _ =>
      Reads.field (FixedId.reads_optional applied.attempt) fun _ =>
        Reads.field (CounterId.reads_optional applied.programmingGeneration) fun _ =>
          Reads.field (CounterId.reads_optional applied.programmedGeneration) fun _ =>
            Reads.field (CounterId.reads_optional applied.programmedAuthorityGeneration) fun _ =>
              Reads.field (TokenId.reads lengths.1) fun _ =>
                Reads.field (Reads.string lengths.2 maxDiagnosticChars) fun _ => Reads.pure applied)
  constructor
  · rintro ⟨-, -, -, -, -, backend, detail, -⟩
    exact ⟨backend, detail⟩
  · rintro ⟨backend, detail⟩
    exact ⟨trivial, trivial, trivial, trivial, trivial, backend, detail, trivial⟩

theorem canonical : Canonical read write Storable :=
  Consumes.field Canonical.enumerated fun _ _ =>
    Consumes.field FixedId.canonical_optional fun _ _ =>
      Consumes.field CounterId.canonical_optional fun _ _ =>
        Consumes.field CounterId.canonical_optional fun _ _ =>
          Consumes.field CounterId.canonical_optional fun _ _ =>
            Consumes.field TokenId.canonical fun _ backend =>
              Consumes.field (Canonical.string maxDiagnosticChars) fun _ detail =>
                Consumes.pure ⟨rfl, backend, detail.1⟩

end AppliedState

namespace BackendObservation

def write (observation : BackendObservation) : Bytes :=
  [[Enumerated.code observation.classification], observation.attempt.write,
    observation.observedGeneration.writeOptional, observation.backend.write,
    writeString observation.detail].flatten

def read : Reader BackendObservation := do
  let classification ← enumerated
  let attempt ← FixedId.readOptional
  let observedGeneration ← CounterId.readOptional
  let backend ← TokenId.read
  let detail ← string maxDiagnosticChars
  pure { classification, attempt, observedGeneration, backend, detail }

structure Storable (observation : BackendObservation) : Prop where
  backend : observation.backend.isValid = true
  detail : observation.detail.length ≤ maxDiagnosticChars

theorem reads {observation : BackendObservation} (fits : observation.write.length < 2 ^ 32) :
    Reads read observation.write observation.Storable observation := by
  have lengths : observation.backend.value.length < 2 ^ 32 ∧
      observation.detail.length < 2 ^ 32 := by
    simp [write, TokenId.write] at fits
    omega
  refine Reads.restate ?_
    (Reads.field (Reads.enumerated observation.classification) fun _ =>
      Reads.field (FixedId.reads_optional observation.attempt) fun _ =>
        Reads.field (CounterId.reads_optional observation.observedGeneration) fun _ =>
          Reads.field (TokenId.reads lengths.1) fun _ =>
            Reads.field (Reads.string lengths.2 maxDiagnosticChars) fun _ => Reads.pure observation)
  constructor
  · rintro ⟨-, -, -, backend, detail, -⟩
    exact ⟨backend, detail⟩
  · rintro ⟨backend, detail⟩
    exact ⟨trivial, trivial, trivial, backend, detail, trivial⟩

theorem canonical : Canonical read write Storable :=
  Consumes.field Canonical.enumerated fun _ _ =>
    Consumes.field FixedId.canonical_optional fun _ _ =>
      Consumes.field CounterId.canonical_optional fun _ _ =>
        Consumes.field TokenId.canonical fun _ backend =>
          Consumes.field (Canonical.string maxDiagnosticChars) fun _ detail =>
            Consumes.pure ⟨rfl, backend, detail.1⟩

end BackendObservation

/-! ## Provenance -/

namespace Provenance

def write (provenance : Provenance) : Bytes :=
  [provenance.publisher.write, provenance.workerBoot.write, provenance.epoch.write,
    [Enumerated.code provenance.sourceClass], provenance.sourceGeneration.write,
    provenance.mutationAttempt.write, provenance.policyGeneration.write,
    provenance.pathAuthorityGeneration.write].flatten

def read : Reader Provenance := do
  let publisher ← TokenId.read
  let workerBoot ← FixedId.read
  let epoch ← CounterId.read
  let sourceClass ← enumerated
  let sourceGeneration ← CounterId.read
  let mutationAttempt ← FixedId.read
  let policyGeneration ← CounterId.read
  let pathAuthorityGeneration ← CounterId.read
  pure { publisher, workerBoot, epoch, sourceClass, sourceGeneration, mutationAttempt,
         policyGeneration, pathAuthorityGeneration }

structure Storable (provenance : Provenance) : Prop where
  publisher : provenance.publisher.isValid = true
  workerBoot : provenance.workerBoot.isValid = true
  epoch : provenance.epoch.Storable
  sourceGeneration : provenance.sourceGeneration.Storable
  mutationAttempt : provenance.mutationAttempt.isValid = true
  policyGeneration : provenance.policyGeneration.Storable
  pathAuthorityGeneration : provenance.pathAuthorityGeneration.Storable

theorem reads {provenance : Provenance} (fits : provenance.write.length < 2 ^ 32) :
    Reads read provenance.write provenance.Storable provenance := by
  have length : provenance.publisher.value.length < 2 ^ 32 := by
    simp [write, TokenId.write] at fits
    omega
  refine Reads.restate ?_
    (Reads.field (TokenId.reads length) fun _ =>
      Reads.field (FixedId.reads provenance.workerBoot) fun _ =>
        Reads.field (CounterId.reads provenance.epoch) fun _ =>
          Reads.field (Reads.enumerated provenance.sourceClass) fun _ =>
            Reads.field (CounterId.reads provenance.sourceGeneration) fun _ =>
              Reads.field (FixedId.reads provenance.mutationAttempt) fun _ =>
                Reads.field (CounterId.reads provenance.policyGeneration) fun _ =>
                  Reads.field (CounterId.reads provenance.pathAuthorityGeneration) fun _ =>
                    Reads.pure provenance)
  constructor
  · rintro ⟨publisher, boot, epoch, -, source, attempt, policy, path, -⟩
    exact ⟨publisher, boot, epoch, source, attempt, policy, path⟩
  · rintro ⟨publisher, boot, epoch, source, attempt, policy, path⟩
    exact ⟨publisher, boot, epoch, trivial, source, attempt, policy, path, trivial⟩

theorem canonical : Canonical read write Storable :=
  Consumes.field TokenId.canonical fun _ publisher =>
    Consumes.field FixedId.canonical fun _ boot =>
      Consumes.field CounterId.canonical fun _ epoch =>
        Consumes.field Canonical.enumerated fun _ _ =>
          Consumes.field CounterId.canonical fun _ source =>
            Consumes.field FixedId.canonical fun _ attempt =>
              Consumes.field CounterId.canonical fun _ policy =>
                Consumes.field CounterId.canonical fun _ path =>
                  Consumes.pure ⟨rfl, publisher, boot, epoch, source, attempt, policy, path⟩

end Provenance

/-! ## Supersession, retirement and history -/

namespace SupersessionRecord

def write (record : SupersessionRecord) : Bytes :=
  [[Enumerated.code record.kind], record.priorGeneration.writeOptional,
    record.successorGeneration.writeOptional, record.successorLineage.write,
    writeString record.reason, record.epoch.writeOptional].flatten

def read : Reader SupersessionRecord := do
  let kind ← enumerated
  let priorGeneration ← CounterId.readOptional
  let successorGeneration ← CounterId.readOptional
  let successorLineage ← FixedId.readOptional
  let reason ← string maxDiagnosticChars
  let epoch ← CounterId.readOptional
  pure { kind, priorGeneration, successorGeneration, successorLineage, reason, epoch }

theorem reads {record : SupersessionRecord} (fits : record.write.length < 2 ^ 32) :
    Reads read record.write (record.reason.length ≤ maxDiagnosticChars) record := by
  have length : record.reason.length < 2 ^ 32 := by
    simp [write] at fits
    omega
  exact Reads.restate (by simp)
    (Reads.field (Reads.enumerated record.kind) fun _ =>
      Reads.field (CounterId.reads_optional record.priorGeneration) fun _ =>
        Reads.field (CounterId.reads_optional record.successorGeneration) fun _ =>
          Reads.field (FixedId.reads_optional record.successorLineage) fun _ =>
            Reads.field (Reads.string length maxDiagnosticChars) fun _ =>
              Reads.field (CounterId.reads_optional record.epoch) fun _ => Reads.pure record)

theorem canonical : Canonical read write (·.reason.length ≤ maxDiagnosticChars) :=
  Consumes.field Canonical.enumerated fun _ _ =>
    Consumes.field CounterId.canonical_optional fun _ _ =>
      Consumes.field CounterId.canonical_optional fun _ _ =>
        Consumes.field FixedId.canonical_optional fun _ _ =>
          Consumes.field (Canonical.string maxDiagnosticChars) fun _ reason =>
            Consumes.field CounterId.canonical_optional fun _ _ => Consumes.pure ⟨rfl, reason.1⟩

end SupersessionRecord

namespace RetirementRecord

def write (record : RetirementRecord) : Bytes :=
  [[Enumerated.code record.cause], writeString record.reason, record.epoch.writeOptional,
    record.generation.writeOptional, record.attempt.write].flatten

def read : Reader RetirementRecord := do
  let cause ← enumerated
  let reason ← string maxDiagnosticChars
  let epoch ← CounterId.readOptional
  let generation ← CounterId.readOptional
  let attempt ← FixedId.readOptional
  pure { cause, reason, epoch, generation, attempt }

theorem reads {record : RetirementRecord} (fits : record.write.length < 2 ^ 32) :
    Reads read record.write (record.reason.length ≤ maxDiagnosticChars) record := by
  have length : record.reason.length < 2 ^ 32 := by
    simp [write] at fits
    omega
  exact Reads.restate (by simp)
    (Reads.field (Reads.enumerated record.cause) fun _ =>
      Reads.field (Reads.string length maxDiagnosticChars) fun _ =>
        Reads.field (CounterId.reads_optional record.epoch) fun _ =>
          Reads.field (CounterId.reads_optional record.generation) fun _ =>
            Reads.field (FixedId.reads_optional record.attempt) fun _ => Reads.pure record)

theorem canonical : Canonical read write (·.reason.length ≤ maxDiagnosticChars) :=
  Consumes.field Canonical.enumerated fun _ _ =>
    Consumes.field (Canonical.string maxDiagnosticChars) fun _ reason =>
      Consumes.field CounterId.canonical_optional fun _ _ =>
        Consumes.field CounterId.canonical_optional fun _ _ =>
          Consumes.field FixedId.canonical_optional fun _ _ => Consumes.pure ⟨rfl, reason.1⟩

end RetirementRecord

namespace LineageEntry

def write (entry : LineageEntry) : Bytes :=
  [entry.generation.write, entry.priorGeneration.writeOptional, [Enumerated.code entry.event],
    [Enumerated.code entry.lifecycle], [Enumerated.code entry.bindingKind], entry.path.write,
    entry.pathAuthorityGeneration.writeOptional, entry.publisher.write, entry.epoch.write].flatten

def read : Reader LineageEntry := do
  let generation ← CounterId.read
  let priorGeneration ← CounterId.readOptional
  let event ← enumerated
  let lifecycle ← enumerated
  let bindingKind ← enumerated
  let path ← FixedId.readOptional
  let pathAuthorityGeneration ← CounterId.readOptional
  let publisher ← TokenId.read
  let epoch ← CounterId.read
  pure { generation, priorGeneration, event, lifecycle, bindingKind, path, pathAuthorityGeneration,
         publisher, epoch }

structure Storable (entry : LineageEntry) : Prop where
  generation : entry.generation.Storable
  publisher : entry.publisher.isValid = true
  epoch : entry.epoch.Storable

theorem reads {entry : LineageEntry} (fits : entry.write.length < 2 ^ 32) :
    Reads read entry.write entry.Storable entry := by
  have length : entry.publisher.value.length < 2 ^ 32 := by
    simp [write, TokenId.write] at fits
    omega
  refine Reads.restate ?_
    (Reads.field (CounterId.reads entry.generation) fun _ =>
      Reads.field (CounterId.reads_optional entry.priorGeneration) fun _ =>
        Reads.field (Reads.enumerated entry.event) fun _ =>
          Reads.field (Reads.enumerated entry.lifecycle) fun _ =>
            Reads.field (Reads.enumerated entry.bindingKind) fun _ =>
              Reads.field (FixedId.reads_optional entry.path) fun _ =>
                Reads.field (CounterId.reads_optional entry.pathAuthorityGeneration) fun _ =>
                  Reads.field (TokenId.reads length) fun _ =>
                    Reads.field (CounterId.reads entry.epoch) fun _ => Reads.pure entry)
  constructor
  · rintro ⟨generation, -, -, -, -, -, -, publisher, epoch, -⟩
    exact ⟨generation, publisher, epoch⟩
  · rintro ⟨generation, publisher, epoch⟩
    exact ⟨generation, trivial, trivial, trivial, trivial, trivial, trivial, publisher, epoch,
      trivial⟩

theorem canonical : Canonical read write Storable :=
  Consumes.field CounterId.canonical fun _ generation =>
    Consumes.field CounterId.canonical_optional fun _ _ =>
      Consumes.field Canonical.enumerated fun _ _ =>
        Consumes.field Canonical.enumerated fun _ _ =>
          Consumes.field Canonical.enumerated fun _ _ =>
            Consumes.field FixedId.canonical_optional fun _ _ =>
              Consumes.field CounterId.canonical_optional fun _ _ =>
                Consumes.field TokenId.canonical fun _ publisher =>
                  Consumes.field CounterId.canonical fun _ epoch =>
                    Consumes.pure ⟨rfl, generation, publisher, epoch⟩

theorem one_le_length_write (entry : LineageEntry) : 1 ≤ entry.write.length := by
  simp [write]
  omega

end LineageEntry

/-! ## Route records -/

/-- Incremented whenever the record encoding changes. -/
def recordEncodingTag : UInt8 := 1

namespace RouteRecord

def write (record : RouteRecord) : Bytes :=
  [[recordEncodingTag], record.id.write, record.key.write, record.generation.write,
    record.authorityGeneration.write, record.invalidationWatermark.write,
    record.programmingGeneration.write, [Enumerated.code record.lifecycle], record.binding.write,
    record.applied.write, record.observation.write, record.provenance.write,
    record.supersession.write, record.retirement.write,
    writeList LineageEntry.write record.history].flatten

/-- The closing validation of the reader; its reason is the detail of the error. -/
def readValidated (record : RouteRecord) (limits : Limits) : Reader RouteRecord := fun bytes =>
  match validateRouteRecord record limits with
  | .ok () => .ok (record, bytes)
  | .error failure => .error failure.detail

def read (limits : Limits) : Reader RouteRecord := do
  let tag ← because "unsupported route record encoding tag" byte
  because "unsupported route record encoding tag" (require (tag = recordEncodingTag))
  let id ← because "malformed RouteId" FixedId.read
  let key ← because "malformed route key or destination" (RouteKey.read limits.maxDestinationChars)
  let generation ← because "malformed or zero route generation" CounterId.read
  let authorityGeneration ← because "malformed or zero route authority generation" CounterId.read
  let invalidationWatermark ← because "malformed or zero invalidation watermark" CounterId.read
  let programmingGeneration ← because "malformed or zero programming generation" CounterId.read
  let lifecycle ← because "malformed lifecycle value" enumerated
  let binding ← because "malformed route binding" RouteBinding.read
  let applied ← because "malformed applied state" AppliedState.read
  let observation ← because "malformed backend observation" BackendObservation.read
  let provenance ← because "malformed provenance" Provenance.read
  let supersession ← because "malformed supersession record" SupersessionRecord.read
  let retirement ← because "malformed retirement record" RetirementRecord.read
  let history ← listOf "malformed history count" "history exceeds the configured bound"
    limits.maxHistoryEntriesPerRoute (because "malformed history entry" LineageEntry.read)
  let record : RouteRecord :=
    { id, key, generation, authorityGeneration, invalidationWatermark, programmingGeneration,
      lifecycle, binding, applied, observation, provenance, supersession, retirement, history }
  readValidated record limits

/-- The records whose own encoding is read back. -/
structure Storable (record : RouteRecord) (limits : Limits) : Prop where
  key : record.key.destination.token.length ≤ limits.maxDestinationChars
  generation : record.generation.Storable
  authorityGeneration : record.authorityGeneration.Storable
  invalidationWatermark : record.invalidationWatermark.Storable
  programmingGeneration : record.programmingGeneration.Storable
  binding : record.binding.Storable
  applied : record.applied.Storable
  observation : record.observation.Storable
  provenance : record.provenance.Storable
  history : ∀ entry ∈ record.history, entry.Storable
  valid : record.Valid limits

theorem reads_validated (record : RouteRecord) (limits : Limits) :
    Reads (readValidated record limits) [] (record.Valid limits) record where
  accept valid rest := by
    simp [readValidated, validateRouteRecord_eq_ok.mpr valid]
  refuse invalid rest := by
    unfold readValidated
    split
    · rename_i accepted
      exact absurd (validateRouteRecord_eq_ok.mp accepted) invalid
    · exact ⟨_, rfl⟩

/-- The records whose length prefixes hold the lengths they stand for. -/
structure Measured (record : RouteRecord) : Prop where
  key : record.key.Measured
  applied : record.applied.write.length < 2 ^ 32
  observation : record.observation.write.length < 2 ^ 32
  provenance : record.provenance.write.length < 2 ^ 32
  supersession : record.supersession.write.length < 2 ^ 32
  retirement : record.retirement.write.length < 2 ^ 32
  history : record.history.length < 2 ^ 32
  entries : ∀ entry ∈ record.history, entry.write.length < 2 ^ 32

theorem measured_of_length {record : RouteRecord} (fits : record.write.length < 2 ^ 32) :
    record.Measured := by
  have lengths : record.key.write.length < 2 ^ 32 ∧ record.applied.write.length < 2 ^ 32 ∧
      record.observation.write.length < 2 ^ 32 ∧ record.provenance.write.length < 2 ^ 32 ∧
      record.supersession.write.length < 2 ^ 32 ∧ record.retirement.write.length < 2 ^ 32 ∧
      (record.history.flatMap LineageEntry.write).length < 2 ^ 32 := by
    simp only [write, List.flatten_cons, List.length_append, length_writeList] at fits
    omega
  obtain ⟨key, applied, observation, provenance, supersession, retirement, history⟩ := lengths
  exact ⟨RouteKey.measured_of_length key, applied, observation, provenance, supersession, retirement,
    (length_le_flatMap LineageEntry.one_le_length_write record.history).trans_lt history,
    fun entry member => (length_write_le member).trans_lt history⟩

/-- The encoding of a record is read back or refused. -/
theorem reads {record : RouteRecord} (measured : record.Measured) (limits : Limits) :
    Reads (read limits) record.write (record.Storable limits) record := by
  have entries : ∀ entry ∈ record.history,
      Reads (because "malformed history entry" LineageEntry.read) entry.write entry.Storable entry :=
    fun entry member => (LineageEntry.reads (measured.entries entry member)).because _
  refine Reads.restate ?_
    (Reads.field ((Reads.byte recordEncodingTag).because _) fun _ =>
      Reads.silent ((Reads.require (recordEncodingTag = recordEncodingTag)).because _) fun _ =>
      Reads.field ((FixedId.reads record.id).because _) fun _ =>
      Reads.field ((RouteKey.reads measured.key limits.maxDestinationChars).because _) fun _ =>
      Reads.field ((CounterId.reads record.generation).because _) fun _ =>
      Reads.field ((CounterId.reads record.authorityGeneration).because _) fun _ =>
      Reads.field ((CounterId.reads record.invalidationWatermark).because _) fun _ =>
      Reads.field ((CounterId.reads record.programmingGeneration).because _) fun _ =>
      Reads.field ((Reads.enumerated record.lifecycle).because _) fun _ =>
      Reads.field ((RouteBinding.reads record.binding).because _) fun _ =>
      Reads.field ((AppliedState.reads measured.applied).because _) fun _ =>
      Reads.field ((BackendObservation.reads measured.observation).because _) fun _ =>
      Reads.field ((Provenance.reads measured.provenance).because _) fun _ =>
      Reads.field ((SupersessionRecord.reads measured.supersession).because _) fun _ =>
      Reads.field ((RetirementRecord.reads measured.retirement).because _) fun _ =>
      Reads.field (Reads.listOf measured.history _ _ _ entries) fun _ => reads_validated record limits)
  constructor
  · rintro ⟨-, -, -, key, generation, authority, watermark, programming, -, binding, applied,
      observation, provenance, -, -, ⟨-, entries⟩, valid⟩
    exact ⟨key.2, generation, authority, watermark, programming, binding, applied, observation,
      provenance, entries, valid⟩
  · rintro ⟨key, generation, authority, watermark, programming, binding, applied, observation,
      provenance, entries, valid⟩
    exact ⟨trivial, rfl, valid.id, ⟨valid.key, key⟩, generation, authority, watermark, programming,
      trivial, binding, applied, observation, provenance, valid.supersessionReason,
      valid.retirementReason, ⟨valid.historyBound, entries⟩, valid⟩

theorem consumes_validated {record : RouteRecord} {limits : Limits} {related : Bytes → RouteRecord → Prop}
    (has : record.Valid limits → related [] record) :
    Consumes (readValidated record limits) related := by
  intro bytes result rest returned
  unfold readValidated at returned
  split at returned
  · rename_i accepted
    obtain ⟨rfl, rfl⟩ := Prod.mk.inj (Except.ok.inj returned)
    exact ⟨[], rfl, has (validateRouteRecord_eq_ok.mp accepted)⟩
  · cases returned

/-- The bytes consumed are the encoding of the record, which is a storable one. -/
theorem canonical (limits : Limits) : Canonical (read limits) write fun record =>
    record.Storable limits ∧ record.key.destination.token.length < 2 ^ 32 ∧
      record.history.length < 2 ^ 32 :=
  Consumes.field (Canonical.byte.because _) fun _ _ =>
    Consumes.field (Canonical.guard _ _) fun _ tag =>
      Consumes.field (FixedId.canonical.because _) fun _ _ =>
        Consumes.field ((RouteKey.canonical limits.maxDestinationChars).because _) fun _ key =>
          Consumes.field (CounterId.canonical.because _) fun _ generation =>
            Consumes.field (CounterId.canonical.because _) fun _ authority =>
              Consumes.field (CounterId.canonical.because _) fun _ watermark =>
                Consumes.field (CounterId.canonical.because _) fun _ programming =>
                  Consumes.field (Canonical.enumerated.because _) fun _ _ =>
                    Consumes.field (RouteBinding.canonical.because _) fun _ binding =>
                      Consumes.field (AppliedState.canonical.because _) fun _ applied =>
                        Consumes.field (BackendObservation.canonical.because _) fun _ observation =>
                          Consumes.field (Provenance.canonical.because _) fun _ provenance =>
                            Consumes.field (SupersessionRecord.canonical.because _) fun _ _ =>
                              Consumes.field (RetirementRecord.canonical.because _) fun _ _ =>
                                Consumes.field ((LineageEntry.canonical.because _).listOf _ _ _)
                                  fun _ history => consumes_validated fun valid =>
                                    ⟨tag ▸ rfl, ⟨key.1.2, generation, authority, watermark,
                                      programming, binding, applied, observation, provenance,
                                      history.2.2, valid⟩, key.2, history.2.1⟩

/-- Of a storable record, only the destination and the history can be too long. -/
theorem Storable.measured {record : RouteRecord} {limits : Limits} (storable : record.Storable limits)
    (token : record.key.destination.token.length < 2 ^ 32) (history : record.history.length < 2 ^ 32) :
    record.Measured where
  key := RouteKey.measured_of_isValid storable.valid.key token
  applied := by
    have backend := TokenId.length_le_of_isValid storable.applied.backend
    have detail := storable.applied.detail
    simp [AppliedState.write, TokenId.write, TokenId.maxLength, maxDiagnosticChars] at backend detail ⊢
    omega
  observation := by
    have backend := TokenId.length_le_of_isValid storable.observation.backend
    have detail := storable.observation.detail
    simp [BackendObservation.write, TokenId.write, TokenId.maxLength, maxDiagnosticChars]
      at backend detail ⊢
    omega
  provenance := by
    have publisher := TokenId.length_le_of_isValid storable.provenance.publisher
    simp [Provenance.write, TokenId.write, TokenId.maxLength] at publisher ⊢
    omega
  supersession := by
    have reason := storable.valid.supersessionReason
    simp [SupersessionRecord.write, maxDiagnosticChars] at reason ⊢
    omega
  retirement := by
    have reason := storable.valid.retirementReason
    simp [RetirementRecord.write, maxDiagnosticChars] at reason ⊢
    omega
  history := history
  entries entry member := by
    have publisher := TokenId.length_le_of_isValid (storable.history entry member).publisher
    simp [LineageEntry.write, TokenId.write, TokenId.maxLength] at publisher ⊢
    omega

/-- Exactly the storable records whose length prefixes are wide enough are read back. -/
theorem read_write_iff (record : RouteRecord) (limits : Limits) :
    read limits record.write = .ok (record, []) ↔ record.Storable limits ∧
      record.key.destination.token.length < 2 ^ 32 ∧ record.history.length < 2 ^ 32 := by
  constructor
  · intro returned
    exact ((canonical limits).whole returned).2
  · rintro ⟨storable, token, history⟩
    simpa using (reads (storable.measured token history) limits).accept storable []

theorem one_le_length_write (record : RouteRecord) : 1 ≤ record.write.length := by
  simp [write]

/-- The content that the semantic digest covers. -/
def semanticImage (record : RouteRecord) : Bytes :=
  [record.id.write, record.key.write, record.generation.write, record.authorityGeneration.write,
    record.invalidationWatermark.write, record.programmingGeneration.write,
    [Enumerated.code record.lifecycle], record.binding.write,
    [Enumerated.code record.applied.classification],
    record.applied.programmingGeneration.writeOptional,
    record.applied.programmedGeneration.writeOptional,
    record.applied.programmedAuthorityGeneration.writeOptional, record.applied.backend.write,
    [Enumerated.code record.observation.classification],
    record.observation.observedGeneration.writeOptional, record.observation.backend.write,
    record.provenance.write, record.supersession.write, record.retirement.write,
    writeList LineageEntry.write record.history].flatten

/-- The semantic digest of one route. -/
def semanticDigest (record : RouteRecord) : Digest128 :=
  let domain := asciiBytes "routefabric.route-record.v1"
  digestOfPair (mix64 (fnvUpdate (fnvUpdate fnvBasis domain) record.semanticImage))
    (mix64 (fnvUpdate (fnvUpdate fnvBasisAlt domain) record.semanticImage.reverse))

end RouteRecord

/-! ## Revocations and programming attempts -/

namespace RevocationRecord

def write (record : RevocationRecord) : Bytes :=
  [record.route.write, record.key.write, record.generation.write, record.epoch.write,
    record.attempt.write, writeString record.reason].flatten

def read (limits : Limits) : Reader RevocationRecord := do
  let route ← because "malformed revocation RouteId" FixedId.read
  let key ← because "malformed revocation route key" (RouteKey.read limits.maxDestinationChars)
  let generation ← because "malformed revocation generation" CounterId.read
  let epoch ← because "malformed revocation epoch" CounterId.read
  let attempt ← because "malformed revocation attempt identity" FixedId.read
  let reason ← because "malformed revocation reason" (string maxDiagnosticChars)
  pure { route, key, generation, epoch, attempt, reason }

structure Storable (record : RevocationRecord) (limits : Limits) : Prop where
  route : record.route.isValid = true
  key : record.key.Storable limits.maxDestinationChars
  generation : record.generation.Storable
  epoch : record.epoch.Storable
  attempt : record.attempt.isValid = true
  reason : record.reason.length ≤ maxDiagnosticChars

theorem reads {record : RevocationRecord} (fits : record.write.length < 2 ^ 32) (limits : Limits) :
    Reads (read limits) record.write (record.Storable limits) record := by
  have lengths : record.key.write.length < 2 ^ 32 ∧ record.reason.length < 2 ^ 32 := by
    simp [write] at fits
    omega
  refine Reads.restate ?_
    (Reads.field ((FixedId.reads record.route).because _) fun _ =>
      Reads.field ((RouteKey.reads (RouteKey.measured_of_length lengths.1)
        limits.maxDestinationChars).because _) fun _ =>
      Reads.field ((CounterId.reads record.generation).because _) fun _ =>
      Reads.field ((CounterId.reads record.epoch).because _) fun _ =>
      Reads.field ((FixedId.reads record.attempt).because _) fun _ =>
      Reads.field ((Reads.string lengths.2 maxDiagnosticChars).because _) fun _ => Reads.pure record)
  constructor
  · rintro ⟨route, key, generation, epoch, attempt, reason, -⟩
    exact ⟨route, key, generation, epoch, attempt, reason⟩
  · rintro ⟨route, key, generation, epoch, attempt, reason⟩
    exact ⟨route, key, generation, epoch, attempt, reason, trivial⟩

theorem canonical (limits : Limits) : Canonical (read limits) write (·.Storable limits) :=
  Consumes.field (FixedId.canonical.because _) fun _ route =>
    Consumes.field ((RouteKey.canonical limits.maxDestinationChars).because _) fun _ key =>
      Consumes.field (CounterId.canonical.because _) fun _ generation =>
        Consumes.field (CounterId.canonical.because _) fun _ epoch =>
          Consumes.field (FixedId.canonical.because _) fun _ attempt =>
            Consumes.field ((Canonical.string maxDiagnosticChars).because _) fun _ reason =>
              Consumes.pure ⟨rfl, route, key.1, generation, epoch, attempt, reason.1⟩

theorem one_le_length_write (record : RevocationRecord) : 1 ≤ record.write.length := by
  simp [write]
  omega

end RevocationRecord

namespace ProgrammingAttemptRecord

def write (record : ProgrammingAttemptRecord) : Bytes :=
  [record.attempt.write, record.route.write, record.desiredGeneration.write,
    record.programmingGeneration.write, [Enumerated.code record.operation], record.epoch.write,
    [if record.resolved then 1 else 0]].flatten

/-- A flag: any byte but zero and one is refused. -/
def boolean (raw : UInt8) : Option Bool :=
  if raw = 0 then some false else if raw = 1 then some true else none

def read : Reader ProgrammingAttemptRecord := do
  let attempt ← FixedId.read
  let route ← FixedId.read
  let desiredGeneration ← CounterId.read
  let programmingGeneration ← CounterId.read
  let operation ← enumerated
  let epoch ← CounterId.read
  let resolved ← choice boolean
  pure { attempt, route, desiredGeneration, programmingGeneration, operation, epoch, resolved }

structure Storable (record : ProgrammingAttemptRecord) : Prop where
  attempt : record.attempt.isValid = true
  route : record.route.isValid = true
  desiredGeneration : record.desiredGeneration.Storable
  programmingGeneration : record.programmingGeneration.Storable
  epoch : record.epoch.Storable

theorem reads (record : ProgrammingAttemptRecord) :
    Reads read record.write record.Storable record := by
  have flag : boolean (if record.resolved then 1 else 0) = some record.resolved := by
    cases record.resolved <;> decide
  refine Reads.restate ?_
    (Reads.field (FixedId.reads record.attempt) fun _ =>
      Reads.field (FixedId.reads record.route) fun _ =>
      Reads.field (CounterId.reads record.desiredGeneration) fun _ =>
      Reads.field (CounterId.reads record.programmingGeneration) fun _ =>
      Reads.field (Reads.enumerated record.operation) fun _ =>
      Reads.field (CounterId.reads record.epoch) fun _ =>
      Reads.field (Reads.choice flag) fun _ => Reads.pure record)
  constructor
  · rintro ⟨attempt, route, desired, programming, -, epoch, -⟩
    exact ⟨attempt, route, desired, programming, epoch⟩
  · rintro ⟨attempt, route, desired, programming, epoch⟩
    exact ⟨attempt, route, desired, programming, trivial, epoch, trivial, trivial⟩

theorem canonical_boolean :
    Canonical (choice boolean) (fun flag => [if flag then 1 else 0]) fun _ => True := by
  refine Canonical.choice fun raw flag decoded => ?_
  unfold boolean at decoded
  split at decoded
  · rename_i zero
    cases decoded
    rw [zero]
    rfl
  · split at decoded
    · rename_i one
      cases decoded
      rw [one]
      rfl
    · cases decoded

theorem canonical : Canonical read write Storable :=
  Consumes.field FixedId.canonical fun _ attempt =>
    Consumes.field FixedId.canonical fun _ route =>
      Consumes.field CounterId.canonical fun _ desired =>
        Consumes.field CounterId.canonical fun _ programming =>
          Consumes.field Canonical.enumerated fun _ _ =>
            Consumes.field CounterId.canonical fun _ epoch =>
              Consumes.field canonical_boolean fun _ _ =>
                Consumes.pure ⟨rfl, attempt, route, desired, programming, epoch⟩

theorem one_le_length_write (record : ProgrammingAttemptRecord) : 1 ≤ record.write.length := by
  simp [write]

end ProgrammingAttemptRecord

end RouteFabric
