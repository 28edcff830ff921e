import RouteFabric.Runtime.State

/-!
# Record updates

What each operation makes of a record. The updates are pure: the operations look a
record up, update it here, and hand the result to `Impl.acknowledge`.
-/

namespace RouteFabric

open ByteReader

/-- Diagnostic text cut to its bound. -/
def bounded (text : Bytes) : Bytes := text.take maxDiagnosticChars

@[simp] theorem length_bounded_le (text : Bytes) : (bounded text).length ≤ maxDiagnosticChars := by
  simp [bounded, List.length_take]

/-- A route that is not path-backed carries path authority generation one. -/
def noPathAuthority : PathAuthorityGeneration := .one

/-! ## Requests -/

structure PublishRequest where
  publisher : PublisherId
  workerBoot : WorkerBootId
  attempt : MutationAttemptId
  key : RouteKey
  binding : RouteBinding
  policyGeneration : PolicyGeneration
  expectedGeneration : RouteGeneration := .absent
  /-- Explicitly minted lineage identity, used to recreate a retired key. -/
  lineage : RouteId := {}
  reason : Bytes := []

structure WithdrawRequest where
  publisher : PublisherId
  workerBoot : WorkerBootId
  attempt : MutationAttemptId
  route : RouteId
  expectedGeneration : RouteGeneration := .absent
  reason : Bytes := []

/-- The request of a revalidation, a retirement or a revocation. -/
structure MutationRequest where
  publisher : PublisherId
  workerBoot : WorkerBootId
  attempt : MutationAttemptId
  route : RouteId
  reason : Bytes := []

/-! ## Outcomes -/

def installEvent : ProgrammingOutcome → RouteEvent
  | .applied => .backendApplied
  | .idempotent => .backendIdempotent
  | .notSupported => .backendNotSupported
  | .rejected => .backendRejected
  | .retryableFailure => .backendRetryableFailure
  | .permanentFailure => .backendPermanentFailure
  | .ambiguous => .backendAmbiguous
  | .backendUnavailable => .backendUnavailable

def withdrawEvent : ProgrammingOutcome → RouteEvent
  | .applied => .withdrawApplied
  | .idempotent => .withdrawApplied
  | _ => .withdrawFailed

def installClassification : ProgrammingOutcome → AppliedClassification
  | .applied => .applied
  | .idempotent => .idempotentAlreadyApplied
  | .notSupported => .notSupported
  | .rejected => .rejected
  | .retryableFailure => .retryableFailure
  | .permanentFailure => .permanentFailure
  | .ambiguous => .ambiguous
  | .backendUnavailable => .backendUnavailable

def withdrawClassification : ProgrammingOutcome → AppliedClassification
  | .applied => .withdrawn
  | .idempotent => .withdrawn
  | .ambiguous => .ambiguous
  | _ => .withdrawFailed

def completionEvent (operation : ProgrammingOperation) (outcome : ProgrammingOutcome) : RouteEvent :=
  if operation = .withdraw then withdrawEvent outcome else installEvent outcome

def completionClassification (operation : ProgrammingOperation) (outcome : ProgrammingOutcome) :
    AppliedClassification :=
  if operation = .withdraw then withdrawClassification outcome else installClassification outcome

namespace RouteRecord

/-! ## Counters -/

def advanceGeneration (record : RouteRecord) : Expected RouteGeneration :=
  match record.generation.next with
  | .ok next => .ok next
  | .error _ => makeError .staleGeneration "route generation would overflow"

def advanceAuthority (record : RouteRecord) : Expected RouteAuthorityGeneration :=
  match record.authorityGeneration.next with
  | .ok next => .ok next
  | .error _ => makeError .staleGeneration "route authority generation would overflow"

def advanceProgramming (record : RouteRecord) : Expected ProgrammingGeneration :=
  match record.programmingGeneration.next with
  | .ok next => .ok next
  | .error _ => makeError .staleGeneration "programming generation would overflow"

/-- The record with its generation and authority generation advanced, as every change of
intent begins. -/
def advance (record : RouteRecord) : Expected RouteRecord := do
  let generation ← record.advanceGeneration
  let authorityGeneration ← record.advanceAuthority
  pure { record with generation, authorityGeneration }

/-- Two counters of one record, each one more than those of another. -/
structure Advanced (record : RouteRecord) (generation : RouteGeneration)
    (authorityGeneration : RouteAuthorityGeneration) : Prop where
  next : generation.value = record.generation.value + 1
  nextAuthority : authorityGeneration.value = record.authorityGeneration.value + 1
  storable : generation.Storable
  storableAuthority : authorityGeneration.Storable

/-- An advance adds one to both counters and changes nothing else. -/
theorem advance_eq_ok {record updated : RouteRecord} (advanced : record.advance = .ok updated) :
    ∃ generation authorityGeneration, record.Advanced generation authorityGeneration ∧
      updated = { record with generation, authorityGeneration } := by
  simp only [advance, bind_eq_ok, pure_eq_ok] at advanced
  obtain ⟨generation, first, authorityGeneration, second, rfl⟩ := advanced
  unfold advanceGeneration at first
  unfold advanceAuthority at second
  split at first
  · rename_i next found
    split at second
    · rename_i nextAuthority foundAuthority
      obtain rfl := Except.ok.inj first
      obtain rfl := Except.ok.inj second
      obtain ⟨value, storable⟩ := CounterId.next_eq_ok found
      obtain ⟨authorityValue, authorityStorable⟩ := CounterId.next_eq_ok foundAuthority
      exact ⟨_, _, ⟨value, authorityValue, storable, authorityStorable⟩, rfl⟩
    · simp at second
  · simp at first

/-- Counters that are one more than those of a record are those an advance gives. -/
theorem advance_of_advanced {record : RouteRecord} {generation : RouteGeneration}
    {authorityGeneration : RouteAuthorityGeneration}
    (advanced : record.Advanced generation authorityGeneration) :
    record.advance = .ok { record with generation, authorityGeneration } := by
  have next : record.generation.next = .ok generation :=
    CounterId.next_of_value advanced.next advanced.storable
  have nextAuthority : record.authorityGeneration.next = .ok authorityGeneration :=
    CounterId.next_of_value advanced.nextAuthority advanced.storableAuthority
  simp [advance, advanceGeneration, advanceAuthority, next, nextAuthority]

/-- A programming generation one more than that of a record. -/
structure Programmed (record : RouteRecord) (generation : ProgrammingGeneration) : Prop where
  next : generation.value = record.programmingGeneration.value + 1
  storable : generation.Storable

theorem advanceProgramming_eq_ok {record : RouteRecord} {programmingGeneration : ProgrammingGeneration}
    (advanced : record.advanceProgramming = .ok programmingGeneration) :
    record.Programmed programmingGeneration := by
  unfold advanceProgramming at advanced
  split at advanced
  · rename_i next found
    obtain rfl := Except.ok.inj advanced
    obtain ⟨value, storable⟩ := CounterId.next_eq_ok found
    exact ⟨value, storable⟩
  · simp at advanced

/-! ## History -/

/-- The history entry of the record as it stands. -/
def lineageEntry (record : RouteRecord) (event : RouteEvent) (prior : RouteGeneration) : LineageEntry where
  generation := record.generation
  priorGeneration := prior
  event := event
  lifecycle := record.lifecycle
  bindingKind := record.binding.kind
  path := if record.binding.kind = .authorizedPath then record.binding.path else {}
  pathAuthorityGeneration :=
    if record.binding.kind = .authorizedPath then record.binding.pathAuthorityGeneration else .absent
  publisher := record.provenance.publisher
  epoch := record.provenance.epoch

/-- Appends an entry and drops the oldest ones over the limit. -/
def pushHistory (record : RouteRecord) (historyLimit : Nat) (event : RouteEvent)
    (prior : RouteGeneration) : RouteRecord :=
  let history := record.history ++ [record.lineageEntry event prior]
  { record with history := history.drop (history.length - historyLimit) }

/-! ## Intent -/

/-- The path authority generation that provenance records for a binding. -/
def provenancePathGeneration (binding : RouteBinding) : PathAuthorityGeneration :=
  if binding.kind = .authorizedPath then binding.pathAuthorityGeneration else noPathAuthority

/-- The record with a programming attempt outstanding for its current generations. -/
def dispatching (record : RouteRecord) (backend : BackendId) (attempt : ProgrammingAttemptId)
    (detail : Bytes) : RouteRecord :=
  { record with
    applied :=
      { classification := .pending
        attempt := attempt
        programmingGeneration := record.programmingGeneration
        programmedGeneration := record.generation
        programmedAuthorityGeneration := record.authorityGeneration
        backend := backend
        detail := detail }
    observation := { backend := backend } }

/-- The attempt that a dispatched record waits for. -/
def attemptFor (record : RouteRecord) (attempt : ProgrammingAttemptId)
    (operation : ProgrammingOperation) (epoch : CoordinatorEpoch) : ProgrammingAttemptRecord where
  attempt := attempt
  route := record.id
  desiredGeneration := record.generation
  programmingGeneration := record.programmingGeneration
  operation := operation
  epoch := epoch
  resolved := false

/-- The retired lineage that loses its key to a new lineage. `advanced` is the record
with its counters advanced. The supersession keeps its successor generation and the
retirement is left in place. -/
def superseded (record advanced : RouteRecord) (historyLimit : Nat) (epoch : CoordinatorEpoch)
    (request : PublishRequest) : RouteRecord :=
  pushHistory
    { advanced with
      lifecycle := .superseded
      supersession :=
        { advanced.supersession with
          kind := .lineageTakeover
          priorGeneration := record.generation
          successorLineage := request.lineage
          reason := bounded request.reason
          epoch := epoch } }
    historyLimit .supersede record.generation

/-- The record of a new lineage, declared and validated. -/
def declared (request : PublishRequest) (id : RouteId) (lifecycle : RouteLifecycle) : RouteRecord where
  id := id
  key := request.key
  generation := .one
  authorityGeneration := .one
  invalidationWatermark := .one
  programmingGeneration := .one
  lifecycle := lifecycle
  binding := request.binding
  provenance := { pathAuthorityGeneration := noPathAuthority }

/-- The published record. `prior` is the generation it replaces, if it replaces one. -/
def installing (record : RouteRecord) (historyLimit : Nat) (epoch : CoordinatorEpoch)
    (backend : BackendId) (request : PublishRequest) (prior : Option RouteGeneration)
    (lifecycle : RouteLifecycle) (programmingGeneration : ProgrammingGeneration)
    (attempt : ProgrammingAttemptId) : RouteRecord :=
  let intent : RouteRecord :=
    { record with
      binding := request.binding
      lifecycle := lifecycle
      provenance :=
        { publisher := request.publisher
          workerBoot := request.workerBoot
          epoch := epoch
          sourceClass :=
            if prior.isNone = true ∧ request.lineage.isValid = true then .lineageMint else .publisher
          sourceGeneration := record.generation
          mutationAttempt := request.attempt
          policyGeneration := request.policyGeneration
          pathAuthorityGeneration := provenancePathGeneration request.binding }
      programmingGeneration := programmingGeneration
      supersession := match prior with
        | none => {}
        | some generation =>
            { kind := .replacement
              priorGeneration := generation
              successorGeneration := record.generation
              reason := bounded request.reason
              epoch := epoch } }
  pushHistory (intent.dispatching backend attempt []) historyLimit .beginInstall (prior.getD .absent)

/-- The record with a withdrawal outstanding. -/
def withdrawing (record advanced : RouteRecord) (historyLimit : Nat) (backend : BackendId)
    (reason : Bytes) (lifecycle : RouteLifecycle) (programmingGeneration : ProgrammingGeneration)
    (attempt : ProgrammingAttemptId) : RouteRecord :=
  let intent : RouteRecord := { advanced with lifecycle, programmingGeneration }
  pushHistory (intent.dispatching backend attempt (bounded reason)) historyLimit .beginWithdraw
    record.generation

/-- The record with its own binding dispatched again under new authority. -/
def revalidating (record advanced : RouteRecord) (historyLimit : Nat) (epoch : CoordinatorEpoch)
    (backend : BackendId) (request : MutationRequest) (lifecycle : RouteLifecycle)
    (programmingGeneration : ProgrammingGeneration) (attempt : ProgrammingAttemptId) : RouteRecord :=
  let intent : RouteRecord :=
    { advanced with
      lifecycle := lifecycle
      provenance :=
        { publisher := request.publisher
          workerBoot := request.workerBoot
          epoch := epoch
          sourceClass := .publisher
          sourceGeneration := advanced.generation
          mutationAttempt := request.attempt
          policyGeneration := advanced.binding.policyGeneration
          pathAuthorityGeneration := provenancePathGeneration advanced.binding }
      programmingGeneration := programmingGeneration }
  pushHistory (intent.dispatching backend attempt (bounded request.reason)) historyLimit .beginInstall
    record.generation

/-- The record of a lineage that was closed, by retirement or by revocation. -/
def closed (record advanced : RouteRecord) (historyLimit : Nat) (epoch : CoordinatorEpoch)
    (request : MutationRequest) (lifecycle : RouteLifecycle) (cause : RetirementCause)
    (event : RouteEvent) : RouteRecord :=
  pushHistory
    { advanced with
      lifecycle := lifecycle
      retirement :=
        { cause := cause
          reason := bounded request.reason
          epoch := epoch
          generation := advanced.generation
          attempt := request.attempt } }
    historyLimit event record.generation

/-- The record of a route whose path lost its authority. -/
def invalidated (record advanced : RouteRecord) (historyLimit : Nat)
    (generation : PathAuthorityGeneration) (lifecycle : RouteLifecycle) : RouteRecord :=
  pushHistory
    { advanced with
      invalidationWatermark := advanced.authorityGeneration
      provenance := { advanced.provenance with pathAuthorityGeneration := generation }
      lifecycle := lifecycle }
    historyLimit .requireRevalidation record.generation

/-! ## Evidence -/

/-- The record with the outcome of an attempt. -/
def completed (record : RouteRecord) (historyLimit : Nat) (backend : BackendId)
    (attempt : ProgrammingAttemptRecord) (result : ProgrammingResult) (lifecycle : RouteLifecycle) :
    RouteRecord :=
  pushHistory
    { record with
      lifecycle := lifecycle
      applied :=
        { classification := completionClassification attempt.operation result.outcome
          attempt := result.attempt
          programmingGeneration := attempt.programmingGeneration
          programmedGeneration := attempt.desiredGeneration
          programmedAuthorityGeneration := record.authorityGeneration
          backend := if result.backend.isValid then result.backend else backend
          detail := bounded result.detail } }
    historyLimit (completionEvent attempt.operation result.outcome) .absent

/-- The event that recovery raises for an attempt of unknown outcome. -/
def recoveryEvent (operation : ProgrammingOperation) : RouteEvent :=
  if operation = .withdraw then .withdrawFailed else .backendAmbiguous

/-- The record of a route whose attempt was outstanding when the process ended. -/
def recovered (record : RouteRecord) (historyLimit : Nat) (backend : BackendId)
    (attempt : ProgrammingAttemptRecord) : RouteRecord :=
  pushHistory
    { record with
      lifecycle :=
        (nextLifecycle record.lifecycle (recoveryEvent attempt.operation)).getD .revalidationRequired
      applied :=
        { classification := .ambiguous
          attempt := attempt.attempt
          programmingGeneration := attempt.programmingGeneration
          programmedGeneration := attempt.desiredGeneration
          programmedAuthorityGeneration := record.authorityGeneration
          backend := backend
          detail := asciiBytes "unresolved programming attempt recovered after restart" } }
    historyLimit (recoveryEvent attempt.operation) .absent

/-- What a backend query says about a record. -/
def observationClass (record : RouteRecord) (query : BackendQueryResult) : ObservationClass :=
  let desiredPresent := record.lifecycle = .installed ∨ record.lifecycle = .installing ∨
    record.lifecycle = .revalidationRequired
  if query.presence = .unavailable then .unavailable
  else if query.presence = .unknown then .unknown
  else if query.observedGeneration.isValid = true ∧ query.observedGeneration ≠ record.generation then
    .diverged
  else if query.presence = .present then if desiredPresent then .matched else .extra
  else if desiredPresent then .missing else .matched

/-- The record with a backend query recorded as evidence. -/
def observed (record : RouteRecord) (backend : BackendId) (query : BackendQueryResult) : RouteRecord :=
  { record with
    observation :=
      { classification := record.observationClass query
        attempt := record.applied.attempt
        observedGeneration :=
          if query.observedGeneration.isValid = true ∧
              query.observedGeneration.value ≤ record.generation.value then query.observedGeneration
          else .absent
        backend := if query.backend.isValid then query.backend else backend
        detail := bounded query.detail } }

end RouteRecord

end RouteFabric
