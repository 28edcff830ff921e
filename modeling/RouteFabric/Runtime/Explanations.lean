import RouteFabric.Wire.Messages

/-!
# Explanations

An explanation is a snapshot of a record with the texts that say why it is current or not: one text
for each of the questions that decide it, in the words of the runtime.
-/

namespace RouteFabric

open ByteReader OrderedMap

/-! ## Names and renderings -/

def RouteCurrentness.text : RouteCurrentness → String
  | current => "CURRENT"
  | notInstalled => "NOT_INSTALLED"
  | revalidationRequired => "REVALIDATION_REQUIRED"
  | staleEpoch => "STALE_EPOCH"
  | stalePublisher => "STALE_PUBLISHER"
  | staleWorkerBoot => "STALE_WORKER_BOOT"
  | stalePathAuthority => "STALE_PATH_AUTHORITY"
  | staleBackendObservation => "STALE_BACKEND_OBSERVATION"
  | fencedPublisher => "FENCED_PUBLISHER"
  | pathAuthorityRejected => "PATH_AUTHORITY_REJECTED"
  | withdrawn => "WITHDRAWN"
  | retired => "RETIRED"
  | superseded => "SUPERSEDED"
  | failed => "FAILED"
  | revoked => "REVOKED"
  | desiredAppliedMismatch => "DESIRED_APPLIED_MISMATCH"

def AppliedClassification.text : AppliedClassification → String
  | unknown => "UNKNOWN"
  | pending => "PENDING"
  | applied => "APPLIED"
  | idempotentAlreadyApplied => "IDEMPOTENT_ALREADY_APPLIED"
  | rejected => "REJECTED"
  | notSupported => "NOT_SUPPORTED"
  | retryableFailure => "RETRYABLE_FAILURE"
  | permanentFailure => "PERMANENT_FAILURE"
  | ambiguous => "AMBIGUOUS"
  | withdrawn => "WITHDRAWN"
  | withdrawFailed => "WITHDRAW_FAILED"
  | backendUnavailable => "BACKEND_UNAVAILABLE"

def ObservationClass.text : ObservationClass → String
  | unknown => "UNKNOWN"
  | matched => "MATCHED"
  | missing => "MISSING"
  | diverged => "DIVERGED"
  | extra => "EXTRA"
  | unavailable => "UNAVAILABLE"

def SupersessionKind.text : SupersessionKind → String
  | none => "none"
  | replacement => "replacement"
  | lineageTakeover => "lineage-takeover"

def RetirementCause.text : RetirementCause → String
  | none => "none"
  | administrative => "administrative"
  | revoked => "revoked"
  | supersededByLineage => "superseded-by-lineage"
  | epochInvalidated => "epoch-invalidated"

/-- The bytes of an identity in hexadecimal. -/
def FixedId.render {tag : FixedTag} (id : FixedId tag) : Bytes :=
  id.write.flatMap fun byte =>
    asciiBytes (String.ofList [Nat.digitChar (byte.toNat / 16), Nat.digitChar (byte.toNat % 16)])

def CounterId.renderBytes {tag : CounterTag} (counter : CounterId tag) : Bytes :=
  asciiBytes counter.render

/-- A rendering, or the word that stands for a missing value. -/
def orNone (given : Bool) (rendering : Bytes) : Bytes :=
  if given then rendering else asciiBytes "none"

namespace Impl

/-! ## The texts of an explanation -/

def authorityReason (state : Impl) (record : RouteRecord) (currentness : RouteCurrentness) : Bytes :=
  [asciiBytes "route ", record.id.render, asciiBytes " is ",
    asciiBytes (if currentness = .current then "authoritative" else "not authoritative"),
    asciiBytes "; lifecycle=", asciiBytes record.lifecycle.text,
    asciiBytes " currentness=", asciiBytes currentness.text,
    asciiBytes " owner=", record.provenance.publisher.value,
    asciiBytes " worker-boot=", record.provenance.workerBoot.render,
    asciiBytes " epoch=", record.provenance.epoch.renderBytes,
    match state.registrations[record.provenance.publisher]? with
    | none => asciiBytes " registration=none"
    | some registration =>
        [asciiBytes " registration-epoch=", registration.epoch.renderBytes,
          asciiBytes " registration-boot=", registration.workerBoot.render].flatten].flatten

def currentnessReason (state : Impl) (record : RouteRecord) : RouteCurrentness → Bytes
  | .current => asciiBytes
      "the backend reported the desired binding as applied and live authority is current"
  | .notInstalled => asciiBytes "the route has no applied backend outcome yet"
  | .revalidationRequired => asciiBytes
      "the applied state cannot be proven; an explicit revalidation is required"
  | .staleEpoch =>
      [asciiBytes "the route was published under epoch ", record.provenance.epoch.renderBytes,
        asciiBytes " and the coordinator epoch is now ", state.epoch.renderBytes].flatten
  | .stalePublisher => asciiBytes
      "the owning publisher has no live registration after restart or fencing"
  | .staleWorkerBoot => asciiBytes
      "the owning worker boot is not the currently registered boot for the publisher"
  | .stalePathAuthority => asciiBytes
      "the bound path authority generation is no longer the current generation"
  | .staleBackendObservation => asciiBytes "backend reconciliation observed a divergent state"
  | .fencedPublisher => asciiBytes "the producing worker boot has been fenced"
  | .pathAuthorityRejected => asciiBytes "path authority no longer authorizes the bound path"
  | .withdrawn => asciiBytes "the route was withdrawn and the backend reported it removed"
  | .retired => asciiBytes "the route lineage is retired"
  | .superseded => asciiBytes "the route lineage was superseded by a successor lineage"
  | .failed => asciiBytes "the backend definitively refused the desired binding"
  | .revoked => asciiBytes "the route was administratively revoked"
  | .desiredAppliedMismatch => asciiBytes
      "reconciliation found the desired route missing from the backend"

def lifecycleReason (record : RouteRecord) : Bytes :=
  [asciiBytes "lifecycle=", asciiBytes record.lifecycle.text,
    asciiBytes " generation=", record.generation.renderBytes,
    asciiBytes " authority-generation=", record.authorityGeneration.renderBytes,
    asciiBytes " invalidation-watermark=", record.invalidationWatermark.renderBytes,
    asciiBytes " history=", asciiBytes (toString record.history.length),
    match record.history.getLast? with
    | none => []
    | some last => asciiBytes " last-event=" ++ asciiBytes last.event.text].flatten

def pathAuthorityReason (env : Env) (record : RouteRecord) : Bytes :=
  if record.binding.kind = .authorizedPath then
    [asciiBytes "path=", record.binding.path.render,
      asciiBytes " bound-generation=", record.binding.pathAuthorityGeneration.renderBytes,
      asciiBytes " current-generation=", (env.query record.binding.path).generation.renderBytes,
      asciiBytes " state=", asciiBytes (env.query record.binding.path).state.text].flatten
  else asciiBytes "the binding is not path-backed; no path authority is involved"

def backendReason (record : RouteRecord) : Bytes :=
  [asciiBytes "backend=", record.applied.backend.value,
    asciiBytes " applied=", asciiBytes record.applied.classification.text,
    asciiBytes " attempt=", orNone record.applied.attempt.isValid record.applied.attempt.render,
    asciiBytes " programmed-generation=",
    orNone record.applied.programmedGeneration.isValid record.applied.programmedGeneration.renderBytes,
    asciiBytes " programming-generation=", record.programmingGeneration.renderBytes,
    asciiBytes " detail=", orNone (record.applied.detail ≠ []) record.applied.detail].flatten

def reconciliationReason (record : RouteRecord) : Bytes :=
  [asciiBytes "observation=", asciiBytes record.observation.classification.text,
    asciiBytes " backend=", record.observation.backend.value,
    asciiBytes " detail=", orNone (record.observation.detail ≠ []) record.observation.detail,
    asciiBytes " backend-matched-desired=",
    asciiBytes (if record.observation.classification = .matched then "yes" else "no")].flatten

def supersessionReason (record : RouteRecord) : Bytes :=
  if record.supersession.kind = .none then asciiBytes "none"
  else
    [asciiBytes "kind=", asciiBytes record.supersession.kind.text,
      asciiBytes " prior-generation=",
      orNone record.supersession.priorGeneration.isValid record.supersession.priorGeneration.renderBytes,
      asciiBytes " successor-generation=",
      orNone record.supersession.successorGeneration.isValid
        record.supersession.successorGeneration.renderBytes,
      asciiBytes " successor-lineage=",
      orNone record.supersession.successorLineage.isValid record.supersession.successorLineage.render,
      asciiBytes " reason=", record.supersession.reason].flatten

def retirementReason (state : Impl) (record : RouteRecord) : Bytes :=
  if record.retirement.cause = .none then asciiBytes "none"
  else
    [asciiBytes "cause=", asciiBytes record.retirement.cause.text,
      asciiBytes " generation=",
      orNone record.retirement.generation.isValid record.retirement.generation.renderBytes,
      asciiBytes " epoch=", orNone record.retirement.epoch.isValid record.retirement.epoch.renderBytes,
      asciiBytes " reason=", record.retirement.reason,
      asciiBytes " revocation=",
      orNone (state.revocations[record.id]?).isSome (asciiBytes "durable")].flatten

def explain (env : Env) (state : Impl) (record : RouteRecord) : RouteExplanation :=
  let currentness := state.currentnessOf env record
  { snapshot := makeSnapshot record currentness
    authoritative := currentness = .current
    authorityReason := state.authorityReason record currentness
    currentnessReason := state.currentnessReason record currentness
    lifecycleReason := lifecycleReason record
    pathAuthorityReason := pathAuthorityReason env record
    backendReason := backendReason record
    reconciliationReason := reconciliationReason record
    supersessionReason := supersessionReason record
    retirementReason := state.retirementReason record }

def explainRouteById (env : Env) (state : Impl) (route : RouteId) : Expected RouteExplanation :=
  match state.routes[route]? with
  | none => makeError .notFound "no route with that identity"
  | some record => .ok (state.explain env record)

def explainRoute (env : Env) (state : Impl) (key : RouteKey) : Expected RouteExplanation :=
  match state.keyIndex[key]? with
  | none => makeError .notFound "no route for that key"
  | some route =>
      match state.routes[route]? with
      | none => makeError .notFound "no route for that key"
      | some record => .ok (state.explain env record)

end Impl

end RouteFabric
