import RouteFabric.Runtime.Records

/-!
# Runtime operations

The operations of the coordinator. Each one that dispatches to the backend is split, as
the source releases its lock there: the locked part commits the intent and returns it,
the backend call happens outside, and `applyCompletion` takes the outcome in.
-/

namespace RouteFabric

open ByteReader OrderedMap

/-! ## Results -/

structure PublishResult where
  route : RouteId
  generation : RouteGeneration
  authorityGeneration : RouteAuthorityGeneration
  lifecycle : RouteLifecycle
  applied : AppliedClassification
  currentness : RouteCurrentness
  idempotent : Bool := false
  replaced : Bool := false

structure WithdrawOutcome where
  route : RouteId
  generation : RouteGeneration
  lifecycle : RouteLifecycle
  applied : AppliedClassification
  alreadyWithdrawn : Bool := false
  withdrawalInFlight : Bool := false

inductive CompletionDisposition where
  | applied
  | stale
  | unknownAttempt
  | routeMissing
  | lifecycleRejected
deriving DecidableEq

/-- An intent that was committed and is still to be dispatched. -/
structure Intent where
  route : RouteId
  attempt : ProgrammingAttemptRecord
  previouslyInstalled : Bool
  replaced : Bool := false

def withdrawOutcome (record : RouteRecord) : WithdrawOutcome where
  route := record.id
  generation := record.generation
  lifecycle := record.lifecycle
  applied := record.applied.classification

def reentrancyDetail : String :=
  "the path authority implementation called back into RouteFabricRuntime"

namespace Impl

def publishResult (env : Env) (state : Impl) (record : RouteRecord) : PublishResult where
  route := record.id
  generation := record.generation
  authorityGeneration := record.authorityGeneration
  lifecycle := record.lifecycle
  applied := record.applied.classification
  currentness := state.currentnessOf env record

/-! ## Checks shared by the mutations -/

def validateCommon (publisher : PublisherId) (workerBoot : WorkerBootId) (attempt : MutationAttemptId) :
    Status := do
  ensure (publisher.isValid = true) .invalidArgument "PublisherId must be supplied"
  ensure (workerBoot.isValid = true) .invalidArgument "WorkerBootId must be supplied"
  ensure (attempt.isValid = true) .invalidArgument "MutationAttemptId must be supplied"

def checkReason (reason : Bytes) : Status :=
  ensure (reason.length ≤ maxDiagnosticChars) .limitExceeded
    "the reason text exceeds the configured bound"

def checkOpened (state : Impl) : Status :=
  ensure (state.opened = true) .notOpen "the runtime is not open"

def checkScope (registration : PublisherRegistration) (key : RouteKey) : Status :=
  ensure (registration.scope.covers key = true) .scopeViolation
    ("publisher scope does not cover route key " ++ key.render)

/-- The path authority must authorize a path-backed binding at its exact generation. -/
def checkPath (env : Env) (binding : RouteBinding) (staleDetail : String) : Status :=
  if binding.kind = .authorizedPath then do
    ensure (env.reentered = false) .reentrancyViolation reentrancyDetail
    ensure ((env.query binding.path).generation = binding.pathAuthorityGeneration) .pathAuthorityStale
      staleDetail
    ensure ((env.query binding.path).state = .usable) .pathAuthorityRejected
      ("path authority reports " ++ (env.query binding.path).state.text)
  else .ok ()

/-- The closing steps of every mutation that dispatches: validation, the bound on
outstanding attempts, the write, and the commit with its attempt. -/
def commitIntent (config : RuntimeConfig) (io : IoOutcome) (state : Impl) (record : RouteRecord)
    (attempt : ProgrammingAttemptRecord) : Impl × Status :=
  match (do
      validateRouteRecord record config.limits
      ensure (state.outstandingProgramming < config.limits.maxOutstandingProgramming) .limitExceeded
        "the outstanding programming limit has been reached" : Status) with
  | .error failure => (state, .error failure)
  | .ok () => state.acknowledge config io { upserts := [record], attempts := [attempt] }

/-! ## Publication -/

/-- The record that the key index names for a key. -/
def lookupKey (state : Impl) (key : RouteKey) : Option RouteRecord :=
  state.keyIndex[key]?.bind fun id => state.routes[id]?

/-- The checks before a publication looks at records. -/
def publishAuthority (state : Impl) (request : PublishRequest) : Expected PublisherRegistration := do
  validateCommon request.publisher request.workerBoot request.attempt
  ensure (request.key.isValid = true) .invalidArgument "the route key is not valid"
  ensure (request.binding.isValid = true) .invalidArgument "the desired binding is not valid"
  ensure (request.policyGeneration.isValid = true) .invalidArgument "a policy generation is required"
  checkReason request.reason
  state.checkOpened
  let registration ← state.authorize request.publisher request.workerBoot
  checkScope registration request.key
  pure registration

/-- The lineage that a publication supersedes. -/
def takeover (config : RuntimeConfig) (state : Impl) (registration : PublisherRegistration)
    (request : PublishRequest) (record : RouteRecord) : Expected RouteRecord := do
  ensure (registration.scope.administrativeOverride = true ∧ request.lineage.isValid = true) .retired
    "the previous lineage for this route key is no longer usable; an explicit new lineage is required"
  ensure (request.lineage ≠ record.id) .conflict
    "a new lineage identity must differ from the retired lineage"
  let advanced ← record.advance
  pure (record.superseded advanced config.historyLimit state.epoch request)

/-- The identity of a created route: the requested lineage, or the digest of the key. -/
def createdId (request : PublishRequest) : RouteId :=
  if request.lineage.isValid then request.lineage else deriveRouteId request.key

/-- The lifecycle of a declared route after its validation. -/
def declaredLifecycle : Expected RouteLifecycle :=
  match (do applyEvent (← applyEvent .declared .beginValidation) .validationAccepted) with
  | .ok lifecycle => .ok lifecycle
  | .error _ => makeError .internal "the declared lifecycle could not be validated"

def createRecord (config : RuntimeConfig) (state : Impl) (request : PublishRequest) :
    Expected RouteRecord := do
  ensure (state.routes.size < config.limits.maxRoutes) .limitExceeded
    "the route capacity limit has been reached"
  ensure (¬ (state.namespaceCounts[request.key.routingNamespace]? = none ∧
      config.limits.maxRoutingNamespaces ≤ state.namespaceCounts.size)) .limitExceeded
    "the routing namespace limit has been reached"
  let lifecycle ← declaredLifecycle
  pure (.declared request (createdId request) lifecycle)

/-- The checks of a publication that replaces a live record. -/
def checkReplacement (registration : PublisherRegistration) (request : PublishRequest)
    (record : RouteRecord) : Status := do
  ensure (record.provenance.publisher = request.publisher ∨
      registration.scope.administrativeOverride = true) .conflict
    "the route key is exclusively owned by another publisher; administrative override is required"
  ensure (¬ (request.expectedGeneration.isValid = true ∧
      request.expectedGeneration ≠ record.generation)) .staleGeneration
    ("expected generation " ++ request.expectedGeneration.render ++
      " does not match the current generation " ++ record.generation.render)

/-- An exact replay advances nothing and dispatches nothing. -/
def isReplay (request : PublishRequest) (record : RouteRecord) : Bool :=
  record.binding = request.binding ∧ record.provenance.publisher = request.publisher ∧
    record.provenance.workerBoot = request.workerBoot ∧
    (record.lifecycle = .installed ∨ record.lifecycle = .installing)

/-- The checks of a publication on the record it is about to install: the path authority,
the lifecycle and the programming generation. -/
def prepareInstall (env : Env) (request : PublishRequest) (record : RouteRecord) :
    Expected (RouteLifecycle × ProgrammingGeneration) := do
  checkPath env request.binding
    ("the bound path authority generation " ++ request.binding.pathAuthorityGeneration.render ++
      " is not the current generation " ++ (env.query request.binding.path).generation.render)
  let lifecycle ← applyEvent record.lifecycle .beginInstall
  let programmingGeneration ← record.advanceProgramming
  pure (lifecycle, programmingGeneration)

/-- Commits the intent of a publication. `prior` is the record it replaces. -/
def publishIntent (config : RuntimeConfig) (env : Env) (request : PublishRequest)
    (prior : Option RouteRecord) (record : RouteRecord) (state : Impl) :
    Impl × Expected (PublishResult ⊕ Intent) :=
  match prepareInstall env request record with
  | .error failure => (state, .error failure)
  | .ok (lifecycle, programmingGeneration) =>
      let drawn : ProgrammingAttemptId × SeededIdSource := generateId state.ids
      let updated := record.installing config.historyLimit state.epoch env.backend.id request
        (prior.map (·.generation)) lifecycle programmingGeneration drawn.1
      let attempt := updated.attemptFor drawn.1
        (if prior.isSome then .replace else .install) state.epoch
      match commitIntent config (env.io 1) { state with ids := drawn.2 } updated attempt with
      | (after, .error failure) => (after, .error failure)
      | (after, .ok ()) =>
          (after, .ok (.inr ⟨updated.id, attempt,
            (prior.map (·.applied.reportsApplied)).getD false, prior.isSome⟩))

def publishCreate (config : RuntimeConfig) (env : Env) (request : PublishRequest) (state : Impl) :
    Impl × Expected (PublishResult ⊕ Intent) :=
  match state.createRecord config request with
  | .error failure => (state, .error failure)
  | .ok record => publishIntent config env request none record state

def publishReplace (config : RuntimeConfig) (env : Env) (registration : PublisherRegistration)
    (request : PublishRequest) (record : RouteRecord) (state : Impl) :
    Impl × Expected (PublishResult ⊕ Intent) :=
  match checkReplacement registration request record with
  | .error failure => (state, .error failure)
  | .ok () =>
      if isReplay request record then
        (state, .ok (.inl { state.publishResult env record with idempotent := true }))
      else match record.advance with
        | .error failure => (state, .error failure)
        | .ok advanced => publishIntent config env request (some record) advanced state

/-- The locked part of a publication. A takeover commits the superseded lineage before
the new one is created. -/
def publishLocked (config : RuntimeConfig) (env : Env) (request : PublishRequest) (state : Impl) :
    Impl × Expected (PublishResult ⊕ Intent) :=
  match state.publishAuthority request with
  | .error failure => (state, .error failure)
  | .ok registration =>
      let record := (state.lookupKey request.key).getD {}
      if record.id.isValid = false then publishCreate config env request state
      else if (state.revocations[record.id]?).isSome then
        (state, makeError .revoked
          "the route key has been administratively revoked and cannot be recreated")
      else if record.blocksRepublication then
        match state.takeover config registration request record with
        | .error failure => (state, .error failure)
        | .ok superseded =>
            match state.acknowledge config (env.io 0) { upserts := [superseded] } with
            | (after, .error failure) => (after, .error failure)
            | (after, .ok ()) => publishCreate config env request after
      else publishReplace config env registration request record state

/-! ## Completions -/

/-- An attempt is overtaken when the route, the epoch or the route's standing moved on. -/
def overtaken (state : Impl) (attempt : ProgrammingAttemptRecord) (record : RouteRecord) : Bool :=
  attempt.programmingGeneration ≠ record.programmingGeneration ∨
    attempt.desiredGeneration ≠ record.generation ∨ attempt.epoch ≠ state.epoch ∨
    record.lifecycle = .retired ∨ record.lifecycle = .superseded ∨
    (state.revocations[record.id]?).isSome = true

/-- Takes the outcome of a programming attempt in. -/
def applyCompletion (config : RuntimeConfig) (io : IoOutcome) (backend : BackendId)
    (result : ProgrammingResult) (state : Impl) : Impl × CompletionDisposition :=
  match state.attempts[result.attempt]? with
  | none => (state, .unknownAttempt)
  | some attempt =>
      if attempt.resolved then (state, .stale)
      else match state.routes[attempt.route]? with
        | none => (state, .routeMissing)
        | some record =>
            let resolved := { attempt with resolved := true }
            if state.overtaken attempt record then
              match state.acknowledge config io { attempts := [resolved] } with
              | (after, .error _) => (after, .lifecycleRejected)
              | (after, .ok ()) => (after, .stale)
            else match nextLifecycle record.lifecycle (completionEvent attempt.operation result.outcome) with
              | none => ((state.acknowledge config io { attempts := [resolved] }).1, .lifecycleRejected)
              | some lifecycle =>
                  let updated := record.completed config.historyLimit backend attempt result lifecycle
                  match state.acknowledge config io { upserts := [updated], attempts := [resolved] } with
                  | (after, .error _) => (after, .lifecycleRejected)
                  | (after, .ok ()) => (after, .applied)

structure ProgrammingCompletion where
  attempt : ProgrammingAttemptId
  outcome : ProgrammingOutcome
  detail : Bytes := []

/-- A completion that arrives after the dispatch window. -/
def applyProgrammingCompletion (config : RuntimeConfig) (env : Env) (completion : ProgrammingCompletion)
    (state : Impl) : Impl × Expected CompletionDisposition :=
  match (do
      ensure (completion.attempt.isValid = true) .invalidArgument
        "a programming attempt identity is required"
      ensure (completion.detail.length ≤ maxDiagnosticChars) .limitExceeded
        "the detail text exceeds the configured bound"
      state.checkOpened : Status) with
  | .error failure => (state, .error failure)
  | .ok () =>
      let completed := state.applyCompletion config (env.io 0) env.backend.id
        { outcome := completion.outcome, attempt := completion.attempt, backend := env.backend.id,
          detail := completion.detail }
      (completed.1, .ok completed.2)

/-! ## Dispatch -/

def makeProgrammingRequest (state : Impl) (record : RouteRecord) (intent : Intent) :
    RouteProgrammingRequest where
  operation := intent.attempt.operation
  attempt := intent.attempt.attempt
  programmingGeneration := intent.attempt.programmingGeneration
  route := record.id
  key := record.key
  binding := record.binding
  desiredGeneration := record.generation
  authorityGeneration := record.authorityGeneration
  epoch := state.epoch
  publisher := record.provenance.publisher
  workerBoot := record.provenance.workerBoot
  previouslyInstalled := intent.previouslyInstalled

def dispatch (backend : Backend) (request : RouteProgrammingRequest) : ProgrammingDispatch :=
  match request.operation with
  | .install => backend.installRoute request
  | .replace => backend.replaceRoute request
  | .withdraw => backend.withdrawRoute request

/-- Hands a committed intent to the backend and takes an immediate outcome in. -/
def runDispatch (config : RuntimeConfig) (env : Env) (intent : Intent) (state : Impl) :
    Impl × CompletionDisposition :=
  match state.routes[intent.route]? with
  | none => (state, .routeMissing)
  | some record =>
      let dispatched := dispatch env.backend (state.makeProgrammingRequest record intent)
      if dispatched.deferred then (state, .applied)
      else state.applyCompletion config (env.io 2) env.backend.id dispatched.immediate

/-- What a call reports after its dispatch: the record as it is then. -/
def reportDispatch {α : Type} (config : RuntimeConfig) (env : Env) (intent : Intent) (state : Impl)
    (report : Impl → RouteRecord → α) : Impl × Expected α :=
  let completed := state.runDispatch config env intent
  let missing : Expected α := makeError .internal "the committed route record disappeared"
  if completed.2 = .routeMissing then (completed.1, missing)
  else match completed.1.routes[intent.route]? with
    | none => (completed.1, missing)
    | some record => (completed.1, .ok (report completed.1 record))

def publishRoute (config : RuntimeConfig) (env : Env) (request : PublishRequest) (state : Impl) :
    Impl × Expected PublishResult :=
  match state.publishLocked config env request with
  | (after, .error failure) => (after, .error failure)
  | (after, .ok (.inl result)) => (after, .ok result)
  | (after, .ok (.inr intent)) =>
      after.reportDispatch config env intent fun final record =>
        { final.publishResult env record with replaced := intent.replaced }

/-! ## Withdrawal, revalidation, retirement, revocation -/

def prepareLifecycleMutation (state : Impl) (route : RouteId) (publisher : PublisherId)
    (workerBoot : WorkerBootId) : Expected RouteRecord :=
  match state.routes[route]? with
  | none => makeError .notFound "no route with that identity"
  | some record => do
      let registration ← state.authorize publisher workerBoot
      checkScope registration record.key
      ensure (record.provenance.publisher = publisher ∨
          registration.scope.administrativeOverride = true) .conflict
        "the route is exclusively owned by another publisher; administrative override is required"
      ensure ((state.revocations[record.id]?).isSome = false) .revoked
        "the route has been administratively revoked"
      ensure (record.lifecycle ≠ .retired) .retired "the route lineage is retired"
      ensure (record.lifecycle ≠ .superseded) .retired "the route lineage has been superseded"
      pure record

/-- The checks before a mutation by identity looks at its record. -/
def checkMutation (state : Impl) (publisher : PublisherId) (workerBoot : WorkerBootId)
    (attempt : MutationAttemptId) (route : RouteId) (reason : Bytes) : Status := do
  validateCommon publisher workerBoot attempt
  ensure (route.isValid = true) .invalidArgument "a route identity is required"
  checkReason reason
  state.checkOpened

/-- The record that a withdrawal addresses. -/
def withdrawTarget (state : Impl) (request : WithdrawRequest) : Expected RouteRecord := do
  state.checkMutation request.publisher request.workerBoot request.attempt request.route request.reason
  let record ← state.prepareLifecycleMutation request.route request.publisher request.workerBoot
  ensure (¬ (request.expectedGeneration.isValid = true ∧
      request.expectedGeneration ≠ record.generation)) .staleGeneration
    ("expected generation " ++ request.expectedGeneration.render ++
      " does not match the current generation " ++ record.generation.render)
  pure record

/-- The advanced record, its next lifecycle and its next programming generation. -/
def prepareDispatch (record : RouteRecord) (event : RouteEvent) :
    Expected (RouteRecord × RouteLifecycle × ProgrammingGeneration) := do
  let advanced ← record.advance
  let lifecycle ← applyEvent advanced.lifecycle event
  let programmingGeneration ← record.advanceProgramming
  pure (advanced, lifecycle, programmingGeneration)

/-- The locked part of a withdrawal. A repeated withdrawal dispatches nothing. -/
def withdrawLocked (config : RuntimeConfig) (env : Env) (request : WithdrawRequest) (state : Impl) :
    Impl × Expected (WithdrawOutcome ⊕ Intent) :=
  match state.withdrawTarget request with
  | .error failure => (state, .error failure)
  | .ok record =>
      if record.lifecycle = .withdrawn then
        (state, .ok (.inl { withdrawOutcome record with alreadyWithdrawn := true }))
      else if record.lifecycle = .withdrawing then
        (state, .ok (.inl { withdrawOutcome record with withdrawalInFlight := true }))
      else match prepareDispatch record .beginWithdraw with
        | .error failure => (state, .error failure)
        | .ok (advanced, lifecycle, programmingGeneration) =>
            let drawn : ProgrammingAttemptId × SeededIdSource := generateId state.ids
            let updated := record.withdrawing advanced config.historyLimit env.backend.id
              request.reason lifecycle programmingGeneration drawn.1
            let attempt := updated.attemptFor drawn.1 .withdraw state.epoch
            match commitIntent config (env.io 1) { state with ids := drawn.2 } updated attempt with
            | (after, .error failure) => (after, .error failure)
            | (after, .ok ()) =>
                (after, .ok (.inr ⟨updated.id, attempt, record.applied.reportsApplied, false⟩))

def withdrawRoute (config : RuntimeConfig) (env : Env) (request : WithdrawRequest) (state : Impl) :
    Impl × Expected WithdrawOutcome :=
  match state.withdrawLocked config env request with
  | (after, .error failure) => (after, .error failure)
  | (after, .ok (.inl outcome)) => (after, .ok outcome)
  | (after, .ok (.inr intent)) =>
      after.reportDispatch config env intent fun _ record => withdrawOutcome record

/-- The record that a revalidation addresses. -/
def revalidateTarget (env : Env) (state : Impl) (request : MutationRequest) : Expected RouteRecord := do
  state.checkMutation request.publisher request.workerBoot request.attempt request.route request.reason
  let record ← state.prepareLifecycleMutation request.route request.publisher request.workerBoot
  ensure (record.lifecycle ≠ .withdrawn) .lifecycleViolation
    "a withdrawn route must be republished, not revalidated"
  checkPath env record.binding "the bound path authority generation is no longer current"
  pure record

/-- The locked part of a revalidation. -/
def revalidateLocked (config : RuntimeConfig) (env : Env) (request : MutationRequest) (state : Impl) :
    Impl × Expected Intent :=
  match state.revalidateTarget env request with
  | .error failure => (state, .error failure)
  | .ok record =>
      match prepareDispatch record .beginInstall with
      | .error failure => (state, .error failure)
      | .ok (advanced, lifecycle, programmingGeneration) =>
          let drawn : ProgrammingAttemptId × SeededIdSource := generateId state.ids
          let updated := record.revalidating advanced config.historyLimit state.epoch env.backend.id
            request lifecycle programmingGeneration drawn.1
          let attempt := updated.attemptFor drawn.1
            (if record.applied.reportsApplied then .replace else .install) state.epoch
          match commitIntent config (env.io 1) { state with ids := drawn.2 } updated attempt with
          | (after, .error failure) => (after, .error failure)
          | (after, .ok ()) => (after, .ok ⟨updated.id, attempt, record.applied.reportsApplied, false⟩)

def revalidateRoute (config : RuntimeConfig) (env : Env) (request : MutationRequest) (state : Impl) :
    Impl × Expected WithdrawOutcome :=
  match state.revalidateLocked config env request with
  | (after, .error failure) => (after, .error failure)
  | (after, .ok intent) =>
      after.reportDispatch config env intent fun _ record => withdrawOutcome record

/-- The closing record of a retirement or a revocation. -/
def close (config : RuntimeConfig) (state : Impl) (request : MutationRequest) (record : RouteRecord)
    (cause : RetirementCause) (event : RouteEvent) : Expected RouteRecord := do
  let advanced ← record.advance
  let lifecycle ← applyEvent advanced.lifecycle event
  let updated := record.closed advanced config.historyLimit state.epoch request lifecycle cause event
  validateRouteRecord updated config.limits
  pure updated

/-- A retirement by identity. The record found is never retired already: such a record is
refused before. -/
def retireTarget (state : Impl) (request : MutationRequest) : Expected RouteRecord := do
  state.checkMutation request.publisher request.workerBoot request.attempt request.route request.reason
  state.prepareLifecycleMutation request.route request.publisher request.workerBoot

def retireRoute (config : RuntimeConfig) (env : Env) (request : MutationRequest) (state : Impl) :
    Impl × Expected WithdrawOutcome :=
  match state.retireTarget request with
  | .error failure => (state, .error failure)
  | .ok record =>
      if record.lifecycle = .retired then (state, .ok (withdrawOutcome record))
      else match state.close config request record .administrative .retire with
        | .error failure => (state, .error failure)
        | .ok updated =>
            match state.acknowledge config (env.io 0) { upserts := [updated] } with
            | (after, .error failure) => (after, .error failure)
            | (after, .ok ()) => (after, .ok (withdrawOutcome updated))

/-- The record that a revocation addresses. Unlike the other mutations by identity it
checks neither the scope of the publisher nor the lifecycle of the record. -/
def revokeTarget (state : Impl) (request : MutationRequest) : Expected RouteRecord := do
  state.checkMutation request.publisher request.workerBoot request.attempt request.route request.reason
  match state.routes[request.route]? with
  | none => makeError .notFound "no route with that identity"
  | some record => do
      let registration ← state.authorize request.publisher request.workerBoot
      ensure (registration.scope.administrativeOverride = true) .unauthorized
        "revocation requires an administrative override scope"
      pure record

/-- The revocation of a closed record. -/
def revocationOf (state : Impl) (request : MutationRequest) (updated : RouteRecord) : RevocationRecord where
  route := updated.id
  key := updated.key
  generation := updated.generation
  epoch := state.epoch
  attempt := request.attempt
  reason := bounded request.reason

def revokeRoute (config : RuntimeConfig) (env : Env) (request : MutationRequest) (state : Impl) :
    Impl × Expected WithdrawOutcome :=
  match state.revokeTarget request with
  | .error failure => (state, .error failure)
  | .ok record =>
      if (state.revocations[record.id]?).isSome then (state, .ok (withdrawOutcome record))
      else match state.close config request record .revoked .revoke with
        | .error failure => (state, .error failure)
        | .ok updated =>
            match state.acknowledge config (env.io 0)
                { upserts := [updated], revoked := [state.revocationOf request updated] } with
            | (after, .error failure) => (after, .error failure)
            | (after, .ok ()) => (after, .ok (withdrawOutcome updated))

/-! ## Path authority -/

/-- Only routes that still assert installability are invalidated. -/
def assertsInstallability (lifecycle : RouteLifecycle) : Bool :=
  lifecycle = .installed ∨ lifecycle = .installing ∨ lifecycle = .ready ∨
    lifecycle = .revalidationRequired

/-- The invalidated record of one dependent of a path, if it has to be invalidated. -/
def invalidateOne (config : RuntimeConfig) (state : Impl) (generation : PathAuthorityGeneration)
    (authorization : PathAuthorization) (id : RouteId) : Expected (Option RouteRecord) :=
  match state.routes[id]? with
  | none => .ok none
  | some record =>
      if (state.revocations[id]?).isSome then .ok none
      else if assertsInstallability record.lifecycle = false then .ok none
      else if authorization = .usable ∧ generation = record.binding.pathAuthorityGeneration then .ok none
      else do
        let advanced ← record.advance
        let lifecycle ← applyEvent advanced.lifecycle .requireRevalidation
        pure (some (record.invalidated advanced config.historyLimit generation lifecycle))

/-- The invalidated records of a list of dependents, in order. -/
def invalidatedRecords (config : RuntimeConfig) (state : Impl) (generation : PathAuthorityGeneration)
    (authorization : PathAuthorization) : List RouteId → Expected (List RouteRecord)
  | [] => .ok []
  | id :: rest => do
      let first ← state.invalidateOne config generation authorization id
      let others ← state.invalidatedRecords config generation authorization rest
      pure (first.toList ++ others)

def invalidatePath (config : RuntimeConfig) (io : IoOutcome) (path : PathId)
    (generation : PathAuthorityGeneration) (authorization : PathAuthorization) (state : Impl) :
    Impl × Status :=
  match state.pathIndex[path]? with
  | none => (state, .ok ())
  | some dependents =>
      match state.invalidatedRecords config generation authorization dependents.toList with
      | .error failure => (state, .error failure)
      | .ok updated =>
          if updated = [] then (state, .ok ())
          else state.acknowledge config io { upserts := updated }

def onPathAuthorityChanged (config : RuntimeConfig) (env : Env) (path : PathId)
    (generation : PathAuthorityGeneration) (authorization : PathAuthorization) (state : Impl) :
    Impl × Status :=
  match (do
      ensure (path.isValid = true) .invalidArgument "a path identity is required"
      ensure (generation.isValid = true) .invalidArgument "a path authority generation is required"
      state.checkOpened : Status) with
  | .error failure => (state, .error failure)
  | .ok () => state.invalidatePath config (env.io 0) path generation authorization

/-- Asks the path authority about each path in turn and stops at the first failure.
`index` counts the paths already asked about. -/
def revalidatePaths (config : RuntimeConfig) (env : Env) : Nat → List PathId → Impl → Impl × Status
  | _, [], state => (state, .ok ())
  | index, path :: rest, state =>
      match state.invalidatePath config (env.io index) path (env.query path).generation
          (env.query path).state with
      | (after, .error failure) => (after, .error failure)
      | (after, .ok ()) => revalidatePaths config env (index + 1) rest after

def revalidatePathAuthorities (config : RuntimeConfig) (env : Env) (state : Impl) : Impl × Status :=
  match state.checkOpened with
  | .error failure => (state, .error failure)
  | .ok () => revalidatePaths config env 0 state.pathIndex.keys state

/-! ## Reconciliation -/

/-- The locked part of a reconciliation, given the answer of the backend. -/
def reconcileLocked (config : RuntimeConfig) (env : Env) (route : RouteId) (query : BackendQueryResult)
    (state : Impl) : Impl × Expected ObservationClass :=
  match state.routes[route]? with
  | none => (state, makeError .notFound "no route with that identity")
  | some record =>
      let updated := record.observed env.backend.id query
      match validateRouteRecord updated config.limits with
      | .error failure => (state, .error failure)
      | .ok () =>
          match state.acknowledge config (env.io 0) { upserts := [updated] } with
          | (after, .error failure) => (after, .error failure)
          | (after, .ok ()) => (after, .ok (record.observationClass query))

def reconcileRoute (config : RuntimeConfig) (env : Env) (route : RouteId) (state : Impl) :
    Impl × Expected ObservationClass :=
  if route.isValid = false then (state, makeError .invalidArgument "a route identity is required")
  else match state.routes[route]? with
    | none => (state, makeError .notFound "no route with that identity")
    | some record => state.reconcileLocked config env route (env.backend.queryRoute record.key)

/-! ## Registration and fencing -/

def checkRegistration (config : RuntimeConfig) (publisher : PublisherId) (workerBoot : WorkerBootId)
    (scope : PublisherScope) : Status := do
  ensure (publisher.isValid = true) .invalidArgument "PublisherId must be supplied"
  ensure (workerBoot.isValid = true) .invalidArgument "WorkerBootId must be supplied"
  ensure (scope.fabric.isValid = true ∧ scope.fabric = config.fabric) .scopeViolation
    "publisher scope must name the runtime fabric"
  ensure (scope.namespaces.length + scope.destinations.length + scope.routeClasses.length ≤
      config.limits.maxPublisherScopes) .limitExceeded "publisher scope exceeds the configured bound"
  ensure (scope.administrativeOverride = true ∨ scope.wildcardNamespaces = true ∨
      scope.namespaces ≠ []) .scopeViolation "publisher scope authorizes no routing namespace"
  ensure (scope.administrativeOverride = true ∨ scope.wildcardDestinations = true ∨
      scope.destinations ≠ []) .scopeViolation "publisher scope authorizes no destination"
  ensure (scope.administrativeOverride = true ∨ scope.wildcardRouteClasses = true ∨
      scope.routeClasses ≠ []) .scopeViolation "publisher scope authorizes no route class"

/-- A registration replaces the one before; a previous boot is fenced for good. -/
def registerPublisher (config : RuntimeConfig) (publisher : PublisherId) (workerBoot : WorkerBootId)
    (scope : PublisherScope) (state : Impl) : Impl × Expected PublisherRegistration :=
  match (do checkRegistration config publisher workerBoot scope; state.checkOpened : Status) with
  | .error failure => (state, .error failure)
  | .ok () =>
      match state.administrativeFences[publisher]? with
      | some reason =>
          (state, makeError .fenced ("publisher is administratively fenced: " ++ reason.text))
      | none =>
          let existing := state.registrations[publisher]?
          if existing = none ∧ config.limits.maxPublishers ≤ state.registrations.size then
            (state, makeError .limitExceeded "the publisher registration limit has been reached")
          else
            let registration : PublisherRegistration := ⟨publisher, workerBoot, state.epoch, scope⟩
            ({ state with
                fencedBoots := match existing with
                  | some previous =>
                      if previous.workerBoot = workerBoot then state.fencedBoots
                      else state.fencedBoots.insert previous.workerBoot
                  | none => state.fencedBoots
                registrations := state.registrations.insert publisher registration },
              .ok registration)

def fencePublisher (publisher : PublisherId) (reason : FencingReason) (state : Impl) : Impl :=
  let dropped := match state.registrations[publisher]? with
    | none => state
    | some registration =>
        { state with
          fencedBoots := state.fencedBoots.insert registration.workerBoot
          registrations := state.registrations.erase publisher }
  if reason = .administrative then
    { dropped with administrativeFences := dropped.administrativeFences.insert publisher reason }
  else dropped

/-- Drops a registration and bars its publisher from registering again. -/
def barPublisher (reason : FencingReason) (state : Impl) (publisher : PublisherId) : Impl :=
  { state with
    administrativeFences := state.administrativeFences.insert publisher reason
    registrations := state.registrations.erase publisher }

def fenceWorkerBoot (workerBoot : WorkerBootId) (reason : FencingReason) (state : Impl) : Impl × Status :=
  if workerBoot.isValid = false then
    (state, makeError .invalidArgument "WorkerBootId must be supplied")
  else
    let fenced := { state with fencedBoots := state.fencedBoots.insert workerBoot }
    if reason = .administrative then
      let barred := (state.registrations.toList.filter (·.2.workerBoot = workerBoot)).map (·.1)
      (barred.foldl (barPublisher reason) fenced, .ok ())
    else (fenced, .ok ())

def clearAdministrativeFence (publisher : PublisherId) (state : Impl) : Impl :=
  { state with administrativeFences := state.administrativeFences.erase publisher }

/-! ## Epochs, compaction and recovery -/

/-- Saves the whole state as a new snapshot. -/
def compactStore (config : RuntimeConfig) (io : IoOutcome) (state : Impl) : StoreFiles × Status :=
  if config.durability = .none then (state.files, .ok ())
  else saveSnapshot config.limits io state.files state.collectState

def compact (config : RuntimeConfig) (env : Env) (state : Impl) : Impl × Status :=
  match (do
      state.checkOpened
      ensure (config.durability ≠ .none) .unsupported "the runtime has no store configured" : Status) with
  | .error failure => (state, .error failure)
  | .ok () =>
      let saved := state.compactStore config (env.io 0)
      ({ state with files := saved.1 }, saved.2)

/-- The epoch advances in memory only when the snapshot with the new epoch was saved. -/
def advanceEpoch (config : RuntimeConfig) (env : Env) (state : Impl) : Impl × Expected CoordinatorEpoch :=
  match state.checkOpened with
  | .error failure => (state, .error failure)
  | .ok () =>
      match state.epoch.next with
      | .error _ => (state, makeError .staleEpoch "the coordinator epoch would overflow")
      | .ok next =>
          match { state with epoch := next }.compactStore config (env.io 0) with
          | (files, .error failure) => ({ state with files := files }, .error failure)
          | (files, .ok ()) => ({ state with epoch := next, files := files }, .ok next)

def checkConfig (config : RuntimeConfig) : Status := do
  config.limits.validate
  ensure (config.fabric.isValid = true) .invalidArgument "a fabric identity is required"
  ensure (1 ≤ config.historyLimit ∧ config.historyLimit ≤ config.limits.maxHistoryEntriesPerRoute)
    .invalidArgument "history_limit must be within 1..Limits::max_history_entries_per_route"

/-- Takes a loaded state over into memory and rebuilds the indexes. -/
def populate (state : Impl) (loaded : PersistedState) : Impl :=
  let filled : Impl :=
    { state with
      epoch := loaded.epoch
      policyGeneration := loaded.policyGeneration
      routes := loaded.routes.foldl (fun map record => map.insert record.id record) state.routes
      revocations := loaded.revocations.foldl (fun map item => map.insert item.route item)
        state.revocations
      attempts := loaded.attempts.foldl (fun map item => map.insert item.attempt item) state.attempts
      outstandingProgramming :=
        state.outstandingProgramming + (loaded.attempts.filter (·.resolved = false)).length }
  (values filled.routes).foldl indexInsert filled

/-- Whether recovery has to touch the route of an unresolved attempt. -/
def awaits (record : RouteRecord) (attempt : ProgrammingAttemptRecord) : Bool :=
  record.lifecycle.hasOutstandingProgramming &&
    record.programmingGeneration = attempt.programmingGeneration

/-- Resolves one attempt that was outstanding when the process ended, and collects what
has to be written. -/
def recoverAttempt (config : RuntimeConfig) (backend : BackendId) (progress : Impl × Edit)
    (attempt : ProgrammingAttemptRecord) : Impl × Edit :=
  if attempt.resolved then progress
  else
    let resolved := { attempt with resolved := true }
    match progress.1.routes[attempt.route]? with
    | some record =>
        if awaits record attempt then
          let updated := record.recovered config.historyLimit backend attempt
          ((progress.1.commit updated).resolveAttempt resolved,
            { progress.2 with
              upserts := progress.2.upserts ++ [updated]
              attempts := progress.2.attempts ++ [resolved] })
        else
          (progress.1.resolveAttempt resolved,
            { progress.2 with attempts := progress.2.attempts ++ [resolved] })
    | none =>
        (progress.1.resolveAttempt resolved,
          { progress.2 with attempts := progress.2.attempts ++ [resolved] })

/-- Conservative recovery: desired intent survives, applied truth does not. -/
def recover (config : RuntimeConfig) (backend : BackendId) (state : Impl) : Impl × Edit :=
  (values state.attempts).foldl (recoverAttempt config backend) (state, {})

/-- Recovery with its write. -/
def finishOpen (config : RuntimeConfig) (env : Env) (state : Impl) : Impl × Status :=
  let recovered := state.recover config env.backend.id
  if recovered.2.upserts = [] ∧ recovered.2.attempts = [] then
    ({ recovered.1 with opened := true }, .ok ())
  else match recovered.1.persist config (env.io 1) recovered.2 with
    | (files, .error failure) => ({ recovered.1 with files := files }, .error failure)
    | (files, .ok ()) => ({ recovered.1 with files := files, opened := true }, .ok ())

/-- Loads the store and recovers. -/
def openRuntime (config : RuntimeConfig) (env : Env) (state : Impl) : Impl × Status :=
  if state.opened then (state, makeError .alreadyExists "the runtime is already open")
  else match checkConfig config with
    | .error failure => (state, .error failure)
    | .ok () =>
        if config.durability = .none then finishOpen config env state
        else match load config.limits (env.io 0) state.files with
          | (files, .error failure) => ({ state with files := files }, .error failure)
          | (files, .ok loaded) => finishOpen config env ({ state with files := files }.populate loaded)

end Impl

end RouteFabric
