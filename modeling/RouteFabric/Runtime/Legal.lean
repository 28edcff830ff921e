import RouteFabric.Runtime.Machine

/-!
# What one action can do

Every action is a short sequence of moves. A move draws an identity, changes
registrations and fences, writes a snapshot, advances the epoch, or acknowledges one
edit. `Legal` lists the edits: one case for each way in which an operation builds one,
with the checks that the operation made before it. Invariants are proved once over moves
and hold for every operation.
-/

namespace RouteFabric

open ByteReader OrderedMap

namespace Impl

/-! ## What the checks establish -/

section Checks

variable {state : Impl}

theorem checkMutation_eq_ok {publisher : PublisherId} {workerBoot : WorkerBootId}
    {attempt : MutationAttemptId} {route : RouteId} {reason : Bytes} :
    state.checkMutation publisher workerBoot attempt route reason = .ok () ↔
      publisher.isValid = true ∧ workerBoot.isValid = true ∧ attempt.isValid = true ∧
      route.isValid = true ∧ reason.length ≤ maxDiagnosticChars ∧ state.opened = true := by
  simp [checkMutation, validateCommon, checkReason, checkOpened]

theorem publishAuthority_eq_ok {request : PublishRequest} {registration : PublisherRegistration} :
    state.publishAuthority request = .ok registration ↔
      (request.publisher.isValid = true ∧ request.workerBoot.isValid = true ∧
        request.attempt.isValid = true) ∧ request.key.isValid = true ∧ request.binding.isValid = true ∧
      request.policyGeneration.isValid = true ∧ request.reason.length ≤ maxDiagnosticChars ∧
      state.opened = true ∧ state.authorize request.publisher request.workerBoot = .ok registration ∧
      registration.scope.covers request.key = true := by
  simp only [publishAuthority, validateCommon, checkReason, checkOpened, checkScope, bind_eq_ok,
    exists_unit, ensure_eq_ok, pure_eq_ok, and_assoc]
  constructor
  · rintro ⟨publisher, boot, attempt, key, binding, policy, reason, opened, found, authorized, scope, rfl⟩
    exact ⟨publisher, boot, attempt, key, binding, policy, reason, opened, authorized, scope⟩
  · rintro ⟨publisher, boot, attempt, key, binding, policy, reason, opened, authorized, scope⟩
    exact ⟨publisher, boot, attempt, key, binding, policy, reason, opened, _, authorized, scope, rfl⟩

theorem checkReplacement_eq_ok {registration : PublisherRegistration} {request : PublishRequest}
    {record : RouteRecord} :
    checkReplacement registration request record = .ok () ↔
      (record.provenance.publisher = request.publisher ∨
        registration.scope.administrativeOverride = true) ∧
      ¬ (request.expectedGeneration.isValid = true ∧ request.expectedGeneration ≠ record.generation) := by
  simp only [checkReplacement, bind_eq_ok, exists_unit, ensure_eq_ok]

/-- What the checks of a mutation by identity establish about its record. -/
structure Mutable (state : Impl) (route : RouteId) (publisher : PublisherId) (workerBoot : WorkerBootId)
    (record : RouteRecord) : Prop where
  found : state.routes[route]? = some record
  authorized : ∃ registration, state.authorize publisher workerBoot = .ok registration ∧
    registration.scope.covers record.key = true ∧
    (record.provenance.publisher = publisher ∨ registration.scope.administrativeOverride = true)
  unrevoked : state.revocations[record.id]? = none
  unretired : record.lifecycle ≠ .retired
  unsuperseded : record.lifecycle ≠ .superseded

theorem prepareLifecycleMutation_eq_ok {route : RouteId} {publisher : PublisherId}
    {workerBoot : WorkerBootId} {record : RouteRecord} :
    state.prepareLifecycleMutation route publisher workerBoot = .ok record ↔
      state.Mutable route publisher workerBoot record := by
  unfold prepareLifecycleMutation
  cases held : state.routes[route]? with
  | none =>
      constructor
      · simp
      · intro mutable
        have found := mutable.found
        rw [held] at found
        cases found
  | some found =>
      simp only [bind_eq_ok, exists_unit, checkScope, ensure_eq_ok, pure_eq_ok, Option.isSome_eq_false_iff,
        Option.isNone_iff_eq_none]
      constructor
      · rintro ⟨registration, authorized, scope, owner, unrevoked, unretired, unsuperseded, rfl⟩
        exact ⟨held, ⟨registration, authorized, scope, owner⟩, unrevoked, unretired, unsuperseded⟩
      · rintro ⟨same, ⟨registration, authorized, scope, owner⟩, unrevoked, unretired, unsuperseded⟩
        obtain rfl := Option.some.inj (held.symm.trans same)
        exact ⟨registration, authorized, scope, owner, unrevoked, unretired, unsuperseded, rfl⟩

theorem withdrawTarget_eq_ok {request : WithdrawRequest} {record : RouteRecord}
    (target : state.withdrawTarget request = .ok record) :
    state.Mutable request.route request.publisher request.workerBoot record ∧
      ¬ (request.expectedGeneration.isValid = true ∧ request.expectedGeneration ≠ record.generation) := by
  simp only [withdrawTarget, bind_eq_ok, exists_unit, ensure_eq_ok, pure_eq_ok,
    prepareLifecycleMutation_eq_ok] at target
  obtain ⟨-, found, mutable, expected, rfl⟩ := target
  exact ⟨mutable, expected⟩

theorem revalidateTarget_eq_ok {env : Env} {request : MutationRequest} {record : RouteRecord}
    (target : state.revalidateTarget env request = .ok record) :
    state.Mutable request.route request.publisher request.workerBoot record ∧
      record.lifecycle ≠ .withdrawn := by
  simp only [revalidateTarget, bind_eq_ok, exists_unit, ensure_eq_ok, pure_eq_ok,
    prepareLifecycleMutation_eq_ok] at target
  obtain ⟨-, found, mutable, live, -, rfl⟩ := target
  exact ⟨mutable, live⟩

/-- A revalidation names its publisher, its worker boot and its attempt. -/
theorem revalidateTarget_named {env : Env} {request : MutationRequest} {record : RouteRecord}
    (target : state.revalidateTarget env request = .ok record) :
    request.publisher.isValid = true ∧ request.workerBoot.isValid = true ∧
      request.attempt.isValid = true := by
  simp only [revalidateTarget, bind_eq_ok, exists_unit, checkMutation_eq_ok] at target
  exact ⟨target.1.1, target.1.2.1, target.1.2.2.1⟩

theorem retireTarget_eq_ok {request : MutationRequest} {record : RouteRecord}
    (target : state.retireTarget request = .ok record) :
    request.attempt.isValid = true ∧
      state.Mutable request.route request.publisher request.workerBoot record := by
  simp only [retireTarget, bind_eq_ok, exists_unit, prepareLifecycleMutation_eq_ok,
    checkMutation_eq_ok] at target
  exact ⟨target.1.2.2.1, target.2⟩

/-- A revocation asks for an authorized publisher with the administrative override and
for nothing else. -/
theorem revokeTarget_eq_ok {request : MutationRequest} {record : RouteRecord}
    (target : state.revokeTarget request = .ok record) :
    state.routes[request.route]? = some record ∧
      ∃ registration, state.authorize request.publisher request.workerBoot = .ok registration ∧
        registration.scope.administrativeOverride = true := by
  simp only [revokeTarget, bind_eq_ok, exists_unit] at target
  obtain ⟨-, found⟩ := target
  split at found
  · simp at found
  · rename_i record' held
    simp only [bind_eq_ok, exists_unit, ensure_eq_ok, pure_eq_ok] at found
    obtain ⟨registration, authorized, administrative, rfl⟩ := found
    exact ⟨held, registration, authorized, administrative⟩

end Checks

/-! ## Edits -/

/-- A validated record with a new attempt that waits for it. -/
structure Dispatched (config : RuntimeConfig) (state : Impl) (updated : RouteRecord)
    (operation : ProgrammingOperation) (attempt : ProgrammingAttemptRecord) : Prop where
  valid : updated.Valid config.limits
  room : state.outstandingProgramming < config.limits.maxOutstandingProgramming
  waits : attempt = updated.attemptFor attempt.attempt operation state.epoch
  drawn : attempt.attempt = (generateId state.ids).1

/-- Whether a publication passes every check of a takeover. -/
def takesOver (config : RuntimeConfig) (state : Impl) (request : PublishRequest) : Bool :=
  match state.publishAuthority request, state.lookupKey request.key with
  | .ok registration, some record =>
      (state.revocations[record.id]?).isNone && record.blocksRepublication &&
        (state.takeover config registration request record).isOk
  | _, _ => false

/-- Whether a publication passes every check before it creates a route: its key leads to
no record, or to one that it takes over. -/
def reachesCreation (config : RuntimeConfig) (state : Impl) (request : PublishRequest) : Bool :=
  (state.publishAuthority request).isOk && (state.lookupKey request.key).isNone ||
    state.takesOver config request

structure Takeover (config : RuntimeConfig) (state : Impl) (request : PublishRequest)
    (record updated : RouteRecord) : Prop where
  authority : ∃ registration, state.publishAuthority request = .ok registration ∧
    registration.scope.administrativeOverride = true
  found : state.lookupKey request.key = some record
  unrevoked : state.revocations[record.id]? = none
  blocked : record.blocksRepublication = true
  minted : request.lineage.isValid = true
  distinct : request.lineage ≠ record.id
  made : ∃ generation authorityGeneration, record.Advanced generation authorityGeneration ∧
    updated = record.superseded { record with generation, authorityGeneration } config.historyLimit
      state.epoch request

/-- A creation happens in the state of the call, or after a takeover in the same call. -/
structure Creation (config : RuntimeConfig) (env : Env) (origin state : Impl) (request : PublishRequest)
    (updated : RouteRecord) (attempt : ProgrammingAttemptRecord) : Prop where
  authority : ∃ registration, origin.publishAuthority request = .ok registration
  reaches : origin.reachesCreation config request = true
  frame : Frame origin state
  present : ∀ id, id ∈ state.routes ↔ id ∈ origin.routes
  revocations : state.revocations = origin.revocations
  attempts : state.attempts = origin.attempts
  vacant : state.keyIndex[request.key]? = none
  capacity : state.routes.size < config.limits.maxRoutes
  dispatched : Dispatched config state updated .install attempt
  made : ∃ programmingGeneration,
    (RouteRecord.declared request (createdId request) .ready).Programmed programmingGeneration ∧
    updated = (RouteRecord.declared request (createdId request) .ready).installing config.historyLimit
      state.epoch env.backend.id request none .installing programmingGeneration attempt.attempt

structure Replacement (config : RuntimeConfig) (env : Env) (state : Impl) (request : PublishRequest)
    (record updated : RouteRecord) (attempt : ProgrammingAttemptRecord) : Prop where
  authority : ∃ registration, state.publishAuthority request = .ok registration ∧
    checkReplacement registration request record = .ok ()
  found : state.lookupKey request.key = some record
  unrevoked : state.revocations[record.id]? = none
  live : record.blocksRepublication = false
  allowed : nextLifecycle record.lifecycle .beginInstall = some .installing
  dispatched : Dispatched config state updated .replace attempt
  made : ∃ generation authorityGeneration programmingGeneration,
    record.Advanced generation authorityGeneration ∧ record.Programmed programmingGeneration ∧
    updated = RouteRecord.installing { record with generation, authorityGeneration } config.historyLimit
      state.epoch env.backend.id request (some record.generation) .installing programmingGeneration
      attempt.attempt

structure Withdrawal (config : RuntimeConfig) (env : Env) (state : Impl) (request : WithdrawRequest)
    (record updated : RouteRecord) (attempt : ProgrammingAttemptRecord) : Prop where
  target : state.withdrawTarget request = .ok record
  allowed : nextLifecycle record.lifecycle .beginWithdraw = some .withdrawing
  dispatched : Dispatched config state updated .withdraw attempt
  made : ∃ generation authorityGeneration programmingGeneration,
    record.Advanced generation authorityGeneration ∧ record.Programmed programmingGeneration ∧
    updated = record.withdrawing { record with generation, authorityGeneration } config.historyLimit
      env.backend.id request.reason .withdrawing programmingGeneration attempt.attempt

structure Revalidation (config : RuntimeConfig) (env : Env) (state : Impl) (request : MutationRequest)
    (record updated : RouteRecord) (attempt : ProgrammingAttemptRecord) : Prop where
  target : state.revalidateTarget env request = .ok record
  allowed : nextLifecycle record.lifecycle .beginInstall = some .installing
  dispatched : Dispatched config state updated
    (if record.applied.reportsApplied then .replace else .install) attempt
  made : ∃ generation authorityGeneration programmingGeneration,
    record.Advanced generation authorityGeneration ∧ record.Programmed programmingGeneration ∧
    updated = record.revalidating { record with generation, authorityGeneration } config.historyLimit
      state.epoch env.backend.id request .installing programmingGeneration attempt.attempt

/-- The closing record of a lineage that is retired or revoked. -/
structure Closing (config : RuntimeConfig) (state : Impl) (request : MutationRequest)
    (record updated : RouteRecord) (cause : RetirementCause) (event : RouteEvent) : Prop where
  allowed : nextLifecycle record.lifecycle event = some .retired
  valid : updated.Valid config.limits
  made : ∃ generation authorityGeneration, record.Advanced generation authorityGeneration ∧
    updated = record.closed { record with generation, authorityGeneration } config.historyLimit
      state.epoch request .retired cause event

structure Retirement (config : RuntimeConfig) (state : Impl) (request : MutationRequest)
    (record updated : RouteRecord) : Prop where
  target : state.retireTarget request = .ok record
  closing : Closing config state request record updated .administrative .retire

structure Revocation (config : RuntimeConfig) (state : Impl) (request : MutationRequest)
    (record updated : RouteRecord) : Prop where
  target : state.revokeTarget request = .ok record
  unrevoked : state.revocations[record.id]? = none
  closing : Closing config state request record updated .revoked .revoke

structure Invalidation (config : RuntimeConfig) (state : Impl) (generation : PathAuthorityGeneration)
    (authorization : PathAuthorization) (record updated : RouteRecord) : Prop where
  found : state.routes[record.id]? = some record
  unrevoked : state.revocations[record.id]? = none
  asserts : assertsInstallability record.lifecycle = true
  changed : ¬ (authorization = .usable ∧ generation = record.binding.pathAuthorityGeneration)
  made : ∃ next nextAuthority, record.Advanced next nextAuthority ∧
    updated = record.invalidated { record with generation := next, authorityGeneration := nextAuthority }
      config.historyLimit generation .revalidationRequired

/-- An attempt that a completion names, still waiting for its outcome. -/
structure Awaited (state : Impl) (result : ProgrammingResult) (attempt : ProgrammingAttemptRecord)
    (record : RouteRecord) : Prop where
  known : state.attempts[result.attempt]? = some attempt
  pending : attempt.resolved = false
  found : state.routes[attempt.route]? = some record

structure Completed (config : RuntimeConfig) (env : Env) (state : Impl) (result : ProgrammingResult)
    (attempt : ProgrammingAttemptRecord) (record updated : RouteRecord) : Prop where
  awaited : state.Awaited result attempt record
  current : state.overtaken attempt record = false
  made : ∃ lifecycle, nextLifecycle record.lifecycle
      (completionEvent attempt.operation result.outcome) = some lifecycle ∧
    updated = record.completed config.historyLimit env.backend.id attempt result lifecycle

structure Observation (config : RuntimeConfig) (env : Env) (state : Impl) (route : RouteId)
    (query : BackendQueryResult) (record updated : RouteRecord) : Prop where
  found : state.routes[route]? = some record
  valid : updated.Valid config.limits
  made : updated = record.observed env.backend.id query

/-- The edits that an action which began in `origin` can acknowledge in a state. -/
inductive Legal (config : RuntimeConfig) (env : Env) (origin : Impl) : Action → Impl → Edit → Prop
  | takeover {request record updated} (taken : Takeover config origin request record updated) :
      Legal config env origin (.publish request) origin { upserts := [updated] }
  | create {state request updated attempt}
      (created : Creation config env origin state request updated attempt) :
      Legal config env origin (.publish request) state { upserts := [updated], attempts := [attempt] }
  | replace {request record updated attempt}
      (replaced : Replacement config env origin request record updated attempt) :
      Legal config env origin (.publish request) origin { upserts := [updated], attempts := [attempt] }
  | withdraw {request record updated attempt}
      (withdrawn : Withdrawal config env origin request record updated attempt) :
      Legal config env origin (.withdraw request) origin { upserts := [updated], attempts := [attempt] }
  | revalidate {request record updated attempt}
      (revalidated : Revalidation config env origin request record updated attempt) :
      Legal config env origin (.revalidate request) origin
        { upserts := [updated], attempts := [attempt] }
  | retire {request record updated} (retired : Retirement config origin request record updated) :
      Legal config env origin (.retire request) origin { upserts := [updated] }
  | revoke {request record updated} (revoked : Revocation config origin request record updated) :
      Legal config env origin (.revoke request) origin
        { upserts := [updated], revoked := [origin.revocationOf request updated] }
  | invalidate {path generation authorization updated}
      (unique : (updated.map (·.id)).Nodup)
      (invalidated : ∀ after ∈ updated, ∃ record,
        Invalidation config origin generation authorization record after) :
      Legal config env origin (.invalidate path generation authorization) origin { upserts := updated }
  | resolve {result attempt record} (awaited : origin.Awaited result attempt record)
      (idle : origin.overtaken attempt record = true ∨
        nextLifecycle record.lifecycle (completionEvent attempt.operation result.outcome) = none) :
      Legal config env origin (.complete result) origin
        { attempts := [{ attempt with resolved := true }] }
  | complete {result attempt record updated}
      (completed : Completed config env origin result attempt record updated) :
      Legal config env origin (.complete result) origin
        { upserts := [updated], attempts := [{ attempt with resolved := true }] }
  | observe {route query record updated}
      (observed : Observation config env origin route query record updated) :
      Legal config env origin (.reconcile route query) origin { upserts := [updated] }

end Impl

end RouteFabric
