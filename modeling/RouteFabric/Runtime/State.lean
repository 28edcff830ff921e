import RouteFabric.Store.Files

/-!
# The runtime state

The in-memory state of the coordinator, its secondary indexes, and the two primitives
that every mutation is made of: `persist`, which writes a batch to the store before it
is acknowledged, and `commit`, which installs a record and keeps the indexes in step.
`acknowledge` is their sequence. The state also carries the two store files, which
outlive the process.

Statistics counters are left out: nothing reads them back.
-/

namespace RouteFabric

open ByteReader OrderedMap

/-! ## Configuration and collaborators -/

inductive Durability where
  | none
  | snapshot
  | journal
deriving DecidableEq

structure RuntimeConfig where
  fabric : FabricId
  limits : Limits := {}
  durability : Durability := .none
  historyLimit : Nat := 32

/-- Authority scope of a registered publisher. -/
structure PublisherScope where
  fabric : FabricId := {}
  namespaces : List RoutingNamespace := []
  destinations : List Destination := []
  routeClasses : List RouteClass := []
  wildcardNamespaces : Bool := false
  wildcardDestinations : Bool := false
  wildcardRouteClasses : Bool := false
  administrativeOverride : Bool := false
deriving DecidableEq

/-- An empty dimension permits nothing unless its wildcard is set. -/
def PublisherScope.covers (scope : PublisherScope) (key : RouteKey) : Bool :=
  key.isValid && scope.fabric.isValid && scope.fabric = key.fabric &&
    (scope.wildcardNamespaces || scope.namespaces.contains key.routingNamespace) &&
    (scope.wildcardRouteClasses || scope.routeClasses.contains key.routeClass) &&
    (scope.wildcardDestinations || scope.destinations.any (·.scopeCovers key.destination))

inductive FencingReason where
  | sessionClosed
  | workerDeath
  | administrative
  | epochInvalidated
deriving DecidableEq

def FencingReason.text : FencingReason → String
  | sessionClosed => "session-closed"
  | workerDeath => "worker-death"
  | administrative => "administrative"
  | epochInvalidated => "epoch-invalidated"

/-- A live registration. The `fenced` flag of the source is always false and is never
read. -/
structure PublisherRegistration where
  publisher : PublisherId
  workerBoot : WorkerBootId
  epoch : CoordinatorEpoch
  scope : PublisherScope
deriving DecidableEq

inductive PathAuthorization where
  | usable
  | revalidationRequired
  | rejected
  | revoked
  | stale
  | retired
deriving DecidableEq

def PathAuthorization.text : PathAuthorization → String
  | usable => "USABLE"
  | revalidationRequired => "REVALIDATION_REQUIRED"
  | rejected => "REJECTED"
  | revoked => "REVOKED"
  | stale => "STALE"
  | retired => "RETIRED"

structure PathAuthorityResult where
  generation : PathAuthorityGeneration
  state : PathAuthorization
deriving DecidableEq

inductive ProgrammingOutcome where
  | applied
  | idempotent
  | notSupported
  | rejected
  | retryableFailure
  | permanentFailure
  | ambiguous
  | backendUnavailable
deriving DecidableEq

structure ProgrammingResult where
  outcome : ProgrammingOutcome := .backendUnavailable
  attempt : ProgrammingAttemptId := {}
  backend : BackendId := {}
  detail : Bytes := []

/-- A programming call is resolved inline or explicitly deferred. -/
structure ProgrammingDispatch where
  deferred : Bool := false
  immediate : ProgrammingResult := {}

structure RouteProgrammingRequest where
  operation : ProgrammingOperation
  attempt : ProgrammingAttemptId
  programmingGeneration : ProgrammingGeneration
  route : RouteId
  key : RouteKey
  binding : RouteBinding
  desiredGeneration : RouteGeneration
  authorityGeneration : RouteAuthorityGeneration
  epoch : CoordinatorEpoch
  publisher : PublisherId
  workerBoot : WorkerBootId
  previouslyInstalled : Bool

inductive BackendPresence where
  | unknown
  | present
  | absent
  | unavailable
deriving DecidableEq

structure BackendQueryResult where
  presence : BackendPresence := .unknown
  backend : BackendId := {}
  observedGeneration : RouteGeneration := .absent
  detail : Bytes := []

/-- The programming backend as one call of the runtime sees it. -/
structure Backend where
  id : BackendId
  installRoute : RouteProgrammingRequest → ProgrammingDispatch := fun _ => { deferred := true }
  replaceRoute : RouteProgrammingRequest → ProgrammingDispatch := fun _ => { deferred := true }
  withdrawRoute : RouteProgrammingRequest → ProgrammingDispatch := fun _ => { deferred := true }
  queryRoute : RouteKey → BackendQueryResult := fun _ => {}

/-- Everything outside the runtime that one call consults: the backend, the answers of
the path authority, whether a collaborator called back into the runtime, and what the
file system does with each store write of the call. -/
structure Env where
  backend : Backend
  query : PathId → PathAuthorityResult
  reentered : Bool := false
  io : Nat → IoOutcome := fun _ => {}

/-! ## State -/

structure Impl where
  epoch : CoordinatorEpoch := .one
  policyGeneration : PolicyGeneration := .one
  opened : Bool := false
  routes : Map RouteId RouteRecord := ∅
  keyIndex : Map RouteKey RouteId := ∅
  pathIndex : Map PathId (FinSet RouteId) := ∅
  publisherIndex : Map PublisherId (FinSet RouteId) := ∅
  lifecycleIndex : Map RouteLifecycle (FinSet RouteId) := ∅
  namespaceCounts : Map RoutingNamespace Nat := ∅
  attempts : Map ProgrammingAttemptId ProgrammingAttemptRecord := ∅
  revocations : Map RouteId RevocationRecord := ∅
  registrations : Map PublisherId PublisherRegistration := ∅
  administrativeFences : Map PublisherId FencingReason := ∅
  fencedBoots : FinSet WorkerBootId := ∅
  ids : SeededIdSource
  outstandingProgramming : Nat := 0
  files : StoreFiles := {}

/-- One mutation batch: the records to install, the revocations to add and the attempts
to record or resolve. -/
structure Edit where
  upserts : List RouteRecord := []
  revoked : List RevocationRecord := []
  attempts : List ProgrammingAttemptRecord := []

section Indexes

variable {κ : Type} [Ord κ] [Std.TransOrd κ]

/-- Removes an identity from the set kept at a key, and the set when it is empty. -/
def eraseFrom (index : Map κ (FinSet RouteId)) (key : κ) (id : RouteId) : Map κ (FinSet RouteId) :=
  match index[key]? with
  | none => index
  | some set => if (set.erase id).isEmpty then index.erase key else index.insert key (set.erase id)

def insertInto (index : Map κ (FinSet RouteId)) (key : κ) (id : RouteId) : Map κ (FinSet RouteId) :=
  index.insert key ((index[key]?.getD ∅).insert id)

end Indexes

/-- The path that a record is indexed under. -/
def RouteRecord.indexedPath (record : RouteRecord) : Option PathId :=
  if record.binding.kind = .authorizedPath ∧ record.binding.path.isValid = true then
    some record.binding.path
  else none

namespace Impl

/-- What the state holds that the store has to hold too. -/
def contents (state : Impl) : Contents where
  epoch := state.epoch
  policyGeneration := state.policyGeneration
  routes := state.routes
  revocations := state.revocations
  attempts := state.attempts

def indexErase (state : Impl) (record : RouteRecord) : Impl :=
  { state with
    keyIndex := if state.keyIndex[record.key]? = some record.id then state.keyIndex.erase record.key
      else state.keyIndex
    pathIndex := match record.indexedPath with
      | none => state.pathIndex
      | some path => eraseFrom state.pathIndex path record.id
    publisherIndex := eraseFrom state.publisherIndex record.provenance.publisher record.id
    lifecycleIndex := eraseFrom state.lifecycleIndex record.lifecycle record.id
    namespaceCounts := match state.namespaceCounts[record.key.routingNamespace]? with
      | none => state.namespaceCounts
      | some count =>
          if count - 1 = 0 then state.namespaceCounts.erase record.key.routingNamespace
          else state.namespaceCounts.insert record.key.routingNamespace (count - 1) }

/-- A superseded lineage has lost the key to its successor and is addressed by identity
only. -/
def indexInsert (state : Impl) (record : RouteRecord) : Impl :=
  { state with
    keyIndex := if record.lifecycle = .superseded then state.keyIndex
      else state.keyIndex.insert record.key record.id
    pathIndex := match record.indexedPath with
      | none => state.pathIndex
      | some path => insertInto state.pathIndex path record.id
    publisherIndex := insertInto state.publisherIndex record.provenance.publisher record.id
    lifecycleIndex := insertInto state.lifecycleIndex record.lifecycle record.id
    namespaceCounts := state.namespaceCounts.insert record.key.routingNamespace
      (state.namespaceCounts[record.key.routingNamespace]?.getD 0 + 1) }

/-- Installs a record under its identity. -/
def commit (state : Impl) (record : RouteRecord) : Impl :=
  let erased := match state.routes[record.id]? with
    | none => state
    | some existing => state.indexErase existing
  let inserted := erased.indexInsert record
  { inserted with routes := inserted.routes.insert record.id record }

def recordAttempt (state : Impl) (attempt : ProgrammingAttemptRecord) : Impl :=
  { state with
    attempts := state.attempts.insert attempt.attempt attempt
    outstandingProgramming :=
      if attempt.resolved then state.outstandingProgramming else state.outstandingProgramming + 1 }

def resolveAttempt (state : Impl) (attempt : ProgrammingAttemptRecord) : Impl :=
  { state with
    attempts := state.attempts.insert attempt.attempt attempt
    outstandingProgramming := match state.attempts[attempt.attempt]? with
      | some known =>
          if known.resolved then state.outstandingProgramming else state.outstandingProgramming - 1
      | none => state.outstandingProgramming }

/-- A new attempt is recorded, a resolved one replaces what was recorded. -/
def settleAttempt (state : Impl) (attempt : ProgrammingAttemptRecord) : Impl :=
  if attempt.resolved then state.resolveAttempt attempt else state.recordAttempt attempt

def revoke (state : Impl) (revocation : RevocationRecord) : Impl :=
  { state with revocations := state.revocations.insert revocation.route revocation }

/-- The in-memory effect of a batch. -/
def applyEdit (state : Impl) (edit : Edit) : Impl :=
  edit.attempts.foldl settleAttempt (edit.revoked.foldl revoke (edit.upserts.foldl commit state))

/-! ## Persistence -/

/-- The durable state that the maps stand for. -/
def collectState (state : Impl) : PersistedState where
  epoch := state.epoch
  policyGeneration := state.policyGeneration
  routes := values state.routes
  revocations := values state.revocations
  attempts := values state.attempts

/-- The whole state with a batch merged in, as a snapshot-mode write saves it. -/
def mergedState (state : Impl) (edit : Edit) : PersistedState :=
  let collected := state.collectState
  { collected with
    routes := edit.upserts.foldl (fun routes record =>
      upsert (fun candidate => decide (candidate.id = record.id)) (fun _ => true) record routes)
        collected.routes
    revocations := edit.revoked.foldl upsertRevocation collected.revocations
    attempts := edit.attempts.foldl upsertAttempt collected.attempts }

/-- The journal entry of a batch. -/
def journalEntry (state : Impl) (edit : Edit) : JournalEntry :=
  ⟨state.epoch, state.policyGeneration, edit.upserts, edit.revoked, edit.attempts⟩

/-- Writes a batch to the store, if there is one. -/
def persist (config : RuntimeConfig) (io : IoOutcome) (state : Impl) (edit : Edit) : StoreFiles × Status :=
  match config.durability with
  | .none => (state.files, .ok ())
  | .snapshot => saveSnapshot config.limits io state.files (state.mergedState edit)
  | .journal => appendJournal config.limits io state.files (state.journalEntry edit)

/-- Writes a batch to the store and, when that succeeded, applies it in memory. -/
def acknowledge (config : RuntimeConfig) (io : IoOutcome) (state : Impl) (edit : Edit) : Impl × Status :=
  match state.persist config io edit with
  | (files, .ok ()) => (applyEdit { state with files := files } edit, .ok ())
  | (files, .error failure) => ({ state with files := files }, .error failure)

/-! ## Authority -/

/-- The live registration that a mutation acts under. -/
def authorize (state : Impl) (publisher : PublisherId) (workerBoot : WorkerBootId) :
    Expected PublisherRegistration :=
  match state.administrativeFences[publisher]? with
  | some reason =>
      makeError .fenced ("publisher is administratively fenced: " ++ reason.text)
  | none =>
      match state.registrations[publisher]? with
      | none => makeError .notRegistered "publisher is not registered"
      | some registration => do
          ensure (registration.workerBoot = workerBoot) .staleWorkerBoot
            "the supplied worker boot is not the registered boot for this publisher"
          ensure (registration.epoch = state.epoch) .staleEpoch
            "the publisher registration is bound to a stale coordinator epoch"
          ensure (¬ workerBoot ∈ state.fencedBoots) .fenced "worker boot has been fenced"
          pure registration

/-- What a successful authorization says about the state. -/
theorem authorize_eq_ok {state : Impl} {publisher : PublisherId} {workerBoot : WorkerBootId}
    {registration : PublisherRegistration} :
    state.authorize publisher workerBoot = .ok registration ↔
      state.administrativeFences[publisher]? = none ∧
      state.registrations[publisher]? = some registration ∧
      registration.workerBoot = workerBoot ∧ registration.epoch = state.epoch ∧
      ¬ workerBoot ∈ state.fencedBoots := by
  unfold authorize
  split
  · rename_i reason fenced
    simp [fenced]
  · rename_i unfenced
    split
    · rename_i missing
      simp [missing]
    · rename_i found registered
      simp only [bind_eq_ok, exists_unit, ensure_eq_ok, pure_eq_ok, unfenced, registered, true_and,
        Option.some.injEq]
      constructor
      · rintro ⟨boot, epoch, live, rfl⟩
        exact ⟨rfl, boot, epoch, live⟩
      · rintro ⟨rfl, boot, epoch, live⟩
        exact ⟨boot, epoch, live, rfl⟩

end Impl

inductive RouteCurrentness where
  | current
  | notInstalled
  | revalidationRequired
  | staleEpoch
  | stalePublisher
  | staleWorkerBoot
  | stalePathAuthority
  | staleBackendObservation
  | fencedPublisher
  | pathAuthorityRejected
  | withdrawn
  | retired
  | superseded
  | failed
  | revoked
  | desiredAppliedMismatch
deriving DecidableEq

/-- Currentness of a record, from live registrations, epoch, path authority and evidence. -/
def Impl.currentnessOf (env : Env) (state : Impl) (record : RouteRecord) : RouteCurrentness :=
  if (state.revocations[record.id]?).isSome then .revoked
  else match record.lifecycle with
  | .retired => .retired
  | .superseded => .superseded
  | .failed => .failed
  | .withdrawn => .withdrawn
  | _ =>
      if record.provenance.epoch ≠ state.epoch then .staleEpoch
      else match state.registrations[record.provenance.publisher]? with
      | none => .stalePublisher
      | some registration =>
          if registration.workerBoot ≠ record.provenance.workerBoot then .staleWorkerBoot
          else if record.provenance.workerBoot ∈ state.fencedBoots then .fencedPublisher
          else if record.binding.kind = .authorizedPath ∧
              (env.query record.binding.path).state ≠ .usable then .pathAuthorityRejected
          else if record.binding.kind = .authorizedPath ∧
              (env.query record.binding.path).generation ≠ record.binding.pathAuthorityGeneration then
            .stalePathAuthority
          else if record.lifecycle = .revalidationRequired then .revalidationRequired
          else if record.observation.classification = .diverged then .staleBackendObservation
          else if record.observation.classification = .missing then .desiredAppliedMismatch
          else if record.lifecycle = .installed then .current
          else .notInstalled

end RouteFabric
