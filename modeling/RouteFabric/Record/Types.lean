import RouteFabric.Core.RouteKey
import RouteFabric.Core.Lifecycle

/-!
# The route record

The authoritative record of one route lineage with its binding, applied state,
observation, provenance, supersession, retirement and bounded history, and the two
records kept beside it: revocations and programming attempts.
-/

namespace RouteFabric

open ByteReader

/-! ## Desired binding -/

inductive NextHopKind where
  | directEndpoint
  | router
  | port
  | nextHopGroup
deriving DecidableEq

instance : Enumerated NextHopKind where
  values := [.directEndpoint, .router, .port, .nextHopGroup]
  code
    | .directEndpoint => 1
    | .router => 2
    | .port => 3
    | .nextHopGroup => 4
  decodes value := by cases value <;> decide

structure NextHopBinding where
  kind : NextHopKind := .directEndpoint
  nextHop : NextHopId := {}
  nextHopGroup : NextHopGroupId := {}
  entityGeneration : PolicyGeneration := .absent
deriving DecidableEq

/-- A group binding names a group only, every other binding a next hop only. -/
def NextHopBinding.isValid (binding : NextHopBinding) : Bool :=
  binding.entityGeneration.isValid &&
    match binding.kind with
    | .nextHopGroup => binding.nextHopGroup.isValid && !binding.nextHop.isValid
    | _ => binding.nextHop.isValid && !binding.nextHopGroup.isValid

inductive BindingKind where
  | nextHop
  | authorizedPath
deriving DecidableEq

instance : Enumerated BindingKind where
  values := [.nextHop, .authorizedPath]
  code
    | .nextHop => 1
    | .authorizedPath => 2
  decodes value := by cases value <;> decide

/-- The desired binding of a route: a next hop, or an exact path at the exact
generation of the path authority that authorized it. -/
structure RouteBinding where
  kind : BindingKind := .nextHop
  nextHop : NextHopBinding := {}
  path : PathId := {}
  pathAuthorityGeneration : PathAuthorityGeneration := .absent
  policyGeneration : PolicyGeneration := .absent
deriving DecidableEq

def RouteBinding.isValid (binding : RouteBinding) : Bool :=
  match binding.kind with
  | .authorizedPath => binding.path.isValid && binding.pathAuthorityGeneration.isValid
  | .nextHop => binding.nextHop.isValid

/-! ## Applied and observed state -/

inductive AppliedClassification where
  | unknown
  | pending
  | applied
  | idempotentAlreadyApplied
  | rejected
  | notSupported
  | retryableFailure
  | permanentFailure
  | ambiguous
  | withdrawn
  | withdrawFailed
  | backendUnavailable
deriving DecidableEq

instance : Enumerated AppliedClassification where
  values := [.unknown, .pending, .applied, .idempotentAlreadyApplied, .rejected, .notSupported,
    .retryableFailure, .permanentFailure, .ambiguous, .withdrawn, .withdrawFailed,
    .backendUnavailable]
  code
    | .unknown => 1
    | .pending => 2
    | .applied => 3
    | .idempotentAlreadyApplied => 4
    | .rejected => 5
    | .notSupported => 6
    | .retryableFailure => 7
    | .permanentFailure => 8
    | .ambiguous => 9
    | .withdrawn => 10
    | .withdrawFailed => 11
    | .backendUnavailable => 12
  decodes value := by cases value <;> decide

/-- What the programming backend reported, and for which generations. -/
structure AppliedState where
  classification : AppliedClassification := .unknown
  attempt : ProgrammingAttemptId := {}
  programmingGeneration : ProgrammingGeneration := .absent
  programmedGeneration : RouteGeneration := .absent
  programmedAuthorityGeneration : RouteAuthorityGeneration := .absent
  backend : BackendId := {}
  detail : Bytes := []
deriving DecidableEq

def AppliedState.reportsApplied (state : AppliedState) : Bool :=
  state.classification = .applied ∨ state.classification = .idempotentAlreadyApplied

def AppliedState.reportsNotPresent (state : AppliedState) : Bool :=
  state.classification = .withdrawn

inductive ObservationClass where
  | unknown
  | matched
  | missing
  | diverged
  | extra
  | unavailable
deriving DecidableEq

instance : Enumerated ObservationClass where
  values := [.unknown, .matched, .missing, .diverged, .extra, .unavailable]
  code
    | .unknown => 1
    | .matched => 2
    | .missing => 3
    | .diverged => 4
    | .extra => 5
    | .unavailable => 6
  decodes value := by cases value <;> decide

structure BackendObservation where
  classification : ObservationClass := .unknown
  attempt : ProgrammingAttemptId := {}
  observedGeneration : RouteGeneration := .absent
  backend : BackendId := {}
  detail : Bytes := []
deriving DecidableEq

/-! ## Provenance and lineage -/

inductive ProvenanceSourceClass where
  | publisher
  | coordinatorRecovery
  | administrativeAction
  | reconciliation
  | lineageMint
deriving DecidableEq

instance : Enumerated ProvenanceSourceClass where
  values := [.publisher, .coordinatorRecovery, .administrativeAction, .reconciliation, .lineageMint]
  code
    | .publisher => 1
    | .coordinatorRecovery => 2
    | .administrativeAction => 3
    | .reconciliation => 4
    | .lineageMint => 5
  decodes value := by cases value <;> decide

/-- The authority context that produced a mutation. -/
structure Provenance where
  publisher : PublisherId := {}
  workerBoot : WorkerBootId := {}
  epoch : CoordinatorEpoch := .absent
  sourceClass : ProvenanceSourceClass := .publisher
  sourceGeneration : RouteGeneration := .absent
  mutationAttempt : MutationAttemptId := {}
  policyGeneration : PolicyGeneration := .absent
  pathAuthorityGeneration : PathAuthorityGeneration := .absent
deriving DecidableEq

structure LineageEntry where
  generation : RouteGeneration := .absent
  priorGeneration : RouteGeneration := .absent
  event : RouteEvent := .beginValidation
  lifecycle : RouteLifecycle := .declared
  bindingKind : BindingKind := .nextHop
  path : PathId := {}
  pathAuthorityGeneration : PathAuthorityGeneration := .absent
  publisher : PublisherId := {}
  epoch : CoordinatorEpoch := .absent
deriving DecidableEq

inductive SupersessionKind where
  | none
  | replacement
  | lineageTakeover
deriving DecidableEq

instance : Enumerated SupersessionKind where
  values := [.none, .replacement, .lineageTakeover]
  code
    | .none => 0
    | .replacement => 1
    | .lineageTakeover => 2
  decodes value := by cases value <;> decide

structure SupersessionRecord where
  kind : SupersessionKind := .none
  priorGeneration : RouteGeneration := .absent
  successorGeneration : RouteGeneration := .absent
  successorLineage : RouteId := {}
  reason : Bytes := []
  epoch : CoordinatorEpoch := .absent
deriving DecidableEq

inductive RetirementCause where
  | none
  | administrative
  | revoked
  | supersededByLineage
  | epochInvalidated
deriving DecidableEq

instance : Enumerated RetirementCause where
  values := [.none, .administrative, .revoked, .supersededByLineage, .epochInvalidated]
  code
    | .none => 0
    | .administrative => 1
    | .revoked => 2
    | .supersededByLineage => 3
    | .epochInvalidated => 4
  decodes value := by cases value <;> decide

structure RetirementRecord where
  cause : RetirementCause := .none
  reason : Bytes := []
  epoch : CoordinatorEpoch := .absent
  generation : RouteGeneration := .absent
  attempt : MutationAttemptId := {}
deriving DecidableEq

/-- A durable administrative revocation. -/
structure RevocationRecord where
  route : RouteId
  key : RouteKey
  generation : RouteGeneration
  epoch : CoordinatorEpoch
  attempt : MutationAttemptId
  reason : Bytes
deriving DecidableEq

/-! ## Records -/

/-- The authoritative record of one route lineage. -/
structure RouteRecord where
  id : RouteId := {}
  key : RouteKey := {}
  /-- Semantic content generation. -/
  generation : RouteGeneration := .absent
  /-- Authority binding generation. -/
  authorityGeneration : RouteAuthorityGeneration := .absent
  /-- Last authority generation that invalidated the route. -/
  invalidationWatermark : RouteAuthorityGeneration := .absent
  /-- Highest dispatched programming generation. -/
  programmingGeneration : ProgrammingGeneration := .absent
  lifecycle : RouteLifecycle := .declared
  binding : RouteBinding := {}
  applied : AppliedState := {}
  observation : BackendObservation := {}
  provenance : Provenance := {}
  supersession : SupersessionRecord := {}
  retirement : RetirementRecord := {}
  history : List LineageEntry := []
deriving DecidableEq

def RouteRecord.blocksRepublication (record : RouteRecord) : Bool :=
  record.lifecycle = .retired ∨ record.lifecycle = .superseded

inductive ProgrammingOperation where
  | install
  | replace
  | withdraw
deriving DecidableEq

instance : Enumerated ProgrammingOperation where
  values := [.install, .replace, .withdraw]
  code
    | .install => 1
    | .replace => 2
    | .withdraw => 3
  decodes value := by cases value <;> decide

/-- Durable programming attempt state. -/
structure ProgrammingAttemptRecord where
  attempt : ProgrammingAttemptId
  route : RouteId
  desiredGeneration : RouteGeneration
  programmingGeneration : ProgrammingGeneration
  operation : ProgrammingOperation
  epoch : CoordinatorEpoch
  resolved : Bool
deriving DecidableEq

end RouteFabric
