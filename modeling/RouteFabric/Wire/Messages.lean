import RouteFabric.Wire.Fields

/-!
# Wire messages

One payload format for each message of the protocol, in the order of the header. A format
carries the proof that its reader consumes exactly what its writer writes, so
`decode_canonical` is read off the formats once for all of them.
-/

namespace RouteFabric

open ByteReader

/-! ## Session messages -/

/-- The longest name a client may give itself. -/
def maxClientNameChars : Nat := 64

structure HelloRequest where
  wireVersion : Nat := 0
  clientName : Bytes := []
deriving DecidableEq

def HelloRequest.codec : Codec HelloRequest where
  write message := [leBytes 2 message.wireVersion, writeString message.clientName].flatten
  read := do
    let wireVersion ← because "malformed hello version" (word 2)
    because "unsupported wire protocol version in hello" (require (wireVersion = wireProtocolVersion))
    let clientName ← because "malformed client name" (string maxClientNameChars)
    pure { wireVersion, clientName }
  trailing := "trailing bytes in the hello payload"
  canonical :=
    Consumes.field ((Canonical.word 2).because _) fun _ _ =>
      Consumes.field (Canonical.guard _ _) fun _ _ =>
        Consumes.field ((Canonical.string _).because _) fun _ _ => Consumes.pure ⟨rfl, trivial⟩

structure HelloResult extends WireStatus where
  wireVersion : Nat := 0
  epoch : CoordinatorEpoch := .absent
  fabric : FabricId := {}
  backend : BackendId := {}
  backendReadOnly : Bool := false
deriving DecidableEq

def HelloResult.codec : Codec HelloResult where
  write message := [message.toWireStatus.write, leBytes 2 message.wireVersion, message.epoch.write,
    message.fabric.write, message.backend.write, writeBoolean message.backendReadOnly].flatten
  read := do
    let status ← because "malformed hello result status" WireStatus.read
    let wireVersion ← because "malformed hello result version" (word 2)
    because "unsupported wire protocol version in hello result"
      (require (wireVersion = wireProtocolVersion))
    let epoch ← because "malformed hello result epoch" CounterId.read
    let fabric ← because "malformed hello result fabric" TokenId.read
    let backend ← because "malformed hello result backend" TokenId.read
    let backendReadOnly ← because "malformed hello result capability flag" boolean
    pure { toWireStatus := status, wireVersion, epoch, fabric, backend, backendReadOnly }
  trailing := "trailing bytes in the hello result payload"
  canonical :=
    Consumes.field (WireStatus.canonical.because _) fun _ _ =>
      Consumes.field ((Canonical.word 2).because _) fun _ _ =>
        Consumes.field (Canonical.guard _ _) fun _ _ =>
          Consumes.field (CounterId.canonical.because _) fun _ _ =>
            Consumes.field (TokenId.canonical.because _) fun _ _ =>
              Consumes.field (TokenId.canonical.because _) fun _ _ =>
                Consumes.field (canonical_boolean.because _) fun _ _ => Consumes.pure ⟨rfl, trivial⟩

structure RegisterPublisherRequest where
  context : RequestContext
  scope : PublisherScope
deriving DecidableEq

def RegisterPublisherRequest.codec (limits : Limits) : Codec RegisterPublisherRequest where
  write message := [message.context.write, message.scope.write].flatten
  read := do
    let context ← because "malformed registration authority context" RequestContext.read
    let scope ← because "malformed publisher scope" (PublisherScope.read limits)
    pure { context, scope }
  trailing := "trailing bytes in the registration payload"
  canonical :=
    Consumes.field (RequestContext.canonical.because _) fun _ _ =>
      Consumes.field ((PublisherScope.canonical limits).because _) fun _ _ =>
        Consumes.pure ⟨rfl, trivial⟩

structure RegisterPublisherResult extends WireStatus where
  epoch : CoordinatorEpoch := .absent
deriving DecidableEq

def RegisterPublisherResult.codec : Codec RegisterPublisherResult where
  write message := [message.toWireStatus.write, message.epoch.writeOptional].flatten
  read := do
    let status ← because "malformed registration result status" WireStatus.read
    let epoch ← because "malformed registration result epoch" CounterId.readOptionalCounter
    pure { toWireStatus := status, epoch }
  trailing := "trailing bytes in the registration result payload"
  canonical :=
    Consumes.field (WireStatus.canonical.because _) fun _ _ =>
      Consumes.field (CounterId.canonical_optionalCounter.because _) fun _ _ =>
        Consumes.pure ⟨rfl, trivial⟩

/-! ## Publications and mutations -/

structure PublishRouteRequest where
  context : RequestContext
  key : RouteKey
  binding : RouteBinding
  policyGeneration : PolicyGeneration
  expectedGeneration : RouteGeneration := .absent
  lineage : RouteId := {}
  reason : Bytes := []
deriving DecidableEq

def PublishRouteRequest.codec (limits : Limits) : Codec PublishRouteRequest where
  write message := [message.context.write, message.key.write, message.binding.write,
    message.policyGeneration.write, message.expectedGeneration.writeOptional,
    message.lineage.write, writeString message.reason].flatten
  read := do
    let context ← because "malformed publication authority context" RequestContext.read
    let key ← because "malformed route key" (RouteKey.read limits.maxDestinationChars)
    let binding ← because "malformed desired binding" RouteBinding.read
    let policyGeneration ← because "malformed policy generation" CounterId.read
    let expectedGeneration ← because "malformed expected generation" CounterId.readOptionalCounter
    let lineage ← because "malformed lineage identity" FixedId.readOptional
    let reason ← because "malformed publication reason" (string maxDiagnosticChars)
    pure { context, key, binding, policyGeneration, expectedGeneration, lineage, reason }
  trailing := "trailing bytes in the publication payload"
  canonical :=
    Consumes.field (RequestContext.canonical.because _) fun _ _ =>
      Consumes.field ((RouteKey.canonical _).because _) fun _ _ =>
        Consumes.field (RouteBinding.canonical.because _) fun _ _ =>
          Consumes.field (CounterId.canonical.because _) fun _ _ =>
            Consumes.field (CounterId.canonical_optionalCounter.because _) fun _ _ =>
              Consumes.field (FixedId.canonical_optional.because _) fun _ _ =>
                Consumes.field ((Canonical.string _).because _) fun _ _ =>
                  Consumes.pure ⟨rfl, trivial⟩

structure PublishRouteResult extends WireStatus where
  route : RouteId := {}
  generation : RouteGeneration := .absent
  authorityGeneration : RouteAuthorityGeneration := .absent
  lifecycle : RouteLifecycle := .declared
  applied : AppliedClassification := .unknown
  currentness : RouteCurrentness := .notInstalled
  idempotent : Bool := false
  replaced : Bool := false
deriving DecidableEq

def PublishRouteResult.codec : Codec PublishRouteResult where
  write message := [message.toWireStatus.write, message.route.write,
    message.generation.writeOptional, message.authorityGeneration.writeOptional,
    [Enumerated.code message.lifecycle], [Enumerated.code message.applied],
    [Enumerated.code message.currentness], writeBoolean message.idempotent,
    writeBoolean message.replaced].flatten
  read := do
    let status ← because "malformed publication result status" WireStatus.read
    let route ← because "malformed publication result route identity" FixedId.readOptional
    let generation ← because "malformed publication result generation" CounterId.readOptionalCounter
    let authorityGeneration ← because "malformed publication result generation"
      CounterId.readOptionalCounter
    let lifecycle ← because "malformed publication result enumeration" byte
    let classification ← because "malformed publication result enumeration" byte
    let currentness ← because "malformed publication result enumeration" byte
    let lifecycle ← because "unknown enumeration value in the publication result" (known lifecycle)
    let classification ← because "unknown enumeration value in the publication result" (known classification)
    let currentness ← because "unknown enumeration value in the publication result"
      (known currentness)
    let idempotent ← because "malformed publication result flags" boolean
    let replaced ← because "malformed publication result flags" boolean
    pure { toWireStatus := status, route, generation, authorityGeneration, lifecycle, applied := classification,
           currentness, idempotent, replaced }
  trailing := "trailing bytes in the publication result payload"
  canonical := by
    refine Consumes.field (WireStatus.canonical.because _) fun _ _ =>
      Consumes.field (FixedId.canonical_optional.because _) fun _ _ =>
        Consumes.field (CounterId.canonical_optionalCounter.because _) fun _ _ =>
          Consumes.field (CounterId.canonical_optionalCounter.because _) fun _ _ =>
            Consumes.field (Canonical.byte.because _) fun _ _ =>
              Consumes.field (Canonical.byte.because _) fun _ _ =>
                Consumes.field (Canonical.byte.because _) fun _ _ =>
                  Consumes.field ((Canonical.known _).because _) ?_
    rintro lifecycle rfl
    refine Consumes.field ((Canonical.known _).because _) ?_
    rintro classification rfl
    refine Consumes.field ((Canonical.known _).because _) ?_
    rintro currentness rfl
    exact Consumes.field (canonical_boolean.because _) fun _ _ =>
      Consumes.field (canonical_boolean.because _) fun _ _ => Consumes.pure ⟨rfl, trivial⟩

structure RouteMutationRequest where
  context : RequestContext
  route : RouteId := {}
  expectedGeneration : RouteGeneration := .absent
  reason : Bytes := []
deriving DecidableEq

def RouteMutationRequest.codec : Codec RouteMutationRequest where
  write message := [message.context.write, message.route.write,
    message.expectedGeneration.writeOptional, writeString message.reason].flatten
  read := do
    let context ← because "malformed mutation authority context" RequestContext.read
    let route ← because "malformed route identity" FixedId.readOptional
    let expectedGeneration ← because "malformed expected generation" CounterId.readOptionalCounter
    let reason ← because "malformed mutation reason" (string maxDiagnosticChars)
    pure { context, route, expectedGeneration, reason }
  trailing := "trailing bytes in the mutation payload"
  canonical :=
    Consumes.field (RequestContext.canonical.because _) fun _ _ =>
      Consumes.field (FixedId.canonical_optional.because _) fun _ _ =>
        Consumes.field (CounterId.canonical_optionalCounter.because _) fun _ _ =>
          Consumes.field ((Canonical.string _).because _) fun _ _ => Consumes.pure ⟨rfl, trivial⟩

structure RouteMutationResult extends WireStatus where
  route : RouteId := {}
  generation : RouteGeneration := .absent
  lifecycle : RouteLifecycle := .declared
  applied : AppliedClassification := .unknown
  alreadyWithdrawn : Bool := false
  withdrawalInFlight : Bool := false
deriving DecidableEq

def RouteMutationResult.codec : Codec RouteMutationResult where
  write message := [message.toWireStatus.write, message.route.write,
    message.generation.writeOptional, [Enumerated.code message.lifecycle],
    [Enumerated.code message.applied], writeBoolean message.alreadyWithdrawn,
    writeBoolean message.withdrawalInFlight].flatten
  read := do
    let status ← because "malformed mutation result status" WireStatus.read
    let route ← because "malformed mutation result route identity" FixedId.readOptional
    let generation ← because "malformed mutation result generation" CounterId.readOptionalCounter
    let lifecycle ← because "malformed mutation result enumeration" byte
    let classification ← because "malformed mutation result enumeration" byte
    let lifecycle ← because "unknown enumeration value in the mutation result" (known lifecycle)
    let classification ← because "unknown enumeration value in the mutation result" (known classification)
    let alreadyWithdrawn ← because "malformed mutation result flag" boolean
    let withdrawalInFlight ← because "malformed mutation result flag" boolean
    pure { toWireStatus := status, route, generation, lifecycle, applied := classification, alreadyWithdrawn,
           withdrawalInFlight }
  trailing := "trailing bytes in the mutation result payload"
  canonical := by
    refine Consumes.field (WireStatus.canonical.because _) fun _ _ =>
      Consumes.field (FixedId.canonical_optional.because _) fun _ _ =>
        Consumes.field (CounterId.canonical_optionalCounter.because _) fun _ _ =>
          Consumes.field (Canonical.byte.because _) fun _ _ =>
            Consumes.field (Canonical.byte.because _) fun _ _ =>
              Consumes.field ((Canonical.known _).because _) ?_
    rintro lifecycle rfl
    refine Consumes.field ((Canonical.known _).because _) ?_
    rintro classification rfl
    exact Consumes.field (canonical_boolean.because _) fun _ _ =>
      Consumes.field (canonical_boolean.because _) fun _ _ => Consumes.pure ⟨rfl, trivial⟩

/-! ## Queries and snapshots -/

structure QueryRouteRequest where
  byKey : Bool := true
  key : RouteKey := {}
  route : RouteId := {}
deriving DecidableEq

/-- The reader demands a valid key whichever of the two the query goes by. -/
def QueryRouteRequest.codec (limits : Limits) : Codec QueryRouteRequest where
  write message := [writeBoolean message.byKey, message.key.write, message.route.write].flatten
  read := do
    let byKey ← because "malformed query selector" boolean
    let key ← because "malformed query route key" (RouteKey.read limits.maxDestinationChars)
    let route ← because "malformed query route identity" FixedId.readOptional
    pure { byKey, key, route }
  trailing := "trailing bytes in the query payload"
  canonical :=
    Consumes.field (canonical_boolean.because _) fun _ _ =>
      Consumes.field ((RouteKey.canonical _).because _) fun _ _ =>
        Consumes.field (FixedId.canonical_optional.because _) fun _ _ => Consumes.pure ⟨rfl, trivial⟩

structure QueryRouteResult extends WireStatus where
  found : Bool := false
  snapshot : RouteSnapshot := .unset
deriving DecidableEq

/-- The snapshot is sent and checked whether or not a route was found. -/
def QueryRouteResult.codec (limits : Limits) : Codec QueryRouteResult where
  write message :=
    [message.toWireStatus.write, writeBoolean message.found, message.snapshot.write].flatten
  read := do
    let status ← because "malformed query result status" WireStatus.read
    let found ← because "malformed query result flag" boolean
    let snapshot ← RouteSnapshot.read limits
    pure { toWireStatus := status, found, snapshot }
  trailing := "trailing bytes in the query result payload"
  canonical :=
    Consumes.field (WireStatus.canonical.because _) fun _ _ =>
      Consumes.field (canonical_boolean.because _) fun _ _ =>
        Consumes.field (RouteSnapshot.canonical limits) fun _ _ => Consumes.pure ⟨rfl, trivial⟩

structure SnapshotRequest where
  epoch : CoordinatorEpoch := .absent
deriving DecidableEq

def SnapshotRequest.codec : Codec SnapshotRequest where
  write message := [message.epoch.writeOptional].flatten
  read := do
    let epoch ← because "malformed snapshot request epoch" CounterId.readOptionalCounter
    pure { epoch }
  trailing := "trailing bytes in the snapshot request payload"
  canonical :=
    Consumes.field (CounterId.canonical_optionalCounter.because _) fun _ _ =>
      Consumes.pure ⟨rfl, trivial⟩

structure SnapshotResponse extends WireStatus where
  epoch : CoordinatorEpoch := .absent
  snapshotId : RouteSnapshotId := {}
  digest : Digest128 := 0
  routes : List RouteSnapshot := []
deriving DecidableEq

def SnapshotResponse.codec (limits : Limits) : Codec SnapshotResponse where
  write message := [message.toWireStatus.write, message.epoch.write, message.snapshotId.write,
    bytes128 message.digest, writeList RouteSnapshot.write message.routes].flatten
  read := do
    let status ← because "malformed snapshot response status" WireStatus.read
    let epoch ← because "malformed snapshot response epoch" CounterId.read
    let snapshotId ← because "malformed snapshot response identity" FixedId.read
    let digest ← because "malformed snapshot response digest" readDigest
    let routes ← listOf "malformed snapshot response count"
      "snapshot response exceeds the configured route bound" limits.maxSnapshotRoutes
      (RouteSnapshot.read limits)
    pure { toWireStatus := status, epoch, snapshotId, digest, routes }
  trailing := "trailing bytes in the snapshot response payload"
  canonical :=
    Consumes.field (WireStatus.canonical.because _) fun _ _ =>
      Consumes.field (CounterId.canonical.because _) fun _ _ =>
        Consumes.field (FixedId.canonical.because _) fun _ _ =>
          Consumes.field (canonical_digest.because _) fun _ _ =>
            Consumes.field ((RouteSnapshot.canonical limits).listOf _ _ _) fun _ _ =>
              Consumes.pure ⟨rfl, trivial⟩

/-! ## Backend state, fences and errors -/

structure BackendCapabilities where
  install : Bool := false
  replace : Bool := false
  withdraw : Bool := false
  query : Bool := false
  readOnly : Bool := false
deriving DecidableEq

namespace BackendCapabilities

def write (capabilities : BackendCapabilities) : Bytes :=
  [writeBoolean capabilities.install, writeBoolean capabilities.replace,
    writeBoolean capabilities.withdraw, writeBoolean capabilities.query,
    writeBoolean capabilities.readOnly].flatten

def read : Reader BackendCapabilities := do
  let install ← boolean
  let replace ← boolean
  let withdraw ← boolean
  let query ← boolean
  let readOnly ← boolean
  pure { install, replace, withdraw, query, readOnly }

theorem canonical : Canonical read write fun _ => True :=
  Consumes.field canonical_boolean fun _ _ =>
    Consumes.field canonical_boolean fun _ _ =>
      Consumes.field canonical_boolean fun _ _ =>
        Consumes.field canonical_boolean fun _ _ =>
          Consumes.field canonical_boolean fun _ _ => Consumes.pure ⟨rfl, trivial⟩

end BackendCapabilities

structure BackendStateMessage extends WireStatus where
  backend : BackendId := {}
  capabilities : BackendCapabilities := {}
  evidenceIncluded : Bool := false
  key : RouteKey := {}
  presence : BackendPresence := .unknown
  evidence : Bytes := []
deriving DecidableEq

namespace BackendStateMessage

/-- What the backend says of one key is written only when the message includes it. -/
def write (message : BackendStateMessage) : Bytes :=
  [message.toWireStatus.write, message.backend.write, message.capabilities.write,
    writeBoolean message.evidenceIncluded,
    if message.evidenceIncluded then
      [message.key.write, [Enumerated.code message.presence], writeString message.evidence].flatten
    else []].flatten

def read (limits : Limits) : Reader BackendStateMessage := do
  let status ← because "malformed backend state status" WireStatus.read
  let backend ← because "malformed backend identity" TokenId.read
  let capabilities ← because "malformed backend capabilities" BackendCapabilities.read
  let evidenceIncluded ← because "malformed backend evidence flag" boolean
  if evidenceIncluded then do
    let key ← because "malformed backend state route key" (RouteKey.read limits.maxDestinationChars)
    let presence ← because "malformed backend presence" byte
    let presence ← because "unknown backend presence value" (known presence)
    let evidence ← because "malformed backend evidence text" (string maxDiagnosticChars)
    pure { toWireStatus := status, backend, capabilities, evidenceIncluded := true, key, presence,
           evidence }
  else pure { toWireStatus := status, backend, capabilities }

theorem canonical (limits : Limits) : Canonical (read limits) write fun _ => True := by
  refine Consumes.field (WireStatus.canonical.because _) fun _ _ =>
    Consumes.field (TokenId.canonical.because _) fun _ _ =>
      Consumes.field (BackendCapabilities.canonical.because _) fun _ _ =>
        Consumes.field (canonical_boolean.because _) fun evidenceIncluded _ => ?_
  cases evidenceIncluded with
  | false => exact Consumes.pure ⟨rfl, trivial⟩
  | true =>
      refine Consumes.field ((RouteKey.canonical _).because _) fun _ _ =>
        Consumes.field (Canonical.byte.because _) fun _ _ =>
          Consumes.field ((Canonical.known _).because _) ?_
      rintro presence rfl
      refine Consumes.field ((Canonical.string _).because _) fun _ _ => Consumes.pure ⟨?_, trivial⟩
      simp [write]

def codec (limits : Limits) : Codec BackendStateMessage where
  write := write
  read := read limits
  trailing := "trailing bytes in the backend state payload"
  canonical := canonical limits

end BackendStateMessage

structure FenceNotice where
  publisher : PublisherId := {}
  workerBoot : WorkerBootId := {}
  reason : FencingReason := .sessionClosed
  epoch : CoordinatorEpoch := .absent
deriving DecidableEq

def FenceNotice.codec : Codec FenceNotice where
  write message := [message.publisher.write, message.workerBoot.write,
    [Enumerated.code message.reason], message.epoch.write].flatten
  read := do
    let publisher ← because "malformed fence notice publisher" TokenId.read
    let workerBoot ← because "malformed fence notice worker boot" FixedId.read
    let reason ← because "malformed fence notice reason" byte
    let reason ← because "unknown fencing reason value" (known reason)
    let epoch ← because "malformed fence notice epoch" CounterId.read
    pure { publisher, workerBoot, reason, epoch }
  trailing := "trailing bytes in the fence notice payload"
  canonical := by
    refine Consumes.field (TokenId.canonical.because _) fun _ _ =>
      Consumes.field (FixedId.canonical.because _) fun _ _ =>
        Consumes.field (Canonical.byte.because _) fun _ _ =>
          Consumes.field ((Canonical.known _).because _) ?_
    rintro reason rfl
    exact Consumes.field (CounterId.canonical.because _) fun _ _ => Consumes.pure ⟨rfl, trivial⟩

structure ErrorMessage extends WireStatus where
deriving DecidableEq

def ErrorMessage.codec : Codec ErrorMessage where
  write message := [message.toWireStatus.write].flatten
  read := do
    let status ← because "malformed error status" WireStatus.read
    pure { toWireStatus := status }
  trailing := "trailing bytes in the error payload"
  canonical :=
    Consumes.field (WireStatus.canonical.because _) fun _ _ => Consumes.pure ⟨rfl, trivial⟩

/-! ## Reconciliation, epochs and completions -/

structure ReconcileRequest where
  context : RequestContext
  all : Bool := false
  route : RouteId := {}
deriving DecidableEq

def ReconcileRequest.codec : Codec ReconcileRequest where
  write message := [message.context.write, writeBoolean message.all, message.route.write].flatten
  read := do
    let context ← because "malformed reconcile authority context" RequestContext.read
    let all ← because "malformed reconcile selector" boolean
    let route ← because "malformed reconcile route identity" FixedId.readOptional
    pure { context, all, route }
  trailing := "trailing bytes in the reconcile payload"
  canonical :=
    Consumes.field (RequestContext.canonical.because _) fun _ _ =>
      Consumes.field (canonical_boolean.because _) fun _ _ =>
        Consumes.field (FixedId.canonical_optional.because _) fun _ _ => Consumes.pure ⟨rfl, trivial⟩

structure ReconciliationSummary where
  checked : Nat := 0
  matched : Nat := 0
  missing : Nat := 0
  diverged : Nat := 0
  extra : Nat := 0
  unavailable : Nat := 0
deriving DecidableEq

namespace ReconciliationSummary

def write (summary : ReconciliationSummary) : Bytes :=
  [leBytes 8 summary.checked, leBytes 8 summary.matched, leBytes 8 summary.missing,
    leBytes 8 summary.diverged, leBytes 8 summary.extra, leBytes 8 summary.unavailable].flatten

def read : Reader ReconciliationSummary := do
  let checked ← word 8
  let matched ← word 8
  let missing ← word 8
  let diverged ← word 8
  let extra ← word 8
  let unavailable ← word 8
  pure { checked, matched, missing, diverged, extra, unavailable }

theorem canonical : Canonical read write fun _ => True :=
  Consumes.field (Canonical.word 8) fun _ _ =>
    Consumes.field (Canonical.word 8) fun _ _ =>
      Consumes.field (Canonical.word 8) fun _ _ =>
        Consumes.field (Canonical.word 8) fun _ _ =>
          Consumes.field (Canonical.word 8) fun _ _ =>
            Consumes.field (Canonical.word 8) fun _ _ => Consumes.pure ⟨rfl, trivial⟩

end ReconciliationSummary

structure ReconcileResult extends WireStatus where
  classification : ObservationClass := .unknown
  summary : ReconciliationSummary := {}
deriving DecidableEq

def ReconcileResult.codec : Codec ReconcileResult where
  write message := [message.toWireStatus.write, [Enumerated.code message.classification],
    message.summary.write].flatten
  read := do
    let status ← because "malformed reconcile result status" WireStatus.read
    let classification ← because "malformed reconcile classification" byte
    let classification ← because "unknown reconcile classification value" (known classification)
    let summary ← because "malformed reconcile summary" ReconciliationSummary.read
    pure { toWireStatus := status, classification, summary }
  trailing := "trailing bytes in the reconcile result payload"
  canonical := by
    refine Consumes.field (WireStatus.canonical.because _) fun _ _ =>
      Consumes.field (Canonical.byte.because _) fun _ _ =>
        Consumes.field ((Canonical.known _).because _) ?_
    rintro classification rfl
    exact Consumes.field (ReconciliationSummary.canonical.because _) fun _ _ =>
      Consumes.pure ⟨rfl, trivial⟩

structure EpochResult extends WireStatus where
  epoch : CoordinatorEpoch := .absent
deriving DecidableEq

def EpochResult.codec : Codec EpochResult where
  write message := [message.toWireStatus.write, message.epoch.writeOptional].flatten
  read := do
    let status ← because "malformed epoch result status" WireStatus.read
    let epoch ← because "malformed epoch result epoch" CounterId.readOptionalCounter
    pure { toWireStatus := status, epoch }
  trailing := "trailing bytes in the epoch result payload"
  canonical :=
    Consumes.field (WireStatus.canonical.because _) fun _ _ =>
      Consumes.field (CounterId.canonical_optionalCounter.because _) fun _ _ =>
        Consumes.pure ⟨rfl, trivial⟩

structure ApplyCompletionRequest where
  context : RequestContext
  completion : Impl.ProgrammingCompletion

def ApplyCompletionRequest.codec : Codec ApplyCompletionRequest where
  write message := [message.context.write, message.completion.attempt.write,
    [Enumerated.code message.completion.outcome], writeString message.completion.detail].flatten
  read := do
    let context ← because "malformed completion authority context" RequestContext.read
    let attempt ← because "malformed completion attempt identity" FixedId.read
    let outcome ← because "malformed completion outcome" byte
    let outcome ← because "unknown programming outcome value" (known outcome)
    let detail ← because "malformed completion detail" (string maxDiagnosticChars)
    pure { context, completion := { attempt, outcome, detail } }
  trailing := "trailing bytes in the completion payload"
  canonical := by
    refine Consumes.field (RequestContext.canonical.because _) fun _ _ =>
      Consumes.field (FixedId.canonical.because _) fun _ _ =>
        Consumes.field (Canonical.byte.because _) fun _ _ =>
          Consumes.field ((Canonical.known _).because _) ?_
    rintro outcome rfl
    exact Consumes.field ((Canonical.string _).because _) fun _ _ => Consumes.pure ⟨rfl, trivial⟩

structure ApplyCompletionResult extends WireStatus where
  disposition : CompletionDisposition := .unknownAttempt
deriving DecidableEq

def ApplyCompletionResult.codec : Codec ApplyCompletionResult where
  write message := [message.toWireStatus.write, [Enumerated.code message.disposition]].flatten
  read := do
    let status ← because "malformed completion result status" WireStatus.read
    let disposition ← because "malformed completion disposition" byte
    let disposition ← because "unknown completion disposition value" (known disposition)
    pure { toWireStatus := status, disposition }
  trailing := "trailing bytes in the completion result payload"
  canonical := by
    refine Consumes.field (WireStatus.canonical.because _) fun _ _ =>
      Consumes.field (Canonical.byte.because _) fun _ _ =>
        Consumes.field ((Canonical.known _).because _) ?_
    rintro disposition rfl
    exact Consumes.pure ⟨rfl, trivial⟩

/-! ## Statistics -/

/-- The counters that a runtime reports of itself. -/
structure RouteCounters where
  publications : Nat := 0
  replacements : Nat := 0
  idempotentPublications : Nat := 0
  withdrawals : Nat := 0
  revalidations : Nat := 0
  retirements : Nat := 0
  revocations : Nat := 0
  supersessions : Nat := 0
  programmingDispatches : Nat := 0
  programmingDeferred : Nat := 0
  programmingApplied : Nat := 0
  programmingAmbiguous : Nat := 0
  programmingLifecycleRejected : Nat := 0
  staleCompletionsRejected : Nat := 0
  staleAuthorityRejections : Nat := 0
  scopeViolations : Nat := 0
  pathAuthorityRejections : Nat := 0
  conflicts : Nat := 0
  reconciliations : Nat := 0
deriving DecidableEq

namespace RouteCounters

def write (counters : RouteCounters) : Bytes :=
  [leBytes 8 counters.publications, leBytes 8 counters.replacements,
    leBytes 8 counters.idempotentPublications, leBytes 8 counters.withdrawals,
    leBytes 8 counters.revalidations, leBytes 8 counters.retirements,
    leBytes 8 counters.revocations, leBytes 8 counters.supersessions,
    leBytes 8 counters.programmingDispatches, leBytes 8 counters.programmingDeferred,
    leBytes 8 counters.programmingApplied, leBytes 8 counters.programmingAmbiguous,
    leBytes 8 counters.programmingLifecycleRejected, leBytes 8 counters.staleCompletionsRejected,
    leBytes 8 counters.staleAuthorityRejections, leBytes 8 counters.scopeViolations,
    leBytes 8 counters.pathAuthorityRejections, leBytes 8 counters.conflicts,
    leBytes 8 counters.reconciliations].flatten

def read : Reader RouteCounters := do
  let publications ← word 8
  let replacements ← word 8
  let idempotentPublications ← word 8
  let withdrawals ← word 8
  let revalidations ← word 8
  let retirements ← word 8
  let revocations ← word 8
  let supersessions ← word 8
  let programmingDispatches ← word 8
  let programmingDeferred ← word 8
  let programmingApplied ← word 8
  let programmingAmbiguous ← word 8
  let programmingLifecycleRejected ← word 8
  let staleCompletionsRejected ← word 8
  let staleAuthorityRejections ← word 8
  let scopeViolations ← word 8
  let pathAuthorityRejections ← word 8
  let conflicts ← word 8
  let reconciliations ← word 8
  pure { publications, replacements, idempotentPublications, withdrawals, revalidations,
         retirements, revocations, supersessions, programmingDispatches, programmingDeferred,
         programmingApplied, programmingAmbiguous, programmingLifecycleRejected,
         staleCompletionsRejected, staleAuthorityRejections, scopeViolations,
         pathAuthorityRejections, conflicts, reconciliations }

theorem canonical : Canonical read write fun _ => True := by
  unfold read
  iterate 19 refine Consumes.field (Canonical.word 8) fun _ _ => ?_
  exact Consumes.pure ⟨rfl, trivial⟩

end RouteCounters

/-- How many routes, publishers and attempts there are of each kind. -/
structure StatisticsResult extends WireStatus where
  epoch : CoordinatorEpoch := .absent
  stateDigest : Digest128 := 0
  routeCount : Nat := 0
  installedCount : Nat := 0
  currentCount : Nat := 0
  revalidationRequiredCount : Nat := 0
  withdrawnCount : Nat := 0
  retiredCount : Nat := 0
  failedCount : Nat := 0
  supersededCount : Nat := 0
  publisherCount : Nat := 0
  pathDependencyCount : Nat := 0
  outstandingProgrammingCount : Nat := 0
  revocationCount : Nat := 0
  routingNamespaceCount : Nat := 0
  counters : RouteCounters := {}
deriving DecidableEq

def StatisticsResult.codec : Codec StatisticsResult where
  write message := [message.toWireStatus.write, message.epoch.write, bytes128 message.stateDigest,
    leBytes 8 message.routeCount, leBytes 8 message.installedCount, leBytes 8 message.currentCount,
    leBytes 8 message.revalidationRequiredCount, leBytes 8 message.withdrawnCount,
    leBytes 8 message.retiredCount, leBytes 8 message.failedCount,
    leBytes 8 message.supersededCount, leBytes 8 message.publisherCount,
    leBytes 8 message.pathDependencyCount, leBytes 8 message.outstandingProgrammingCount,
    leBytes 8 message.revocationCount, leBytes 8 message.routingNamespaceCount,
    message.counters.write].flatten
  read := do
    let status ← because "malformed statistics status" WireStatus.read
    let epoch ← because "malformed statistics epoch" CounterId.read
    let stateDigest ← because "malformed statistics digest" readDigest
    let routeCount ← because "malformed statistics counters" (word 8)
    let installedCount ← because "malformed statistics counters" (word 8)
    let currentCount ← because "malformed statistics counters" (word 8)
    let revalidationRequiredCount ← because "malformed statistics counters" (word 8)
    let withdrawnCount ← because "malformed statistics counters" (word 8)
    let retiredCount ← because "malformed statistics counters" (word 8)
    let failedCount ← because "malformed statistics counters" (word 8)
    let supersededCount ← because "malformed statistics counters" (word 8)
    let publisherCount ← because "malformed statistics counters" (word 8)
    let pathDependencyCount ← because "malformed statistics counters" (word 8)
    let outstandingProgrammingCount ← because "malformed statistics counters" (word 8)
    let revocationCount ← because "malformed statistics counters" (word 8)
    let routingNamespaceCount ← because "malformed statistics counters" (word 8)
    let counters ← because "malformed statistics counter block" RouteCounters.read
    pure { toWireStatus := status, epoch, stateDigest, routeCount, installedCount, currentCount,
           revalidationRequiredCount, withdrawnCount, retiredCount, failedCount, supersededCount,
           publisherCount, pathDependencyCount, outstandingProgrammingCount, revocationCount,
           routingNamespaceCount, counters }
  trailing := "trailing bytes in the statistics payload"
  canonical := by
    refine Consumes.field (WireStatus.canonical.because _) fun _ _ =>
      Consumes.field (CounterId.canonical.because _) fun _ _ =>
        Consumes.field (canonical_digest.because _) fun _ _ => ?_
    iterate 13 refine Consumes.field ((Canonical.word 8).because _) fun _ _ => ?_
    exact Consumes.field (RouteCounters.canonical.because _) fun _ _ => Consumes.pure ⟨rfl, trivial⟩

/-! ## Explanations -/

/-- Why a route is authoritative or not, and what its backend last reported. -/
structure RouteExplanation where
  snapshot : RouteSnapshot := .unset
  authoritative : Bool := false
  authorityReason : Bytes := []
  currentnessReason : Bytes := []
  lifecycleReason : Bytes := []
  pathAuthorityReason : Bytes := []
  backendReason : Bytes := []
  reconciliationReason : Bytes := []
  supersessionReason : Bytes := []
  retirementReason : Bytes := []
deriving DecidableEq

namespace RouteExplanation

/-- The longest text of an explanation. -/
def maxReasonChars : Nat := maxDiagnosticChars * 8

def write (explanation : RouteExplanation) : Bytes :=
  [explanation.snapshot.write, writeBoolean explanation.authoritative,
    writeString explanation.authorityReason, writeString explanation.currentnessReason,
    writeString explanation.lifecycleReason, writeString explanation.pathAuthorityReason,
    writeString explanation.backendReason, writeString explanation.reconciliationReason,
    writeString explanation.supersessionReason, writeString explanation.retirementReason].flatten

def read (limits : Limits) : Reader RouteExplanation := do
  let snapshot ← RouteSnapshot.read limits
  let authoritative ← because "malformed explanation authority flag" boolean
  let authorityReason ← because "malformed explanation text" (string maxReasonChars)
  let currentnessReason ← because "malformed explanation text" (string maxReasonChars)
  let lifecycleReason ← because "malformed explanation text" (string maxReasonChars)
  let pathAuthorityReason ← because "malformed explanation text" (string maxReasonChars)
  let backendReason ← because "malformed explanation text" (string maxReasonChars)
  let reconciliationReason ← because "malformed explanation text" (string maxReasonChars)
  let supersessionReason ← because "malformed explanation text" (string maxReasonChars)
  let retirementReason ← because "malformed explanation text" (string maxReasonChars)
  pure { snapshot, authoritative, authorityReason, currentnessReason, lifecycleReason,
         pathAuthorityReason, backendReason, reconciliationReason, supersessionReason,
         retirementReason }

theorem canonical (limits : Limits) : Canonical (read limits) write fun _ => True := by
  refine Consumes.field (RouteSnapshot.canonical limits) fun _ _ =>
    Consumes.field (canonical_boolean.because _) fun _ _ => ?_
  iterate 8 refine Consumes.field ((Canonical.string _).because _) fun _ _ => ?_
  exact Consumes.pure ⟨rfl, trivial⟩

end RouteExplanation

structure ExplainRouteResult extends WireStatus where
  found : Bool := false
  explanation : RouteExplanation := {}
deriving DecidableEq

def ExplainRouteResult.codec (limits : Limits) : Codec ExplainRouteResult where
  write message :=
    [message.toWireStatus.write, writeBoolean message.found, message.explanation.write].flatten
  read := do
    let status ← because "malformed explanation status" WireStatus.read
    let found ← because "malformed explanation flag" boolean
    let explanation ← RouteExplanation.read limits
    pure { toWireStatus := status, found, explanation }
  trailing := "trailing bytes in the explanation payload"
  canonical :=
    Consumes.field (WireStatus.canonical.because _) fun _ _ =>
      Consumes.field (canonical_boolean.because _) fun _ _ =>
        Consumes.field (RouteExplanation.canonical limits) fun _ _ => Consumes.pure ⟨rfl, trivial⟩

/-! ## All message types -/

/-- The message types that have a payload of their own. -/
inductive MessageType where
  | helloRequest
  | helloResult
  | registerPublisherRequest
  | registerPublisherResult
  | publishRouteRequest
  | publishRouteResult
  | routeMutationRequest
  | routeMutationResult
  | queryRouteRequest
  | queryRouteResult
  | snapshotRequest
  | snapshotResponse
  | backendStateMessage
  | fenceNotice
  | errorMessage
  | reconcileRequest
  | reconcileResult
  | epochResult
  | statisticsResult
  | applyCompletionRequest
  | applyCompletionResult
  | explainRouteResult
deriving DecidableEq

namespace MessageType

/-- The values of a message type. -/
def Message : MessageType → Type
  | helloRequest => HelloRequest
  | helloResult => HelloResult
  | registerPublisherRequest => RegisterPublisherRequest
  | registerPublisherResult => RegisterPublisherResult
  | publishRouteRequest => PublishRouteRequest
  | publishRouteResult => PublishRouteResult
  | routeMutationRequest => RouteMutationRequest
  | routeMutationResult => RouteMutationResult
  | queryRouteRequest => QueryRouteRequest
  | queryRouteResult => QueryRouteResult
  | snapshotRequest => SnapshotRequest
  | snapshotResponse => SnapshotResponse
  | backendStateMessage => BackendStateMessage
  | fenceNotice => FenceNotice
  | errorMessage => ErrorMessage
  | reconcileRequest => ReconcileRequest
  | reconcileResult => ReconcileResult
  | epochResult => EpochResult
  | statisticsResult => StatisticsResult
  | applyCompletionRequest => ApplyCompletionRequest
  | applyCompletionResult => ApplyCompletionResult
  | explainRouteResult => ExplainRouteResult

/-- The payload format of a message type. -/
def codec (limits : Limits) : (type : MessageType) → Codec type.Message
  | helloRequest => HelloRequest.codec
  | helloResult => HelloResult.codec
  | registerPublisherRequest => RegisterPublisherRequest.codec limits
  | registerPublisherResult => RegisterPublisherResult.codec
  | publishRouteRequest => PublishRouteRequest.codec limits
  | publishRouteResult => PublishRouteResult.codec
  | routeMutationRequest => RouteMutationRequest.codec
  | routeMutationResult => RouteMutationResult.codec
  | queryRouteRequest => QueryRouteRequest.codec limits
  | queryRouteResult => QueryRouteResult.codec limits
  | snapshotRequest => SnapshotRequest.codec
  | snapshotResponse => SnapshotResponse.codec limits
  | backendStateMessage => BackendStateMessage.codec limits
  | fenceNotice => FenceNotice.codec
  | errorMessage => ErrorMessage.codec
  | reconcileRequest => ReconcileRequest.codec
  | reconcileResult => ReconcileResult.codec
  | epochResult => EpochResult.codec
  | statisticsResult => StatisticsResult.codec
  | applyCompletionRequest => ApplyCompletionRequest.codec
  | applyCompletionResult => ApplyCompletionResult.codec
  | explainRouteResult => ExplainRouteResult.codec limits

end MessageType

/-- An accepted payload is the one encoding of its message: encoding the message gives the
payload back, no other payload is decoded to it, and its encoding is decoded to it again. -/
theorem decode_canonical (type : MessageType) (limits : Limits) (payload : Bytes)
    (message : type.Message) (accepted : (type.codec limits).decode payload = .ok message) :
    (type.codec limits).encode message = payload ∧
      (∀ other, (type.codec limits).decode other = .ok message → other = payload) ∧
      (type.codec limits).decode ((type.codec limits).encode message) = .ok message := by
  have encoded := Codec.encode_of_decode accepted
  refine ⟨encoded, ?_, ?_⟩
  · intro other alsoAccepted
    rw [← encoded]
    exact (Codec.encode_of_decode alsoAccepted).symm
  · rw [encoded]
    exact accepted

/-- The answer to a first publication, in its forty-five bytes. -/
def publishedPayload : Bytes :=
  [0, 0, 0, 0, 0, 0, 0, 0, 0, 0, 0, 0, 0, 0, 0, 0, 0, 0, 0, 0, 0, 7, 1, 1, 0, 0, 0, 0, 0, 0, 0,
    1, 1, 0, 0, 0, 0, 0, 0, 0, 3, 2, 1, 0, 0]

theorem decode_canonical_published :
    (MessageType.codec {} .publishRouteResult).encode
      { route := ⟨7⟩, generation := .one, authorityGeneration := .one, lifecycle := .ready,
        applied := .pending, currentness := .current } = publishedPayload :=
  (decode_canonical .publishRouteResult {} publishedPayload _ (by rfl)).1

end RouteFabric
