import RouteFabric.Runtime.Explanations

/-!
# The request handler

`handle` takes one decoded frame of a session to the state of the runtime after it, to what the
session remembers and to the one reply that is sent. A payload that does not decode ends the
session; every other request is answered, refused or not, and the session goes on.
-/

namespace RouteFabric

open ByteReader OrderedMap

def MessageId.text : MessageId → String
  | hello => "HELLO"
  | helloResult => "HELLO_RESULT"
  | registerPublisher => "REGISTER_PUBLISHER"
  | registerPublisherResult => "REGISTER_PUBLISHER_RESULT"
  | publishRoute => "PUBLISH_ROUTE"
  | publishRouteResult => "PUBLISH_ROUTE_RESULT"
  | withdrawRoute => "WITHDRAW_ROUTE"
  | withdrawRouteResult => "WITHDRAW_ROUTE_RESULT"
  | revalidateRoute => "REVALIDATE_ROUTE"
  | revalidateRouteResult => "REVALIDATE_ROUTE_RESULT"
  | retireRoute => "RETIRE_ROUTE"
  | retireRouteResult => "RETIRE_ROUTE_RESULT"
  | revokeRoute => "REVOKE_ROUTE"
  | revokeRouteResult => "REVOKE_ROUTE_RESULT"
  | queryRoute => "QUERY_ROUTE"
  | queryRouteResult => "QUERY_ROUTE_RESULT"
  | snapshotRequest => "SNAPSHOT_REQUEST"
  | snapshotResponse => "SNAPSHOT_RESPONSE"
  | backendState => "BACKEND_STATE"
  | fenceNotice => "FENCE_NOTICE"
  | error => "ERROR"
  | reconcileRequest => "RECONCILE_REQUEST"
  | reconcileResult => "RECONCILE_RESULT"
  | epochRequest => "EPOCH_REQUEST"
  | epochResult => "EPOCH_RESULT"
  | statisticsRequest => "STATISTICS_REQUEST"
  | statisticsResult => "STATISTICS_RESULT"
  | applyCompletion => "APPLY_COMPLETION"
  | applyCompletionResult => "APPLY_COMPLETION_RESULT"
  | explainRoute => "EXPLAIN_ROUTE"
  | explainRouteResult => "EXPLAIN_ROUTE_RESULT"

/-! ## The server and its sessions -/

/-- The bounds of the wire and the configuration of the runtime behind it. -/
structure ServerConfig where
  limits : Limits := {}
  runtime : RuntimeConfig

/-- What one request consults: the collaborators of the runtime, the capabilities that the backend
reports, and the counters that the runtime keeps of its own calls. -/
structure ServerEnv extends Env where
  capabilities : BackendCapabilities := {}
  counters : RouteCounters := {}

/-- A session remembers its last registration. -/
structure Session where
  publisher : PublisherId := {}
  workerBoot : WorkerBootId := {}
  registered : Bool := false
deriving DecidableEq

/-- A message that is sent to the peer. -/
structure Reply where
  id : MessageId
  payload : Bytes
deriving DecidableEq

/-- What one frame brings about. -/
structure Handled where
  state : Impl
  session : Session
  reply : Reply
  /-- Whether the session goes on. -/
  goesOn : Bool := true

def reply {α : Type} (id : MessageId) (codec : Codec α) (message : α) : Reply :=
  ⟨id, codec.encode message⟩

def errorReply (code : StatusCode) (detail : String) : Reply :=
  reply .error ErrorMessage.codec { status := code, detail := asciiBytes detail }

/-! ## What the runtime reports of itself -/

namespace Impl

def countRoutes (state : Impl) (counts : RouteRecord → Bool) : Nat :=
  (values state.routes).countP counts

def statistics (env : ServerEnv) (state : Impl) : StatisticsResult where
  epoch := state.epoch
  stateDigest := state.reportedDigest
  routeCount := state.routes.size
  installedCount := state.countRoutes (·.lifecycle = .installed)
  currentCount := state.countRoutes (state.currentnessOf env.toEnv · = .current)
  revalidationRequiredCount := state.countRoutes (·.lifecycle = .revalidationRequired)
  withdrawnCount := state.countRoutes (·.lifecycle = .withdrawn)
  retiredCount := state.countRoutes (·.lifecycle = .retired)
  failedCount := state.countRoutes (·.lifecycle = .failed)
  supersededCount := state.countRoutes (·.lifecycle = .superseded)
  publisherCount := state.registrations.size
  pathDependencyCount := state.pathIndex.size
  outstandingProgrammingCount := state.outstandingProgramming
  revocationCount := state.revocations.size
  routingNamespaceCount := ((values state.routes).map (·.key.routingNamespace)).dedup.length
  counters := env.counters

/-- One more route that was checked. -/
def tally (summary : ReconciliationSummary) : ObservationClass → ReconciliationSummary
  | .matched => { summary with checked := summary.checked + 1, matched := summary.matched + 1 }
  | .missing => { summary with checked := summary.checked + 1, missing := summary.missing + 1 }
  | .diverged => { summary with checked := summary.checked + 1, diverged := summary.diverged + 1 }
  | .extra => { summary with checked := summary.checked + 1, extra := summary.extra + 1 }
  | .unknown | .unavailable =>
      { summary with checked := summary.checked + 1, unavailable := summary.unavailable + 1 }

/-- Reconciles the listed routes in turn; a route that fails is passed over. The index counts the
store writes of the call. -/
def reconcileEach (config : RuntimeConfig) (env : Env) :
    Nat → List RouteId → Impl → ReconciliationSummary → Impl × ReconciliationSummary
  | _, [], state, summary => (state, summary)
  | index, route :: rest, state, summary =>
      match state.reconcileRoute config { env with io := fun _ => env.io index } route with
      | (after, .error _) => reconcileEach config env (index + 1) rest after summary
      | (after, .ok observed) => reconcileEach config env (index + 1) rest after (tally summary observed)

def reconcileAll (config : RuntimeConfig) (env : Env) (state : Impl) :
    Impl × Expected ReconciliationSummary :=
  match state.checkOpened with
  | .error failure => (state, .error failure)
  | .ok () =>
      let reconciled := reconcileEach config env 0 state.routes.keys state {}
      (reconciled.1, .ok reconciled.2)

end Impl

/-! ## Answers

What the handler makes of the result of the runtime. A default message is what the source starts
from, so an error answer leaves the other fields unset. -/

/-- The status part of an answer to a failed call. -/
def Error.wireStatus (failure : Error) : WireStatus where
  status := failure.code
  detail := asciiBytes failure.detail

def registerAnswer : Expected PublisherRegistration → RegisterPublisherResult
  | .ok registration =>
      { detail := asciiBytes "publisher registered", epoch := registration.epoch }
  | .error failure => { toWireStatus := failure.wireStatus }

def publishAnswer : Expected PublishResult → PublishRouteResult
  | .ok published =>
      { route := published.route
        generation := published.generation
        authorityGeneration := published.authorityGeneration
        lifecycle := published.lifecycle
        applied := published.applied
        currentness := published.currentness
        idempotent := published.idempotent
        replaced := published.replaced }
  | .error failure => { toWireStatus := failure.wireStatus }

def mutationAnswer : Expected WithdrawOutcome → RouteMutationResult
  | .ok outcome =>
      { route := outcome.route
        generation := outcome.generation
        lifecycle := outcome.lifecycle
        applied := outcome.applied
        alreadyWithdrawn := outcome.alreadyWithdrawn
        withdrawalInFlight := outcome.withdrawalInFlight }
  | .error failure => { toWireStatus := failure.wireStatus }

/-- A missing route is answered as a success that found nothing. -/
def queryAnswer : Expected RouteSnapshot → QueryRouteResult
  | .ok snapshot => { found := true, snapshot }
  | .error failure =>
      if failure.code = .notFound then { detail := asciiBytes "no route" }
      else { toWireStatus := failure.wireStatus }

def explainAnswer : Expected RouteExplanation → ExplainRouteResult
  | .ok explanation => { found := true, explanation }
  | .error failure =>
      if failure.code = .notFound then { detail := asciiBytes "no route" }
      else { toWireStatus := failure.wireStatus }

def snapshotAnswer : Expected RouteSnapshotSet → SnapshotResponse
  | .ok taken =>
      { epoch := taken.epoch, snapshotId := taken.id, digest := taken.digest, routes := taken.routes }
  | .error failure => { toWireStatus := failure.wireStatus }

def reconcileAllAnswer : Expected ReconciliationSummary → ReconcileResult
  | .ok summary => { summary }
  | .error failure => { toWireStatus := failure.wireStatus }

def reconcileAnswer : Expected ObservationClass → ReconcileResult
  | .ok classification => { classification, summary := { checked := 1 } }
  | .error failure => { toWireStatus := failure.wireStatus }

def completionAnswer : Expected CompletionDisposition → ApplyCompletionResult
  | .ok disposition => { disposition }
  | .error failure => { toWireStatus := failure.wireStatus }

/-! ## Requests of the runtime

What the handler copies of a request. The epoch of the authority context is not among it. -/

def PublishRouteRequest.publish (request : PublishRouteRequest) : PublishRequest where
  publisher := request.context.publisher
  workerBoot := request.context.workerBoot
  attempt := request.context.attempt
  key := request.key
  binding := request.binding
  policyGeneration := request.policyGeneration
  expectedGeneration := request.expectedGeneration
  lineage := request.lineage
  reason := request.reason

def RouteMutationRequest.withdraw (request : RouteMutationRequest) : WithdrawRequest where
  publisher := request.context.publisher
  workerBoot := request.context.workerBoot
  attempt := request.context.attempt
  route := request.route
  expectedGeneration := request.expectedGeneration
  reason := request.reason

/-- A revalidation, a retirement or a revocation. -/
def RouteMutationRequest.mutation (request : RouteMutationRequest) : MutationRequest where
  publisher := request.context.publisher
  workerBoot := request.context.workerBoot
  attempt := request.context.attempt
  route := request.route
  reason := request.reason

/-- The mutation that an identifier names, with its reply identifier. -/
def mutate (config : ServerConfig) (env : ServerEnv) (request : RouteMutationRequest) (state : Impl) :
    MessageId → (Impl × Expected WithdrawOutcome) × MessageId
  | .revalidateRoute =>
      (state.revalidateRoute config.runtime env.toEnv request.mutation, .revalidateRouteResult)
  | .retireRoute => (state.retireRoute config.runtime env.toEnv request.mutation, .retireRouteResult)
  | .revokeRoute => (state.revokeRoute config.runtime env.toEnv request.mutation, .revokeRouteResult)
  | _ => (state.withdrawRoute config.runtime env.toEnv request.withdraw, .withdrawRouteResult)

/-- What the backend says of itself, with evidence about a key when the peer asks for it. -/
def backendAnswer (env : ServerEnv) (request : BackendStateMessage) : BackendStateMessage :=
  let answer : BackendStateMessage := { backend := env.backend.id, capabilities := env.capabilities }
  if request.evidenceIncluded then
    { answer with
      evidenceIncluded := true
      key := request.key
      presence := (env.backend.queryRoute request.key).presence
      evidence := (env.backend.queryRoute request.key).detail }
  else answer

/-! ## The handler -/

section

variable (config : ServerConfig) (env : ServerEnv) (session : Session) (state : Impl)

/-- A payload that does not decode is answered with an error, and the session is closed. -/
def withRequest {α : Type} (codec : Codec α) (payload : Bytes) (serve : α → Handled) : Handled :=
  match codec.decode payload with
  | .error why => ⟨state, session, errorReply .protocolViolation why, false⟩
  | .ok request => serve request

def handleHello (_request : HelloRequest) : Handled where
  state := state
  session := session
  reply := reply .helloResult HelloResult.codec
    { detail := asciiBytes "route fabric coordinator session established"
      wireVersion := wireProtocolVersion
      epoch := state.epoch
      fabric := config.runtime.fabric
      backend := env.backend.id
      backendReadOnly := env.capabilities.readOnly }

/-- The session remembers the registration that succeeded last. -/
def handleRegister (request : RegisterPublisherRequest) : Handled :=
  let registered := state.registerPublisher config.runtime request.context.publisher
    request.context.workerBoot request.scope
  { state := registered.1
    session := if registered.2.isOk then
        ⟨request.context.publisher, request.context.workerBoot, true⟩ else session
    reply := reply .registerPublisherResult RegisterPublisherResult.codec
      (registerAnswer registered.2) }

def handlePublish (request : PublishRouteRequest) : Handled :=
  let published := state.publishRoute config.runtime env.toEnv request.publish
  { state := published.1
    session
    reply := reply .publishRouteResult PublishRouteResult.codec (publishAnswer published.2) }

def handleMutation (id : MessageId) (request : RouteMutationRequest) : Handled :=
  let mutated := mutate config env request state id
  { state := mutated.1.1
    session
    reply := reply mutated.2 RouteMutationResult.codec (mutationAnswer mutated.1.2) }

def handleQuery (request : QueryRouteRequest) : Handled where
  state := state
  session := session
  reply := reply .queryRouteResult (QueryRouteResult.codec config.limits) (queryAnswer
    (if request.byKey then state.queryRoute env.toEnv request.key
     else state.queryRouteById env.toEnv request.route))

def handleExplain (request : QueryRouteRequest) : Handled where
  state := state
  session := session
  reply := reply .explainRouteResult (ExplainRouteResult.codec config.limits) (explainAnswer
    (if request.byKey then state.explainRoute env.toEnv request.key
     else state.explainRouteById env.toEnv request.route))

def handleSnapshot (_request : SnapshotRequest) : Handled where
  state := state
  session := session
  reply := reply .snapshotResponse (SnapshotResponse.codec config.limits)
    (snapshotAnswer (state.snapshot config.runtime.limits env.toEnv))

def handleReconcile (request : ReconcileRequest) : Handled :=
  if request.all then
    let reconciled := state.reconcileAll config.runtime env.toEnv
    { state := reconciled.1
      session
      reply := reply .reconcileResult ReconcileResult.codec (reconcileAllAnswer reconciled.2) }
  else
    let reconciled := state.reconcileRoute config.runtime env.toEnv request.route
    { state := reconciled.1
      session
      reply := reply .reconcileResult ReconcileResult.codec (reconcileAnswer reconciled.2) }

def handleCompletion (request : ApplyCompletionRequest) : Handled :=
  let completed := state.applyProgrammingCompletion config.runtime env.toEnv request.completion
  { state := completed.1
    session
    reply := reply .applyCompletionResult ApplyCompletionResult.codec (completionAnswer completed.2) }

def handle (frame : DecodedFrame) : Handled :=
  match frame.id with
  | .hello =>
      withRequest session state HelloRequest.codec frame.payload (handleHello config env session state)
  | .registerPublisher =>
      withRequest session state (RegisterPublisherRequest.codec config.limits) frame.payload
        (handleRegister config session state)
  | .publishRoute =>
      withRequest session state (PublishRouteRequest.codec config.limits) frame.payload
        (handlePublish config env session state)
  | .withdrawRoute | .revalidateRoute | .retireRoute | .revokeRoute =>
      withRequest session state RouteMutationRequest.codec frame.payload
        (handleMutation config env session state frame.id)
  | .queryRoute =>
      withRequest session state (QueryRouteRequest.codec config.limits) frame.payload
        (handleQuery config env session state)
  | .explainRoute =>
      withRequest session state (QueryRouteRequest.codec config.limits) frame.payload
        (handleExplain config env session state)
  | .snapshotRequest =>
      withRequest session state SnapshotRequest.codec frame.payload
        (handleSnapshot config env session state)
  | .statisticsRequest =>
      { state, session
        reply := reply .statisticsResult StatisticsResult.codec (state.statistics env) }
  | .epochRequest =>
      { state, session, reply := reply .epochResult EpochResult.codec { epoch := state.epoch } }
  | .reconcileRequest =>
      withRequest session state ReconcileRequest.codec frame.payload
        (handleReconcile config env session state)
  | .applyCompletion =>
      withRequest session state ApplyCompletionRequest.codec frame.payload
        (handleCompletion config env session state)
  | .backendState =>
      withRequest session state (BackendStateMessage.codec config.limits) frame.payload fun request =>
        { state, session
          reply := reply .backendState (BackendStateMessage.codec config.limits)
            (backendAnswer env request) }
  | id => ⟨state, session, errorReply .protocolViolation ("unexpected message " ++ id.text), false⟩

end

end RouteFabric
