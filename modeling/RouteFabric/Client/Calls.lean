import RouteFabric.Server.Handle

/-!
# The client

Every call of the client is one exchange: a frame is sent, and one frame is read from what arrives.
`exchange` is that part, which all calls share; the peer is a parameter of it. A call returns the
client after it, since a handshake and a registration leave their mark on the authority context.
-/

namespace RouteFabric

open ByteReader

/-- A client with its authority context, the backend that the handshake named, and the bytes that
arrived and were not read. -/
structure Client where
  limits : Limits := {}
  connected : Bool := true
  context : RequestContext := {}
  backend : BackendId := {}
  ids : SeededIdSource
  unread : Bytes := []

/-- The peer takes the bytes of a frame, or the socket says why it does not. What arrives in answer
ends with the text that the socket has for a read beyond it. -/
structure Peer (World : Type) where
  send : Bytes → World → World × Except String Bytes
  ended : World → String

/-- What a call leaves behind and what it returns. -/
structure Called (World α : Type) where
  client : Client
  world : World
  result : Expected α

/-- Looks at the answer of a call. -/
def Called.andThen {World α β : Type} (called : Called World α) (next : α → Expected β) :
    Called World β :=
  ⟨called.client, called.world, called.result >>= next⟩

/-- The part of an answer that says whether its call succeeded. -/
def WireStatus.check {α : Type} (answer : WireStatus) (value : α) : Expected α :=
  if answer.status ≠ .ok then makeError answer.status (textOf answer.detail) else .ok value

namespace Client

variable {World α β : Type}

def nextAttempt (client : Client) : Client × MutationAttemptId :=
  let drawn : MutationAttemptId × SeededIdSource := generateId client.ids
  ({ client with context := { client.context with attempt := drawn.1 }, ids := drawn.2 }, drawn.1)

/-! ## Frames -/

/-- The bytes of a frame that the client is ready to send. -/
def sendFrame (client : Client) (id : MessageId) (payload : Bytes) : Expected Bytes := do
  ensure (client.connected = true) .notFound "the client is not connected"
  ensure (payload.length ≤ client.limits.maxFrameBytes) .limitExceeded
    "the frame payload exceeds the configured bound"
  pure (encodeFrame id payload)

/-- One frame off the bytes that arrived, and the bytes after it. -/
def receiveFrame (limits : Limits) (ended : String) (unread : Bytes) : Expected DecodedFrame × Bytes :=
  if unread.length < frameHeaderBytes then (makeError .protocolViolation ended, [])
  else
    match frameHeaderStatus (unread.take frameHeaderBytes) limits with
    | .error refusal => (makeError .protocolViolation refusal.why, unread.drop frameHeaderBytes)
    | .ok total =>
        if unread.length < total then (makeError .protocolViolation ended, [])
        else
          match decodeFrame (unread.take total) limits with
          | .error refusal => (makeError .integrityFailure refusal.why, unread.drop total)
          | .ok frame => (.ok frame, unread.drop total)

/-- The frame that answers a request, unless it is an error or answers something else. -/
def expectFrame (expected : MessageId) (received : Expected DecodedFrame) : Expected DecodedFrame := do
  let frame ← received
  if frame.id = .error then
    match ErrorMessage.codec.decode frame.payload with
    | .ok message => makeError message.status (textOf message.detail)
    | .error _ => makeError .protocolViolation "malformed error response"
  else if frame.id ≠ expected then
    makeError .protocolViolation ("unexpected response " ++ frame.id.text)
  else pure frame

/-- The message in a frame that was expected. -/
def readAnswer (codec : Codec α) (expected : MessageId) (received : Expected DecodedFrame) : Expected α := do
  let frame ← expectFrame expected received
  match codec.decode frame.payload with
  | .ok message => pure message
  | .error why => makeError .protocolViolation why

/-- One request and the answer to it. -/
def exchange (peer : Peer World) (id expected : MessageId) (payload : Bytes) (codec : Codec α)
    (client : Client) (world : World) : Called World α :=
  match client.sendFrame id payload with
  | .error failure => ⟨client, world, .error failure⟩
  | .ok image =>
      match peer.send image world with
      | (after, .error why) => ⟨client, after, makeError .protocolViolation why⟩
      | (after, .ok arrived) =>
          let received := receiveFrame client.limits (peer.ended after) (client.unread ++ arrived)
          ⟨{ client with unread := received.2 }, after, readAnswer codec expected received.1⟩

/-! ## Checks before a request -/

/-- An authority context that no peer can decode is refused before it is sent. -/
def validateContext (context : RequestContext) : Status := do
  ensure (context.publisher.isValid = true) .invalidArgument "the client has no publisher identity"
  ensure (context.workerBoot.isValid = true) .invalidArgument "the client has no worker boot identity"
  ensure (context.epoch.isValid = true) .invalidArgument
    "the client has no coordinator epoch; complete a hello handshake or set one explicitly"

/-- A call that is made only when its checks pass. -/
def guarded (checks : Status) (call : Client → World → Called World α) (client : Client) (world : World) :
    Called World α :=
  match checks with
  | .error failure => ⟨client, world, .error failure⟩
  | .ok () => call client world

/-- A mutation needs an attempt identity as well. -/
def validateMutation (context : RequestContext) (missing : String) : Status := do
  validateContext context
  ensure (context.attempt.isValid = true) .invalidArgument missing

/-- The text of a mutation that has no attempt identity. -/
def noAttempt : String := "the client has no mutation attempt identity; call next_attempt()"

/-! ## Calls that change something -/

section

variable (peer : Peer World) (client : Client) (world : World)

/-- The handshake teaches the client the epoch and the backend. -/
def hello (clientName : Bytes) : Called World HelloResult :=
  let called := exchange peer .hello .helloResult
    (HelloRequest.codec.encode { wireVersion := wireProtocolVersion, clientName }) HelloResult.codec
    client world
  match called.result with
  | .error _ => called
  | .ok result =>
      if result.status = .ok then
        { called with
          client := { called.client with
            context := { called.client.context with epoch := result.epoch }
            backend := result.backend } }
      else called

def registerPublisher (scope : PublisherScope) : Called World RegisterPublisherResult :=
  let called := guarded (validateMutation client.context noAttempt)
    (exchange peer .registerPublisher .registerPublisherResult
      ((RegisterPublisherRequest.codec client.limits).encode { context := client.context, scope })
      RegisterPublisherResult.codec)
    client world
  match called.result with
  | .error _ => called
  | .ok result =>
      if result.status = .ok ∧ result.epoch.isValid = true then
        { called with
          client := { called.client with
            context := { called.client.context with epoch := result.epoch } } }
      else called

def publishRoute (key : RouteKey) (binding : RouteBinding) (policyGeneration : PolicyGeneration)
    (expectedGeneration : RouteGeneration) (lineage : RouteId) (reason : Bytes) :
    Called World PublishRouteResult :=
  guarded (validateMutation client.context noAttempt)
    (exchange peer .publishRoute .publishRouteResult
      ((PublishRouteRequest.codec client.limits).encode
        { context := client.context, key, binding, policyGeneration, expectedGeneration, lineage, reason })
      PublishRouteResult.codec)
    client world

def sendMutation (request expected : MessageId) (route : RouteId) (expectedGeneration : RouteGeneration)
    (reason : Bytes) : Called World RouteMutationResult :=
  guarded (validateMutation client.context "no mutation attempt identity; call next_attempt()")
    (exchange peer request expected
      (RouteMutationRequest.codec.encode { context := client.context, route, expectedGeneration, reason })
      RouteMutationResult.codec)
    client world

def withdrawRoute (route : RouteId) (expectedGeneration : RouteGeneration) (reason : Bytes) :
    Called World RouteMutationResult :=
  sendMutation peer client world .withdrawRoute .withdrawRouteResult route expectedGeneration reason

def revalidateRoute (route : RouteId) (reason : Bytes) : Called World RouteMutationResult :=
  sendMutation peer client world .revalidateRoute .revalidateRouteResult route .absent reason

def retireRoute (route : RouteId) (reason : Bytes) : Called World RouteMutationResult :=
  sendMutation peer client world .retireRoute .retireRouteResult route .absent reason

def revokeRoute (route : RouteId) (reason : Bytes) : Called World RouteMutationResult :=
  sendMutation peer client world .revokeRoute .revokeRouteResult route .absent reason

def applyCompletion (completion : Impl.ProgrammingCompletion) : Called World ApplyCompletionResult :=
  (guarded (validateContext client.context)
    (exchange peer .applyCompletion .applyCompletionResult
      (ApplyCompletionRequest.codec.encode { context := client.context, completion })
      ApplyCompletionResult.codec)
    client world).andThen fun result => result.check result

def reconcile (all : Bool) (route : RouteId) : Called World ReconcileResult :=
  (guarded (validateContext client.context)
    (exchange peer .reconcileRequest .reconcileResult
      (ReconcileRequest.codec.encode { context := client.context, all, route }) ReconcileResult.codec)
    client world).andThen fun result => result.check result

def reconcileAll : Called World ReconcileResult := reconcile peer client world true {}

def reconcileRoute (route : RouteId) : Called World ReconcileResult := reconcile peer client world false route

/-! ## Queries -/

/-- A query whose answer says whether a route was found. -/
def sendQuery (request : QueryRouteRequest) (absent : String) : Called World RouteSnapshot :=
  (exchange peer .queryRoute .queryRouteResult ((QueryRouteRequest.codec client.limits).encode request)
    (QueryRouteResult.codec client.limits) client world).andThen fun result => do
      result.check ()
      ensure (result.found = true) .notFound absent
      pure result.snapshot

def queryRouteByKey (key : RouteKey) : Called World RouteSnapshot :=
  sendQuery peer client world { byKey := true, key } "no route for that key"

def queryRouteById (route : RouteId) : Called World RouteSnapshot :=
  sendQuery peer client world { byKey := false, route } "no route with that identity"

def sendExplain (request : QueryRouteRequest) (absent : String) : Called World RouteExplanation :=
  (exchange peer .explainRoute .explainRouteResult ((QueryRouteRequest.codec client.limits).encode request)
    (ExplainRouteResult.codec client.limits) client world).andThen fun result => do
      result.check ()
      ensure (result.found = true) .notFound absent
      pure result.explanation

def explainRouteByKey (key : RouteKey) : Called World RouteExplanation :=
  sendExplain peer client world { byKey := true, key } "no route for that key"

def explainRouteById (route : RouteId) : Called World RouteExplanation :=
  sendExplain peer client world { byKey := false, route } "no route with that identity"

def snapshot : Called World SnapshotResponse :=
  (guarded (validateContext client.context)
    (exchange peer .snapshotRequest .snapshotResponse
      (SnapshotRequest.codec.encode { epoch := client.context.epoch }) (SnapshotResponse.codec client.limits))
    client world).andThen fun response => response.check response

def statistics : Called World StatisticsResult :=
  (exchange peer .statisticsRequest .statisticsResult [] StatisticsResult.codec client world).andThen
    fun result => result.check result

def epoch : Called World CoordinatorEpoch :=
  (exchange peer .epochRequest .epochResult [] EpochResult.codec client world).andThen
    fun result => result.check result.epoch

/-- The state of the backend, with evidence about a key if one is given. -/
def askBackend (request : BackendStateMessage) : Called World BackendStateMessage :=
  (guarded (ensure (client.backend.isValid = true) .notOpen
      "the client has not completed a handshake with a coordinator")
    (exchange peer .backendState .backendState ((BackendStateMessage.codec client.limits).encode request)
      (BackendStateMessage.codec client.limits))
    client world).andThen fun result => result.check result

def backendState : Called World BackendStateMessage :=
  askBackend peer client world { backend := client.backend }

def backendStateFor (key : RouteKey) : Called World BackendStateMessage :=
  askBackend peer client world { backend := client.backend, evidenceIncluded := true, key }

end

end Client

end RouteFabric
