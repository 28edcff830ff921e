import RouteFabric.Client.Changes
import RouteFabric.Runtime.Refusals
import RouteFabric.Safety.Committed
import RouteFabric.Wire.Acceptance

/-!
# Queries over a session

A query over a session either returns what the direct call of the runtime returns, or it fails. The
two agree only when something was found and the answer fits into a frame of the client
(`query_agrees_iff`): an answer that found nothing carries the default of the record that was not found,
which no reader accepts, and so does a request that names its route by identity.
-/

namespace RouteFabric

open ByteReader Run Impl Outcomes

/-! ## Queries and their answers -/

/-- What a client can ask about routes. -/
inductive Query where
  | routeByKey (key : RouteKey)
  | routeById (route : RouteId)
  | explanationByKey (key : RouteKey)
  | explanationById (route : RouteId)
  | snapshot

/-- What a query returns. -/
inductive QueryAnswer where
  | route (snapshot : RouteSnapshot)
  | explanation (explanation : RouteExplanation)
  | snapshot (response : SnapshotResponse)

/-- The direct call of the runtime. A set of snapshots is compared as the response that carries it. -/
def Query.direct (limits : Limits) (env : Env) (state : Impl) : Query → Expected QueryAnswer
  | .routeByKey key => return .route (← state.queryRoute env key)
  | .routeById route => return .route (← state.queryRouteById env route)
  | .explanationByKey key => return .explanation (← state.explainRoute env key)
  | .explanationById route => return .explanation (← state.explainRouteById env route)
  | .snapshot => return .snapshot (snapshotAnswer (.ok (← state.snapshot limits env)))

/-- The call of the client. -/
def Client.query {World : Type} (peer : Peer World) (client : Client) (world : World) :
    Query → Called World QueryAnswer
  | .routeByKey key => (client.queryRouteByKey peer world key).andThen (pure ∘ .route)
  | .routeById route => (client.queryRouteById peer world route).andThen (pure ∘ .route)
  | .explanationByKey key => (client.explainRouteByKey peer world key).andThen (pure ∘ .explanation)
  | .explanationById route => (client.explainRouteById peer world route).andThen (pure ∘ .explanation)
  | .snapshot => (client.snapshot peer world).andThen (pure ∘ .snapshot)

/-- The request of a query for a route or its explanation. -/
def Query.selector : Query → QueryRouteRequest
  | .routeByKey key | .explanationByKey key => { byKey := true, key }
  | .routeById route | .explanationById route => { byKey := false, route }
  | .snapshot => { byKey := false }

/-- The frame that carries a query. Its writer does not look at limits. -/
def Query.frame (context : RequestContext) (query : Query) : DecodedFrame :=
  match query with
  | .routeByKey _ | .routeById _ =>
      ⟨.queryRoute, wireProtocolVersion, (QueryRouteRequest.codec {}).encode query.selector⟩
  | .explanationByKey _ | .explanationById _ =>
      ⟨.explainRoute, wireProtocolVersion, (QueryRouteRequest.codec {}).encode query.selector⟩
  | .snapshot =>
      ⟨.snapshotRequest, wireProtocolVersion, SnapshotRequest.codec.encode { epoch := context.epoch }⟩

/-- Two calls return the same value, or they fail with the same status code. -/
inductive Agrees {α : Type} : Expected α → Expected α → Prop where
  | value (answer : α) : Agrees (.ok answer) (.ok answer)
  | failure (direct relayed : Error) (same : direct.code = relayed.code) :
      Agrees (.error direct) (.error relayed)

/-- What has to be there for a query to be answered: the client names the route by a key that the
server reads, and the route is held by a record that the client reads. -/
def Query.Answerable (config : ServerConfig) (env : Env) (client : Client) (state : Impl) : Query → Prop
  | .routeByKey key =>
      key.Storable config.limits.maxDestinationChars ∧
        ∃ snapshot, state.queryRoute env key = .ok snapshot ∧ snapshot.Storable client.limits
  | .explanationByKey key =>
      key.Storable config.limits.maxDestinationChars ∧
        ∃ explanation, state.explainRoute env key = .ok explanation ∧
          explanation.Acceptable client.limits
  | .routeById _ | .explanationById _ => False
  | .snapshot =>
      Client.validateContext client.context = .ok () ∧
        ∃ taken, state.snapshot config.runtime.limits env = .ok taken ∧ taken.id.isValid = true ∧
          taken.routes.length ≤ client.limits.maxSnapshotRoutes ∧
          ∀ snapshot ∈ taken.routes, snapshot.Storable client.limits

/-- A query whose request the server reads. -/
def Query.Readable (limits : Limits) : Query → Prop
  | .routeByKey key | .explanationByKey key => key.Storable limits.maxDestinationChars
  | .routeById _ | .explanationById _ => False
  | .snapshot => True

/-! ## Answers of the runtime -/

section

variable {env : Env} {state : Impl}

theorem queryRoute_notFound (key : RouteKey) :
    FailsAs (fun failure => failure.code = .notFound) (state.queryRoute env key) := by
  intro failure failed
  unfold queryRoute at failed
  split at failed
  · exact (Except.error.inj failed) ▸ rfl
  split at failed
  · exact (Except.error.inj failed) ▸ rfl
  · cases failed

theorem explainRoute_notFound (key : RouteKey) :
    FailsAs (fun failure => failure.code = .notFound) (state.explainRoute env key) := by
  intro failure failed
  unfold explainRoute at failed
  split at failed
  · exact (Except.error.inj failed) ▸ rfl
  split at failed
  · exact (Except.error.inj failed) ▸ rfl
  · cases failed

theorem queryRouteById_notFound (route : RouteId) :
    FailsAs (fun failure => failure.code = .notFound) (state.queryRouteById env route) := by
  intro failure failed
  unfold queryRouteById at failed
  split at failed
  · exact (Except.error.inj failed) ▸ rfl
  · cases failed

theorem explainRouteById_notFound (route : RouteId) :
    FailsAs (fun failure => failure.code = .notFound) (state.explainRouteById env route) := by
  intro failure failed
  unfold explainRouteById at failed
  split at failed
  · exact (Except.error.inj failed) ▸ rfl
  · cases failed

end

/-- The checks of the client before a request fail for one reason. -/
theorem validateContext_invalid (context : RequestContext) :
    FailsAs (fun failure => failure.code = .invalidArgument) (Client.validateContext context) := by
  have check : ∀ (condition : Prop) [Decidable condition] (detail : String),
      FailsAs (fun failure => failure.code = .invalidArgument)
        (ensure condition .invalidArgument detail) := fun _ _ _ => ensure_fails rfl
  exact (check _ _).bind fun _ _ => (check _ _).bind fun _ _ => check _ _

/-! ## Agreement -/

section

variable {α β : Type} {direct relayed : Expected α}

theorem Agrees.map_iff {wrap : α → β} (injective : Function.Injective wrap) :
    Agrees (direct >>= fun answer => pure (wrap answer)) (relayed >>= pure ∘ wrap) ↔
      Agrees direct relayed := by
  constructor
  · intro agrees
    cases direct with
    | error failure =>
        cases relayed with
        | error other =>
            cases agrees with
            | failure direct relayed same => exact .failure failure other same
        | ok answer => cases agrees
    | ok answer =>
        cases relayed with
        | error other => cases agrees
        | ok other =>
            generalize wrapped : (Except.ok answer >>= fun answer => pure (wrap answer) : Expected β) = left
              at agrees
            generalize rewrapped : ((.ok other : Expected α) >>= pure ∘ wrap) = right at agrees
            cases agrees with
            | value shared =>
                have same : wrap answer = wrap other :=
                  (Except.ok.inj wrapped).trans (Except.ok.inj rewrapped).symm
                rw [injective same]
                exact .value other
            | failure => cases wrapped
  · intro agrees
    cases agrees with
    | value answer => exact .value (wrap answer)
    | failure failed other same => exact .failure failed other same

/-- A call that fails agrees with none that never fails with its code. -/
theorem not_agrees_of_code {failure : Error} {code : StatusCode} (coded : failure.code = code)
    (other : FailsAs (fun failure => failure.code ≠ code) direct) : ¬ Agrees direct (.error failure) := by
  intro agrees
  cases agrees with
  | failure failed relayed same => exact other failed rfl (same.trans coded)

/-- An answer that says whether something was found agrees with the direct call when it was. -/
theorem found_agrees_iff {received : Expected β} {status : β → WireStatus} {found : β → Bool}
    {value : β → α} {absent : String} {accepted : α → Prop}
    (notFound : FailsAs (fun failure => failure.code = .notFound) direct)
    (relays : ∀ answer, direct = .ok answer → accepted answer → ∃ message, received = .ok message ∧
      (status message).status = .ok ∧ found message = true ∧ value message = answer)
    (violates : (¬ ∃ answer, direct = .ok answer ∧ accepted answer) →
      ∃ failure, received = .error failure ∧ failure.code = .protocolViolation) :
    Agrees direct (received >>= fun message => do
        (status message).check ()
        ensure (found message = true) .notFound absent
        pure (value message)) ↔
      ∃ answer, direct = .ok answer ∧ accepted answer := by
  constructor
  · intro agrees
    by_contra nothing
    obtain ⟨failure, failed, violation⟩ := violates nothing
    rw [failed] at agrees
    refine not_agrees_of_code violation (notFound.mono fun _ missing => ?_) agrees
    rw [missing]
    decide
  · rintro ⟨answer, returned, accepts⟩
    obtain ⟨message, arrived, succeeded, finds, rfl⟩ := relays answer returned accepts
    have checked : (status message).check () = .ok () := if_neg (not_not.mpr succeeded)
    rw [returned, arrived]
    simp only [bind, Except.bind, checked, ensure, finds, if_true, pure, Except.pure]
    exact .value _

end

/-! ## Queries for one route -/

section

variable {config : ServerConfig} {env : ServerEnv} {cut : Segmentation} {closed : String} {client : Client}
  {loop : SessionLoop Conversation} {absent : String}

/-! The writers of these messages do not look at limits. -/

theorem QueryRouteRequest.encode_limits (sending taking : Limits) (request : QueryRouteRequest) :
    (codec sending).encode request = (codec taking).encode request := by
  simp only [Codec.encode, codec]

theorem QueryRouteResult.encode_limits (sending taking : Limits) (result : QueryRouteResult) :
    (codec sending).encode result = (codec taking).encode result := by
  simp only [Codec.encode, codec]

theorem ExplainRouteResult.encode_limits (sending taking : Limits) (result : ExplainRouteResult) :
    (codec sending).encode result = (codec taking).encode result := by
  simp only [Codec.encode, codec]

theorem SnapshotResponse.encode_limits (sending taking : Limits) (response : SnapshotResponse) :
    (codec sending).encode response = (codec taking).encode response := by
  simp only [Codec.encode, codec]

theorem QueryRouteRequest.decode_relayed {sending taking : Limits} {request : QueryRouteRequest}
    (short : ((codec sending).encode request).length < 2 ^ 32)
    (storable : request.key.Storable taking.maxDestinationChars) :
    (codec taking).decode ((codec sending).encode request) = .ok request := by
  rw [encode_limits sending taking] at short ⊢
  exact (Codec.decode_encode (reads taking short)).mpr ⟨storable⟩

theorem QueryRouteRequest.decode_relayed_error {sending taking : Limits} {request : QueryRouteRequest}
    (short : ((codec sending).encode request).length < 2 ^ 32)
    (refused : ¬ request.key.Storable taking.maxDestinationChars) :
    ∃ why, (codec taking).decode ((codec sending).encode request) = .error why := by
  rw [encode_limits sending taking] at short ⊢
  exact Codec.decode_encode_error (reads taking short) fun acceptable => refused acceptable.key

/-- A route that was found arrives when the client accepts its snapshot. -/
theorem QueryRouteResult.decode_relayed {sending taking : Limits} {result : QueryRouteResult}
    (short : ((codec sending).encode result).length < 2 ^ 32) (acceptable : result.Acceptable taking) :
    (codec taking).decode ((codec sending).encode result) = .ok result := by
  rw [encode_limits sending taking] at short ⊢
  exact (Codec.decode_encode (reads taking short)).mpr acceptable

theorem QueryRouteResult.decode_relayed_error {sending taking : Limits} {result : QueryRouteResult}
    (short : ((codec sending).encode result).length < 2 ^ 32) (refused : ¬ result.Acceptable taking) :
    ∃ why, (codec taking).decode ((codec sending).encode result) = .error why := by
  rw [encode_limits sending taking] at short ⊢
  exact Codec.decode_encode_error (reads taking short) refused

/-- The default snapshot is not read back. -/
theorem unset_not_storable (limits : Limits) : ¬ RouteSnapshot.unset.Storable limits := by
  intro storable
  exact absurd storable.id (by decide)

/-- The default explanation is not read back either. -/
theorem default_not_acceptable (limits : Limits) : ¬ ({} : RouteExplanation).Acceptable limits :=
  fun acceptable => unset_not_storable limits acceptable.snapshot

theorem ExplainRouteResult.decode_relayed {sending taking : Limits} {result : ExplainRouteResult}
    (short : ((codec sending).encode result).length < 2 ^ 32) (acceptable : result.Acceptable taking) :
    (codec taking).decode ((codec sending).encode result) = .ok result := by
  rw [encode_limits sending taking] at short ⊢
  exact (Codec.decode_encode (reads taking short)).mpr acceptable

theorem ExplainRouteResult.decode_relayed_error {sending taking : Limits} {result : ExplainRouteResult}
    (short : ((codec sending).encode result).length < 2 ^ 32) (refused : ¬ result.Acceptable taking) :
    ∃ why, (codec taking).decode ((codec sending).encode result) = .error why := by
  rw [encode_limits sending taking] at short ⊢
  exact Codec.decode_encode_error (reads taking short) refused

/-- A query that selects one route agrees with the direct call when its key is read, and when the answer
that found the route is and comes back in a frame of the right size. An answer that found nothing is not. -/
theorem selection_agrees_iff {α Answer : Type} {id expected : MessageId} {request : QueryRouteRequest}
    {codec : Codec Answer} {answer : Answer} {payload : Bytes} {direct : Expected α}
    {status : Answer → WireStatus} {found : Answer → Bool} {value : Answer → α} {accepted : α → Prop}
    (linked : Linked config env client loop
      ⟨id, wireProtocolVersion, (QueryRouteRequest.codec {}).encode request⟩)
    (ordinary : expected ≠ .error)
    (notFound : FailsAs (fun failure => failure.code = .notFound) direct)
    (refused : ∀ why, (QueryRouteRequest.codec config.limits).decode
        ((QueryRouteRequest.codec {}).encode request) = .error why →
      (handle config env loop.world.session loop.world.state ⟨id, wireProtocolVersion,
        (QueryRouteRequest.codec {}).encode request⟩).reply = errorReply .protocolViolation why)
    (served : (QueryRouteRequest.codec config.limits).decode
        ((QueryRouteRequest.codec {}).encode request) = .ok request →
      (handle config env loop.world.session loop.world.state ⟨id, wireProtocolVersion,
        (QueryRouteRequest.codec {}).encode request⟩).reply = ⟨expected, payload⟩)
    (carries : ∀ answered, direct = .ok answered → accepted answered → payload.length < 2 ^ 32 →
      codec.decode payload = .ok answer ∧ (status answer).status = .ok ∧ found answer = true ∧
        value answer = answered)
    (loses : (¬ ∃ answered, direct = .ok answered ∧ accepted answered) → payload.length < 2 ^ 32 →
      ∃ why, codec.decode payload = .error why) :
    Agrees direct ((Client.exchange (sessionPeer config env cut closed) id expected
        ((QueryRouteRequest.codec client.limits).encode request) codec client loop).result >>= fun message => do
          (status message).check ()
          ensure (found message = true) .notFound absent
          pure (value message)) ↔
      ∃ answered, direct = .ok answered ∧
        (request.key.Storable config.limits.maxDestinationChars ∧ accepted answered) ∧
          Returns config env client loop ⟨id, wireProtocolVersion, (QueryRouteRequest.codec {}).encode request⟩ := by
  rw [QueryRouteRequest.encode_limits client.limits {}]
  have short := linked.takes.prefixed
  have fits := linked.answers
  refine found_agrees_iff notFound ?_ ?_
  · rintro answered returned ⟨⟨key, accepts⟩, returns⟩
    have sent := served (QueryRouteRequest.decode_relayed short key)
    rw [sent] at fits
    obtain ⟨decoded, succeeded, finds, same⟩ := carries answered returned accepts fits
    exact ⟨answer, (Client.exchange_answered linked ordinary sent).1 answer returns decoded, succeeded, finds,
      same⟩
  · intro nothing
    by_cases key : request.key.Storable config.limits.maxDestinationChars
    · have sent := served (QueryRouteRequest.decode_relayed short key)
      rw [sent] at fits
      refine (Client.exchange_answered linked ordinary sent).2 ?_
      by_contra kept
      obtain ⟨returns, decodes⟩ := not_or.mp kept
      refine decodes (loses ?_ fits)
      rintro ⟨answered, returned, accepts⟩
      exact nothing ⟨answered, returned, ⟨key, accepts⟩, not_not.mp returns⟩
    · obtain ⟨why, malformed⟩ := @QueryRouteRequest.decode_relayed_error {} config.limits request short key
      exact Client.exchange_refused linked (refused why malformed)

theorem sendQuery_agrees_iff {request : QueryRouteRequest} {direct : Expected RouteSnapshot}
    (linked : Linked config env client loop
      ⟨.queryRoute, wireProtocolVersion, (QueryRouteRequest.codec {}).encode request⟩)
    (asks : direct = if request.byKey then loop.world.state.queryRoute env.toEnv request.key
      else loop.world.state.queryRouteById env.toEnv request.route) :
    Agrees direct (client.sendQuery (sessionPeer config env cut closed) loop request absent).result ↔
      ∃ snapshot, direct = .ok snapshot ∧
        (request.key.Storable config.limits.maxDestinationChars ∧ snapshot.Storable client.limits) ∧
          Returns config env client loop
            ⟨.queryRoute, wireProtocolVersion, (QueryRouteRequest.codec {}).encode request⟩ := by
  refine @selection_agrees_iff config env cut closed client loop absent _ _ .queryRoute .queryRouteResult
    request (QueryRouteResult.codec client.limits) (queryAnswer direct)
    ((QueryRouteResult.codec config.limits).encode (queryAnswer direct)) direct (·.toWireStatus) (·.found)
    (·.snapshot) _ linked (by decide) ?_ ?_ ?_ ?_ ?_
  · rw [asks]
    split
    · exact queryRoute_notFound _
    · exact queryRouteById_notFound _
  · intro why malformed
    simp only [handle, withRequest, malformed]
  · intro decoded
    simp only [handle, withRequest, decoded, handleQuery, reply, asks]
  · rintro snapshot rfl storable fits
    exact ⟨QueryRouteResult.decode_relayed fits ⟨Nat.zero_le _, storable⟩, rfl, rfl, rfl⟩
  · intro nothing fits
    refine QueryRouteResult.decode_relayed_error fits fun acceptable => ?_
    cases direct with
    | ok snapshot => exact nothing ⟨snapshot, rfl, acceptable.snapshot⟩
    | error failure =>
        refine unset_not_storable client.limits ?_
        simpa [queryAnswer, apply_ite QueryRouteResult.snapshot] using acceptable.snapshot

theorem sendExplain_agrees_iff {request : QueryRouteRequest} {direct : Expected RouteExplanation}
    (linked : Linked config env client loop
      ⟨.explainRoute, wireProtocolVersion, (QueryRouteRequest.codec {}).encode request⟩)
    (asks : direct = if request.byKey then loop.world.state.explainRoute env.toEnv request.key
      else loop.world.state.explainRouteById env.toEnv request.route) :
    Agrees direct (client.sendExplain (sessionPeer config env cut closed) loop request absent).result ↔
      ∃ explanation, direct = .ok explanation ∧
        (request.key.Storable config.limits.maxDestinationChars ∧ explanation.Acceptable client.limits) ∧
          Returns config env client loop
            ⟨.explainRoute, wireProtocolVersion, (QueryRouteRequest.codec {}).encode request⟩ := by
  refine @selection_agrees_iff config env cut closed client loop absent _ _ .explainRoute .explainRouteResult
    request (ExplainRouteResult.codec client.limits) (explainAnswer direct)
    ((ExplainRouteResult.codec config.limits).encode (explainAnswer direct)) direct (·.toWireStatus) (·.found)
    (·.explanation) _ linked (by decide) ?_ ?_ ?_ ?_ ?_
  · rw [asks]
    split
    · exact explainRoute_notFound _
    · exact explainRouteById_notFound _
  · intro why malformed
    simp only [handle, withRequest, malformed]
  · intro decoded
    simp only [handle, withRequest, decoded, handleExplain, reply, asks]
  · rintro explanation rfl acceptable fits
    exact ⟨ExplainRouteResult.decode_relayed fits ⟨Nat.zero_le _, acceptable⟩, rfl, rfl, rfl⟩
  · intro nothing fits
    refine ExplainRouteResult.decode_relayed_error fits fun acceptable => ?_
    cases direct with
    | ok explanation => exact nothing ⟨explanation, rfl, acceptable.explanation⟩
    | error failure =>
        refine default_not_acceptable client.limits ?_
        simpa [explainAnswer, apply_ite ExplainRouteResult.explanation] using acceptable.explanation

/-! ## Snapshots of everything -/

theorem SnapshotResponse.decode_relayed {sending taking : Limits} {response : SnapshotResponse}
    (short : ((codec sending).encode response).length < 2 ^ 32) (acceptable : response.Acceptable taking) :
    (codec taking).decode ((codec sending).encode response) = .ok response := by
  rw [encode_limits sending taking] at short ⊢
  exact (Codec.decode_encode (reads taking short)).mpr acceptable

theorem SnapshotResponse.decode_relayed_error {sending taking : Limits} {response : SnapshotResponse}
    (short : ((codec sending).encode response).length < 2 ^ 32) (refused : ¬ response.Acceptable taking) :
    ∃ why, (codec taking).decode ((codec sending).encode response) = .error why := by
  rw [encode_limits sending taking] at short ⊢
  exact Codec.decode_encode_error (reads taking short) refused

theorem snapshot_limitExceeded (limits : Limits) (env : Env) (state : Impl) :
    FailsAs (fun failure => failure.code = .limitExceeded) (state.snapshot limits env) := by
  intro failure failed
  unfold Impl.snapshot at failed
  split at failed
  · exact (Except.error.inj failed) ▸ rfl
  · cases failed

/-- A refused snapshot has no epoch, and is not read back. -/
theorem snapshotAnswer_acceptable_iff {limits : Limits} {direct : Expected RouteSnapshotSet}
    (epoch : ∀ taken, direct = .ok taken → taken.epoch.Storable) :
    (snapshotAnswer direct).Acceptable limits ↔
      ∃ taken, direct = .ok taken ∧ taken.id.isValid = true ∧
        taken.routes.length ≤ limits.maxSnapshotRoutes ∧
          ∀ snapshot ∈ taken.routes, snapshot.Storable limits := by
  cases direct with
  | error failure =>
      constructor
      · intro acceptable
        exact absurd acceptable.epoch.1 (Nat.not_succ_le_zero 0)
      · rintro ⟨taken, returned, -⟩
        cases returned
  | ok taken =>
      constructor
      · rintro ⟨-, -, id, bound, routes⟩
        exact ⟨taken, rfl, id, bound, routes⟩
      · rintro ⟨same, returned, id, bound, routes⟩
        obtain rfl := Except.ok.inj returned
        exact ⟨Nat.zero_le _, epoch taken rfl, id, bound, routes⟩

theorem snapshot_agrees_iff (linked : Linked config env client loop ⟨.snapshotRequest, wireProtocolVersion,
      SnapshotRequest.codec.encode { epoch := client.context.epoch }⟩)
    (counted : client.context.epoch.value ≤ CounterId.maxValue)
    (epoch : loop.world.state.epoch.Storable) :
    Agrees (loop.world.state.snapshot config.runtime.limits env.toEnv >>= fun taken =>
        pure (snapshotAnswer (.ok taken)))
      (client.snapshot (sessionPeer config env cut closed) loop).result ↔
    (Client.validateContext client.context = .ok () ∧
      ∃ taken, loop.world.state.snapshot config.runtime.limits env.toEnv = .ok taken ∧
        taken.id.isValid = true ∧ taken.routes.length ≤ client.limits.maxSnapshotRoutes ∧
          ∀ snapshot ∈ taken.routes, snapshot.Storable client.limits) ∧
      Returns config env client loop ⟨.snapshotRequest, wireProtocolVersion,
        SnapshotRequest.codec.encode { epoch := client.context.epoch }⟩ := by
  have taken_epoch : ∀ taken, loop.world.state.snapshot config.runtime.limits env.toEnv = .ok taken →
      taken.epoch.Storable := by
    intro taken returned
    unfold Impl.snapshot at returned
    split at returned
    · cases returned
    · rw [← Except.ok.inj returned]
      exact epoch
  have limited := snapshot_limitExceeded config.runtime.limits env.toEnv loop.world.state
  have decoded : SnapshotRequest.codec.decode
      (SnapshotRequest.codec.encode { epoch := client.context.epoch }) = .ok ⟨client.context.epoch⟩ :=
    (Codec.decode_encode (SnapshotRequest.reads _)).mpr ⟨counted⟩
  have sent : (handle config env loop.world.session loop.world.state ⟨.snapshotRequest, wireProtocolVersion,
      SnapshotRequest.codec.encode { epoch := client.context.epoch }⟩).reply =
        ⟨.snapshotResponse, (SnapshotResponse.codec config.limits).encode
          (snapshotAnswer (loop.world.state.snapshot config.runtime.limits env.toEnv))⟩ := by
    simp only [handle, withRequest, decoded, handleSnapshot, reply]
  have fits := linked.answers
  rw [sent] at fits
  generalize loop.world.state.snapshot config.runtime.limits env.toEnv = direct at *
  have other : ∀ code, code ≠ .limitExceeded →
      FailsAs (fun failure => failure.code ≠ code)
        (direct >>= fun taken => pure (snapshotAnswer (.ok taken))) := by
    intro code different
    refine FailsAs.bind (limited.mono fun _ exceeded => ?_) fun taken _ => .ok _
    rw [exceeded]
    exact different.symm
  cases checked : Client.validateContext client.context with
  | error failure =>
      have invalid : failure.code = .invalidArgument := validateContext_invalid _ failure checked
      simp only [Client.snapshot, Client.guarded, checked, Called.andThen, reduceCtorEq, false_and, iff_false]
      exact not_agrees_of_code invalid (other _ (by decide))
  | ok passed =>
      simp only [Client.snapshot, Client.guarded, checked, Called.andThen, true_and]
      rw [← snapshotAnswer_acceptable_iff taken_epoch]
      have relayed := @Client.exchange_answered config env client _ cut closed loop _ .snapshotResponse
        (SnapshotResponse.codec client.limits) _ linked (by decide) sent
      by_cases read : (snapshotAnswer direct).Acceptable client.limits ∧ Returns config env client loop
          ⟨.snapshotRequest, wireProtocolVersion,
            SnapshotRequest.codec.encode { epoch := client.context.epoch }⟩
      · obtain ⟨acceptable, returns⟩ := read
        obtain ⟨taken, rfl, -⟩ := (snapshotAnswer_acceptable_iff taken_epoch).mp acceptable
        rw [relayed.1 _ returns (SnapshotResponse.decode_relayed fits acceptable)]
        exact iff_of_true (.value _) ⟨acceptable, returns⟩
      · obtain ⟨failure, failed, violation⟩ := relayed.2 (by
          by_contra kept
          obtain ⟨returns, decodes⟩ := not_or.mp kept
          refine read ⟨?_, not_not.mp returns⟩
          by_contra refused
          exact decodes (SnapshotResponse.decode_relayed_error fits refused))
        rw [failed]
        exact iff_of_false (not_agrees_of_code violation (other _ (by decide))) read

/-! ## All queries -/

theorem default_key_not_storable (limits : Limits) :
    ¬ ({} : RouteKey).Storable limits.maxDestinationChars := by
  intro storable
  exact absurd storable.1 (by decide)

theorem query_answer_iff (query : Query) (linked : Linked config env client loop (query.frame client.context))
    (counted : client.context.epoch.value ≤ CounterId.maxValue) (epoch : loop.world.state.epoch.Storable) :
    Agrees (query.direct config.runtime.limits env.toEnv loop.world.state)
        (client.query (sessionPeer config env cut closed) loop query).result ↔
      query.Answerable config env.toEnv client loop.world.state ∧
        Returns config env client loop (query.frame client.context) := by
  cases query with
  | routeByKey key =>
      have agrees := @sendQuery_agrees_iff config env cut closed client loop "no route for that key" _ _
        linked rfl
      refine (Agrees.map_iff fun _ _ => QueryAnswer.route.inj).trans (agrees.trans ?_)
      constructor
      · rintro ⟨snapshot, returned, ⟨storable, accepted⟩, returns⟩
        exact ⟨⟨storable, snapshot, returned, accepted⟩, returns⟩
      · rintro ⟨⟨storable, snapshot, returned, accepted⟩, returns⟩
        exact ⟨snapshot, returned, ⟨storable, accepted⟩, returns⟩
  | routeById route =>
      have agrees := @sendQuery_agrees_iff config env cut closed client loop "no route with that identity" _ _
        linked rfl
      refine (Agrees.map_iff fun _ _ => QueryAnswer.route.inj).trans (agrees.trans
        (iff_of_false ?_ fun answerable => answerable.1))
      rintro ⟨snapshot, -, ⟨storable, -⟩, -⟩
      exact default_key_not_storable config.limits storable
  | explanationByKey key =>
      have agrees := @sendExplain_agrees_iff config env cut closed client loop "no route for that key" _ _
        linked rfl
      refine (Agrees.map_iff fun _ _ => QueryAnswer.explanation.inj).trans (agrees.trans ?_)
      constructor
      · rintro ⟨explanation, returned, ⟨storable, accepted⟩, returns⟩
        exact ⟨⟨storable, explanation, returned, accepted⟩, returns⟩
      · rintro ⟨⟨storable, explanation, returned, accepted⟩, returns⟩
        exact ⟨explanation, returned, ⟨storable, accepted⟩, returns⟩
  | explanationById route =>
      have agrees := @sendExplain_agrees_iff config env cut closed client loop "no route with that identity" _ _
        linked rfl
      refine (Agrees.map_iff fun _ _ => QueryAnswer.explanation.inj).trans (agrees.trans
        (iff_of_false ?_ fun answerable => answerable.1))
      rintro ⟨explanation, -, ⟨storable, -⟩, -⟩
      exact default_key_not_storable config.limits storable
  | snapshot =>
      have agrees := @snapshot_agrees_iff config env cut closed client loop linked counted epoch
      have regrouped : Query.snapshot.direct config.runtime.limits env.toEnv loop.world.state =
          (loop.world.state.snapshot config.runtime.limits env.toEnv >>= fun taken =>
            pure (snapshotAnswer (.ok taken))) >>= fun response => pure (QueryAnswer.snapshot response) := by
        simp only [Query.direct, bind_assoc, pure_bind]
      rw [regrouped]
      exact (Agrees.map_iff fun _ _ => QueryAnswer.snapshot.inj).trans agrees

end

namespace Scenario

def offered : List Call := opening ++ [⟨env, .publish overdue.publish⟩]

/-- A session on a coordinator that holds one route. -/
def watching : SessionLoop Conversation :=
  { world := { state := run (step server.runtime) (initial 0) offered } }

theorem watching_linked : Linked server serverEnv client watching
    ((Query.routeByKey key).frame client.context) := by
  refine ⟨rfl, rfl, ⟨rfl, rfl, rfl⟩, rfl, .of_small ?_ (by decide), .of_small ?_ (by decide), by decide, ?_⟩ <;>
    decide +kernel

theorem watching_reached : watching.world.state = run (step server.runtime) (initial 0) offered := by
  rw [watching]

end Scenario

end RouteFabric
