import RouteFabric.Std.Resumption
import RouteFabric.Server.Sessions

/-!
# Frames as tasks

A session thread that serves a frame takes the lock of the runtime more than once, and other threads have
it in between. `undertake` makes of a frame the task that its thread goes through, one turn for each
critical section and for each call of the backend. `undertake_handle` says that the handler is a task that
nothing interrupts.
-/

namespace RouteFabric

open ByteReader OrderedMap Impl

/-- What a thread does with the runtime. Each turn comes with what it consults. -/
abbrev Task (α : Type) := Resumption ServerEnv Impl Action α

/-- What the thread of a session has when a frame is served. -/
structure Answer where
  reply : Reply
  session : Session

section

variable (config : ServerConfig)

/-! ## Programming the backend -/

def recordDisappeared {α : Type} : Expected α :=
  makeError .internal "the committed route record disappeared"

/-- The last lock of a mutation: the record as it is then. -/
def reportTask {α : Type} (intent : Intent) (report : ServerEnv → Impl → RouteRecord → α) :
    Task (Expected α) :=
  .single (fun _ _ => none) fun env state =>
    match state.routes[intent.route]? with
    | none => recordDisappeared
    | some record => .ok (report env state record)

/-- The lock under which an immediate outcome is taken in. -/
def completeTask {α : Type} (intent : Intent) (outcome : ProgrammingResult)
    (report : ServerEnv → Impl → RouteRecord → α) : Task (Expected α) :=
  .turn (fun _ _ => some (.complete outcome)) fun env state =>
    if (state.applyCompletion config.runtime (env.io 0) env.backend.id outcome).2 = .routeMissing then
      .done recordDisappeared
    else reportTask intent report

/-- The call of the backend, with the lock released. -/
def sendTask {α : Type} (intent : Intent) (record : RouteRecord)
    (report : ServerEnv → Impl → RouteRecord → α) : Task (Expected α) :=
  .turn (fun _ _ => none) fun env state =>
    let dispatched := dispatch env.backend (state.makeProgrammingRequest record intent)
    if dispatched.deferred then reportTask intent report
    else completeTask config intent dispatched.immediate report

/-- From the second lock of a mutation on. -/
def dispatchTask {α : Type} (intent : Intent) (report : ServerEnv → Impl → RouteRecord → α) :
    Task (Expected α) :=
  .turn (fun _ _ => none) fun _ state =>
    match state.routes[intent.route]? with
    | none => .done recordDisappeared
    | some record => sendTask config intent record report

def publishTask (request : PublishRequest) : Task (Expected PublishResult) :=
  .turn (fun _ _ => some (.publish request)) fun env state =>
    match (state.publishLocked config.runtime env.toEnv request).2 with
    | .error failure => .done (.error failure)
    | .ok (.inl result) => .done (.ok result)
    | .ok (.inr intent) =>
        dispatchTask config intent fun env final record =>
          { final.publishResult env.toEnv record with replaced := intent.replaced }

/-- The mutation that an identifier names. -/
def mutationTask (request : RouteMutationRequest) : MessageId → Task (Expected WithdrawOutcome)
  | .revalidateRoute =>
      .turn (fun _ _ => some (.revalidate request.mutation)) fun env state =>
        match (state.revalidateLocked config.runtime env.toEnv request.mutation).2 with
        | .error failure => .done (.error failure)
        | .ok intent => dispatchTask config intent fun _ _ record => withdrawOutcome record
  | .retireRoute =>
      .single (fun _ _ => some (.retire request.mutation)) fun env state =>
        (state.retireRoute config.runtime env.toEnv request.mutation).2
  | .revokeRoute =>
      .single (fun _ _ => some (.revoke request.mutation)) fun env state =>
        (state.revokeRoute config.runtime env.toEnv request.mutation).2
  | _ =>
      .turn (fun _ _ => some (.withdraw request.withdraw)) fun env state =>
        match (state.withdrawLocked config.runtime env.toEnv request.withdraw).2 with
        | .error failure => .done (.error failure)
        | .ok (.inl outcome) => .done (.ok outcome)
        | .ok (.inr intent) => dispatchTask config intent fun _ _ record => withdrawOutcome record

def mutationReply : MessageId → MessageId
  | .revalidateRoute => .revalidateRouteResult
  | .retireRoute => .retireRouteResult
  | .revokeRoute => .revokeRouteResult
  | _ => .withdrawRouteResult

/-! ## Reconciliation -/

/-- The key is read, the backend is asked, and the observation is stored. -/
def reconcileTask (route : RouteId) : Task (Expected ObservationClass) :=
  if route.isValid = false then .done (makeError .invalidArgument "a route identity is required")
  else
    .turn (fun _ _ => none) fun _ state =>
      match state.routes[route]? with
      | none => .done (makeError .notFound "no route with that identity")
      | some record =>
          .turn (fun _ _ => none) fun env _ =>
            let observed := env.backend.queryRoute record.key
            .single (fun _ _ => some (.reconcile route observed)) fun env state =>
              (state.reconcileLocked config.runtime env.toEnv route observed).2

/-- The listed routes in turn. -/
def sweepTask : List RouteId → ReconciliationSummary → Task ReconciliationSummary
  | [], summary => .done summary
  | route :: rest, summary =>
      (reconcileTask config route).bind fun reconciled =>
        match reconciled with
        | .error _ => sweepTask rest summary
        | .ok observed => sweepTask rest (tally summary observed)

def reconcileAllTask : Task (Expected ReconciliationSummary) :=
  .turn (fun _ _ => none) fun _ state =>
    match state.checkOpened with
    | .error failure => .done (.error failure)
    | .ok () => (sweepTask config state.routes.keys {}).map .ok

/-- The checks of a completion that a peer reports. -/
def checkCompletion (completion : ProgrammingCompletion) (state : Impl) : Status := do
  ensure (completion.attempt.isValid = true) .invalidArgument
    "a programming attempt identity is required"
  ensure (completion.detail.length ≤ maxDiagnosticChars) .limitExceeded
    "the detail text exceeds the configured bound"
  state.checkOpened

/-- The completion that a peer reports, if it passes the checks. -/
def completionAction (completion : ProgrammingCompletion) (env : ServerEnv) (state : Impl) :
    Option Action :=
  match checkCompletion completion state with
  | .error _ => none
  | .ok () =>
      some (.complete
        { outcome := completion.outcome, attempt := completion.attempt, backend := env.backend.id,
          detail := completion.detail })

/-! ## The task of a frame -/

/-- A request that is served under one lock. -/
def lockedTask (act : ServerEnv → Impl → Option Action) (serve : ServerEnv → Impl → Handled) :
    Task Answer :=
  .single act fun env state => ⟨(serve env state).reply, (serve env state).session⟩

/-- The task of a registration. -/
def registerTask (session : Session) (request : RegisterPublisherRequest) :
    Task Answer :=
  lockedTask (fun _ _ => some (.register request.context.publisher request.context.workerBoot request.scope))
    fun _ state => handleRegister config session state request

def withTask {α : Type} (codec : Codec α) (payload : Bytes) (serve : α → Task Answer) :
    Except Reply (Task Answer) :=
  match codec.decode payload with
  | .error why => .error (errorReply .protocolViolation why)
  | .ok request => .ok (serve request)

/-- The task that a frame asks for, or the error that ends the session. -/
def undertake (session : Session) (frame : DecodedFrame) : Except Reply (Task Answer) :=
  match frame.id with
  | .hello =>
      withTask HelloRequest.codec frame.payload fun request =>
        lockedTask (fun _ _ => none) fun env state => handleHello config env session state request
  | .registerPublisher =>
      withTask (RegisterPublisherRequest.codec config.limits) frame.payload fun request =>
        registerTask config session request
  | .publishRoute =>
      withTask (PublishRouteRequest.codec config.limits) frame.payload fun request =>
        (publishTask config request.publish).map fun published =>
          ⟨reply .publishRouteResult PublishRouteResult.codec (publishAnswer published), session⟩
  | .withdrawRoute | .revalidateRoute | .retireRoute | .revokeRoute =>
      withTask RouteMutationRequest.codec frame.payload fun request =>
        (mutationTask config request frame.id).map fun mutated =>
          ⟨reply (mutationReply frame.id) RouteMutationResult.codec (mutationAnswer mutated), session⟩
  | .queryRoute =>
      withTask (QueryRouteRequest.codec config.limits) frame.payload fun request =>
        lockedTask (fun _ _ => none) fun env state => handleQuery config env session state request
  | .explainRoute =>
      withTask (QueryRouteRequest.codec config.limits) frame.payload fun request =>
        lockedTask (fun _ _ => none) fun env state => handleExplain config env session state request
  | .snapshotRequest =>
      withTask SnapshotRequest.codec frame.payload fun request =>
        lockedTask (fun _ _ => none) fun env state => handleSnapshot config env session state request
  | .statisticsRequest =>
      .ok (.single (fun _ _ => none) fun env state =>
        ⟨reply .statisticsResult StatisticsResult.codec (state.statistics env), session⟩)
  | .epochRequest =>
      .ok (.single (fun _ _ => none) fun _ state =>
        ⟨reply .epochResult EpochResult.codec { epoch := state.epoch }, session⟩)
  | .reconcileRequest =>
      withTask ReconcileRequest.codec frame.payload fun request =>
        if request.all then
          (reconcileAllTask config).map fun reconciled =>
            ⟨reply .reconcileResult ReconcileResult.codec (reconcileAllAnswer reconciled), session⟩
        else
          (reconcileTask config request.route).map fun reconciled =>
            ⟨reply .reconcileResult ReconcileResult.codec (reconcileAnswer reconciled), session⟩
  | .applyCompletion =>
      withTask ApplyCompletionRequest.codec frame.payload fun request =>
        lockedTask (completionAction request.completion) fun env state =>
          handleCompletion config env session state request
  | .backendState =>
      withTask (BackendStateMessage.codec config.limits) frame.payload fun request =>
        .single (fun _ _ => none) fun env _ =>
          ⟨reply .backendState (BackendStateMessage.codec config.limits) (backendAnswer env request), session⟩
  | id => .error (errorReply .protocolViolation ("unexpected message " ++ id.text))

end

/-! ## What tasks do -/

/-- An action that neither restarts the runtime nor registers or fences a publisher. -/
structure Action.Ordinary (action : Action) : Prop where
  continues : action.restarts = false
  administers : action.administers = false

section

variable {config : ServerConfig}

theorem reportTask_within {α : Type} {intent : Intent} {report : ServerEnv → Impl → RouteRecord → α} :
    (reportTask intent report).Within Action.Ordinary :=
  .silent fun _ _ => trivial

theorem completeTask_within {α : Type} {intent : Intent} {outcome : ProgrammingResult}
    {report : ServerEnv → Impl → RouteRecord → α} :
    (completeTask config intent outcome report).Within Action.Ordinary := by
  refine .acting ⟨rfl, rfl⟩ fun env state => ?_
  split
  · trivial
  · exact reportTask_within

theorem sendTask_within {α : Type} {intent : Intent} {record : RouteRecord}
    {report : ServerEnv → Impl → RouteRecord → α} :
    (sendTask config intent record report).Within Action.Ordinary := by
  refine .silent fun env state => ?_
  simp only
  split
  · exact reportTask_within
  · exact completeTask_within

theorem dispatchTask_within {α : Type} {intent : Intent} {report : ServerEnv → Impl → RouteRecord → α} :
    (dispatchTask config intent report).Within Action.Ordinary := by
  refine .silent fun env state => ?_
  split
  · trivial
  · exact sendTask_within

theorem publishTask_within (request : PublishRequest) :
    (publishTask config request).Within Action.Ordinary := by
  refine .acting ⟨rfl, rfl⟩ fun env state => ?_
  split
  · trivial
  · trivial
  · exact dispatchTask_within

theorem mutationTask_within (request : RouteMutationRequest) (id : MessageId) :
    (mutationTask config request id).Within Action.Ordinary := by
  unfold mutationTask
  split
  · refine .acting ⟨rfl, rfl⟩ fun env state => ?_
    split
    · trivial
    · exact dispatchTask_within
  · exact .acting ⟨rfl, rfl⟩ fun _ _ => trivial
  · exact .acting ⟨rfl, rfl⟩ fun _ _ => trivial
  · refine .acting ⟨rfl, rfl⟩ fun env state => ?_
    split
    · trivial
    · trivial
    · exact dispatchTask_within

theorem reconcileTask_within (route : RouteId) : (reconcileTask config route).Within Action.Ordinary := by
  unfold reconcileTask
  split
  · trivial
  refine .silent fun _ state => ?_
  split
  · trivial
  · exact .silent fun _ _ => .acting ⟨rfl, rfl⟩ fun _ _ => trivial

theorem sweepTask_within (routes : List RouteId) (summary : ReconciliationSummary) :
    (sweepTask config routes summary).Within Action.Ordinary := by
  induction routes generalizing summary with
  | nil => trivial
  | cons route rest ih =>
      refine (reconcileTask_within route).bind fun reconciled => ?_
      cases reconciled with
      | error failure => exact ih summary
      | ok observed => exact ih (tally summary observed)

theorem reconcileAllTask_within : (reconcileAllTask config).Within Action.Ordinary := by
  refine .silent fun _ state => ?_
  split
  · trivial
  · exact (sweepTask_within _ _).map _

theorem completionAction_ordinary {completion : ProgrammingCompletion} {env : ServerEnv} {state : Impl}
    {action : Action} (acts : completionAction completion env state = some action) : action.Ordinary := by
  unfold completionAction at acts
  cases checked : checkCompletion completion state with
  | error failure =>
      rw [checked] at acts
      cases acts
  | ok passed =>
      rw [checked] at acts
      exact Option.some.inj acts ▸ ⟨rfl, rfl⟩

/-! ## The task of a session -/

/-- A task that makes no registration, and after which the session remembers what it did before. -/
structure Task.Plain (session : Session) (task : Task Answer) : Prop where
  within : task.Within Action.Ordinary
  gives : task.Gives (·.session = session)

theorem withTask_ok {α : Type} {codec : Codec α} {payload : Bytes} {serve : α → Task Answer}
    {task : Task Answer} (undertaken : withTask codec payload serve = .ok task) :
    ∃ request, serve request = task := by
  unfold withTask at undertaken
  split at undertaken
  · cases undertaken
  · exact ⟨_, Except.ok.inj undertaken⟩

/-- A request that is served under one lock and makes no registration. -/
theorem lockedTask_plain {session : Session} {act : ServerEnv → Impl → Option Action}
    {serve : ServerEnv → Impl → Handled}
    (ordinary : ∀ env state action, act env state = some action → action.Ordinary)
    (same : ∀ env state, (serve env state).session = session) :
    Task.Plain session (lockedTask act serve) :=
  ⟨⟨ordinary, fun _ _ => trivial⟩, same⟩

/-- A task that is wrapped into the answer to its session. -/
theorem map_plain {α : Type} {session : Session} {task : Task α} (within : task.Within Action.Ordinary)
    (wrap : α → Reply) : Task.Plain session (task.map fun value => ⟨wrap value, session⟩) := by
  refine ⟨within.map _, Resumption.gives_map ?_ task⟩
  exact fun _ => rfl

/-- A frame asks for a plain task or for a registration. -/
theorem undertake_cases {session : Session} {frame : DecodedFrame} {task : Task Answer}
    (undertaken : undertake config session frame = .ok task) :
    Task.Plain session task ∨ ∃ request, task = registerTask config session request := by
  have looks {serve : ServerEnv → Impl → Handled} (same : ∀ env state, (serve env state).session = session) :
      Task.Plain session (lockedTask (fun _ _ => none) serve) :=
    lockedTask_plain (fun _ _ _ acts => (Option.some_ne_none _ acts.symm).elim) same
  obtain ⟨id, version, payload⟩ := frame
  cases id with
  | registerPublisher =>
      obtain ⟨request, rfl⟩ := withTask_ok undertaken
      exact .inr ⟨request, rfl⟩
  | hello | queryRoute | explainRoute | snapshotRequest =>
      obtain ⟨request, rfl⟩ := withTask_ok undertaken
      exact .inl (looks fun _ _ => rfl)
  | applyCompletion =>
      obtain ⟨request, rfl⟩ := withTask_ok undertaken
      exact .inl (lockedTask_plain (fun _ _ _ => completionAction_ordinary) fun _ _ => rfl)
  | publishRoute =>
      obtain ⟨request, rfl⟩ := withTask_ok undertaken
      exact .inl (map_plain (publishTask_within _) _)
  | withdrawRoute | revalidateRoute | retireRoute | revokeRoute =>
      obtain ⟨request, rfl⟩ := withTask_ok undertaken
      exact .inl (map_plain (mutationTask_within _ _) _)
  | reconcileRequest =>
      obtain ⟨request, rfl⟩ := withTask_ok undertaken
      left
      split
      · exact map_plain reconcileAllTask_within _
      · exact map_plain (reconcileTask_within _) _
  | backendState =>
      obtain ⟨request, rfl⟩ := withTask_ok undertaken
      exact .inl ⟨.silent fun _ _ => trivial, fun _ _ => rfl⟩
  | statisticsRequest | epochRequest =>
      obtain rfl := Except.ok.inj undertaken
      exact .inl ⟨.silent fun _ _ => trivial, fun _ _ => rfl⟩
  | _ => cases undertaken

end

/-! ## The handler -/

/-- A task that nothing interrupts. Its turns find the surroundings of the request, but for what the file
system answers. -/
def Alone {α : Type} (config : ServerConfig) (env : ServerEnv) (task : Task α) (state after : Impl)
    (value : α) : Prop :=
  task.Finishes (fun env state action => state.perform config.runtime env.toEnv action)
    (fun other => ∃ io, other = { env with io := io }) state after value

section

variable {config : ServerConfig} {env : ServerEnv} {session : Session} {state : Impl}

theorem Alone.done {α : Type} (value : α) : Alone config env (.done value) state state value :=
  Resumption.Finishes.done value state

/-- A turn that only looks. -/
theorem Alone.look {α : Type} {next : ServerEnv → Impl → Task α} {after : Impl} {value : α}
    (rest : Alone config env (next env state) state after value) :
    Alone config env (.turn (fun _ _ => none) next) state after value :=
  Resumption.Finishes.turn env ⟨env.io, rfl⟩ rest

/-- A turn that acts. -/
theorem Alone.act {α : Type} {action : Action} {next : ServerEnv → Impl → Task α} {after : Impl} {value : α}
    (io : Nat → IoOutcome)
    (rest : Alone config env (next { env with io } state)
      (state.perform config.runtime { env.toEnv with io } action) after value) :
    Alone config env (.turn (fun _ _ => some action) next) state after value :=
  Resumption.Finishes.turn { env with io } ⟨io, rfl⟩ rest

theorem Alone.call {α : Type} {action : Action} {next : ServerEnv → Impl → Task α} {after : Impl} {value : α}
    (rest : Alone config env (next env state) (state.perform config.runtime env.toEnv action) after value) :
    Alone config env (.turn (fun _ _ => some action) next) state after value :=
  .act env.io rest

theorem reportTask_alone {α : Type} (intent : Intent) (report : ServerEnv → Impl → RouteRecord → α) :
    Alone config env (reportTask intent report) state state
      (match state.routes[intent.route]? with
        | none => recordDisappeared
        | some record => .ok (report env state record)) :=
  .look (.done _)

/-- The turns of a dispatch are what the call makes of its intent. -/
theorem dispatchTask_alone {α : Type} (intent : Intent) (report : ServerEnv → Impl → RouteRecord → α) :
    Alone config env (dispatchTask config intent report) state
      (state.reportDispatch config.runtime env.toEnv intent (report env)).1
      (state.reportDispatch config.runtime env.toEnv intent (report env)).2 := by
  have reports (final : Impl) : Alone config env (reportTask intent report) final
      (match final.routes[intent.route]? with
        | none => (final, recordDisappeared)
        | some record => (final, Except.ok (report env final record))).1
      (match final.routes[intent.route]? with
        | none => (final, recordDisappeared)
        | some record => (final, Except.ok (report env final record))).2 := by
    have reported := @reportTask_alone config env final α intent report
    cases found : final.routes[intent.route]? <;> rw [found] at reported <;> exact reported
  unfold reportDispatch runDispatch
  refine .look ?_
  cases state.routes[intent.route]? with
  | none => exact .done _
  | some record =>
      refine .look ?_
      simp only
      by_cases deferred : (dispatch env.backend (state.makeProgrammingRequest record intent)).deferred = true
      · rw [if_pos deferred, if_pos deferred, if_neg (by exact nofun)]
        exact reports state
      · rw [if_neg deferred, if_neg deferred]
        refine .act (fun _ => env.io 2) ?_
        simp only
        split
        · exact .done _
        · exact reports _

theorem publishTask_alone (request : PublishRequest) :
    Alone config env (publishTask config request) state
      (state.publishRoute config.runtime env.toEnv request).1
      (state.publishRoute config.runtime env.toEnv request).2 := by
  unfold publishRoute
  refine .call ?_
  simp only [perform]
  rcases state.publishLocked config.runtime env.toEnv request with ⟨after, failure | result | intent⟩
  · exact .done _
  · exact .done _
  · exact dispatchTask_alone _ _

theorem mutationTask_alone (request : RouteMutationRequest) (id : MessageId) :
    Alone config env (mutationTask config request id) state (mutate config env request state id).1.1
        (mutate config env request state id).1.2 ∧
      (mutate config env request state id).2 = mutationReply id := by
  have withdraws : Alone config env (mutationTask config request .withdrawRoute) state
      (state.withdrawRoute config.runtime env.toEnv request.withdraw).1
      (state.withdrawRoute config.runtime env.toEnv request.withdraw).2 := by
    unfold withdrawRoute
    refine .call ?_
    simp only [perform]
    rcases state.withdrawLocked config.runtime env.toEnv request.withdraw with
      ⟨after, failure | outcome | intent⟩
    · exact .done _
    · exact .done _
    · exact dispatchTask_alone _ _
  cases id with
  | revalidateRoute =>
      refine ⟨?_, rfl⟩
      simp only [mutate]
      unfold revalidateRoute
      refine .call ?_
      simp only [perform]
      rcases state.revalidateLocked config.runtime env.toEnv request.mutation with ⟨after, failure | intent⟩
      · exact .done _
      · exact dispatchTask_alone _ _
  | retireRoute => exact ⟨.call (.done _), rfl⟩
  | revokeRoute => exact ⟨.call (.done _), rfl⟩
  | _ => exact ⟨withdraws, rfl⟩

theorem handleMutation_alone (id : MessageId) (request : RouteMutationRequest) :
    Alone config env
      ((mutationTask config request id).map fun mutated =>
        (⟨reply (mutationReply id) RouteMutationResult.codec (mutationAnswer mutated), session⟩ : Answer))
      state (handleMutation config env session state id request).state
      ⟨(handleMutation config env session state id request).reply, session⟩ := by
  obtain ⟨mutates, replies⟩ := @mutationTask_alone config env state request id
  simp only [handleMutation, replies]
  exact mutates.map _

theorem reconcileTask_alone (io : Nat → IoOutcome) (route : RouteId) :
    Alone config env (reconcileTask config route) state
      (state.reconcileRoute config.runtime { env.toEnv with io } route).1
      (state.reconcileRoute config.runtime { env.toEnv with io } route).2 := by
  unfold reconcileTask reconcileRoute
  split
  · exact .done _
  refine .look ?_
  cases state.routes[route]? with
  | none => exact .done _
  | some record => exact .look (.act io (.done _))

theorem sweepTask_alone (index : Nat) (routes : List RouteId) (summary : ReconciliationSummary) :
    Alone config env (sweepTask config routes summary) state
      (reconcileEach config.runtime env.toEnv index routes state summary).1
      (reconcileEach config.runtime env.toEnv index routes state summary).2 := by
  induction routes generalizing index state summary with
  | nil => exact .done _
  | cons route rest ih =>
      have first := @reconcileTask_alone config env state (fun _ => env.io index) route
      unfold reconcileEach
      split <;> rename_i reconciled <;> rw [reconciled] at first <;> exact first.bind (ih (index + 1) _)

theorem reconcileAllTask_alone :
    Alone config env (reconcileAllTask config) state (state.reconcileAll config.runtime env.toEnv).1
      (state.reconcileAll config.runtime env.toEnv).2 := by
  unfold reconcileAll
  refine .look ?_
  cases state.checkOpened with
  | error failure => exact .done _
  | ok opened => exact (sweepTask_alone 0 _ _).map _

theorem applyProgrammingCompletion_eq (completion : ProgrammingCompletion) (env : Env) :
    state.applyProgrammingCompletion config.runtime env completion =
      match checkCompletion completion state with
      | .error failure => (state, .error failure)
      | .ok () =>
          let completed := state.applyCompletion config.runtime (env.io 0) env.backend.id
            { outcome := completion.outcome, attempt := completion.attempt, backend := env.backend.id,
              detail := completion.detail }
          (completed.1, .ok completed.2) :=
  rfl

theorem handleCompletion_alone (request : ApplyCompletionRequest) :
    Alone config env (lockedTask (completionAction request.completion) fun env state =>
        handleCompletion config env session state request) state
      (handleCompletion config env session state request).state
      ⟨(handleCompletion config env session state request).reply, session⟩ := by
  refine Resumption.Finishes.turn env ⟨env.io, rfl⟩ ?_
  have acts : Resumption.acted (fun env state action => state.perform config.runtime env.toEnv action) env state
      (completionAction request.completion env state) =
        (handleCompletion config env session state request).state := by
    unfold handleCompletion completionAction
    rw [applyProgrammingCompletion_eq]
    cases checkCompletion request.completion state <;> rfl
  rw [acts]
  exact Resumption.Finishes.done _ _

/-- The handler of a frame is a task that nothing interrupts, or it refuses the frame as the task does. -/
theorem undertake_handle (frame : DecodedFrame) :
    match undertake config session frame with
    | .error refusal => handle config env session state frame = ⟨state, session, refusal, false⟩
    | .ok task =>
        (handle config env session state frame).goesOn = true ∧
          Alone config env task state (handle config env session state frame).state
            ⟨(handle config env session state frame).reply,
              (handle config env session state frame).session⟩ := by
  have decides {α : Type} {codec : Codec α} {payload : Bytes} {task : α → Task Answer} {serve : α → Handled}
      (serves : ∀ request, (serve request).goesOn = true ∧
        Alone config env (task request) state (serve request).state
          ⟨(serve request).reply, (serve request).session⟩) :
      match withTask codec payload task with
      | .error refusal => withRequest session state codec payload serve = ⟨state, session, refusal, false⟩
      | .ok task =>
          (withRequest session state codec payload serve).goesOn = true ∧
            Alone config env task state (withRequest session state codec payload serve).state
              ⟨(withRequest session state codec payload serve).reply,
                (withRequest session state codec payload serve).session⟩ := by
    unfold withTask withRequest
    cases codec.decode payload with
    | error why => rfl
    | ok request => exact serves request
  obtain ⟨id, version, payload⟩ := frame
  cases id with
  | hello | queryRoute | explainRoute | snapshotRequest | backendState =>
      exact decides fun request => ⟨rfl, .look (.done _)⟩
  | registerPublisher => exact decides fun request => ⟨rfl, .call (.done _)⟩
  | publishRoute => exact decides fun request => ⟨rfl, (publishTask_alone _).map _⟩
  | withdrawRoute | revalidateRoute | retireRoute | revokeRoute =>
      exact decides fun request => ⟨rfl, handleMutation_alone _ request⟩
  | reconcileRequest =>
      refine decides fun request => ?_
      unfold handleReconcile
      split
      · exact ⟨rfl, reconcileAllTask_alone.map _⟩
      · exact ⟨rfl, (reconcileTask_alone env.io request.route).map _⟩
  | applyCompletion => exact decides fun request => ⟨rfl, handleCompletion_alone request⟩
  | statisticsRequest | epochRequest => exact ⟨rfl, .look (.done _)⟩
  | _ => rfl

end

end RouteFabric
