import RouteFabric.Safety.Expectations
import RouteFabric.Server.Sessions

/-!
# Sessions are runs of the runtime

The handler reaches the state only through calls of the runtime. `frameCalls` lists what one frame
makes the runtime do; `converse_simulates` joins the lists: whatever frames a session handles, and
whatever other sessions do in between, the runtime behind it is in a state of one of its own runs,
so that every invariant of its runs holds behind a server.
-/

namespace RouteFabric

open ByteReader OrderedMap Run Impl

/-! ## The calls of a frame -/

section

variable (config : ServerConfig) (env : ServerEnv) (state : Impl)

/-- The completion of an intent that the backend answers inline. -/
def dispatchCalls (env : Env) (state : Impl) (intent : Intent) : List Call :=
  match state.routes[intent.route]? with
  | none => []
  | some record =>
      let dispatched := dispatch env.backend (state.makeProgrammingRequest record intent)
      if dispatched.deferred then []
      else [⟨{ env with io := fun _ => env.io 2 }, .complete dispatched.immediate⟩]

def publishCalls (request : PublishRequest) : List Call :=
  ⟨env.toEnv, .publish request⟩ ::
    match state.publishLocked config.runtime env.toEnv request with
    | (after, .ok (.inr intent)) => dispatchCalls env.toEnv after intent
    | _ => []

/-- The calls of the mutation that an identifier names. -/
def mutationCalls (request : RouteMutationRequest) : MessageId → List Call
  | .revalidateRoute =>
      ⟨env.toEnv, .revalidate request.mutation⟩ ::
        match state.revalidateLocked config.runtime env.toEnv request.mutation with
        | (after, .ok intent) => dispatchCalls env.toEnv after intent
        | _ => []
  | .retireRoute => [⟨env.toEnv, .retire request.mutation⟩]
  | .revokeRoute => [⟨env.toEnv, .revoke request.mutation⟩]
  | _ =>
      ⟨env.toEnv, .withdraw request.withdraw⟩ ::
        match state.withdrawLocked config.runtime env.toEnv request.withdraw with
        | (after, .ok (.inr intent)) => dispatchCalls env.toEnv after intent
        | _ => []

/-- The observation of one route, if it is there. -/
def observationCalls (env : Env) (state : Impl) (route : RouteId) : List Call :=
  if route.isValid = false then []
  else match state.routes[route]? with
    | none => []
    | some record => [⟨env, .reconcile route (env.backend.queryRoute record.key)⟩]

/-- The observations of the listed routes in turn. -/
def sweepCalls (config : RuntimeConfig) (env : Env) : Nat → List RouteId → Impl → List Call
  | _, [], _ => []
  | index, route :: rest, state =>
      let env' : Env := { env with io := fun _ => env.io index }
      observationCalls env' state route ++
        sweepCalls config env (index + 1) rest (state.reconcileRoute config env' route).1

def completionCalls (completion : ProgrammingCompletion) : List Call :=
  if completion.attempt.isValid = true ∧ completion.detail.length ≤ maxDiagnosticChars then
    [⟨env.toEnv, .complete
        { outcome := completion.outcome, attempt := completion.attempt, backend := env.backend.id,
          detail := completion.detail }⟩]
  else []

/-- The calls for a payload that decodes. -/
def callsFor {α : Type} (codec : Codec α) (payload : Bytes) (calls : α → List Call) : List Call :=
  match codec.decode payload with
  | .error _ => []
  | .ok request => calls request

/-- What a frame makes the runtime do. -/
def frameCalls (frame : DecodedFrame) : List Call :=
  match frame.id with
  | .registerPublisher =>
      callsFor (RegisterPublisherRequest.codec config.limits) frame.payload fun request =>
        [⟨env.toEnv, .register request.context.publisher request.context.workerBoot request.scope⟩]
  | .publishRoute =>
      callsFor (PublishRouteRequest.codec config.limits) frame.payload fun request =>
        publishCalls config env state request.publish
  | .withdrawRoute | .revalidateRoute | .retireRoute | .revokeRoute =>
      callsFor RouteMutationRequest.codec frame.payload fun request =>
        mutationCalls config env state request frame.id
  | .reconcileRequest =>
      callsFor ReconcileRequest.codec frame.payload fun request =>
        if request.all then sweepCalls config.runtime env.toEnv 0 state.routes.keys state
        else observationCalls env.toEnv state request.route
  | .applyCompletion =>
      callsFor ApplyCompletionRequest.codec frame.payload fun request =>
        completionCalls env request.completion
  | _ => []

end

/-- The calls of an event of a conversation. -/
def SessionEvent.calls (config : ServerConfig) (event : SessionEvent) (conversation : Conversation) :
    List Call :=
  match event with
  | .elsewhere env action =>
      match action with
      | .restart _ => []
      | action => [⟨env, action⟩]
  | .frame env received =>
      if conversation.goesOn then frameCalls config env conversation.state received else []

/-- The calls of a whole conversation, in order. -/
def conversationCalls (config : ServerConfig) : Conversation → List SessionEvent → List Call
  | _, [] => []
  | conversation, event :: rest =>
      event.calls config conversation ++ conversationCalls config (converse config event conversation) rest

/-! ## What frames do not do -/

/-- A call that neither restarts the runtime nor registers or fences a publisher. -/
structure Call.Ordinary (call : Call) : Prop where
  continues : call.action.restarts = false
  administers : call.action.administers = false

section

variable {config : ServerConfig} {env : ServerEnv} {state : Impl}

theorem dispatchCalls_ordinary (env : Env) (state : Impl) (intent : Intent) :
    ∀ call ∈ dispatchCalls env state intent, call.Ordinary := by
  unfold dispatchCalls
  split
  · simp
  · simp only
    split
    · simp
    · intro call member
      obtain rfl := List.mem_singleton.mp member
      exact ⟨rfl, rfl⟩

theorem observationCalls_ordinary (env : Env) (state : Impl) (route : RouteId) :
    ∀ call ∈ observationCalls env state route, call.Ordinary := by
  unfold observationCalls
  split
  · simp
  split
  · simp
  · intro call member
    obtain rfl := List.mem_singleton.mp member
    exact ⟨rfl, rfl⟩

theorem sweepCalls_ordinary (config : RuntimeConfig) (env : Env) (index : Nat) (routes : List RouteId)
    (state : Impl) : ∀ call ∈ sweepCalls config env index routes state, call.Ordinary := by
  induction routes generalizing index state with
  | nil => simp [sweepCalls]
  | cons route rest ih =>
      intro call member
      rw [sweepCalls, List.mem_append] at member
      rcases member with first | later
      · exact observationCalls_ordinary _ _ _ call first
      · exact ih _ _ call later

theorem publishCalls_ordinary (request : PublishRequest) :
    ∀ call ∈ publishCalls config env state request, call.Ordinary := by
  intro call member
  rcases List.mem_cons.mp member with rfl | later
  · exact ⟨rfl, rfl⟩
  · split at later
    · exact dispatchCalls_ordinary _ _ _ call later
    · cases later

theorem mutationCalls_ordinary (request : RouteMutationRequest) (id : MessageId) :
    ∀ call ∈ mutationCalls config env state request id, call.Ordinary := by
  intro call member
  unfold mutationCalls at member
  split at member
  · rcases List.mem_cons.mp member with rfl | later
    · exact ⟨rfl, rfl⟩
    · split at later
      · exact dispatchCalls_ordinary _ _ _ call later
      · cases later
  · obtain rfl := List.mem_singleton.mp member
    exact ⟨rfl, rfl⟩
  · obtain rfl := List.mem_singleton.mp member
    exact ⟨rfl, rfl⟩
  · rcases List.mem_cons.mp member with rfl | later
    · exact ⟨rfl, rfl⟩
    · split at later
      · exact dispatchCalls_ordinary _ _ _ call later
      · cases later

theorem callsFor_all {α : Type} {codec : Codec α} {payload : Bytes} {calls : α → List Call}
    {admits : Call → Prop} (runs : ∀ request, ∀ call ∈ calls request, admits call) :
    ∀ call ∈ callsFor codec payload calls, admits call := by
  unfold callsFor
  split
  · simp
  · exact runs _

/-- Only a registration administers. -/
theorem frameCalls_ordinary {frame : DecodedFrame} (other : frame.id ≠ .registerPublisher) :
    ∀ call ∈ frameCalls config env state frame, call.Ordinary := by
  obtain ⟨id, length, payload⟩ := frame
  cases id with
  | registerPublisher => exact absurd rfl other
  | publishRoute => exact callsFor_all fun request => publishCalls_ordinary request.publish
  | withdrawRoute => exact callsFor_all fun request => mutationCalls_ordinary request .withdrawRoute
  | revalidateRoute => exact callsFor_all fun request => mutationCalls_ordinary request .revalidateRoute
  | retireRoute => exact callsFor_all fun request => mutationCalls_ordinary request .retireRoute
  | revokeRoute => exact callsFor_all fun request => mutationCalls_ordinary request .revokeRoute
  | reconcileRequest =>
      refine callsFor_all fun request => ?_
      split
      · exact sweepCalls_ordinary _ _ _ _ _
      · exact observationCalls_ordinary _ _ _
  | applyCompletion =>
      refine callsFor_all fun request => ?_
      unfold completionCalls
      split
      · intro call member
        obtain rfl := List.mem_singleton.mp member
        exact ⟨rfl, rfl⟩
      · simp
  | _ => simp [frameCalls]

theorem frameCalls_continue (frame : DecodedFrame) :
    ∀ call ∈ frameCalls config env state frame, call.action.restarts = false := by
  by_cases registers : frame.id = .registerPublisher
  · unfold frameCalls
    rw [registers]
    exact callsFor_all fun request => by simp [Action.restarts]
  · intro call member
    exact (frameCalls_ordinary registers call member).continues

theorem event_continue (event : SessionEvent) (conversation : Conversation) :
    ∀ call ∈ event.calls config conversation, call.action.restarts = false := by
  cases event with
  | elsewhere env action => cases action <;> simp [SessionEvent.calls, Action.restarts]
  | frame env received =>
      unfold SessionEvent.calls
      simp only
      split
      · exact frameCalls_continue received
      · simp

end

/-! ## Open runtimes stay open -/

namespace Impl

/-- An open runtime whose indexes are in order. -/
structure Live (state : Impl) : Prop where
  opened : state.opened = true
  indexed : Indexed state

variable {config : RuntimeConfig} {env : Env} {state : Impl}

theorem Live.perform (live : Live state) (action : Action) : Live (state.perform config env action) := by
  have moved : (state.perform config env action).opened = true ∧ Indexed (state.perform config env action) :=
    moves_invariant (motive := fun current => current.opened = true ∧ Indexed current)
      (perform_moves live.indexed) (fun _ _ held move =>
        ⟨(move.opened (held.1.trans live.opened.symm)).trans live.opened, live.indexed.move held.2 move⟩)
      ⟨live.opened, live.indexed⟩
  exact ⟨moved.1, moved.2⟩

/-! ## One frame -/

theorem run_perform (live : Live state) {call : Call} (continues : call.action.restarts = false)
    (calls : List Call) :
    run (step config) state (call :: calls) =
      run (step config) (state.perform config call.env call.action) calls := by
  rw [run_cons, step_of_opened live.opened continues]

theorem run_single (live : Live state) {call : Call} (continues : call.action.restarts = false) :
    run (step config) state [call] = state.perform config call.env call.action :=
  run_perform live continues []

theorem reportDispatch_run {α : Type} (live : Live state) (intent : Intent)
    (report : Impl → RouteRecord → α) :
    (state.reportDispatch config env intent report).1 =
      run (step config) state (dispatchCalls env state intent) := by
  rw [reportDispatch_state]
  unfold runDispatch dispatchCalls
  cases state.routes[intent.route]? with
  | none => rfl
  | some record =>
      simp only
      by_cases deferred : (dispatch env.backend (state.makeProgrammingRequest record intent)).deferred = true
      · rw [if_pos deferred, if_pos deferred]
        rfl
      · rw [if_neg deferred, if_neg deferred, run_single live (by rfl)]
        rfl

theorem reconcileRoute_run (live : Live state) (route : RouteId) :
    (state.reconcileRoute config env route).1 =
      run (step config) state (observationCalls env state route) := by
  unfold reconcileRoute observationCalls
  by_cases named : route.isValid = false
  · rw [if_pos named, if_pos named]
    rfl
  rw [if_neg named, if_neg named]
  cases state.routes[route]? with
  | none => rfl
  | some record =>
      simp only
      rw [run_single live (by rfl)]
      rfl

theorem reconcileRoute_live (live : Live state) (route : RouteId) :
    Live (state.reconcileRoute config env route).1 := by
  unfold reconcileRoute
  split
  · exact live
  split
  · exact live
  · exact live.perform (.reconcile route _)

theorem reconcileEach_run (index : Nat) (routes : List RouteId) (live : Live state)
    (summary : ReconciliationSummary) :
    (reconcileEach config env index routes state summary).1 =
      run (step config) state (sweepCalls config env index routes state) := by
  induction routes generalizing index state summary with
  | nil => rfl
  | cons route rest ih =>
      have moved : Live (state.reconcileRoute config { env with io := fun _ => env.io index } route).1 :=
        reconcileRoute_live live route
      have swept := ih (index + 1) moved
      rw [sweepCalls, run_append, ← reconcileRoute_run live]
      unfold reconcileEach
      split <;> rename_i reconciled <;> rw [reconciled] at swept ⊢ <;> exact swept _

end Impl

section

variable {config : ServerConfig} {env : ServerEnv} {state : Impl}

theorem publishRoute_run (live : Live state) (request : PublishRequest) :
    (state.publishRoute config.runtime env.toEnv request).1 =
      run (step config.runtime) state (publishCalls config env state request) := by
  have moved : Live (state.perform config.runtime env.toEnv (.publish request)) := live.perform _
  rw [publishCalls, run_perform live (by rfl)]
  unfold publishRoute
  change Live (state.publishLocked config.runtime env.toEnv request).1 at moved
  change _ = run _ (state.publishLocked config.runtime env.toEnv request).1 _
  split <;> rename_i locked <;> rw [locked] at moved ⊢
  · rfl
  · rfl
  · exact reportDispatch_run moved _ _

theorem mutate_run (live : Live state) (request : RouteMutationRequest) (id : MessageId) :
    (mutate config env request state id).1.1 =
      run (step config.runtime) state (mutationCalls config env state request id) := by
  have withdraws : (state.withdrawRoute config.runtime env.toEnv request.withdraw).1 =
      run (step config.runtime) state (mutationCalls config env state request .withdrawRoute) := by
    have moved : Live (state.perform config.runtime env.toEnv (.withdraw request.withdraw)) := live.perform _
    rw [mutationCalls, run_perform live (by rfl)]
    unfold withdrawRoute
    change Live (state.withdrawLocked config.runtime env.toEnv request.withdraw).1 at moved
    change _ = run _ (state.withdrawLocked config.runtime env.toEnv request.withdraw).1 _
    split <;> rename_i locked <;> rw [locked] at moved ⊢
    · rfl
    · rfl
    · exact reportDispatch_run moved _ _
    all_goals simp
  cases id with
  | revalidateRoute =>
      have moved : Live (state.perform config.runtime env.toEnv (.revalidate request.mutation)) :=
        live.perform _
      rw [mutationCalls, run_perform live (by rfl)]
      simp only [mutate]
      unfold revalidateRoute
      change Live (state.revalidateLocked config.runtime env.toEnv request.mutation).1 at moved
      change _ = run _ (state.revalidateLocked config.runtime env.toEnv request.mutation).1 _
      split <;> rename_i locked <;> rw [locked] at moved ⊢
      · rfl
      · exact reportDispatch_run moved _ _
  | retireRoute =>
      rw [mutationCalls, run_single live (by rfl)]
      rfl
  | revokeRoute =>
      rw [mutationCalls, run_single live (by rfl)]
      rfl
  | _ => exact withdraws

theorem applyProgrammingCompletion_run (live : Live state) (completion : ProgrammingCompletion) :
    (state.applyProgrammingCompletion config.runtime env.toEnv completion).1 =
      run (step config.runtime) state (completionCalls env completion) := by
  unfold applyProgrammingCompletion completionCalls
  by_cases checked : completion.attempt.isValid = true ∧ completion.detail.length ≤ maxDiagnosticChars
  · have accepted : (do
        ensure (completion.attempt.isValid = true) .invalidArgument
          "a programming attempt identity is required"
        ensure (completion.detail.length ≤ maxDiagnosticChars) .limitExceeded
          "the detail text exceeds the configured bound"
        state.checkOpened : Status) = .ok () := by
      simp only [checkOpened, bind_eq_ok, exists_unit, ensure_eq_ok]
      exact ⟨checked.1, checked.2, live.opened⟩
    rw [accepted, if_pos checked, run_single live (by rfl)]
    rfl
  · rw [if_neg checked]
    split
    · rfl
    · rename_i accepted
      simp only [checkOpened, bind_eq_ok, exists_unit, ensure_eq_ok] at accepted
      exact absurd ⟨accepted.1, accepted.2.1⟩ checked

theorem withRequest_run {α : Type} {session : Session} {codec : Codec α} {payload : Bytes}
    {serve : α → Handled} {calls : α → List Call}
    (serves : ∀ request, (serve request).state = run (step config.runtime) state (calls request)) :
    (withRequest session state codec payload serve).state =
      run (step config.runtime) state (callsFor codec payload calls) := by
  unfold withRequest callsFor
  cases codec.decode payload with
  | error why => rfl
  | ok request => exact serves request

theorem withRequest_reads {α : Type} {session : Session} {codec : Codec α} {payload : Bytes}
    {serve : α → Handled}
    (serves : ∀ request, (serve request).state = state) :
    (withRequest session state codec payload serve).state = state := by
  unfold withRequest
  cases codec.decode payload with
  | error why => rfl
  | ok request => exact serves request

/-- A frame leaves the runtime as its calls do. -/
theorem handle_run (live : Live state) (session : Session) (frame : DecodedFrame) :
    (handle config env session state frame).state =
      run (step config.runtime) state (frameCalls config env state frame) := by
  obtain ⟨id, length, payload⟩ := frame
  cases id with
  | registerPublisher =>
      refine withRequest_run fun request => ?_
      rw [run_single live (by rfl)]
      rfl
  | publishRoute => exact withRequest_run fun request => publishRoute_run live request.publish
  | withdrawRoute => exact withRequest_run fun request => mutate_run live request .withdrawRoute
  | revalidateRoute => exact withRequest_run fun request => mutate_run live request .revalidateRoute
  | retireRoute => exact withRequest_run fun request => mutate_run live request .retireRoute
  | revokeRoute => exact withRequest_run fun request => mutate_run live request .revokeRoute
  | reconcileRequest =>
      refine withRequest_run fun request => ?_
      unfold handleReconcile
      by_cases all : request.all = true
      · rw [if_pos all, if_pos all]
        simp only [reconcileAll, checkOpened, live.opened, ensure, if_true]
        exact reconcileEach_run 0 _ live {}
      · rw [if_neg all, if_neg all]
        exact reconcileRoute_run live request.route
  | applyCompletion =>
      exact withRequest_run fun request => applyProgrammingCompletion_run live request.completion
  | hello => exact withRequest_reads fun _ => rfl
  | queryRoute => exact withRequest_reads fun _ => rfl
  | explainRoute => exact withRequest_reads fun _ => rfl
  | snapshotRequest => exact withRequest_reads fun _ => rfl
  | backendState => exact withRequest_reads fun _ => rfl
  | _ => rfl

end

/-! ## Conversations -/

section

variable {config : ServerConfig}

theorem run_live {state : Impl} {calls : List Call} (live : Live state)
    (continues : ∀ call ∈ calls, call.action.restarts = false) :
    Live (run (step config.runtime) state calls) := by
  induction calls generalizing state with
  | nil => exact live
  | cons call rest ih =>
      rw [run_cons]
      refine ih ?_ fun later member => continues later (List.mem_cons_of_mem call member)
      rw [step_of_opened live.opened (continues call List.mem_cons_self)]
      exact live.perform call.action

theorem converse_run (event : SessionEvent) (conversation : Conversation) (live : Live conversation.state) :
    (converse config event conversation).state =
      run (step config.runtime) conversation.state (event.calls config conversation) := by
  cases event with
  | elsewhere env action =>
      cases action with
      | restart seed => rfl
      | _ =>
          simp only [SessionEvent.calls]
          rw [run_single live (by rfl)]
          rfl
  | frame env received =>
      by_cases going : conversation.goesOn = true
      · simp only [converse, SessionEvent.calls, going, if_true]
        exact handle_run live conversation.session received
      · simp only [converse, SessionEvent.calls, if_neg going]
        rfl

theorem conversationCalls_continue (conversation : Conversation) (events : List SessionEvent) :
    ∀ call ∈ conversationCalls config conversation events, call.action.restarts = false := by
  induction events generalizing conversation with
  | nil => simp [conversationCalls]
  | cons event rest ih =>
      intro call member
      rcases List.mem_append.mp member with first | later
      · exact event_continue event conversation call first
      · exact ih _ call later

/-- A conversation takes the runtime where its calls take it. -/
theorem converse_simulates (conversation : Conversation) (live : Live conversation.state)
    (events : List SessionEvent) :
    (run (converse config) conversation events).state =
      run (step config.runtime) conversation.state (conversationCalls config conversation events) := by
  induction events generalizing conversation with
  | nil => rfl
  | cons event rest ih =>
      have stepped : (converse config event conversation).state = _ := converse_run event conversation live
      have stays : Live (converse config event conversation).state := by
        rw [stepped]
        exact run_live live (event_continue event conversation)
      rw [run_cons, ih _ stays, conversationCalls, run_append, stepped]

/-- The runtime behind a server is in a state of one of its own runs, without a restart. -/
theorem conversation_is_run {seed : Word} (before : List Call)
    (opened : (run (step config.runtime) (initial seed) before).opened = true) (events : List SessionEvent) :
    (run (converse config) { state := run (step config.runtime) (initial seed) before } events).state =
        run (step config.runtime) (initial seed) (before ++ conversationCalls config
          { state := run (step config.runtime) (initial seed) before } events) ∧
      ∀ call ∈ conversationCalls config
        { state := run (step config.runtime) (initial seed) before } events,
        call.action.restarts = false := by
  have live : Live (run (step config.runtime) (initial seed) before) := ⟨opened, run_indexed before⟩
  rw [run_append]
  exact ⟨converse_simulates { state := run (step config.runtime) (initial seed) before } live events,
    conversationCalls_continue _ events⟩

/-- Two publishers register on one session of a coordinator that was just opened. -/
theorem conversation_is_run_registering :
    (run (converse Scenario.server)
        { state := run (step Scenario.config) (initial 0) [⟨Scenario.env, .restart 1⟩] }
        Scenario.twoPublishers).state =
      run (step Scenario.config) (initial 0) ([⟨Scenario.env, .restart 1⟩] ++
        conversationCalls Scenario.server
          { state := run (step Scenario.config) (initial 0) [⟨Scenario.env, .restart 1⟩] }
          Scenario.twoPublishers) :=
  (conversation_is_run [⟨Scenario.env, .restart 1⟩] (by decide +kernel) Scenario.twoPublishers).1

/-- What holds in every state of every run of the runtime holds behind a server, after any frames of
a session and any calls of other sessions. -/
theorem converse_invariant {motive : Impl → Prop} {seed : Word}
    (reachable : ∀ calls, motive (run (step config.runtime) (initial seed) calls)) (before : List Call)
    (opened : (run (step config.runtime) (initial seed) before).opened = true) (events : List SessionEvent) :
    motive (run (converse config)
      { state := run (step config.runtime) (initial seed) before } events).state := by
  have live : Live (run (step config.runtime) (initial seed) before) := ⟨opened, run_indexed before⟩
  rw [converse_simulates { state := run (step config.runtime) (initial seed) before } live events,
    ← run_append]
  exact reachable _

end

end RouteFabric
