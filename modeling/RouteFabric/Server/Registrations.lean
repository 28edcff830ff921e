import RouteFabric.Server.Coordinator

/-!
# Who is registered behind a coordinator

A publisher is registered because a session registered it. `coordinator_registrations` says what is
left of that when sessions end: a registration outlives the fence of its session only if the session
registered somebody else afterwards.
-/

namespace RouteFabric

open ByteReader OrderedMap Run Impl

/-! ## What moves the registrations -/

namespace Impl

variable {config : RuntimeConfig} {env : Env} {origin state before after : Impl} {action : Action}

/-- Only administration changes who is registered. -/
theorem moves_registrations (moves : Moves config env origin action before after)
    (ordinary : action.administers = false) : after.registrations = before.registrations := by
  refine moves_invariant (motive := fun current => current.registrations = before.registrations)
    moves ?_ rfl
  intro current next same move
  cases move with
  | draw ids => exact same
  | mutate unbroken ids index legal =>
      rename_i edit
      have frame := @acknowledge_frame { current with ids := ids } config (env.io index) edit
      exact frame.registrations.trans same
  | administer administers => exact absurd administers (by simp [ordinary])
  | save compacts => exact same
  | advance advances => exact same

/-- An action that does not register anybody leaves only registrations that were there. -/
theorem perform_registered (live : Live state) (ordinary : ∀ publisher workerBoot scope,
      action ≠ .register publisher workerBoot scope) {publisher : PublisherId}
    {registration : PublisherRegistration}
    (found : (state.perform config env action).registrations[publisher]? = some registration) :
    state.registrations[publisher]? = some registration := by
  by_cases administers : action.administers = true
  · refine perform_unregistered (by rw [takes, live.opened, Bool.true_or]) administers ?_ found
    cases action with
    | register registering workerBoot scope => exact absurd rfl (ordinary registering workerBoot scope)
    | _ => simp [registers]
  · rwa [moves_registrations (perform_moves live.indexed) (by simpa using administers)] at found

/-- A registration names the boot that asked for it. -/
theorem registerPublisher_workerBoot {publisher : PublisherId} {workerBoot : WorkerBootId}
    {scope : PublisherScope} {registration : PublisherRegistration}
    (succeeded : (state.registerPublisher config publisher workerBoot scope).2 = .ok registration) :
    registration.workerBoot = workerBoot := by
  unfold registerPublisher at succeeded
  split at succeeded
  · cases succeeded
  split at succeeded
  · cases succeeded
  simp only at succeeded
  split at succeeded
  · cases succeeded
  · rw [← Except.ok.inj succeeded]

end Impl

/-! ## Who registered whom -/

/-- The registration that an action makes. -/
def Impl.registrationBy (config : RuntimeConfig) (state : Impl) :
    Option Action → Option (PublisherId × WorkerBootId)
  | some (.register publisher workerBoot scope) =>
      if (state.registerPublisher config publisher workerBoot scope).2.isOk then some (publisher, workerBoot)
      else none
  | _ => none

section

variable (config : ServerConfig)

/-- The registration that a turn of a session makes. -/
def Served.registers (env : ServerEnv) (state : Impl) (served : Served) : Option (PublisherId × WorkerBootId) :=
  state.registrationBy config.runtime (served.act env state)

def CoordinatorEvent.registersOn (index : Nat) (event : CoordinatorEvent) (coordinator : Coordinator) :
    List (PublisherId × WorkerBootId) :=
  match event with
  | .turn other env _ =>
      if other = index then
        match coordinator.sessions[index]? with
        | none => []
        | some served => (served.registers config env coordinator.state).toList
      else []
  | _ => []

/-- The registrations that were made on a session, in order. -/
def registeredOn (index : Nat) : Coordinator → List CoordinatorEvent → List (PublisherId × WorkerBootId)
  | _, [] => []
  | coordinator, event :: rest =>
      event.registersOn config index coordinator ++ registeredOn index (coordinator.step config event) rest

end

section

variable {config : ServerConfig} {env : ServerEnv} {state : Impl}

theorem registrationBy_ordinary {action : Option Action}
    (ordinary : ∀ taken, action = some taken → taken.administers = false) :
    state.registrationBy config.runtime action = none := by
  cases action with
  | none => rfl
  | some taken =>
      have administers := ordinary taken rfl
      cases taken with
      | register publisher workerBoot scope => cases administers
      | _ => rfl

/-- A thread leaves the registrations that were there, but for the one that it makes. -/
theorem Coordinator.acted_registrations {coordinator : Coordinator} (live : Live coordinator.state) {env : Env}
    {action : Option Action} {publisher : PublisherId} {registration : PublisherRegistration}
    (found : (coordinator.acted config env action).state.registrations[publisher]? = some registration) :
    coordinator.state.registrations[publisher]? = some registration ∨
      coordinator.state.registrationBy config.runtime action = some (publisher, registration.workerBoot) := by
  cases action with
  | none => exact .inl found
  | some taken =>
      cases taken with
      | register registering workerBoot scope =>
          simp only [Coordinator.acted, Impl.perform] at found
          simp only [Impl.registrationBy]
          rcases registerPublisher_cases config.runtime coordinator.state registering workerBoot scope with
            ⟨failure, refused⟩ | ⟨made, registered⟩
          · rw [refused] at found
            exact .inl found
          · have boot := registerPublisher_workerBoot (congrArg Prod.snd registered)
            rw [registered] at found ⊢
            simp only [lookup_insert] at found
            split at found
            · rename_i same
              obtain rfl := Option.some.inj found
              right
              simp [Except.isOk, Except.toBool, same, boot]
            · exact .inl found
      | _ => exact .inl (perform_registered live (fun _ _ _ same => by cases same) found)

/-! ## What a thread remembers -/

variable {attendance : Attendance} {pending : Pending} {task : Task Answer}

theorem Attendance.session_follow
    (gives : task.Gives (·.session = attendance.session)) :
    (attendance.follow task).session = attendance.session := by
  cases task with
  | done answer => exact gives
  | turn act next => rfl

theorem Attendance.session_begin (frame : DecodedFrame) :
    (attendance.begin config frame).1.session = attendance.session := by
  unfold begin
  cases undertaken : undertake config attendance.session frame with
  | error refusal => rfl
  | ok task =>
      rcases undertake_cases undertaken with plain | ⟨request, rfl⟩
      · exact session_follow plain.gives
      · rfl

/-- The session remembers a registration under the lock that makes it. -/
theorem Attendance.Sound.session_next (sound : attendance.Sound config)
    (held : attendance.pending = some pending) :
    (attendance.follow (pending.next env state)).session =
      attendance.session.remember (state.registrationBy config.runtime (pending.act env state)) := by
  rcases sound pending held with plain | ⟨request, registers⟩
  · rw [registrationBy_ordinary fun taken acts => (plain.within.1 env state taken acts).administers,
      session_follow (plain.gives env state)]
    rfl
  · obtain ⟨act, next⟩ := pending
    rw [registerTask_next registers]
    obtain ⟨rfl, -⟩ := Resumption.turn.inj registers
    simp only [follow, handleRegister, Impl.registrationBy]
    split <;> rfl

end

namespace Served

variable {config : ServerConfig} {env : ServerEnv} {moment : SessionLoop.Moment} {state : Impl}
  {served : Served} {made : List (PublisherId × WorkerBootId)} {publisher : PublisherId}
  {registration : PublisherRegistration}

/-- A session remembers the last registration that it made, and its close waits for its loop. -/
structure Remembers (served : Served) (made : List (PublisherId × WorkerBootId)) : Prop where
  session : served.loop.world.session = Session.remember {} made.getLast?
  going : served.loop.ended = false → served.close = .starting

/-- The fence of a session is still to come. -/
def Unfenced (served : Served) : Prop := served.close = .starting ∨ served.close = .lookedUp true

theorem proceed_close (going : served.loop.ended = false) :
    (served.proceed config env moment state).close = served.close := by
  rw [proceed, if_neg (by simp [going])]
  split <;> rfl

theorem registers_of_ended (ended : served.loop.ended = true) : served.registers config env state = none := by
  unfold registers act
  rw [if_pos ended]
  split <;> rfl

theorem Remembers.proceed (remembers : served.Remembers made) (answering : served.Answering config) :
    (served.proceed config env moment state).Remembers
      (made ++ (served.registers config env state).toList) := by
  rcases @proceed_cases config env state served moment with
    ⟨ended, kept⟩ | ⟨pending, going, held, turned⟩ | ⟨going, vacant, turned⟩
  · rw [registers_of_ended ended, Option.toList_none, List.append_nil]
    constructor <;> rw [kept]
    · exact remembers.session
    · exact fun going => absurd (ended.symm.trans going) (by decide)
  · refine ⟨?_, fun _ => (proceed_close going).trans (remembers.going going)⟩
    have acts : served.registers config env state =
        state.registrationBy config.runtime (pending.act env state) := by
      rw [registers, act, if_neg (by simp [going]), held]
    rw [turned, acts]
    refine (answering.sound.session_next held).trans ?_
    rw [remembers.session, Session.remember_remember, List.getLast?_append]
    cases state.registrationBy config.runtime (pending.act env state) <;> rfl
  · refine ⟨?_, fun _ => (proceed_close going).trans (remembers.going going)⟩
    have silent : served.registers config env state = none := by
      rw [registers, act, if_neg (by simp [going]), vacant]
      rfl
    rw [turned, silent, Option.toList_none, List.append_nil, ← remembers.session]
    rcases @SessionLoop.iterate_cases Attendance config.limits (Attendance.begin config) moment served.loop with
      ⟨frame, rest, hands⟩ | ⟨world, -⟩
    · simp only [hands, SessionLoop.hand]
      exact Attendance.session_begin frame
    · simp only [world]

/-- A session that remembers a registration comes to its fence, and the registration is gone. -/
theorem Remembers.unfenced {coordinator : Coordinator} (remembers : served.Remembers made)
    (unfenced : served.Unfenced) (ended : served.loop.ended = true)
    (last : made.getLast? = some (publisher, registration.workerBoot))
    (held : coordinator.state.registrations[publisher]? = some registration)
    (found : (coordinator.acted config env.toEnv (served.act env coordinator.state)).state.registrations[publisher]? =
      some registration) : (served.proceed config env moment coordinator.state).Unfenced := by
  have session : served.loop.world.session = ⟨publisher, registration.workerBoot, true⟩ := by
    rw [remembers.session, last]
    rfl
  rcases unfenced with starting | lookedUp
  · right
    have owned : served.loop.world.session.owns coordinator.state = true := by
      rw [session]
      exact Session.owns_iff.mpr ⟨rfl, registration, held, rfl⟩
    rw [Served.proceed, if_pos ended, starting, if_neg (by decide)]
    simp only [closeStep, owned]
  · rw [act, if_pos ended, if_pos lookedUp] at found
    have fenced : (served.loop.world.session.fence coordinator.state).registrations[publisher]? =
        some registration := found
    rw [Session.fence_registrations, session, if_pos rfl] at fenced
    cases fenced

end Served

/-! ## Registrations and their sessions -/

section

variable {config : ServerConfig} {coordinator : Coordinator}

/-- A session made the registration, and unless it made another one since, its fence is still to
come. -/
def Sustains (coordinator : Coordinator) (made : Nat → List (PublisherId × WorkerBootId))
    (entry : PublisherId × WorkerBootId) : Prop :=
  ∃ (index : Nat) (served : Served), coordinator.sessions[index]? = some served ∧ entry ∈ made index ∧
    ((made index).getLast? = some entry → served.Unfenced)

/-- Every session remembers what it made, and every registration is sustained. -/
structure Coordinator.Ascribed (coordinator : Coordinator)
    (made : Nat → List (PublisherId × WorkerBootId)) : Prop where
  remembers : ∀ (index : Nat) (served : Served), coordinator.sessions[index]? = some served →
    served.Remembers (made index)
  unmade : ∀ index, coordinator.sessions.length ≤ index → made index = []
  sustained : ∀ (publisher : PublisherId) (registration : PublisherRegistration),
    coordinator.state.registrations[publisher]? = some registration →
      Sustains coordinator made (publisher, registration.workerBoot)

namespace Coordinator

variable {made : Nat → List (PublisherId × WorkerBootId)}

theorem Ascribed.accept (ascribed : coordinator.Ascribed made) (arrival : Arrival) :
    (coordinator.accept config arrival).Ascribed made := by
  obtain ⟨remembers, unmade, sustained⟩ := ascribed
  obtain ⟨state, -, kept | ⟨-, added⟩⟩ := coordinator.accept_cases arrival
  · constructor
    · rwa [kept]
    · rwa [kept]
    · intro publisher registration found
      rw [state] at found
      obtain ⟨index, served, held, rest⟩ := sustained publisher registration found
      exact ⟨index, served, by rw [kept]; exact held, rest⟩
  · constructor
    · intro index served held
      rw [added] at held
      by_cases earlier : index < coordinator.sessions.length
      · rw [List.getElem?_append_left earlier] at held
        exact remembers index served held
      · rw [List.getElem?_append_right (Nat.le_of_not_lt earlier)] at held
        rw [unmade index (Nat.le_of_not_lt earlier)]
        obtain rfl := List.mem_singleton.mp (List.mem_of_getElem? held)
        exact ⟨rfl, fun _ => rfl⟩
    · intro index beyond
      apply unmade index
      rw [added, List.length_append] at beyond
      omega
    · intro publisher registration found
      rw [state] at found
      obtain ⟨index, served, held, rest⟩ := sustained publisher registration found
      obtain ⟨within, -⟩ := List.getElem?_eq_some_iff.mp held
      exact ⟨index, served, by rw [added, List.getElem?_append_left within]; exact held, rest⟩

theorem Ascribed.elsewhere (ascribed : coordinator.Ascribed made) (live : Live coordinator.state)
    (env : Env) {action : Action}
    (inside : ∀ publisher workerBoot scope, action ≠ .register publisher workerBoot scope) :
    (coordinator.step config (.elsewhere env action)).Ascribed made := by
  refine ⟨ascribed.remembers, ascribed.unmade, ?_⟩
  intro publisher registration found
  exact ascribed.sustained publisher registration (perform_registered live inside found)

theorem Ascribed.turn (ascribed : coordinator.Ascribed made) (live : Live coordinator.state)
    (answering : coordinator.Answering config) (env : ServerEnv) (moment : SessionLoop.Moment) {index : Nat}
    {served : Served} (held : coordinator.sessions[index]? = some served) :
    ((coordinator.acted config env.toEnv (served.act env coordinator.state)).replace index served
        (served.proceed config env moment coordinator.state)).Ascribed
      fun other => made other ++
        if index = other then (served.registers config env coordinator.state).toList else [] := by
  obtain ⟨within, -⟩ := List.getElem?_eq_some_iff.mp held
  have remembers := ascribed.remembers index served held
  have turned : (coordinator.sessions.set index
      (served.proceed config env moment coordinator.state))[index]? =
        some (served.proceed config env moment coordinator.state) := List.getElem?_set_self within
  refine ⟨?_, ?_, ?_⟩
  · intro other another found
    by_cases same : index = other
    · subst same
      obtain rfl := Option.some.inj (turned.symm.trans found)
      rw [if_pos rfl]
      exact remembers.proceed (answering served (List.mem_of_getElem? held))
    · rw [if_neg same, List.append_nil]
      have kept : coordinator.sessions[other]? = some another := by
        rw [← List.getElem?_set_ne same]
        exact found
      exact ascribed.remembers other another kept
  · intro other beyond
    have outside : coordinator.sessions.length ≤ other := by
      simpa [Coordinator.replace, Coordinator.acted] using beyond
    have different : index ≠ other := by omega
    rw [if_neg different, List.append_nil]
    exact ascribed.unmade other outside
  · intro publisher registration found
    rcases Coordinator.acted_registrations live found with before | fresh
    · obtain ⟨other, another, earlier, entered, unfenced⟩ :=
        ascribed.sustained publisher registration before
      by_cases same : index = other
      · -- The session of the registration takes the turn itself.
        subst same
        obtain rfl := Option.some.inj (held.symm.trans earlier)
        refine ⟨index, _, turned, ?_, ?_⟩
        · simp only [↓reduceIte]
          exact List.mem_append_left _ entered
        · simp only [↓reduceIte]
          intro last
          by_cases ended : served.loop.ended = true
          · rw [Served.registers_of_ended ended, Option.toList_none, List.append_nil] at last
            exact remembers.unfenced (unfenced last) ended last before found
          · have going : served.loop.ended = false := by simpa using ended
            exact .inl ((Served.proceed_close going).trans (remembers.going going))
      · refine ⟨other, another, ?_, ?_, ?_⟩
        · exact (List.getElem?_set_ne same).trans earlier
        · simp only [if_neg same, List.append_nil]
          exact entered
        · simp only [if_neg same, List.append_nil]
          exact unfenced
    · have registers : served.registers config env coordinator.state =
          some (publisher, registration.workerBoot) := fresh
      refine ⟨index, _, turned, ?_, fun _ => ?_⟩
      · simp only [↓reduceIte, registers]
        exact List.mem_append_right _ List.mem_cons_self
      · have going : served.loop.ended = false := by
          by_contra left
          rw [Served.registers_of_ended (by simpa using left)] at registers
          cases registers
        exact .inl ((Served.proceed_close going).trans (remembers.going going))

theorem Ascribed.step (ascribed : coordinator.Ascribed made) (live : Live coordinator.state)
    (answering : coordinator.Answering config) {event : CoordinatorEvent}
    (inside : ∀ env publisher workerBoot scope,
      event ≠ .elsewhere env (.register publisher workerBoot scope)) :
    (coordinator.step config event).Ascribed
      fun index => made index ++ event.registersOn config index coordinator := by
  cases event with
  | accept arrival =>
      simp only [CoordinatorEvent.registersOn, List.append_nil]
      exact ascribed.accept arrival
  | stop =>
      simp only [CoordinatorEvent.registersOn, List.append_nil]
      exact ⟨ascribed.remembers, ascribed.unmade, ascribed.sustained⟩
  | elsewhere env action =>
      simp only [CoordinatorEvent.registersOn, List.append_nil]
      refine ascribed.elsewhere live env fun publisher workerBoot scope registers => ?_
      exact inside env publisher workerBoot scope (by rw [registers])
  | turn index env reception =>
      cases held : coordinator.sessions[index]? with
      | none =>
          have nothing : (fun other => made other ++
              (CoordinatorEvent.turn index env reception).registersOn config other coordinator) = made := by
            funext other
            simp only [CoordinatorEvent.registersOn]
            split
            · rename_i same
              rw [← same, held, List.append_nil]
            · exact List.append_nil _
          rw [nothing]
          simp only [Coordinator.step, held]
          exact ascribed
      | some served =>
          have turn := @Ascribed.turn config coordinator made ascribed live answering env ⟨coordinator.stopping, reception⟩
            index served held
          simp only [Coordinator.step, held]
          refine cast (congrArg _ ?_) turn
          funext other
          simp only [CoordinatorEvent.registersOn]
          split
          · rename_i same
            rw [← same, held]
          · rfl

theorem Ascribed.run (ascribed : coordinator.Ascribed made) (live : Live coordinator.state)
    (answering : coordinator.Answering config) {events : List CoordinatorEvent} (inside : ∀ env publisher workerBoot scope,
      CoordinatorEvent.elsewhere env (.register publisher workerBoot scope) ∉ events) :
    (Run.run (Coordinator.step config) coordinator events).Ascribed
      fun index => made index ++ registeredOn config index coordinator events := by
  induction events generalizing coordinator made with
  | nil =>
      simp only [registeredOn, List.append_nil]
      exact ascribed
  | cons event rest ih =>
      have stepped := @Ascribed.step config coordinator made ascribed live answering event
        fun env publisher workerBoot scope registers =>
          inside env publisher workerBoot scope (by rw [registers]; exact List.mem_cons_self)
      have later := ih stepped (step_live live answering event) (answering_step answering event)
        fun env publisher workerBoot scope member =>
          inside env publisher workerBoot scope (List.mem_cons_of_mem event member)
      simp only [List.append_assoc] at later
      exact later

end Coordinator

/-- Behind a coordinator that began with nobody registered, every registration was made on one of its
sessions, and it outlives the fence of that session only if the session made another one since. -/
theorem coordinator_registrations {seed : Word} (before : List Call)
    (opened : (run (Impl.step config.runtime) (initial seed) before).opened = true)
    (nobody : (run (Impl.step config.runtime) (initial seed) before).registrations = ∅)
    (events : List CoordinatorEvent) (inside : ∀ env publisher workerBoot scope,
      CoordinatorEvent.elsewhere env (.register publisher workerBoot scope) ∉ events)
    {publisher : PublisherId} {registration : PublisherRegistration}
    (found : (run (Coordinator.step config) { state := run (Impl.step config.runtime) (initial seed) before }
      events).state.registrations[publisher]? = some registration) :
    Sustains (run (Coordinator.step config)
        { state := run (Impl.step config.runtime) (initial seed) before } events)
      (fun index => registeredOn config index
        { state := run (Impl.step config.runtime) (initial seed) before } events)
      (publisher, registration.workerBoot) := by
  have live : Live (run (Impl.step config.runtime) (initial seed) before) := ⟨opened, run_indexed before⟩
  have vacant : Coordinator.Ascribed { state := run (Impl.step config.runtime) (initial seed) before }
      fun _ => [] := by
    refine ⟨by simp, fun _ _ => rfl, ?_⟩
    intro publisher registration registered
    simp [nobody] at registered
  have ascribed := @Coordinator.Ascribed.run config _ _ vacant live (vacant_answering _) events inside
  simp only [List.nil_append] at ascribed
  exact ascribed.sustained publisher registration found

/-- Once every session is closed, nobody is registered, if each of them registered one publisher at
most. -/
theorem coordinator_deserted {seed : Word} (before : List Call)
    (opened : (run (Impl.step config.runtime) (initial seed) before).opened = true)
    (nobody : (run (Impl.step config.runtime) (initial seed) before).registrations = ∅)
    (events : List CoordinatorEvent) (inside : ∀ env publisher workerBoot scope,
      CoordinatorEvent.elsewhere env (.register publisher workerBoot scope) ∉ events)
    (closed : ∀ served ∈ (run (Coordinator.step config)
        { state := run (Impl.step config.runtime) (initial seed) before } events).sessions,
      served.close = .finished)
    (single : ∀ index, (registeredOn config index
      { state := run (Impl.step config.runtime) (initial seed) before } events).length ≤ 1)
    (publisher : PublisherId) :
    (run (Coordinator.step config) { state := run (Impl.step config.runtime) (initial seed) before }
      events).state.registrations[publisher]? = none := by
  rw [Option.eq_none_iff_forall_ne_some]
  intro registration found
  obtain ⟨index, served, held, entered, unfenced⟩ :=
    coordinator_registrations before opened nobody events inside found
  have finished := closed served (List.mem_of_getElem? held)
  have last : (registeredOn config index { state := run (Impl.step config.runtime) (initial seed) before }
      events).getLast? = some (publisher, registration.workerBoot) := by
    have few := single index
    simp only at entered
    generalize registeredOn config index
      { state := run (Impl.step config.runtime) (initial seed) before } events = made at entered few ⊢
    cases made with
    | nil => cases entered
    | cons entry rest =>
        obtain rfl : rest = [] := List.eq_nil_of_length_eq_zero (by simpa using few)
        rw [List.mem_singleton.mp entered]
        rfl
  rcases unfenced last with starting | lookedUp
  · rw [finished] at starting
    cases starting
  · rw [finished] at lookedUp
    cases lookedUp

/-- A connection on which one frame arrives whole, and the first turn of its task. -/
def singleConnection (env : ServerEnv) (image : Bytes) : List CoordinatorEvent :=
  [.accept .ready, .accept .ready, .turn 0 env (.chunk image), .turn 0 env .wouldBlock, .turn 0 env .wouldBlock]

/-- The registration is made. -/
theorem singleConnection_state {env : ServerEnv} {image : Bytes} {request : RegisterPublisherRequest}
    (room : 0 < config.limits.maxSessions)
    (small : config.limits.maxFrameBytes + frameHeaderBytes < 2 ^ 64)
    (formed : FrameFormed image config.limits)
    (asks : undertake config {} (frameOf image) = .ok (registerTask config {} request)) (state : Impl) :
    (run (Coordinator.step config) { state } (singleConnection env image)).state =
      (handleRegister config {} state request).state := by
  have bound : ¬ SessionLoop.bufferBound config.limits < image.length := by
    have whole := formed.length
    have bounded := formed.bounded
    rw [SessionLoop.bufferBound, Nat.mod_eq_of_lt small]
    omega
  have waits : SessionLoop.consume config.limits (Attendance.begin config) { world := {} } = none := by
    rw [SessionLoop.consume, if_pos (by exact Nat.zero_lt_succ 15)]
  have handed : SessionLoop.consume config.limits (Attendance.begin config) { buffer := image, world := {} } =
      some (SessionLoop.hand (Attendance.begin config) { buffer := image, world := {} } (frameOf image) []) :=
    SessionLoop.consume_whole formed (List.append_nil _).symm
  simp [singleConnection, Coordinator.step, Coordinator.accept, room, Served.accepted, Served.act,
    Served.proceed, Coordinator.acted, Coordinator.replace, SessionLoop.iterate, SessionLoop.turn, waits,
    SessionLoop.receive, bound, handed, SessionLoop.hand, Attendance.begin, asks, Attendance.follow,
    registerTask, lockedTask, Resumption.single, Impl.perform, handleRegister]

/-- The operator is registered for the connection that registered it. -/
theorem coordinator_registrations_single :
    Sustains (run (Coordinator.step Scenario.server)
        { state := run (Impl.step Scenario.server.runtime) (initial 0) [⟨Scenario.env, .restart 1⟩] }
        (singleConnection Scenario.serverEnv (Scenario.registrationImage Scenario.operator Scenario.boot)))
      (fun index => registeredOn Scenario.server index
        { state := run (Impl.step Scenario.server.runtime) (initial 0) [⟨Scenario.env, .restart 1⟩] }
        (singleConnection Scenario.serverEnv (Scenario.registrationImage Scenario.operator Scenario.boot)))
      (Scenario.operator, Scenario.boot) := by
  let request : RegisterPublisherRequest :=
    { context := { epoch := .one, publisher := Scenario.operator, workerBoot := Scenario.boot,
                   attempt := ⟨1⟩ },
      scope := Scenario.override }
  have vacant : (run (Impl.step Scenario.server.runtime) (initial 0)
      [⟨Scenario.env, .restart 1⟩]).registrations = ∅ :=
    Std.ExtTreeMap.isEmpty_iff.mp (by decide +kernel)
  have within : ((RegisterPublisherRequest.codec {}).encode request).length ≤
      Scenario.server.limits.maxFrameBytes := by decide +kernel
  have formed : FrameFormed (Scenario.registrationImage Scenario.operator Scenario.boot)
      Scenario.server.limits :=
    encodeFrame_formed .registerPublisher within (lt_of_le_of_lt within (by decide))
  have decoded : (RegisterPublisherRequest.codec Scenario.server.limits).decode
      ((RegisterPublisherRequest.codec {}).encode request) = .ok request := by
    decide +kernel
  have asks : undertake Scenario.server {}
      (frameOf (Scenario.registrationImage Scenario.operator Scenario.boot)) =
        .ok (registerTask Scenario.server {} request) := by
    rw [Scenario.registrationImage, frameOf_encodeFrame]
    simp only [undertake, withTask]
    rw [decoded]
  have held : (run (Coordinator.step Scenario.server)
      { state := run (Impl.step Scenario.server.runtime) (initial 0) [⟨Scenario.env, .restart 1⟩] }
      (singleConnection Scenario.serverEnv
        (Scenario.registrationImage Scenario.operator Scenario.boot))).state.registrations[
          Scenario.operator]?.map (·.workerBoot) = some Scenario.boot := by
    rw [singleConnection_state (by decide) (by decide) formed asks]
    decide +kernel
  obtain ⟨registration, found, boot⟩ := Option.map_eq_some_iff.mp held
  have inside : ∀ env publisher workerBoot scope,
      CoordinatorEvent.elsewhere env (.register publisher workerBoot scope) ∉
        singleConnection Scenario.serverEnv
          (Scenario.registrationImage Scenario.operator Scenario.boot) := by
    simp [singleConnection]
  have opened : (run (Impl.step Scenario.server.runtime) (initial 0)
      [⟨Scenario.env, .restart 1⟩]).opened = true := by
    decide +kernel
  have sustained := @coordinator_registrations Scenario.server 0 [⟨Scenario.env, .restart 1⟩] opened
    vacant _ inside Scenario.operator registration found
  rwa [boot] at sustained

end

end RouteFabric
