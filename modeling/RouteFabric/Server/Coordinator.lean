import RouteFabric.Server.SessionLoop
import RouteFabric.Server.Simulation
import RouteFabric.Server.Tasks

/-!
# The coordinator

A coordinator serves many connections at once: one thread accepts them, and each session has a
thread of its own, which runs the loop and then the close. Where a frame takes the lock of the runtime
several times, or calls the backend, other threads have their turns in between. `coordinator_is_run` says
that the runtime behind it is in a state of one of its own runs, whatever bytes arrive on whichever
connection, however the threads take turns and whenever the server is told to stop, and that no more
sessions are open than the configuration allows. `coordinator_isolates` says that a session hands over,
refuses and counts what it would alone: nothing that arrives on another connection reaches its loop.
-/

namespace RouteFabric

open ByteReader Run Impl

/-! ## Turns of a loop -/

namespace SessionLoop

variable {World Other : Type} {limits : Limits} {handle : World → DecodedFrame → World × Bool}

/-- One turn of the loop: a complete frame is handed over, and where there is none the loop waits and
receives. -/
def turn (limits : Limits) (handle : World → DecodedFrame → World × Bool) (reception : Reception)
    (session : SessionLoop World) : SessionLoop World :=
  if session.ended then session
  else
    match session.consume limits handle with
    | some next => next
    | none => receive limits reception session

/-- Turns up to the next wait. -/
theorem turns_drain (session : SessionLoop World) :
    ∃ count, ∀ receptions : List Reception, receptions.length = count →
      run (turn limits handle) session receptions = drain limits handle session := by
  induction session using drain.induct limits handle with
  | case1 session ended =>
      refine ⟨0, fun receptions none => ?_⟩
      rw [List.length_eq_zero_iff.mp none, drain_of_ended ended]
      rfl
  | case2 session going nothing =>
      refine ⟨0, fun receptions none => ?_⟩
      rw [List.length_eq_zero_iff.mp none, drain_of_none nothing]
      rfl
  | case3 session going next consumed ih =>
      obtain ⟨count, turns⟩ := ih
      refine ⟨count + 1, fun receptions more => ?_⟩
      obtain ⟨reception, rest, rfl, length⟩ := List.length_eq_succ_iff.mp more
      have first : turn limits handle reception session = next := by
        rw [turn, if_neg going, consumed]
      rw [run_cons, first, turns rest length, drain_of_some (by simpa using going) consumed]

/-- What `advance` does takes turns: the one that receives, and those up to the next wait. -/
theorem turns_advance {session : SessionLoop World} (waits : session.consume limits handle = none)
    (reception : Reception) :
    ∃ count, ∀ receptions : List Reception, receptions.length = count →
      run (turn limits handle) session (reception :: receptions) =
        advance limits handle reception session := by
  obtain ⟨count, turns⟩ := @turns_drain World limits handle (receive limits reception session)
  refine ⟨count, fun receptions length => ?_⟩
  have first : turn limits handle reception session = receive limits reception session := by
    by_cases ended : session.ended = true
    · unfold turn receive
      rw [if_pos ended, if_pos ended]
    · rw [turn, if_neg ended, waits]
  rw [run_cons, first, turns receptions length, advance]

/-- What the loop does with its buffer: it refuses and is left, or it hands a frame over. -/
theorem consume_cases {session next : SessionLoop World}
    (consumed : session.consume limits handle = some next) :
    (∃ counters code why, next = session.refuse counters code why) ∨
      ∃ frame rest, next = session.hand handle frame rest := by
  unfold consume at consumed
  split at consumed
  · cases consumed
  split at consumed
  · exact .inl ⟨_, _, _, (Option.some.inj consumed).symm⟩
  · exact .inl ⟨_, _, _, (Option.some.inj consumed).symm⟩
  split at consumed
  · cases consumed
  split at consumed
  · exact .inl ⟨_, _, _, (Option.some.inj consumed).symm⟩
  · exact .inl ⟨_, _, _, (Option.some.inj consumed).symm⟩
  · exact .inr ⟨_, _, (Option.some.inj consumed).symm⟩

/-- A receive leaves the rest of the process alone. -/
theorem receive_world (reception : Reception) (session : SessionLoop World) :
    (receive limits reception session).world = session.world ∧
      (receive limits reception session).handed = session.handed := by
  unfold receive
  split
  · exact ⟨rfl, rfl⟩
  · cases reception with
    | chunk bytes =>
        simp only
        split <;> exact ⟨rfl, rfl⟩
    | wouldBlock => exact ⟨rfl, rfl⟩
    | closed => exact ⟨rfl, rfl⟩

/-- A turn hands a frame over, or it leaves the rest of the process alone. -/
theorem turn_cases (reception : Reception) (session : SessionLoop World) :
    (∃ frame rest, session.ended = false ∧
        turn limits handle reception session = session.hand handle frame rest) ∨
      (turn limits handle reception session).world = session.world ∧
        (turn limits handle reception session).handed = session.handed := by
  unfold turn
  split
  · exact .inr ⟨rfl, rfl⟩
  · rename_i going
    cases consumed : session.consume limits handle with
    | none => exact .inr (receive_world reception session)
    | some next =>
        rcases consume_cases consumed with ⟨counters, code, why, rfl⟩ | ⟨frame, rest, rfl⟩
        · exact .inr ⟨rfl, rfl⟩
        · exact .inl ⟨frame, rest, by simpa using going, rfl⟩

/-- A loop without the rest of the process. -/
def shell (session : SessionLoop World) : SessionLoop Unit :=
  { buffer := session.buffer
    world := ()
    handed := session.handed
    errors := session.errors
    counters := session.counters
    ended := session.ended }

/-- Of the rest of the process, the loop needs to know only whether the session goes on. -/
theorem shell_consume {goesOn : DecodedFrame → Bool} {session : SessionLoop World}
    (judged : ∀ frame, (handle session.world frame).2 = goesOn frame) :
    (session.consume limits handle).map shell =
      session.shell.consume limits fun _ frame => ((), goesOn frame) := by
  have same : session.shell.buffer = session.buffer := rfl
  unfold consume
  rw [same]
  split
  · rfl
  split
  · rfl
  · rfl
  split
  · rfl
  split
  · rfl
  · rfl
  · rename_i frame decoded
    simp only [Option.map_some, Option.some.injEq]
    simp [shell, hand, judged frame]

theorem shell_receive (reception : Reception) (session : SessionLoop World) :
    (receive limits reception session).shell = receive limits reception session.shell := by
  have ended : session.shell.ended = session.ended := rfl
  have buffer : session.shell.buffer = session.buffer := rfl
  cases reception with
  | closed =>
      simp only [receive, ended]
      split <;> rfl
  | wouldBlock => simp [receive]
  | chunk bytes =>
      simp only [receive, ended, buffer]
      split
      · rfl
      split <;> rfl

theorem shell_turn {goesOn : DecodedFrame → Bool} {session : SessionLoop World}
    (judged : ∀ frame, (handle session.world frame).2 = goesOn frame) (reception : Reception) :
    (turn limits handle reception session).shell =
      turn limits (fun _ frame => ((), goesOn frame)) reception session.shell := by
  by_cases ended : session.ended = true
  · have stopped : session.shell.ended = true := ended
    rw [turn, turn, if_pos ended, if_pos stopped]
  · have goes : ¬ session.shell.ended = true := ended
    have consumes : (session.consume limits handle).map shell =
        session.shell.consume limits fun _ frame => ((), goesOn frame) := shell_consume judged
    rw [turn, turn, if_neg ended, if_neg goes, ← consumes]
    cases consumed : session.consume limits handle with
    | none => exact shell_receive reception session
    | some next => rfl

/-- What the next turn of a loop finds: whether the server is stopping, and what it receives. -/
structure Moment where
  stopping : Bool
  reception : Reception

/-- A turn begins with a look at whether the server is stopping. -/
def iterate (limits : Limits) (handle : World → DecodedFrame → World × Bool) (moment : Moment)
    (session : SessionLoop World) : SessionLoop World :=
  if moment.stopping then { session with ended := true }
  else turn limits handle moment.reception session

theorem iterate_cases (moment : Moment) (session : SessionLoop World) :
    (∃ frame rest, iterate limits handle moment session = session.hand handle frame rest) ∨
      (iterate limits handle moment session).world = session.world ∧
        (iterate limits handle moment session).handed = session.handed := by
  unfold iterate
  split
  · exact .inr ⟨rfl, rfl⟩
  · rcases turn_cases moment.reception session with ⟨frame, rest, -, hands⟩ | kept
    · exact .inl ⟨frame, rest, hands⟩
    · exact .inr kept

theorem shell_iterate {goesOn : DecodedFrame → Bool} {session : SessionLoop World}
    (judged : ∀ frame, (handle session.world frame).2 = goesOn frame) (moment : Moment) :
    (iterate limits handle moment session).shell =
      iterate limits (fun _ frame => ((), goesOn frame)) moment session.shell := by
  unfold iterate
  split
  · rfl
  · exact shell_turn judged moment.reception

end SessionLoop

/-! ## Whether a session goes on -/

section

variable (config : ServerConfig)

/-- The requests after which a session goes on: those that the server can read. -/
def legible (frame : DecodedFrame) : Bool :=
  match frame.id with
  | .hello => (HelloRequest.codec.decode frame.payload).isOk
  | .registerPublisher => ((RegisterPublisherRequest.codec config.limits).decode frame.payload).isOk
  | .publishRoute => ((PublishRouteRequest.codec config.limits).decode frame.payload).isOk
  | .withdrawRoute | .revalidateRoute | .retireRoute | .revokeRoute =>
      (RouteMutationRequest.codec.decode frame.payload).isOk
  | .queryRoute | .explainRoute => ((QueryRouteRequest.codec config.limits).decode frame.payload).isOk
  | .snapshotRequest => (SnapshotRequest.codec.decode frame.payload).isOk
  | .reconcileRequest => (ReconcileRequest.codec.decode frame.payload).isOk
  | .applyCompletion => (ApplyCompletionRequest.codec.decode frame.payload).isOk
  | .backendState => ((BackendStateMessage.codec config.limits).decode frame.payload).isOk
  | .statisticsRequest | .epochRequest => true
  | _ => false

end

theorem withTask_isOk {α : Type} {codec : Codec α} {payload : Bytes} {serve : α → Task Answer} :
    (withTask codec payload serve).isOk = (codec.decode payload).isOk := by
  unfold withTask
  cases codec.decode payload <;> rfl

/-- Neither the runtime nor the session has a say in whether a frame is served. -/
theorem undertake_isOk {config : ServerConfig} {session : Session} (frame : DecodedFrame) :
    (undertake config session frame).isOk = legible config frame := by
  obtain ⟨id, version, payload⟩ := frame
  cases id with
  | hello => exact withTask_isOk
  | registerPublisher => exact withTask_isOk
  | publishRoute => exact withTask_isOk
  | withdrawRoute | revalidateRoute | retireRoute | revokeRoute => exact withTask_isOk
  | queryRoute | explainRoute => exact withTask_isOk
  | snapshotRequest => exact withTask_isOk
  | reconcileRequest => exact withTask_isOk
  | applyCompletion => exact withTask_isOk
  | backendState => exact withTask_isOk
  | _ => rfl

/-! ## The coordinator -/

/-- What the thread of a session goes through: the turn that is next, and what comes after it. -/
structure Pending where
  act : ServerEnv → Impl → Option Action
  next : ServerEnv → Impl → Task Answer

def Pending.task (pending : Pending) : Task Answer := .turn pending.act pending.next

/-- What a session remembers, what its thread is in the middle of, and what it sent. -/
structure Attendance where
  session : Session := {}
  pending : Option Pending := none
  replies : List Reply := []

/-- The thread goes on with a task, or has its answer. -/
def Attendance.follow (attendance : Attendance) : Task Answer → Attendance
  | .done answer =>
      { session := answer.session, pending := none, replies := attendance.replies ++ [answer.reply] }
  | .turn act next => { attendance with pending := some ⟨act, next⟩ }

/-- The handler of the loop: a frame is undertaken, or it ends the session. -/
def Attendance.begin (config : ServerConfig) (attendance : Attendance) (frame : DecodedFrame) :
    Attendance × Bool :=
  match undertake config attendance.session frame with
  | .error refusal => ({ attendance with replies := attendance.replies ++ [refusal] }, false)
  | .ok task => (attendance.follow task, true)

/-- A session that was accepted: its loop, how far its close has come, and whether it has given its
place back. -/
structure Served where
  loop : SessionLoop Attendance
  close : ClosePhase := .starting
  left : Bool := false

/-- A session to begin with. -/
def Served.accepted : Served where
  loop := { world := {} }

/-- The accepting thread waits for a connection, has one that is not a session yet, or is gone. -/
inductive Listener where
  | waiting
  | arrived
  | gone
deriving DecidableEq

/-- What the wait for a connection brings: none any more, one that cannot be waited on, or one that can. -/
inductive Arrival where
  | failed
  | unready
  | ready
deriving DecidableEq

structure Coordinator where
  state : Impl
  sessions : List Served := []
  listener : Listener := .waiting
  stopping : Bool := false
  activeSessions : Nat := 0
  sessionsAccepted : Nat := 0
  sessionsRejected : Nat := 0
  sessionsClosed : Nat := 0

/-- The accepting thread or the thread of a session takes a turn, the server is told to stop, or the
process calls the runtime itself. -/
inductive CoordinatorEvent where
  | accept (arrival : Arrival)
  | turn (index : Nat) (env : ServerEnv) (reception : Reception)
  | stop
  | elsewhere (env : Env) (action : Action)

section

variable (config : ServerConfig)

namespace Served

/-- What the next turn of the thread of a session does to the runtime. -/
def act (env : ServerEnv) (state : Impl) (served : Served) : Option Action :=
  if served.loop.ended then
    if served.close = .lookedUp true then
      some (.fencePublisher served.loop.world.session.publisher .sessionClosed)
    else none
  else
    match served.loop.world.pending with
    | none => none
    | some pending => pending.act env state

/-- A turn of the thread of a session: of the task that it is in the middle of, of the loop, and of the
close once the loop was left. -/
def proceed (env : ServerEnv) (moment : SessionLoop.Moment) (state : Impl) (served : Served) : Served :=
  if served.loop.ended then
    if served.close = .finished then { served with left := true }
    else
      { served with
        close := (closeStep config.runtime served.loop.world.session .proceed
          ⟨served.close, state⟩).phase }
  else
    match served.loop.world.pending with
    | none => { served with loop := served.loop.iterate config.limits (Attendance.begin config) moment }
    | some pending =>
        { served with
          loop := { served.loop with world := served.loop.world.follow (pending.next env state) } }

end Served

namespace Coordinator

/-- A turn of the accepting thread. Under the lock a connection becomes a session unless the server is
stopping or too many are open. -/
def accept (arrival : Arrival) (coordinator : Coordinator) : Coordinator :=
  match coordinator.listener with
  | .gone => coordinator
  | .waiting =>
      if coordinator.stopping then { coordinator with listener := .gone }
      else
        match arrival with
        | .failed => { coordinator with listener := .gone }
        | .unready => coordinator
        | .ready => { coordinator with listener := .arrived }
  | .arrived =>
      if coordinator.stopping = false ∧ coordinator.activeSessions < config.limits.maxSessions then
        { coordinator with
          listener := .waiting
          sessions := coordinator.sessions ++ [.accepted]
          activeSessions := coordinator.activeSessions + 1
          sessionsAccepted := coordinator.sessionsAccepted + 1 }
      else
        { coordinator with
          listener := .waiting
          sessionsRejected := coordinator.sessionsRejected + 1 }

/-- The runtime after an action of a thread. -/
def acted (env : Env) (coordinator : Coordinator) (action : Option Action) : Coordinator :=
  { coordinator with
    state :=
      match action with
      | none => coordinator.state
      | some action => coordinator.state.perform config.runtime env action }

/-- What a session is after a turn; the last turn of its close gives its place back. -/
def replace (coordinator : Coordinator) (index : Nat) (before after : Served) : Coordinator :=
  let leaves := !before.left && after.left
  { coordinator with
    sessions := coordinator.sessions.set index after
    activeSessions := if leaves then coordinator.activeSessions - 1 else coordinator.activeSessions
    sessionsClosed := if leaves then coordinator.sessionsClosed + 1 else coordinator.sessionsClosed }

def step : CoordinatorEvent → Coordinator → Coordinator
  | .accept arrival, coordinator => coordinator.accept config arrival
  | .turn index env reception, coordinator =>
      match coordinator.sessions[index]? with
      | none => coordinator
      | some served =>
          (coordinator.acted config env.toEnv (served.act env coordinator.state)).replace index served
            (served.proceed config env ⟨coordinator.stopping, reception⟩ coordinator.state)
  | .stop, coordinator => { coordinator with stopping := true }
  | .elsewhere env action, coordinator => coordinator.acted config env (some action)

end Coordinator

/-! ## The calls of the runtime -/

/-- The action that an event takes. -/
def CoordinatorEvent.act (event : CoordinatorEvent) (coordinator : Coordinator) : Option Call :=
  match event with
  | .accept _ | .stop => none
  | .turn index env _ => do
      let served ← coordinator.sessions[index]?
      let action ← served.act env coordinator.state
      pure ⟨env.toEnv, action⟩
  | .elsewhere env action => if action.restarts then none else some ⟨env, action⟩

/-- The calls of all threads, in order. -/
def coordinatorCalls : Coordinator → List CoordinatorEvent → List Call
  | _, [] => []
  | coordinator, event :: rest =>
      (event.act coordinator).toList ++ coordinatorCalls (coordinator.step config event) rest

end

/-! ## The thread of a session -/

section

variable {config : ServerConfig} {env : ServerEnv} {state : Impl} {attendance : Attendance}
  {pending : Pending}

/-- What the thread of a session is in the middle of is what a frame asked for. -/
def Attendance.Sound (config : ServerConfig) (attendance : Attendance) : Prop :=
  ∀ pending, attendance.pending = some pending →
    Task.Plain attendance.session pending.task ∨
      ∃ request, pending.task = registerTask config attendance.session request

theorem Task.Plain.next {session : Session} (plain : Task.Plain session pending.task) (env : ServerEnv)
    (state : Impl) : Task.Plain session (pending.next env state) :=
  ⟨plain.within.2 env state, plain.gives env state⟩

theorem Attendance.sound_follow {task : Task Answer}
    (asked : Task.Plain attendance.session task ∨
      ∃ request, task = registerTask config attendance.session request) :
    (attendance.follow task).Sound config := by
  intro pending held
  cases task with
  | done answer => cases held
  | turn act next =>
      obtain rfl := Option.some.inj held
      exact asked

theorem Attendance.sound_begin (sound : attendance.Sound config) (frame : DecodedFrame) :
    (attendance.begin config frame).1.Sound config := by
  unfold begin
  split
  · exact sound
  · rename_i task undertaken
    exact sound_follow (undertake_cases undertaken)

/-- A registration is served in one turn. -/
theorem registerTask_next {session : Session} {request : RegisterPublisherRequest}
    (registers : pending.task = registerTask config session request) :
    pending.next env state =
      .done ⟨(handleRegister config session state request).reply,
        (handleRegister config session state request).session⟩ := by
  obtain ⟨act, next⟩ := pending
  obtain ⟨-, rfl⟩ := Resumption.turn.inj registers
  rfl

theorem Attendance.Sound.next (sound : attendance.Sound config) (held : attendance.pending = some pending) :
    (attendance.follow (pending.next env state)).Sound config := by
  rcases sound pending held with plain | ⟨request, registers⟩
  · exact sound_follow (.inl (plain.next env state))
  · rw [registerTask_next registers]
    exact nofun

/-- No turn of a task restarts the runtime. -/
theorem Attendance.Sound.continues (sound : attendance.Sound config)
    (held : attendance.pending = some pending) {action : Action} (acts : pending.act env state = some action) :
    action.restarts = false := by
  rcases sound pending held with plain | ⟨request, registers⟩
  · exact (plain.within.1 env state action acts).continues
  · obtain ⟨act, next⟩ := pending
    obtain ⟨rfl, -⟩ := Resumption.turn.inj registers
    obtain rfl := Option.some.inj acts
    rfl

/-- How many frames a thread is in the middle of. -/
def Attendance.open (attendance : Attendance) : Nat := if attendance.pending.isSome then 1 else 0

theorem Attendance.replies_follow (task : Task Answer) :
    (attendance.follow task).replies.length + (attendance.follow task).open =
      attendance.replies.length + 1 := by
  cases task with
  | done answer => simp [follow, Attendance.open]
  | turn act next => simp [follow, Attendance.open]

theorem Attendance.replies_begin (idle : attendance.pending = none) (frame : DecodedFrame) :
    (attendance.begin config frame).1.replies.length + (attendance.begin config frame).1.open =
      attendance.replies.length + 1 := by
  unfold begin
  split
  · simp [Attendance.open, idle]
  · exact replies_follow _

/-- A frame that ends the session leaves nothing to do. -/
theorem Attendance.pending_begin (idle : attendance.pending = none) {frame : DecodedFrame}
    (refused : (attendance.begin config frame).2 = false) : (attendance.begin config frame).1.pending = none := by
  unfold begin at refused ⊢
  split at refused
  · exact idle
  · cases refused

/-- What the thread of a session is in the middle of is sound, each frame but the one that is being served
was answered once, and the loop is left between two frames. -/
structure Served.Answering (config : ServerConfig) (served : Served) : Prop where
  sound : served.loop.world.Sound config
  replies : served.loop.world.replies.length + served.loop.world.open = served.loop.handed.length
  idle : served.loop.ended = true → served.loop.world.pending = none

variable {served : Served} {moment : SessionLoop.Moment}

/-- What the thread of a session has before it: its close, its task or its loop. -/
theorem Served.proceed_cases :
    (served.loop.ended = true ∧ (served.proceed config env moment state).loop = served.loop) ∨
      (∃ pending, served.loop.ended = false ∧ served.loop.world.pending = some pending ∧
        served.proceed config env moment state =
          { served with
            loop := { served.loop with world := served.loop.world.follow (pending.next env state) } }) ∨
      served.loop.ended = false ∧ served.loop.world.pending = none ∧
        served.proceed config env moment state =
          { served with loop := served.loop.iterate config.limits (Attendance.begin config) moment } := by
  unfold Served.proceed
  by_cases ended : served.loop.ended = true
  · rw [if_pos ended]
    exact .inl ⟨ended, by split <;> rfl⟩
  · rw [if_neg ended]
    have going : served.loop.ended = false := by simpa using ended
    cases held : served.loop.world.pending with
    | none => exact .inr (.inr ⟨going, rfl, rfl⟩)
    | some pending => exact .inr (.inl ⟨pending, going, rfl, rfl⟩)

theorem Served.Answering.proceed (answering : served.Answering config) :
    (served.proceed config env moment state).Answering config := by
  obtain ⟨sound, replies, idle⟩ := answering
  rcases @Served.proceed_cases config env state served moment with
    ⟨ended, kept⟩ | ⟨pending, going, held, turned⟩ | ⟨going, vacant, turned⟩
  · constructor <;> rw [kept] <;> assumption
  · rw [turned]
    refine ⟨sound.next held, ?_, fun ended => absurd (going.symm.trans ended) (by decide)⟩
    have owed : served.loop.world.open = 1 := by simp [Attendance.open, held]
    exact (Attendance.replies_follow _).trans (by rw [← replies, owed])
  · rw [turned]
    have owed : served.loop.world.open = 0 := by simp [Attendance.open, vacant]
    rw [owed, Nat.add_zero] at replies
    rcases @SessionLoop.iterate_cases Attendance config.limits (Attendance.begin config) moment served.loop with
      ⟨frame, rest, hands⟩ | ⟨world, handed⟩
    · refine ⟨?_, ?_, ?_⟩ <;> simp only [hands, SessionLoop.hand]
      · exact Attendance.sound_begin sound frame
      · rw [Attendance.replies_begin vacant, List.length_append, replies]
        rfl
      · exact fun ended => Attendance.pending_begin vacant (by simpa using ended)
    · refine ⟨?_, ?_, ?_⟩ <;> simp only [world, handed]
      · exact sound
      · rw [owed, Nat.add_zero, replies]
      · exact fun _ => vacant

end

section

variable {config : ServerConfig} {env : ServerEnv} {state : Impl} {served : Served}
  {coordinator : Coordinator}

/-! ## One event -/

/-- Every session is in order. -/
def Coordinator.Answering (config : ServerConfig) (coordinator : Coordinator) : Prop :=
  ∀ served ∈ coordinator.sessions, served.Answering config

/-- The accepting thread adds a session, or leaves them as they are. -/
theorem Coordinator.accept_cases (arrival : Arrival) (coordinator : Coordinator) :
    (coordinator.accept config arrival).state = coordinator.state ∧
      (coordinator.accept config arrival).stopping = coordinator.stopping ∧
      ((coordinator.accept config arrival).sessions = coordinator.sessions ∨
        coordinator.stopping = false ∧
          (coordinator.accept config arrival).sessions = coordinator.sessions ++ [.accepted]) := by
  unfold Coordinator.accept
  split
  · exact ⟨rfl, rfl, .inl rfl⟩
  · split
    · exact ⟨rfl, rfl, .inl rfl⟩
    · cases arrival <;> exact ⟨rfl, rfl, .inl rfl⟩
  · split
    · rename_i room
      exact ⟨rfl, rfl, .inr ⟨room.1, rfl⟩⟩
    · exact ⟨rfl, rfl, .inl rfl⟩

theorem Coordinator.answering_step (answering : coordinator.Answering config) (event : CoordinatorEvent) :
    (coordinator.step config event).Answering config := by
  cases event with
  | accept arrival =>
      obtain ⟨-, -, kept | ⟨-, added⟩⟩ := coordinator.accept_cases arrival
      · rw [Coordinator.Answering, Coordinator.step, kept]
        exact answering
      · rw [Coordinator.Answering, Coordinator.step, added]
        intro served member
        rcases List.mem_append.mp member with earlier | arrived
        · exact answering served earlier
        · rw [List.mem_singleton.mp arrived]
          exact ⟨nofun, rfl, fun _ => rfl⟩
  | turn index env reception =>
      simp only [Coordinator.step]
      cases held : coordinator.sessions[index]? with
      | none => exact answering
      | some before =>
          intro served member
          simp only [Coordinator.replace, Coordinator.acted] at member
          rcases List.mem_or_eq_of_mem_set member with other | rfl
          · exact answering served other
          · exact (answering before (List.mem_of_getElem? held)).proceed
  | stop => exact answering
  | elsewhere env action => exact answering

theorem Served.Answering.continues (answering : served.Answering config) {action : Action}
    (acts : served.act env state = some action) : action.restarts = false := by
  unfold Served.act at acts
  split at acts
  · split at acts
    · obtain rfl := Option.some.inj acts
      rfl
    · cases acts
  · split at acts
    · cases acts
    · rename_i pending held
      exact answering.sound.continues held acts

theorem Coordinator.Answering.continues (answering : coordinator.Answering config) (event : CoordinatorEvent) :
    ∀ call ∈ (event.act coordinator).toList, call.action.restarts = false := by
  intro call member
  rw [Option.mem_toList] at member
  cases event with
  | accept arrival => cases member
  | stop => cases member
  | turn index env reception =>
      simp only [CoordinatorEvent.act, Option.bind_eq_bind, Option.bind_eq_some_iff, Option.pure_def,
        Option.some.injEq] at member
      obtain ⟨served, held, action, acts, rfl⟩ := member
      exact (answering served (List.mem_of_getElem? held)).continues acts
  | elsewhere env action =>
      simp only [CoordinatorEvent.act] at member
      split at member
      · cases member
      · rename_i continues
        obtain rfl := Option.some.inj member
        simpa using continues

/-- Whichever thread takes its turn, the runtime is called at most once. -/
theorem Coordinator.step_run (event : CoordinatorEvent) (live : Live coordinator.state)
    (answering : coordinator.Answering config) :
    (coordinator.step config event).state =
      run (Impl.step config.runtime) coordinator.state (event.act coordinator).toList := by
  have continues := answering.continues event
  cases event with
  | accept arrival => exact (coordinator.accept_cases arrival).1
  | stop => rfl
  | turn index env reception =>
      simp only [Coordinator.step, CoordinatorEvent.act] at continues ⊢
      cases held : coordinator.sessions[index]? with
      | none => rfl
      | some served =>
          simp only [held, Option.bind_eq_bind, Option.bind_some] at continues ⊢
          cases acts : served.act env coordinator.state with
          | none => rfl
          | some action =>
              rw [acts] at continues
              exact (run_single live (continues _ List.mem_cons_self)).symm
  | elsewhere env action =>
      simp only [Coordinator.step, CoordinatorEvent.act] at continues ⊢
      by_cases restarts : action.restarts = true
      · rw [if_pos restarts]
        cases action <;> first | rfl | cases restarts
      · rw [if_neg restarts] at continues ⊢
        exact (run_single live (continues _ List.mem_cons_self)).symm

/-! ## Runs -/

theorem coordinatorCalls_continue (coordinator : Coordinator) (answering : coordinator.Answering config)
    (events : List CoordinatorEvent) :
    ∀ call ∈ coordinatorCalls config coordinator events, call.action.restarts = false := by
  induction events generalizing coordinator with
  | nil => simp [coordinatorCalls]
  | cons event rest ih =>
      intro call member
      rcases List.mem_append.mp member with first | later
      · exact answering.continues event call first
      · exact ih _ (Coordinator.answering_step answering event) call later

theorem Coordinator.step_live (live : Live coordinator.state) (answering : coordinator.Answering config)
    (event : CoordinatorEvent) : Live (coordinator.step config event).state := by
  rw [step_run event live answering]
  exact run_live live (answering.continues event)

/-- A coordinator takes the runtime where its calls take it. -/
theorem coordinator_simulates (coordinator : Coordinator) (live : Live coordinator.state)
    (answering : coordinator.Answering config) (events : List CoordinatorEvent) :
    (run (Coordinator.step config) coordinator events).state =
      run (Impl.step config.runtime) coordinator.state (coordinatorCalls config coordinator events) := by
  induction events generalizing coordinator with
  | nil => rfl
  | cons event rest ih =>
      rw [run_cons, ih _ (Coordinator.step_live live answering event) (Coordinator.answering_step answering event),
        coordinatorCalls, run_append, Coordinator.step_run event live answering]

/-! ## The places of a coordinator -/

/-- The open sessions are counted, and there are no more of them than allowed. -/
structure Coordinator.Accounted (config : ServerConfig) (coordinator : Coordinator) : Prop where
  active : coordinator.activeSessions = coordinator.sessions.countP (!·.left)
  bounded : coordinator.activeSessions ≤ config.limits.maxSessions
  accepted : coordinator.sessionsAccepted = coordinator.sessions.length
  closed : coordinator.activeSessions + coordinator.sessionsClosed = coordinator.sessionsAccepted

/-- Who gave a place back does not take it again. -/
theorem Served.proceed_left {moment : SessionLoop.Moment} (left : served.left = true) :
    (served.proceed config env moment state).left = true := by
  unfold Served.proceed
  split
  · split
    · rfl
    · exact left
  · split <;> exact left

theorem Coordinator.Accounted.accept (accounted : coordinator.Accounted config) (arrival : Arrival) :
    (coordinator.accept config arrival).Accounted config := by
  have same : ∀ listener, Coordinator.Accounted config { coordinator with listener } := fun _ =>
    ⟨accounted.active, accounted.bounded, accounted.accepted, accounted.closed⟩
  unfold Coordinator.accept
  split
  · exact accounted
  · split
    · exact same _
    · split
      · exact same _
      · exact accounted
      · exact same _
  · obtain ⟨active, bounded, accepted, closed⟩ := accounted
    split
    · rename_i room
      constructor <;> simp [List.countP_append, Served.accepted] <;> omega
    · exact ⟨active, bounded, accepted, closed⟩

theorem Coordinator.Accounted.acted (accounted : coordinator.Accounted config) (env : Env)
    (action : Option Action) : (coordinator.acted config env action).Accounted config :=
  ⟨accounted.active, accounted.bounded, accounted.accepted, accounted.closed⟩

theorem Coordinator.Accounted.replace (accounted : coordinator.Accounted config) {index : Nat}
    {before after : Served} (held : coordinator.sessions[index]? = some before)
    (stays : before.left = true → after.left = true) :
    (coordinator.replace index before after).Accounted config := by
  obtain ⟨active, bounded, accepted, closed⟩ := accounted
  obtain ⟨within, found⟩ := List.getElem?_eq_some_iff.mp held
  have counted := List.countP_set (p := (!·.left)) (a := after) within
  have positive := List.boole_getElem_le_countP (p := (!·.left)) within
  rw [found] at counted positive
  cases leaving : before.left with
  | true =>
      -- The session had left before, so nothing is counted.
      have gone := stays leaving
      simp only [leaving, gone, Bool.not_true, Bool.false_eq_true, if_false] at counted
      constructor <;> simp [Coordinator.replace, leaving] <;> omega
  | false =>
      simp only [leaving, Bool.not_false, if_true] at counted positive
      cases left : after.left <;> simp only [left, Bool.not_true, Bool.not_false, Bool.false_eq_true, if_true,
        if_false] at counted <;> constructor <;> simp [Coordinator.replace, leaving, left] <;> omega

theorem Coordinator.Accounted.step (accounted : coordinator.Accounted config) (event : CoordinatorEvent) :
    (coordinator.step config event).Accounted config := by
  cases event with
  | accept arrival => exact accounted.accept arrival
  | turn index env reception =>
      simp only [Coordinator.step]
      cases held : coordinator.sessions[index]? with
      | none => exact accounted
      | some served =>
          exact (accounted.acted env.toEnv _).replace held Served.proceed_left
  | stop => exact ⟨accounted.active, accounted.bounded, accounted.accepted, accounted.closed⟩
  | elsewhere env action => exact accounted.acted env (some action)

/-! ## Every thread on its own -/

/-- What the loop of a session comes to. -/
def Coordinator.shellOf (coordinator : Coordinator) (index : Nat) : SessionLoop Unit :=
  (coordinator.sessions[index]?.map (·.loop.shell)).getD { world := () }

/-- What an event brings to the loop of a session. A thread that serves a frame leaves its loop alone. -/
def CoordinatorEvent.momentOf (index : Nat) (event : CoordinatorEvent) (coordinator : Coordinator) :
    List SessionLoop.Moment :=
  match event with
  | .turn other _ reception =>
      if other = index then
        match coordinator.sessions[index]? with
        | none => []
        | some served =>
            if served.loop.world.pending.isSome then [] else [⟨coordinator.stopping, reception⟩]
      else []
  | _ => []

/-- What the turns of a loop found, in order. -/
def momentsOf (config : ServerConfig) (index : Nat) :
    Coordinator → List CoordinatorEvent → List SessionLoop.Moment
  | _, [] => []
  | coordinator, event :: rest =>
      event.momentOf index coordinator ++ momentsOf config index (coordinator.step config event) rest

/-- A loop that is left to itself. -/
def aloneTurn (config : ServerConfig) : SessionLoop.Moment → SessionLoop Unit → SessionLoop Unit :=
  SessionLoop.iterate config.limits fun _ frame => ((), legible config frame)

/-- Whether a session goes on does not depend on what its thread remembers. -/
theorem Attendance.begin_goesOn (attendance : Attendance) (frame : DecodedFrame) :
    (attendance.begin config frame).2 = legible config frame := by
  have served := @undertake_isOk config attendance.session frame
  unfold begin
  cases undertaken : undertake config attendance.session frame <;> rw [undertaken] at served <;> exact served

/-- A loop that was left stays so. -/
theorem SessionLoop.iterate_ended {World : Type} {limits : Limits}
    {handle : World → DecodedFrame → World × Bool} {session : SessionLoop World}
    (ended : session.ended = true) (moment : Moment) : iterate limits handle moment session = session := by
  unfold iterate
  split
  · rw [← ended]
  · rw [turn, if_pos ended]

theorem Served.Answering.proceed_shell {moment : SessionLoop.Moment} (answering : served.Answering config) :
    (served.proceed config env moment state).loop.shell =
      run (aloneTurn config) served.loop.shell
        (if served.loop.world.pending.isSome then [] else [moment]) := by
  rcases @Served.proceed_cases config env state served moment with
    ⟨ended, kept⟩ | ⟨pending, going, held, turned⟩ | ⟨going, vacant, turned⟩
  · have stays : aloneTurn config moment served.loop.shell = served.loop.shell :=
      SessionLoop.iterate_ended (by exact ended) moment
    rw [kept, answering.idle ended]
    exact stays.symm
  · rw [turned, held]
    rfl
  · rw [turned, vacant]
    exact SessionLoop.shell_iterate (Attendance.begin_goesOn served.loop.world) moment

/-- A step moves the loop of a session only by what it brings to that session. -/
theorem Coordinator.step_shell (answering : coordinator.Answering config) (event : CoordinatorEvent)
    (index : Nat) :
    (coordinator.step config event).shellOf index =
      run (aloneTurn config) (coordinator.shellOf index) (event.momentOf index coordinator) := by
  cases event with
  | accept arrival =>
      simp only [CoordinatorEvent.momentOf, run_nil, Coordinator.shellOf, Coordinator.step]
      obtain ⟨-, -, kept | ⟨-, added⟩⟩ := coordinator.accept_cases arrival
      · rw [kept]
      · rw [added]
        by_cases earlier : index < coordinator.sessions.length
        · rw [List.getElem?_append_left earlier]
        · rw [List.getElem?_append_right (Nat.le_of_not_lt earlier),
            List.getElem?_eq_none (Nat.le_of_not_lt earlier)]
          cases index - coordinator.sessions.length <;> rfl
  | turn other env reception =>
      simp only [Coordinator.step, CoordinatorEvent.momentOf]
      by_cases same : other = index
      · subst same
        rw [if_pos rfl]
        cases held : coordinator.sessions[other]? with
        | none => rfl
        | some served =>
            obtain ⟨within, -⟩ := List.getElem?_eq_some_iff.mp held
            have answers := answering served (List.mem_of_getElem? held)
            simp only [Coordinator.shellOf, Coordinator.replace, Coordinator.acted,
              List.getElem?_set_self within, held, Option.map_some, Option.getD_some]
            exact answers.proceed_shell
      · rw [if_neg same]
        cases held : coordinator.sessions[other]? with
        | none => rfl
        | some served =>
            simp only [Coordinator.shellOf, Coordinator.replace, Coordinator.acted,
              List.getElem?_set_ne same, run_nil]
  | stop => rfl
  | elsewhere env action => rfl

theorem coordinator_shells (coordinator : Coordinator) (answering : coordinator.Answering config)
    (events : List CoordinatorEvent) (index : Nat) :
    (run (Coordinator.step config) coordinator events).shellOf index =
      run (aloneTurn config) (coordinator.shellOf index) (momentsOf config index coordinator events) := by
  induction events generalizing coordinator with
  | nil => rfl
  | cons event rest ih =>
      rw [run_cons, ih _ (Coordinator.answering_step answering event), momentsOf, run_append,
        Coordinator.step_shell answering event index]

/-! ## Stopping -/

/-- A coordinator that is stopping accepts nobody, whatever its accepting thread waits for. -/
theorem Coordinator.stopping_step (stopping : coordinator.stopping = true) (event : CoordinatorEvent) :
    (coordinator.step config event).stopping = true ∧
      (coordinator.step config event).sessions.length = coordinator.sessions.length := by
  cases event with
  | accept arrival =>
      obtain ⟨-, same, kept | ⟨serving, -⟩⟩ := coordinator.accept_cases arrival
      · exact ⟨same.trans stopping, congrArg List.length kept⟩
      · exact absurd (stopping.symm.trans serving) (by decide)
  | turn index env reception =>
      simp only [Coordinator.step]
      cases held : coordinator.sessions[index]? with
      | none => exact ⟨stopping, rfl⟩
      | some served => exact ⟨stopping, List.length_set⟩
  | stop => exact ⟨rfl, rfl⟩
  | elsewhere env action => exact ⟨stopping, rfl⟩

theorem coordinator_stopped (stopping : coordinator.stopping = true) (events : List CoordinatorEvent) :
    (run (Coordinator.step config) coordinator events).stopping = true ∧
      (run (Coordinator.step config) coordinator events).sessions.length = coordinator.sessions.length := by
  induction events generalizing coordinator with
  | nil => exact ⟨stopping, rfl⟩
  | cons event rest ih =>
      obtain ⟨still, length⟩ := @Coordinator.stopping_step config coordinator stopping event
      obtain ⟨later, same⟩ := ih still
      exact ⟨later, same.trans length⟩

end

section

variable {config : ServerConfig}

theorem coordinator_keeps {motive : Coordinator → Prop}
    (preserved : ∀ coordinator event, motive coordinator →
      motive (Coordinator.step config event coordinator))
    {coordinator : Coordinator} (initially : motive coordinator) (events : List CoordinatorEvent) :
    motive (run (Coordinator.step config) coordinator events) :=
  (along_of_forall (fun _ _ => trivial) coordinator events).invariant
    (fun current event held _ => preserved current event held) initially

theorem vacant_answering (state : Impl) : Coordinator.Answering config { state } := nofun

/-- The runtime behind a coordinator is in a state of one of its own runs, without a restart, and the
open sessions are counted and within their bound. -/
theorem coordinator_is_run {seed : Word} (before : List Call)
    (opened : (run (Impl.step config.runtime) (initial seed) before).opened = true)
    (events : List CoordinatorEvent) :
    (run (Coordinator.step config) { state := run (Impl.step config.runtime) (initial seed) before }
        events).state =
        run (Impl.step config.runtime) (initial seed) (before ++ coordinatorCalls config
          { state := run (Impl.step config.runtime) (initial seed) before } events) ∧
      (∀ call ∈ coordinatorCalls config
        { state := run (Impl.step config.runtime) (initial seed) before } events,
        call.action.restarts = false) ∧
      (run (Coordinator.step config) { state := run (Impl.step config.runtime) (initial seed) before }
        events).Accounted config := by
  have live : Live (run (Impl.step config.runtime) (initial seed) before) := ⟨opened, run_indexed before⟩
  refine ⟨?_, coordinatorCalls_continue _ (vacant_answering _) events, ?_⟩
  · rw [run_append]
    exact coordinator_simulates { state := run (Impl.step config.runtime) (initial seed) before } live
      (vacant_answering _) events
  · exact coordinator_keeps (fun coordinator event accounted => accounted.step event)
      ⟨rfl, Nat.zero_le _, rfl, rfl⟩ events

namespace Scenario

/-- The bytes with which a publisher registers. -/
def registrationImage (publisher : PublisherId) (workerBoot : WorkerBootId) : Bytes :=
  encodeFrame .registerPublisher ((RegisterPublisherRequest.codec {}).encode
    { context := { epoch := .one, publisher, workerBoot, attempt := ⟨1⟩ }, scope := override })

/-- Two publishers register, each on a connection of its own, the first one leaves, and the server is told
to stop. -/
def twoConnections : List CoordinatorEvent :=
  [.accept .ready, .accept .ready, .accept .ready, .accept .ready,
    .turn 0 serverEnv (.chunk (registrationImage operator boot)), .turn 0 serverEnv .wouldBlock,
    .turn 1 serverEnv (.chunk (registrationImage outsider ⟨2⟩)), .turn 1 serverEnv .wouldBlock,
    .turn 1 serverEnv .wouldBlock, .turn 0 serverEnv .wouldBlock, .turn 0 serverEnv .closed,
    .turn 0 serverEnv .closed, .turn 0 serverEnv .closed, .stop, .turn 1 serverEnv .closed,
    .turn 0 serverEnv .closed, .accept .ready]

end Scenario

theorem coordinator_is_run_twoConnections :
    (run (Coordinator.step Scenario.server)
        { state := run (Impl.step Scenario.config) (initial 0) [⟨Scenario.env, .restart 1⟩] }
        Scenario.twoConnections).state =
      run (Impl.step Scenario.config) (initial 0) ([⟨Scenario.env, .restart 1⟩] ++
        coordinatorCalls Scenario.server
          { state := run (Impl.step Scenario.config) (initial 0) [⟨Scenario.env, .restart 1⟩] }
          Scenario.twoConnections) ∧
      (run (Coordinator.step Scenario.server)
        { state := run (Impl.step Scenario.config) (initial 0) [⟨Scenario.env, .restart 1⟩] }
        Scenario.twoConnections).Accounted Scenario.server :=
  have served := coordinator_is_run [⟨Scenario.env, .restart 1⟩] (by decide +kernel) Scenario.twoConnections
  ⟨served.1, served.2.2⟩

/-- The loop of a session comes to what it would come to alone, and of the frames that it handed over, each
was answered once, but for the one that is being served. -/
theorem coordinator_isolates (state : Impl) (events : List CoordinatorEvent) (index : Nat)
    (accepted : index < (run (Coordinator.step config) { state } events).sessions.length) :
    (run (Coordinator.step config) { state } events).sessions[index].loop.shell =
        run (aloneTurn config) { world := () } (momentsOf config index { state } events) ∧
      (run (Coordinator.step config) { state } events).sessions[index].loop.world.replies.length +
          (run (Coordinator.step config) { state } events).sessions[index].loop.world.open =
        (run (Coordinator.step config) { state } events).sessions[index].loop.handed.length := by
  have alone : (run (Coordinator.step config) { state } events).shellOf index =
      run (aloneTurn config) { world := () } (momentsOf config index { state } events) :=
    coordinator_shells { state } (vacant_answering _) events index
  simp only [Coordinator.shellOf, List.getElem?_eq_getElem accepted, Option.map_some,
    Option.getD_some] at alone
  refine ⟨alone, ?_⟩
  have answering : Coordinator.Answering config (run (Coordinator.step config) { state } events) :=
    coordinator_keeps (motive := Coordinator.Answering config)
      (fun coordinator event answering => Coordinator.answering_step answering event) (vacant_answering _) events
  exact (answering _ (List.getElem_mem accepted)).replies

/-- The second session is what its loop comes to alone while the first one comes and goes. -/
theorem coordinator_isolates_twoConnections :
    ∃ accepted : 1 < (run (Coordinator.step Scenario.server) { state := Scenario.vacant }
        Scenario.twoConnections).sessions.length,
      (run (Coordinator.step Scenario.server) { state := Scenario.vacant }
          Scenario.twoConnections).sessions[1].loop.shell =
        run (aloneTurn Scenario.server) { world := () }
          (momentsOf Scenario.server 1 { state := Scenario.vacant } Scenario.twoConnections) :=
  ⟨by decide +kernel, (coordinator_isolates Scenario.vacant Scenario.twoConnections 1 _).1⟩

end

end RouteFabric
