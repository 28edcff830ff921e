import RouteFabric.Safety.Fencing
import RouteFabric.Server.Handle

/-!
# Sessions and their close

A session ends with two calls of the runtime: it looks its publisher up, and fences it when the
registration still names the boot of the session. The fence names the publisher only, so a
registration that another session makes between the two calls is taken down with it
(`close_harmless_iff`). The session remembers its last registration only, so the close leaves the
earlier ones of other publishers standing (`close_fences_all_iff`).
-/

namespace RouteFabric

open ByteReader OrderedMap Run

/-! ## The close -/

namespace Session

/-- What the lookup of the close finds: the registration is still that of the session. -/
def owns (session : Session) (state : Impl) : Bool :=
  session.registered &&
    match state.registrations[session.publisher]? with
    | none => false
    | some registration => registration.workerBoot = session.workerBoot

/-- The second call of the close. -/
def fence (session : Session) (state : Impl) : Impl :=
  state.fencePublisher session.publisher .sessionClosed

/-- Both calls, with nothing in between. -/
def finish (session : Session) (state : Impl) : Impl :=
  if session.owns state then session.fence state else state

theorem owns_iff {session : Session} {state : Impl} : session.owns state = true ↔
    session.registered = true ∧ ∃ registration,
      state.registrations[session.publisher]? = some registration ∧
        registration.workerBoot = session.workerBoot := by
  unfold owns
  cases held : state.registrations[session.publisher]? with
  | none => simp
  | some registration => simp

theorem fence_registrations (session : Session) (state : Impl) (publisher : PublisherId) :
    (session.fence state).registrations[publisher]? =
      if session.publisher = publisher then none else state.registrations[publisher]? :=
  Impl.fencePublisher_registrations session.publisher publisher .sessionClosed

theorem mem_fence_fencedBoots (session : Session) (state : Impl) (boot : WorkerBootId) :
    boot ∈ (session.fence state).fencedBoots ↔
      state.registrations[session.publisher]?.any (·.workerBoot = boot) = true ∨
        boot ∈ state.fencedBoots :=
  Impl.fencePublisher_fencedBoots session.publisher .sessionClosed

end Session

/-! ## The close among the calls of other sessions -/

inductive ClosePhase where
  | starting
  | lookedUp (found : Bool)
  | finished
deriving DecidableEq

/-- A session that is being closed, and the runtime. -/
structure Closing where
  phase : ClosePhase := .starting
  state : Impl

/-- The closing thread goes on, or another session calls the runtime. -/
inductive CloseEvent where
  | proceed
  | elsewhere (env : Env) (action : Action)

section

variable (config : RuntimeConfig) (session : Session)

def closeStep : CloseEvent → Closing → Closing
  | .elsewhere env action, closing =>
      { closing with state := closing.state.perform config env action }
  | .proceed, closing =>
      match closing.phase with
      | .starting => { closing with phase := .lookedUp (session.owns closing.state) }
      | .lookedUp true => ⟨.finished, session.fence closing.state⟩
      | .lookedUp false => { closing with phase := .finished }
      | .finished => closing

/-- The close leaves the registrations of other boots standing and fences no other boot. -/
structure Harmless (before after : Impl) : Prop where
  keeps : ∀ (publisher : PublisherId) (registration : PublisherRegistration),
    before.registrations[publisher]? = some registration → registration.workerBoot ≠ session.workerBoot →
      after.registrations[publisher]? = some registration
  spares : ∀ boot, boot ∈ after.fencedBoots → boot ∈ before.fencedBoots ∨ boot = session.workerBoot

/-- The registration of the publisher of the session, if there is one, is of the boot of the
session. -/
def OwnBoot (state : Impl) : Prop :=
  ∀ registration : PublisherRegistration, state.registrations[session.publisher]? = some registration →
    registration.workerBoot = session.workerBoot

end

section

variable {config : RuntimeConfig} {session : Session} {state : Impl}

theorem Harmless.refl (session : Session) (state : Impl) : Harmless session state state :=
  ⟨fun _ _ found _ => found, fun _ => .inl⟩

/-- The fence is harmless exactly when what it takes down is the session's own. -/
theorem fence_harmless_iff : Harmless session state (session.fence state) ↔ OwnBoot session state := by
  constructor
  · intro harmless registration found
    by_contra different
    have kept := harmless.keeps _ _ found different
    rw [session.fence_registrations, if_pos rfl] at kept
    cases kept
  · intro own
    constructor
    · intro publisher registration found different
      have other : session.publisher ≠ publisher := by
        rintro rfl
        exact different (own registration found)
      rw [session.fence_registrations, if_neg other]
      exact found
    · intro boot fenced
      obtain named | already := (session.mem_fence_fencedBoots state boot).mp fenced
      · cases found : state.registrations[session.publisher]? with
        | none => simp [found] at named
        | some registration =>
            have same : registration.workerBoot = boot := by simpa [found] using named
            exact .inr (same ▸ own registration found)
      · exact .inl already

/-- One step of the close is harmless, unless it is the fence and the registration has passed to
another boot since the lookup. -/
theorem closeStep_harmless_iff (closing : Closing) :
    Harmless session closing.state (closeStep config session .proceed closing).state ↔
      (closing.phase = .lookedUp true → OwnBoot session closing.state) := by
  obtain ⟨phase, state⟩ := closing
  cases phase with
  | starting => exact ⟨fun _ => nofun, fun _ => .refl session state⟩
  | finished => exact ⟨fun _ => nofun, fun _ => .refl session state⟩
  | lookedUp found =>
      cases found with
      | false => exact ⟨fun _ => by simp, fun _ => .refl session state⟩
      | true =>
          refine fence_harmless_iff.trans ⟨fun own _ => own, fun own => own rfl⟩

/-- However the calls of other sessions come between the two calls of a close, every step of the
close is harmless if and only if no other boot holds the registration of the publisher when the
fence is reached. -/
theorem close_harmless_iff (config : RuntimeConfig) (session : Session) (start : Impl)
    (events : List CloseEvent) :
    Along (closeStep config session) (fun closing event => event = .proceed →
        Harmless session closing.state (closeStep config session event closing).state)
      ⟨.starting, start⟩ events ↔
    Along (closeStep config session) (fun closing event => event = .proceed →
        closing.phase = .lookedUp true → OwnBoot session closing.state)
      ⟨.starting, start⟩ events := by
  constructor
  · intro along
    refine along.mono fun closing event harmless proceeds => ?_
    subst proceeds
    exact (closeStep_harmless_iff closing).mp (harmless rfl)
  · intro along
    refine along.mono fun closing event own proceeds => ?_
    subst proceeds
    exact (closeStep_harmless_iff closing).mpr (own rfl)

namespace Scenario

/-- The session that the operator registered on, with its first boot. -/
def operatorSession : Session := ⟨operator, boot, true⟩

/-- The operator comes back with a new boot between the lookup and the fence. -/
def reincarnation : List CloseEvent :=
  [.proceed, .elsewhere env (.register operator ⟨2⟩ override), .proceed]

end Scenario

/-- The close of the old session takes the new registration down. -/
theorem close_fences_reincarnation :
    ¬ Along (closeStep Scenario.config Scenario.operatorSession) (fun closing event => event = .proceed →
        Harmless Scenario.operatorSession closing.state
          (closeStep Scenario.config Scenario.operatorSession event closing).state)
      ⟨.starting, run (Impl.step Scenario.config) (Impl.initial 0) Scenario.opening⟩
      Scenario.reincarnation := by
  rintro ⟨-, -, fences, -⟩
  generalize reached : closeStep Scenario.config Scenario.operatorSession
    (.elsewhere Scenario.env (.register Scenario.operator ⟨2⟩ Scenario.override)) _ = closing at fences
  have held : closing.state.registrations[Scenario.operator]?.map (·.workerBoot) = some ⟨2⟩ := by
    rw [← reached]
    decide +kernel
  have gone : (closeStep Scenario.config Scenario.operatorSession .proceed closing).state.registrations[
      Scenario.operator]? = none := by
    rw [← reached]
    decide +kernel
  obtain ⟨registration, found, renewed⟩ := Option.map_eq_some_iff.mp held
  have other : registration.workerBoot ≠ Scenario.operatorSession.workerBoot := by
    rw [renewed]
    decide
  have kept := (fences rfl).keeps _ _ found other
  rw [gone] at kept
  cases kept

/-! ## The frames of a session -/

/-- A session with the runtime behind it, and what was sent to the peer so far. -/
structure Conversation where
  state : Impl
  session : Session := {}
  replies : List Reply := []
  goesOn : Bool := true

/-- A frame of the session, or a call of another one. -/
inductive SessionEvent where
  | frame (env : ServerEnv) (frame : DecodedFrame)
  | elsewhere (env : Env) (action : Action)

section

variable (config : ServerConfig)

/-- Frames are handled one after the other, up to the first that ends the session. -/
def converse : SessionEvent → Conversation → Conversation
  | .elsewhere env action, conversation =>
      { conversation with state := conversation.state.perform config.runtime env action }
  | .frame env frame, conversation =>
      if conversation.goesOn then
        let handled := handle config env conversation.session conversation.state frame
        { state := handled.state
          session := handled.session
          replies := conversation.replies ++ [handled.reply]
          goesOn := handled.goesOn }
      else conversation

/-- The handler of the loop of a session. -/
def attend (env : ServerEnv) (conversation : Conversation) (frame : DecodedFrame) : Conversation × Bool :=
  let next := converse config (.frame env frame) conversation
  (next, next.goesOn)

/-- The publisher and the boot that a frame registers. -/
def registrationOf (state : Impl) (frame : DecodedFrame) : Option (PublisherId × WorkerBootId) :=
  if frame.id = .registerPublisher then
    match (RegisterPublisherRequest.codec config.limits).decode frame.payload with
    | .error _ => none
    | .ok request =>
        if (state.registerPublisher config.runtime request.context.publisher
            request.context.workerBoot request.scope).2.isOk then
          some (request.context.publisher, request.context.workerBoot)
        else none
  else none

def SessionEvent.registers (event : SessionEvent) (conversation : Conversation) :
    Option (PublisherId × WorkerBootId) :=
  match event with
  | .elsewhere _ _ => none
  | .frame _ received =>
      if conversation.goesOn then registrationOf config conversation.state received else none

/-- The registrations that were made on a session, in order. -/
def registered : Conversation → List SessionEvent → List (PublisherId × WorkerBootId)
  | _, [] => []
  | conversation, event :: rest =>
      (event.registers config conversation).toList ++ registered (converse config event conversation) rest

end

section

variable {config : ServerConfig} {env : ServerEnv}

theorem withRequest_session {α : Type} {codec : Codec α} {payload : Bytes} {serve : α → Handled}
    (keeps : ∀ request, (serve request).session = session) :
    (withRequest session state codec payload serve).session = session := by
  unfold withRequest
  cases codec.decode payload with
  | error why => rfl
  | ok request => exact keeps request

theorem handleReconcile_session (request : ReconcileRequest) :
    (handleReconcile config env session state request).session = session := by
  unfold handleReconcile
  split <;> rfl

/-- A session remembers the registration that a frame makes, and nothing else changes it. -/
theorem handle_session (frame : DecodedFrame) :
    (handle config env session state frame).session =
      match registrationOf config state frame with
      | none => session
      | some (publisher, workerBoot) => ⟨publisher, workerBoot, true⟩ := by
  obtain ⟨id, length, payload⟩ := frame
  cases id with
  | registerPublisher =>
      simp only [handle, registrationOf, if_true, withRequest]
      cases (RegisterPublisherRequest.codec config.limits).decode payload with
      | error why => rfl
      | ok request =>
          simp only [handleRegister]
          cases (state.registerPublisher config.runtime request.context.publisher
            request.context.workerBoot request.scope).2 with
          | error failure => rfl
          | ok registration => rfl
  | hello => exact withRequest_session fun _ => rfl
  | publishRoute => exact withRequest_session fun _ => rfl
  | withdrawRoute => exact withRequest_session fun _ => rfl
  | revalidateRoute => exact withRequest_session fun _ => rfl
  | retireRoute => exact withRequest_session fun _ => rfl
  | revokeRoute => exact withRequest_session fun _ => rfl
  | queryRoute => exact withRequest_session fun _ => rfl
  | explainRoute => exact withRequest_session fun _ => rfl
  | snapshotRequest => exact withRequest_session fun _ => rfl
  | reconcileRequest => exact withRequest_session handleReconcile_session
  | applyCompletion => exact withRequest_session fun _ => rfl
  | backendState => exact withRequest_session fun _ => rfl
  | _ => rfl

/-- A session after a registration, if one was made. -/
def Session.remember (session : Session) : Option (PublisherId × WorkerBootId) → Session
  | none => session
  | some made => ⟨made.1, made.2, true⟩

theorem Session.remember_remember (session : Session) (first second : Option (PublisherId × WorkerBootId)) :
    (session.remember first).remember second = session.remember (second.or first) := by
  cases second with
  | none => rfl
  | some made => rfl

theorem converse_session (event : SessionEvent) (conversation : Conversation) :
    (converse config event conversation).session =
      conversation.session.remember (event.registers config conversation) := by
  cases event with
  | elsewhere env action => rfl
  | frame env received =>
      by_cases going : conversation.goesOn = true
      · simp only [converse, SessionEvent.registers, going, if_true, handle_session]
        cases registrationOf config conversation.state received with
        | none => rfl
        | some made => rfl
      · simp only [converse, SessionEvent.registers, if_neg going]
        rfl

/-- After any frames, a session remembers the last registration that was made on it. -/
theorem run_session (conversation : Conversation) (events : List SessionEvent) :
    (run (converse config) conversation events).session =
      conversation.session.remember (registered config conversation events).getLast? := by
  induction events generalizing conversation with
  | nil => rfl
  | cons event rest ih =>
      rw [run_cons, ih, converse_session, Session.remember_remember, registered, List.getLast?_append]
      congr 2
      cases event.registers config conversation with
      | none => rfl
      | some made => rfl

end

/-! ## What a close leaves behind -/

/-- None of the boots is registered after the close, and those that were before are fenced. -/
structure ClosesAll (boots : List WorkerBootId) (before after : Impl) : Prop where
  gone : ∀ (publisher : PublisherId) (registration : PublisherRegistration),
    after.registrations[publisher]? = some registration → registration.workerBoot ∉ boots
  fenced : ∀ (publisher : PublisherId) (registration : PublisherRegistration),
    before.registrations[publisher]? = some registration → registration.workerBoot ∈ boots →
      registration.workerBoot ∈ after.fencedBoots

theorem finish_registrations {publisher : PublisherId} {registration : PublisherRegistration}
    (found : (session.finish state).registrations[publisher]? = some registration) :
    state.registrations[publisher]? = some registration := by
  unfold Session.finish at found
  split at found
  · rw [session.fence_registrations] at found
    split at found
    · cases found
    · exact found
  · exact found

/-- A registration outlives the close unless it is the one that the session remembers. -/
theorem finish_keeps {publisher : PublisherId} {registration : PublisherRegistration}
    (found : state.registrations[publisher]? = some registration)
    (different : ¬ session = ⟨publisher, registration.workerBoot, true⟩) :
    (session.finish state).registrations[publisher]? = some registration := by
  unfold Session.finish
  split
  · rename_i owned
    obtain ⟨registered, own, held, boot⟩ := Session.owns_iff.mp owned
    have other : session.publisher ≠ publisher := by
      rintro rfl
      have same : own = registration := Option.some.inj (held.symm.trans found)
      obtain ⟨publisher, workerBoot, flag⟩ := session
      subst same boot registered
      exact different rfl
    rw [session.fence_registrations, if_neg other]
    exact found
  · exact found

theorem finish_drops {publisher : PublisherId} {registration : PublisherRegistration}
    (found : state.registrations[publisher]? = some registration)
    (remembered : session = ⟨publisher, registration.workerBoot, true⟩) :
    (session.finish state).registrations[publisher]? = none ∧
      registration.workerBoot ∈ (session.finish state).fencedBoots := by
  subst remembered
  have owned : Session.owns ⟨publisher, registration.workerBoot, true⟩ state = true :=
    Session.owns_iff.mpr ⟨rfl, registration, found, rfl⟩
  rw [Session.finish, if_pos owned, Session.fence_registrations, if_pos rfl,
    Session.mem_fence_fencedBoots]
  exact ⟨rfl, .inl (by simp [found])⟩

/-- The close of a session fences all that was registered on it if and only if every live
registration of one of its boots is the last one that was made on it. -/
theorem close_fences_all_iff (config : ServerConfig) (start : Impl) (events : List SessionEvent) :
    ClosesAll ((registered config { state := start } events).map Prod.snd)
        (run (converse config) { state := start } events).state
        ((run (converse config) { state := start } events).session.finish
          (run (converse config) { state := start } events).state) ↔
      ∀ (publisher : PublisherId) (registration : PublisherRegistration),
        (run (converse config) { state := start } events).state.registrations[publisher]? =
          some registration →
        registration.workerBoot ∈ (registered config { state := start } events).map Prod.snd →
        (registered config { state := start } events).getLast? =
          some (publisher, registration.workerBoot) := by
  have remembers : (run (converse config) { state := start } events).session = _ :=
    run_session { state := start } events
  generalize registered config { state := start } events = made at remembers ⊢
  generalize run (converse config) { state := start } events = before at remembers ⊢
  have last : ∀ publisher workerBoot, before.session = ⟨publisher, workerBoot, true⟩ ↔
      made.getLast? = some (publisher, workerBoot) := by
    intro publisher workerBoot
    rw [remembers]
    cases made.getLast? with
    | none => simp [Session.remember]
    | some entry => simp [Session.remember, Prod.ext_iff]
  constructor
  · intro closes publisher registration found ours
    by_contra other
    have kept := finish_keeps found (mt (last _ _).mp other)
    exact closes.gone _ _ kept ours
  · intro only
    constructor
    · intro publisher registration found ours
      have held := finish_registrations found
      have dropped := (finish_drops held ((last _ _).mpr (only _ _ held ours))).1
      rw [dropped] at found
      cases found
    · intro publisher registration found ours
      exact (finish_drops found ((last _ _).mpr (only _ _ found ours))).2

end

namespace Scenario

def server : ServerConfig := { runtime := config }

def serverEnv : ServerEnv := { toEnv := env }

def registering (publisher : PublisherId) (workerBoot : WorkerBootId) : SessionEvent :=
  .frame serverEnv ⟨.registerPublisher, wireProtocolVersion, (RegisterPublisherRequest.codec {}).encode
    { context := { epoch := .one, publisher, workerBoot, attempt := ⟨1⟩ }, scope := override }⟩

/-- Two publishers register on one session, each with its own boot. -/
def twoPublishers : List SessionEvent := [registering operator boot, registering outsider ⟨2⟩]

/-- A coordinator that was opened, with nobody registered. -/
def vacant : Impl := run (Impl.step config) (Impl.initial 0) [⟨env, .restart 1⟩]

end Scenario

/-- The publisher that registered first stays registered. -/
theorem close_leaves_first_publisher :
    ¬ ClosesAll ((registered Scenario.server { state := Scenario.vacant } Scenario.twoPublishers).map Prod.snd)
        (run (converse Scenario.server) { state := Scenario.vacant } Scenario.twoPublishers).state
        ((run (converse Scenario.server) { state := Scenario.vacant } Scenario.twoPublishers).session.finish
          (run (converse Scenario.server) { state := Scenario.vacant } Scenario.twoPublishers).state) := by
  intro closes
  have listed : (registered Scenario.server { state := Scenario.vacant } Scenario.twoPublishers).map Prod.snd =
      [Scenario.boot, ⟨2⟩] := by decide +kernel
  have held : ((run (converse Scenario.server) { state := Scenario.vacant }
      Scenario.twoPublishers).session.finish (run (converse Scenario.server) { state := Scenario.vacant }
        Scenario.twoPublishers).state).registrations[Scenario.operator]?.map (·.workerBoot) =
      some Scenario.boot := by decide +kernel
  obtain ⟨registration, found, ours⟩ := Option.map_eq_some_iff.mp held
  apply closes.gone _ _ found
  rw [listed, ours]
  exact List.mem_cons_self

end RouteFabric
