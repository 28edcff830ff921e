import RouteFabric.Runtime.Refusals
import RouteFabric.Safety.Grants
import RouteFabric.Server.Simulation

/-!
# What a frame is granted

A frame that asks for a change of routes is turned down and changes nothing, or it is granted. The
runtime decides by checks of its own on the state before and by whether the store takes the first write
(`Wanted.granted`). The registration of the publisher is among what they look at; the epoch that the
authority context of the frame names is not.
-/

namespace RouteFabric

open ByteReader OrderedMap Run Impl Outcomes

/-! ## The status of a reply -/

/-- The status that stands at the head of an answer. -/
def Reply.status (reply : Reply) : StatusCode := .ofCode (leValue (reply.payload.take 2))

theorem WireStatus.status_write (answer : WireStatus) (rest : List Bytes) :
    StatusCode.ofCode (leValue ((answer.write :: rest).flatten.take 2)) = answer.status := by
  have bounded : answer.status.code < 256 ^ 2 := answer.status.code_le.trans_lt (by decide)
  have head : ((answer.write :: rest).flatten.take 2) = leBytes 2 answer.status.code := by
    simp [WireStatus.write]
  rw [head, leValue_leBytes_of_lt bounded, StatusCode.ofCode_code]

/-! ## Requests for a change -/

/-- A frame that asks for a change of routes. -/
inductive Wanted where
  | publication (request : PublishRouteRequest)
  | mutation (id : MessageId) (request : RouteMutationRequest)
deriving DecidableEq

/-- What a frame asks for, if it asks for a change of routes and its payload decodes. -/
def wanted (limits : Limits) (frame : DecodedFrame) : Option Wanted :=
  match frame.id with
  | .publishRoute =>
      match (PublishRouteRequest.codec limits).decode frame.payload with
      | .error _ => none
      | .ok request => some (.publication request)
  | .withdrawRoute | .revalidateRoute | .retireRoute | .revokeRoute =>
      match RouteMutationRequest.codec.decode frame.payload with
      | .error _ => none
      | .ok request => some (.mutation frame.id request)
  | _ => none

/-- The epoch that the authority context names. -/
def Wanted.epoch : Wanted → CoordinatorEpoch
  | .publication request => request.context.epoch
  | .mutation _ request => request.context.epoch

/-- Who asks. -/
def Wanted.publisher : Wanted → PublisherId
  | .publication request => request.context.publisher
  | .mutation _ request => request.context.publisher

def Wanted.workerBoot : Wanted → WorkerBootId
  | .publication request => request.context.workerBoot
  | .mutation _ request => request.context.workerBoot

/-- Whether the runtime grants a request: its checks let the request through, and the store takes what is
written first. A takeover that superseded the old lineage is granted even if the new one is refused. -/
def Wanted.granted (config : ServerConfig) (env : ServerEnv) (state : Impl) : Wanted → Bool
  | .publication request => state.grantsPublication config.runtime env.toEnv request.publish
  | .mutation .revalidateRoute request =>
      state.grantsRevalidation config.runtime env.toEnv request.mutation
  | .mutation .retireRoute request => state.grantsRetirement config.runtime env.toEnv request.mutation
  | .mutation .revokeRoute request => state.grantsRevocation config.runtime env.toEnv request.mutation
  | .mutation _ request => state.grantsWithdrawal config.runtime env.toEnv request.withdraw

/-- The same request under another epoch. -/
def Wanted.withEpoch (epoch : CoordinatorEpoch) : Wanted → Wanted
  | .publication request => .publication { request with context := { request.context with epoch } }
  | .mutation id request => .mutation id { request with context := { request.context with epoch } }

/-- How the handler serves a request. -/
def Wanted.serve (config : ServerConfig) (env : ServerEnv) (session : Session) (state : Impl) :
    Wanted → Handled
  | .publication request => handlePublish config env session state request
  | .mutation id request => handleMutation config env session state id request

/-- A frame that asks for a change was read as a publication or as a mutation. -/
theorem wanted_eq_some {limits : Limits} {frame : DecodedFrame} {request : Wanted}
    (asks : wanted limits frame = some request) :
    (∃ decoded, frame.id = .publishRoute ∧
        (PublishRouteRequest.codec limits).decode frame.payload = .ok decoded ∧
        request = .publication decoded) ∨
      ∃ decoded, (frame.id = .withdrawRoute ∨ frame.id = .revalidateRoute ∨ frame.id = .retireRoute ∨
          frame.id = .revokeRoute) ∧
        RouteMutationRequest.codec.decode frame.payload = .ok decoded ∧
        request = .mutation frame.id decoded := by
  obtain ⟨id, version, payload⟩ := frame
  unfold wanted at asks
  simp only at asks ⊢
  cases id with
  | publishRoute =>
      simp only at asks
      split at asks
      · cases asks
      · rename_i decoded returned
        exact .inl ⟨decoded, rfl, returned, (Option.some.inj asks).symm⟩
  | withdrawRoute | revalidateRoute | retireRoute | revokeRoute =>
      simp only at asks
      split at asks
      · cases asks
      · rename_i decoded returned
        exact .inr ⟨decoded, by simp, returned, (Option.some.inj asks).symm⟩
  | _ => cases asks

/-- The handler serves what a frame asks for. -/
theorem handle_of_wanted {config : ServerConfig} {env : ServerEnv} {session : Session} {state : Impl}
    {frame : DecodedFrame} {request : Wanted} (asks : wanted config.limits frame = some request) :
    handle config env session state frame = request.serve config env session state := by
  rcases wanted_eq_some asks with ⟨decoded, named, returned, rfl⟩ | ⟨decoded, named, returned, rfl⟩
  · simp only [handle, named, withRequest, returned, Wanted.serve]
  · rcases named with named | named | named | named <;>
      simp only [handle, named, withRequest, returned, Wanted.serve]

/-- The reply is a refusal, and no route, attempt, revocation or registration changed. -/
structure TurnsDown (before : Impl) (handled : Handled) : Prop where
  status : handled.reply.status ≠ .ok
  routes : handled.state.routes = before.routes
  attempts : handled.state.attempts = before.attempts
  revocations : handled.state.revocations = before.revocations
  registrations : handled.state.registrations = before.registrations

section

variable {config : ServerConfig} {env : ServerEnv} {state : Impl} {session : Session}

/-- A reply tells whether its call succeeded, when failures are told by their codes. -/
theorem turnsDown_iff {α : Type} {result : Impl × Expected α} {answer : Reply} {on : Bool}
    (succeeds : ∀ value, result.2 = .ok value → answer.status = .ok)
    (fails : ∀ failure, result.2 = .error failure → answer.status = failure.code)
    (coded : FailsAs (fun failure => failure.code ≠ .ok) result.2) :
    TurnsDown state ⟨result.1, session, answer, on⟩ ↔ Declined state result := by
  constructor
  · rintro ⟨status, routes, attempts, revocations, registrations⟩
    refine ⟨?_, routes, attempts, revocations, registrations⟩
    cases returned : result.2 with
    | error failure => rfl
    | ok value => exact absurd (succeeds value returned) status
  · rintro ⟨refused, routes, attempts, revocations, registrations⟩
    obtain ⟨failure, failed⟩ := error_of_isOk refused
    refine ⟨?_, routes, attempts, revocations, registrations⟩
    rw [fails failure failed]
    exact coded failure failed

theorem publishAnswer_status (result : Expected PublishResult) :
    (reply .publishRouteResult PublishRouteResult.codec (publishAnswer result)).status =
      (publishAnswer result).status :=
  WireStatus.status_write _ _

theorem mutationAnswer_status (id : MessageId) (result : Expected WithdrawOutcome) :
    (reply id RouteMutationResult.codec (mutationAnswer result)).status = (mutationAnswer result).status :=
  WireStatus.status_write _ _

theorem handlePublish_turnsDown_iff (indexed : Indexed state) (anchored : Anchored state)
    (request : PublishRouteRequest) :
    TurnsDown state (handlePublish config env session state request) ↔
      state.grantsPublication config.runtime env.toEnv request.publish = false := by
  rw [← publishRoute_declined_iff indexed anchored]
  refine turnsDown_iff (fun value returned => ?_) (fun failure returned => ?_) ?_
  · rw [publishAnswer_status, returned]
    rfl
  · rw [publishAnswer_status, returned]
    rfl
  · refine (publishRoute_fails request.publish).mono ?_
    rintro failure (told | ⟨rfl, -⟩)
    · exact told.code
    · simp [scopeRefusal]

/-- What the four mutations have in common. -/
theorem mutation_turnsDown_iff {result : Impl × Expected WithdrawOutcome} {granted : Bool} (id : MessageId)
    (decides : result.2.isOk = granted)
    (unmoved : ∀ {failure}, result.2 = .error failure → Unmoved state result.1)
    (coded : FailsAs (fun failure => failure.code ≠ .ok) result.2) :
    TurnsDown state
        ⟨result.1, session, reply id RouteMutationResult.codec (mutationAnswer result.2), true⟩ ↔
      granted = false := by
  rw [← declined_iff decides unmoved]
  refine turnsDown_iff (fun value returned => ?_) (fun failure returned => ?_) coded
  · rw [mutationAnswer_status, returned]
    rfl
  · rw [mutationAnswer_status, returned]
    rfl

theorem MutationFailure.coded {publisher : PublisherId} {workerBoot : WorkerBootId} {route : RouteId}
    {result : Expected WithdrawOutcome}
    (fails : FailsAs (state.MutationFailure env.toEnv publisher workerBoot route) result) :
    FailsAs (fun failure => failure.code ≠ .ok) result := by
  refine fails.mono ?_
  rintro failure (told | ⟨record, -, rfl, -⟩)
  · exact told.code
  · simp [scopeRefusal]

theorem handleMutation_turnsDown_iff (anchored : Anchored state) (id : MessageId)
    (request : RouteMutationRequest) :
    TurnsDown state (handleMutation config env session state id request) ↔
      (Wanted.mutation id request).granted config env state = false := by
  have withdraws : TurnsDown state (handleMutation config env session state .withdrawRoute request) ↔
      state.grantsWithdrawal config.runtime env.toEnv request.withdraw = false :=
    mutation_turnsDown_iff _ (withdrawRoute_isOk anchored _) (withdrawRoute_unmoved anchored)
      (MutationFailure.coded (withdrawRoute_fails _))
  cases id with
  | revalidateRoute =>
      exact mutation_turnsDown_iff _ (revalidateRoute_isOk anchored _) (revalidateRoute_unmoved anchored)
        (MutationFailure.coded (revalidateRoute_fails _))
  | retireRoute =>
      exact mutation_turnsDown_iff _ (retireRoute_isOk _) retireRoute_unmoved
        (MutationFailure.coded (retireRoute_fails _))
  | revokeRoute =>
      exact mutation_turnsDown_iff _ (revokeRoute_isOk _) revokeRoute_unmoved
        ((revokeRoute_fails _).mono fun _ told => told.code)
  | _ => exact withdraws

/-- Nothing is granted but to a publisher that acts under a live registration. -/
theorem Wanted.granted_authorized {request : Wanted} (granted : request.granted config env state = true) :
    ∃ registration, state.authorize request.publisher request.workerBoot = .ok registration := by
  cases request with
  | publication request =>
      simp only [Wanted.granted, grantsPublication] at granted
      split at granted
      · cases granted
      · rename_i registration authority
        obtain ⟨-, -, -, -, -, -, authorized, -⟩ := publishAuthority_eq_ok.mp authority
        exact ⟨registration, authorized⟩
  | mutation id request =>
      have withdraws : state.grantsWithdrawal config.runtime env.toEnv request.withdraw = true →
          ∃ registration, state.authorize request.context.publisher request.context.workerBoot =
            .ok registration := by
        intro granted
        unfold grantsWithdrawal at granted
        split at granted
        · cases granted
        · rename_i record target
          obtain ⟨registration, authorized, -⟩ := (withdrawTarget_eq_ok target).1.authorized
          exact ⟨registration, authorized⟩
      cases id with
      | revalidateRoute =>
          simp only [Wanted.granted, grantsRevalidation] at granted
          split at granted
          · cases granted
          · rename_i record target
            obtain ⟨registration, authorized, -⟩ := (revalidateTarget_eq_ok target).1.authorized
            exact ⟨registration, authorized⟩
      | retireRoute =>
          simp only [Wanted.granted, grantsRetirement] at granted
          split at granted
          · cases granted
          · rename_i record target
            obtain ⟨registration, authorized, -⟩ := (retireTarget_eq_ok target).2.authorized
            exact ⟨registration, authorized⟩
      | revokeRoute =>
          simp only [Wanted.granted, grantsRevocation] at granted
          split at granted
          · cases granted
          · rename_i record target
            obtain ⟨registration, authorized, -⟩ := (revokeTarget_eq_ok target).2
            exact ⟨registration, authorized⟩
      | _ => exact withdraws granted

end

/-- After any calls, a frame that asks for a change is turned down exactly when the runtime does not grant
what it asks for; under another epoch in its context it decides the same, and it grants nothing to a
publisher without a live registration. -/
theorem handle_turnsDown_iff {config : ServerConfig} {seed : Word} (env : ServerEnv) (calls : List Call)
    (session : Session) (frame : DecodedFrame) {request : Wanted}
    (asks : wanted config.limits frame = some request) (epoch : CoordinatorEpoch) :
    (TurnsDown (run (step config.runtime) (initial seed) calls)
        (handle config env session (run (step config.runtime) (initial seed) calls) frame) ↔
      request.granted config env (run (step config.runtime) (initial seed) calls) = false) ∧
    (request.withEpoch epoch).granted config env (run (step config.runtime) (initial seed) calls) =
      request.granted config env (run (step config.runtime) (initial seed) calls) ∧
    (request.granted config env (run (step config.runtime) (initial seed) calls) = true →
      ∃ registration, (run (step config.runtime) (initial seed) calls).authorize request.publisher
        request.workerBoot = .ok registration) := by
  have indexed : Indexed (run (step config.runtime) (initial seed) calls) := run_indexed calls
  have anchored : Anchored (run (step config.runtime) (initial seed) calls) := run_anchored calls
  generalize run (step config.runtime) (initial seed) calls = state at indexed anchored ⊢
  refine ⟨?_, ?_, Wanted.granted_authorized⟩
  · rw [handle_of_wanted asks]
    cases request with
    | publication request => exact handlePublish_turnsDown_iff indexed anchored request
    | mutation id request => exact handleMutation_turnsDown_iff anchored id request
  · cases request with
    | publication request => rfl
    | mutation id request => cases id <;> rfl

namespace Scenario

/-- The epoch advances after a registration, and the same boot registers again. -/
def renewed : List Call :=
  opening ++ [⟨env, .advanceEpoch⟩, ⟨env, .register operator boot override⟩]

/-- A publication from before the advance. -/
def overdue : PublishRouteRequest :=
  { context := { epoch := .one, publisher := operator, workerBoot := boot, attempt := ⟨1⟩ }, key,
    binding := { binding with nextHop := { entityGeneration := .one } }, policyGeneration := .one }

def overdueFrame : DecodedFrame :=
  ⟨.publishRoute, wireProtocolVersion, (PublishRouteRequest.codec {}).encode overdue⟩

end Scenario

/-- A frame that names an epoch that has passed is granted when its boot registered again. -/
theorem handle_turnsDown_iff_belated :
    ¬ TurnsDown (run (step Scenario.server.runtime) (initial 0) Scenario.renewed)
      (handle Scenario.server Scenario.serverEnv Scenario.operatorSession
        (run (step Scenario.server.runtime) (initial 0) Scenario.renewed) Scenario.overdueFrame) := by
  have asks : wanted Scenario.server.limits Scenario.overdueFrame =
      some (.publication Scenario.overdue) := by decide +kernel
  have granted : (Wanted.publication Scenario.overdue).granted Scenario.server Scenario.serverEnv
      (run (step Scenario.server.runtime) (initial 0) Scenario.renewed) = true := by decide +kernel
  rw [(handle_turnsDown_iff Scenario.serverEnv Scenario.renewed Scenario.operatorSession _ asks .one).1,
    granted]
  exact Bool.true_eq_false.mp

end RouteFabric
