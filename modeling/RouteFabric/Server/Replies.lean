import RouteFabric.Safety.Committed
import RouteFabric.Server.Decisions
import RouteFabric.Wire.Acceptance

/-!
# What a peer is told

The runtime has committed or refused by the time its answer is encoded, and the peer learns of it
only if the answer decodes. `handle_tells_iff` says when it does: counters that are reported are
those of records that are held, and the texts of failures fit, but for the refusal of a key outside
the scope of its publisher, which quotes the key.
-/

namespace RouteFabric

open ByteReader OrderedMap Run Impl Outcomes

/-! ## Answers that decode -/

@[simp] theorem length_asciiBytes (text : String) : (asciiBytes text).length = text.length := by
  simp [asciiBytes, String.length_toList]

theorem CounterId.absent_le {tag : CounterTag} : (absent : CounterId tag).value ≤ maxValue :=
  Nat.zero_le _

/-- An answer whose successes are all accepted, and whose failures are accepted when their text fits. -/
theorem accepts_iff {α : Type} {result : Expected α} {accepted : Prop}
    (succeeds : ∀ value, result = .ok value → accepted)
    (fails : ∀ failure, result = .error failure →
      (accepted ↔ failure.detail.length ≤ maxDiagnosticChars)) :
    accepted ↔ FailsAs (fun failure => failure.detail.length ≤ maxDiagnosticChars) result := by
  cases returned : result with
  | ok value => exact ⟨fun _ => .ok value, fun _ => succeeds value returned⟩
  | error failure =>
      rw [fails failure returned]
      constructor
      · intro short
        exact .error short
      · intro short
        exact short failure rfl

theorem registerAnswer_decodes_iff {result : Expected PublisherRegistration}
    (storable : ∀ registration, result = .ok registration → registration.epoch.Storable) :
    RegisterPublisherResult.codec.decode (RegisterPublisherResult.codec.encode (registerAnswer result)) =
        .ok (registerAnswer result) ↔
      FailsAs (fun failure => failure.detail.length ≤ maxDiagnosticChars) result := by
  rw [RegisterPublisherResult.decode_encode]
  refine accepts_iff ?_ ?_
  · rintro registration rfl
    refine ⟨?_, (storable registration rfl).2⟩
    simp only [registerAnswer, length_asciiBytes]
    exact length_spelled rfl (by decide)
  · rintro failure rfl
    refine ⟨fun acceptable => ?_, fun short => ⟨?_, CounterId.absent_le⟩⟩
    · simpa [registerAnswer, Error.wireStatus] using acceptable.detail
    · simpa [registerAnswer, Error.wireStatus] using short

theorem publishAnswer_decodes_iff {result : Expected PublishResult}
    (storable : ∀ published, result = .ok published →
      published.generation.Storable ∧ published.authorityGeneration.Storable) :
    PublishRouteResult.codec.decode (PublishRouteResult.codec.encode (publishAnswer result)) =
        .ok (publishAnswer result) ↔
      FailsAs (fun failure => failure.detail.length ≤ maxDiagnosticChars) result := by
  rw [PublishRouteResult.decode_encode]
  refine accepts_iff ?_ ?_
  · rintro published rfl
    obtain ⟨generation, authority⟩ := storable published rfl
    exact ⟨by simp [publishAnswer], generation.2, authority.2⟩
  · rintro failure rfl
    refine ⟨fun acceptable => ?_, fun short => ⟨?_, CounterId.absent_le, CounterId.absent_le⟩⟩
    · simpa [publishAnswer, Error.wireStatus] using acceptable.detail
    · simpa [publishAnswer, Error.wireStatus] using short

theorem mutationAnswer_decodes_iff {result : Expected WithdrawOutcome}
    (storable : ∀ outcome, result = .ok outcome → outcome.generation.Storable) :
    RouteMutationResult.codec.decode (RouteMutationResult.codec.encode (mutationAnswer result)) =
        .ok (mutationAnswer result) ↔
      FailsAs (fun failure => failure.detail.length ≤ maxDiagnosticChars) result := by
  rw [RouteMutationResult.decode_encode]
  refine accepts_iff ?_ ?_
  · rintro outcome rfl
    exact ⟨by simp [mutationAnswer], (storable outcome rfl).2⟩
  · rintro failure rfl
    refine ⟨fun acceptable => ?_, fun short => ⟨?_, CounterId.absent_le⟩⟩
    · simpa [mutationAnswer, Error.wireStatus] using acceptable.detail
    · simpa [mutationAnswer, Error.wireStatus] using short

/-! ## What a success reports -/

namespace Impl

variable {config : RuntimeConfig} {env : Env} {state after : Impl}

/-- A record that is held has these generations. -/
def Carries (state : Impl) (generation : RouteGeneration) (authorityGeneration : RouteAuthorityGeneration) :
    Prop :=
  ∃ (id : RouteId) (record : RouteRecord), state.routes[id]? = some record ∧
    record.generation = generation ∧ record.authorityGeneration = authorityGeneration

theorem Carries.storable {generation : RouteGeneration} {authorityGeneration : RouteAuthorityGeneration}
    (steady : Steady state) (carries : state.Carries generation authorityGeneration) :
    generation.Storable ∧ authorityGeneration.Storable := by
  obtain ⟨id, record, found, rfl, rfl⟩ := carries
  exact ⟨(steady.routes id record found).generation, (steady.routes id record found).authorityGeneration⟩

theorem publishRoute_reports (indexed : Indexed state) {request : PublishRequest} {published : PublishResult}
    (succeeded : (state.publishRoute config env request).2 = .ok published) :
    (state.publishRoute config env request).1.Carries published.generation published.authorityGeneration := by
  unfold publishRoute at succeeded ⊢
  split at succeeded
  · cases succeeded
  · rename_i locked
    obtain rfl := Except.ok.inj succeeded
    obtain ⟨rfl, -, registration, record, -, found, -, rfl⟩ := publishLocked_replays indexed locked
    obtain ⟨-, held, -⟩ := indexed.lookupKey found
    exact ⟨_, record, held, rfl, rfl⟩
  · obtain ⟨record, found, rfl⟩ := reportDispatch_eq_ok succeeded
    exact ⟨_, record, by rw [reportDispatch_state]; exact found, rfl, rfl⟩

/-- The generation that a mutation reports is that of a record that is held. -/
def Reports (result : Impl × Expected WithdrawOutcome) : Prop :=
  ∀ outcome, result.2 = .ok outcome →
    ∃ authorityGeneration, result.1.Carries outcome.generation authorityGeneration

theorem Reports.of_found {id : RouteId} {record : RouteRecord} (found : state.routes[id]? = some record) :
    Reports (state, .ok (withdrawOutcome record)) := by
  intro outcome reported
  obtain rfl := Except.ok.inj reported
  exact ⟨_, id, record, found, rfl, rfl⟩

theorem reportDispatch_reports (intent : Intent) :
    Reports (state.reportDispatch config env intent fun _ record => withdrawOutcome record) := by
  intro outcome reported
  obtain ⟨record, found, rfl⟩ := reportDispatch_eq_ok reported
  exact ⟨_, _, record, by rw [reportDispatch_state]; exact found, rfl, rfl⟩

/-- A failure reports nothing. -/
theorem Reports.of_error (failure : Error) : Reports (state, .error failure) := by
  intro outcome reported
  cases reported

theorem acknowledge_installs {io : IoOutcome} {updated : RouteRecord} {revoked : List RevocationRecord}
    (acknowledged : state.acknowledge config io { upserts := [updated], revoked } = (after, .ok ())) :
    after.routes[updated.id]? = some updated := by
  rcases acknowledge_cases config io state { upserts := [updated], revoked } with
    ⟨files, -, applied⟩ | ⟨files, failure, -, refused⟩
  · rw [applied] at acknowledged
    obtain ⟨rfl, -⟩ := Prod.mk.inj acknowledged
    rw [applyEdit_routes]
    exact lookup_insert_self _ _ _
  · rw [refused] at acknowledged
    cases (Prod.mk.inj acknowledged).2

/-- A withdrawal that returns a result at once leaves the state alone. -/
theorem withdrawLocked_repeats {request : WithdrawRequest} {outcome : WithdrawOutcome}
    (returned : state.withdrawLocked config env request = (after, .ok (.inl outcome))) : after = state := by
  unfold withdrawLocked at returned
  split at returned
  · simp at returned
  split at returned
  · exact (Prod.mk.inj returned).1.symm
  split at returned
  · exact (Prod.mk.inj returned).1.symm
  split at returned
  · simp at returned
  · simp only at returned
    split at returned <;> simp at returned

/-- A registration is made at the current epoch. -/
theorem registerPublisher_epoch {publisher : PublisherId} {workerBoot : WorkerBootId} {scope : PublisherScope}
    {registration : PublisherRegistration}
    (succeeded : (state.registerPublisher config publisher workerBoot scope).2 = .ok registration) :
    registration.epoch = state.epoch := by
  unfold registerPublisher at succeeded
  split at succeeded
  · cases succeeded
  split at succeeded
  · cases succeeded
  simp only at succeeded
  split at succeeded
  · cases succeeded
  · rw [← Except.ok.inj succeeded]

theorem withdrawRoute_reports (request : WithdrawRequest) :
    Reports (state.withdrawRoute config env request) := by
  unfold withdrawRoute
  split
  · exact .of_error _
  · rename_i after replayed locked
    obtain rfl := withdrawLocked_repeats locked
    obtain ⟨record, target, same, -⟩ := withdrawLocked_replays locked
    rintro outcome reported
    obtain rfl := Except.ok.inj reported
    exact ⟨_, _, record, (withdrawTarget_eq_ok target).1.found, same.symm, rfl⟩
  · exact reportDispatch_reports _

theorem revalidateRoute_reports (request : MutationRequest) :
    Reports (state.revalidateRoute config env request) := by
  unfold revalidateRoute
  split
  · exact .of_error _
  · exact reportDispatch_reports _

theorem retireRoute_reports (request : MutationRequest) : Reports (state.retireRoute config env request) := by
  unfold retireRoute
  split
  · exact .of_error _
  rename_i record target
  split
  · exact .of_found (retireTarget_eq_ok target).2.found
  split
  · exact .of_error _
  split
  · exact .of_error _
  · rename_i acknowledged
    exact .of_found (acknowledge_installs acknowledged)

theorem revokeRoute_reports (request : MutationRequest) : Reports (state.revokeRoute config env request) := by
  unfold revokeRoute
  split
  · exact .of_error _
  rename_i record target
  split
  · exact .of_found (revokeTarget_eq_ok target).1
  split
  · exact .of_error _
  split
  · exact .of_error _
  · rename_i acknowledged
    exact .of_found (acknowledge_installs acknowledged)

end Impl

theorem mutate_reports (config : ServerConfig) (env : ServerEnv) (state : Impl)
    (request : RouteMutationRequest) (id : MessageId) : Reports (mutate config env request state id).1 := by
  cases id with
  | revalidateRoute => exact revalidateRoute_reports _
  | retireRoute => exact retireRoute_reports _
  | revokeRoute => exact revokeRoute_reports _
  | _ => exact withdrawRoute_reports _

/-! ## The refusal that does not fit -/

namespace Impl

variable {config : RuntimeConfig} {env : Env} {state : Impl}

/-- An open runtime that refuses a key for the scope of its publisher, in too many words. -/
structure Overlong (state : Impl) (publisher : PublisherId) (workerBoot : WorkerBootId) (key : RouteKey) :
    Prop where
  opened : state.opened = true
  outOfScope : state.OutOfScope publisher workerBoot key
  long : maxDiagnosticChars < (scopeRefusal key).detail.length

theorem scopeRefusal_of_outOfScope {registration : PublisherRegistration} {key : RouteKey}
    (uncovered : registration.scope.covers key = false) :
    checkScope registration key = .error (scopeRefusal key) := by
  simp [checkScope, ensure, uncovered, scopeRefusal, makeError]

theorem checkOpened_fails (closed : ¬ state.opened = true) :
    state.checkOpened = .error ⟨.notOpen, "the runtime is not open"⟩ := by
  rw [checkOpened, ensure, if_neg closed]
  rfl

/-- The refusal of a closed runtime fits. -/
theorem notOpen_fits : "the runtime is not open".length ≤ maxDiagnosticChars :=
  length_spelled rfl (by decide)

/-- What the reader checks of a publication before the runtime does. -/
structure Presentable (request : PublishRequest) : Prop where
  publisher : request.publisher.isValid = true
  workerBoot : request.workerBoot.isValid = true
  attempt : request.attempt.isValid = true
  key : request.key.isValid = true
  binding : request.binding.isValid = true
  policyGeneration : request.policyGeneration.isValid = true
  reason : request.reason.length ≤ maxDiagnosticChars

theorem publishAuthority_of_presentable {request : PublishRequest} (presentable : Presentable request) :
    state.publishAuthority request = (do
      state.checkOpened
      let registration ← state.authorize request.publisher request.workerBoot
      checkScope registration request.key
      pure registration) := by
  obtain ⟨publisher, workerBoot, attempt, key, binding, policy, reason⟩ := presentable
  simp only [publishAuthority, validateCommon, checkReason, ensure, publisher, workerBoot, attempt, key,
    binding, policy, reason, if_true]
  rfl

/-- A publication that its authority check refuses fails with that refusal. -/
theorem publishRoute_of_refused {request : PublishRequest} {failure : Error}
    (refused : state.publishAuthority request = .error failure) :
    (state.publishRoute config env request).2 = .error failure := by
  simp only [publishRoute, publishLocked, refused]

/-- The failure of a publication fits, except for the one refusal. -/
theorem publishRoute_fits_iff {request : PublishRequest} (presentable : Presentable request)
    (brief : ∀ index, (env.io index).Brief) :
    FailsAs (fun failure => failure.detail.length ≤ maxDiagnosticChars)
        (state.publishRoute config env request).2 ↔
      ¬ state.Overlong request.publisher request.workerBoot request.key := by
  have authority := @publishAuthority_of_presentable state request presentable
  constructor
  · rintro fits ⟨opened, ⟨registration, authorized, uncovered⟩, long⟩
    have refused : state.publishAuthority request = .error (scopeRefusal request.key) := by
      rw [authority, checkOpened, ensure, if_pos opened, authorized]
      change (checkScope registration request.key >>= fun _ => pure registration) = _
      rw [scopeRefusal_of_outOfScope uncovered]
      rfl
    exact absurd (fits _ (publishRoute_of_refused refused)) (Nat.not_le.mpr long)
  · intro brevity failure failed
    rcases publishRoute_fails request failure failed with told | ⟨rfl, outOfScope⟩
    · exact told.detail brief
    by_cases opened : state.opened = true
    · by_contra long
      exact brevity ⟨opened, outOfScope, Nat.not_le.mp long⟩
    · have refused : state.publishAuthority request = .error ⟨.notOpen, "the runtime is not open"⟩ := by
        rw [authority, checkOpened_fails opened]
        rfl
      rw [publishRoute_of_refused refused] at failed
      rw [← Except.error.inj failed]
      exact notOpen_fits

/-- The refusal of a mutation that does not fit: the key is that of the route that is named. -/
structure OverlongMutation (state : Impl) (request : MutationRequest) : Prop where
  named : request.route.isValid = true
  refused : ∃ record, state.routes[request.route]? = some record ∧
    state.Overlong request.publisher request.workerBoot record.key

/-- What the reader checks of a mutation before the runtime does. -/
structure PresentableMutation (request : MutationRequest) : Prop where
  publisher : request.publisher.isValid = true
  workerBoot : request.workerBoot.isValid = true
  attempt : request.attempt.isValid = true
  reason : request.reason.length ≤ maxDiagnosticChars

theorem retireTarget_of_presentable {request : MutationRequest} (presentable : PresentableMutation request) :
    state.retireTarget request = (do
      ensure (request.route.isValid = true) .invalidArgument "a route identity is required"
      state.checkOpened
      state.prepareLifecycleMutation request.route request.publisher request.workerBoot) := by
  obtain ⟨publisher, workerBoot, attempt, reason⟩ := presentable
  simp only [retireTarget, checkMutation, validateCommon, checkReason, ensure, publisher, workerBoot,
    attempt, reason, if_true]
  split <;> rfl

/-- The failure of a mutation that checks its target first fits, except for the one refusal. -/
theorem mutation_fits_iff {request : MutationRequest} {result : Expected WithdrawOutcome}
    (presentable : PresentableMutation request) (brief : ∀ index, (env.io index).Brief)
    (fails : FailsAs (state.MutationFailure env request.publisher request.workerBoot request.route) result)
    (refuses : ∀ failure, state.retireTarget request = .error failure → result = .error failure) :
    FailsAs (fun failure => failure.detail.length ≤ maxDiagnosticChars) result ↔
      ¬ state.OverlongMutation request := by
  have target := @retireTarget_of_presentable state request presentable
  constructor
  · rintro fits ⟨named, record, found, opened, ⟨registration, authorized, uncovered⟩, long⟩
    have refused : state.retireTarget request = .error (scopeRefusal record.key) := by
      rw [target, ensure, if_pos named, checkOpened, ensure, if_pos opened]
      simp only [prepareLifecycleMutation, found, authorized]
      change (checkScope registration record.key >>= _) = _
      rw [scopeRefusal_of_outOfScope uncovered]
      rfl
    exact absurd (fits _ (refuses _ refused)) (Nat.not_le.mpr long)
  · intro brevity failure failed
    rcases fails failure failed with told | ⟨record, found, rfl, outOfScope⟩
    · exact told.detail brief
    -- An unnamed route and a closed runtime are refused before the scope is looked at.
    have early : ∀ first : Error, first.detail.length ≤ maxDiagnosticChars →
        state.retireTarget request = .error first →
        (scopeRefusal record.key).detail.length ≤ maxDiagnosticChars := by
      intro first short refused
      rw [refuses first refused] at failed
      rw [← Except.error.inj failed]
      exact short
    by_cases named : request.route.isValid = true
    · by_cases opened : state.opened = true
      · by_contra long
        exact brevity ⟨named, record, found, opened, outOfScope, Nat.not_le.mp long⟩
      · refine early ⟨.notOpen, "the runtime is not open"⟩ notOpen_fits ?_
        rw [target, ensure, if_pos named, checkOpened_fails opened]
        rfl
    · refine early ⟨.invalidArgument, "a route identity is required"⟩ (length_spelled rfl (by decide)) ?_
      rw [target, ensure, if_neg named]
      rfl

theorem retireRoute_of_refused {request : MutationRequest} {failure : Error}
    (refused : state.retireTarget request = .error failure) :
    (state.retireRoute config env request).2 = .error failure := by
  simp only [retireRoute, refused]

theorem revalidateRoute_of_refused {request : MutationRequest} {failure : Error}
    (refused : state.retireTarget request = .error failure) :
    (state.revalidateRoute config env request).2 = .error failure := by
  have target : state.revalidateTarget env request = .error failure := by
    have extended : state.revalidateTarget env request = state.retireTarget request >>= _ :=
      (bind_assoc _ _ _).symm
    rw [extended, refused]
    rfl
  simp only [revalidateRoute, revalidateLocked, target]

end Impl

theorem withdrawRoute_of_refused {config : RuntimeConfig} {env : Env} {state : Impl}
    {request : RouteMutationRequest} {failure : Error}
    (refused : state.retireTarget request.mutation = .error failure) :
    (state.withdrawRoute config env request.withdraw).2 = .error failure := by
  have target : state.withdrawTarget request.withdraw = .error failure := by
    have extended : state.withdrawTarget request.withdraw = state.retireTarget request.mutation >>= _ :=
      (bind_assoc _ _ _).symm
    rw [extended, refused]
    rfl
  simp only [withdrawRoute, withdrawLocked, target]

/-! ## Requests that were read -/

theorem PublishRouteRequest.presentable {limits : Limits} {payload : Bytes} {request : PublishRouteRequest}
    (decoded : (codec limits).decode payload = .ok request) : Presentable request.publish := by
  have checked : Consumes (codec limits).read fun _ message => Presentable message.publish :=
    Consumes.field (RequestContext.canonical.because _) fun _ context =>
      Consumes.field ((RouteKey.canonical _).because _) fun _ key =>
        Consumes.field (RouteBinding.canonical.because _) fun _ binding =>
          Consumes.field (CounterId.canonical.because _) fun _ policy =>
            Consumes.field (CounterId.canonical_optionalCounter.because _) fun _ _ =>
              Consumes.field (FixedId.canonical_optional.because _) fun _ _ =>
                Consumes.field ((Canonical.string _).because _) fun _ reason =>
                  Consumes.pure ⟨context.publisher, context.workerBoot, context.attempt, key.1.1,
                    binding.valid, (CounterId.isValid_iff _).mpr policy.1, reason.1⟩
  obtain ⟨image, -, presentable⟩ := checked payload request [] (Codec.decode_eq_ok.mp decoded)
  exact presentable

theorem RouteMutationRequest.presentable {payload : Bytes} {request : RouteMutationRequest}
    (decoded : codec.decode payload = .ok request) : PresentableMutation request.mutation := by
  have checked : Consumes codec.read fun _ message => PresentableMutation message.mutation :=
    Consumes.field (RequestContext.canonical.because _) fun _ context =>
      Consumes.field (FixedId.canonical_optional.because _) fun _ _ =>
        Consumes.field (CounterId.canonical_optionalCounter.because _) fun _ _ =>
          Consumes.field ((Canonical.string _).because _) fun _ reason =>
            Consumes.pure ⟨context.publisher, context.workerBoot, context.attempt, reason.1⟩
  obtain ⟨image, -, presentable⟩ := checked payload request [] (Codec.decode_eq_ok.mp decoded)
  exact presentable

/-! ## Frames -/

/-- A frame whose answer tells the outcome of a call of the runtime. -/
inductive Asked where
  | registration (request : RegisterPublisherRequest)
  | change (request : Wanted)

/-- What a frame asks for, if its payload decodes. -/
def asked (limits : Limits) (frame : DecodedFrame) : Option Asked :=
  match frame.id with
  | .registerPublisher =>
      match (RegisterPublisherRequest.codec limits).decode frame.payload with
      | .error _ => none
      | .ok request => some (.registration request)
  | _ => (wanted limits frame).map .change

theorem asked_eq_some {limits : Limits} {frame : DecodedFrame} {request : Asked}
    (other : frame.id ≠ .registerPublisher) (asks : asked limits frame = some request) :
    ∃ change, wanted limits frame = some change ∧ request = .change change := by
  unfold asked at asks
  split at asks
  · rename_i registers
    exact absurd registers other
  · obtain ⟨change, wants, rfl⟩ := Option.map_eq_some_iff.mp asks
    exact ⟨change, wants, rfl⟩

theorem asked_of_wanted {limits : Limits} {frame : DecodedFrame} {change : Wanted}
    (wants : wanted limits frame = some change) : asked limits frame = some (.change change) := by
  unfold asked
  split
  · rename_i registers
    rcases wanted_eq_some wants with ⟨decoded, named, -⟩ | ⟨decoded, named, -⟩ <;>
      simp [registers] at named
  · rw [wants]
    rfl

/-- The peer decodes a reply to the answer that the runtime gave. -/
def Asked.ToldBy (config : ServerConfig) (env : ServerEnv) (state : Impl) (reply : Reply) : Asked → Prop
  | .registration request =>
      RegisterPublisherResult.codec.decode reply.payload =
        .ok (registerAnswer (state.registerPublisher config.runtime request.context.publisher
          request.context.workerBoot request.scope).2)
  | .change (.publication request) =>
      PublishRouteResult.codec.decode reply.payload =
        .ok (publishAnswer (state.publishRoute config.runtime env.toEnv request.publish).2)
  | .change (.mutation id request) =>
      RouteMutationResult.codec.decode reply.payload =
        .ok (mutationAnswer (mutate config env request state id).1.2)

/-- The request is refused for its scope, in too many words. A registration and a revocation do not
look at scopes. -/
def Asked.Overlong (state : Impl) : Asked → Prop
  | .registration _ => False
  | .change (.publication request) =>
      state.Overlong request.context.publisher request.context.workerBoot request.key
  | .change (.mutation .revokeRoute _) => False
  | .change (.mutation _ request) => state.OverlongMutation request.mutation

section

variable {config : ServerConfig} {env : ServerEnv} {seed : Word} {calls : List Call}

/-- A closed runtime refuses every mutation. -/
theorem mutate_of_closed (config : ServerConfig) (env : ServerEnv) {state : Impl}
    (closed : ¬ state.opened = true) (request : RouteMutationRequest)
    (id : MessageId) : ∃ failure, (mutate config env request state id).1.2 = .error failure := by
  have checked : ∃ failure, state.checkMutation request.mutation.publisher request.mutation.workerBoot
      request.mutation.attempt request.mutation.route request.mutation.reason = .error failure := by
    cases checked : state.checkMutation request.mutation.publisher request.mutation.workerBoot
        request.mutation.attempt request.mutation.route request.mutation.reason with
    | error failure => exact ⟨failure, rfl⟩
    | ok accepted => exact absurd (checkMutation_eq_ok.mp checked).2.2.2.2.2 closed
  obtain ⟨failure, checked⟩ := checked
  have target : state.retireTarget request.mutation = .error failure := by
    simp only [retireTarget, checked]
    rfl
  have revoked : state.revokeTarget request.mutation = .error failure := by
    simp only [revokeTarget, checked]
    rfl
  refine ⟨failure, ?_⟩
  cases id with
  | revalidateRoute => exact revalidateRoute_of_refused target
  | retireRoute => exact retireRoute_of_refused target
  | revokeRoute => simp only [mutate, revokeRoute, revoked]
  | _ => exact withdrawRoute_of_refused target

/-- What a publication reports in a run is read back. -/
theorem published_storable {request : PublishRequest} {published : PublishResult}
    (presentable : Presentable request)
    (succeeded : ((run (step config.runtime) (initial seed) calls).publishRoute config.runtime env.toEnv
      request).2 = .ok published) :
    published.generation.Storable ∧ published.authorityGeneration.Storable := by
  have indexed : Indexed (run (step config.runtime) (initial seed) calls) := run_indexed calls
  have reported := publishRoute_reports indexed succeeded
  by_cases opened : (run (step config.runtime) (initial seed) calls).opened = true
  · rw [publishRoute_run ⟨opened, indexed⟩, ← run_append] at reported
    exact reported.storable (run_steady _)
  · have refused : (run (step config.runtime) (initial seed) calls).publishAuthority request =
        .error ⟨.notOpen, "the runtime is not open"⟩ := by
      rw [publishAuthority_of_presentable presentable, checkOpened_fails opened]
      rfl
    rw [publishRoute_of_refused refused] at succeeded
    cases succeeded

/-- What a mutation reports in a run is read back. -/
theorem mutated_storable {request : RouteMutationRequest} {id : MessageId} {outcome : WithdrawOutcome}
    (succeeded : (mutate config env request (run (step config.runtime) (initial seed) calls) id).1.2 =
      .ok outcome) :
    outcome.generation.Storable := by
  have indexed : Indexed (run (step config.runtime) (initial seed) calls) := run_indexed calls
  obtain ⟨authorityGeneration, reported⟩ := mutate_reports config env _ request id outcome succeeded
  by_cases opened : (run (step config.runtime) (initial seed) calls).opened = true
  · rw [mutate_run ⟨opened, indexed⟩, ← run_append] at reported
    exact (reported.storable (run_steady _)).1
  · obtain ⟨failure, failed⟩ := mutate_of_closed config env opened request id
    rw [failed] at succeeded
    cases succeeded

/-- What a registration reports in a run is read back. -/
theorem registered_storable {publisher : PublisherId} {workerBoot : WorkerBootId} {scope : PublisherScope}
    {registration : PublisherRegistration}
    (succeeded : ((run (step config.runtime) (initial seed) calls).registerPublisher config.runtime publisher
      workerBoot scope).2 = .ok registration) :
    registration.epoch.Storable := by
  rw [registerPublisher_epoch succeeded]
  exact (run_steady calls).epoch

theorem handleRegister_tells (session : Session) (request : RegisterPublisherRequest) :
    (Asked.registration request).ToldBy config env (run (step config.runtime) (initial seed) calls)
      (handleRegister config session (run (step config.runtime) (initial seed) calls) request).reply := by
  refine (registerAnswer_decodes_iff fun registration succeeded => registered_storable succeeded).mpr ?_
  exact (registerPublisher_fails _ _ _).mono fun _ tellable => tellable.detail

theorem handlePublish_tells_iff (session : Session) (brief : ∀ index, (env.io index).Brief)
    {request : PublishRouteRequest} (presentable : Presentable request.publish) :
    (Asked.change (.publication request)).ToldBy config env (run (step config.runtime) (initial seed) calls)
        (handlePublish config env session (run (step config.runtime) (initial seed) calls) request).reply ↔
      ¬ (Asked.change (.publication request)).Overlong (run (step config.runtime) (initial seed) calls) :=
  (publishAnswer_decodes_iff fun _ succeeded => published_storable presentable succeeded).trans
    (publishRoute_fits_iff presentable brief)

theorem handleMutation_tells_iff (session : Session) (brief : ∀ index, (env.io index).Brief) (id : MessageId)
    {request : RouteMutationRequest} (presentable : PresentableMutation request.mutation) :
    (Asked.change (.mutation id request)).ToldBy config env (run (step config.runtime) (initial seed) calls)
        (handleMutation config env session (run (step config.runtime) (initial seed) calls) id
          request).reply ↔
      ¬ (Asked.change (.mutation id request)).Overlong (run (step config.runtime) (initial seed) calls) := by
  refine (mutationAnswer_decodes_iff fun _ succeeded => mutated_storable succeeded).trans ?_
  have withdraws : FailsAs (fun failure => failure.detail.length ≤ maxDiagnosticChars)
      ((run (step config.runtime) (initial seed) calls).withdrawRoute config.runtime env.toEnv
        request.withdraw).2 ↔
      ¬ (run (step config.runtime) (initial seed) calls).OverlongMutation request.mutation :=
    mutation_fits_iff presentable brief (withdrawRoute_fails request.withdraw)
      fun _ => withdrawRoute_of_refused
  cases id with
  | revalidateRoute =>
      exact mutation_fits_iff presentable brief (revalidateRoute_fails _) fun _ => revalidateRoute_of_refused
  | retireRoute =>
      exact mutation_fits_iff presentable brief (retireRoute_fails _) fun _ => retireRoute_of_refused
  | revokeRoute =>
      have fits : FailsAs (fun failure => failure.detail.length ≤ maxDiagnosticChars)
          ((run (step config.runtime) (initial seed) calls).revokeRoute config.runtime env.toEnv
            request.mutation).2 :=
        (revokeRoute_fails _).mono fun _ told => told.detail brief
      exact ⟨fun _ => id, fun _ => fits⟩
  | _ => exact withdraws

theorem serve_tells_iff (session : Session) (brief : ∀ index, (env.io index).Brief) {frame : DecodedFrame}
    {change : Wanted} (wants : wanted config.limits frame = some change) :
    (Asked.change change).ToldBy config env (run (step config.runtime) (initial seed) calls)
        (change.serve config env session (run (step config.runtime) (initial seed) calls)).reply ↔
      ¬ (Asked.change change).Overlong (run (step config.runtime) (initial seed) calls) := by
  rcases wanted_eq_some wants with ⟨decoded, -, returned, rfl⟩ | ⟨decoded, -, returned, rfl⟩
  · exact handlePublish_tells_iff session brief (PublishRouteRequest.presentable returned)
  · exact handleMutation_tells_iff session brief _ (RouteMutationRequest.presentable returned)

end

/-- After any calls, the peer that sent a registration, a publication or a mutation decodes the reply
to what the runtime returned, whatever it returned, unless that is a refusal for the scope of the
publisher whose text quotes too long a key. -/
theorem handle_tells_iff {config : ServerConfig} {seed : Word} (env : ServerEnv) (calls : List Call)
    (session : Session) (frame : DecodedFrame) (brief : ∀ index, (env.io index).Brief) {request : Asked}
    (asks : asked config.limits frame = some request) :
    request.ToldBy config env (run (step config.runtime) (initial seed) calls)
        (handle config env session (run (step config.runtime) (initial seed) calls) frame).reply ↔
      ¬ request.Overlong (run (step config.runtime) (initial seed) calls) := by
  by_cases registers : frame.id = .registerPublisher
  · simp only [asked, registers] at asks
    split at asks
    · cases asks
    · rename_i decoded returned
      obtain rfl := Option.some.inj asks
      simp only [handle, registers, withRequest, returned]
      exact ⟨fun _ => id, fun _ => handleRegister_tells session decoded⟩
  · obtain ⟨change, wants, rfl⟩ := asked_eq_some registers asks
    rw [handle_of_wanted wants]
    exact serve_tells_iff session brief wants

/-- The refusal is longer than the name of the destination that it quotes. -/
theorem length_token_lt_scopeRefusal {key : RouteKey} (valid : key.destination.valid = true)
    (named : key.destination.kind = .logicalDestination) :
    key.destination.token.length < (scopeRefusal key).detail.length := by
  have text : key.destination.render =
      DestinationKind.logicalDestination.text ++ ":" ++ textOf key.destination.token := by
    simp [Destination.render, valid, named]
  have colon : ":".length = 1 := rfl
  have quoted : key.destination.token.length < key.destination.render.length := by
    rw [text]
    simp only [String.length_append, textOf, String.length_ofList, List.length_map]
    omega
  simp only [scopeRefusal, RouteKey.render, String.length_append]
  omega

namespace Scenario

def lengthyToken : Bytes := List.replicate maxDiagnosticChars 97

theorem lengthyToken_valid : isValidTokenText lengthyToken lengthyToken.length = true := by decide +kernel

def lengthyDestination : Destination :=
  { kind := .logicalDestination, valid := true, token := lengthyToken,
    wellFormed := fun _ => ⟨rfl, lengthyToken_valid, rfl⟩ }

/-- A publisher whose scope covers no key. -/
def confined : List Call := [⟨env, .restart 1⟩, ⟨env, .register outsider ⟨2⟩ unscoped⟩]

def lengthy : PublishRouteRequest :=
  { overdue with
    context := { epoch := .one, publisher := outsider, workerBoot := ⟨2⟩, attempt := ⟨1⟩ }
    key := { key with destination := lengthyDestination } }

def lengthyFrame : DecodedFrame :=
  ⟨.publishRoute, wireProtocolVersion, (PublishRouteRequest.codec {}).encode lengthy⟩

end Scenario

/-- A key with a name of 256 characters is refused without the peer being told. -/
theorem handle_tells_iff_lengthy :
    ¬ (Asked.change (.publication Scenario.lengthy)).ToldBy Scenario.server Scenario.serverEnv
      (run (step Scenario.server.runtime) (initial 0) Scenario.confined)
      (handle Scenario.server Scenario.serverEnv {} (run (step Scenario.server.runtime) (initial 0)
        Scenario.confined) Scenario.lengthyFrame).reply := by
  have wants : wanted Scenario.server.limits Scenario.lengthyFrame =
      some (.publication Scenario.lengthy) := by decide +kernel
  have asks : asked Scenario.server.limits Scenario.lengthyFrame =
      some (.change (.publication Scenario.lengthy)) := asked_of_wanted wants
  have brief : ∀ index, (Scenario.serverEnv.io index).Brief := by
    intro index
    constructor
    · intro written why failed
      cases failed
    · intro why failed
      cases failed
  have name : Scenario.lengthy.key.destination.token.length = maxDiagnosticChars := List.length_replicate
  have long : maxDiagnosticChars < (scopeRefusal Scenario.lengthy.key).detail.length :=
    name ▸ @length_token_lt_scopeRefusal Scenario.lengthy.key rfl rfl
  rw [handle_tells_iff Scenario.serverEnv Scenario.confined {} _ brief asks, not_not]
  exact ⟨by decide +kernel, ⟨⟨Scenario.outsider, ⟨2⟩, .one, Scenario.unscoped⟩, by decide +kernel,
    by decide +kernel⟩, long⟩

end RouteFabric
