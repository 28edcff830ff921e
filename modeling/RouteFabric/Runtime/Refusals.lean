import RouteFabric.Std.Outcomes
import RouteFabric.Std.Numerals
import RouteFabric.Runtime.Edits

/-!
# What refusals say

Every failure of the runtime carries a code that is not that of a success, and a text that fits
into a reply: but for one. The refusal of a key outside the scope of its publisher quotes the
whole key, whose rendering can be longer than a reply allows. `publishRoute_fails` and the
theorems beside it say which failures a call can end in.
-/

namespace RouteFabric

open ByteReader OrderedMap Outcomes

/-! ## Failures that fit into a reply -/

/-- A failure that a reply can carry. -/
structure Error.Tellable (failure : Error) : Prop where
  code : failure.code ≠ .ok
  detail : failure.detail.length ≤ maxDiagnosticChars

/-- The length of a fixed text is that of its characters. -/
theorem length_spelled {text : String} {chars : List Char} {bound : Nat} (spelled : text = String.ofList chars)
    (short : chars.length ≤ bound) : text.length ≤ bound := by
  rw [spelled, String.length_ofList]
  exact short

/-- A fixed text fits. -/
theorem tells {code : StatusCode} {detail : String} {chars : List Char} (spelled : detail = String.ofList chars)
    (fits : code ≠ .ok ∧ chars.length ≤ maxDiagnosticChars) : Error.Tellable ⟨code, detail⟩ :=
  ⟨fits.1, length_spelled spelled fits.2⟩

/-- The refusal of a key outside the scope of a publisher. -/
def scopeRefusal (key : RouteKey) : Error :=
  ⟨.scopeViolation, "publisher scope does not cover route key " ++ key.render⟩

/-- The file system gives short reasons. -/
structure IoOutcome.Brief (io : IoOutcome) : Prop where
  append : ∀ written why, io.append = some (written, why) → why.length ≤ 200
  replace : ∀ why, io.replace = some why → why.length ≤ 200

/-- A failure that a reply can carry if the reasons of the file system are short. -/
structure Error.Told (env : Env) (failure : Error) : Prop where
  code : failure.code ≠ .ok
  detail : (∀ index, (env.io index).Brief) → failure.detail.length ≤ maxDiagnosticChars

theorem Error.Tellable.told {env : Env} {failure : Error} (tellable : failure.Tellable) : failure.Told env :=
  ⟨tellable.code, fun _ => tellable.detail⟩

/-- A check fails with its own code and text. -/
theorem ensure_fails {condition : Prop} [Decidable condition] {code : StatusCode} {detail : String}
    {kind : Error → Prop} (tells : kind ⟨code, detail⟩) : FailsAs kind (ensure condition code detail) :=
  .ite (fun _ => .ok ()) fun _ => .error tells

theorem ensure_tells {condition : Prop} [Decidable condition] {code : StatusCode} {detail : String}
    {chars : List Char} (spelled : detail = String.ofList chars)
    (fits : code ≠ .ok ∧ chars.length ≤ maxDiagnosticChars) :
    FailsAs Error.Tellable (ensure condition code detail) :=
  ensure_fails (tells spelled fits)

/-! ## Texts with counters and names -/

theorem length_toString_lt {number bound : Nat} (small : number < 10 ^ bound) (positive : 0 < bound) :
    (toString number).length ≤ bound := by
  have digits : (toString number).length = (Nat.toDigits 10 number).length := by
    rw [← String.length_toList]
    simp [toString, Nat.repr]
  rw [digits]
  exact (Nat.length_toDigits_le_iff (by decide) positive).mpr small

theorem CounterId.length_render {tag : CounterTag} (counter : CounterId tag) :
    counter.render.length ≤ 20 := by
  apply length_toString_lt _ (by decide)
  have bound := counter.inWord
  omega

theorem RouteEvent.length_text (event : RouteEvent) : event.text.length ≤ 25 := by
  cases event <;> decide

theorem RouteLifecycle.length_text (lifecycle : RouteLifecycle) : lifecycle.text.length ≤ 25 := by
  cases lifecycle <;> decide

theorem FencingReason.length_text (reason : FencingReason) : reason.text.length ≤ 25 := by
  cases reason <;> decide

theorem PathAuthorization.length_text (authorization : PathAuthorization) :
    authorization.text.length ≤ 25 := by
  cases authorization <;> decide

/-! ## Checks -/

/-- Counters are rendered in at most twenty digits. -/
theorem generations_fit (first second : RouteGeneration) :
    ("expected generation " ++ first.render ++ " does not match the current generation " ++
      second.render).length ≤ maxDiagnosticChars := by
  have given := first.length_render
  have current := second.length_render
  have fixed : "expected generation ".length ≤ 50 := length_spelled rfl (by decide)
  have joined : " does not match the current generation ".length ≤ 50 := length_spelled rfl (by decide)
  simp only [String.length_append, maxDiagnosticChars]
  omega

theorem applyEvent_fails (lifecycle : RouteLifecycle) (event : RouteEvent) :
    FailsAs Error.Tellable (applyEvent lifecycle event) := by
  unfold applyEvent
  split
  · exact .ok _
  · refine .error ⟨by simp, ?_⟩
    have raised := event.length_text
    have held := lifecycle.length_text
    have fixed : "event ".length ≤ 50 := length_spelled rfl (by decide)
    have joined : " is not allowed in lifecycle state ".length ≤ 50 := length_spelled rfl (by decide)
    simp only [String.length_append, maxDiagnosticChars]
    omega

theorem validateHistory_fails (generation : RouteGeneration) (previous : Option RouteGeneration)
    (history : List LineageEntry) : FailsAs Error.Tellable (validateHistory generation previous history) := by
  induction history generalizing previous with
  | nil => exact .ok _
  | cons entry rest ih =>
      exact (ensure_tells rfl (by decide)).bind fun _ _ => (ensure_tells rfl (by decide)).bind fun _ _ =>
        (ensure_tells rfl (by decide)).bind fun _ _ => ih _

theorem validateRetirement_fails (record : RouteRecord) : FailsAs Error.Tellable (validateRetirement record) :=
  .ite (fun _ => (ensure_tells rfl (by decide)).bind fun _ _ => ensure_tells rfl (by decide))
    fun _ => ensure_tells rfl (by decide)

theorem validateRouteRecord_fails (record : RouteRecord) (limits : Limits) :
    FailsAs Error.Tellable (validateRouteRecord record limits) := by
  unfold validateRouteRecord
  iterate 13 refine (ensure_tells rfl (by decide)).bind fun _ _ => ?_
  refine (validateHistory_fails _ _ _).bind fun _ _ => (validateRetirement_fails record).bind fun _ _ => ?_
  iterate 3 refine (ensure_tells rfl (by decide)).bind fun _ _ => ?_
  exact ensure_tells rfl (by decide)

namespace RouteRecord

theorem advance_fails (record : RouteRecord) : FailsAs Error.Tellable record.advance := by
  refine FailsAs.bind ?_ fun _ _ => FailsAs.bind ?_ fun _ _ => .ok _
  · unfold advanceGeneration
    split
    · exact .ok _
    · exact .error (tells rfl (by decide))
  · unfold advanceAuthority
    split
    · exact .ok _
    · exact .error (tells rfl (by decide))

theorem advanceProgramming_fails (record : RouteRecord) : FailsAs Error.Tellable record.advanceProgramming := by
  unfold advanceProgramming
  split
  · exact .ok _
  · exact .error (tells rfl (by decide))

end RouteRecord

namespace Impl

variable {config : RuntimeConfig} {env : Env} {state : Impl}

theorem validateCommon_fails (publisher : PublisherId) (workerBoot : WorkerBootId)
    (attempt : MutationAttemptId) :
    FailsAs Error.Tellable (validateCommon publisher workerBoot attempt) :=
  (ensure_tells rfl (by decide)).bind fun _ _ => (ensure_tells rfl (by decide)).bind fun _ _ =>
    ensure_tells rfl (by decide)

theorem checkMutation_fails (publisher : PublisherId) (workerBoot : WorkerBootId)
    (attempt : MutationAttemptId) (route : RouteId) (reason : Bytes) :
    FailsAs Error.Tellable (state.checkMutation publisher workerBoot attempt route reason) :=
  (validateCommon_fails _ _ _).bind fun _ _ => (ensure_tells rfl (by decide)).bind fun _ _ =>
    (ensure_tells rfl (by decide)).bind fun _ _ => ensure_tells rfl (by decide)

theorem authorize_fails (publisher : PublisherId) (workerBoot : WorkerBootId) :
    FailsAs Error.Tellable (state.authorize publisher workerBoot) := by
  unfold authorize
  split
  · rename_i reason barred
    refine .error ⟨by simp, ?_⟩
    have named := reason.length_text
    have fixed : "publisher is administratively fenced: ".length ≤ 100 := length_spelled rfl (by decide)
    simp only [String.length_append, maxDiagnosticChars]
    omega
  · split
    · exact .error (tells rfl (by decide))
    · exact (ensure_tells rfl (by decide)).bind fun _ _ => (ensure_tells rfl (by decide)).bind fun _ _ =>
        (ensure_tells rfl (by decide)).bind fun _ _ => .ok _

theorem checkPath_fails (binding : RouteBinding) {staleDetail : String}
    (short : staleDetail.length ≤ maxDiagnosticChars) :
    FailsAs Error.Tellable (checkPath env binding staleDetail) := by
  refine .ite (fun _ => ?_) fun _ => .ok _
  refine (ensure_tells rfl (by decide)).bind fun _ _ => (ensure_fails ⟨by simp, short⟩).bind fun _ _ =>
    ensure_fails ⟨by simp, ?_⟩
  have named := (env.query binding.path).state.length_text
  have fixed : "path authority reports ".length ≤ 100 := length_spelled rfl (by decide)
  simp only [String.length_append, maxDiagnosticChars]
  omega

theorem acknowledge_fails (index : Nat) (edit : Edit) :
    FailsAs (Error.Told env) (state.acknowledge config (env.io index) edit).2 := by
  have persisted : FailsAs (Error.Told env) (state.persist config (env.io index) edit).2 := by
    unfold persist
    split
    · exact .ok _
    · unfold saveSnapshot
      simp only
      split
      · exact .error (tells rfl (by decide)).told
      split
      · rename_i why failed
        refine .error ⟨by simp, fun brief => ?_⟩
        have short := (brief index).replace why failed
        have fixed : "cannot write store snapshot: ".length ≤ 50 := length_spelled rfl (by decide)
        simp only [String.length_append, maxDiagnosticChars]
        omega
      · exact .ok _
    · unfold appendJournal
      simp only
      split
      · exact .error (tells rfl (by decide)).told
      split
      · rename_i written why failed
        refine .error ⟨by simp, fun brief => ?_⟩
        have short := (brief index).append written why failed
        have fixed : "cannot append store journal: ".length ≤ 50 := length_spelled rfl (by decide)
        simp only [String.length_append, maxDiagnosticChars]
        omega
      · exact .ok _
  unfold acknowledge
  split
  · exact .ok _
  · rename_i files failure written
    rw [written] at persisted
    exact persisted

theorem commitIntent_fails (index : Nat) (record : RouteRecord) (attempt : ProgrammingAttemptRecord) :
    FailsAs (Error.Told env) (commitIntent config (env.io index) state record attempt).2 := by
  unfold commitIntent
  split
  · rename_i failure checked
    refine .error (Error.Tellable.told ?_)
    exact ((validateRouteRecord_fails record config.limits).bind fun _ _ =>
      ensure_tells rfl (by decide)) _ checked
  · exact acknowledge_fails index _

theorem reportDispatch_fails {α : Type} (intent : Intent) (report : Impl → RouteRecord → α) :
    FailsAs Error.Tellable (state.reportDispatch config env intent report).2 := by
  unfold reportDispatch
  simp only
  split
  · exact .error (tells rfl (by decide))
  split
  · exact .error (tells rfl (by decide))
  · exact .ok _

/-! ## Publications -/

/-- The publisher is authorized, but its scope does not cover the key. -/
def OutOfScope (state : Impl) (publisher : PublisherId) (workerBoot : WorkerBootId) (key : RouteKey) :
    Prop :=
  ∃ registration, state.authorize publisher workerBoot = .ok registration ∧
    registration.scope.covers key = false

/-- What a publication can fail with. -/
def PublishFailure (env : Env) (state : Impl) (request : PublishRequest) (failure : Error) : Prop :=
  failure.Told env ∨ failure = scopeRefusal request.key ∧
    state.OutOfScope request.publisher request.workerBoot request.key

variable {request : PublishRequest}

theorem PublishFailure.of_tellable {result : Expected α} (fails : FailsAs Error.Tellable result) :
    FailsAs (state.PublishFailure env request) result :=
  fails.mono fun _ tellable => .inl tellable.told

theorem publishAuthority_fails (request : PublishRequest) :
    FailsAs (state.PublishFailure env request) (state.publishAuthority request) := by
  have tellable : ∀ {code : StatusCode} {detail : String}, (⟨code, detail⟩ : Error).Tellable →
      state.PublishFailure env request ⟨code, detail⟩ := fun tellable => .inl tellable.told
  refine (PublishFailure.of_tellable (validateCommon_fails _ _ _)).bind fun _ _ => ?_
  iterate 3 refine (ensure_fails (tellable (tells rfl (by decide)))).bind fun _ _ => ?_
  refine (ensure_fails (tellable (tells rfl (by decide)))).bind fun _ _ => ?_
  refine (ensure_fails (tellable (tells rfl (by decide)))).bind fun _ _ => ?_
  refine (PublishFailure.of_tellable (authorize_fails _ _)).bind fun registration authorized => ?_
  refine FailsAs.bind ?_ fun _ _ => .ok _
  by_cases covered : registration.scope.covers request.key = true
  · rw [checkScope, ensure, if_pos covered]
    exact .ok ()
  · exact ensure_fails (.inr ⟨rfl, registration, authorized, by simpa using covered⟩)

theorem createRecord_fails : FailsAs Error.Tellable (state.createRecord config request) := by
  refine (ensure_tells rfl (by decide)).bind fun _ _ => (ensure_tells rfl (by decide)).bind fun _ _ =>
    FailsAs.bind ?_ fun _ _ => .ok _
  unfold declaredLifecycle
  split
  · exact .ok _
  · exact .error (tells rfl (by decide))

theorem prepareInstall_fails (record : RouteRecord) :
    FailsAs Error.Tellable (prepareInstall env request record) := by
  refine (checkPath_fails _ ?_).bind fun _ _ => (applyEvent_fails _ _).bind fun _ _ =>
    record.advanceProgramming_fails.bind fun _ _ => .ok _
  have bound := request.binding.pathAuthorityGeneration.length_render
  have current := (env.query request.binding.path).generation.length_render
  have fixed : "the bound path authority generation ".length ≤ 50 := length_spelled rfl (by decide)
  have joined : " is not the current generation ".length ≤ 50 := length_spelled rfl (by decide)
  simp only [String.length_append, maxDiagnosticChars]
  omega

theorem publishIntent_fails (prior : Option RouteRecord) (record : RouteRecord) :
    FailsAs (Error.Told env) (publishIntent config env request prior record state).2 := by
  unfold publishIntent
  split
  · rename_i failure refused
    exact .error (prepareInstall_fails record _ refused).told
  · simp only
    split
    · rename_i after failure refused
      exact .error (commitIntent_fails 1 _ _ _ (congrArg Prod.snd refused))
    · exact .ok _

theorem publishCreate_fails : FailsAs (Error.Told env) (publishCreate config env request state).2 := by
  unfold publishCreate
  split
  · rename_i failure refused
    exact .error (createRecord_fails _ refused).told
  · exact publishIntent_fails none _

theorem publishReplace_fails (registration : PublisherRegistration) (record : RouteRecord) :
    FailsAs (Error.Told env) (publishReplace config env registration request record state).2 := by
  unfold publishReplace
  split
  · rename_i failure refused
    have checks : FailsAs Error.Tellable (checkReplacement registration request record) :=
      (ensure_tells rfl (by decide)).bind fun _ _ => ensure_fails ⟨by simp, generations_fit _ _⟩
    exact .error (checks _ refused).told
  · split
    · exact .ok _
    split
    · rename_i failure refused
      exact .error (record.advance_fails _ refused).told
    · exact publishIntent_fails _ _

theorem takeover_fails (registration : PublisherRegistration) (record : RouteRecord) :
    FailsAs Error.Tellable (state.takeover config registration request record) :=
  (ensure_tells rfl (by decide)).bind fun _ _ => (ensure_tells rfl (by decide)).bind fun _ _ =>
    record.advance_fails.bind fun _ _ => .ok _

/-- A publication fails with a text that fits into its reply, or for its scope. -/
theorem publishRoute_fails (request : PublishRequest) :
    FailsAs (state.PublishFailure env request) (state.publishRoute config env request).2 := by
  have locked : FailsAs (state.PublishFailure env request) (state.publishLocked config env request).2 := by
    unfold publishLocked
    split
    · rename_i failure refused
      exact .error (publishAuthority_fails request _ refused)
    · refine FailsAs.mono (?_ : FailsAs (Error.Told env) _) fun _ => .inl
      simp only
      split
      · exact publishCreate_fails
      split
      · exact .error (tells rfl (by decide)).told
      split
      · split
        · rename_i failure refused
          exact .error (takeover_fails _ _ _ refused).told
        · rename_i superseded taken
          have written : FailsAs (Error.Told env) (state.acknowledge config (env.io 0) _).2 :=
            acknowledge_fails 0 { upserts := [superseded] }
          split
          · rename_i after failure refused
            exact .error (written _ (by rw [refused]))
          · exact publishCreate_fails
      · exact publishReplace_fails _ _
  unfold publishRoute
  split
  · rename_i after failure refused
    exact .error (locked _ (by rw [refused]))
  · exact .ok _
  · exact .of_tellable (reportDispatch_fails _ _)

/-! ## Mutations by identity -/

/-- What a mutation of a route can fail with, when it checks the scope of its publisher. -/
def MutationFailure (env : Env) (state : Impl) (publisher : PublisherId) (workerBoot : WorkerBootId)
    (route : RouteId) (failure : Error) : Prop :=
  failure.Told env ∨ ∃ record, state.routes[route]? = some record ∧
    failure = scopeRefusal record.key ∧ state.OutOfScope publisher workerBoot record.key

theorem prepareLifecycleMutation_fails (route : RouteId) (publisher : PublisherId)
    (workerBoot : WorkerBootId) :
    FailsAs (state.MutationFailure env publisher workerBoot route)
      (state.prepareLifecycleMutation route publisher workerBoot) := by
  have tellable : ∀ {code : StatusCode} {detail : String}, (⟨code, detail⟩ : Error).Tellable →
      state.MutationFailure env publisher workerBoot route ⟨code, detail⟩ :=
    fun tellable => .inl tellable.told
  unfold prepareLifecycleMutation
  split
  · exact .error (tellable (tells rfl (by decide)))
  · rename_i record found
    refine ((authorize_fails _ _).mono fun _ tellable => .inl tellable.told).bind
      fun registration authorized => ?_
    refine FailsAs.bind ?_ fun _ _ => ?_
    · by_cases covered : registration.scope.covers record.key = true
      · rw [checkScope, ensure, if_pos covered]
        exact .ok ()
      · exact ensure_fails (.inr ⟨record, found, rfl, registration, authorized, by simpa using covered⟩)
    · iterate 4 refine (ensure_fails (tellable (tells rfl (by decide)))).bind fun _ _ => ?_
      exact .ok _

theorem prepareDispatch_fails (record : RouteRecord) (event : RouteEvent) :
    FailsAs Error.Tellable (prepareDispatch record event) :=
  record.advance_fails.bind fun _ _ => (applyEvent_fails _ _).bind fun _ _ =>
    record.advanceProgramming_fails.bind fun _ _ => .ok _

theorem withdrawRoute_fails (request : WithdrawRequest) :
    FailsAs (state.MutationFailure env request.publisher request.workerBoot request.route)
      (state.withdrawRoute config env request).2 := by
  have target : FailsAs (state.MutationFailure env request.publisher request.workerBoot request.route)
      (state.withdrawTarget request) :=
    ((checkMutation_fails _ _ _ _ _).mono fun _ tellable => .inl tellable.told).bind fun _ _ =>
      (prepareLifecycleMutation_fails _ _ _).bind fun _ _ =>
        (ensure_fails (.inl (Error.Tellable.told ⟨by simp, generations_fit _ _⟩))).bind fun _ _ => .ok _
  unfold withdrawRoute
  split
  · rename_i after failure refused
    refine .error ?_
    unfold withdrawLocked at refused
    split at refused
    · rename_i first missed
      cases refused
      exact target _ missed
    split at refused
    · simp at refused
    split at refused
    · simp at refused
    split at refused
    · rename_i first unprepared
      cases refused
      exact .inl (prepareDispatch_fails _ _ _ unprepared).told
    · simp only at refused
      split at refused
      · rename_i last unwritten
        cases refused
        exact .inl (commitIntent_fails 1 _ _ _ (congrArg Prod.snd unwritten))
      · simp at refused
  · exact .ok _
  · exact (reportDispatch_fails _ _).mono fun _ tellable => .inl tellable.told

theorem revalidateRoute_fails (request : MutationRequest) :
    FailsAs (state.MutationFailure env request.publisher request.workerBoot request.route)
      (state.revalidateRoute config env request).2 := by
  have target : FailsAs (state.MutationFailure env request.publisher request.workerBoot request.route)
      (state.revalidateTarget env request) :=
    ((checkMutation_fails _ _ _ _ _).mono fun _ tellable => .inl tellable.told).bind fun _ _ =>
      (prepareLifecycleMutation_fails _ _ _).bind fun record _ =>
        (ensure_fails (.inl (tells rfl (by decide)).told)).bind fun _ _ =>
          ((checkPath_fails record.binding (length_spelled rfl (by decide))).mono
            fun _ tellable => .inl tellable.told).bind fun _ _ => .ok _
  unfold revalidateRoute
  split
  · rename_i after failure refused
    refine .error ?_
    unfold revalidateLocked at refused
    split at refused
    · rename_i first missed
      cases refused
      exact target _ missed
    split at refused
    · rename_i first unprepared
      cases refused
      exact .inl (prepareDispatch_fails _ _ _ unprepared).told
    · simp only at refused
      split at refused
      · rename_i last unwritten
        cases refused
        exact .inl (commitIntent_fails 1 _ _ _ (congrArg Prod.snd unwritten))
      · simp at refused
  · exact (reportDispatch_fails _ _).mono fun _ tellable => .inl tellable.told

theorem close_fails (request : MutationRequest) (record : RouteRecord) (cause : RetirementCause)
    (event : RouteEvent) : FailsAs Error.Tellable (state.close config request record cause event) :=
  record.advance_fails.bind fun _ _ => (applyEvent_fails _ _).bind fun _ _ =>
    (validateRouteRecord_fails _ _).bind fun _ _ => .ok _

theorem retireRoute_fails (request : MutationRequest) :
    FailsAs (state.MutationFailure env request.publisher request.workerBoot request.route)
      (state.retireRoute config env request).2 := by
  have target : FailsAs (state.MutationFailure env request.publisher request.workerBoot request.route)
      (state.retireTarget request) :=
    ((checkMutation_fails _ _ _ _ _).mono fun _ tellable => .inl tellable.told).bind fun _ _ =>
      prepareLifecycleMutation_fails _ _ _
  unfold retireRoute
  split
  · rename_i failure missed
    exact .error (target _ missed)
  split
  · exact .ok _
  split
  · rename_i failure unclosed
    exact .error (.inl (close_fails _ _ _ _ _ unclosed).told)
  · rename_i updated closed
    have fails : FailsAs (Error.Told env) (state.acknowledge config (env.io 0) _).2 :=
      acknowledge_fails 0 { upserts := [updated] }
    split
    · rename_i after failure unwritten
      exact .error (.inl (fails _ (by rw [unwritten])))
    · exact .ok _

/-- A revocation does not look at the scope. -/
theorem revokeRoute_fails (request : MutationRequest) :
    FailsAs (Error.Told env) (state.revokeRoute config env request).2 := by
  have target : FailsAs Error.Tellable (state.revokeTarget request) := by
    refine (checkMutation_fails _ _ _ _ _).bind fun _ _ => ?_
    split
    · exact .error (tells rfl (by decide))
    · exact (authorize_fails _ _).bind fun _ _ => (ensure_tells rfl (by decide)).bind fun _ _ => .ok _
  unfold revokeRoute
  split
  · rename_i failure missed
    exact .error (target _ missed).told
  split
  · exact .ok _
  split
  · rename_i failure unclosed
    exact .error (close_fails _ _ _ _ _ unclosed).told
  · rename_i updated closed
    have fails : FailsAs (Error.Told env) (state.acknowledge config (env.io 0) _).2 :=
      acknowledge_fails 0 { upserts := [updated], revoked := [state.revocationOf request updated] }
    split
    · rename_i after failure unwritten
      exact .error (fails _ (by rw [unwritten]))
    · exact .ok _

/-! ## Registrations -/

theorem registerPublisher_fails (publisher : PublisherId) (workerBoot : WorkerBootId)
    (scope : PublisherScope) :
    FailsAs Error.Tellable (state.registerPublisher config publisher workerBoot scope).2 := by
  have checks : FailsAs Error.Tellable
      (do checkRegistration config publisher workerBoot scope; state.checkOpened : Status) := by
    refine FailsAs.bind ?_ fun _ _ => ensure_tells rfl (by decide)
    unfold checkRegistration
    iterate 6 refine (ensure_tells rfl (by decide)).bind fun _ _ => ?_
    exact ensure_tells rfl (by decide)
  unfold registerPublisher
  split
  · rename_i failure refused
    exact .error (checks _ refused)
  split
  · rename_i reason barred
    refine .error ⟨by simp, ?_⟩
    have named := reason.length_text
    have fixed : "publisher is administratively fenced: ".length ≤ 100 := length_spelled rfl (by decide)
    simp only [String.length_append, maxDiagnosticChars]
    omega
  simp only
  split
  · exact .error (tells rfl (by decide))
  · exact .ok _

end Impl

end RouteFabric
