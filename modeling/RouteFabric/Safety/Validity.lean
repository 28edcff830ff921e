import RouteFabric.Runtime.Runs

/-!
# Validity of the records held

Several operations commit a record without calling the validator. Completions, path
invalidations and recovery keep a valid record valid all the same. A takeover does not:
it leaves the retirement of the lineage in place, and a superseded record must not carry
one. Recovery does not either when the store holds an outstanding attempt for a later
generation of its route.
-/

namespace RouteFabric

open OrderedMap Run

/-! ## History -/

theorem LineageEntry.Valid.mono {entry : LineageEntry} {generation later : RouteGeneration}
    (valid : entry.Valid generation) (advances : generation.value ≤ later.value) : entry.Valid later :=
  ⟨valid.positive, valid.bounded.trans advances, valid.advancing⟩

namespace RouteRecord

variable {record draft : RouteRecord} {limits : Limits}

/-- Appending the entry of a valid record keeps it valid. -/
theorem Valid.pushHistory (valid : draft.Valid limits) {historyLimit : Nat}
    (bound : historyLimit ≤ limits.maxHistoryEntriesPerRoute) (event : RouteEvent)
    {prior : RouteGeneration} (advances : prior.value < draft.generation.value) :
    (draft.pushHistory historyLimit event prior).Valid limits := by
  have entry : (draft.lineageEntry event prior).Valid draft.generation :=
    ⟨valid.generation, Nat.le_refl _, advances⟩
  have entries : ∀ other ∈ draft.history ++ [draft.lineageEntry event prior],
      other.Valid draft.generation := by
    intro other member
    rcases List.mem_append.mp member with old | new
    · exact valid.entries other old
    · exact List.mem_singleton.mp new ▸ entry
  have ordered : (draft.history ++ [draft.lineageEntry event prior]).Pairwise fun earlier later =>
      earlier.generation.value ≤ later.generation.value := by
    refine List.pairwise_append.mpr ⟨valid.ordered, List.pairwise_singleton _ _, ?_⟩
    intro earlier old later new
    rw [List.mem_singleton.mp new]
    exact (valid.entries earlier old).bounded
  have length : (draft.pushHistory historyLimit event prior).history.length ≤ historyLimit := by
    simp only [RouteRecord.pushHistory, List.length_drop]
    omega
  exact
    { valid with
      historyBound := length.trans bound
      entries := fun other member => entries other (List.mem_of_mem_drop member)
      ordered := ordered.sublist (List.drop_sublist _ _) }

/-! ## Updates that are not validated -/

/-- The classification of an outcome fits the state that it leads to. -/
theorem completion_classified (operation : ProgrammingOperation) (outcome : ProgrammingOutcome)
    {target : RouteLifecycle}
    (led : target = if operation = .withdraw then withdrawTarget outcome else installTarget outcome)
    (applied : AppliedState)
    (classified : applied.classification = completionClassification operation outcome) :
    (target = .installed → applied.reportsApplied = true) ∧
    (target = .withdrawn → applied.reportsNotPresent = true) ∧
    (target = .failed → applied.classification = .rejected ∨ applied.classification = .notSupported ∨
      applied.classification = .permanentFailure) := by
  subst led
  simp only [AppliedState.reportsApplied, AppliedState.reportsNotPresent, classified,
    completionClassification]
  by_cases withdraws : operation = .withdraw
  · simp only [withdraws, if_true]
    cases outcome <;> decide
  · simp only [withdraws, if_false]
    cases outcome <;> decide

theorem Valid.completed (valid : record.Valid limits) {historyLimit : Nat}
    (bound : historyLimit ≤ limits.maxHistoryEntriesPerRoute) {attempt : ProgrammingAttemptRecord}
    {result : ProgrammingResult} {lifecycle : RouteLifecycle}
    (allowed : nextLifecycle record.lifecycle (completionEvent attempt.operation result.outcome) =
      some lifecycle)
    (desired : attempt.desiredGeneration = record.generation)
    (programming : attempt.programmingGeneration = record.programmingGeneration) (backend : BackendId) :
    (record.completed historyLimit backend attempt result lifecycle).Valid limits := by
  have evidence := completed_evidence allowed desired historyLimit backend
  obtain ⟨-, led⟩ := next_completionEvent allowed
  obtain ⟨installed, withdrawn, failed⟩ :=
    completion_classified attempt.operation result.outcome led
      (record.completed historyLimit backend attempt result lifecycle).applied rfl
  have unretired : record.lifecycle ≠ .retired := by
    intro retired
    obtain ⟨-, target⟩ := completionTarget_open attempt.operation result.outcome
    exact target (led ▸ evidence.retired.mpr retired)
  obtain ⟨unsuperseded, stillOpen⟩ := completionTarget_open attempt.operation result.outcome
  rw [← led] at unsuperseded stillOpen
  unfold RouteRecord.completed
  refine Valid.pushHistory ?_ bound _ valid.generation
  exact
    { valid with
      programmed := by
        simp only [desired]
        exact Nat.le_refl _
      dispatched := by
        simp only [programming]
        exact Nat.le_refl _
      appliedDetail := length_bounded_le result.detail
      retired := fun closed => absurd closed stillOpen
      unretired := fun _ => valid.unretired unretired
      superseded := fun lost => absurd lost unsuperseded
      installed := installed
      withdrawn := withdrawn
      failed := failed }

theorem Valid.invalidated (valid : record.Valid limits) {historyLimit : Nat}
    (bound : historyLimit ≤ limits.maxHistoryEntriesPerRoute) {next : RouteGeneration}
    {nextAuthority : RouteAuthorityGeneration} (advanced : record.Advanced next nextAuthority)
    (asserts : Impl.assertsInstallability record.lifecycle = true) (generation : PathAuthorityGeneration) :
    (record.invalidated { record with generation := next, authorityGeneration := nextAuthority }
      historyLimit generation .revalidationRequired).Valid limits := by
  have positive := valid.generation
  have later := advanced.next
  have laterAuthority := advanced.nextAuthority
  have unretired : record.lifecycle ≠ .retired := by
    intro retired
    rw [retired] at asserts
    cases asserts
  unfold RouteRecord.invalidated
  refine Valid.pushHistory ?_ bound _ (by simp only; omega)
  exact
    { valid with
      generation := advanced.storable.1
      authorityGeneration := advanced.storableAuthority.1
      invalidationWatermark := advanced.storableAuthority.1
      programmed := valid.programmed.trans (by simp only; omega)
      observed := valid.observed.trans (by simp only; omega)
      watermark := Nat.le_refl _
      entries := fun entry member => (valid.entries entry member).mono (by simp only; omega)
      retired := by simp
      unretired := fun _ => valid.unretired unretired
      superseded := by simp
      installed := by simp
      withdrawn := by simp
      failed := by simp }

theorem Valid.recovered (valid : record.Valid limits) {historyLimit : Nat}
    (bound : historyLimit ≤ limits.maxHistoryEntriesPerRoute) {attempt : ProgrammingAttemptRecord}
    (awaits : Impl.awaits record attempt = true)
    (earlier : attempt.desiredGeneration.value ≤ record.generation.value) (backend : BackendId) :
    (record.recovered historyLimit backend attempt).Valid limits := by
  obtain ⟨unsuperseded, unretired, target⟩ := recovered_lifecycle awaits historyLimit backend
  have programming : record.programmingGeneration = attempt.programmingGeneration := by
    simp only [Impl.awaits, Bool.and_eq_true, decide_eq_true_eq] at awaits
    exact awaits.2
  have lifecycle : (nextLifecycle record.lifecycle (recoveryEvent attempt.operation)).getD
      .revalidationRequired = .revalidationRequired := target
  have detail : (asciiBytes "unresolved programming attempt recovered after restart").length ≤
      maxDiagnosticChars := by decide
  unfold RouteRecord.recovered
  rw [lifecycle]
  refine Valid.pushHistory ?_ bound _ valid.generation
  exact
    { valid with
      programmed := earlier
      dispatched := by
        simp only [programming]
        exact Nat.le_refl _
      appliedDetail := detail
      retired := by simp
      unretired := fun _ => valid.unretired unretired
      superseded := by simp
      installed := by simp
      withdrawn := by simp
      failed := by simp }

end RouteRecord

namespace Impl

variable {config : RuntimeConfig} {env : Env} {origin state : Impl} {action : Action} {edit : Edit}

/-! ## The condition -/

/-- No outstanding attempt of a loaded state is for a later generation than that of the
route which awaits it. -/
def awaitsNothingLater (loaded : PersistedState) : Bool :=
  loaded.attempts.all fun attempt => attempt.resolved || loaded.routes.all fun record =>
    decide (record.id ≠ attempt.route) || !awaits record attempt ||
      decide (attempt.desiredGeneration.value ≤ record.generation.value)

/-- What the store of a state gives to a restart. -/
def storedState (config : RuntimeConfig) (env : Env) (state : Impl) : PersistedState :=
  if config.durability = .none then {}
  else match (load config.limits (env.io 0) state.files).2 with
    | .ok loaded => loaded
    | .error _ => {}

/-- No step takes a retired lineage over, and no restart finds an attempt for a later
generation than that of its route. -/
def keepsValidity (config : RuntimeConfig) (state : Impl) (call : Call) : Bool :=
  match call.action with
  | .publish request => !state.takesOver config request
  | .restart _ => awaitsNothingLater (state.storedState config call.env)
  | _ => true

/-- Every record held passes structural validation. -/
def RecordsValid (config : RuntimeConfig) (state : Impl) : Prop :=
  ∀ record ∈ values state.routes, validateRouteRecord record config.limits = .ok ()

instance (config : RuntimeConfig) (state : Impl) : Decidable (RecordsValid config state) :=
  inferInstanceAs (Decidable (∀ record ∈ values state.routes,
    validateRouteRecord record config.limits = .ok ()))

/-! ## Preservation -/

theorem Loads.storedState {files after : StoreFiles} {loaded : PersistedState}
    (loads : Loads config env files after loaded) (same : files = state.files) :
    state.storedState config env = loaded := by
  subst same
  cases loads with
  | nothing memory => simp [Impl.storedState, memory]
  | stored durable read => simp [Impl.storedState, durable, read]

theorem Takeover.takesOver {request : PublishRequest} {record updated : RouteRecord}
    (taken : Takeover config state request record updated) : state.takesOver config request = true := by
  obtain ⟨registration, authorized, administrative⟩ := taken.authority
  obtain ⟨generation, authorityGeneration, advanced, made⟩ := taken.made
  have advances : record.advance = .ok { record with generation, authorityGeneration } :=
    RouteRecord.advance_of_advanced advanced
  have passes : state.takeover config registration request record =
      .ok (record.superseded { record with generation, authorityGeneration } config.historyLimit
        state.epoch request) := by
    simp [takeover, administrative, taken.minted, taken.distinct, advances]
  simp [Impl.takesOver, authorized, taken.found, taken.unrevoked, taken.blocked, passes, Except.isOk,
    Except.toBool]

/-- Every edit but a takeover installs valid records. -/
theorem Legal.valid
    (held : ∀ (id : RouteId) record, origin.routes[id]? = some record → record.Valid config.limits)
    (bound : config.historyLimit ≤ config.limits.maxHistoryEntriesPerRoute)
    (condition : ∀ request, action = .publish request → origin.takesOver config request = false)
    (legal : Legal config env origin action state edit) :
    ∀ updated ∈ edit.upserts, updated.Valid config.limits := by
  intro updated member
  cases legal with
  | takeover taken =>
      have refused := condition _ rfl
      rw [taken.takesOver] at refused
      cases refused
  | create created => exact List.mem_singleton.mp member ▸ created.dispatched.valid
  | replace replaced => exact List.mem_singleton.mp member ▸ replaced.dispatched.valid
  | withdraw withdrawn => exact List.mem_singleton.mp member ▸ withdrawn.dispatched.valid
  | revalidate revalidated => exact List.mem_singleton.mp member ▸ revalidated.dispatched.valid
  | retire retired => exact List.mem_singleton.mp member ▸ retired.closing.valid
  | revoke revoked => exact List.mem_singleton.mp member ▸ revoked.closing.valid
  | invalidate unique invalidated =>
      obtain ⟨record, change⟩ := invalidated updated member
      obtain ⟨next, nextAuthority, advanced, rfl⟩ := change.made
      exact (held _ _ change.found).invalidated bound advanced change.asserts _
  | resolve awaited => cases member
  | complete completed =>
      obtain rfl := List.mem_singleton.mp member
      obtain ⟨lifecycle, allowed, rfl⟩ := completed.made
      have current := completed.current
      simp only [overtaken, decide_eq_false_iff_not, not_or, not_not] at current
      exact (held _ _ completed.awaited.found).completed bound allowed current.2.1 current.1 _
  | observe observed => exact List.mem_singleton.mp member ▸ observed.valid

theorem checkConfig_historyLimit (checked : checkConfig config = .ok ()) :
    config.historyLimit ≤ config.limits.maxHistoryEntriesPerRoute := by
  simp only [checkConfig, bind_eq_ok, exists_unit, ensure_eq_ok] at checked
  exact checked.2.2.2

/-- Recovery keeps valid records valid when nothing it finds is for a later generation. -/
theorem recovery_valid {seed : Word} {files after : StoreFiles} {loaded : PersistedState}
    (loads : Loads config env files after loaded) (checked : checkConfig config = .ok ())
    (nothingLater : awaitsNothingLater loaded = true) (id : RouteId) (record : RouteRecord)
    (found : (recovery config env seed after loaded).1.routes[id]? = some record) :
    record.Valid config.limits := by
  have bound := checkConfig_historyLimit checked
  have known : ∀ (id : RouteId) record, (recovery config env seed after loaded).1.routes[id]? = some record →
      record.Valid config.limits ∧ (record ∈ loaded.routes ∧ record.id = id ∨
        record.lifecycle = .revalidationRequired) := by
    refine recover_induction config env.backend.id
      (motive := fun _ current _ => ∀ (id : RouteId) record, current.routes[id]? = some record →
        record.Valid config.limits ∧ (record ∈ loaded.routes ∧ record.id = id ∨
          record.lifecycle = .revalidationRequired)) ?_ ?_ ?_ ?_
    · intro id record found
      rw [populate_routes] at found
      obtain ⟨member, same⟩ := lookup_index_some found
      exact ⟨(loads.sound.routes record member).valid, .inl ⟨member, same⟩⟩
    · exact fun _ _ _ _ known _ => known
    · exact fun _ _ _ _ _ _ _ known => known
    · intro _ current _ attempt awaiting inAttempts outstanding waiting awaited known id record found
      rw [resolveAttempt_routes, commit_routes, lookup_insert] at found
      split at found
      · obtain rfl := Option.some.inj found
        obtain ⟨unsuperseded, unretired, lifecycle⟩ :=
          RouteRecord.recovered_lifecycle awaited config.historyLimit env.backend.id
        obtain ⟨valid, stored | reclaimed⟩ := known attempt.route awaiting waiting
        · refine ⟨valid.recovered bound awaited ?_ _, .inr lifecycle⟩
          -- The route is as it was loaded, so the condition speaks about it.
          obtain ⟨key, held⟩ := (mem_values _ _).mp inAttempts
          rw [populate_attempts] at held
          have all := List.all_eq_true.mp nothingLater attempt (lookup_index_some held).1
          rw [outstanding, Bool.false_or] at all
          have one := List.all_eq_true.mp all awaiting stored.1
          simpa [stored.2, awaited] using one
        · simp [awaits, reclaimed, RouteLifecycle.hasOutstandingProgramming] at awaited
      · exact known id record found
  exact (known id record found).1

theorem recordsValid_iff : RecordsValid config state ↔
    ∀ (id : RouteId) record, state.routes[id]? = some record → record.Valid config.limits := by
  unfold RecordsValid
  simp only [mem_values, validateRouteRecord_eq_ok]
  constructor
  · intro all id record found
    exact all record ⟨id, found⟩
  · rintro all record ⟨id, found⟩
    exact all id record found

/-- In every run that takes no retired lineage over and recovers no attempt for a later
generation, every record held passes validation. -/
theorem run_recordsValid {seed : Word} {calls : List Call}
    (along : Along (step config) (keepsValidity config · · = true) (initial seed) calls) :
    RecordsValid config (run (step config) (initial seed) calls) := by
  refine (run_preserves (motive := fun state => RecordsValid config state ∧
    (state.opened = true → checkConfig config = .ok ())) along ?_ ?_).2.1
  · exact ⟨recordsValid_iff.mpr (by simp [initial, fresh]), by simp [initial, fresh]⟩
  · intro state call indexed allowed held
    refine step_preserves (motive := fun state => RecordsValid config state ∧
      (state.opened = true → checkConfig config = .ok ())) indexed held ?_ ?_
    · rintro takes before after same - ⟨valid, checked⟩ move
      refine ⟨recordsValid_iff.mpr ?_, fun opened => checked (same.trans ((move.opened same).symm.trans opened))⟩
      refine move.records (recordsValid_iff.mp valid) fun edit legal => ?_
      have checked := held.2 (legal.opened takes)
      refine legal.valid (recordsValid_iff.mp held.1) (checkConfig_historyLimit checked) ?_
      intro request action
      simpa [keepsValidity, action] using allowed
    · intro restartSeed after action restarts
      have nothingLater : awaitsNothingLater (state.storedState config call.env) = true := by
        simpa [keepsValidity, action] using allowed
      cases restarts with
      | refused => exact ⟨held.1, by simp⟩
      | unsaved loads failed => exact ⟨held.1, by simp⟩
      | opened checked loads saved =>
          rw [loads.storedState rfl] at nothingLater
          exact ⟨recordsValid_iff.mpr (recovery_valid loads checked nothingLater), fun _ => checked⟩

/-- A route created, invalidated and revalidated keeps its record valid. -/
theorem run_recordsValid_republished :
    RecordsValid Scenario.config (run (step Scenario.config) (initial 0)
      (Scenario.opening ++ [⟨Scenario.env, .publish (Scenario.publication 1)⟩,
        ⟨Scenario.env, .invalidate ⟨7⟩ .one .stale⟩, ⟨Scenario.env, .revalidate (Scenario.mutation 1)⟩])) :=
  run_recordsValid (by decide +kernel)

/-- A takeover leaves a superseded record with the retirement of the lineage, which
validation refuses. -/
theorem takeover_not_recordsValid :
    ¬ RecordsValid Scenario.config (run (step Scenario.config) (initial 0)
      (Scenario.opening ++ [⟨Scenario.env, .publish (Scenario.publication 1)⟩,
        ⟨Scenario.env, .retire (Scenario.mutation 1)⟩,
        ⟨Scenario.env, .publish (Scenario.publication 2)⟩])) := by
  decide +kernel

end Impl

end RouteFabric
