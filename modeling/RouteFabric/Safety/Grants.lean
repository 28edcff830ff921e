import RouteFabric.Safety.Failures

/-!
# What the runtime grants

The checks that decide whether a mutation is granted, read off the calls as predicates on the
state before; the answer of the store to the write that has to come first is one of them. A call that is not granted is refused and leaves the routes, the attempts, the
revocations and the registrations as they were (`Declined`); one that is granted succeeds, but for
a takeover whose new lineage is refused after the old one was written.
-/

namespace RouteFabric

open ByteReader OrderedMap Run

namespace Impl

variable {config : RuntimeConfig} {env : Env} {state after : Impl} {failure : Error}

/-! ## The checks -/

/-- Whether the store takes an edit. -/
def writes (config : RuntimeConfig) (io : IoOutcome) (state : Impl) (edit : Edit) : Bool :=
  (state.persist config io edit).2.isOk

/-- Whether an intent is committed: its record is valid, there is room for its attempt, and the
store takes both. -/
def commits (config : RuntimeConfig) (io : IoOutcome) (state : Impl) (record : RouteRecord)
    (attempt : ProgrammingAttemptRecord) : Bool :=
  (validateRouteRecord record config.limits).isOk &&
    state.outstandingProgramming < config.limits.maxOutstandingProgramming &&
    state.writes config io { upserts := [record], attempts := [attempt] }

/-- Whether a record can be installed for a publication. -/
def installs (config : RuntimeConfig) (env : Env) (state : Impl) (request : PublishRequest)
    (prior : Option RouteRecord) (record : RouteRecord) : Bool :=
  match prepareInstall env request record with
  | .error _ => false
  | .ok (lifecycle, programmingGeneration) =>
      let attempt : ProgrammingAttemptId := (generateId state.ids).1
      let updated := record.installing config.historyLimit state.epoch env.backend.id request
        (prior.map (·.generation)) lifecycle programmingGeneration attempt
      state.commits config (env.io 1) updated
        (updated.attemptFor attempt (if prior.isSome then .replace else .install) state.epoch)

/-- Whether a publication creates a route, supersedes a lineage, replaces a route or repeats a
publication. For a takeover only the old lineage counts: once its record is written as superseded, the
publication has had an effect, whether or not the new lineage is refused later. -/
def grantsPublication (config : RuntimeConfig) (env : Env) (state : Impl) (request : PublishRequest) : Bool :=
  match state.publishAuthority request with
  | .error _ => false
  | .ok registration =>
      let record := (state.lookupKey request.key).getD {}
      if record.id.isValid = false then
        match state.createRecord config request with
        | .error _ => false
        | .ok created => state.installs config env request none created
      else if (state.revocations[record.id]?).isSome then false
      else if record.blocksRepublication then
        match state.takeover config registration request record with
        | .error _ => false
        | .ok superseded => state.writes config (env.io 0) { upserts := [superseded] }
      else match checkReplacement registration request record with
        | .error _ => false
        | .ok () => isReplay request record ||
            match record.advance with
            | .error _ => false
            | .ok advanced => state.installs config env request (some record) advanced

def grantsWithdrawal (config : RuntimeConfig) (env : Env) (state : Impl) (request : WithdrawRequest) : Bool :=
  match state.withdrawTarget request with
  | .error _ => false
  | .ok record => record.lifecycle = .withdrawn || record.lifecycle = .withdrawing ||
      match prepareDispatch record .beginWithdraw with
      | .error _ => false
      | .ok (advanced, lifecycle, programmingGeneration) =>
          let attempt : ProgrammingAttemptId := (generateId state.ids).1
          let updated := record.withdrawing advanced config.historyLimit env.backend.id
            request.reason lifecycle programmingGeneration attempt
          state.commits config (env.io 1) updated (updated.attemptFor attempt .withdraw state.epoch)

def grantsRevalidation (config : RuntimeConfig) (env : Env) (state : Impl) (request : MutationRequest) : Bool :=
  match state.revalidateTarget env request with
  | .error _ => false
  | .ok record =>
      match prepareDispatch record .beginInstall with
      | .error _ => false
      | .ok (advanced, lifecycle, programmingGeneration) =>
          let attempt : ProgrammingAttemptId := (generateId state.ids).1
          let updated := record.revalidating advanced config.historyLimit state.epoch env.backend.id
            request lifecycle programmingGeneration attempt
          state.commits config (env.io 1) updated (updated.attemptFor attempt
            (if record.applied.reportsApplied then .replace else .install) state.epoch)

def grantsRetirement (config : RuntimeConfig) (env : Env) (state : Impl) (request : MutationRequest) : Bool :=
  match state.retireTarget request with
  | .error _ => false
  | .ok record => record.lifecycle = .retired ||
      match state.close config request record .administrative .retire with
      | .error _ => false
      | .ok updated => state.writes config (env.io 0) { upserts := [updated] }

def grantsRevocation (config : RuntimeConfig) (env : Env) (state : Impl) (request : MutationRequest) : Bool :=
  match state.revokeTarget request with
  | .error _ => false
  | .ok record => (state.revocations[record.id]?).isSome ||
      match state.close config request record .revoked .revoke with
      | .error _ => false
      | .ok updated => state.writes config (env.io 0)
          { upserts := [updated], revoked := [state.revocationOf request updated] }

/-! ## Writes -/

theorem acknowledge_isOk (io : IoOutcome) (edit : Edit) :
    (state.acknowledge config io edit).2.isOk = state.writes config io edit := by
  rcases acknowledge_cases config io state edit with
    ⟨files, written, applied⟩ | ⟨files, why, refused, failed⟩
  · rw [applied, writes, written]
  · rw [failed, writes, refused]

theorem writes_with_ids (io : IoOutcome) (ids : SeededIdSource) (edit : Edit) :
    { state with ids := ids }.writes config io edit = state.writes config io edit := by
  have status : ({ state with ids := ids }.persist config io edit).2 = _ :=
    persist_status (show { state with ids := ids }.contents = state.contents from rfl) io edit
  rw [writes, status, writes]

theorem commitIntent_commits (io : IoOutcome) (ids : SeededIdSource) (record : RouteRecord)
    (attempt : ProgrammingAttemptRecord) :
    (commitIntent config io { state with ids := ids } record attempt).2.isOk =
      state.commits config io record attempt := by
  unfold commitIntent commits
  cases valid : validateRouteRecord record config.limits with
  | error failure => rfl
  | ok value =>
      by_cases room : state.outstandingProgramming < config.limits.maxOutstandingProgramming
      · rw [← writes_with_ids io ids, ← acknowledge_isOk]
        simp [ensure, room, bind, Except.bind, Except.isOk, Except.toBool]
      · simp [ensure, room, makeError, bind, Except.bind, Except.isOk, Except.toBool]

theorem publishIntent_isOk (request : PublishRequest) (prior : Option RouteRecord) (record : RouteRecord) :
    (publishIntent config env request prior record state).2.isOk =
      state.installs config env request prior record := by
  unfold publishIntent installs
  cases prepareInstall env request record with
  | error failure => rfl
  | ok prepared =>
      simp only
      rw [← commitIntent_commits (env.io 1) (generateId state.ids : ProgrammingAttemptId × SeededIdSource).2]
      split <;> rename_i returned <;> rw [returned] <;> rfl

theorem publishIntent_unmoved {request : PublishRequest} {prior : Option RouteRecord} {record : RouteRecord}
    (failed : publishIntent config env request prior record state = (after, .error failure)) :
    Unmoved state after := by
  unfold publishIntent at failed
  split at failed
  · exact (Prod.mk.inj failed).1 ▸ .refl state
  simp only at failed
  split at failed
  · rename_i refused
    rw [← (Prod.mk.inj failed).1]
    exact Unmoved.trans ⟨_, _, rfl⟩ (commitIntent_unmoved refused)
  · simp at failed

theorem publishCreate_unmoved {request : PublishRequest}
    (failed : publishCreate config env request state = (after, .error failure)) : Unmoved state after := by
  unfold publishCreate at failed
  split at failed
  · exact (Prod.mk.inj failed).1 ▸ .refl state
  · exact publishIntent_unmoved failed

theorem Unmoved.routes (unmoved : Unmoved state after) : after.routes = state.routes := by
  obtain ⟨ids, files, rfl⟩ := unmoved
  rfl

/-! ## Refusals that change nothing -/

/-- The call was refused, and no route, attempt, revocation or registration changed. -/
structure Declined {α : Type} (before : Impl) (result : Impl × Expected α) : Prop where
  refused : result.2.isOk = false
  routes : result.1.routes = before.routes
  attempts : result.1.attempts = before.attempts
  revocations : result.1.revocations = before.revocations
  registrations : result.1.registrations = before.registrations

theorem Declined.of_unmoved {α : Type} {result : Impl × Expected α} (refused : result.2 = .error failure)
    (unmoved : Unmoved state result.1) : Declined state result := by
  obtain ⟨ids, files, same⟩ := unmoved
  constructor
  · rw [refused]
    rfl
  all_goals rw [same]

theorem error_of_isOk {α : Type} {result : Expected α} (refused : result.isOk = false) :
    ∃ failure, result = .error failure := by
  cases result with
  | error failure => exact ⟨failure, rfl⟩
  | ok value => cases refused

/-- A call that moves nothing when it fails is declined exactly when it is not granted. -/
theorem declined_iff {α : Type} {result : Impl × Expected α} {granted : Bool}
    (decides : result.2.isOk = granted)
    (unmoved : ∀ {failure}, result.2 = .error failure → Unmoved state result.1) :
    Declined state result ↔ granted = false := by
  rw [← decides]
  constructor
  · exact Declined.refused
  · intro refused
    obtain ⟨failure, failed⟩ := error_of_isOk refused
    exact .of_unmoved failed (unmoved failed)

theorem reportDispatch_isOk {α : Type} {report : Impl → RouteRecord → α} {intent : Intent}
    (anchored : Anchored state) (held : intent.route ∈ state.routes) :
    (state.reportDispatch config env intent report).2.isOk = true := by
  rw [← Bool.not_eq_false]
  intro refused
  obtain ⟨failure, failed⟩ := error_of_isOk refused
  exact reportDispatch_ne_error anchored held failed

/-! ## Mutations by identity -/

theorem withdrawLocked_isOk (request : WithdrawRequest) :
    (withdrawLocked config env request state).2.isOk = state.grantsWithdrawal config env request := by
  unfold withdrawLocked grantsWithdrawal
  cases state.withdrawTarget request with
  | error failure => rfl
  | ok record =>
      by_cases withdrawn : record.lifecycle = .withdrawn
      · simp [withdrawn, Except.isOk, Except.toBool]
      by_cases withdrawing : record.lifecycle = .withdrawing
      · simp [withdrawing, Except.isOk, Except.toBool]
      simp only [withdrawn, withdrawing, if_false, decide_false, Bool.false_or]
      cases prepareDispatch record .beginWithdraw with
      | error failure => rfl
      | ok prepared =>
          simp only
          rw [← commitIntent_commits (env.io 1) (generateId state.ids : ProgrammingAttemptId × SeededIdSource).2]
          split <;> rename_i returned <;> rw [returned] <;> rfl

theorem revalidateLocked_isOk (request : MutationRequest) :
    (revalidateLocked config env request state).2.isOk = state.grantsRevalidation config env request := by
  unfold revalidateLocked grantsRevalidation
  cases state.revalidateTarget env request with
  | error failure => rfl
  | ok record =>
      simp only
      cases prepareDispatch record .beginInstall with
      | error failure => rfl
      | ok prepared =>
          simp only
          rw [← commitIntent_commits (env.io 1) (generateId state.ids : ProgrammingAttemptId × SeededIdSource).2]
          split <;> rename_i returned <;> rw [returned] <;> rfl

theorem withdrawRoute_isOk (anchored : Anchored state) (request : WithdrawRequest) :
    (state.withdrawRoute config env request).2.isOk = state.grantsWithdrawal config env request := by
  have moves : Moves config env state _ state _ := withdrawLocked_moves request
  have settled := moves.anchored anchored
  rw [← withdrawLocked_isOk]
  unfold withdrawRoute
  split <;> rename_i locked <;> rw [locked] at settled
  · rw [locked]
    rfl
  · rw [locked]
    rfl
  · obtain ⟨updated, intends⟩ := withdrawLocked_intends locked
    rw [reportDispatch_isOk settled intends.held, locked]
    rfl

theorem revalidateRoute_isOk (anchored : Anchored state) (request : MutationRequest) :
    (state.revalidateRoute config env request).2.isOk = state.grantsRevalidation config env request := by
  have moves : Moves config env state _ state _ := revalidateLocked_moves request
  have settled := moves.anchored anchored
  rw [← revalidateLocked_isOk]
  unfold revalidateRoute
  split <;> rename_i locked <;> rw [locked] at settled
  · rw [locked]
    rfl
  · obtain ⟨updated, intends⟩ := revalidateLocked_intends locked
    rw [reportDispatch_isOk settled intends.held, locked]
    rfl

theorem retireRoute_isOk (request : MutationRequest) :
    (state.retireRoute config env request).2.isOk = state.grantsRetirement config env request := by
  unfold retireRoute grantsRetirement
  cases state.retireTarget request with
  | error failure => rfl
  | ok record =>
      by_cases retired : record.lifecycle = .retired
      · simp [retired, Except.isOk, Except.toBool]
      simp only [retired, if_false, decide_false, Bool.false_or]
      cases state.close config request record .administrative .retire with
      | error failure => rfl
      | ok updated =>
          simp only
          rw [← acknowledge_isOk]
          split <;> rename_i returned <;> rw [returned] <;> rfl

theorem revokeRoute_isOk (request : MutationRequest) :
    (state.revokeRoute config env request).2.isOk = state.grantsRevocation config env request := by
  unfold revokeRoute grantsRevocation
  cases state.revokeTarget request with
  | error failure => rfl
  | ok record =>
      by_cases revoked : (state.revocations[record.id]?).isSome = true
      · simp [revoked, Except.isOk, Except.toBool]
      simp only [revoked, Bool.false_or]
      cases state.close config request record .revoked .revoke with
      | error failure => rfl
      | ok updated =>
          simp only
          rw [← acknowledge_isOk]
          simp only [Bool.false_eq_true, if_false]
          split <;> rename_i returned <;> rw [returned] <;> rfl

/-! ## Publications -/

/-- A publication that is granted succeeds or supersedes a lineage. -/
theorem publishLocked_grants {request : PublishRequest} (indexed : Indexed state)
    (granted : state.grantsPublication config env request = true) :
    (publishLocked config env request state).2.isOk = true ∨
      (publishLocked config env request state).1.routes ≠ state.routes := by
  unfold grantsPublication at granted
  split at granted
  · cases granted
  rename_i registration authorized
  simp only at granted
  split at granted
  · rename_i missing
    split at granted
    · cases granted
    rename_i created creates
    refine .inl ?_
    simp only [publishLocked, authorized, missing, if_true, publishCreate, creates, publishIntent_isOk, granted]
  rename_i identified
  obtain ⟨record, found⟩ := Option.ne_none_iff_exists'.mp
    fun missing => identified ((indexed.lookupKey_getD request.key).mpr missing)
  rw [found, Option.getD_some] at granted identified
  split at granted
  · cases granted
  rename_i unrevoked
  split at granted
  · rename_i blocked
    split at granted
    · cases granted
    rename_i superseded took
    rw [Bool.not_eq_true, Option.isSome_eq_false_iff, Option.isNone_iff_eq_none] at unrevoked
    have takes : TakesOver config state request registration record superseded :=
      ⟨authorized, found, unrevoked, blocked, took⟩
    obtain ⟨files, written⟩ : ∃ files,
        state.persist config (env.io 0) { upserts := [superseded] } = (files, .ok ()) := by
      cases returned : state.persist config (env.io 0) { upserts := [superseded] } with
      | mk files status =>
          rw [writes, returned] at granted
          cases status with
          | error failure => cases granted
          | ok value => exact ⟨files, rfl⟩
    rw [takes.publishLocked indexed written]
    -- The superseded record is committed, whatever becomes of the new lineage.
    by_cases accepted : (publishCreate config env request
        { state.applyEdit { upserts := [superseded] } with files := files }).2.isOk = true
    · exact .inl accepted
    · obtain ⟨failure, failed⟩ := error_of_isOk (Bool.not_eq_true _ ▸ accepted)
      have unmoved := publishCreate_unmoved (Prod.ext rfl failed)
      exact .inr fun back => takes.alters indexed (unmoved.routes.symm.trans back)
  · rename_i usable
    split at granted
    · cases granted
    rename_i replaces
    refine .inl ?_
    simp only [publishLocked, authorized, found, Option.getD_some]
    rw [if_neg identified, if_neg unrevoked, if_neg usable]
    simp only [publishReplace, replaces]
    by_cases repeats : isReplay request record = true
    · rw [if_pos repeats]
      rfl
    rw [if_neg repeats]
    simp only [repeats, Bool.false_or] at granted
    cases advances : record.advance with
    | error failure =>
        rw [advances] at granted
        cases granted
    | ok advanced =>
        rw [advances] at granted
        exact (publishIntent_isOk _ _ _).trans granted

/-- A publication that is not granted fails and moves nothing. -/
theorem publishLocked_denied {request : PublishRequest}
    (denied : state.grantsPublication config env request = false) :
    ∃ failure, (publishLocked config env request state).2 = .error failure ∧
      Unmoved state (publishLocked config env request state).1 := by
  have refuses : ∀ {failure : Error}, ∃ other, (.error failure : Expected (PublishResult ⊕ Intent)) =
      .error other ∧ Unmoved state state := fun {failure} => ⟨failure, rfl, .refl state⟩
  unfold publishLocked
  unfold grantsPublication at denied
  cases authorized : state.publishAuthority request with
  | error failure => exact refuses
  | ok registration =>
    rw [authorized] at denied
    simp only at denied ⊢
    split
    · rename_i missing
      rw [if_pos missing] at denied
      cases created : publishCreate config env request state with
      | mk after result =>
        have decides : (publishCreate config env request state).2.isOk = false := by
          unfold publishCreate
          cases made : state.createRecord config request with
          | error failure => rfl
          | ok record =>
              rw [made] at denied
              exact (publishIntent_isOk _ _ _).trans denied
        rw [created] at decides
        obtain ⟨failure, rfl⟩ := error_of_isOk decides
        exact ⟨failure, rfl, publishCreate_unmoved created⟩
    rename_i identified
    rw [if_neg identified] at denied
    split
    · exact refuses
    rename_i unrevoked
    rw [if_neg unrevoked] at denied
    split
    · rename_i blocked
      rw [if_pos blocked] at denied
      split
      · exact refuses
      rename_i superseded took
      rw [took] at denied
      simp only at denied
      rw [← acknowledge_isOk] at denied
      split
      · rename_i acknowledged
        exact ⟨_, rfl, acknowledge_unmoved acknowledged⟩
      · rename_i acknowledged
        rw [acknowledged] at denied
        cases denied
    · rename_i usable
      rw [if_neg usable] at denied
      unfold publishReplace
      split
      · exact refuses
      rename_i replaces
      rw [replaces] at denied
      simp only [Bool.or_eq_false_iff] at denied
      rw [denied.1]
      simp only [Bool.false_eq_true, if_false]
      split
      · exact refuses
      rename_i advanced advances
      have decides := denied.2
      rw [advances] at decides
      simp only at decides
      rw [← publishIntent_isOk] at decides
      obtain ⟨failure, failed⟩ := error_of_isOk decides
      exact ⟨failure, failed, publishIntent_unmoved (Prod.ext rfl failed)⟩

theorem publishRoute_declined_iff (indexed : Indexed state) (anchored : Anchored state)
    (request : PublishRequest) : Declined state (state.publishRoute config env request) ↔
      state.grantsPublication config env request = false := by
  constructor
  · intro declined
    rw [← Bool.not_eq_true]
    intro granted
    obtain ⟨failure, failed⟩ := error_of_isOk declined.refused
    have locked := publishRoute_error indexed anchored failed
    rcases publishLocked_grants indexed granted with accepted | altered
    · rw [locked] at accepted
      cases accepted
    · rw [locked] at altered
      exact altered declined.routes
  · intro denied
    obtain ⟨failure, failed, unmoved⟩ := publishLocked_denied denied
    have locked : publishLocked config env request state = (_, .error failure) := Prod.ext rfl failed
    have called : state.publishRoute config env request =
        ((publishLocked config env request state).1, .error failure) := by
      unfold publishRoute
      rw [locked]
    rw [called]
    exact .of_unmoved rfl unmoved

end Impl

end RouteFabric
