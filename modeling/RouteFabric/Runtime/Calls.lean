import RouteFabric.Runtime.Runs

/-!
# Whole calls

The public operations that dispatch are a locked part, a backend call and the completion
of an immediate outcome. `Intends` says what the locked part committed when it returns an
intent; what follows touches the route of that intent only, provided that the backend
answers for the attempt it was asked about.
-/

namespace RouteFabric

open OrderedMap

/-- An immediate outcome names the attempt of its request. -/
def Backend.Answers (backend : Backend) : Prop :=
  ∀ request, (Impl.dispatch backend request).deferred = false →
    (Impl.dispatch backend request).immediate.attempt = request.attempt

namespace Impl

variable {config : RuntimeConfig} {env : Env} {origin state after : Impl} {action : Action}
  {intent : Intent} {updated : RouteRecord}

/-! ## Committed intents -/

/-- The edit of a returned intent was legal, and it is the last thing that happened. -/
structure Intends (config : RuntimeConfig) (env : Env) (origin : Impl) (action : Action) (after : Impl)
    (intent : Intent) (updated : RouteRecord) : Prop where
  legal : ∃ before, Legal config env origin action before
      { upserts := [updated], attempts := [intent.attempt] } ∧
    ∃ ids files, after = applyEdit { before with ids := ids, files := files }
      { upserts := [updated], attempts := [intent.attempt] }
  route : intent.route = updated.id
  waits : intent.attempt = updated.attemptFor intent.attempt.attempt intent.attempt.operation after.epoch

theorem Intends.found (intends : Intends config env origin action after intent updated) :
    after.routes[intent.route]? = some updated := by
  obtain ⟨before, -, ids, files, rfl⟩ := intends.legal
  rw [applyEdit_routes, intends.route]
  exact lookup_insert_self _ _ _

theorem Intends.known (intends : Intends config env origin action after intent updated) :
    after.attempts[intent.attempt.attempt]? = some intent.attempt := by
  obtain ⟨before, -, ids, files, rfl⟩ := intends.legal
  rw [applyEdit_attempts]
  exact lookup_insert_self _ _ _

theorem Intends.attemptRoute (intends : Intends config env origin action after intent updated) :
    intent.attempt.route = intent.route := by
  rw [intends.waits, intends.route]
  rfl

theorem commitIntent_eq_ok {io : IoOutcome} {attempt : ProgrammingAttemptRecord}
    (committed : commitIntent config io state updated attempt = (after, .ok ())) :
    updated.Valid config.limits ∧
      state.outstandingProgramming < config.limits.maxOutstandingProgramming ∧
      ∃ files, after = applyEdit { state with files := files }
        { upserts := [updated], attempts := [attempt] } := by
  unfold commitIntent at committed
  split at committed
  · simp at committed
  · rename_i passed
    simp only [bind_eq_ok, exists_unit, ensure_eq_ok, validateRouteRecord_eq_ok] at passed
    rcases acknowledge_cases config io state { upserts := [updated], attempts := [attempt] } with
      ⟨files, -, applied⟩ | ⟨files, failure, -, failed⟩
    · rw [applied, Prod.mk.injEq] at committed
      exact ⟨passed.1, passed.2, files, committed.1.symm⟩
    · rw [failed] at committed
      simp at committed

/-- The closing steps of a locked part, when they succeed. -/
theorem dispatch_intends (build : ProgrammingAttemptId → RouteRecord) {operation : ProgrammingOperation}
    {drawn : ProgrammingAttemptId × SeededIdSource} {installed replaced : Bool}
    (draws : generateId state.ids = drawn)
    (legal : ∀ attempt, Dispatched config state (build attempt.attempt) operation attempt →
      Legal config env origin action state
        { upserts := [build attempt.attempt], attempts := [attempt] })
    (committed : commitIntent config (env.io 1) { state with ids := drawn.2 } (build drawn.1)
      ((build drawn.1).attemptFor drawn.1 operation state.epoch) = (after, .ok ())) :
    Intends config env origin action after ⟨(build drawn.1).id,
      (build drawn.1).attemptFor drawn.1 operation state.epoch, installed, replaced⟩ (build drawn.1) := by
  obtain ⟨valid, room, files, rfl⟩ := commitIntent_eq_ok committed
  have permitted := legal ((build drawn.1).attemptFor drawn.1 operation state.epoch)
    ⟨valid, room, rfl, by rw [draws]; rfl⟩
  refine ⟨⟨state, permitted, drawn.2, files, rfl⟩, rfl, ?_⟩
  rw [(applyEdit_frame _).epoch]
  rfl

/-! ## Publication -/

theorem publishIntent_intends {request : PublishRequest} {prior : Option RouteRecord} {record : RouteRecord}
    (committed : publishIntent config env request prior record state = (after, .ok (.inr intent)))
    (legal : ∀ programmingGeneration updated attempt,
      nextLifecycle record.lifecycle .beginInstall = some .installing →
      record.Programmed programmingGeneration →
      updated = record.installing config.historyLimit state.epoch env.backend.id request
        (prior.map (·.generation)) .installing programmingGeneration attempt.attempt →
      Dispatched config state updated (if prior.isSome then .replace else .install) attempt →
      Legal config env origin action state { upserts := [updated], attempts := [attempt] }) :
    ∃ updated, Intends config env origin action after intent updated ∧ updated.id = record.id ∧
      updated.key = record.key ∧ intent.replaced = prior.isSome := by
  unfold publishIntent at committed
  split at committed
  · simp at committed
  · rename_i prepared
    simp only [prepareInstall, bind_eq_ok, exists_unit, applyEvent_eq_ok, pure_eq_ok, Prod.mk.injEq]
      at prepared
    obtain ⟨-, following, allowed, advanced, programmed, rfl, rfl⟩ := prepared
    obtain rfl := next_beginInstall allowed
    simp only at committed
    split at committed
    · simp at committed
    · rename_i acknowledged
      simp only [Prod.mk.injEq, Except.ok.injEq, Sum.inr.injEq] at committed
      obtain ⟨rfl, rfl⟩ := committed
      refine ⟨_, dispatch_intends (fun attempt => record.installing config.historyLimit state.epoch
        env.backend.id request (prior.map RouteRecord.generation) .installing advanced attempt) rfl
        (fun attempt dispatched => legal advanced _ attempt allowed
          (RouteRecord.advanceProgramming_eq_ok programmed) rfl dispatched) acknowledged, rfl, rfl, rfl⟩

theorem publishIntent_ne_inl {request : PublishRequest} {prior : Option RouteRecord} {record : RouteRecord}
    (result : PublishResult) :
    publishIntent config env request prior record state ≠ (after, .ok (.inl result)) := by
  intro returned
  unfold publishIntent at returned
  split at returned
  · simp at returned
  · simp only at returned
    split at returned <;> simp at returned

/-- A publication that returns an intent created a route or replaced the one of its key. -/
theorem publishLocked_intends (indexed : Indexed origin) {request : PublishRequest}
    (committed : publishLocked config env request origin = (after, .ok (.inr intent))) :
    ∃ updated, Intends config env origin (.publish request) after intent updated ∧
      updated.key = request.key ∧
      (intent.replaced = false ∧ updated.id = createdId request ∧
          origin.reachesCreation config request = true ∨
        intent.replaced = true ∧ ∃ registration record,
          origin.publishAuthority request = .ok registration ∧
          origin.lookupKey request.key = some record ∧ updated.id = record.id ∧
          checkReplacement registration request record = .ok ()) := by
  have path : PublishPath config env origin request _ := publishLocked_path indexed request
  rw [committed] at path
  generalize returned : (after, (.ok (.inr intent) : Expected (PublishResult ⊕ Intent))) = result at path
  cases path with
  | refused | replays => simp at returned
  | creates moved _ authority reaches frame present revocations attempts vacant =>
      unfold publishCreate at returned
      split at returned
      · simp at returned
      · rename_i record created
        obtain ⟨updated, intends, sameId, sameKey, fresh⟩ := publishIntent_intends returned.symm
          fun programmingGeneration updated attempt _ programmed made dispatched =>
            creates_legal authority reaches frame present revocations attempts vacant created
              programmingGeneration updated attempt programmed made dispatched
        simp only [createRecord, bind_eq_ok, exists_unit, ensure_eq_ok, pure_eq_ok] at created
        obtain ⟨-, -, lifecycle, -, rfl⟩ := created
        exact ⟨updated, intends, sameKey, .inl ⟨fresh, sameId, reaches⟩⟩
  | replaces authorized found unrevoked live checked counters =>
      rename_i registration record generation authorityGeneration
      obtain ⟨updated, intends, sameId, sameKey, replaced⟩ := publishIntent_intends returned.symm
        fun programmingGeneration updated attempt allowed programmed made dispatched =>
          replaces_legal authorized found unrevoked live checked counters allowed
            ⟨programmed.next, programmed.storable⟩ made dispatched
      obtain ⟨-, -, ofKey, -, -⟩ := indexed.lookupKey found
      exact ⟨updated, intends, sameKey.trans ofKey,
        .inr ⟨replaced, registration, record, authorized, found, sameId, checked⟩⟩

/-- A publication that returns a result at once is an exact replay. -/
theorem publishLocked_replays (indexed : Indexed origin) {request : PublishRequest} {result : PublishResult}
    (returned : publishLocked config env request origin = (after, .ok (.inl result))) :
    after = origin ∧ result.idempotent = true ∧ ∃ registration record,
      origin.publishAuthority request = .ok registration ∧ origin.lookupKey request.key = some record ∧
      checkReplacement registration request record = .ok () ∧
      result = { origin.publishResult env record with idempotent := true } := by
  have path : PublishPath config env origin request _ := publishLocked_path indexed request
  rw [returned] at path
  generalize same : (after, (.ok (.inl result) : Expected (PublishResult ⊕ Intent))) = value at path
  cases path with
  | refused => simp at same
  | replays authorized found checked replay =>
      rename_i registration record
      simp only [Prod.mk.injEq, Except.ok.injEq, Sum.inl.injEq] at same
      obtain ⟨rfl, rfl⟩ := same
      exact ⟨rfl, rfl, registration, record, authorized, found, checked, rfl⟩
  | creates moved =>
      unfold publishCreate at same
      split at same
      · simp at same
      · exact absurd same.symm (publishIntent_ne_inl _)
  | replaces => exact absurd same.symm (publishIntent_ne_inl _)

/-! ## Withdrawal and revalidation -/

theorem withdrawLocked_intends {request : WithdrawRequest}
    (committed : withdrawLocked config env request origin = (after, .ok (.inr intent))) :
    ∃ updated, Intends config env origin (.withdraw request) after intent updated := by
  unfold withdrawLocked at committed
  split at committed
  · simp at committed
  rename_i record target
  split at committed
  · simp at committed
  split at committed
  · simp at committed
  split at committed
  · simp at committed
  rename_i advanced lifecycle programmingGeneration prepared
  obtain ⟨allowed, programmed, generation, authorityGeneration, counters, rfl⟩ :=
    prepareDispatch_eq_ok prepared
  obtain rfl := next_beginWithdraw allowed
  simp only at committed
  split at committed
  · simp at committed
  · rename_i acknowledged
    simp only [Prod.mk.injEq, Except.ok.injEq, Sum.inr.injEq] at committed
    obtain ⟨rfl, rfl⟩ := committed
    exact ⟨_, dispatch_intends (fun attempt => record.withdrawing
      { record with generation, authorityGeneration } config.historyLimit env.backend.id request.reason
      .withdrawing programmingGeneration attempt) rfl (fun attempt dispatched => .withdraw ⟨target,
        allowed, dispatched, generation, authorityGeneration, programmingGeneration, counters, programmed,
        rfl⟩) acknowledged⟩

/-- A withdrawal that returns a result at once found nothing to withdraw. -/
theorem withdrawLocked_replays {request : WithdrawRequest} {outcome : WithdrawOutcome}
    (returned : withdrawLocked config env request origin = (after, .ok (.inl outcome))) :
    ∃ record, origin.withdrawTarget request = .ok record ∧ outcome.generation = record.generation ∧
      (outcome.withdrawalInFlight = true → record.lifecycle = .withdrawing) := by
  unfold withdrawLocked at returned
  split at returned
  · simp at returned
  rename_i record target
  refine ⟨record, target, ?_⟩
  split at returned
  · simp only [Prod.mk.injEq, Except.ok.injEq, Sum.inl.injEq] at returned
    rw [← returned.2]
    exact ⟨rfl, nofun⟩
  split at returned
  · rename_i withdrawing
    simp only [Prod.mk.injEq, Except.ok.injEq, Sum.inl.injEq] at returned
    rw [← returned.2]
    exact ⟨rfl, fun _ => withdrawing⟩
  split at returned
  · simp at returned
  · simp only at returned
    split at returned <;> simp at returned

/-- A withdrawal that succeeds found its record. -/
theorem withdrawLocked_target {request : WithdrawRequest} {outcome : WithdrawOutcome ⊕ Intent}
    (succeeded : (withdrawLocked config env request origin).2 = .ok outcome) :
    ∃ record, origin.withdrawTarget request = .ok record := by
  unfold withdrawLocked at succeeded
  split at succeeded
  · cases succeeded
  · exact ⟨_, ‹_›⟩

theorem revalidateLocked_intends {request : MutationRequest}
    (committed : revalidateLocked config env request origin = (after, .ok intent)) :
    ∃ updated, Intends config env origin (.revalidate request) after intent updated := by
  unfold revalidateLocked at committed
  split at committed
  · simp at committed
  rename_i record target
  split at committed
  · simp at committed
  rename_i advanced lifecycle programmingGeneration prepared
  obtain ⟨allowed, programmed, generation, authorityGeneration, counters, rfl⟩ :=
    prepareDispatch_eq_ok prepared
  obtain rfl := next_beginInstall allowed
  simp only at committed
  split at committed
  · simp at committed
  · rename_i acknowledged
    simp only [Prod.mk.injEq, Except.ok.injEq] at committed
    obtain ⟨rfl, rfl⟩ := committed
    exact ⟨_, dispatch_intends (fun attempt => record.revalidating
      { record with generation, authorityGeneration } config.historyLimit origin.epoch env.backend.id
      request .installing programmingGeneration attempt) rfl (fun attempt dispatched => .revalidate
        ⟨target, allowed, dispatched, generation, authorityGeneration, programmingGeneration, counters,
        programmed, rfl⟩) acknowledged⟩

/-! ## Dispatch -/

/-- A completion touches no route but that of the attempt it names. -/
theorem applyCompletion_other (indexed : Indexed state) {io : IoOutcome} {backend : BackendId}
    {result : ProgrammingResult} {id : RouteId}
    (elsewhere : ∀ attempt, state.attempts[result.attempt]? = some attempt → attempt.route ≠ id) :
    (state.applyCompletion config io backend result).1.routes[id]? = state.routes[id]? := by
  have unchanged : ∀ (edit : Edit), (∀ record ∈ edit.upserts, record.id ≠ id) →
      (state.acknowledge config io edit).1.routes[id]? = state.routes[id]? := by
    intro edit others
    rcases acknowledge_cases config io state edit with ⟨files, -, applied⟩ | ⟨files, failure, -, failed⟩
    · rw [applied, applyEdit_routes, lookup_foldl_insert_of_ne others]
    · rw [failed]
  unfold applyCompletion
  split
  · rfl
  rename_i attempt known
  split
  · rfl
  split
  · rfl
  rename_i record found
  have different : record.id ≠ id := indexed.routes _ _ found ▸ elsewhere attempt known
  simp only
  split
  · have resolved := unchanged { attempts := [{ attempt with resolved := true }] } (by simp)
    split <;> rename_i acknowledged <;> rw [acknowledged] at resolved <;> exact resolved
  split
  · exact unchanged _ (by simp)
  · rename_i lifecycle allowed
    have completed := unchanged
      { upserts := [record.completed config.historyLimit backend attempt result lifecycle]
        attempts := [{ attempt with resolved := true }] } (by
          intro other member
          rw [List.mem_singleton.mp member]
          exact different)
    split <;> rename_i acknowledged <;> rw [acknowledged] at completed <;> exact completed

/-- Handing an intent over touches no route but its own. -/
theorem runDispatch_other (answers : env.backend.Answers) (indexed : Indexed after)
    (intends : Intends config env origin action after intent updated) {id : RouteId}
    (different : intent.route ≠ id) :
    (after.runDispatch config env intent).1.routes[id]? = after.routes[id]? := by
  unfold runDispatch
  rw [intends.found]
  simp only
  split
  · rfl
  rename_i immediate
  refine applyCompletion_other indexed fun attempt known => ?_
  rw [answers _ (by simpa using immediate)] at known
  have same : intent.attempt = attempt := Option.some.inj (intends.known.symm.trans known)
  rw [← same, intends.attemptRoute]
  exact different

theorem Indexed.applyCompletion (indexed : Indexed state) (config : RuntimeConfig) (io : IoOutcome)
    (backend : Backend) (result : ProgrammingResult) :
    Indexed (state.applyCompletion config io backend.id result).1 := by
  have moves : Moves config { backend, query := fun _ => ⟨.absent, .stale⟩, io := fun _ => io } state
      (.complete result) state (state.applyCompletion config io backend.id result).1 :=
    applyCompletion_moves result
  exact Run.moves_invariant moves (fun _ _ held move => indexed.move held move) indexed

theorem Indexed.runDispatch (indexed : Indexed state) (config : RuntimeConfig) (env : Env)
    (intent : Intent) : Indexed (state.runDispatch config env intent).1 := by
  unfold Impl.runDispatch
  split
  · exact indexed
  simp only
  split
  · exact indexed
  · exact indexed.applyCompletion config _ env.backend _

theorem reportDispatch_state {α : Type} (report : Impl → RouteRecord → α) :
    (state.reportDispatch config env intent report).1 = (state.runDispatch config env intent).1 := by
  unfold reportDispatch
  simp only
  split
  · rfl
  split <;> rfl

/-- A call that reports after its dispatch reports the record of its intent. -/
theorem reportDispatch_eq_ok {α : Type} {report : Impl → RouteRecord → α} {value : α}
    (reported : (state.reportDispatch config env intent report).2 = .ok value) :
    ∃ record, (state.runDispatch config env intent).1.routes[intent.route]? = some record ∧
      value = report (state.runDispatch config env intent).1 record := by
  unfold reportDispatch at reported
  simp only at reported
  split at reported
  · simp at reported
  split at reported
  · simp at reported
  · rename_i record found
    exact ⟨record, found, (Except.ok.inj reported).symm⟩

/-! ## What a call leaves alone -/

/-- No edit that an action may make installs a record under an identity. -/
def Spares (config : RuntimeConfig) (env : Env) (origin : Impl) (action : Action) (id : RouteId) : Prop :=
  ∀ before edit, Legal config env origin action before edit → ∀ updated ∈ edit.upserts, updated.id ≠ id

variable {id : RouteId} {record : RouteRecord}

theorem Moves.untouched (moves : Moves config env origin action origin after)
    (spares : Spares config env origin action id) (found : origin.routes[id]? = some record) :
    after.routes[id]? = some record := by
  refine Run.moves_invariant (motive := fun current => current.routes[id]? = some record) moves ?_ found
  intro before after held move
  cases move with
  | draw ids => exact held
  | mutate unbroken ids index legal =>
      rename_i edit
      rcases acknowledge_cases config (env.io index) { before with ids := ids } edit with
        ⟨files, -, applied⟩ | ⟨files, failure, -, failed⟩
      · rw [applied, applyEdit_routes, lookup_foldl_insert_of_ne (spares before edit legal)]
        exact held
      · rw [failed]
        exact held
  | administer administers =>
      rw [(perform_administered administers).routes]
      exact found
  | save compacts => exact found
  | advance advances following saved => exact found

theorem Intends.untouched (answers : env.backend.Answers) (indexed : Indexed after)
    (intends : Intends config env origin action after intent updated)
    (spares : Spares config env origin action id) (found : after.routes[id]? = some record) :
    (after.runDispatch config env intent).1.routes[id]? = some record := by
  obtain ⟨before, legal, -⟩ := intends.legal
  have different : intent.route ≠ id := by
    rw [intends.route]
    exact spares before _ legal updated List.mem_cons_self
  rw [runDispatch_other answers indexed intends different]
  exact found

theorem publishRoute_untouched {request : PublishRequest} (answers : env.backend.Answers)
    (indexed : Indexed state) (spares : Spares config env state (.publish request) id)
    (found : state.routes[id]? = some record) :
    (state.publishRoute config env request).1.routes[id]? = some record := by
  have moves : Moves config env state _ state _ := publishLocked_moves indexed request
  have held := moves.untouched spares found
  have after_indexed := moves.indexed indexed
  unfold publishRoute
  split <;> rename_i locked <;> rw [locked] at held after_indexed
  · exact held
  · exact held
  · obtain ⟨updated, intends, -⟩ := publishLocked_intends indexed locked
    rw [reportDispatch_state]
    exact intends.untouched answers after_indexed spares held

theorem withdrawRoute_untouched {request : WithdrawRequest} (answers : env.backend.Answers)
    (indexed : Indexed state) (spares : Spares config env state (.withdraw request) id)
    (found : state.routes[id]? = some record) :
    (state.withdrawRoute config env request).1.routes[id]? = some record := by
  have moves : Moves config env state _ state _ := withdrawLocked_moves request
  have held := moves.untouched spares found
  have after_indexed := moves.indexed indexed
  unfold withdrawRoute
  split <;> rename_i locked <;> rw [locked] at held after_indexed
  · exact held
  · exact held
  · obtain ⟨updated, intends⟩ := withdrawLocked_intends locked
    rw [reportDispatch_state]
    exact intends.untouched answers after_indexed spares held

theorem revalidateRoute_untouched {request : MutationRequest} (answers : env.backend.Answers)
    (indexed : Indexed state) (spares : Spares config env state (.revalidate request) id)
    (found : state.routes[id]? = some record) :
    (state.revalidateRoute config env request).1.routes[id]? = some record := by
  have moves : Moves config env state _ state _ := revalidateLocked_moves request
  have held := moves.untouched spares found
  have after_indexed := moves.indexed indexed
  unfold revalidateRoute
  split <;> rename_i locked <;> rw [locked] at held after_indexed
  · exact held
  · obtain ⟨updated, intends⟩ := revalidateLocked_intends locked
    rw [reportDispatch_state]
    exact intends.untouched answers after_indexed spares held

end Impl

end RouteFabric
