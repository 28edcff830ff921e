import RouteFabric.Runtime.Legal

/-!
# Actions are sequences of moves

The inversion of every operation: what `perform` does is a sequence of moves, each of
them legal. Nothing outside this module unfolds an operation to reason about runs.
-/

namespace RouteFabric

open OrderedMap Relation

/-- The actions that change registrations and fences only. -/
def Action.administers : Action → Bool
  | .register .. | .fencePublisher .. | .fenceWorkerBoot .. | .clearFence .. => true
  | _ => false

namespace Impl

/-- The files that an edit of an action finds: those the action began with, or those of an
edit before it that was written. A write that fails is the last one of its action. -/
inductive Unbroken (config : RuntimeConfig) (env : Env) (origin : Impl) : StoreFiles → Prop
  | first : Unbroken config env origin origin.files
  | second {edit files} (written : origin.persist config (env.io 0) edit = (files, .ok ())) :
      Unbroken config env origin files

/-- One move of an action that began in `origin`. -/
inductive Move (config : RuntimeConfig) (env : Env) (origin : Impl) (action : Action) : Impl → Impl → Prop
  | draw (state : Impl) (ids : SeededIdSource) :
      Move config env origin action state { state with ids := ids }
  | mutate {state} (unbroken : Unbroken config env origin state.files) {edit} (ids : SeededIdSource) (index : Nat)
      (legal : Legal config env origin action state edit) :
      Move config env origin action state
        (acknowledge config (env.io index) { state with ids := ids } edit).1
  | administer (administers : action.administers = true) :
      Move config env origin action origin (origin.perform config env action)
  | save (compacts : action = .compact) :
      Move config env origin action origin
        { origin with files := (origin.compactStore config (env.io 0)).1 }
  | advance {next files} (advances : action = .advanceEpoch) (following : origin.epoch.next = .ok next)
      (saved : compactStore config (env.io 0) { origin with epoch := next } = (files, .ok ())) :
      Move config env origin action origin { origin with epoch := next, files := files }

/-- The moves of one action, in sequence. -/
abbrev Moves (config : RuntimeConfig) (env : Env) (origin : Impl) (action : Action) : Impl → Impl → Prop :=
  ReflTransGen (Move config env origin action)

section Inversion

variable {config : RuntimeConfig} {env : Env} {origin state : Impl} {action : Action}

/-! ## Edits -/

theorem acknowledge_moves {edit : Edit} (config : RuntimeConfig) (env : Env) (index : Nat)
    (legal : Legal config env origin action origin edit) :
    Moves config env origin action origin (origin.acknowledge config (env.io index) edit).1 :=
  .single (.mutate .first origin.ids index legal)

theorem commitIntent_moves {updated : RouteRecord} {attempt : ProgrammingAttemptRecord}
    (unbroken : Unbroken config env origin state.files) (ids : SeededIdSource) (index : Nat)
    (legal : updated.Valid config.limits →
      state.outstandingProgramming < config.limits.maxOutstandingProgramming →
      Legal config env origin action state { upserts := [updated], attempts := [attempt] }) :
    Moves config env origin action state
      (commitIntent config (env.io index) { state with ids := ids } updated attempt).1 := by
  unfold commitIntent
  split
  · exact .single (.draw state ids)
  · rename_i passed
    simp only [bind_eq_ok, exists_unit, ensure_eq_ok, validateRouteRecord_eq_ok] at passed
    exact .single (.mutate unbroken ids index (legal passed.1 passed.2))

/-- The closing steps of an operation that dispatches: an identity is drawn and the record
built for it is committed with its attempt. -/
theorem dispatch_moves (unbroken : Unbroken config env origin state.files)
    (build : ProgrammingAttemptId → RouteRecord) {operation : ProgrammingOperation}
    {drawn : ProgrammingAttemptId × SeededIdSource} (draws : generateId state.ids = drawn)
    (legal : ∀ attempt, Dispatched config state (build attempt.attempt) operation attempt →
      Legal config env origin action state
        { upserts := [build attempt.attempt], attempts := [attempt] }) :
    Moves config env origin action state (commitIntent config (env.io 1) { state with ids := drawn.2 }
      (build drawn.1) ((build drawn.1).attemptFor drawn.1 operation state.epoch)).1 := by
  apply commitIntent_moves unbroken
  intro valid room
  exact legal ((build drawn.1).attemptFor drawn.1 operation state.epoch)
    ⟨valid, room, rfl, by rw [draws]; rfl⟩

theorem moves_of_result {α : Type} {result : Impl × α} {after : Impl} {value : α}
    (moved : Moves config env origin action state result.1) (equal : result = (after, value)) :
    Moves config env origin action state after := by
  rw [equal] at moved
  exact moved

/-! ## Publication -/

/-- The installation that closes a publication, given what makes its edit legal. -/
theorem publishIntent_moves {request : PublishRequest} {prior : Option RouteRecord} {record : RouteRecord}
    (unbroken : Unbroken config env origin state.files)
    (legal : ∀ programmingGeneration updated attempt,
      nextLifecycle record.lifecycle .beginInstall = some .installing →
      record.Programmed programmingGeneration →
      updated = record.installing config.historyLimit state.epoch env.backend.id request
        (prior.map (·.generation)) .installing programmingGeneration attempt.attempt →
      Dispatched config state updated (if prior.isSome then .replace else .install) attempt →
      Legal config env origin action state { upserts := [updated], attempts := [attempt] }) :
    Moves config env origin action state (publishIntent config env request prior record state).1 := by
  unfold publishIntent
  split
  · exact .refl
  · rename_i prepared
    simp only [prepareInstall, bind_eq_ok, exists_unit, applyEvent_eq_ok, pure_eq_ok, Prod.mk.injEq]
      at prepared
    obtain ⟨-, following, allowed, advanced, programmed, rfl, rfl⟩ := prepared
    obtain rfl := next_beginInstall allowed
    have moved := dispatch_moves unbroken (fun attempt => record.installing config.historyLimit
      state.epoch env.backend.id request (prior.map (·.generation)) .installing advanced attempt) rfl
        fun attempt dispatched => legal advanced _ attempt allowed
          (RouteRecord.advanceProgramming_eq_ok programmed) rfl dispatched
    simp only
    split
    · exact moves_of_result moved ‹_›
    · exact moves_of_result moved ‹_›

/-- An edit that is acknowledged leaves the files it was written to. -/
theorem acknowledge_unbroken {edit : Edit} {after : Impl}
    (acknowledged : origin.acknowledge config (env.io 0) edit = (after, .ok ())) :
    Unbroken config env origin after.files := by
  rcases acknowledge_cases config (env.io 0) origin edit with
    ⟨files, written, applied⟩ | ⟨files, failure, -, failed⟩
  · rw [applied, Prod.mk.injEq] at acknowledged
    obtain ⟨rfl, -⟩ := acknowledged
    rw [applyEdit_files]
    exact .second written
  · rw [failed] at acknowledged
    simp at acknowledged

/-- Taking a lineage over changes no identity and leaves its key without a record. -/
theorem takeover_leaves {request : PublishRequest} {record updated : RouteRecord} (indexed : Indexed origin)
    (taken : Takeover config origin request record updated) {io : IoOutcome} {after : Impl}
    (acknowledged : origin.acknowledge config io { upserts := [updated] } = (after, .ok ())) :
    (∀ id, id ∈ after.routes ↔ id ∈ origin.routes) ∧ after.revocations = origin.revocations ∧
      after.attempts = origin.attempts ∧ after.keyIndex[request.key]? = none := by
  obtain ⟨named, present, sameKey, -, -⟩ := indexed.lookupKey taken.found
  obtain ⟨generation, authorityGeneration, -, made⟩ := taken.made
  have sameId : updated.id = record.id := by rw [made]; rfl
  have superseded : updated.lifecycle = .superseded := by rw [made]; rfl
  rcases acknowledge_cases config io origin { upserts := [updated] } with
    ⟨files, -, applied⟩ | ⟨files, failure, -, failed⟩
  · rw [applied, Prod.mk.injEq] at acknowledged
    obtain ⟨rfl, -⟩ := acknowledged
    refine ⟨?_, by rw [applyEdit_revocations]; rfl, by rw [applyEdit_attempts]; rfl, ?_⟩
    · intro id
      rw [applyEdit_routes, mem_foldl_insert]
      constructor
      · rintro (⟨item, member, rfl⟩ | kept)
        · rw [List.mem_singleton.mp member, sameId]
          exact (mem_iff_lookup _ _).mpr ⟨record, present⟩
        · exact kept
      · exact .inr
    · have written : Indexed { origin with files := files } := indexed.congr rfl rfl rfl rfl
      rw [applyEdit_keyIndex, List.foldl_cons, List.foldl_nil, written.lookup_commit,
        if_neg (by simp [superseded]), sameId, if_pos named]
  · rw [failed] at acknowledged
    simp at acknowledged

/-- A lookup that leads to no record leads to the empty record, whose identity is absent. -/
theorem Indexed.lookupKey_getD {state : Impl} (indexed : Indexed state) (key : RouteKey) :
    (((state.lookupKey key).getD {}).id.isValid = false ↔ state.lookupKey key = none) := by
  cases found : state.lookupKey key with
  | none => simp; decide
  | some record =>
      obtain ⟨-, -, -, -, valid⟩ := indexed.lookupKey found
      simp [valid]

/-- The paths through a publication. -/
inductive PublishPath (config : RuntimeConfig) (env : Env) (origin : Impl) (request : PublishRequest) :
    Impl × Expected (PublishResult ⊕ Intent) → Prop
  | refused {after failure} (moved : Moves config env origin (.publish request) origin after) :
      PublishPath config env origin request (after, .error failure)
  | replays {registration record} (authorized : origin.publishAuthority request = .ok registration)
      (found : origin.lookupKey request.key = some record)
      (checked : checkReplacement registration request record = .ok ())
      (replay : isReplay request record = true) :
      PublishPath config env origin request
        (origin, .ok (.inl { origin.publishResult env record with idempotent := true }))
  | creates {before} (moved : Moves config env origin (.publish request) origin before)
      (unbroken : Unbroken config env origin before.files)
      (authority : ∃ registration, origin.publishAuthority request = .ok registration)
      (reaches : origin.reachesCreation config request = true) (frame : Frame origin before)
      (present : ∀ id, id ∈ before.routes ↔ id ∈ origin.routes)
      (revocations : before.revocations = origin.revocations)
      (attempts : before.attempts = origin.attempts)
      (vacant : before.keyIndex[request.key]? = none) :
      PublishPath config env origin request (publishCreate config env request before)
  | replaces {registration record generation authorityGeneration}
      (authorized : origin.publishAuthority request = .ok registration)
      (found : origin.lookupKey request.key = some record)
      (unrevoked : origin.revocations[record.id]? = none) (live : record.blocksRepublication = false)
      (checked : checkReplacement registration request record = .ok ())
      (counters : record.Advanced generation authorityGeneration) :
      PublishPath config env origin request (publishIntent config env request (some record)
        { record with generation, authorityGeneration } origin)

theorem publishLocked_path (indexed : Indexed origin) (request : PublishRequest) :
    PublishPath config env origin request (publishLocked config env request origin) := by
  unfold publishLocked
  split
  · exact .refused .refl
  rename_i registration authorized
  simp only
  by_cases vacant : ((origin.lookupKey request.key).getD {}).id.isValid = false
  · rw [if_pos vacant]
    have missing := (indexed.lookupKey_getD request.key).mp vacant
    have reaches : origin.reachesCreation config request = true := by
      simp [reachesCreation, authorized, missing, Except.isOk, Except.toBool]
    exact .creates .refl .first ⟨registration, authorized⟩ reaches (.refl origin) (fun _ => Iff.rfl) rfl rfl
      (indexed.lookupKey_eq_none.mp missing)
  rw [if_neg vacant]
  obtain ⟨record, found⟩ := Option.ne_none_iff_exists'.mp
    fun missing => vacant ((indexed.lookupKey_getD request.key).mpr missing)
  rw [found, Option.getD_some]
  split
  · exact .refused .refl
  rename_i unrevoked
  rw [Bool.not_eq_true, Option.isSome_eq_false_iff, Option.isNone_iff_eq_none] at unrevoked
  split
  · rename_i blocked
    split
    · exact .refused .refl
    rename_i superseded took
    have reaches : origin.reachesCreation config request = true := by
      simp [reachesCreation, takesOver, authorized, found, unrevoked, blocked, took, Except.isOk,
        Except.toBool]
    simp only [takeover, bind_eq_ok, exists_unit, ensure_eq_ok, pure_eq_ok] at took
    obtain ⟨⟨administrative, minted⟩, distinct, advanced, advances, rfl⟩ := took
    obtain ⟨generation, authorityGeneration, counters, rfl⟩ := RouteRecord.advance_eq_ok advances
    have taken : Takeover config origin request record _ :=
      ⟨⟨registration, authorized, administrative⟩, found, unrevoked, blocked, minted, distinct,
        generation, authorityGeneration, counters, rfl⟩
    have moved := acknowledge_moves config env 0 (.takeover taken)
    have frame : Frame origin _ := acknowledge_frame config (env.io 0)
      { upserts := [record.superseded { record with generation, authorityGeneration }
        config.historyLimit origin.epoch request] }
    split
    · exact .refused (moves_of_result moved ‹_›)
    · rename_i after acknowledged
      rw [acknowledged] at moved frame
      obtain ⟨present, revocations, attempts, vacated⟩ := takeover_leaves indexed taken acknowledged
      exact .creates moved (acknowledge_unbroken acknowledged) ⟨registration, authorized⟩ reaches frame present revocations attempts vacated
  · rename_i live
    unfold publishReplace
    split
    · exact .refused .refl
    rename_i checked
    split
    · rename_i replay
      exact .replays authorized found checked replay
    split
    · exact .refused .refl
    rename_i advanced advances
    obtain ⟨generation, authorityGeneration, counters, rfl⟩ := RouteRecord.advance_eq_ok advances
    exact .replaces authorized found unrevoked (by simpa using live) checked counters

/-- What makes the edit of a creation legal. -/
theorem creates_legal {request : PublishRequest}
    (authority : ∃ registration, origin.publishAuthority request = .ok registration)
    (reaches : origin.reachesCreation config request = true) (frame : Frame origin state)
    (present : ∀ id, id ∈ state.routes ↔ id ∈ origin.routes)
    (revocations : state.revocations = origin.revocations)
    (attempts : state.attempts = origin.attempts)
    (vacant : state.keyIndex[request.key]? = none) {record : RouteRecord}
    (created : state.createRecord config request = .ok record)
    (programmingGeneration : ProgrammingGeneration) (updated : RouteRecord)
    (attempt : ProgrammingAttemptRecord) (programmed : record.Programmed programmingGeneration)
    (made : updated = record.installing config.historyLimit state.epoch env.backend.id request none
      .installing programmingGeneration attempt.attempt)
    (dispatched : Dispatched config state updated .install attempt) :
    Legal config env origin (.publish request) state { upserts := [updated], attempts := [attempt] } := by
  simp only [createRecord, bind_eq_ok, exists_unit, ensure_eq_ok, pure_eq_ok] at created
  obtain ⟨capacity, -, lifecycle, declaredAs, rfl⟩ := created
  obtain rfl : lifecycle = .ready := by
    have ready : declaredLifecycle = .ok .ready := by decide
    rw [ready, Except.ok.injEq] at declaredAs
    exact declaredAs.symm
  exact .create ⟨authority, reaches, frame, present, revocations, attempts, vacant, capacity,
    dispatched, programmingGeneration, programmed, made⟩

/-- What makes the edit of a replacement legal. -/
theorem replaces_legal {request : PublishRequest} {registration : PublisherRegistration}
    {record updated : RouteRecord} {generation : RouteGeneration}
    {authorityGeneration : RouteAuthorityGeneration} {attempt : ProgrammingAttemptRecord}
    {programmingGeneration : ProgrammingGeneration}
    (authorized : origin.publishAuthority request = .ok registration)
    (found : origin.lookupKey request.key = some record)
    (unrevoked : origin.revocations[record.id]? = none) (live : record.blocksRepublication = false)
    (checked : checkReplacement registration request record = .ok ())
    (counters : record.Advanced generation authorityGeneration)
    (allowed : nextLifecycle record.lifecycle .beginInstall = some .installing)
    (programmed : record.Programmed programmingGeneration)
    (made : updated = RouteRecord.installing { record with generation, authorityGeneration }
      config.historyLimit origin.epoch env.backend.id request (some record.generation) .installing
      programmingGeneration attempt.attempt)
    (dispatched : Dispatched config origin updated .replace attempt) :
    Legal config env origin (.publish request) origin { upserts := [updated], attempts := [attempt] } :=
  .replace ⟨⟨registration, authorized, checked⟩, found, unrevoked, live, allowed, dispatched, generation,
    authorityGeneration, programmingGeneration, counters, programmed, made⟩

theorem publishLocked_moves (indexed : Indexed origin) (request : PublishRequest) :
    Moves config env origin (.publish request) origin (publishLocked config env request origin).1 := by
  have path : PublishPath config env origin request _ := publishLocked_path indexed request
  generalize publishLocked config env request origin = result at path
  cases path with
  | refused moved => exact moved
  | replays => exact .refl
  | creates moved unbroken authority reaches frame present revocations attempts vacant =>
      refine moved.trans ?_
      unfold publishCreate
      split
      · exact .refl
      · rename_i record created
        exact publishIntent_moves unbroken fun programmingGeneration updated attempt _ programmed made dispatched =>
          creates_legal authority reaches frame present revocations attempts vacant created
            programmingGeneration updated attempt programmed made dispatched
  | replaces authorized found unrevoked live checked counters =>
      exact publishIntent_moves .first fun programmingGeneration updated attempt allowed programmed made dispatched =>
        replaces_legal authorized found unrevoked live checked counters allowed
          ⟨programmed.next, programmed.storable⟩ made dispatched

/-! ## Mutations by identity -/

theorem prepareDispatch_eq_ok {record advanced : RouteRecord} {event : RouteEvent}
    {lifecycle : RouteLifecycle} {programmingGeneration : ProgrammingGeneration}
    (prepared : prepareDispatch record event = .ok (advanced, lifecycle, programmingGeneration)) :
    nextLifecycle record.lifecycle event = some lifecycle ∧ record.Programmed programmingGeneration ∧
      ∃ generation authorityGeneration, record.Advanced generation authorityGeneration ∧
        advanced = { record with generation, authorityGeneration } := by
  simp only [prepareDispatch, bind_eq_ok, applyEvent_eq_ok, pure_eq_ok, Prod.mk.injEq] at prepared
  obtain ⟨_, advances, _, allowed, _, programmed, rfl, rfl, rfl⟩ := prepared
  obtain ⟨generation, authorityGeneration, counters, rfl⟩ := RouteRecord.advance_eq_ok advances
  exact ⟨allowed, RouteRecord.advanceProgramming_eq_ok programmed, generation, authorityGeneration, counters, rfl⟩

theorem withdrawLocked_moves (request : WithdrawRequest) :
    Moves config env origin (.withdraw request) origin (withdrawLocked config env request origin).1 := by
  unfold withdrawLocked
  split
  · exact .refl
  rename_i record target
  split
  · exact .refl
  split
  · exact .refl
  split
  · exact .refl
  rename_i advanced lifecycle programmingGeneration prepared
  obtain ⟨allowed, programmed, generation, authorityGeneration, counters, rfl⟩ :=
    prepareDispatch_eq_ok prepared
  obtain rfl := next_beginWithdraw allowed
  have moved : Moves config env origin (.withdraw request) origin _ :=
    dispatch_moves .first (fun attempt => record.withdrawing { record with generation, authorityGeneration }
      config.historyLimit env.backend.id request.reason .withdrawing programmingGeneration attempt) rfl
      fun attempt dispatched => .withdraw ⟨target, allowed, dispatched, generation, authorityGeneration,
        programmingGeneration, counters, programmed, rfl⟩
  simp only
  split
  · exact moves_of_result moved ‹_›
  · exact moves_of_result moved ‹_›

theorem revalidateLocked_moves (request : MutationRequest) :
    Moves config env origin (.revalidate request) origin (revalidateLocked config env request origin).1 := by
  unfold revalidateLocked
  split
  · exact .refl
  rename_i record target
  split
  · exact .refl
  rename_i advanced lifecycle programmingGeneration prepared
  obtain ⟨allowed, programmed, generation, authorityGeneration, counters, rfl⟩ :=
    prepareDispatch_eq_ok prepared
  obtain rfl := next_beginInstall allowed
  have moved : Moves config env origin (.revalidate request) origin _ :=
    dispatch_moves .first (fun attempt => record.revalidating { record with generation, authorityGeneration }
      config.historyLimit origin.epoch env.backend.id request .installing programmingGeneration attempt)
      rfl fun attempt dispatched => .revalidate ⟨target, allowed, dispatched, generation,
        authorityGeneration, programmingGeneration, counters, programmed, rfl⟩
  simp only
  split
  · exact moves_of_result moved ‹_›
  · exact moves_of_result moved ‹_›

/-- The closing record of a retirement or a revocation, which ends in the retired state. -/
theorem close_eq_ok {request : MutationRequest} {record updated : RouteRecord} {cause : RetirementCause}
    {event : RouteEvent} (retires : ∀ source target, nextLifecycle source event = some target →
      target = .retired)
    (closed : state.close config request record cause event = .ok updated) :
    Closing config state request record updated cause event := by
  simp only [close, bind_eq_ok, exists_unit, applyEvent_eq_ok, pure_eq_ok,
    validateRouteRecord_eq_ok] at closed
  obtain ⟨advanced, advances, lifecycle, allowed, valid, rfl⟩ := closed
  obtain ⟨generation, authorityGeneration, counters, rfl⟩ := RouteRecord.advance_eq_ok advances
  obtain rfl := retires _ _ allowed
  exact ⟨allowed, valid, generation, authorityGeneration, counters, rfl⟩

theorem retireRoute_moves (request : MutationRequest) :
    Moves config env origin (.retire request) origin (retireRoute config env request origin).1 := by
  unfold retireRoute
  split
  · exact .refl
  rename_i record target
  split
  · exact .refl
  split
  · exact .refl
  rename_i updated closed
  have moved := acknowledge_moves config env 0
    (.retire ⟨target, close_eq_ok (fun _ _ => next_retire) closed⟩)
  split
  · exact moves_of_result moved ‹_›
  · exact moves_of_result moved ‹_›

theorem revokeRoute_moves (request : MutationRequest) :
    Moves config env origin (.revoke request) origin (revokeRoute config env request origin).1 := by
  unfold revokeRoute
  split
  · exact .refl
  rename_i record target
  split
  · exact .refl
  rename_i unrevoked
  rw [Bool.not_eq_true, Option.isSome_eq_false_iff, Option.isNone_iff_eq_none] at unrevoked
  split
  · exact .refl
  rename_i updated closed
  have moved := acknowledge_moves config env 0
    (.revoke ⟨target, unrevoked, close_eq_ok (fun _ _ => next_revoke) closed⟩)
  split
  · exact moves_of_result moved ‹_›
  · exact moves_of_result moved ‹_›

/-! ## Completions, paths and observations -/

theorem applyCompletion_moves (result : ProgrammingResult) :
    Moves config env origin (.complete result) origin
      (applyCompletion config (env.io 0) env.backend.id result origin).1 := by
  unfold applyCompletion
  split
  · exact .refl
  rename_i attempt known
  split
  · exact .refl
  rename_i pending
  split
  · exact .refl
  rename_i record found
  have awaited : origin.Awaited result attempt record := ⟨known, by simpa using pending, found⟩
  simp only
  split
  · rename_i passed
    have resolved := acknowledge_moves config env 0 (.resolve awaited (.inl passed))
    split
    · exact moves_of_result resolved ‹_›
    · exact moves_of_result resolved ‹_›
  rename_i current
  split
  · rename_i refused
    exact acknowledge_moves config env 0 (.resolve awaited (.inr refused))
  rename_i lifecycle allowed
  have moved := acknowledge_moves config env 0
    (.complete ⟨awaited, by simpa using current, lifecycle, allowed, rfl⟩)
  split
  · exact moves_of_result moved ‹_›
  · exact moves_of_result moved ‹_›

/-- A dependent that has to be invalidated, and the route it is. -/
theorem invalidateOne_eq_ok (indexed : Indexed state) {generation : PathAuthorityGeneration}
    {authorization : PathAuthorization} {id : RouteId} {updated : RouteRecord}
    (built : state.invalidateOne config generation authorization id = .ok (some updated)) :
    updated.id = id ∧
      ∃ record, Invalidation config state generation authorization record updated := by
  unfold invalidateOne at built
  split at built
  · simp at built
  rename_i record found
  obtain rfl := indexed.routes id record found
  split at built
  · simp at built
  rename_i unrevoked
  rw [Bool.not_eq_true, Option.isSome_eq_false_iff, Option.isNone_iff_eq_none] at unrevoked
  split at built
  · simp at built
  rename_i asserts
  split at built
  · simp at built
  rename_i changed
  simp only [bind_eq_ok, applyEvent_eq_ok, pure_eq_ok, Option.some.injEq] at built
  obtain ⟨advanced, advances, lifecycle, allowed, rfl⟩ := built
  obtain ⟨next, nextAuthority, counters, rfl⟩ := RouteRecord.advance_eq_ok advances
  have asserting : assertsInstallability record.lifecycle = true := by simpa using asserts
  obtain rfl : lifecycle = .revalidationRequired := by
    have rows : ∀ row ∈ transitionTable, row.event = .requireRevalidation →
        assertsInstallability row.source = true → row.target = .revalidationRequired := by decide
    exact rows _ (next_mem allowed) rfl asserting
  exact ⟨rfl, record, found, unrevoked, asserting, changed, next, nextAuthority, counters, rfl⟩

/-- The invalidated records of distinct dependents are distinct. -/
theorem invalidatedRecords_eq_ok (indexed : Indexed state) {generation : PathAuthorityGeneration}
    {authorization : PathAuthorization} {ids : List RouteId} {updated : List RouteRecord}
    (built : state.invalidatedRecords config generation authorization ids = .ok updated) :
    (updated.map (·.id)).Sublist ids ∧ ∀ after ∈ updated, ∃ record,
      Invalidation config state generation authorization record after := by
  induction ids generalizing updated with
  | nil =>
      simp only [invalidatedRecords, Except.ok.injEq] at built
      simp [← built]
  | cons id rest ih =>
      simp only [invalidatedRecords, bind_eq_ok, pure_eq_ok] at built
      obtain ⟨first, one, others, more, rfl⟩ := built
      obtain ⟨sublist, each⟩ := ih more
      cases first with
      | none => exact ⟨sublist.cons _, each⟩
      | some record =>
          obtain ⟨same, invalidated⟩ := invalidateOne_eq_ok indexed one
          refine ⟨?_, ?_⟩
          · simpa [same] using sublist
          · intro after member
            rcases List.mem_cons.mp member with rfl | inRest
            · exact invalidated
            · exact each after inRest

theorem invalidatePath_moves (indexed : Indexed origin) (path : PathId)
    (generation : PathAuthorityGeneration) (authorization : PathAuthorization) :
    Moves config env origin (.invalidate path generation authorization) origin
      (invalidatePath config (env.io 0) path generation authorization origin).1 := by
  unfold invalidatePath
  split
  · exact .refl
  rename_i dependents named
  split
  · exact .refl
  rename_i updated built
  split
  · exact .refl
  obtain ⟨sublist, invalidated⟩ := invalidatedRecords_eq_ok indexed built
  exact acknowledge_moves config env 0 (.invalidate (sublist.nodup (nodup_toList dependents)) invalidated)

theorem reconcileLocked_moves (route : RouteId) (query : BackendQueryResult) :
    Moves config env origin (.reconcile route query) origin
      (reconcileLocked config env route query origin).1 := by
  unfold reconcileLocked
  split
  · exact .refl
  rename_i record found
  simp only
  split
  · exact .refl
  rename_i valid
  rw [validateRouteRecord_eq_ok] at valid
  have moved := acknowledge_moves config env 0 (.observe ⟨found, valid, rfl⟩)
  split
  · exact moves_of_result moved ‹_›
  · exact moves_of_result moved ‹_›

/-! ## Epochs and snapshots -/

/-- A snapshot that is not saved leaves the files alone. -/
theorem compactStore_error {io : IoOutcome} {files : StoreFiles} {failure : Error}
    (failed : state.compactStore config io = (files, .error failure)) : files = state.files := by
  unfold compactStore at failed
  split at failed
  · simp at failed
  · exact saveSnapshot_error failed

theorem compact_moves :
    Moves config env origin .compact origin (origin.compact config env).1 := by
  unfold compact
  split
  · exact .refl
  · exact .single (.save rfl)

theorem advanceEpoch_moves :
    Moves config env origin .advanceEpoch origin (origin.advanceEpoch config env).1 := by
  unfold advanceEpoch
  split
  · exact .refl
  split
  · exact .refl
  rename_i next following
  split
  · rename_i files failure failed
    obtain rfl := compactStore_error failed
    exact .refl
  · rename_i files saved
    exact .single (.advance rfl following saved)

/-! ## Every action -/

theorem perform_moves (indexed : Indexed origin) :
    Moves config env origin action origin (origin.perform config env action) := by
  cases action with
  | register | fencePublisher | fenceWorkerBoot | clearFence => exact .single (.administer rfl)
  | advanceEpoch => exact advanceEpoch_moves
  | compact => exact compact_moves
  | publish request => exact publishLocked_moves indexed request
  | withdraw request => exact withdrawLocked_moves request
  | revalidate request => exact revalidateLocked_moves request
  | retire request => exact retireRoute_moves request
  | revoke request => exact revokeRoute_moves request
  | complete result => exact applyCompletion_moves result
  | invalidate path generation authorization =>
      exact invalidatePath_moves indexed path generation authorization
  | reconcile route query => exact reconcileLocked_moves route query
  | restart seed => exact .refl

end Inversion

end Impl

end RouteFabric
