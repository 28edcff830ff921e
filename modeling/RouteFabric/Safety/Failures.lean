import RouteFabric.Runtime.Calls
import RouteFabric.Safety.Validity

/-!
# Failed calls

A call that returns an error leaves memory as it found it: only the identity source and
the files can differ (`Unmoved`). Every operation writes before it commits and commits in
one step, and the report after a commit cannot fail, because a route once held is held
for good and every attempt that is outstanding belongs to one (`Anchored`).

A publication is the exception. One that takes a retired lineage over writes and commits
the superseded record first, and may then refuse the lineage that was to replace it.
-/

namespace RouteFabric

open ByteReader OrderedMap Run

/-- The calls on a route, on a path or on the epoch, other than publications. -/
inductive Upkeep where
  | withdraw (request : WithdrawRequest)
  | revalidate (request : MutationRequest)
  | retire (request : MutationRequest)
  | revoke (request : MutationRequest)
  | pathChanged (path : PathId) (generation : PathAuthorityGeneration) (authorization : PathAuthorization)
  | complete (completion : Impl.ProgrammingCompletion)
  | reconcile (route : RouteId)
  | advanceEpoch

/-- A file system on which a write that fails leaves nothing behind. -/
def IoOutcome.FailsWhole (io : IoOutcome) : Prop :=
  ∀ written why, io.append = some (written, why) → written = 0

/-- What a store holds: an empty journal is as good as none. -/
def StoreFiles.held (files : StoreFiles) : Option Bytes × Bytes :=
  (files.snapshot, files.journal.getD [])

namespace Scenario

/-- A coordinator with room for one outstanding attempt. -/
def cramped : RuntimeConfig := { config with limits := { maxOutstandingProgramming := 1 } }

def withdrawing : Upkeep :=
  .withdraw { publisher := operator, workerBoot := boot, attempt := ⟨1⟩, route := ⟨1⟩ }

/-- One published route that was retired. -/
def retired : List Call := published ++ [⟨env, .retire (mutation 1)⟩]

/-- The path authority rejects every path. -/
def rejecting : Env := { env with query := fun _ => ⟨.one, .rejected⟩ }

end Scenario

namespace Impl

variable {config : RuntimeConfig} {env : Env} {seed : Word} {origin state after : Impl} {action : Action}
  {edit : Edit} {failure : Error} {intent : Intent} {updated : RouteRecord}

/-- What a call did to the state, and whether it succeeded. -/
def outcome {α : Type} (result : Impl × Expected α) : Impl × Status :=
  (result.1, result.2.map fun _ => ())

/-- A whole call. -/
def attend (config : RuntimeConfig) (env : Env) (state : Impl) : Upkeep → Impl × Status
  | .withdraw request => outcome (state.withdrawRoute config env request)
  | .revalidate request => outcome (state.revalidateRoute config env request)
  | .retire request => outcome (state.retireRoute config env request)
  | .revoke request => outcome (state.revokeRoute config env request)
  | .pathChanged path generation authorization =>
      state.onPathAuthorityChanged config env path generation authorization
  | .complete completion => outcome (state.applyProgrammingCompletion config env completion)
  | .reconcile route => outcome (state.reconcileRoute config env route)
  | .advanceEpoch => outcome (state.advanceEpoch config env)

theorem outcome_error {α : Type} {result : Impl × Expected α} :
    (outcome result).2 = .error failure ↔ result.2 = .error failure := by
  obtain ⟨after, value⟩ := result
  cases value with
  | error other => simp [outcome, Except.map]
  | ok value => simp [outcome, Except.map]

/-! ## Outstanding attempts have routes -/

/-- Every attempt that is outstanding belongs to a route held. -/
def Anchored (state : Impl) : Prop :=
  ∀ (id : ProgrammingAttemptId) attempt, state.attempts[id]? = some attempt →
    attempt.resolved = false → attempt.route ∈ state.routes

theorem Legal.anchors (legal : Legal config env origin action state edit)
    {attempt : ProgrammingAttemptRecord} (member : attempt ∈ edit.attempts)
    (outstanding : attempt.resolved = false) : ∃ updated ∈ edit.upserts, updated.id = attempt.route := by
  have waits : ∀ {updated : RouteRecord} {operation : ProgrammingOperation} {before : Impl},
      Dispatched config before updated operation attempt → updated.id = attempt.route := by
    intro updated operation before dispatched
    rw [dispatched.waits]
    rfl
  cases legal with
  | takeover | retire | revoke | invalidate | observe => cases member
  | create created =>
      obtain rfl := List.mem_singleton.mp member
      exact ⟨_, List.mem_cons_self, waits created.dispatched⟩
  | replace replaced =>
      obtain rfl := List.mem_singleton.mp member
      exact ⟨_, List.mem_cons_self, waits replaced.dispatched⟩
  | withdraw withdrawn =>
      obtain rfl := List.mem_singleton.mp member
      exact ⟨_, List.mem_cons_self, waits withdrawn.dispatched⟩
  | revalidate revalidated =>
      obtain rfl := List.mem_singleton.mp member
      exact ⟨_, List.mem_cons_self, waits revalidated.dispatched⟩
  | resolve awaited | complete completed =>
      obtain rfl := List.mem_singleton.mp member
      cases outstanding

theorem Anchored.applyEdit (anchored : Anchored state)
    (anchors : ∀ attempt ∈ edit.attempts, attempt.resolved = false →
      ∃ updated ∈ edit.upserts, updated.id = attempt.route) : Anchored (state.applyEdit edit) := by
  intro id attempt found outstanding
  rw [applyEdit_routes, mem_foldl_insert]
  rw [applyEdit_attempts] at found
  rcases lookup_foldl_insert_some found with ⟨member, -⟩ | ⟨-, kept⟩
  · exact .inl (anchors attempt member outstanding)
  · exact .inr (anchored id attempt kept outstanding)

theorem Anchored.move {before : Impl} (anchored : Anchored before)
    (move : Move config env origin action before after) : Anchored after := by
  cases move with
  | draw ids => exact anchored
  | mutate unbroken ids index legal =>
      rename_i edit
      rcases acknowledge_cases config (env.io index) { before with ids := ids } edit with
        ⟨files, -, applied⟩ | ⟨files, failure, -, failed⟩
      · rw [applied]
        have written : Anchored { before with ids := ids, files := files } := anchored
        exact written.applyEdit fun attempt member => legal.anchors member
      · rw [failed]
        exact anchored
  | administer administers =>
      have administered : Administered origin (origin.perform config env action) :=
        perform_administered administers
      intro id attempt found
      have attempts : (origin.perform config env action).attempts = origin.attempts :=
        congrArg Contents.attempts administered.contents
      rw [attempts] at found
      rw [administered.routes]
      exact anchored id attempt found
  | save compacts => exact anchored
  | advance advances following saved => exact anchored

theorem Moves.anchored (moves : Moves config env origin action origin after)
    (anchored : Anchored origin) : Anchored after :=
  moves_invariant moves (fun _ _ held move => held.move move) anchored

theorem run_anchored (calls : List Call) : Anchored (run (step config) (initial seed) calls) := by
  have always : Along (step config) (fun _ _ => True) (initial seed) calls :=
    along_of_forall (fun _ _ => trivial) _ _
  refine (run_preserves always (by simp [Anchored, initial, fresh]) ?_).2
  intro state call indexed _ anchored
  refine step_preserves indexed anchored (fun _ _ _ _ _ held move => held.move move) ?_
  intro restartSeed after _ restarts
  cases restarts with
  | refused => exact anchored
  | unsaved loads failed => exact anchored
  | opened checked loads saved =>
      intro id attempt found outstanding
      have resolved := (loads.recovered restartSeed).settled id attempt found
      rw [outstanding] at resolved
      cases resolved

/-! ## Reports after a dispatch -/

theorem applyCompletion_routeMissing {io : IoOutcome} {backend : BackendId} {result : ProgrammingResult}
    (anchored : Anchored state) : (state.applyCompletion config io backend result).2 ≠ .routeMissing := by
  unfold applyCompletion
  split
  · simp
  rename_i attempt known
  split
  · simp
  rename_i outstanding
  split
  · rename_i missing
    have held := anchored _ attempt known (by simpa using outstanding)
    obtain ⟨record, found⟩ := (mem_iff_lookup _ _).mp held
    rw [missing] at found
    cases found
  · simp only
    split
    · split <;> simp
    split
    · simp
    · split <;> simp

/-- No move drops a route. -/
theorem Move.held {before : Impl} (move : Move config env origin action before after) {id : RouteId}
    (held : id ∈ before.routes) : id ∈ after.routes := by
  cases move with
  | draw ids => exact held
  | mutate unbroken ids index legal =>
      rename_i edit
      rcases acknowledge_cases config (env.io index) { before with ids := ids } edit with
        ⟨files, -, applied⟩ | ⟨files, failure, -, failed⟩
      · rw [applied, applyEdit_routes, mem_foldl_insert]
        exact .inr held
      · rw [failed]
        exact held
  | administer administers =>
      rw [(perform_administered administers).routes]
      exact held
  | save compacts => exact held
  | advance advances following saved => exact held

theorem applyCompletion_held {io : IoOutcome} {backend : Backend} {result : ProgrammingResult}
    {id : RouteId} (held : id ∈ state.routes) :
    id ∈ (state.applyCompletion config io backend.id result).1.routes := by
  have moves : Moves config { backend, query := fun _ => ⟨.absent, .stale⟩, io := fun _ => io } state
      (.complete result) state (state.applyCompletion config io backend.id result).1 :=
    applyCompletion_moves result
  exact moves_invariant (motive := fun current => id ∈ current.routes) moves
    (fun _ _ held move => move.held held) held

/-- What a call reports after its dispatch is never an error. -/
theorem reportDispatch_ne_error {α : Type} {report : Impl → RouteRecord → α} (anchored : Anchored state)
    (held : intent.route ∈ state.routes) :
    (state.reportDispatch config env intent report).2 ≠ .error failure := by
  obtain ⟨record, found⟩ := (mem_iff_lookup _ _).mp held
  have dispatched : (state.runDispatch config env intent).2 ≠ .routeMissing ∧
      intent.route ∈ (state.runDispatch config env intent).1.routes := by
    unfold runDispatch
    rw [found]
    simp only
    split
    · exact ⟨by simp, held⟩
    · exact ⟨applyCompletion_routeMissing anchored, applyCompletion_held held⟩
  obtain ⟨last, stillFound⟩ := (mem_iff_lookup _ _).mp dispatched.2
  unfold reportDispatch
  simp only
  rw [if_neg dispatched.1, stillFound]
  simp

theorem Intends.held (intends : Intends config env origin action after intent updated) :
    intent.route ∈ after.routes :=
  (mem_iff_lookup _ _).mpr ⟨updated, intends.found⟩

/-! ## Memory after an error -/

/-- Nothing in memory but the identity source has changed. -/
def Unmoved (before after : Impl) : Prop :=
  ∃ ids files, after = { before with ids := ids, files := files }

theorem Unmoved.refl (state : Impl) : Unmoved state state := ⟨_, _, rfl⟩

theorem Unmoved.trans {first second third : Impl} (before : Unmoved first second)
    (after : Unmoved second third) : Unmoved first third := by
  obtain ⟨_, _, rfl⟩ := before
  obtain ⟨ids, files, rfl⟩ := after
  exact ⟨ids, files, rfl⟩

theorem acknowledge_unmoved {io : IoOutcome}
    (failed : state.acknowledge config io edit = (after, .error failure)) : Unmoved state after := by
  rcases acknowledge_cases config io state edit with ⟨files, -, applied⟩ | ⟨files, other, -, refused⟩
  · simp [applied] at failed
  · rw [refused, Prod.mk.injEq] at failed
    exact ⟨_, files, failed.1.symm⟩

theorem commitIntent_unmoved {io : IoOutcome} {attempt : ProgrammingAttemptRecord}
    (failed : commitIntent config io state updated attempt = (after, .error failure)) :
    Unmoved state after := by
  unfold commitIntent at failed
  split at failed
  · rw [← (Prod.mk.inj failed).1]
    exact .refl state
  · exact acknowledge_unmoved failed

theorem withdrawLocked_unmoved {request : WithdrawRequest}
    (failed : withdrawLocked config env request state = (after, .error failure)) :
    Unmoved state after := by
  unfold withdrawLocked at failed
  split at failed
  · exact (Prod.mk.inj failed).1 ▸ .refl state
  split at failed
  · simp at failed
  split at failed
  · simp at failed
  split at failed
  · exact (Prod.mk.inj failed).1 ▸ .refl state
  simp only at failed
  split at failed
  · rename_i refused
    rw [← (Prod.mk.inj failed).1]
    exact Unmoved.trans ⟨_, _, rfl⟩ (commitIntent_unmoved refused)
  · simp at failed

theorem revalidateLocked_unmoved {request : MutationRequest}
    (failed : revalidateLocked config env request state = (after, .error failure)) :
    Unmoved state after := by
  unfold revalidateLocked at failed
  split at failed
  · exact (Prod.mk.inj failed).1 ▸ .refl state
  split at failed
  · exact (Prod.mk.inj failed).1 ▸ .refl state
  simp only at failed
  split at failed
  · rename_i refused
    rw [← (Prod.mk.inj failed).1]
    exact Unmoved.trans ⟨_, _, rfl⟩ (commitIntent_unmoved refused)
  · simp at failed

theorem withdrawRoute_unmoved (anchored : Anchored state) {request : WithdrawRequest}
    (failed : (state.withdrawRoute config env request).2 = .error failure) :
    Unmoved state (state.withdrawRoute config env request).1 := by
  have moves : Moves config env state _ state _ := withdrawLocked_moves request
  have settled := moves.anchored anchored
  revert failed
  unfold withdrawRoute
  split <;> rename_i locked <;> rw [locked] at settled
  · exact fun _ => withdrawLocked_unmoved locked
  · exact nofun
  · obtain ⟨updated, intends⟩ := withdrawLocked_intends locked
    exact fun failed => absurd failed (reportDispatch_ne_error settled intends.held)

theorem revalidateRoute_unmoved (anchored : Anchored state) {request : MutationRequest}
    (failed : (state.revalidateRoute config env request).2 = .error failure) :
    Unmoved state (state.revalidateRoute config env request).1 := by
  have moves : Moves config env state _ state _ := revalidateLocked_moves request
  have settled := moves.anchored anchored
  revert failed
  unfold revalidateRoute
  split <;> rename_i locked <;> rw [locked] at settled
  · exact fun _ => revalidateLocked_unmoved locked
  · obtain ⟨updated, intends⟩ := revalidateLocked_intends locked
    exact fun failed => absurd failed (reportDispatch_ne_error settled intends.held)

theorem retireRoute_unmoved {request : MutationRequest}
    (failed : (state.retireRoute config env request).2 = .error failure) :
    Unmoved state (state.retireRoute config env request).1 := by
  revert failed
  unfold retireRoute
  split
  · exact fun _ => .refl state
  split
  · exact nofun
  split
  · exact fun _ => .refl state
  split
  · exact fun _ => acknowledge_unmoved ‹_›
  · exact nofun

theorem revokeRoute_unmoved {request : MutationRequest}
    (failed : (state.revokeRoute config env request).2 = .error failure) :
    Unmoved state (state.revokeRoute config env request).1 := by
  revert failed
  unfold revokeRoute
  split
  · exact fun _ => .refl state
  split
  · exact nofun
  split
  · exact fun _ => .refl state
  split
  · exact fun _ => acknowledge_unmoved ‹_›
  · exact nofun

/-- The records of all dependents of a path are built before one of them is committed. -/
theorem onPathAuthorityChanged_unmoved {path : PathId} {generation : PathAuthorityGeneration}
    {authorization : PathAuthorization}
    (failed : (state.onPathAuthorityChanged config env path generation authorization).2 = .error failure) :
    Unmoved state (state.onPathAuthorityChanged config env path generation authorization).1 := by
  revert failed
  unfold onPathAuthorityChanged
  split
  · exact fun _ => .refl state
  unfold invalidatePath
  split
  · exact nofun
  split
  · exact fun _ => .refl state
  split
  · exact nofun
  · exact fun failed => acknowledge_unmoved (Prod.ext rfl failed)

theorem applyProgrammingCompletion_unmoved {completion : ProgrammingCompletion}
    (failed : (state.applyProgrammingCompletion config env completion).2 = .error failure) :
    Unmoved state (state.applyProgrammingCompletion config env completion).1 := by
  revert failed
  unfold applyProgrammingCompletion
  split
  · exact fun _ => .refl state
  · exact nofun

theorem reconcileRoute_unmoved {route : RouteId}
    (failed : (state.reconcileRoute config env route).2 = .error failure) :
    Unmoved state (state.reconcileRoute config env route).1 := by
  revert failed
  unfold reconcileRoute
  split
  · exact fun _ => .refl state
  split
  · exact fun _ => .refl state
  unfold reconcileLocked
  split
  · exact fun _ => .refl state
  simp only
  split
  · exact fun _ => .refl state
  split
  · exact fun _ => acknowledge_unmoved ‹_›
  · exact nofun

/-- An epoch that could not be saved is not taken. -/
theorem advanceEpoch_unmoved (failed : (state.advanceEpoch config env).2 = .error failure) :
    Unmoved state (state.advanceEpoch config env).1 := by
  revert failed
  unfold advanceEpoch
  split
  · exact fun _ => .refl state
  split
  · exact fun _ => .refl state
  split
  · exact fun _ => ⟨_, _, rfl⟩
  · exact nofun

/-- In every state of a run, a call that fails leaves memory as it found it, whatever the
store did with its writes. -/
theorem run_attend_unmoved (calls : List Call) (upkeep : Upkeep)
    (failed : ((run (step config) (initial seed) calls).attend config env upkeep).2 = .error failure) :
    Unmoved (run (step config) (initial seed) calls)
      ((run (step config) (initial seed) calls).attend config env upkeep).1 := by
  have anchored : Anchored (run (step config) (initial seed) calls) := run_anchored calls
  cases upkeep with
  | withdraw request => exact withdrawRoute_unmoved anchored (outcome_error.mp failed)
  | revalidate request => exact revalidateRoute_unmoved anchored (outcome_error.mp failed)
  | retire request => exact retireRoute_unmoved (outcome_error.mp failed)
  | revoke request => exact revokeRoute_unmoved (outcome_error.mp failed)
  | pathChanged path generation authorization => exact onPathAuthorityChanged_unmoved failed
  | complete completion => exact applyProgrammingCompletion_unmoved (outcome_error.mp failed)
  | reconcile route => exact reconcileRoute_unmoved (outcome_error.mp failed)
  | advanceEpoch => exact advanceEpoch_unmoved (outcome_error.mp failed)

/-- A withdrawal that finds no room for its attempt has drawn an identity for it. -/
theorem run_attend_unmoved_withdraw :
    Unmoved (run (step Scenario.cramped) (initial 0) Scenario.published)
      ((run (step Scenario.cramped) (initial 0) Scenario.published).attend Scenario.cramped Scenario.env
        Scenario.withdrawing).1 := by
  have failed : ((run (step Scenario.cramped) (initial 0) Scenario.published).attend Scenario.cramped
      Scenario.env Scenario.withdrawing).2 =
        .error ⟨.limitExceeded, "the outstanding programming limit has been reached"⟩ := by
    decide +kernel
  exact run_attend_unmoved Scenario.published _ failed

/-! ## Publications -/

/-- Nothing that a publication could have changed has changed, in memory or on disk. -/
structure Unaltered (before after : Impl) : Prop where
  routes : after.routes = before.routes
  keyIndex : after.keyIndex = before.keyIndex
  pathIndex : after.pathIndex = before.pathIndex
  publisherIndex : after.publisherIndex = before.publisherIndex
  lifecycleIndex : after.lifecycleIndex = before.lifecycleIndex
  namespaceCounts : after.namespaceCounts = before.namespaceCounts
  attempts : after.attempts = before.attempts
  revocations : after.revocations = before.revocations
  outstandingProgramming : after.outstandingProgramming = before.outstandingProgramming
  stored : after.files.held = before.files.held

theorem Unaltered.refl (state : Impl) : Unaltered state state :=
  ⟨rfl, rfl, rfl, rfl, rfl, rfl, rfl, rfl, rfl, rfl⟩

theorem unaltered_of_held {ids : SeededIdSource} {files : StoreFiles}
    (held : files.held = state.files.held) : Unaltered state { state with ids := ids, files := files } :=
  ⟨rfl, rfl, rfl, rfl, rfl, rfl, rfl, rfl, rfl, held⟩

/-- A write that fails as a whole leaves the store as it was. -/
theorem persist_error {io : IoOutcome} {files : StoreFiles} (whole : io.FailsWhole)
    (failed : state.persist config io edit = (files, .error failure)) :
    files.held = state.files.held := by
  unfold persist at failed
  split at failed
  · simp at failed
  · rw [saveSnapshot_error failed]
  · unfold appendJournal at failed
    simp only at failed
    split at failed
    · rw [← (Prod.mk.inj failed).1]
    split at failed
    · rename_i written why refused
      obtain rfl := whole written why refused
      rw [← (Prod.mk.inj failed).1]
      simp [StoreFiles.held]
    · simp at failed

theorem acknowledge_unaltered {io : IoOutcome} (whole : io.FailsWhole)
    (failed : state.acknowledge config io edit = (after, .error failure)) : Unaltered state after := by
  rcases acknowledge_cases config io state edit with ⟨files, -, applied⟩ | ⟨files, other, refused, same⟩
  · simp [applied] at failed
  · rw [same, Prod.mk.injEq] at failed
    rw [← failed.1]
    exact unaltered_of_held (persist_error whole refused)

theorem second_inWord : 2 < 18446744073709551616 := by decide

/-- The edit that creates the route of a publication. -/
def creationEdit (config : RuntimeConfig) (env : Env) (state : Impl) (request : PublishRequest) : Edit :=
  let attempt : ProgrammingAttemptId := (generateId state.ids).1
  let updated := (RouteRecord.declared request (createdId request) .ready).installing config.historyLimit
    state.epoch env.backend.id request none .installing ⟨2, second_inWord⟩ attempt
  { upserts := [updated], attempts := [updated.attemptFor attempt .install state.epoch] }

/-- Whether the path authority stands behind a binding. -/
def pathAdmits (env : Env) (binding : RouteBinding) : Bool :=
  binding.kind ≠ .authorizedPath ∨ env.reentered = false ∧
    (env.query binding.path).generation = binding.pathAuthorityGeneration ∧
    (env.query binding.path).state = .usable

/-- Whether a route can be created in a state for a publication that was authorized and
whose namespace is in use: there is room for the route and for its attempt, the path
authority stands behind the binding, and the store takes the write. -/
def admits (config : RuntimeConfig) (env : Env) (state : Impl) (request : PublishRequest) : Bool :=
  state.routes.size < config.limits.maxRoutes && pathAdmits env request.binding &&
    state.outstandingProgramming < config.limits.maxOutstandingProgramming &&
    (state.persist config (env.io 1) (state.creationEdit config env request)).2.isOk

/-- Whether a publication supersedes a lineage for nothing: it takes a retired lineage
over, the store takes the superseded record, and the new lineage is then refused. -/
def strands (config : RuntimeConfig) (env : Env) (state : Impl) (request : PublishRequest) : Bool :=
  match state.publishAuthority request, state.lookupKey request.key with
  | .ok registration, some record =>
      (state.revocations[record.id]?).isNone && record.blocksRepublication &&
        match state.takeover config registration request record with
        | .error _ => false
        | .ok superseded =>
            (state.persist config (env.io 0) { upserts := [superseded] }).2.isOk &&
              !(state.applyEdit { upserts := [superseded] }).admits config env request
  | _, _ => false

/-! ### Creation -/

theorem checkPath_isOk (env : Env) (binding : RouteBinding) (detail : String) :
    checkPath env binding detail = .ok () ↔ pathAdmits env binding = true := by
  unfold checkPath pathAdmits
  split
  · rename_i bound
    simp [bound]
  · rename_i unbound
    simp [unbound]

/-- Whether the store takes a batch depends on nothing but the contents and the batch. -/
theorem persist_status {other : Impl} (same : other.contents = state.contents) (io : IoOutcome)
    (edit : Edit) : (other.persist config io edit).2 = (state.persist config io edit).2 := by
  obtain ⟨epoch, policyGeneration, routes, revocations, attempts⟩ := Contents.mk.inj same
  have merged : other.mergedState edit = state.mergedState edit := by
    simp only [mergedState, collectState, epoch, policyGeneration, routes, revocations, attempts]
  have entry : other.journalEntry edit = state.journalEntry edit := by
    simp only [journalEntry, epoch, policyGeneration]
  unfold persist
  split
  · rfl
  · rw [merged]
    unfold saveSnapshot
    simp only
    split
    · rfl
    split <;> rfl
  · rw [entry]
    unfold appendJournal
    simp only
    split
    · rfl
    split <;> rfl

/-- A record declared for an authorized publication passes validation. -/
theorem creationEdit_valid {request : PublishRequest} (checked : checkConfig config = .ok ())
    (key : request.key.isValid = true) (binding : request.binding.isValid = true)
    (identified : (createdId request).isValid = true) {record : RouteRecord}
    (member : record ∈ (state.creationEdit config env request).upserts) :
    record.Valid config.limits := by
  obtain rfl := List.mem_singleton.mp member
  refine RouteRecord.Valid.pushHistory ?_ (checkConfig_historyLimit checked) _ Nat.one_pos
  have installs : ∀ {lifecycle : RouteLifecycle} {conclusion : Prop},
      lifecycle ≠ .installing → RouteLifecycle.installing = lifecycle → conclusion :=
    fun other same => absurd same.symm other
  refine ⟨identified, key, Nat.le_refl 1, Nat.le_refl 1, Nat.le_refl 1, Nat.le_succ 1, binding, Nat.zero_le _,
    Nat.le_refl _, Nat.le_refl _, Nat.zero_le _, Nat.zero_le _, Nat.zero_le _, Nat.zero_le _,
    Nat.zero_le _, Nat.le_refl _, by simp [RouteRecord.dispatching, RouteRecord.declared],
    by simp [RouteRecord.dispatching, RouteRecord.declared], installs ?_, fun _ => rfl, installs ?_,
    installs ?_, installs ?_, installs ?_⟩ <;> decide

theorem commitIntent_unaltered {io : IoOutcome} {attempt : ProgrammingAttemptRecord}
    (whole : io.FailsWhole)
    (failed : commitIntent config io state updated attempt = (after, .error failure)) :
    Unaltered state after := by
  unfold commitIntent at failed
  split at failed
  · exact (Prod.mk.inj failed).1 ▸ .refl state
  · exact acknowledge_unaltered whole failed

/-- An intent that is refused alters nothing. -/
theorem publishIntent_unaltered {request : PublishRequest} {prior : Option RouteRecord}
    {record : RouteRecord} (whole : (env.io 1).FailsWhole)
    (failed : publishIntent config env request prior record state = (after, .error failure)) :
    Unaltered state after := by
  unfold publishIntent at failed
  split at failed
  · exact (Prod.mk.inj failed).1 ▸ .refl state
  simp only at failed
  split at failed
  · rename_i refused
    obtain rfl := (Prod.mk.inj failed).1
    obtain ⟨routes, keyIndex, pathIndex, publisherIndex, lifecycleIndex, namespaceCounts, attempts,
      revocations, outstanding, stored⟩ := commitIntent_unaltered whole refused
    exact ⟨routes, keyIndex, pathIndex, publisherIndex, lifecycleIndex, namespaceCounts, attempts,
      revocations, outstanding, stored⟩
  · simp at failed

theorem publishCreate_unaltered {request : PublishRequest} (whole : (env.io 1).FailsWhole)
    (failed : publishCreate config env request state = (after, .error failure)) :
    Unaltered state after := by
  unfold publishCreate at failed
  split at failed
  · exact (Prod.mk.inj failed).1 ▸ .refl state
  · exact publishIntent_unaltered whole failed

theorem commitIntent_isOk (io : IoOutcome) (ids : SeededIdSource) (attempt : ProgrammingAttemptRecord)
    (valid : updated.Valid config.limits) :
    (commitIntent config io { state with ids := ids } updated attempt).2.isOk =
      (state.outstandingProgramming < config.limits.maxOutstandingProgramming &&
        (state.persist config io { upserts := [updated], attempts := [attempt] }).2.isOk) := by
  have status : ({ state with ids := ids }.persist config io _).2 = _ :=
    persist_status (show { state with ids := ids }.contents = state.contents from rfl) io
      { upserts := [updated], attempts := [attempt] }
  rw [← status]
  unfold commitIntent
  rw [validateRouteRecord_eq_ok.mpr valid]
  by_cases room : state.outstandingProgramming < config.limits.maxOutstandingProgramming
  · rcases acknowledge_cases config io { state with ids := ids }
      { upserts := [updated], attempts := [attempt] } with
      ⟨files, written, applied⟩ | ⟨files, failure, refused, failed⟩
    · simp [ensure, room, written, applied, bind, Except.bind, Except.isOk, Except.toBool]
    · simp [ensure, room, refused, failed, bind, Except.bind, Except.isOk, Except.toBool]
  · simp [ensure, room, makeError, bind, Except.bind, Except.isOk, Except.toBool]

/-- A creation that has room, and whose path is admitted, commits its edit. -/
theorem publishCreate_eq {request : PublishRequest} (room : state.routes.size < config.limits.maxRoutes)
    (spared : ¬ (state.namespaceCounts[request.key.routingNamespace]? = none ∧
      config.limits.maxRoutingNamespaces ≤ state.namespaceCounts.size))
    (stands : pathAdmits env request.binding = true) :
    ∃ ids updated attempt intent,
      state.creationEdit config env request = { upserts := [updated], attempts := [attempt] } ∧
      publishCreate config env request state =
        match commitIntent config (env.io 1) { state with ids := ids } updated attempt with
        | (after, .error failure) => (after, .error failure)
        | (after, .ok ()) => (after, .ok (.inr intent)) := by
  have declares : declaredLifecycle = .ok .ready := by decide
  have created : state.createRecord config request = .ok (.declared request (createdId request) .ready) := by
    simp only [createRecord, bind_eq_ok, exists_unit, ensure_eq_ok]
    exact ⟨room, spared, _, declares, rfl⟩
  have prepared : prepareInstall env request (.declared request (createdId request) .ready) =
      .ok (.installing, ⟨2, second_inWord⟩) := by
    have begins : applyEvent .ready .beginInstall = .ok .installing := by decide
    have programmed : (RouteRecord.declared request (createdId request) .ready).advanceProgramming =
        .ok ⟨2, second_inWord⟩ := rfl
    simp only [prepareInstall, bind_eq_ok, exists_unit]
    exact ⟨(checkPath_isOk env request.binding _).mpr stands, _, begins, _, programmed, rfl⟩
  unfold publishCreate
  rw [created]
  simp only
  unfold publishIntent
  rw [prepared]
  exact ⟨(generateId state.ids : ProgrammingAttemptId × SeededIdSource).2, _, _, _, rfl, rfl⟩

/-- A creation without room, or whose path is not admitted, is refused. -/
theorem publishCreate_refused {request : PublishRequest}
    (refused : ¬ (state.routes.size < config.limits.maxRoutes ∧ pathAdmits env request.binding = true)) :
    (publishCreate config env request state).2.isOk = false := by
  unfold publishCreate
  split
  · rfl
  · rename_i record created
    simp only [createRecord, bind_eq_ok, exists_unit, ensure_eq_ok] at created
    unfold publishIntent
    split
    · rfl
    · rename_i lifecycle programmingGeneration prepared
      simp only [prepareInstall, bind_eq_ok, exists_unit] at prepared
      exact absurd ⟨created.1, (checkPath_isOk env request.binding _).mp prepared.1⟩ refused

/-- A creation in a namespace that is in use succeeds exactly when it is admitted. -/
theorem publishCreate_isOk {request : PublishRequest} (checked : checkConfig config = .ok ())
    (key : request.key.isValid = true) (binding : request.binding.isValid = true)
    (identified : (createdId request).isValid = true)
    (used : state.namespaceCounts[request.key.routingNamespace]? ≠ none) :
    (publishCreate config env request state).2.isOk = state.admits config env request := by
  by_cases possible : state.routes.size < config.limits.maxRoutes ∧ pathAdmits env request.binding = true
  · obtain ⟨room, stands⟩ := possible
    obtain ⟨ids, updated, attempt, intent, made, committing⟩ :=
      publishCreate_eq room (fun full => used full.1) stands
    have member : updated ∈ (state.creationEdit config env request).upserts := by
      rw [made]
      exact List.mem_singleton_self updated
    have committed : (commitIntent config (env.io 1) { state with ids := ids } updated attempt).2.isOk = _ :=
      commitIntent_isOk (env.io 1) ids attempt (creationEdit_valid checked key binding identified member)
    simp only [admits, room, stands, decide_true, Bool.true_and, made, ← committed, committing]
    split <;> rename_i returned <;> rw [returned] <;> rfl
  · rw [publishCreate_refused possible, eq_comm, Bool.eq_false_iff]
    intro admitted
    simp only [admits, Bool.and_eq_true, decide_eq_true_eq] at admitted
    exact possible ⟨admitted.1.1.1, admitted.1.1.2⟩

/-! ### Takeovers -/

/-- The effect of one upsert does not depend on the files. -/
theorem applyEdit_with_files (record : RouteRecord) (files : StoreFiles) :
    { state with files := files }.applyEdit { upserts := [record] } =
      { state.applyEdit { upserts := [record] } with files := files } := by
  simp only [applyEdit, List.foldl_cons, List.foldl_nil, commit]
  cases state.routes[record.id]? <;> rfl

theorem admits_with_files (files : StoreFiles) (request : PublishRequest) :
    { state with files := files }.admits config env request = state.admits config env request := by
  have status : ({ state with files := files }.persist config (env.io 1) _).2 = _ :=
    persist_status (show { state with files := files }.contents = state.contents from rfl) (env.io 1)
      (state.creationEdit config env request)
  unfold admits
  rw [← status]
  rfl

/-- A commit puts the namespace of its record in use. -/
theorem applyEdit_namespaceCounts (record : RouteRecord) :
    (state.applyEdit { upserts := [record] }).namespaceCounts[record.key.routingNamespace]? ≠ none := by
  simp only [applyEdit, List.foldl_cons, List.foldl_nil, commit, indexInsert]
  simp

/-- What the checks of a takeover establish. -/
structure TakesOver (config : RuntimeConfig) (state : Impl) (request : PublishRequest)
    (registration : PublisherRegistration) (record superseded : RouteRecord) : Prop where
  authorized : state.publishAuthority request = .ok registration
  found : state.lookupKey request.key = some record
  unrevoked : state.revocations[record.id]? = none
  blocked : record.blocksRepublication = true
  took : state.takeover config registration request record = .ok superseded

section Takeovers

variable {request : PublishRequest} {registration : PublisherRegistration}
  {record superseded : RouteRecord} {files : StoreFiles}

/-- Once its superseded record is written, a takeover goes on to create the new lineage. -/
theorem TakesOver.publishLocked (indexed : Indexed state)
    (takes : TakesOver config state request registration record superseded)
    (written : state.persist config (env.io 0) { upserts := [superseded] } = (files, .ok ())) :
    publishLocked config env request state = publishCreate config env request
      { state.applyEdit { upserts := [superseded] } with files := files } := by
  obtain ⟨-, -, -, -, valid⟩ := indexed.lookupKey takes.found
  have acknowledged : state.acknowledge config (env.io 0) { upserts := [superseded] } =
      ({ state.applyEdit { upserts := [superseded] } with files := files }, .ok ()) := by
    rw [← applyEdit_with_files]
    simp only [acknowledge, written]
  simp only [Impl.publishLocked, takes.authorized, takes.found, Option.getD_some, valid,
    Bool.true_eq_false, Bool.false_eq_true, if_false, takes.unrevoked, Option.isSome_none, takes.blocked, if_true, takes.took,
    acknowledged]

/-- The new lineage of a takeover is created exactly when it is admitted. -/
theorem TakesOver.isOk (indexed : Indexed state) (checked : state.opened = true → checkConfig config = .ok ())
    (takes : TakesOver config state request registration record superseded) (files : StoreFiles) :
    (publishCreate config env request
      { state.applyEdit { upserts := [superseded] } with files := files }).2.isOk =
        (state.applyEdit { upserts := [superseded] }).admits config env request := by
  obtain ⟨-, key, binding, -, -, opened, -⟩ := publishAuthority_eq_ok.mp takes.authorized
  obtain ⟨-, -, sameKey, -, -⟩ := indexed.lookupKey takes.found
  have took := takes.took
  simp only [takeover, bind_eq_ok, exists_unit, ensure_eq_ok, pure_eq_ok] at took
  obtain ⟨⟨-, minted⟩, -, advanced, advances, made⟩ := took
  obtain ⟨generation, authorityGeneration, -, rfl⟩ := RouteRecord.advance_eq_ok advances
  have kept : superseded.key = request.key := by
    rw [← made]
    exact sameKey
  rw [← admits_with_files files]
  refine publishCreate_isOk (checked opened) key binding (by simp [createdId, minted]) ?_
  rw [← kept]
  exact applyEdit_namespaceCounts superseded

/-- A takeover changes the record that it supersedes. -/
theorem TakesOver.alters (indexed : Indexed state)
    (takes : TakesOver config state request registration record superseded) :
    (state.applyEdit { upserts := [superseded] }).routes ≠ state.routes := by
  intro same
  obtain ⟨-, held, -, live, -⟩ := indexed.lookupKey takes.found
  have took := takes.took
  simp only [takeover, bind_eq_ok, exists_unit, ensure_eq_ok, pure_eq_ok] at took
  obtain ⟨-, -, advanced, advances, made⟩ := took
  obtain ⟨generation, authorityGeneration, -, rfl⟩ := RouteRecord.advance_eq_ok advances
  have installed : (state.applyEdit { upserts := [superseded] }).routes[record.id]? = some superseded := by
    have sameId : superseded.id = record.id := by
      rw [← made]
      rfl
    rw [applyEdit_routes, ← sameId]
    exact lookup_insert_self _ _ _
  rw [same, held, Option.some.injEq] at installed
  refine live ?_
  rw [installed, ← made]
  rfl

end Takeovers

theorem strands_iff {request : PublishRequest} : state.strands config env request = true ↔
    ∃ registration record superseded files, TakesOver config state request registration record superseded ∧
      state.persist config (env.io 0) { upserts := [superseded] } = (files, .ok ()) ∧
      (state.applyEdit { upserts := [superseded] }).admits config env request = false := by
  unfold strands
  constructor
  · intro strands
    split at strands
    · rename_i registration record authorized found
      simp only [Bool.and_eq_true, Option.isNone_iff_eq_none] at strands
      obtain ⟨⟨unrevoked, blocked⟩, strands⟩ := strands
      split at strands
      · cases strands
      · rename_i superseded took
        simp only [Bool.and_eq_true, Bool.not_eq_true'] at strands
        obtain ⟨written, refused⟩ := strands
        cases saved : state.persist config (env.io 0) { upserts := [superseded] } with
        | mk files status =>
            cases status with
            | error failure => simp [saved, Except.isOk, Except.toBool] at written
            | ok value =>
                exact ⟨registration, record, superseded, files,
                  ⟨authorized, found, unrevoked, blocked, took⟩, saved, refused⟩
    · cases strands
  · rintro ⟨registration, record, superseded, files, takes, written, refused⟩
    simp [takes.authorized, takes.found, takes.unrevoked, takes.blocked, takes.took, written, refused,
      Except.isOk, Except.toBool]

/-! ### Every publication -/

/-- Only a takeover that strands a lineage fails and alters the state. -/
theorem publishLocked_unaltered {request : PublishRequest} (indexed : Indexed state)
    (checked : state.opened = true → checkConfig config = .ok ())
    (whole : ∀ index, (env.io index).FailsWhole) (sound : state.strands config env request = false)
    (failed : publishLocked config env request state = (after, .error failure)) :
    Unaltered state after := by
  have refused : ∀ {failure other : Error},
      (state, (.error failure : Expected (PublishResult ⊕ Intent))) = (after, .error other) →
      Unaltered state after :=
    fun same => (Prod.mk.inj same).1 ▸ .refl state
  have locked := failed
  unfold publishLocked at failed
  split at failed
  · exact refused failed
  rename_i registration authorized
  simp only at failed
  split at failed
  · exact publishCreate_unaltered (whole 1) failed
  rename_i identified
  obtain ⟨record, found⟩ := Option.ne_none_iff_exists'.mp
    fun missing => identified ((indexed.lookupKey_getD request.key).mpr missing)
  rw [found, Option.getD_some] at failed
  split at failed
  · exact refused failed
  rename_i unrevoked
  rw [Bool.not_eq_true, Option.isSome_eq_false_iff, Option.isNone_iff_eq_none] at unrevoked
  split at failed
  · rename_i blocked
    split at failed
    · exact refused failed
    rename_i superseded took
    have takes : TakesOver config state request registration record superseded :=
      ⟨authorized, found, unrevoked, blocked, took⟩
    rcases acknowledge_cases config (env.io 0) state { upserts := [superseded] } with
      ⟨files, written, -⟩ | ⟨files, other, -, unwritten⟩
    · -- The superseded record was written, so the new lineage was admitted and created.
      have admitted : (state.applyEdit { upserts := [superseded] }).admits config env request = true := by
        rw [← Bool.not_eq_false]
        intro unadmitted
        have strands := strands_iff.mpr ⟨registration, record, superseded, files, takes, written, unadmitted⟩
        rw [sound] at strands
        cases strands
      have created : (publishCreate config env request _).2.isOk = _ := takes.isOk indexed checked files
      rw [← takes.publishLocked indexed written, locked, admitted] at created
      cases created
    · rw [unwritten] at failed
      rw [← (Prod.mk.inj failed).1]
      exact acknowledge_unaltered (whole 0) unwritten
  · unfold publishReplace at failed
    split at failed
    · exact refused failed
    split at failed
    · simp at failed
    split at failed
    · exact refused failed
    · exact publishIntent_unaltered (whole 1) failed

/-- A publication that fails failed before it handed anything to the backend. -/
theorem publishRoute_error {request : PublishRequest} (indexed : Indexed state) (anchored : Anchored state)
    (failed : (state.publishRoute config env request).2 = .error failure) :
    publishLocked config env request state =
      ((state.publishRoute config env request).1, .error failure) := by
  have moves : Moves config env state _ state _ := publishLocked_moves indexed request
  have settled := moves.anchored anchored
  revert failed
  unfold publishRoute
  split <;> rename_i locked <;> rw [locked] at settled
  · intro failed
    rw [locked, Except.error.inj failed]
  · exact nofun
  · obtain ⟨updated, intends, -⟩ := publishLocked_intends indexed locked
    exact fun failed => absurd failed (reportDispatch_ne_error settled intends.held)

/-- In every state of a run whose writes fail as a whole, a publication that fails alters
nothing exactly when it does not strand a lineage. -/
theorem run_publish_unaltered_iff (calls : List Call) (request : PublishRequest)
    (whole : ∀ index, (env.io index).FailsWhole) :
    (∀ failure, ((run (step config) (initial seed) calls).publishRoute config env request).2 =
        .error failure →
      Unaltered (run (step config) (initial seed) calls)
        ((run (step config) (initial seed) calls).publishRoute config env request).1) ↔
      (run (step config) (initial seed) calls).strands config env request = false := by
  have indexed : Indexed (run (step config) (initial seed) calls) := run_indexed calls
  have anchored : Anchored (run (step config) (initial seed) calls) := run_anchored calls
  have checked : (run (step config) (initial seed) calls).opened = true → checkConfig config = .ok () :=
    run_checked calls
  generalize run (step config) (initial seed) calls = state at indexed anchored checked ⊢
  constructor
  · intro unaltered
    rw [← Bool.not_eq_true]
    intro strands
    obtain ⟨registration, record, superseded, files, takes, written, refused⟩ := strands_iff.mp strands
    have locked := takes.publishLocked indexed written
    have created : (publishCreate config env request _).2.isOk = _ := takes.isOk indexed checked files
    rw [refused] at created
    cases returned : publishCreate config env request
        { state.applyEdit { upserts := [superseded] } with files := files } with
    | mk after value =>
        rw [returned] at created locked
        cases value with
        | ok value => cases created
        | error failure =>
            have called : state.publishRoute config env request = (after, .error failure) := by
              simp only [publishRoute, locked]
            have same := unaltered failure (by rw [called])
            rw [called] at same
            have kept := publishCreate_unaltered (whole 1) returned
            exact takes.alters indexed (kept.routes.symm.trans same.routes)
  · intro sound failure failed
    exact publishLocked_unaltered indexed checked whole sound
      (publishRoute_error indexed anchored failed)

theorem env_failsWhole (index : Nat) : (Scenario.env.io index).FailsWhole := nofun

/-- A second publication of a retired key without a new lineage. -/
theorem run_publish_unaltered_retired :
    ((run (step Scenario.config) (initial 0) Scenario.retired).publishRoute Scenario.config
        Scenario.env (Scenario.publication 0)).2.isOk = false ∧
      Unaltered (run (step Scenario.config) (initial 0) Scenario.retired)
        ((run (step Scenario.config) (initial 0) Scenario.retired).publishRoute Scenario.config
          Scenario.env (Scenario.publication 0)).1 := by
  have sound : (run (step Scenario.config) (initial 0) Scenario.retired).strands Scenario.config
      Scenario.env (Scenario.publication 0) = false := by decide +kernel
  have unaltered := (run_publish_unaltered_iff Scenario.retired (Scenario.publication 0)
    env_failsWhole).mpr sound
  have failed : ((run (step Scenario.config) (initial 0) Scenario.retired).publishRoute Scenario.config
      Scenario.env (Scenario.publication 0)).2.isOk = false := by decide +kernel
  refine ⟨failed, ?_⟩
  cases answered : ((run (step Scenario.config) (initial 0) Scenario.retired).publishRoute
      Scenario.config Scenario.env (Scenario.publication 0)).2 with
  | ok result => rw [answered] at failed; cases failed
  | error failure => exact unaltered failure answered

/-- A new lineage for a retired key that the path authority refuses: the call fails, and
the retired record is superseded all the same. -/
theorem refused_lineage_supersedes :
    ((run (step Scenario.config) (initial 0) Scenario.retired).publishRoute Scenario.config
        Scenario.rejecting (Scenario.publication 2)).2.isOk = false ∧
      ¬ Unaltered (run (step Scenario.config) (initial 0) Scenario.retired)
        ((run (step Scenario.config) (initial 0) Scenario.retired).publishRoute Scenario.config
          Scenario.rejecting (Scenario.publication 2)).1 := by
  refine ⟨by decide +kernel, fun unaltered => ?_⟩
  have before : ((run (step Scenario.config) (initial 0) Scenario.retired).routes[(⟨1⟩ : RouteId)]?.map
      (·.lifecycle)) = some .retired := by decide +kernel
  have after : (((run (step Scenario.config) (initial 0) Scenario.retired).publishRoute Scenario.config
      Scenario.rejecting (Scenario.publication 2)).1.routes[(⟨1⟩ : RouteId)]?.map (·.lifecycle)) =
        some .superseded := by decide +kernel
  rw [unaltered.routes, before] at after
  cases after

end Impl

end RouteFabric
