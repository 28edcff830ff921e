import RouteFabric.Runtime.Threads

/-!
# What the backend is told

A dispatch reads its record again after the commit has released the lock, so the request is
built from whatever the route is by then. It carries the intent of its attempt as long as
nothing changes the route before the second reading, and the epoch before the call.
-/

namespace RouteFabric

open OrderedMap Run

def Action.advances : Action → Bool
  | .advanceEpoch => true
  | _ => false

namespace Impl

variable {config : RuntimeConfig} {env : Env} {origin state : Impl} {call : Call} {edit : Edit} {id : RouteId}
  {record : RouteRecord}

/-- Whether a call passes the checks after which it changes the intent of a route. -/
def disturbs (config : RuntimeConfig) (call : Call) (id : RouteId) (state : Impl) : Bool :=
  match call.action with
  | .publish request =>
      (state.publishAuthority request).isOk && state.keyIndex[request.key]? = some id ||
        state.reachesCreation config request && createdId request = id
  | .withdraw request => request.route = id && (state.withdrawTarget request).isOk
  | .revalidate request => request.route = id && (state.revalidateTarget call.env request).isOk
  | .retire request => request.route = id && (state.retireTarget request).isOk
  | .revoke request => request.route = id && (state.revokeTarget request).isOk
  | .invalidate path _ _ => (state.pathIndex[path]?).any (·.contains id)
  | _ => false

/-! ## Steps that leave an intent alone -/

/-- A change of a path concerns the routes that depend on it. -/
theorem invalidatePath_other (indexed : Indexed state) {io : IoOutcome} {path : PathId}
    {generation : PathAuthorityGeneration} {authorization : PathAuthorization}
    (elsewhere : (state.pathIndex[path]?).any (·.contains id) = false) :
    (state.invalidatePath config io path generation authorization).1.routes[id]? = state.routes[id]? := by
  unfold invalidatePath
  split
  · rfl
  rename_i dependents named
  split
  · rfl
  rename_i updated built
  split
  · rfl
  obtain ⟨sublist, -⟩ := invalidatedRecords_eq_ok indexed built
  rw [named, Option.any_some] at elsewhere
  have others : ∀ record ∈ updated, record.id ≠ id := by
    rintro record member rfl
    have listed := sublist.subset (List.mem_map_of_mem member)
    rw [Std.ExtTreeSet.mem_toList, ← Std.ExtTreeSet.contains_iff_mem, elsewhere] at listed
    cases listed
  rcases acknowledge_cases config io state { upserts := updated } with
    ⟨files, -, applied⟩ | ⟨files, failure, -, failed⟩
  · rw [applied, applyEdit_routes, lookup_foldl_insert_of_ne others]
  · rw [failed]

/-- What an edit installs for a route that its call does not disturb is evidence. -/
theorem Legal.undisturbed (indexed : Indexed origin) (calm : origin.disturbs config call id = false)
    (elsewhere : ∀ path generation authorization, call.action ≠ .invalidate path generation authorization)
    (legal : Legal config call.env origin call.action state edit) {updated : RouteRecord}
    (member : updated ∈ edit.upserts) (own : updated.id = id) :
    ∃ record, state.routes[id]? = some record ∧ record.Evidence updated := by
  subst own
  unfold disturbs at calm
  generalize call.action = action at legal calm elsewhere
  cases legal with
  | takeover taken =>
      obtain rfl := List.mem_singleton.mp member
      obtain ⟨registration, authority, -⟩ := taken.authority
      obtain ⟨named, -⟩ := indexed.lookupKey taken.found
      simp [authority, Except.isOk, Except.toBool, taken.reissued.id, named] at calm
  | create created =>
      obtain rfl := List.mem_singleton.mp member
      obtain ⟨programmingGeneration, -, made⟩ := created.made
      have own : updated.id = createdId _ := congrArg RouteRecord.id made
      simp [created.reaches, own] at calm
  | replace replaced =>
      obtain rfl := List.mem_singleton.mp member
      obtain ⟨registration, authority, -⟩ := replaced.authority
      obtain ⟨named, -⟩ := indexed.lookupKey replaced.found
      simp [authority, Except.isOk, Except.toBool, replaced.reissued.id, named] at calm
  | withdraw withdrawn =>
      obtain rfl := List.mem_singleton.mp member
      have found := (withdrawTarget_eq_ok withdrawn.target).1.found
      simp [withdrawn.target, Except.isOk, Except.toBool, withdrawn.reissued.id,
        indexed.routes _ _ found] at calm
  | revalidate revalidated =>
      obtain rfl := List.mem_singleton.mp member
      have found := (revalidateTarget_eq_ok revalidated.target).1.found
      simp [revalidated.target, Except.isOk, Except.toBool, revalidated.reissued.id,
        indexed.routes _ _ found] at calm
  | retire retired =>
      obtain rfl := List.mem_singleton.mp member
      have found := (retireTarget_eq_ok retired.target).2.found
      simp [retired.target, Except.isOk, Except.toBool, retired.closing.reissued.id,
        indexed.routes _ _ found] at calm
  | revoke revoked =>
      obtain rfl := List.mem_singleton.mp member
      have found := (revokeTarget_eq_ok revoked.target).1
      simp [revoked.target, Except.isOk, Except.toBool, revoked.closing.reissued.id,
        indexed.routes _ _ found] at calm
  | invalidate unique invalidated => exact absurd rfl (elsewhere _ _ _)
  | resolve awaited => cases member
  | complete completed =>
      obtain rfl := List.mem_singleton.mp member
      have found := completed.awaited.found
      rw [← indexed.routes _ _ found, ← completed.evidence.id] at found
      exact ⟨_, found, completed.evidence⟩
  | observe observed =>
      obtain rfl := List.mem_singleton.mp member
      have evidence := observed.made ▸ RouteRecord.observed_evidence _ call.env.backend.id _
      have found := observed.found
      rw [← indexed.routes _ _ found, ← evidence.id] at found
      exact ⟨_, found, evidence⟩

/-- A call that does not disturb a route changes its evidence at most. -/
theorem step_undisturbed (indexed : Indexed state) (continues : ∀ seed, call.action ≠ .restart seed)
    (calm : state.disturbs config call id = false) (found : state.routes[id]? = some record) :
    ∃ later, (state.step config call).routes[id]? = some later ∧ record.Evidence later := by
  by_cases changes : ∃ path generation authorization, call.action = .invalidate path generation authorization
  · obtain ⟨path, generation, authorization, action⟩ := changes
    refine ⟨record, ?_, .refl record⟩
    simp only [step, action]
    split
    · simp only [disturbs, action] at calm
      exact (invalidatePath_other indexed calm).trans found
    · exact found
  · have elsewhere : ∀ path generation authorization,
        call.action ≠ .invalidate path generation authorization :=
      fun path generation authorization action => changes ⟨path, generation, authorization, action⟩
    refine step_preserves (motive := fun current => ∃ later, current.routes[id]? = some later ∧
      record.Evidence later) indexed ⟨record, found, .refl record⟩ ?_ ?_
    · rintro opened before after live heldIndexed ⟨later, held, evidence⟩ move
      cases move with
      | draw ids => exact ⟨later, held, evidence⟩
      | mutate unbroken ids index legal =>
          rename_i edit
          rcases acknowledge_cases config (call.env.io index) { before with ids := ids } edit with
            ⟨files, -, applied⟩ | ⟨files, failure, -, failed⟩
          · rw [applied]
            have kept : { before with ids := ids, files := files }.routes[id]? = some later := held
            obtain ⟨now, nowFound, rfl | ⟨member, own⟩⟩ :=
              lookup_applyEdit_of_held { before with ids := ids, files := files } edit kept
            · exact ⟨now, nowFound, evidence⟩
            · obtain ⟨earlier, earlierFound, more⟩ := legal.undisturbed indexed calm elsewhere member own
              obtain rfl := Option.some.inj (held.symm.trans earlierFound)
              exact ⟨now, nowFound, evidence.trans more⟩
          · rw [failed]
            exact ⟨later, held, evidence⟩
      | administer administers =>
          rw [(perform_administered administers).routes]
          exact ⟨record, found, .refl record⟩
      | save compacts => exact ⟨record, found, .refl record⟩
      | advance advances following saved => exact ⟨record, found, .refl record⟩
    · exact fun seed after restarts => absurd restarts (continues seed)

theorem step_epoch (indexed : Indexed state) (continues : ∀ seed, call.action ≠ .restart seed)
    (steady : call.action.advances = false) : (state.step config call).epoch = state.epoch := by
  refine step_preserves (motive := fun current => current.epoch = state.epoch) indexed rfl ?_ ?_
  · intro opened before after live heldIndexed held move
    cases move with
    | draw ids => exact held
    | mutate unbroken ids index legal =>
        rename_i edit
        have frame : Frame { before with ids := ids } _ := acknowledge_frame config (call.env.io index) edit
        exact frame.epoch.trans held
    | administer administers =>
        exact congrArg Contents.epoch (perform_administered administers).contents
    | save compacts => rfl
    | advance advances following saved =>
        rw [advances] at steady
        cases steady
  · exact fun seed after restarts => absurd restarts (continues seed)

end Impl

/-! ## Requests -/

/-- A request that says what was committed together with its attempt. -/
structure RouteProgrammingRequest.Carries (request : RouteProgrammingRequest) (dispatch : Dispatch) : Prop where
  attempt : request.attempt = dispatch.intent.attempt.attempt
  desiredGeneration : request.desiredGeneration = dispatch.committed.generation
  authorityGeneration : request.authorityGeneration = dispatch.committed.authorityGeneration
  binding : request.binding = dispatch.committed.binding
  publisher : request.publisher = dispatch.committed.provenance.publisher
  workerBoot : request.workerBoot = dispatch.committed.provenance.workerBoot
  epoch : request.epoch = dispatch.intent.attempt.epoch

/-- What was committed does not depend on how far the dispatch has come. -/
theorem RouteProgrammingRequest.Carries.moved {request : RouteProgrammingRequest} {dispatch : Dispatch}
    (carries : request.Carries dispatch) (stage : Stage) : request.Carries { dispatch with stage := stage } :=
  ⟨carries.attempt, carries.desiredGeneration, carries.authorityGeneration, carries.binding,
    carries.publisher, carries.workerBoot, carries.epoch⟩

namespace System

variable {config : RuntimeConfig} {seed : Word} {system after : System} {taken : Turn}

/-- Whether a turn changes no route that a dispatch still has to read, and no epoch that a
request still has to carry. -/
def undisturbed (config : RuntimeConfig) (system : System) : Turn → Bool
  | .call call => system.dispatches.all fun dispatch =>
      !(dispatch.stage.unread && system.runtime.disturbs config call dispatch.intent.route) &&
        !(dispatch.stage.unsent && call.action.advances)
  | _ => true

/-- What a dispatch has yet to read is what it committed, and what it has read, too. -/
structure Faithful (system : System) : Prop where
  unread : ∀ dispatch ∈ system.dispatches, dispatch.stage = .committed →
    ∃ record, system.runtime.routes[dispatch.intent.route]? = some record ∧
      dispatch.committed.Evidence record
  read : ∀ dispatch ∈ system.dispatches, ∀ snapshot, dispatch.stage = .read snapshot →
    dispatch.committed.Evidence snapshot
  epoch : ∀ dispatch ∈ system.dispatches, dispatch.stage.unsent = true →
    dispatch.intent.attempt.epoch = system.runtime.epoch
  received : ∀ index request, (index, request) ∈ system.received →
    ∃ dispatch, system.dispatches[index]? = some dispatch ∧ request.Carries dispatch

theorem Faithful.step {call : Call} (faithful : Faithful system) (indexed : Impl.Indexed system.runtime)
    (continues : ∀ seed, call.action ≠ .restart seed) (calm : system.undisturbed config (.call call) = true) :
    Faithful { system with runtime := system.runtime.step config call } := by
  simp only [undisturbed, List.all_eq_true, Bool.and_eq_true, Bool.not_eq_true'] at calm
  refine ⟨?_, faithful.read, ?_, faithful.received⟩
  · intro dispatch member stage
    obtain ⟨record, found, evidence⟩ := faithful.unread dispatch member stage
    have spared := (calm dispatch member).1
    rw [stage, Stage.unread, Bool.true_and] at spared
    obtain ⟨later, laterFound, more⟩ := Impl.step_undisturbed indexed continues spared found
    exact ⟨later, laterFound, evidence.trans more⟩
  · intro dispatch member unsent
    have steady := (calm dispatch member).2
    rw [unsent, Bool.true_and] at steady
    rw [faithful.epoch dispatch member unsent, Impl.step_epoch indexed continues steady]

/-- A dispatch that moves on keeps what it committed. -/
theorem Faithful.moves {index : Nat} {dispatch : Dispatch} {stage : Stage} (faithful : Faithful system)
    (found : system.dispatches[index]? = some dispatch)
    (reads : stage.unsent = true → ∃ record, stage = .read record ∧ dispatch.committed.Evidence record ∧
      dispatch.stage.unsent = true) :
    Faithful { system with dispatches := system.moved index dispatch stage } := by
  have member := List.mem_of_getElem? found
  refine ⟨?_, ?_, ?_, ?_⟩
  · intro other inMoved committed
    rcases List.mem_or_eq_of_mem_set inMoved with old | rfl
    · exact faithful.unread other old committed
    · obtain ⟨record, read, -⟩ := reads (congrArg Stage.unsent committed)
      cases committed.symm.trans read
  · intro other inMoved record read
    rcases List.mem_or_eq_of_mem_set inMoved with old | rfl
    · exact faithful.read other old record read
    · obtain ⟨snapshot, same, evidence, -⟩ := reads (congrArg Stage.unsent read)
      obtain rfl := Stage.read.inj (read.symm.trans same)
      exact evidence
  · intro other inMoved pending
    rcases List.mem_or_eq_of_mem_set inMoved with old | rfl
    · exact faithful.epoch other old pending
    · obtain ⟨snapshot, -, -, unsent⟩ := reads pending
      exact faithful.epoch dispatch member unsent
  · intro place request received
    obtain ⟨other, held, carries⟩ := faithful.received place request received
    rw [getElem?_moved found]
    split
    · rename_i same
      obtain rfl := Option.some.inj (found.symm.trans (same ▸ held))
      exact ⟨_, rfl, carries.moved stage⟩
    · exact ⟨other, held, carries⟩

/-- The request of a dispatch that has read what it committed. -/
theorem Faithful.carries {index : Nat} {dispatch : Dispatch} {snapshot : RouteRecord}
    (faithful : Faithful system) (found : system.dispatches[index]? = some dispatch)
    (stage : dispatch.stage = .read snapshot) :
    (system.runtime.makeProgrammingRequest snapshot dispatch.intent).Carries dispatch := by
  have member := List.mem_of_getElem? found
  have evidence := faithful.read dispatch member snapshot stage
  have epoch := faithful.epoch dispatch member (by rw [stage]; rfl)
  exact ⟨rfl, evidence.generation, evidence.authorityGeneration, evidence.binding,
    congrArg Provenance.publisher evidence.provenance,
    congrArg Provenance.workerBoot evidence.provenance, epoch.symm⟩

theorem Faithful.turn (indexed : Impl.Indexed system.runtime) (calm : system.undisturbed config taken = true)
    (faithful : Faithful system) (turned : Taken config system taken after) : Faithful after := by
  cases turned with
  | idle => exact faithful
  | called continues mutates =>
      rename_i call
      have stepped := faithful.step indexed continues calm
      cases made : system.committed config call with
      | none => simpa using stepped
      | some dispatch =>
          obtain ⟨intends, stage, -⟩ := committed_intends indexed made
          have own : ∀ other ∈ system.dispatches ++ [dispatch], other ∈ system.dispatches ∨ other = dispatch :=
            fun other member => (List.mem_append.mp member).imp_right List.mem_singleton.mp
          refine ⟨?_, ?_, ?_, ?_⟩
          · intro other member committed
            rcases own other member with old | rfl
            · exact stepped.unread other old committed
            · exact ⟨_, intends.found, .refl _⟩
          · intro other member snapshot read
            rcases own other member with old | rfl
            · exact stepped.read other old snapshot read
            · rw [stage] at read
              cases read
          · intro other member unsent
            rcases own other member with old | rfl
            · exact stepped.epoch other old unsent
            · exact congrArg ProgrammingAttemptRecord.epoch intends.waits
          · intro place request received
            obtain ⟨other, held, carries⟩ := stepped.received place request received
            exact ⟨other, List.getElem?_append_left (List.getElem?_eq_some_iff.mp held).1 ▸ held, carries⟩
  | restarted restarts =>
      refine ⟨?_, ?_, ?_, ?_⟩
      · intro dispatch member stage
        obtain ⟨earlier, -, rfl⟩ := List.mem_map.mp member
        cases stage
      · intro dispatch member snapshot stage
        obtain ⟨earlier, -, rfl⟩ := List.mem_map.mp member
        cases stage
      · intro dispatch member unsent
        obtain ⟨earlier, -, rfl⟩ := List.mem_map.mp member
        cases unsent
      · intro place request received
        obtain ⟨other, held, carries⟩ := faithful.received place request received
        exact ⟨{ other with stage := .finished }, by simp [held], carries.moved .finished⟩
  | missing found stage absent => exact faithful.moves found fun unsent => absurd unsent Bool.false_ne_true
  | read found stage held =>
      rename_i index dispatch record
      obtain ⟨kept, keptFound, evidence⟩ := faithful.unread _ (List.mem_of_getElem? found) stage
      obtain rfl := Option.some.inj (held.symm.trans keptFound)
      exact faithful.moves found fun _ => ⟨record, rfl, evidence, by rw [stage]; rfl⟩
  | sent found stage =>
      rename_i env index dispatch snapshot
      have carries := faithful.carries found stage
      have moved : Faithful { system with dispatches := system.moved index dispatch (.sent
          (Impl.dispatch env.backend (system.runtime.makeProgrammingRequest snapshot dispatch.intent))) } :=
        faithful.moves found fun unsent => absurd unsent Bool.false_ne_true
      refine ⟨moved.unread, moved.read, moved.epoch, ?_⟩
      intro place request received
      rcases List.mem_append.mp received with old | new
      · exact moved.received place request old
      · obtain ⟨rfl, rfl⟩ := Prod.mk.inj (List.mem_singleton.mp new)
        exact ⟨_, (getElem?_moved found _ _).trans (if_pos rfl), carries.moved _⟩
  | deferred found stage => exact faithful.moves found fun unsent => absurd unsent Bool.false_ne_true
  | completed found stage =>
      rename_i env index dispatch answer
      have stepped : Faithful { system with
          runtime := system.runtime.step config ⟨env, .complete answer.immediate⟩ } :=
        faithful.step indexed (by simp) (by simp [undisturbed, Impl.disturbs, Action.advances])
      exact stepped.moves found fun unsent => absurd unsent Bool.false_ne_true
  | looked held => exact ⟨faithful.unread, faithful.read, faithful.epoch, faithful.received⟩
  | asked found => exact ⟨faithful.unread, faithful.read, faithful.epoch, faithful.received⟩
  | stored found =>
      rename_i env index route commits result
      have stepped : Faithful { system with
          runtime := system.runtime.step config ⟨env, .reconcile route result⟩ } :=
        faithful.step indexed (by simp) (by simp [undisturbed, Impl.disturbs, Action.advances])
      exact ⟨stepped.unread, stepped.read, stepped.epoch, stepped.received⟩

/-- In every run whose turns disturb no dispatch, every request that the backend receives
carries what was committed together with its attempt. -/
theorem run_carries {turns : List Turn}
    (along : Along (turn config) (fun system taken => system.undisturbed config taken = true)
      (start seed) turns) {index : Nat} {request : RouteProgrammingRequest}
    (received : (index, request) ∈ (run (turn config) (start seed) turns).received) :
    ∃ dispatch, (run (turn config) (start seed) turns).dispatches[index]? = some dispatch ∧
      request.Carries dispatch := by
  have initially : Faithful (start seed) := by constructor <;> simp [start]
  have faithful := run_threads along initially fun system taken after indexed calm faithful turned =>
    faithful.turn indexed calm turned
  exact faithful.received index request received

/-- A route is published and withdrawn, each time with its dispatch. -/
theorem run_carries_withdrawn :
    ((run (turn Scenario.config) (start 0) (Scenario.committed ++ Scenario.dispatched 0 ++
        .call ⟨Scenario.env, .withdraw (Scenario.withdrawal 1)⟩ :: Scenario.dispatched 1)).received.map (·.1) =
      [0, 1]) ∧
    ∀ index request, (index, request) ∈ (run (turn Scenario.config) (start 0) (Scenario.committed ++
        Scenario.dispatched 0 ++ .call ⟨Scenario.env, .withdraw (Scenario.withdrawal 1)⟩ ::
        Scenario.dispatched 1)).received →
      ∃ dispatch, (run (turn Scenario.config) (start 0) (Scenario.committed ++ Scenario.dispatched 0 ++
        .call ⟨Scenario.env, .withdraw (Scenario.withdrawal 1)⟩ ::
        Scenario.dispatched 1)).dispatches[index]? = some dispatch ∧ request.Carries dispatch :=
  ⟨by decide +kernel, fun _ _ => run_carries (by decide +kernel)⟩

/-- A path is invalidated between the commit and the second reading. -/
theorem request_not_carried :
    ¬ ∀ index request, (index, request) ∈ (run (turn Scenario.config) (start 0) (Scenario.committed ++
        .call ⟨Scenario.env, .invalidate ⟨7⟩ .one .stale⟩ :: Scenario.dispatched 0)).received →
      ∃ dispatch, (run (turn Scenario.config) (start 0) (Scenario.committed ++
        .call ⟨Scenario.env, .invalidate ⟨7⟩ .one .stale⟩ ::
        Scenario.dispatched 0)).dispatches[index]? = some dispatch ∧ request.Carries dispatch := by
  intro carried
  have told : (run (turn Scenario.config) (start 0) (Scenario.committed ++
      .call ⟨Scenario.env, .invalidate ⟨7⟩ .one .stale⟩ :: Scenario.dispatched 0)).received.any
      (fun entry => entry.1 = 0 && entry.2.desiredGeneration.value = 2) = true := by decide +kernel
  have committed : ((run (turn Scenario.config) (start 0) (Scenario.committed ++
      .call ⟨Scenario.env, .invalidate ⟨7⟩ .one .stale⟩ :: Scenario.dispatched 0)).dispatches[0]?.map
      (·.committed.generation.value)) = some 1 := by decide +kernel
  obtain ⟨⟨index, request⟩, received, same⟩ := List.any_eq_true.mp told
  simp only [Bool.and_eq_true, decide_eq_true_eq] at same
  obtain ⟨rfl, generation⟩ := same
  obtain ⟨dispatch, found, carries⟩ := carried _ _ received
  rw [found, Option.map_some, ← carries.desiredGeneration, generation] at committed
  cases committed

end System

end RouteFabric
