import RouteFabric.Safety.Dispatches

/-!
# The last word to the backend

Commits are serialised and backend calls are not: a request may reach the backend after
one that was committed later. The generation checks keep the late answer from the record,
but the backend has been told. When the requests of each route arrive in the order of
their commits, an installed record is what the backend was told last.
-/

namespace RouteFabric

open OrderedMap Run

namespace Scenario

def republished : List Turn :=
  committed ++ dispatched 0 ++ .call ⟨env, .withdraw (withdrawal 1)⟩ :: dispatched 1 ++
    .call ⟨env, .publish (publication 1)⟩ :: dispatched 2

/-- The backend hears of the second publication before it hears of the withdrawal. -/
def overtaken : List Turn :=
  committed ++ dispatched 0 ++ [.call ⟨env, .withdraw (withdrawal 1)⟩,
    .call ⟨env, .publish (publication 1)⟩] ++ dispatched 2 ++ dispatched 1

end Scenario

/-- A route that is being installed, or is. -/
def RouteRecord.installs (record : RouteRecord) : Bool :=
  record.lifecycle = .installing ∨ record.lifecycle = .installed

namespace Impl

variable {config : RuntimeConfig} {env : Env} {seed : Word} {origin state : Impl} {call : Call} {edit : Edit}
  {id : RouteId} {record : RouteRecord} {intent : Intent}

/-! ## Where routes come to be installed -/

theorem commitIntent_cases (config : RuntimeConfig) (io : IoOutcome) (state : Impl) (updated : RouteRecord)
    (attempt : ProgrammingAttemptRecord) :
    (∃ failure, (commitIntent config io state updated attempt).2 = .error failure) ∧
        (commitIntent config io state updated attempt).1.routes = state.routes ∨
      (commitIntent config io state updated attempt).2 = .ok () ∧
        (commitIntent config io state updated attempt).1.routes = state.routes.insert updated.id updated := by
  unfold commitIntent
  split
  · exact .inl ⟨⟨_, rfl⟩, rfl⟩
  · rcases acknowledge_cases config io state { upserts := [updated], attempts := [attempt] } with
      ⟨files, -, applied⟩ | ⟨files, failure, -, failed⟩
    · rw [applied]
      exact .inr ⟨rfl, applyEdit_routes _⟩
    · rw [failed]
      exact .inl ⟨⟨failure, rfl⟩, rfl⟩

/-- A record that a locked part leaves elsewhere than its intent was there before. -/
theorem commitIntent_elsewhere {io : IoOutcome} {ids : SeededIdSource} {updated : RouteRecord}
    {attempt : ProgrammingAttemptRecord}
    (elsewhere : (commitIntent config io { state with ids := ids } updated attempt).2 = .ok () → updated.id ≠ id)
    (found : (commitIntent config io { state with ids := ids } updated attempt).1.routes[id]? = some record) :
    state.routes[id]? = some record := by
  rcases commitIntent_cases config io { state with ids := ids } updated attempt with
    ⟨-, kept⟩ | ⟨committed, inserted⟩
  · rw [kept] at found
    exact found
  · rw [inserted, lookup_insert_of_ne _ _ (elsewhere committed)] at found
    exact found

theorem publishIntent_elsewhere {request : PublishRequest} {prior : Option RouteRecord} {source : RouteRecord}
    (elsewhere : ∀ intent, (publishIntent config env request prior source state).2 = .ok (.inr intent) →
      intent.route ≠ id)
    (found : (publishIntent config env request prior source state).1.routes[id]? = some record) :
    state.routes[id]? = some record := by
  unfold publishIntent at elsewhere found
  split at found
  · exact found
  rename_i lifecycle programmingGeneration prepared
  simp only [prepared] at elsewhere found
  split at found
  · rename_i refused
    refine commitIntent_elsewhere (fun committed => ?_) (by rw [refused]; exact found)
    rw [refused] at committed
    cases committed
  · rename_i acknowledged
    refine commitIntent_elsewhere (fun _ => ?_) (by rw [acknowledged]; exact found)
    rw [acknowledged] at elsewhere
    exact elsewhere _ rfl

theorem publishCreate_elsewhere {request : PublishRequest}
    (elsewhere : ∀ intent, (publishCreate config env request state).2 = .ok (.inr intent) → intent.route ≠ id)
    (found : (publishCreate config env request state).1.routes[id]? = some record) :
    state.routes[id]? = some record := by
  unfold publishCreate at elsewhere found
  split at found
  · exact found
  · rename_i created
    rw [created] at elsewhere
    exact publishIntent_elsewhere elsewhere found

/-- Besides its intent a publication leaves a superseded lineage at most. -/
theorem publishLocked_elsewhere {request : PublishRequest}
    (elsewhere : ∀ intent, (publishLocked config env request state).2 = .ok (.inr intent) → intent.route ≠ id)
    (found : (publishLocked config env request state).1.routes[id]? = some record)
    (live : record.lifecycle ≠ .superseded) : state.routes[id]? = some record := by
  unfold publishLocked at elsewhere found
  split at found
  · exact found
  rename_i registration authorized
  simp only [authorized] at elsewhere found
  split at found
  · rename_i vacant
    rw [if_pos vacant] at elsewhere
    exact publishCreate_elsewhere elsewhere found
  rename_i occupied
  rw [if_neg occupied] at elsewhere
  split at found
  · exact found
  rename_i unrevoked
  rw [if_neg unrevoked] at elsewhere
  split at found
  · rename_i blocked
    rw [if_pos blocked] at elsewhere
    split at found
    · exact found
    rename_i superseded took
    have replaced : superseded.lifecycle = .superseded := by
      simp only [takeover, bind_eq_ok, exists_unit, pure_eq_ok] at took
      obtain ⟨-, -, advanced, -, rfl⟩ := took
      rfl
    simp only [took] at elsewhere
    rcases acknowledge_cases config (env.io 0) state { upserts := [superseded] } with
      ⟨files, -, applied⟩ | ⟨files, failure, -, failed⟩
    · rw [applied] at elsewhere found
      have kept := publishCreate_elsewhere elsewhere found
      rcases lookup_applyEdit kept with ⟨member, -⟩ | ⟨-, held⟩
      · rw [List.mem_singleton.mp member] at live
        exact absurd replaced live
      · exact held
    · rw [failed] at found
      exact found
  · rename_i live
    rw [if_neg live] at elsewhere
    unfold publishReplace at elsewhere found
    split at found
    · exact found
    rename_i checked
    rw [checked] at elsewhere
    split at found
    · exact found
    rename_i changed
    simp only [if_neg changed] at elsewhere
    split at found
    · exact found
    rename_i advanced advances
    rw [advances] at elsewhere
    exact publishIntent_elsewhere elsewhere found

theorem withdrawLocked_elsewhere {request : WithdrawRequest}
    (elsewhere : ∀ intent, (withdrawLocked config env request state).2 = .ok (.inr intent) → intent.route ≠ id)
    (found : (withdrawLocked config env request state).1.routes[id]? = some record) :
    state.routes[id]? = some record := by
  unfold withdrawLocked at elsewhere found
  split at found
  · exact found
  rename_i target addressed
  simp only [addressed] at elsewhere
  split at found
  · exact found
  rename_i unwithdrawn
  rw [if_neg unwithdrawn] at elsewhere
  split at found
  · exact found
  rename_i settled
  rw [if_neg settled] at elsewhere
  split at found
  · exact found
  rename_i prepared
  simp only [prepared] at elsewhere found
  split at found
  · rename_i refused
    refine commitIntent_elsewhere (fun committed => ?_) (by rw [refused]; exact found)
    rw [refused] at committed
    cases committed
  · rename_i acknowledged
    refine commitIntent_elsewhere (fun _ => ?_) (by rw [acknowledged]; exact found)
    rw [acknowledged] at elsewhere
    exact elsewhere _ rfl

theorem revalidateLocked_elsewhere {request : MutationRequest}
    (elsewhere : ∀ intent, (revalidateLocked config env request state).2 = .ok intent → intent.route ≠ id)
    (found : (revalidateLocked config env request state).1.routes[id]? = some record) :
    state.routes[id]? = some record := by
  unfold revalidateLocked at elsewhere found
  split at found
  · exact found
  rename_i target addressed
  simp only [addressed] at elsewhere
  split at found
  · exact found
  rename_i prepared
  simp only [prepared] at elsewhere found
  split at found
  · rename_i refused
    refine commitIntent_elsewhere (fun committed => ?_) (by rw [refused]; exact found)
    rw [refused] at committed
    cases committed
  · rename_i acknowledged
    refine commitIntent_elsewhere (fun _ => ?_) (by rw [acknowledged]; exact found)
    rw [acknowledged] at elsewhere
    exact elsewhere _ rfl

/-- An edit of any other action installs nothing that was not being installed. -/
theorem Legal.installs (indexed : Indexed origin) {action : Action}
    (legal : Legal config env origin action state edit) (quiet : action.programs = false)
    {updated : RouteRecord} (member : updated ∈ edit.upserts) (installs : updated.installs = true) :
    ∃ record, state.routes[updated.id]? = some record ∧ record.installs = true ∧
      record.generation = updated.generation := by
  cases legal with
  | takeover | create | replace | withdraw | revalidate => cases quiet
  | retire retired =>
      obtain rfl := List.mem_singleton.mp member
      obtain ⟨generation, authorityGeneration, -, rfl⟩ := retired.closing.made
      cases installs
  | revoke revoked =>
      obtain rfl := List.mem_singleton.mp member
      obtain ⟨generation, authorityGeneration, -, rfl⟩ := revoked.closing.made
      cases installs
  | invalidate unique invalidated =>
      obtain ⟨record, change⟩ := invalidated updated member
      obtain ⟨next, nextAuthority, -, rfl⟩ := change.made
      cases installs
  | resolve awaited => cases member
  | complete completed =>
      obtain rfl := List.mem_singleton.mp member
      have evidence := completed.evidence
      have found := completed.awaited.found
      rw [← indexed.routes _ _ found, ← evidence.id] at found
      refine ⟨_, found, ?_, evidence.generation.symm⟩
      obtain ⟨lifecycle, allowed, rfl⟩ := completed.made
      -- Only the outcome of an installation leads to an installed route.
      unfold completionEvent at allowed
      split at allowed
      · obtain ⟨-, rfl⟩ := next_withdrawEvent allowed
        have target : ∀ outcome, (decide (RouteFabric.withdrawTarget outcome = .installing ∨
            RouteFabric.withdrawTarget outcome = .installed)) = false := by
          intro outcome
          cases outcome <;> rfl
        cases (target _).symm.trans installs
      · obtain ⟨source, -⟩ := next_installEvent allowed
        simp [RouteRecord.installs, source]
  | observe observed =>
      obtain rfl := List.mem_singleton.mp member
      have evidence := observed.made ▸ RouteRecord.observed_evidence _ env.backend.id _
      have found := observed.found
      rw [← indexed.routes _ _ found, ← evidence.id] at found
      refine ⟨_, found, ?_, evidence.generation.symm⟩
      rw [observed.made] at installs
      exact installs

/-- A route that is installed elsewhere than where a step commits was so before. -/
theorem step_installs (indexed : Indexed state) (continues : ∀ seed, call.action ≠ .restart seed)
    (elsewhere : ∀ intent, state.intentOf config call = some intent → intent.route ≠ id)
    (found : (state.step config call).routes[id]? = some record) (installs : record.installs = true) :
    ∃ earlier, state.routes[id]? = some earlier ∧ earlier.installs = true ∧
      earlier.generation = record.generation := by
  by_cases programs : call.action.programs = true
  · refine ⟨record, ?_, installs, rfl⟩
    unfold step at found
    unfold intentOf at elsewhere
    cases action : call.action with
    | publish request =>
        simp only [action] at found elsewhere
        split at found
        · refine publishLocked_elsewhere (fun intent returned => elsewhere intent ?_) found ?_
          · rw [returned]
          · intro superseded
            simp [RouteRecord.installs, superseded] at installs
        · exact found
    | withdraw request =>
        simp only [action] at found elsewhere
        split at found
        · refine withdrawLocked_elsewhere (fun intent returned => elsewhere intent ?_) found
          rw [returned]
        · exact found
    | revalidate request =>
        simp only [action] at found elsewhere
        split at found
        · refine revalidateLocked_elsewhere (fun intent returned => elsewhere intent ?_) found
          rw [returned]
          rfl
        · exact found
    | _ => rw [action] at programs; cases programs
  · have quiet : call.action.programs = false := by simpa using programs
    revert found installs record
    refine step_preserves (motive := fun current => ∀ {record : RouteRecord},
      current.routes[id]? = some record → record.installs = true →
      ∃ earlier, state.routes[id]? = some earlier ∧ earlier.installs = true ∧
        earlier.generation = record.generation) indexed (fun found installs => ⟨_, found, installs, rfl⟩) ?_ ?_
    · intro opened before after live heldIndexed held move record found installs
      cases move with
      | draw ids => exact held found installs
      | mutate unbroken ids index legal =>
          rename_i edit
          rcases acknowledge_cases config (call.env.io index) { before with ids := ids } edit with
            ⟨files, -, applied⟩ | ⟨files, failure, -, failed⟩
          · rw [applied] at found
            rcases lookup_applyEdit found with ⟨member, own⟩ | ⟨-, kept⟩
            · obtain ⟨middle, middleFound, middleInstalls, same⟩ := legal.installs indexed quiet member installs
              rw [own] at middleFound
              obtain ⟨earlier, earlierFound, earlierInstalls, before⟩ := held middleFound middleInstalls
              exact ⟨earlier, earlierFound, earlierInstalls, before.trans same⟩
            · exact held kept installs
          · rw [failed] at found
            exact held found installs
      | administer administers =>
          rw [(perform_administered administers).routes] at found
          exact ⟨record, found, installs, rfl⟩
      | save compacts => exact ⟨record, found, installs, rfl⟩
      | advance advances following saved => exact ⟨record, found, installs, rfl⟩
    · exact fun seed after restarts => absurd restarts (continues seed)

/-- An intent to install asks for an installation. -/
theorem Intends.installs {action : Action} {after : Impl} {updated : RouteRecord}
    (intends : Intends config env origin action after intent updated) (installs : updated.installs = true) :
    intent.attempt.operation ≠ .withdraw := by
  obtain ⟨before, legal, -⟩ := intends.legal
  have outstanding : intent.attempt.resolved = false := congrArg ProgrammingAttemptRecord.resolved intends.waits
  generalize made : ({ upserts := [updated], attempts := [intent.attempt] } : Edit) = edit at legal
  have sole : ∀ {attempt : ProgrammingAttemptRecord} {upserts : List RouteRecord},
      ({ upserts := [updated], attempts := [intent.attempt] } : Edit) =
        { upserts := upserts, attempts := [attempt] } → intent.attempt = attempt ∧ upserts = [updated] := by
    intro attempt upserts same
    injection same with first second third
    exact ⟨(List.cons.inj third).1, first.symm⟩
  cases legal with
  | create created =>
      obtain ⟨same, -⟩ := sole made
      rw [same, created.dispatched.waits]
      exact ProgrammingOperation.noConfusion
  | replace replaced =>
      obtain ⟨same, -⟩ := sole made
      rw [same, replaced.dispatched.waits]
      exact ProgrammingOperation.noConfusion
  | withdraw withdrawn =>
      obtain ⟨-, same⟩ := sole made
      obtain ⟨generation, authorityGeneration, programmingGeneration, -, -, rfl⟩ := withdrawn.made
      rw [← (List.cons.inj same).1] at installs
      cases installs
  | revalidate revalidated =>
      obtain ⟨same, -⟩ := sole made
      rw [same, revalidated.dispatched.waits]
      simp only [RouteRecord.attemptFor]
      split <;> exact ProgrammingOperation.noConfusion
  | resolve awaited | complete completed =>
      obtain ⟨same, -⟩ := sole made
      rw [same] at outstanding
      cases outstanding
  | takeover | retire | revoke | invalidate | observe => cases congrArg Edit.attempts made

/-! ## The first start -/

theorem load_empty (limits : Limits) (io : IoOutcome) : load limits io {} = ({}, .ok {}) := rfl

/-- Opening on an empty store finds nothing, or fails and writes nothing. -/
theorem restart_empty (config : RuntimeConfig) (env : Env) (seed : Word) (empty : state.files = {}) :
    ∃ fenced barred, state.restart config env seed =
        { state with
          opened := false, registrations := ∅, fencedBoots := fenced, administrativeFences := barred } ∨
      state.restart config env seed =
        { fresh seed {} with opened := true, fencedBoots := fenced, administrativeFences := barred } := by
  have finished : finishOpen config env (fresh seed {}) = ({ fresh seed {} with opened := true }, .ok ()) := by
    have none : values (∅ : Map ProgrammingAttemptId ProgrammingAttemptRecord) = [] := by decide
    simp [finishOpen, recover, fresh, none]
  refine ⟨state.closed.fencedBoots, state.closed.administrativeFences, ?_⟩
  rw [restart_eq]
  unfold openRuntime
  split
  · rename_i opened
    cases opened
  split
  · exact .inl rfl
  split
  · rw [empty, finished]
    exact .inr rfl
  · have read : load config.limits (env.io 0) (fresh seed state.files).files = ({}, .ok {}) := by
      simp only [fresh, empty]
      exact load_empty config.limits (env.io 0)
    rw [read]
    have nothing : populate { fresh seed state.files with files := {} } {} = fresh seed {} :=
      populate_nothing {}
    simp only [nothing, finished]
    exact .inr rfl

end Impl

namespace System

variable {config : RuntimeConfig} {seed : Word} {system after : System} {taken : Turn} {id : RouteId}
  {index : Nat} {dispatch : Dispatch} {generation : RouteGeneration}

/-! ## The latest dispatch of a route -/

/-- The last mutating request that the backend received for a route, with its place. -/
def lastReceived (system : System) (id : RouteId) : Option (Nat × RouteProgrammingRequest) :=
  (system.received.filter (·.2.route = id)).getLast?

structure Latest (system : System) (id : RouteId) (index : Nat) (dispatch : Dispatch) : Prop where
  found : system.dispatches[index]? = some dispatch
  route : dispatch.intent.route = id
  last : ∀ other later, system.dispatches[other]? = some later → later.intent.route = id → other ≤ index

/-- A dispatch that installs a generation: when it was sent, it is what the backend was
told last. -/
def Installs (system : System) (id : RouteId) (generation : RouteGeneration) (index : Nat)
    (dispatch : Dispatch) : Prop :=
  dispatch.intent.attempt.operation ≠ .withdraw ∧
    match dispatch.stage with
    | .committed => True
    | .read snapshot => snapshot.generation = generation
    | .sent _ | .finished => ∃ request, system.lastReceived id = some (index, request) ∧
        request.operation ≠ .withdraw ∧ request.desiredGeneration = generation

/-- What holds of dispatches and requests when requests arrive in order. -/
structure Told (system : System) : Prop where
  snapshots : ∀ dispatch ∈ system.dispatches, ∀ snapshot, dispatch.stage = .read snapshot →
    snapshot.id = dispatch.intent.route
  places : ∀ entry ∈ system.received, ∃ dispatch, system.dispatches[entry.1]? = some dispatch ∧
    dispatch.intent.route = entry.2.route
  latest : ∀ (id : RouteId) record, system.runtime.routes[id]? = some record → record.installs = true →
    ∃ index dispatch, Latest system id index dispatch ∧ Installs system id record.generation index dispatch
  closed : system.runtime.opened = false → system.runtime.routes = ∅ ∧ system.runtime.files = {}

/-- Whether a turn opens no runtime that is open, and sends no request after one of the
same route that was committed later. -/
def inOrder (system : System) : Turn → Bool
  | .call ⟨_, .restart _⟩ => !system.runtime.opened
  | .send _ index =>
      match system.dispatches[index]? with
      | some dispatch => system.received.all fun entry =>
          entry.2.route ≠ dispatch.intent.route || entry.1 < index
      | none => true
  | _ => true

theorem Latest.congr (latest : Latest system id index dispatch)
    (same : after.dispatches = system.dispatches) : Latest after id index dispatch :=
  ⟨same ▸ latest.found, latest.route, same ▸ latest.last⟩

/-- A dispatch that moves on is the latest of its route as long as it was. -/
theorem Latest.moved {place : Nat} {moving : Dispatch} (latest : Latest system id index dispatch)
    (found : system.dispatches[place]? = some moving) (stage : Stage) :
    Latest { system with dispatches := system.moved place moving stage } id index
      (if place = index then { dispatch with stage := stage } else dispatch) := by
  refine ⟨?_, ?_, ?_⟩
  · rw [getElem?_moved found]
    split
    · rename_i same
      obtain rfl := Option.some.inj (found.symm.trans (same ▸ latest.found))
      rfl
    · exact latest.found
  · split
    · exact latest.route
    · exact latest.route
  · intro other later laterFound sameRoute
    rw [getElem?_moved found] at laterFound
    split at laterFound
    · rename_i same
      obtain rfl := Option.some.inj laterFound
      exact latest.last other moving (same ▸ found) sameRoute
    · exact latest.last other later laterFound sameRoute

/-- The routes of a runtime without new installations keep their latest dispatches. -/
theorem Told.runtime {runtime : Impl} (told : Told system)
    (installs : ∀ (id : RouteId) record, runtime.routes[id]? = some record → record.installs = true →
      ∃ earlier, system.runtime.routes[id]? = some earlier ∧ earlier.installs = true ∧
        earlier.generation = record.generation)
    (closed : runtime.opened = false → runtime.routes = ∅ ∧ runtime.files = {}) :
    Told { system with runtime := runtime } := by
  refine ⟨told.snapshots, told.places, ?_, closed⟩
  intro id record found installed
  obtain ⟨earlier, earlierFound, earlierInstalled, same⟩ := installs id record found installed
  obtain ⟨index, dispatch, latest, agrees⟩ := told.latest id earlier earlierFound earlierInstalled
  refine ⟨index, dispatch, latest.congr rfl, ?_⟩
  rw [← same]
  exact agrees

/-- A dispatch that was not sent keeps its route and gets nowhere past the backend. -/
theorem Told.moves {stage : Stage} (told : Told system) (found : system.dispatches[index]? = some dispatch)
    (snapshot : ∀ record, stage = .read record → record.id = dispatch.intent.route)
    (installs : ∀ record, system.runtime.routes[dispatch.intent.route]? = some record →
      Latest system dispatch.intent.route index dispatch →
      Installs system dispatch.intent.route record.generation index dispatch →
      Installs system dispatch.intent.route record.generation index { dispatch with stage := stage }) :
    Told { system with dispatches := system.moved index dispatch stage } := by
  refine ⟨?_, ?_, ?_, told.closed⟩
  · intro other member record read
    rcases List.mem_or_eq_of_mem_set member with old | rfl
    · exact told.snapshots other old record read
    · exact snapshot record read
  · intro entry member
    obtain ⟨other, held, sameRoute⟩ := told.places entry member
    rw [getElem?_moved found]
    split
    · rename_i same
      obtain rfl := Option.some.inj (found.symm.trans (same ▸ held))
      exact ⟨_, rfl, sameRoute⟩
    · exact ⟨other, held, sameRoute⟩
  · intro id record held installed
    obtain ⟨place, latestDispatch, latest, agrees⟩ := told.latest id record held installed
    refine ⟨place, _, latest.moved found stage, ?_⟩
    split
    · rename_i same
      subst same
      obtain rfl := Option.some.inj (found.symm.trans latest.found)
      obtain rfl := latest.route
      exact installs record held latest agrees
    · exact agrees

theorem Told.commits {call : Call} (told : Told system) (indexed : Impl.Indexed system.runtime)
    (continues : ∀ seed, call.action ≠ .restart seed) :
    Told { system with
      runtime := system.runtime.step config call
      dispatches := system.dispatches ++ (system.committed config call).toList } := by
  have opened : (system.runtime.step config call).opened = system.runtime.opened := by
    refine Impl.step_preserves (motive := fun current => current.opened = system.runtime.opened) indexed rfl
      ?_ fun seed after restarts => absurd restarts (continues seed)
    exact fun _ _ _ _ _ held move => move.opened held
  have closed : (system.runtime.step config call).opened = false →
      (system.runtime.step config call).routes = ∅ ∧ (system.runtime.step config call).files = {} := by
    intro shut
    rw [opened] at shut
    have kept : Impl.Administered system.runtime (system.runtime.step config call) :=
      Impl.step_closed shut continues
    rw [kept.routes, kept.files]
    exact told.closed shut
  cases made : system.committed config call with
  | none =>
      have uncommitted : system.runtime.intentOf config call = none := by
        cases intended : system.runtime.intentOf config call with
        | none => rfl
        | some intent =>
            obtain ⟨dispatch, committed, -⟩ := committed_of_intent indexed intended
            cases made.symm.trans committed
      have kept := told.runtime (fun id record found installed => Impl.step_installs indexed continues
        (fun intent intended => by cases uncommitted.symm.trans intended) found installed) closed
      simpa using kept
  | some dispatch =>
      obtain ⟨intends, stage, intended⟩ := committed_intends indexed made
      refine ⟨?_, ?_, ?_, closed⟩
      · intro other member snapshot read
        rcases List.mem_append.mp member with old | new
        · exact told.snapshots other old snapshot read
        · rw [List.mem_singleton.mp new, stage] at read
          cases read
      · intro entry member
        obtain ⟨other, held, sameRoute⟩ := told.places entry member
        exact ⟨other, List.getElem?_append_left (List.getElem?_eq_some_iff.mp held).1 ▸ held, sameRoute⟩
      · intro id record found installed
        by_cases own : dispatch.intent.route = id
        · -- The new dispatch is the latest of its route and still to be read.
          refine ⟨system.dispatches.length, dispatch, ⟨?_, own, ?_⟩, ?_⟩
          · simp
          · intro other later laterFound _
            have within := (List.getElem?_eq_some_iff.mp laterFound).1
            simp only [Option.toList_some, List.length_append, List.length_singleton] at within
            omega
          · subst own
            obtain rfl := Option.some.inj (intends.found.symm.trans found)
            refine ⟨intends.installs installed, ?_⟩
            rw [stage]
            trivial
        · obtain ⟨earlier, earlierFound, earlierInstalled, same⟩ := Impl.step_installs indexed continues
            (fun intent other => Option.some.inj (intended.symm.trans other) ▸ own) found installed
          obtain ⟨place, latestDispatch, latest, agrees⟩ :=
            told.latest id earlier earlierFound earlierInstalled
          refine ⟨place, latestDispatch, ⟨?_, latest.route, ?_⟩, same ▸ agrees⟩
          · exact List.getElem?_append_left (List.getElem?_eq_some_iff.mp latest.found).1 ▸ latest.found
          · intro other later laterFound sameRoute
            rcases Nat.lt_or_ge other system.dispatches.length with within | beyond
            · rw [List.getElem?_append_left within] at laterFound
              exact latest.last other later laterFound sameRoute
            · rw [List.getElem?_append_right beyond] at laterFound
              have new : later = dispatch := by
                have listed := List.mem_of_getElem? laterFound
                simpa using listed
              exact absurd (new ▸ sameRoute) own

/-- A request that goes out in order. -/
theorem Told.sends {env : Env} {snapshot : RouteRecord} (told : Told system)
    (found : system.dispatches[index]? = some dispatch) (stage : dispatch.stage = .read snapshot)
    (ordered : system.inOrder (.send env index) = true) :
    Told (system.send env index dispatch snapshot) := by
  have named : snapshot.id = dispatch.intent.route :=
    told.snapshots dispatch (List.mem_of_getElem? found) snapshot stage
  have earlier : ∀ entry ∈ system.received, entry.2.route = dispatch.intent.route → entry.1 < index := by
    intro entry member sameRoute
    simp only [inOrder, found, List.all_eq_true] at ordered
    simpa [sameRoute] using ordered entry member
  refine ⟨?_, ?_, ?_, told.closed⟩
  · intro other member record read
    rcases List.mem_or_eq_of_mem_set member with old | rfl
    · exact told.snapshots other old record read
    · cases read
  · intro entry member
    rcases List.mem_append.mp member with old | new
    · obtain ⟨other, held, sameRoute⟩ := told.places entry old
      simp only [System.send]
      rw [getElem?_moved found]
      split
      · rename_i same
        obtain rfl := Option.some.inj (found.symm.trans (same ▸ held))
        exact ⟨_, rfl, sameRoute⟩
      · exact ⟨other, held, sameRoute⟩
    · obtain rfl := List.mem_singleton.mp new
      exact ⟨_, (getElem?_moved found _ _).trans (if_pos rfl), named.symm⟩
  · intro id record held installed
    obtain ⟨place, latestDispatch, latest, agrees⟩ := told.latest id record held installed
    have moved := latest.moved found (.sent (Impl.dispatch env.backend
      (system.runtime.makeProgrammingRequest snapshot dispatch.intent)))
    refine ⟨place, _, moved.congr rfl, ?_⟩
    by_cases own : dispatch.intent.route = id
    · by_cases same : index = place
      · -- The latest dispatch of the route is the one that goes out.
        subst same
        obtain rfl := Option.some.inj (found.symm.trans latest.found)
        obtain ⟨operation, generation⟩ := agrees
        simp only [stage] at generation
        rw [if_pos rfl]
        refine ⟨operation, system.runtime.makeProgrammingRequest snapshot dispatch.intent, ?_, operation,
          generation⟩
        simp [lastReceived, System.send, Impl.makeProgrammingRequest, named, own]
      · -- A later dispatch of the route is still to be sent.
        rw [if_neg same]
        obtain ⟨operation, agrees⟩ := agrees
        refine ⟨operation, ?_⟩
        have before : index < place := by
          have reached := latest.last index dispatch found own
          omega
        have unsent : ∀ request, system.lastReceived id ≠ some (place, request) := by
          intro request told
          have member := List.mem_of_getLast? told
          simp only [List.mem_filter, decide_eq_true_eq] at member
          have overtaken := earlier _ member.1 (member.2.trans own.symm)
          omega
        split at agrees
        · exact agrees
        · exact agrees
        all_goals
          obtain ⟨request, told, -⟩ := agrees
          exact absurd told (unsent request)
    · have different : index ≠ place := by
        rintro rfl
        obtain rfl := Option.some.inj (found.symm.trans latest.found)
        exact own latest.route
      have kept : (system.send env index dispatch snapshot).lastReceived id = system.lastReceived id := by
        simp [lastReceived, System.send, Impl.makeProgrammingRequest, named, own]
      rw [if_neg different]
      unfold Installs
      rw [kept]
      exact agrees

theorem Told.reconciles (told : Told system) (reconciliations : List Reconciliation) :
    Told { system with reconciliations := reconciliations } := by
  refine ⟨told.snapshots, told.places, ?_, told.closed⟩
  intro id record found installed
  obtain ⟨index, dispatch, latest, installs⟩ := told.latest id record found installed
  exact ⟨index, dispatch, latest.congr rfl, installs⟩

theorem Told.turn (indexed : Impl.Indexed system.runtime) (ordered : system.inOrder taken = true)
    (told : Told system) (turned : Taken config system taken after) : Told after := by
  have reports : ∀ call : Call, call.action.reports = true → Told { system with
      runtime := system.runtime.step config call } := by
    intro call reporting
    have continues : ∀ seed, call.action ≠ .restart seed := by
      intro seed restarts
      rw [restarts] at reporting
      cases reporting
    have uncommitted : system.runtime.intentOf config call = none := by
      unfold Impl.intentOf
      split <;> simp_all [Action.reports]
    have committed : system.committed config call = none := by simp [System.committed, uncommitted]
    have kept : Told { system with
        runtime := system.runtime.step config call
        dispatches := system.dispatches ++ (system.committed config call).toList } :=
      told.commits indexed continues
    rw [committed] at kept
    simpa using kept
  cases turned with
  | idle => exact told
  | called continues mutates => exact told.commits indexed continues
  | restarted restarts =>
      rename_i call restartSeed
      obtain ⟨env, action⟩ := call
      obtain rfl : action = .restart restartSeed := restarts
      have shut : system.runtime.opened = false := by simpa [inOrder] using ordered
      obtain ⟨empty, files⟩ := told.closed shut
      have routes : (system.runtime.step config ⟨env, .restart restartSeed⟩).routes = ∅ ∧
          ((system.runtime.step config ⟨env, .restart restartSeed⟩).opened = false →
            (system.runtime.step config ⟨env, .restart restartSeed⟩).files = {}) := by
        simp only [Impl.step]
        obtain ⟨fenced, barred, failed | opened⟩ := Impl.restart_empty config env restartSeed files
        · rw [failed]
          exact ⟨empty, fun _ => files⟩
        · rw [opened]
          exact ⟨rfl, fun _ => rfl⟩
      refine ⟨?_, ?_, ?_, fun closed => ⟨routes.1, routes.2 closed⟩⟩
      · intro dispatch member snapshot read
        obtain ⟨earlier, -, rfl⟩ := List.mem_map.mp member
        cases read
      · intro entry member
        obtain ⟨dispatch, held, sameRoute⟩ := told.places entry member
        exact ⟨{ dispatch with stage := .finished }, by simp [held], sameRoute⟩
      · intro id record found
        rw [routes.1] at found
        simp at found
  | missing found stage absent =>
      refine told.moves found (by simp) ?_
      intro record held
      cases absent.symm.trans held
  | read found stage held =>
      refine told.moves found ?_ ?_
      · intro record same
        obtain rfl := Stage.read.inj same
        exact indexed.routes _ _ held
      · intro record recordHeld _ installs
        obtain rfl := Option.some.inj (held.symm.trans recordHeld)
        exact ⟨installs.1, rfl⟩
  | sent found stage => exact told.sends found stage ordered
  | deferred found stage =>
      refine told.moves found (by simp) ?_
      intro record held _ installs
      obtain ⟨operation, received⟩ := installs
      simp only [stage] at received
      exact ⟨operation, received⟩
  | completed found stage =>
      rename_i env index dispatch answer
      refine (reports ⟨env, .complete answer.immediate⟩ rfl).moves found (by simp) ?_
      intro record held _ installs
      obtain ⟨operation, received⟩ := installs
      simp only [stage] at received
      exact ⟨operation, received⟩
  | looked held => exact told.reconciles _
  | asked found => exact told.reconciles _
  | stored found =>
      rename_i env index route commits result
      exact (reports ⟨env, .reconcile route result⟩ rfl).reconciles _

/-- In every run whose requests arrive in order, an installed record is what the backend
was told last about its route, whenever no dispatch is pending. -/
theorem run_agrees {turns : List Turn}
    (along : Along (turn config) (fun system taken => system.inOrder taken = true) (start seed) turns)
    (quiet : (run (turn config) (start seed) turns).quiet = true)
    {record : RouteRecord}
    (found : (run (turn config) (start seed) turns).runtime.routes[id]? = some record)
    (installed : record.lifecycle = .installed) :
    ∃ place request, (run (turn config) (start seed) turns).lastReceived id = some (place, request) ∧
      request.operation ≠ .withdraw ∧ request.desiredGeneration = record.generation := by
  have initially : Told (start seed) := by
    refine ⟨by simp [start], by simp [start], ?_, fun _ => ⟨rfl, rfl⟩⟩
    intro id record found
    simp [start, Impl.initial, Impl.fresh] at found
  have told := run_threads along initially fun system taken after indexed ordered told turned =>
    told.turn indexed ordered turned
  obtain ⟨index, dispatch, latest, -, installs⟩ := told.latest id record found (by
    simp [RouteRecord.installs, installed])
  have finished : dispatch.stage.pending = false := by
    simpa using List.all_eq_true.mp quiet dispatch (List.mem_of_getElem? latest.found)
  split at installs
  · rename_i stage
    rw [stage] at finished
    cases finished
  · rename_i stage
    rw [stage] at finished
    cases finished
  all_goals exact ⟨index, installs⟩

/-- A route is published, withdrawn and published again, each time with its dispatch. -/
theorem run_agrees_republished :
    (((run (turn Scenario.config) (start 0) Scenario.republished).runtime.routes[(⟨1⟩ : RouteId)]?).map
        (fun record => (record.lifecycle, record.generation.value)) = some (.installed, 3)) ∧
      ∀ record, (run (turn Scenario.config) (start 0) Scenario.republished).runtime.routes[
          (⟨1⟩ : RouteId)]? = some record →
        ∃ place request,
          (run (turn Scenario.config) (start 0) Scenario.republished).lastReceived ⟨1⟩ =
            some (place, request) ∧
          request.operation ≠ .withdraw ∧ request.desiredGeneration = record.generation := by
  have installed : ((run (turn Scenario.config) (start 0) Scenario.republished).runtime.routes[
      (⟨1⟩ : RouteId)]?).map (fun record => (record.lifecycle, record.generation.value)) =
      some (.installed, 3) := by decide +kernel
  refine ⟨installed, fun record found => ?_⟩
  rw [found, Option.map_some] at installed
  exact run_agrees (by decide +kernel) (by decide +kernel) found (Prod.mk.inj (Option.some.inj installed)).1

/-- A withdrawal that was committed first reaches the backend last. -/
theorem withdrawal_overtaken :
    (run (turn Scenario.config) (start 0) Scenario.overtaken).quiet = true ∧
      ((run (turn Scenario.config) (start 0) Scenario.overtaken).runtime.routes[(⟨1⟩ : RouteId)]?).map
        (·.lifecycle) = some .installed ∧
      ((run (turn Scenario.config) (start 0) Scenario.overtaken).lastReceived ⟨1⟩).map (·.2.operation) =
        some .withdraw := by
  decide +kernel

end System

end RouteFabric
