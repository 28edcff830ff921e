import RouteFabric.Safety.Generations

/-!
# Stale completions

A completion is taken in only when nothing happened to its route since the attempt was
recorded. The coordinator compares generations and the epoch, not the order of events:
that the comparison refuses every overtaken attempt rests on the counters growing with
every change of intent (`Contents.Later`), and on the attempt never having been for a
later generation than its route had (`Pending`).
-/

namespace RouteFabric

open OrderedMap Run

/-- The actions that draw the identity of a new attempt. -/
def Action.draws : Action → Bool
  | .publish .. | .withdraw .. | .revalidate .. => true
  | _ => false

/-- The actions that change the intent of routes. -/
def Action.mutates : Action → Bool
  | .publish .. | .withdraw .. | .revalidate .. | .retire .. | .revoke .. | .invalidate .. => true
  | _ => false

namespace Impl

variable {config : RuntimeConfig} {env : Env} {seed : Word} {origin state : Impl} {edit : Edit}
  {call : Call}

/-! ## Outstanding attempts -/

/-- No outstanding attempt is ahead of its route or of the epoch. -/
def Pending (state : Impl) : Prop :=
  ∀ (id : ProgrammingAttemptId) attempt, state.attempts[id]? = some attempt → attempt.resolved = false →
    attempt.epoch.value ≤ state.epoch.value ∧ ∃ record, state.routes[attempt.route]? = some record ∧
      attempt.programmingGeneration.value ≤ record.programmingGeneration.value ∧
      attempt.desiredGeneration.value ≤ record.generation.value

/-- An outstanding attempt that continues another is that attempt. -/
theorem Continues.eq_of_pending {attempt known : ProgrammingAttemptRecord}
    (continues : attempt.Continues known) (pending : attempt.resolved = false) : attempt = known := by
  rcases continues with same | ⟨-, rfl⟩
  · exact same
  · simp at pending

theorem Legal.pending (indexed : Indexed origin) (unused : origin.createsUnused config call = true)
    (legal : Legal config env origin call.action state edit) (pending : Pending state) :
    Pending (state.applyEdit edit) := by
  intro id attempt found outstanding
  rw [(applyEdit_frame edit).epoch]
  rcases legal.attempts_cases indexed unused found with
    ⟨known, held, continues⟩ | ⟨-, -, updated, only, opens⟩
  · obtain rfl := Continues.eq_of_pending continues outstanding
    obtain ⟨epoch, record, present, programmed, desired⟩ := pending id attempt held outstanding
    obtain ⟨later, laterFound, grown⟩ := (legal.later indexed unused).routes _ record present
    exact ⟨epoch, later, laterFound, programmed.trans grown.programmingGeneration,
      desired.trans grown.generation⟩
  · have waits := opens.waits
    have present : (state.applyEdit edit).routes[updated.id]? = some updated := by
      rw [applyEdit_routes, only]
      exact lookup_insert_self _ _ _
    rw [waits]
    exact ⟨Nat.le_refl _, updated, present, Nat.le_refl _, Nat.le_refl _⟩

theorem pending_congr {after : Impl} (pending : Pending state) (contents : after.contents = state.contents) :
    Pending after := by
  have epoch : after.epoch = state.epoch := congrArg Contents.epoch contents
  have routes : after.routes = state.routes := congrArg Contents.routes contents
  have attempts : after.attempts = state.attempts := congrArg Contents.attempts contents
  unfold Pending
  rw [epoch, routes, attempts]
  exact pending

theorem pending_move {before after : Impl} (indexed : Indexed origin)
    (unused : origin.createsUnused config call = true) (pending : Pending origin) (held : Pending before)
    (move : Move config call.env origin call.action before after) : Pending after := by
  cases move with
  | draw ids => exact held
  | mutate unbroken ids index legal =>
      rename_i edit
      rcases acknowledge_cases config (call.env.io index) { before with ids := ids } edit with
        ⟨files, -, applied⟩ | ⟨files, failure, -, failed⟩
      · rw [applied]
        exact pending_congr (legal.pending indexed unused held) (applyEdit_contents_congr (by rfl) edit)
      · rw [failed]
        exact held
  | administer administers =>
      exact pending_congr pending (perform_administered administers).contents
  | save compacts => exact pending
  | advance advances following saved =>
      intro id attempt found outstanding
      obtain ⟨epoch, rest⟩ := pending id attempt found outstanding
      have next := (CounterId.next_eq_ok following).1
      refine ⟨?_, rest⟩
      simp only
      omega

/-- A restart leaves no attempt outstanding. -/
theorem recovery_settles {files after : StoreFiles} {loaded : PersistedState}
    (loads : Loads config env files after loaded) {id : ProgrammingAttemptId}
    {attempt : ProgrammingAttemptRecord}
    (found : (recovery config env seed after loaded).1.attempts[id]? = some attempt) :
    attempt.resolved = true :=
  recover_settled loads.indexed id found

theorem step_pending (indexed : Indexed state) (unused : state.createsUnused config call = true)
    (pending : Pending state) : Pending (state.step config call) := by
  refine step_preserves indexed pending ?_ ?_
  · intro opened before after live heldIndexed held move
    exact pending_move indexed unused pending held move
  · intro restartSeed after action restarts
    cases restarts with
    | refused => exact pending
    | unsaved loads failed => exact pending
    | opened checked loads saved =>
        intro id attempt found outstanding
        rw [recovery_settles loads found] at outstanding
        cases outstanding

theorem initial_pending (seed : Word) : Pending (initial seed) := by
  intro id attempt found
  simp [initial, fresh] at found

/-! ## Back to the recording -/

/-- The identity that a call would record an attempt under. -/
def drawsAttempt (state : Impl) (call : Call) : Option ProgrammingAttemptId :=
  if call.action.draws then some (generateId state.ids).1 else none

/-- An edit records a new attempt under the identity that its call draws. -/
theorem Legal.drawn (legal : Legal config env origin call.action state edit)
    {attempt : ProgrammingAttemptRecord} (member : attempt ∈ edit.attempts)
    (outstanding : attempt.resolved = false) : origin.drawsAttempt call = some attempt.attempt := by
  unfold drawsAttempt
  generalize call.action = action at legal
  cases legal with
  | takeover | retire | revoke | invalidate | observe => cases member
  | create created =>
      obtain rfl := List.mem_singleton.mp member
      rw [created.dispatched.drawn, created.frame.ids]
      rfl
  | replace replaced =>
      obtain rfl := List.mem_singleton.mp member
      rw [replaced.dispatched.drawn]
      rfl
  | withdraw withdrawn =>
      obtain rfl := List.mem_singleton.mp member
      rw [withdrawn.dispatched.drawn]
      rfl
  | revalidate revalidated =>
      obtain rfl := List.mem_singleton.mp member
      rw [revalidated.dispatched.drawn]
      rfl
  | resolve awaited =>
      obtain rfl := List.mem_singleton.mp member
      cases outstanding
  | complete completed =>
      obtain rfl := List.mem_singleton.mp member
      cases outstanding

/-- An attempt outstanding after a step that did not record it was outstanding before. -/
theorem step_outstanding (indexed : Indexed state) (unused : state.createsUnused config call = true)
    {id : ProgrammingAttemptId} (spares : state.drawsAttempt call ≠ some id)
    {attempt : ProgrammingAttemptRecord} (outstanding : attempt.resolved = false)
    (found : (state.step config call).attempts[id]? = some attempt) :
    state.attempts[id]? = some attempt ∧ state.contents.Later (state.step config call).contents := by
  revert found
  refine step_preserves (motive := fun current => current.attempts[id]? = some attempt →
    state.attempts[id]? = some attempt ∧ state.contents.Later current.contents) indexed
    (fun held => ⟨held, .refl _⟩) ?_ ?_
  · intro opened before after live heldIndexed held move found
    have kept : before.attempts[id]? = some attempt := by
      cases move with
      | draw ids => exact found
      | mutate unbroken ids index legal =>
          rename_i edit
          rcases acknowledge_cases config (call.env.io index) { before with ids := ids } edit with
            ⟨files, -, applied⟩ | ⟨files, failure, -, failed⟩
          · rw [applied, applyEdit_attempts] at found
            have found : (before.applyEdit edit).attempts[id]? = some attempt := by
              rw [applyEdit_attempts]
              exact found
            rcases legal.attempts_cases indexed unused found with
              ⟨known, knownFound, continues⟩ | ⟨member, rfl, -⟩
            · rw [Continues.eq_of_pending continues outstanding]
              exact knownFound
            · exact absurd (legal.drawn member outstanding) spares
          · rw [failed] at found
            exact found
      | administer administers =>
          have administered : Administered state (state.perform config call.env call.action) :=
            perform_administered administers
          have same : (state.perform config call.env call.action).attempts = state.attempts :=
            congrArg Contents.attempts administered.contents
          rw [same] at found
          exact found
      | save compacts => exact found
      | advance advances following saved => exact found
    obtain ⟨recorded, later⟩ := held kept
    exact ⟨recorded, later.trans (move.later indexed unused)⟩
  · intro restartSeed after action restarts
    cases restarts with
    | refused => exact fun found => ⟨found, .refl _⟩
    | unsaved loads failed => exact fun found => ⟨found, .refl _⟩
    | opened checked loads saved =>
        intro found
        rw [recovery_settles loads found] at outstanding
        cases outstanding

/-- An attempt outstanding at the end of a run that did not record it was outstanding at
its beginning. -/
theorem run_outstanding {calls : List Call} {id : ProgrammingAttemptId} (indexed : Indexed state)
    (along : Along (step config) (fun state call => state.createsUnused config call = true ∧
      state.drawsAttempt call ≠ some id) state calls)
    {attempt : ProgrammingAttemptRecord} (outstanding : attempt.resolved = false)
    (found : (run (step config) state calls).attempts[id]? = some attempt) :
    state.attempts[id]? = some attempt ∧
      state.contents.Later (run (step config) state calls).contents := by
  induction calls generalizing state with
  | nil => exact ⟨found, .refl _⟩
  | cons call rest ih =>
      obtain ⟨reached, later⟩ := ih (indexed.step call) along.2 found
      obtain ⟨recorded, first⟩ := step_outstanding indexed along.1.1 along.1.2 outstanding reached
      exact ⟨recorded, first.trans later⟩

/-! ## Completions -/

section Completions

variable {io : IoOutcome} {backend : BackendId} {result : ProgrammingResult}

/-- A completion is applied only to an outstanding attempt that was not overtaken. -/
theorem applyCompletion_applied
    (applied : (state.applyCompletion config io backend result).2 = .applied) :
    ∃ attempt record, state.Awaited result attempt record ∧ state.overtaken attempt record = false := by
  unfold applyCompletion at applied
  split at applied
  · cases applied
  rename_i attempt known
  split at applied
  · cases applied
  rename_i outstanding
  split at applied
  · cases applied
  rename_i record found
  simp only at applied
  split at applied
  · split at applied <;> cases applied
  · rename_i current
    exact ⟨attempt, record, ⟨known, by simpa using outstanding, found⟩, by simpa using current⟩

/-- A completion is applied or leaves every route as it is. -/
theorem applyCompletion_routes :
    (state.applyCompletion config io backend result).2 = .applied ∨
      (state.applyCompletion config io backend result).1.routes = state.routes := by
  have resolves : ∀ attempt, (state.acknowledge config io { attempts := [attempt] }).1.routes = state.routes := by
    intro attempt
    rcases acknowledge_cases config io state { attempts := [attempt] } with
      ⟨files, -, applied⟩ | ⟨files, failure, -, failed⟩
    · rw [applied, applyEdit_routes]
      rfl
    · rw [failed]
  unfold applyCompletion
  split
  · exact .inr rfl
  rename_i attempt known
  split
  · exact .inr rfl
  split
  · exact .inr rfl
  rename_i record found
  simp only
  split
  · have same := resolves { attempt with resolved := true }
    split <;> rename_i acknowledged <;> rw [acknowledged] at same <;> exact .inr same
  split
  · exact .inr (resolves _)
  · rename_i lifecycle allowed
    rcases acknowledge_cases config io state
      { upserts := [record.completed config.historyLimit backend attempt result lifecycle]
        attempts := [{ attempt with resolved := true }] } with
      ⟨files, -, applied⟩ | ⟨files, failure, -, failed⟩
    · rw [applied]
      exact .inl rfl
    · rw [failed]
      exact .inr rfl

end Completions

/-! ## Runs -/

/-- Every attempt identity that a step draws is one that no earlier state of the run had on
record. -/
def FreshAttempts (config : RuntimeConfig) (seed : Word) (calls : List Call) : Prop :=
  ∀ earlier between call rest, calls = earlier ++ (between ++ call :: rest) →
    ∀ id ∈ (run (step config) (initial seed) earlier).attempts,
      (run (step config) (initial seed) (earlier ++ between)).drawsAttempt call ≠ some id

/-- Nothing happened to the route of an attempt while it was outstanding: no other attempt
was recorded for it, no mutation changed it, and the epoch is that of before. -/
structure Undisturbed (config : RuntimeConfig) (before : Impl) (calls : List Call)
    (attempt : ProgrammingAttemptRecord) : Prop where
  recorded : before.attempts[attempt.attempt]? = some attempt
  latest : ∀ (other : ProgrammingAttemptId) sibling,
    (run (step config) before calls).attempts[other]? = some sibling → sibling.route = attempt.route →
    ∃ known, before.attempts[other]? = some known ∧ sibling.Continues known
  unchanged : ∀ earlier call rest, calls = earlier ++ call :: rest → call.action.mutates = true →
    (run (step config) before (earlier ++ [call])).routes[attempt.route]? =
      (run (step config) before earlier).routes[attempt.route]?
  epoch : (run (step config) before calls).epoch = before.epoch

/-- An intent that a step changed has a later generation. -/
theorem step_unchanged (indexed : Indexed state) (unused : state.createsUnused config call = true)
    (mutates : call.action.mutates = true) (id : RouteId) (record : RouteRecord)
    (found : state.routes[id]? = some record) :
    ∃ after, (state.step config call).routes[id]? = some after ∧
      (after = record ∨ record.generation.value < after.generation.value) := by
  refine step_records (fun before after => after = before ∨
    before.generation.value < after.generation.value) indexed unused ?_ (fun _ => .inl rfl) ?_ id record found
  · intro restartSeed restarts
    rw [restarts] at mutates
    cases mutates
  · intro edit legal updated member held heldFound
    rcases legal.updates indexed member with ⟨request, attempt, publishes, created⟩ |
      ⟨earlier, -, earlierFound, ⟨-, reissued⟩ | ⟨reports, -⟩⟩
    · obtain ⟨-, absent⟩ := created.unused unused publishes
      exact absurd ((mem_iff_lookup _ _).mpr ⟨held, heldFound⟩) absent
    · obtain rfl := Option.some.inj (earlierFound.symm.trans heldFound)
      have next := reissued.advanced.next
      exact .inr (by omega)
    · cases action : call.action <;> simp_all [Action.reports, Action.mutates]

/-- An attempt that is not overtaken at the end of a run was not disturbed during it. -/
theorem undisturbed {calls : List Call} (indexed : Indexed state) (pending : Pending state)
    {attempt : ProgrammingAttemptRecord}
    (along : Along (step config) (fun state call => state.createsUnused config call = true ∧
      state.drawsAttempt call ≠ some attempt.attempt) state calls)
    (outstanding : attempt.resolved = false) {record : RouteRecord}
    (known : (run (step config) state calls).attempts[attempt.attempt]? = some attempt)
    (found : (run (step config) state calls).routes[attempt.route]? = some record)
    (current : (run (step config) state calls).overtaken attempt record = false) :
    Undisturbed config state calls attempt := by
  simp only [overtaken, ne_eq, decide_eq_false_iff_not, not_or, not_not] at current
  obtain ⟨programmed, desired, sameEpoch, -⟩ := current
  obtain ⟨recorded, later⟩ := run_outstanding indexed along outstanding known
  obtain ⟨epoch, first, firstFound, firstProgrammed, firstDesired⟩ :=
    pending _ attempt recorded outstanding
  refine ⟨recorded, ?_, ?_, ?_⟩
  · -- An attempt opened since would have raised the programming generation.
    intro other sibling siblingFound sameRoute
    rcases later.attempts other sibling siblingFound with continued | opened
    · exact continued
    · have above := opened.later first (sameRoute ▸ firstFound)
      obtain ⟨last, lastFound, reached⟩ := opened.reached
      rw [sameRoute] at lastFound
      obtain rfl := Option.some.inj (found.symm.trans lastFound)
      rw [programmed] at firstProgrammed
      omega
  · rintro earlier call rest rfl mutates
    obtain ⟨before, allowed, after⟩ := along_append.mp along
    rw [run_append, run_cons] at known found
    rw [run_append, run_cons, run_nil]
    have reached : Indexed (run (step config) state earlier) :=
      before.invariant (fun state call held _ => held.step call) indexed
    obtain ⟨stepped, afterwards⟩ := run_outstanding (reached.step call) after outstanding known
    obtain ⟨held, -⟩ := step_outstanding reached allowed.1 allowed.2 outstanding stepped
    obtain ⟨-, beforehand⟩ := run_outstanding indexed before outstanding held
    obtain ⟨middle, middleFound, grown⟩ := beforehand.routes _ first firstFound
    obtain ⟨next, nextFound, same | advanced⟩ :=
      step_unchanged reached allowed.1 mutates attempt.route middle middleFound
    · rw [nextFound, same]
      exact middleFound.symm
    · obtain ⟨last, lastFound, shrinks⟩ := afterwards.routes _ next nextFound
      obtain rfl := Option.some.inj (found.symm.trans lastFound)
      have lower := grown.generation
      have upper := shrinks.generation
      rw [desired] at firstDesired
      omega
  · have grows := later.epoch
    simp only [contents] at grows
    rw [sameEpoch] at epoch
    exact CounterId.ext (Nat.le_antisymm epoch grows)

/-- In every run with fresh identities a completion is applied only if its attempt is
outstanding and nothing happened to its route since it was recorded; any other completion
leaves every route as it is. -/
theorem run_completion {calls : List Call}
    (unused : Along (step config) (fun state call => state.createsUnused config call = true)
      (initial seed) calls)
    (fresh : FreshAttempts config seed calls) (io : IoOutcome) (backend : BackendId)
    (result : ProgrammingResult) :
    (((run (step config) (initial seed) calls).applyCompletion config io backend result).2 = .applied →
      ∃ attempt, (run (step config) (initial seed) calls).attempts[result.attempt]? = some attempt ∧
        attempt.resolved = false ∧ ∀ earlier rest, calls = earlier ++ rest →
          result.attempt ∈ (run (step config) (initial seed) earlier).attempts →
          Undisturbed config (run (step config) (initial seed) earlier) rest attempt) ∧
    (((run (step config) (initial seed) calls).applyCompletion config io backend result).2 ≠ .applied →
      ((run (step config) (initial seed) calls).applyCompletion config io backend result).1.routes =
        (run (step config) (initial seed) calls).routes) := by
  refine ⟨fun applied => ?_, fun discarded => applyCompletion_routes.resolve_left discarded⟩
  obtain ⟨attempt, record, ⟨known, outstanding, found⟩, current⟩ := applyCompletion_applied applied
  refine ⟨attempt, known, outstanding, ?_⟩
  rintro earlier rest rfl present
  have own : attempt.attempt = result.attempt := (run_indexed _).attempts _ _ known
  obtain ⟨before, after⟩ := along_append.mp unused
  obtain ⟨indexed, pending⟩ := run_preserves (motive := Pending) before (initial_pending seed)
    fun state call indexed allowed held => step_pending indexed allowed held
  rw [run_append] at known found current
  rw [← own] at known present
  refine undisturbed indexed pending (after.and_each fun between call last split => ?_) outstanding
    known found current
  rw [← run_append]
  exact fresh earlier between call last (by rw [split]) _ present

/-- A second route is published while the attempt of the first one is outstanding. -/
def Scenario.twoPublished : List Call :=
  Scenario.published ++ [⟨Scenario.env, .publish { Scenario.publication 2 with key := Scenario.otherKey }⟩]

/-- The backend reports that it applied the first publication when the second attempt is on record. -/
theorem run_completion_published :
    ∃ attempt, (run (step Scenario.config) (initial 0) Scenario.twoPublished).attempts[
        Scenario.firstReport.attempt]? = some attempt ∧ attempt.resolved = false ∧
      Undisturbed Scenario.config (run (step Scenario.config) (initial 0) Scenario.published)
        [⟨Scenario.env, .publish { Scenario.publication 2 with key := Scenario.otherKey }⟩] attempt ∧
      (run (step Scenario.config) (initial 0) Scenario.twoPublished).attempts.size = 2 := by
  have unused : Along (step Scenario.config) (fun state call => state.createsUnused Scenario.config call = true)
      (initial 0) Scenario.twoPublished := by decide +kernel
  have distinct : ∀ last < 4, ∀ first < last + 1, ∀ call ∈ Scenario.twoPublished[last]?,
      ∀ id ∈ (run (step Scenario.config) (initial 0) (Scenario.twoPublished.take last)).drawsAttempt call,
        (run (step Scenario.config) (initial 0) (Scenario.twoPublished.take first)).attempts[id]? = none := by
    decide +kernel
  have fresh : FreshAttempts Scenario.config 0 Scenario.twoPublished := by
    intro earlier between call rest split id member draws
    have lengths := congrArg List.length split
    have total : Scenario.twoPublished.length = 4 := rfl
    simp only [List.length_append, List.length_cons, total] at lengths
    have start : earlier = Scenario.twoPublished.take earlier.length := by rw [split, List.take_left]
    have reached : earlier ++ between = Scenario.twoPublished.take (earlier ++ between).length := by
      rw [split, ← List.append_assoc, List.take_left]
    have here : Scenario.twoPublished[(earlier ++ between).length]? = some call := by
      rw [split, ← List.append_assoc, List.getElem?_append_right (Nat.le_refl _), Nat.sub_self]
      rfl
    rw [start, mem_iff_lookup] at member
    obtain ⟨attempt, held⟩ := member
    rw [reached] at draws
    have absent := distinct (earlier ++ between).length (by rw [List.length_append]; omega) earlier.length
      (by rw [List.length_append]; omega) call here id draws
    cases held.symm.trans absent
  have applied : ((run (step Scenario.config) (initial 0) Scenario.twoPublished).applyCompletion
      Scenario.config {} Scenario.env.backend.id Scenario.firstReport).2 = .applied := by decide +kernel
  obtain ⟨attempt, known, outstanding, undisturbed⟩ := (run_completion unused fresh {}
    Scenario.env.backend.id Scenario.firstReport).1 applied
  have recorded : Scenario.firstReport.attempt ∈
      (run (step Scenario.config) (initial 0) Scenario.published).attempts := by decide +kernel
  exact ⟨attempt, known, outstanding, undisturbed Scenario.published _ rfl recorded, by decide +kernel⟩

end Impl

end RouteFabric
