import RouteFabric.Safety.Generations

/-!
# Expected generations

A withdrawal that names the generation it expects is refused unless the route has it. A
publication is checked the same way when it replaces a record. One that creates a route,
because its key leads to no record or to a lineage that it takes over, never looks at the
generation it was given.

Because generations only grow, two requests that expect the same generation of one route
cannot both change it.
-/

namespace RouteFabric

open OrderedMap Run

/-- The generation that a request expects its route to have. -/
def Action.expects : Action → RouteGeneration
  | .publish request => request.expectedGeneration
  | .withdraw request => request.expectedGeneration
  | _ => .absent

namespace Scenario

/-- A publication over another path that expects the first generation. -/
def expecting (path : Nat) : PublishRequest :=
  { publication 0 with
    binding := { binding with path := ⟨BitVec.ofNat 128 path⟩ }, expectedGeneration := .one }

def replacement (path : Nat) : Call := ⟨env, .publish (expecting path)⟩

end Scenario

namespace Impl

variable {config : RuntimeConfig} {seed : Word} {state : Impl} {call : Call}

/-- What a request with an expectation may succeed on: a record of its route that has the
expected generation and that the call does not put another lineage in the place of. -/
def MeetsExpectation (config : RuntimeConfig) (state : Impl) (call : Call) : Prop :=
  match call.action with
  | .publish request => request.expectedGeneration.isValid = true →
      ∀ outcome, (state.publishLocked config call.env request).2 = .ok outcome →
        ∃ record, state.lookupKey request.key = some record ∧
          record.generation = request.expectedGeneration ∧
          (state.publishLocked config call.env request).1.keyIndex[request.key]? = some record.id
  | .withdraw request => request.expectedGeneration.isValid = true →
      ∀ outcome, (state.withdrawLocked config call.env request).2 = .ok outcome →
        ∃ record, state.routes[request.route]? = some record ∧
          record.generation = request.expectedGeneration
  | _ => True

/-- The route for which a request committed a new intent. -/
def committed (config : RuntimeConfig) (state : Impl) (call : Call) : Option RouteId :=
  match call.action with
  | .publish request =>
      match (state.publishLocked config call.env request).2 with
      | .ok (.inr intent) => some intent.route
      | _ => none
  | .withdraw request =>
      match (state.withdrawLocked config call.env request).2 with
      | .ok (.inr intent) => some intent.route
      | _ => none
  | _ => none

/-- Whether a publication that expects a generation passes the checks of a creation. -/
def expectsCreation (config : RuntimeConfig) (state : Impl) (call : Call) : Bool :=
  match call.action with
  | .publish request => request.expectedGeneration.isValid && state.reachesCreation config request
  | _ => false

/-- A step at which no publication with an expectation creates a route, and none creates
one under an identity in use. -/
structure ChecksExpectation (config : RuntimeConfig) (state : Impl) (call : Call) : Prop where
  replaces : state.expectsCreation config call = false
  unused : state.createsUnused config call = true

instance (config : RuntimeConfig) (state : Impl) (call : Call) :
    Decidable (ChecksExpectation config state call) :=
  decidable_of_iff (state.expectsCreation config call = false ∧ state.createsUnused config call = true)
    ⟨fun parts => ⟨parts.1, parts.2⟩, fun checks => ⟨checks.replaces, checks.unused⟩⟩

/-! ## One request -/

theorem commit_named {record : RouteRecord} (live : record.lifecycle ≠ .superseded) :
    (state.commit record).keyIndex[record.key]? = some record.id := by
  unfold commit
  split <;> simp [indexInsert, live]

/-- A published record holds its key. -/
theorem Intends.named {env : Env} {request : PublishRequest} {after : Impl} {intent : Intent}
    {updated : RouteRecord}
    (intends : Intends config env state (.publish request) after intent updated) :
    after.keyIndex[updated.key]? = some updated.id := by
  obtain ⟨before, legal, ids, files, rfl⟩ := intends.legal
  have live : updated.lifecycle ≠ .superseded := by
    cases legal with
    | create created =>
        obtain ⟨programmingGeneration, -, made⟩ := created.made
        rw [made]
        nofun
    | replace replaced =>
        obtain ⟨_, _, programmingGeneration, -, -, made⟩ := replaced.made
        rw [made]
        nofun
  rw [applyEdit_keyIndex]
  exact commit_named live

/-- A valid expectation that was not refused is the generation of the record. -/
theorem expectation_met {expected generation : RouteGeneration} (valid : expected.isValid = true)
    (accepted : ¬ (expected.isValid = true ∧ expected ≠ generation)) : generation = expected := by
  by_contra different
  exact accepted ⟨valid, fun same => different same.symm⟩

theorem meetsExpectation (indexed : Indexed state) (replaces : state.expectsCreation config call = false) :
    MeetsExpectation config state call := by
  unfold MeetsExpectation
  split
  · rename_i request action
    intro valid outcome succeeded
    have unreached : state.reachesCreation config request = false := by
      simpa [expectsCreation, action, valid] using replaces
    cases result : state.publishLocked config call.env request with
    | mk after answer =>
        rw [result] at succeeded
        obtain rfl : answer = .ok outcome := succeeded
        cases outcome with
        | inl replay =>
            obtain ⟨rfl, -, registration, record, -, found, checked, -⟩ :=
              publishLocked_replays indexed result
            have expected := expectation_met valid (checkReplacement_eq_ok.mp checked).2
            exact ⟨record, found, expected, (indexed.lookupKey found).1⟩
        | inr intent =>
            obtain ⟨updated, intends, sameKey, ⟨-, -, reaches⟩ |
              ⟨-, registration, record, -, found, sameId, checked⟩⟩ := publishLocked_intends indexed result
            · rw [unreached] at reaches
              cases reaches
            · have expected := expectation_met valid (checkReplacement_eq_ok.mp checked).2
              have named := intends.named
              rw [sameKey, sameId] at named
              exact ⟨record, found, expected, named⟩
  · rename_i request action
    intro valid outcome succeeded
    obtain ⟨record, target⟩ := withdrawLocked_target succeeded
    obtain ⟨mutable, accepted⟩ := withdrawTarget_eq_ok target
    exact ⟨record, mutable.found, expectation_met valid accepted⟩
  · trivial

theorem step_of_opened (opened : state.opened = true) (continues : call.action.restarts = false) :
    state.step config call = state.perform config call.env call.action := by
  unfold step
  split
  · rename_i restartSeed action
    rw [action] at continues
    cases continues
  · rw [if_pos (by rw [takes, opened, Bool.true_or])]

/-- A request that commits an intent advances the generation of a route that had the one
it expected. -/
theorem committed_advances (indexed : Indexed state)
    (replaces : state.expectsCreation config call = false) {route : RouteId}
    (commits : state.committed config call = some route) (valid : call.action.expects.isValid = true) :
    ∃ record later, state.routes[route]? = some record ∧ record.generation = call.action.expects ∧
      (state.step config call).routes[route]? = some later ∧
      later.generation.value = record.generation.value + 1 := by
  obtain ⟨env, action⟩ := call
  cases action with
  | publish request =>
      simp only [committed] at commits
      split at commits <;> try cases commits
      rename_i intent succeeded
      have unreached : state.reachesCreation config request = false := by
        have expecting : request.expectedGeneration.isValid = true := valid
        simpa [expectsCreation, expecting] using replaces
      obtain ⟨updated, intends, -, ⟨-, -, reaches⟩ |
        ⟨-, registration, record, authority, found, sameId, checked⟩⟩ :=
          publishLocked_intends indexed (Prod.ext rfl succeeded)
      · rw [unreached] at reaches
        cases reaches
      have opened : state.opened = true := (publishAuthority_eq_ok.mp authority).2.2.2.2.2.1
      obtain ⟨-, held, -⟩ := indexed.lookupKey found
      obtain ⟨before, legal, -⟩ := intends.legal
      rcases legal.updates indexed List.mem_cons_self with ⟨other, attempt, same, created⟩ |
        ⟨earlier, rfl, earlierHeld, ⟨-, reissued⟩ | ⟨reports, -⟩⟩
      · cases same
        rw [created.reaches] at unreached
        cases unreached
      · rw [sameId] at earlierHeld
        obtain rfl := Option.some.inj (held.symm.trans earlierHeld)
        refine ⟨record, updated, ?_, expectation_met valid (checkReplacement_eq_ok.mp checked).2, ?_,
          reissued.advanced.next⟩
        · rw [intends.route, sameId]
          exact held
        · rw [step_of_opened opened rfl]
          exact intends.found
      · cases reports
  | withdraw request =>
      simp only [committed] at commits
      split at commits <;> try cases commits
      rename_i intent succeeded
      obtain ⟨updated, intends⟩ := withdrawLocked_intends (Prod.ext rfl succeeded)
      obtain ⟨before, legal, -⟩ := intends.legal
      generalize attempts : [intent.attempt] = recorded at legal
      cases legal with
      | withdraw withdrawn =>
          obtain ⟨mutable, accepted⟩ := withdrawTarget_eq_ok withdrawn.target
          have target := withdrawn.target
          simp only [withdrawTarget, bind_eq_ok, exists_unit, checkMutation_eq_ok] at target
          have found := mutable.found
          rw [← indexed.routes _ _ found, ← withdrawn.reissued.id, ← intends.route] at found
          refine ⟨_, updated, found, expectation_met valid accepted, ?_, withdrawn.reissued.advanced.next⟩
          rw [step_of_opened target.1.2.2.2.2.2 rfl]
          exact intends.found
  | _ => cases commits

/-! ## Runs -/

/-- Along every run in which no publication with an expectation creates a route, and none
creates one under an identity in use, requests succeed only on the generation that they
expect, and of those that expect the same generation of a route at most one changes it.
Restarts end the requests that are under way. -/
theorem run_meetsExpectation {calls : List Call}
    (along : Along (step config) (ChecksExpectation config) (initial seed) calls) :
    (∀ earlier call rest, calls = earlier ++ call :: rest →
      MeetsExpectation config (run (step config) (initial seed) earlier) call) ∧
    ∀ earlier first between second rest, calls = earlier ++ first :: (between ++ second :: rest) →
      (∀ call ∈ between, call.action.restarts = false) →
      first.action.expects.isValid = true → second.action.expects = first.action.expects →
      ∀ route, (run (step config) (initial seed) earlier).committed config first = some route →
        (run (step config) (initial seed) (earlier ++ first :: between)).committed config second ≠
          some route := by
  constructor
  · rintro earlier call rest rfl
    obtain ⟨-, checks, -⟩ := along_append.mp along
    exact meetsExpectation (run_indexed earlier) checks.replaces
  · rintro earlier first between second rest rfl continues valid same route committed recommitted
    obtain ⟨-, checks, later⟩ := along_append.mp along
    obtain ⟨between_along, secondChecks, -⟩ := along_append.mp later
    have indexed : Indexed (run (step config) (initial seed) earlier) := run_indexed earlier
    rw [run_append, run_cons] at recommitted
    clear along later
    generalize run (step config) (initial seed) earlier = state at *
    have alive : Along (step config) (fun state call => ChecksExpectation config state call ∧
        call.action.restarts = false) (state.step config first) between :=
      between_along.and_each fun _ call _ split => continues call (by simp [split])
    have grows : (state.step config first).contents.Later
        (run (step config) (state.step config first) between).contents :=
      alive.relates
        (fun before after => before.contents.Later after.contents) (motive := Indexed)
        (fun state => .refl _) (fun _ _ _ before after => before.trans after)
        (fun state call held _ => held.step call)
        (fun state call held allows => step_later held allows.1.unused
          fun seed files loaded action => by simp [Action.restarts, action] at allows)
        (indexed.step first)
    have reached : Indexed (run (step config) (state.step config first) between) :=
      between_along.invariant (fun state call held _ => held.step call) (indexed.step first)
    obtain ⟨record, advanced, -, expected, found, next⟩ :=
      committed_advances indexed checks.replaces committed valid
    obtain ⟨current, -, held, currentExpected, -⟩ :=
      committed_advances reached secondChecks.replaces recommitted (same ▸ valid)
    obtain ⟨later, laterFound, grown⟩ := grows.routes route advanced found
    obtain rfl := Option.some.inj (held.symm.trans laterFound)
    have bound := grown.generation
    rw [currentExpected, same, ← expected] at bound
    omega

/-- Two requests replace the first generation of a route; the second one changes nothing. -/
theorem run_meetsExpectation_raced :
    (run (step Scenario.config) (initial 0) Scenario.published).committed Scenario.config
        (Scenario.replacement 8) = some ⟨1⟩ ∧
      (run (step Scenario.config) (initial 0) (Scenario.published ++ [Scenario.replacement 8])).committed
        Scenario.config (Scenario.replacement 9) ≠ some ⟨1⟩ := by
  have along : Along (step Scenario.config) (ChecksExpectation Scenario.config) (initial 0)
      (Scenario.published ++ Scenario.replacement 8 :: ([] ++ [Scenario.replacement 9])) := by
    decide +kernel
  have first : (run (step Scenario.config) (initial 0) Scenario.published).committed Scenario.config
      (Scenario.replacement 8) = some ⟨1⟩ := by decide +kernel
  exact ⟨first, (run_meetsExpectation along).2 Scenario.published (Scenario.replacement 8) []
    (Scenario.replacement 9) [] rfl (by simp) rfl rfl ⟨1⟩ first⟩

/-- A publication that expects a generation creates a route that did not exist. -/
theorem publish_ignores_expectation :
    ¬ MeetsExpectation Scenario.config (run (step Scenario.config) (initial 0) Scenario.opening)
      (Scenario.replacement 8) := by
  intro meets
  have created : ((run (step Scenario.config) (initial 0) Scenario.opening).publishLocked Scenario.config
      Scenario.env (Scenario.expecting 8)).2.isOk = true := by decide +kernel
  have missing : ((run (step Scenario.config) (initial 0) Scenario.opening).lookupKey
      Scenario.key).isNone = true := by decide +kernel
  cases answer : ((run (step Scenario.config) (initial 0) Scenario.opening).publishLocked Scenario.config
      Scenario.env (Scenario.expecting 8)).2 with
  | error failure =>
      rw [answer] at created
      cases created
  | ok outcome =>
      obtain ⟨record, found, -⟩ := meets rfl outcome answer
      have found : (run (step Scenario.config) (initial 0) Scenario.opening).lookupKey Scenario.key =
        some record := found
      rw [found] at missing
      cases missing

end Impl

end RouteFabric
