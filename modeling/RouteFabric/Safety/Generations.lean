import RouteFabric.Safety.Attempts
import RouteFabric.Safety.Isolation

/-!
# Generations only grow

The three counters of a route never decrease along a run, a record whose generation did
not change carries the same binding and provenance, and a new attempt is for a later
programming generation than any attempt of its route before. `Contents.Later` says all of
this of two moments of a run; it is reflexive and transitive, and every move respects it.
-/

namespace RouteFabric

open OrderedMap Run

/-! ## Later records and contents -/

/-- A later version of a record. -/
structure RouteRecord.Later (before after : RouteRecord) : Prop where
  generation : before.generation.value ≤ after.generation.value
  authorityGeneration : before.authorityGeneration.value ≤ after.authorityGeneration.value
  programmingGeneration : before.programmingGeneration.value ≤ after.programmingGeneration.value
  increases : after.binding ≠ before.binding ∨ after.provenance ≠ before.provenance →
    before.generation.value < after.generation.value

namespace RouteRecord

variable {first second third : RouteRecord}

theorem Later.refl (record : RouteRecord) : record.Later record :=
  ⟨Nat.le_refl _, Nat.le_refl _, Nat.le_refl _, by simp⟩

/-- A record of the same generation has the same content. -/
theorem Later.content (later : first.Later second)
    (same : second.generation.value = first.generation.value) :
    second.binding = first.binding ∧ second.provenance = first.provenance := by
  by_contra changed
  have increased := later.increases (not_and_or.mp changed)
  omega

theorem Later.trans (before : first.Later second) (after : second.Later third) : first.Later third where
  generation := before.generation.trans after.generation
  authorityGeneration := before.authorityGeneration.trans after.authorityGeneration
  programmingGeneration := before.programmingGeneration.trans after.programmingGeneration
  increases := by
    intro changed
    have lower := before.generation
    have upper := after.generation
    by_contra same
    obtain ⟨binding, provenance⟩ := before.content (by omega)
    obtain ⟨laterBinding, laterProvenance⟩ := after.content (by omega)
    rcases changed with changed | changed
    · exact changed (laterBinding.trans binding)
    · exact changed (laterProvenance.trans provenance)

theorem Reissued.later (reissued : first.Reissued second) : first.Later second := by
  have next := reissued.advanced.next
  have nextAuthority := reissued.advanced.nextAuthority
  refine ⟨by omega, by omega, ?_, fun _ => by omega⟩
  rcases reissued.programmed with ⟨same, -⟩ | programmed
  · rw [same]
  · have := programmed.next
    omega

theorem Evidence.later (evidence : first.Evidence second) : first.Later second :=
  ⟨by rw [evidence.generation], by rw [evidence.authorityGeneration],
    by rw [evidence.programmingGeneration], by simp [evidence.binding, evidence.provenance]⟩

end RouteRecord

/-- An attempt that was opened between two moments of a run: it is for a later programming
generation than the first of them knew, and not for a later one than the second knows. -/
structure Contents.Opened (before after : Contents) (attempt : ProgrammingAttemptRecord) : Prop where
  later : ∀ record, before.routes[attempt.route]? = some record →
    record.programmingGeneration.value < attempt.programmingGeneration.value
  reached : ∃ record, after.routes[attempt.route]? = some record ∧
    attempt.programmingGeneration.value ≤ record.programmingGeneration.value

/-- What a coordinator holds at a later moment of a run. -/
structure Contents.Later (before after : Contents) : Prop where
  epoch : before.epoch.value ≤ after.epoch.value
  routes : ∀ (id : RouteId) record, before.routes[id]? = some record →
    ∃ later, after.routes[id]? = some later ∧ record.Later later
  attempts : ∀ (id : ProgrammingAttemptId) attempt, after.attempts[id]? = some attempt →
    (∃ known, before.attempts[id]? = some known ∧ attempt.Continues known) ∨
      before.Opened after attempt

theorem ProgrammingAttemptRecord.Continues.trans {first second third : ProgrammingAttemptRecord}
    (later : third.Continues second) (earlier : second.Continues first) : third.Continues first := by
  rcases later with rfl | ⟨pending, rfl⟩
  · exact earlier
  · rcases earlier with rfl | ⟨-, rfl⟩
    · exact .inr ⟨pending, rfl⟩
    · simp at pending

namespace Contents.Later

variable {first second third : Contents}

theorem refl (contents : Contents) : contents.Later contents where
  epoch := Nat.le_refl _
  routes := fun _ record found => ⟨record, found, .refl record⟩
  attempts := fun _ attempt found => .inl ⟨attempt, found, .inl rfl⟩

theorem trans (before : first.Later second) (after : second.Later third) : first.Later third where
  epoch := before.epoch.trans after.epoch
  routes := by
    intro id record found
    obtain ⟨middle, middleFound, earlier⟩ := before.routes id record found
    obtain ⟨last, lastFound, later⟩ := after.routes id middle middleFound
    exact ⟨last, lastFound, earlier.trans later⟩
  attempts := by
    intro id attempt found
    rcases after.attempts id attempt found with ⟨known, knownFound, continues⟩ | opened
    · rcases before.attempts id known knownFound with ⟨origin, originFound, earlier⟩ | opened
      · exact .inl ⟨origin, originFound, continues.trans earlier⟩
      · obtain ⟨middle, middleFound, bound⟩ := opened.reached
        obtain ⟨last, lastFound, later⟩ := after.routes _ middle middleFound
        have later := opened.later
        rw [← continues.route] at later middleFound lastFound
        rw [← continues.programmingGeneration] at later bound
        exact .inr ⟨later, last, lastFound, bound.trans ‹middle.Later last›.programmingGeneration⟩
    · refine .inr ⟨fun record held => ?_, opened.reached⟩
      obtain ⟨middle, middleFound, earlier⟩ := before.routes _ record held
      have bound := opened.later middle middleFound
      have := earlier.programmingGeneration
      omega

/-- Two attempts of one route for one programming generation, recorded at two moments of a
run, are the same attempt. -/
theorem distinct (later : first.Later second) (accounted : first.Accounted)
    {id other : ProgrammingAttemptId} {attempt sibling : ProgrammingAttemptRecord}
    (found : first.attempts[id]? = some attempt) (siblingFound : second.attempts[other]? = some sibling)
    (sameRoute : attempt.route = sibling.route)
    (sameGeneration : attempt.programmingGeneration.value = sibling.programmingGeneration.value) :
    id = other ∧ sibling.Continues attempt := by
  rcases later.attempts other sibling siblingFound with ⟨known, knownFound, continues⟩ | opened
  · have same : id = other := by
      refine accounted.distinct id other attempt known found knownFound ?_ ?_
      · rw [sameRoute, continues.route]
      · rw [sameGeneration, continues.programmingGeneration]
    subst same
    obtain rfl := Option.some.inj (found.symm.trans knownFound)
    exact ⟨rfl, continues⟩
  · obtain ⟨record, held, agrees⟩ := accounted.agrees id attempt found
    have bound := agrees.programmed
    have := opened.later record (sameRoute ▸ held)
    omega

end Contents.Later

namespace Impl

variable {config : RuntimeConfig} {env : Env} {seed : Word} {origin state : Impl} {edit : Edit}
  {call : Call}

/-! ## Steps -/

/-- The contents after an edit are later than those before. -/
theorem Legal.later (indexed : Indexed origin) (unused : origin.createsUnused config call = true)
    (legal : Legal config env origin call.action state edit) :
    state.contents.Later (state.applyEdit edit).contents where
  epoch := by
    change state.epoch.value ≤ (state.applyEdit edit).epoch.value
    rw [(applyEdit_frame edit).epoch]
  routes := by
    intro id record found
    obtain ⟨after, installed, rfl | ⟨member, rfl⟩⟩ := lookup_applyEdit_of_held state edit found
    · exact ⟨after, installed, .refl after⟩
    · refine ⟨after, installed, ?_⟩
      rcases legal.updates indexed member with ⟨request, attempt, publishes, created⟩ |
        ⟨earlier, rfl, held, ⟨-, reissued⟩ | ⟨-, evidence⟩⟩
      · obtain ⟨-, absent⟩ := created.unused unused publishes
        exact absurd ((mem_iff_lookup _ _).mpr ⟨record, found⟩) absent
      · obtain rfl := Option.some.inj (held.symm.trans found)
        exact reissued.later
      · obtain rfl := Option.some.inj (held.symm.trans found)
        exact evidence.later
  attempts := by
    intro id attempt found
    rcases legal.attempts_cases indexed unused found with
      continued | ⟨-, -, updated, only, opens⟩
    · exact .inl continued
    · have generation : attempt.programmingGeneration = updated.programmingGeneration := by
        rw [opens.waits]
        rfl
      have route : attempt.route = updated.id := opens.agrees.1
      refine .inr ⟨fun record held => ?_, updated, ?_, by rw [generation]⟩
      · rw [route] at held
        rw [generation]
        exact opens.later record held
      · rw [route]
        change (state.applyEdit edit).routes[updated.id]? = some updated
        rw [applyEdit_routes, only]
        exact lookup_insert_self _ _ _

theorem Move.later {before after : Impl} (indexed : Indexed origin)
    (unused : origin.createsUnused config call = true)
    (move : Move config call.env origin call.action before after) :
    before.contents.Later after.contents := by
  cases move with
  | draw ids => exact .refl _
  | mutate unbroken ids index legal =>
      rename_i edit
      rcases acknowledge_cases config (call.env.io index) { before with ids := ids } edit with
        ⟨files, -, applied⟩ | ⟨files, failure, -, failed⟩
      · have same : (applyEdit { before with ids := ids, files := files } edit).contents =
            (before.applyEdit edit).contents := applyEdit_contents_congr (by rfl) edit
        rw [applied, same]
        exact legal.later indexed unused
      · rw [failed]
        exact .refl _
  | administer administers =>
      have administered : Administered origin (origin.perform config call.env call.action) :=
        perform_administered administers
      rw [administered.contents]
      exact .refl _
  | save compacts => exact .refl _
  | advance advances following saved =>
      refine ⟨?_, (Contents.Later.refl _).routes, fun _ attempt found => .inl ⟨attempt, found, .inl rfl⟩⟩
      have next := (CounterId.next_eq_ok following).1
      simp only [contents]
      omega

/-- Recovery changes evidence only. -/
theorem recovery_later {files after : StoreFiles} {loaded : PersistedState}
    (loads : Loads config env files after loaded) :
    loaded.contents.Later (recovery config env seed after loaded).1.contents := by
  have recovered : Recovered _ _ _ := loads.recovered seed
  refine ⟨?_, ?_, ?_⟩
  · change loaded.epoch.value ≤ (recovery config env seed after loaded).1.epoch.value
    rw [recovered.frame.epoch, populate_epoch]
  · intro id record found
    obtain ⟨settled, recoveredFound, evidence⟩ := recovery_record loads seed found
    exact ⟨settled, recoveredFound, evidence.later⟩
  · intro id attempt found
    exact .inl (recovery_continues loads found)

/-- A restart finds in the store what was acknowledged. -/
def LoadsBack (config : RuntimeConfig) (state : Impl) (call : Call) : Prop :=
  ∀ seed files loaded, call.action = .restart seed → Loads config call.env state.files files loaded →
    loaded.contents = state.contents

/-- No step goes back, as long as created routes have new identities and restarts load
what was acknowledged. -/
theorem step_later (indexed : Indexed state) (unused : state.createsUnused config call = true)
    (loadsBack : LoadsBack config state call) :
    state.contents.Later (state.step config call).contents := by
  refine step_preserves (motive := fun current => state.contents.Later current.contents) indexed
    (.refl _) ?_ ?_
  · intro opened before after live heldIndexed held move
    exact held.trans (move.later indexed unused)
  · intro restartSeed after action restarts
    cases restarts with
    | refused => exact .refl _
    | unsaved loads failed => exact .refl _
    | opened checked loads saved =>
        have later : Contents.Later _ (recovery config call.env restartSeed _ _).1.contents :=
          recovery_later loads
        rw [loadsBack restartSeed _ _ action loads] at later
        exact later

/-! ## Ranges -/

/-- Counters that were counted to, and a watermark that is not ahead of its counter. -/
structure Counted (record : RouteRecord) : Prop where
  generation : record.generation.Storable
  authorityGeneration : record.authorityGeneration.Storable
  programmingGeneration : record.programmingGeneration.Storable
  watermark : record.invalidationWatermark.value ≤ record.authorityGeneration.value

theorem Counted.evidence {record updated : RouteRecord} (counted : Counted record)
    (evidence : record.Evidence updated) : Counted updated := by
  obtain ⟨generation, authorityGeneration, programmingGeneration, watermark⟩ := counted
  rw [← evidence.generation] at generation
  rw [← evidence.authorityGeneration] at authorityGeneration watermark
  rw [← evidence.programmingGeneration] at programmingGeneration
  rw [← evidence.invalidationWatermark] at watermark
  exact ⟨generation, authorityGeneration, programmingGeneration, watermark⟩

theorem Counted.reissued {record updated : RouteRecord} (counted : Counted record)
    (reissued : record.Reissued updated) : Counted updated where
  generation := reissued.advanced.storable
  authorityGeneration := reissued.advanced.storableAuthority
  programmingGeneration := by
    rcases reissued.programmed with ⟨same, -⟩ | programmed
    · rw [same]
      exact counted.programmingGeneration
    · exact programmed.storable
  watermark := by
    rcases reissued.watermark with same | raised
    · have next := reissued.advanced.nextAuthority
      have bound := counted.watermark
      rw [same]
      omega
    · rw [raised]

theorem Creation.counted {request : PublishRequest} {updated : RouteRecord}
    {attempt : ProgrammingAttemptRecord}
    (created : Creation config env origin state request updated attempt) : Counted updated := by
  obtain ⟨programmingGeneration, programmed, rfl⟩ := created.made
  exact ⟨CounterId.storable_one, CounterId.storable_one, programmed.storable, Nat.le_refl 1⟩

theorem Legal.counted {action : Action} (indexed : Indexed origin)
    (counted : ∀ (id : RouteId) record, origin.routes[id]? = some record → Counted record)
    (legal : Legal config env origin action state edit) (updated : RouteRecord)
    (member : updated ∈ edit.upserts) : Counted updated := by
  rcases legal.updates indexed member with ⟨request, attempt, -, created⟩ |
    ⟨record, rfl, found, ⟨-, reissued⟩ | ⟨-, evidence⟩⟩
  · exact created.counted
  · exact (counted _ record found).reissued reissued
  · exact (counted _ record found).evidence evidence

theorem step_counted (indexed : Indexed state) (loadsBack : LoadsBack config state call)
    (counted : ∀ (id : RouteId) record, state.routes[id]? = some record → Counted record) :
    ∀ (id : RouteId) record, (state.step config call).routes[id]? = some record → Counted record := by
  refine step_preserves (motive := fun current => ∀ (id : RouteId) record,
    current.routes[id]? = some record → Counted record) indexed counted ?_ ?_
  · intro opened before after live heldIndexed held move
    exact move.records held fun edit legal => legal.counted indexed counted
  · intro restartSeed after action restarts
    cases restarts with
    | refused => exact counted
    | unsaved loads failed => exact counted
    | opened checked loads saved =>
        intro id record found
        have recovered : Recovered _ _ _ := loads.recovered restartSeed
        obtain ⟨earlier, held, evidence⟩ := recovered.evidence id record found
        have same := congrArg Contents.routes (loadsBack restartSeed _ _ action loads)
        have held : earlier ∈ state.routes[id]? := by
          rw [populate_routes] at held
          exact (congrArg (fun map => map[id]?) same).symm.trans held
        exact (counted id earlier held).evidence evidence

/-! ## Exhausted counters -/

/-- The record that a mutation is addressed to. -/
def addressee (state : Impl) : Mutation → Option RouteRecord
  | .publish request => state.lookupKey request.key
  | .withdraw request => state.routes[request.route]?
  | .revalidate request => state.routes[request.route]?
  | .retire request => state.routes[request.route]?
  | .revoke request => state.routes[request.route]?

/-- Whether a mutation of a record has to dispatch it. -/
def dispatches (record : RouteRecord) : Mutation → Bool
  | .publish _ => !record.blocksRepublication
  | .withdraw _ | .revalidate _ => true
  | .retire _ | .revoke _ => false

/-- A counter that the mutation of a record has to advance is at its end. -/
def Exhausted (record : RouteRecord) (mutation : Mutation) : Prop :=
  CounterId.maxValue ≤ record.generation.value ∨ CounterId.maxValue ≤ record.authorityGeneration.value ∨
    dispatches record mutation = true ∧ CounterId.maxValue ≤ record.programmingGeneration.value

/-- The generation that a call reports. -/
def reported (config : RuntimeConfig) (env : Env) (state : Impl) : Mutation → Expected RouteGeneration
  | .publish request => (state.publishRoute config env request).2.map (·.generation)
  | .withdraw request => (state.withdrawRoute config env request).2.map (·.generation)
  | .revalidate request => (state.revalidateRoute config env request).2.map (·.generation)
  | .retire request => (state.retireRoute config env request).2.map (·.generation)
  | .revoke request => (state.revokeRoute config env request).2.map (·.generation)

/-- A mutation that an exhausted counter stops fails, or finds nothing to do and reports
the record as it is. -/
structure Stopped (config : RuntimeConfig) (env : Env) (state : Impl) (mutation : Mutation)
    (record : RouteRecord) : Prop where
  contents : (state.mutate config env mutation).contents = state.contents
  files : (state.mutate config env mutation).files = state.files
  answer : ∀ generation, state.reported config env mutation = .ok generation →
    generation = record.generation

theorem stopped_iff {mutation : Mutation} {record : RouteRecord} :
    Stopped config env state mutation record ↔
      ((state.mutate config env mutation).contents = state.contents ∧
        (state.mutate config env mutation).files = state.files) ∧
      ∀ generation, state.reported config env mutation = .ok generation →
        generation = record.generation :=
  ⟨fun stopped => ⟨⟨stopped.contents, stopped.files⟩, stopped.answer⟩,
    fun parts => ⟨parts.1.1, parts.1.2, parts.2⟩⟩

section Exhausted

variable {mutation : Mutation} {record : RouteRecord}

theorem advanced_fails (exhausted : Exhausted record mutation) {generation : RouteGeneration}
    {authorityGeneration : RouteAuthorityGeneration} (counters : record.Advanced generation authorityGeneration)
    (programmed : dispatches record mutation = true →
      ∃ programmingGeneration, record.Programmed programmingGeneration) : False := by
  have next := counters.next
  have bound := counters.storable.2
  have nextAuthority := counters.nextAuthority
  have boundAuthority := counters.storableAuthority.2
  rcases exhausted with spent | spent | ⟨dispatched, spent⟩
  · omega
  · omega
  · obtain ⟨programmingGeneration, counted⟩ := programmed dispatched
    have nextProgramming := counted.next
    have boundProgramming := counted.storable.2
    omega

/-- A takeover advances the counters of the lineage it supersedes. -/
theorem takesOver_advances {request : PublishRequest} (addressed : state.lookupKey request.key = some record)
    (takes : state.takesOver config request = true) :
    record.blocksRepublication = true ∧
      ∃ generation authorityGeneration, record.Advanced generation authorityGeneration := by
  unfold takesOver at takes
  split at takes
  · rename_i registration found authorized held
    obtain rfl := Option.some.inj (addressed.symm.trans held)
    simp only [Bool.and_eq_true] at takes
    obtain ⟨⟨-, blocked⟩, took⟩ := takes
    cases superseded : state.takeover config registration request record with
    | error failure => simp [superseded, Except.isOk, Except.toBool] at took
    | ok updated =>
        simp only [takeover, bind_eq_ok, exists_unit, ensure_eq_ok, pure_eq_ok] at superseded
        obtain ⟨-, -, advanced, advances, -⟩ := superseded
        obtain ⟨generation, authorityGeneration, counters, -⟩ := RouteRecord.advance_eq_ok advances
        exact ⟨blocked, generation, authorityGeneration, counters⟩
  · cases takes

/-- No edit of a mutation is legal while a counter that it has to advance is at its end. -/
theorem not_legal_of_exhausted (addressed : state.addressee mutation = some record)
    (exhausted : Exhausted record mutation) {before : Impl} :
    ¬ Legal config env state mutation.action before edit := by
  intro legal
  cases mutation with
  | publish request =>
      cases legal with
      | takeover taken =>
          obtain rfl := Option.some.inj (taken.found.symm.trans addressed)
          obtain ⟨generation, authorityGeneration, counters, -⟩ := taken.made
          exact advanced_fails exhausted counters (by simp [dispatches, taken.blocked])
      | create created =>
          have found : state.lookupKey request.key = some record := addressed
          have takes : state.takesOver config request = true := by
            have reaches := created.reaches
            simpa [reachesCreation, found] using reaches
          obtain ⟨blocked, generation, authorityGeneration, counters⟩ := takesOver_advances found takes
          exact advanced_fails exhausted counters (by simp [dispatches, blocked])
      | replace replaced =>
          obtain rfl := Option.some.inj (replaced.found.symm.trans addressed)
          obtain ⟨_, _, programmingGeneration, counters, programmed, -⟩ := replaced.made
          exact advanced_fails exhausted counters fun _ => ⟨programmingGeneration, programmed⟩
  | withdraw request =>
      cases legal with
      | withdraw withdrawn =>
          have found := (withdrawTarget_eq_ok withdrawn.target).1.found
          obtain rfl := Option.some.inj (found.symm.trans addressed)
          obtain ⟨_, _, programmingGeneration, counters, programmed, -⟩ := withdrawn.made
          exact advanced_fails exhausted counters fun _ => ⟨programmingGeneration, programmed⟩
  | revalidate request =>
      cases legal with
      | revalidate revalidated =>
          have found := (revalidateTarget_eq_ok revalidated.target).1.found
          obtain rfl := Option.some.inj (found.symm.trans addressed)
          obtain ⟨_, _, programmingGeneration, counters, programmed, -⟩ := revalidated.made
          exact advanced_fails exhausted counters fun _ => ⟨programmingGeneration, programmed⟩
  | retire request =>
      cases legal with
      | retire retired =>
          have found := (retireTarget_eq_ok retired.target).2.found
          obtain rfl := Option.some.inj (found.symm.trans addressed)
          obtain ⟨generation, authorityGeneration, counters, -⟩ := retired.closing.made
          exact advanced_fails exhausted counters (by simp [dispatches])
  | revoke request =>
      cases legal with
      | revoke revoked =>
          have found := (revokeTarget_eq_ok revoked.target).1
          obtain rfl := Option.some.inj (found.symm.trans addressed)
          obtain ⟨generation, authorityGeneration, counters, -⟩ := revoked.closing.made
          exact advanced_fails exhausted counters (by simp [dispatches])

/-- Without a legal edit a mutation at most draws identities. -/
theorem Moves.draws (mutation : Mutation) {after : Impl}
    (illegal : ∀ before edit, ¬ Legal config env state mutation.action before edit)
    (moves : Moves config env state mutation.action state after) :
    after.contents = state.contents ∧ after.files = state.files := by
  refine moves_invariant (motive := fun current => current.contents = state.contents ∧
    current.files = state.files) moves ?_ ⟨rfl, rfl⟩
  intro before after held move
  cases move with
  | draw ids => exact held
  | mutate unbroken ids index legal => exact absurd legal (illegal before _)
  | administer administers => cases mutation <;> cases administers
  | save compacts => cases mutation <;> cases compacts
  | advance advances following saved => cases mutation <;> cases advances

theorem publish_stopped (indexed : Indexed state) {request : PublishRequest}
    (addressed : state.lookupKey request.key = some record)
    (illegal : ∀ before edit, ¬ Legal config env state (.publish request) before edit) :
    Stopped config env state (.publish request) record := by
  have moves : Moves config env state (.publish request) state _ := publishLocked_moves indexed request
  have held := Moves.draws (.publish request) illegal moves
  -- An intent would have been committed by an edit.
  have idle : ∀ after intent, state.publishLocked config env request ≠ (after, .ok (.inr intent)) := by
    intro after intent committed
    obtain ⟨updated, intends, -⟩ := publishLocked_intends indexed committed
    obtain ⟨before, legal, -⟩ := intends.legal
    exact illegal before _ legal
  rw [stopped_iff]
  simp only [mutate, reported, publishRoute]
  split <;> rename_i locked
  · rw [locked] at held
    exact ⟨held, by simp [Except.map]⟩
  · rw [locked] at held
    obtain ⟨-, -, registration, found, -, same, -, rfl⟩ := publishLocked_replays indexed locked
    obtain rfl := Option.some.inj (addressed.symm.trans same)
    exact ⟨held, by simp [Except.map, publishResult]⟩
  · exact absurd locked (idle _ _)

theorem withdraw_stopped {request : WithdrawRequest} (addressed : state.routes[request.route]? = some record)
    (illegal : ∀ before edit, ¬ Legal config env state (.withdraw request) before edit) :
    Stopped config env state (.withdraw request) record := by
  have moves : Moves config env state (.withdraw request) state _ := withdrawLocked_moves request
  have held := Moves.draws (.withdraw request) illegal moves
  have idle : ∀ after intent, state.withdrawLocked config env request ≠ (after, .ok (.inr intent)) := by
    intro after intent committed
    obtain ⟨updated, intends⟩ := withdrawLocked_intends committed
    obtain ⟨before, legal, -⟩ := intends.legal
    exact illegal before _ legal
  rw [stopped_iff]
  simp only [mutate, reported, withdrawRoute]
  split <;> rename_i locked
  · rw [locked] at held
    exact ⟨held, by simp [Except.map]⟩
  · rw [locked] at held
    obtain ⟨found, target, generation, -⟩ := withdrawLocked_replays locked
    obtain rfl := Option.some.inj (addressed.symm.trans (withdrawTarget_eq_ok target).1.found)
    exact ⟨held, by simp [Except.map, generation]⟩
  · exact absurd locked (idle _ _)

theorem revalidate_stopped {request : MutationRequest}
    (illegal : ∀ before edit, ¬ Legal config env state (.revalidate request) before edit) :
    Stopped config env state (.revalidate request) record := by
  have moves : Moves config env state (.revalidate request) state _ := revalidateLocked_moves request
  have held := Moves.draws (.revalidate request) illegal moves
  rw [stopped_iff]
  simp only [mutate, reported, revalidateRoute]
  split <;> rename_i locked
  · rw [locked] at held
    exact ⟨held, by simp [Except.map]⟩
  · obtain ⟨updated, intends⟩ := revalidateLocked_intends locked
    obtain ⟨before, legal, -⟩ := intends.legal
    exact absurd legal (illegal before _)

theorem retire_stopped {request : MutationRequest} (addressed : state.routes[request.route]? = some record)
    (illegal : ∀ before edit, ¬ Legal config env state (.retire request) before edit) :
    Stopped config env state (.retire request) record := by
  have moves : Moves config env state (.retire request) state _ := retireRoute_moves request
  refine stopped_iff.mpr ⟨Moves.draws (.retire request) illegal moves, ?_⟩
  simp only [reported, retireRoute]
  split
  · simp [Except.map]
  rename_i found target
  obtain rfl := Option.some.inj (addressed.symm.trans (retireTarget_eq_ok target).2.found)
  split
  · simp [Except.map, withdrawOutcome]
  split
  · simp [Except.map]
  · rename_i updated closed
    exact absurd (Legal.retire ⟨target, close_eq_ok (fun _ _ => next_retire) closed⟩) (illegal _ _)

theorem revoke_stopped {request : MutationRequest} (addressed : state.routes[request.route]? = some record)
    (illegal : ∀ before edit, ¬ Legal config env state (.revoke request) before edit) :
    Stopped config env state (.revoke request) record := by
  have moves : Moves config env state (.revoke request) state _ := revokeRoute_moves request
  refine stopped_iff.mpr ⟨Moves.draws (.revoke request) illegal moves, ?_⟩
  simp only [reported, revokeRoute]
  split
  · simp [Except.map]
  rename_i found target
  obtain rfl := Option.some.inj (addressed.symm.trans (revokeTarget_eq_ok target).1)
  split
  · simp [Except.map, withdrawOutcome]
  rename_i unrevoked
  rw [Bool.not_eq_true, Option.isSome_eq_false_iff, Option.isNone_iff_eq_none] at unrevoked
  split
  · simp [Except.map]
  · rename_i updated closed
    exact absurd (Legal.revoke ⟨target, unrevoked, close_eq_ok (fun _ _ => next_revoke) closed⟩)
      (illegal _ _)

/-- An exhausted counter stops every mutation that has to advance it. -/
theorem mutate_stopped (indexed : Indexed state) (addressed : state.addressee mutation = some record)
    (exhausted : Exhausted record mutation) : Stopped config env state mutation record := by
  have illegal : ∀ before edit, ¬ Legal config env state mutation.action before edit :=
    fun before edit => not_legal_of_exhausted addressed exhausted
  cases mutation with
  | publish request => exact publish_stopped indexed addressed illegal
  | withdraw request => exact withdraw_stopped addressed illegal
  | revalidate request => exact revalidate_stopped illegal
  | retire request => exact retire_stopped addressed illegal
  | revoke request => exact revoke_stopped addressed illegal

/-- An exhausted counter of a dependent stops the invalidation of its path. -/
theorem invalidatedRecords_stopped {generation : PathAuthorityGeneration}
    {authorization : PathAuthorization} {id : RouteId} {dependents : List RouteId}
    (member : id ∈ dependents)
    (fails : ∀ updated, state.invalidateOne config generation authorization id ≠ .ok updated) :
    ∃ failure, state.invalidatedRecords config generation authorization dependents = .error failure := by
  induction dependents with
  | nil => cases member
  | cons first rest ih =>
      cases invalidated : state.invalidatedRecords config generation authorization (first :: rest) with
      | error failure => exact ⟨failure, rfl⟩
      | ok records =>
          simp only [invalidatedRecords, bind_eq_ok] at invalidated
          obtain ⟨head, headOk, others, restOk, -⟩ := invalidated
          rcases List.mem_cons.mp member with rfl | later
          · exact absurd headOk (fails head)
          · obtain ⟨failure, failed⟩ := ih later
            rw [failed] at restOk
            cases restOk

/-- A route that a change of its path invalidates. -/
structure Affected (state : Impl) (path : PathId) (generation : PathAuthorityGeneration)
    (authorization : PathAuthorization) (record : RouteRecord) : Prop where
  dependent : ∃ dependents, state.pathIndex[path]? = some dependents ∧ record.id ∈ dependents.toList
  found : state.routes[record.id]? = some record
  unrevoked : state.revocations[record.id]? = none
  asserts : assertsInstallability record.lifecycle = true
  changed : ¬ (authorization = .usable ∧ generation = record.binding.pathAuthorityGeneration)

theorem invalidatePath_stopped {path : PathId} {generation : PathAuthorityGeneration}
    {authorization : PathAuthorization} (affected : state.Affected path generation authorization record)
    (exhausted : CounterId.maxValue ≤ record.generation.value ∨
      CounterId.maxValue ≤ record.authorityGeneration.value) (io : IoOutcome) :
    ∃ failure, state.invalidatePath config io path generation authorization = (state, .error failure) := by
  obtain ⟨⟨dependents, indexedPath, member⟩, found, unrevoked, asserts, changed⟩ := affected
  have fails : ∀ updated, state.invalidateOne config generation authorization record.id ≠ .ok updated := by
    intro updated invalidated
    simp only [invalidateOne, found, unrevoked, asserts, Option.isSome_none, Bool.false_eq_true,
      Bool.true_eq_false, if_false, if_neg changed, bind_eq_ok] at invalidated
    obtain ⟨advanced, advances, -⟩ := invalidated
    obtain ⟨next, nextAuthority, counters, -⟩ := RouteRecord.advance_eq_ok advances
    have value := counters.next
    have bound := counters.storable.2
    have authorityValue := counters.nextAuthority
    have authorityBound := counters.storableAuthority.2
    omega
  obtain ⟨failure, failed⟩ := invalidatedRecords_stopped member fails
  exact ⟨failure, by simp [invalidatePath, indexedPath, failed]⟩

end Exhausted

/-! ## Runs -/

/-- A step in which created routes have new identities and a restart finds in the store
what was acknowledged. -/
structure Resumes (config : RuntimeConfig) (state : Impl) (call : Call) : Prop where
  unused : state.createsUnused config call = true
  loadsBack : LoadsBack config state call

/-- How generations stand at two moments of a run, one after the other. -/
structure Monotone (config : RuntimeConfig) (before after : Impl) : Prop where
  routes : ∀ (id : RouteId) record, before.routes[id]? = some record →
    ∃ later, after.routes[id]? = some later ∧ record.Later later
  ranges : ∀ (id : RouteId) record, after.routes[id]? = some record → Counted record
  exhausted : ∀ env mutation record, after.addressee mutation = some record →
    Exhausted record mutation → Stopped config env after mutation record
  invalidations : ∀ io path generation authorization record,
    after.Affected path generation authorization record →
    CounterId.maxValue ≤ record.generation.value ∨
      CounterId.maxValue ≤ record.authorityGeneration.value →
    ∃ failure, after.invalidatePath config io path generation authorization = (after, .error failure)
  attempts : ∀ (id other : ProgrammingAttemptId) attempt sibling, before.attempts[id]? = some attempt →
    after.attempts[other]? = some sibling → attempt.route = sibling.route →
    attempt.programmingGeneration.value = sibling.programmingGeneration.value →
    id = other ∧ sibling.Continues attempt

theorem run_accounted {calls : List Call}
    (along : Along (step config) (Resumes config) (initial seed) calls) :
    Indexed (run (step config) (initial seed) calls) ∧
      (run (step config) (initial seed) calls).contents.Accounted ∧
      ∀ (id : RouteId) record, (run (step config) (initial seed) calls).routes[id]? = some record →
        Counted record := by
  refine run_preserves (motive := fun state => state.contents.Accounted ∧
    ∀ (id : RouteId) record, state.routes[id]? = some record → Counted record) along
    ⟨initial_accounted seed, by simp [initial, fresh]⟩ ?_
  rintro state call indexed resumes ⟨accounted, counted⟩
  refine ⟨?_, step_counted indexed resumes.loadsBack counted⟩
  refine step_preserves (motive := fun current => current.contents.Accounted) indexed accounted ?_ ?_
  · intro opened before after live heldIndexed held move
    exact accounted_move indexed resumes.unused accounted held move
  · intro restartSeed after action restarts
    cases restarts with
    | refused => exact accounted
    | unsaved loads failed => exact accounted
    | opened checked loads saved =>
        have same := resumes.loadsBack restartSeed _ _ action loads
        exact recovery_accounted loads (same ▸ accounted)

/-- Between any two moments of a run generations only grow. -/
theorem run_monotone {calls rest : List Call}
    (along : Along (step config) (Resumes config) (initial seed) (calls ++ rest)) :
    Monotone config (run (step config) (initial seed) calls)
      (run (step config) (initial seed) (calls ++ rest)) := by
  obtain ⟨earlier, later⟩ := along_append.mp along
  obtain ⟨indexed, accounted, -⟩ := run_accounted earlier
  obtain ⟨finalIndexed, -, counted⟩ := run_accounted along
  have relates : (run (step config) (initial seed) calls).contents.Later
      (run (step config) (initial seed) (calls ++ rest)).contents := by
    rw [run_append]
    exact later.relates (fun before after => before.contents.Later after.contents) (motive := Indexed)
      (fun state => .refl _) (fun _ _ _ before after => before.trans after)
      (fun state call held _ => held.step call)
      (fun state call held resumes => step_later held resumes.unused resumes.loadsBack) indexed
  exact ⟨relates.routes, counted,
    fun env mutation record addressed exhausted => mutate_stopped finalIndexed addressed exhausted,
    fun io _ _ _ _ affected exhausted => invalidatePath_stopped affected exhausted io,
    fun _ _ _ _ found siblingFound => relates.distinct accounted found siblingFound⟩

/-- A route is published, its path invalidated and the route revalidated. -/
theorem run_monotone_revalidated :
    Monotone Scenario.config (run (step Scenario.config) (initial 0) Scenario.published)
      (run (step Scenario.config) (initial 0) (Scenario.published ++
        [⟨Scenario.env, .invalidate ⟨7⟩ .one .stale⟩,
          ⟨Scenario.env, .revalidate (Scenario.mutation 1)⟩])) := by
  have opens : Resumes Scenario.config (initial 0) ⟨Scenario.env, .restart 1⟩ := by
    refine ⟨by decide, fun seed files loaded _ loads => ?_⟩
    cases loads with
    | nothing memory => rfl
    | stored durable read => exact absurd rfl durable
  have continues : Along (step Scenario.config) (fun state call =>
      state.createsUnused Scenario.config call = true ∧ call.action.restarts = false)
      ((initial 0).step Scenario.config ⟨Scenario.env, .restart 1⟩)
      [⟨Scenario.env, .register Scenario.operator Scenario.boot Scenario.override⟩,
        ⟨Scenario.env, .publish (Scenario.publication 1)⟩, ⟨Scenario.env, .invalidate ⟨7⟩ .one .stale⟩,
        ⟨Scenario.env, .revalidate (Scenario.mutation 1)⟩] := by decide +kernel
  exact run_monotone ⟨opens, continues.mono fun state call held =>
    ⟨held.1, fun seed files loaded action => by simp [Action.restarts, action] at held⟩⟩

end Impl

end RouteFabric
