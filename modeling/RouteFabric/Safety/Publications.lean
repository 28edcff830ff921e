import RouteFabric.Safety.Expectations
import RouteFabric.Safety.Isolation

/-!
# What a publication leaves behind

A publication that succeeds created a route, replaced one, took a lineage over, or was
answered as a replay of what is already there. On the first three paths the record of the
key carries what was requested: the completion of an inline dispatch takes evidence in and
changes nothing else. The last path compares the binding and the owner, but neither the
epoch nor the policy generation of the record it finds.
-/

namespace RouteFabric

open OrderedMap Run

theorem exists_ok_of_isOk {α : Type} {value : Expected α} (accepted : value.isOk = true) :
    ∃ result, value = .ok result := by
  cases value with
  | error failure => cases accepted
  | ok result => exact ⟨result, rfl⟩

/-- A record that carries what a publication requested, under the given epoch. -/
structure RouteRecord.Carries (record : RouteRecord) (request : PublishRequest) (epoch : CoordinatorEpoch) :
    Prop where
  binding : record.binding = request.binding
  publisher : record.provenance.publisher = request.publisher
  workerBoot : record.provenance.workerBoot = request.workerBoot
  epoch : record.provenance.epoch = epoch
  policyGeneration : record.provenance.policyGeneration = request.policyGeneration

namespace Impl

variable {config : RuntimeConfig} {env : Env} {seed : Word} {origin state after : Impl} {intent : Intent}
  {updated record : RouteRecord} {request : PublishRequest}

/-- The record found under the key of a request carries the request. -/
def TakesEffect (state : Impl) (request : PublishRequest) : Prop :=
  ∃ record, state.lookupKey request.key = some record ∧ record.Carries request state.epoch

/-- A record that a request repeats was published under the current epoch and the policy
generation of the request. -/
def ReplaysExactly (state : Impl) (request : PublishRequest) : Prop :=
  ∀ record, state.lookupKey request.key = some record → isReplay request record = true →
    record.provenance.epoch = state.epoch ∧ record.provenance.policyGeneration = request.policyGeneration

/-! ## The committed record -/

/-- A publication that returns an intent committed a record that carries the request. -/
theorem Intends.carries (intends : Intends config env origin (.publish request) after intent updated) :
    updated.Carries request after.epoch := by
  obtain ⟨before, legal, ids, files, rfl⟩ := intends.legal
  rw [(applyEdit_frame _).epoch]
  cases legal with
  | create created =>
      obtain ⟨programmingGeneration, -, rfl⟩ := created.made
      exact ⟨rfl, rfl, rfl, rfl, rfl⟩
  | replace replaced =>
      obtain ⟨_, _, programmingGeneration, -, -, rfl⟩ := replaced.made
      exact ⟨rfl, rfl, rfl, rfl, rfl⟩

theorem Intends.lookupKey (intends : Intends config env origin (.publish request) after intent updated) :
    after.lookupKey updated.key = some updated := by
  unfold Impl.lookupKey
  rw [intends.named, Option.bind_some, ← intends.route]
  exact intends.found

/-! ## The completion of its dispatch -/

/-- The key of a record names the same intent, whatever was taken in since. -/
structure Retains (state : Impl) (epoch : CoordinatorEpoch) (record : RouteRecord) : Prop where
  held : ∃ found, state.lookupKey record.key = some found ∧ found.binding = record.binding ∧
    found.provenance = record.provenance
  epoch : state.epoch = epoch

theorem Retains.takesEffect {epoch : CoordinatorEpoch} (retains : Retains state epoch record)
    (ofKey : record.key = request.key) (carries : record.Carries request epoch) : TakesEffect state request := by
  obtain ⟨found, named, binding, provenance⟩ := retains.held
  refine ⟨found, ofKey ▸ named, ?_, ?_, ?_, ?_, ?_⟩
  · rw [binding]
    exact carries.binding
  · rw [provenance]
    exact carries.publisher
  · rw [provenance]
    exact carries.workerBoot
  · rw [provenance, retains.epoch]
    exact carries.epoch
  · rw [provenance]
    exact carries.policyGeneration

/-- Completing the attempt of a committed intent changes neither what was requested nor
where it is found. -/
theorem retains_applyCompletion {io : IoOutcome} {result : ProgrammingResult}
    (held : after.lookupKey updated.key = some updated) (indexed : Indexed after)
    (own : ∀ attempt, after.attempts[result.attempt]? = some attempt → attempt.route = updated.id) :
    Retains (after.applyCompletion config io env.backend.id result).1 after.epoch updated := by
  have moves : Moves config { env with io := fun _ => io } after (.complete result) after
      (after.applyCompletion config io env.backend.id result).1 := applyCompletion_moves result
  refine moves_invariant moves (motive := fun current => Retains current after.epoch updated) ?_
    ⟨⟨updated, held, rfl, rfl⟩, rfl⟩
  intro before next kept move
  cases move with
  | draw ids => exact ⟨kept.held, kept.epoch⟩
  | mutate unbroken ids index legal =>
      rename_i edit
      have epoch : (acknowledge config io { before with ids := ids } edit).1.epoch = after.epoch :=
        (acknowledge_frame config io edit).epoch.trans kept.epoch
      refine ⟨?_, epoch⟩
      rcases acknowledge_cases config io { before with ids := ids } edit with
        ⟨files, -, applied⟩ | ⟨files, failure, -, failed⟩
      · rw [applied]
        cases legal with
        | resolve awaited idle =>
            obtain ⟨found, named, same⟩ := kept.held
            refine ⟨found, ?_, same⟩
            unfold Impl.lookupKey at named ⊢
            rw [applyEdit_keyIndex, applyEdit_routes]
            exact named
        | complete completed =>
            rename_i attempt record completion
            obtain ⟨-, present, -, -, -⟩ := indexed.lookupKey held
            have awaited := completed.awaited.found
            rw [own attempt completed.awaited.known, present] at awaited
            obtain rfl := Option.some.inj awaited
            have evidence := completed.evidence
            have live : completion.lifecycle ≠ .superseded := by
              obtain ⟨-, -, -, live, -⟩ := indexed.lookupKey held
              exact fun lost => live (evidence.superseded.mp lost)
            refine ⟨completion, ?_, evidence.binding, evidence.provenance⟩
            unfold Impl.lookupKey
            rw [applyEdit_keyIndex, applyEdit_routes, ← evidence.key]
            simp only [List.foldl_cons, List.foldl_nil]
            rw [commit_named live, Option.bind_some, lookup_insert_self]
      · rw [failed]
        exact kept.held
  | administer administers => cases administers
  | save compacts => cases compacts
  | advance advances => cases advances

theorem Intends.retains (answers : env.backend.Answers) (indexed : Indexed after)
    (intends : Intends config env origin (.publish request) after intent updated) :
    Retains (after.runDispatch config env intent).1 after.epoch updated := by
  unfold runDispatch
  rw [intends.found]
  simp only
  split
  · exact ⟨⟨updated, intends.lookupKey, rfl, rfl⟩, rfl⟩
  rename_i immediate
  refine retains_applyCompletion intends.lookupKey indexed fun attempt known => ?_
  rw [answers _ (by simpa using immediate)] at known
  have same : intent.attempt = attempt := Option.some.inj (intends.known.symm.trans known)
  rw [← same, intends.attemptRoute, intends.route]

/-! ## Replays -/

theorem isReplay_iff : isReplay request record = true ↔ record.binding = request.binding ∧
    record.provenance.publisher = request.publisher ∧ record.provenance.workerBoot = request.workerBoot ∧
    (record.lifecycle = .installed ∨ record.lifecycle = .installing) := by
  simp [isReplay]

/-- A request that repeats the record of its key commits nothing. -/
theorem publishLocked_repeats (indexed : Indexed origin) (found : origin.lookupKey request.key = some record)
    (replay : isReplay request record = true) :
    publishLocked config env request origin ≠ (after, .ok (.inr intent)) := by
  obtain ⟨-, -, -, -, valid⟩ := indexed.lookupKey found
  have settled : record.blocksRepublication = false := by
    obtain ⟨-, -, -, installed | installing⟩ := isReplay_iff.mp replay
    · simp [RouteRecord.blocksRepublication, installed]
    · simp [RouteRecord.blocksRepublication, installing]
  unfold publishLocked
  split
  · simp
  simp only [found, Option.getD_some, valid, settled, Bool.true_eq_false, Bool.false_eq_true, if_false]
  split
  · simp
  unfold publishReplace
  split
  · simp
  · simp [replay]

/-- A publication that returns a result at once found what it asks for. -/
theorem publishLocked_repeated (indexed : Indexed origin) {result : PublishResult}
    (returned : publishLocked config env request origin = (after, .ok (.inl result))) :
    after = origin ∧ ∃ record, origin.lookupKey request.key = some record ∧ isReplay request record = true := by
  have path : PublishPath config env origin request _ := publishLocked_path indexed request
  rw [returned] at path
  generalize same : (after, (.ok (.inl result) : Expected (PublishResult ⊕ Intent))) = value at path
  cases path with
  | refused => simp at same
  | replays authorized found checked replay =>
      simp only [Prod.mk.injEq, Except.ok.injEq, Sum.inl.injEq] at same
      exact ⟨same.1, _, found, replay⟩
  | creates moved =>
      unfold publishCreate at same
      split at same
      · simp at same
      · exact absurd same.symm (publishIntent_ne_inl _)
  | replaces => exact absurd same.symm (publishIntent_ne_inl _)

/-- In every reachable state, a publication that succeeds takes effect exactly when it
does not repeat a record of another epoch or another policy generation. -/
theorem publish_takes_effect_iff {calls : List Call} {result : PublishResult} (answers : env.backend.Answers)
    (succeeded : ((run (step config) (initial seed) calls).publishRoute config env request).2 = .ok result) :
    TakesEffect ((run (step config) (initial seed) calls).publishRoute config env request).1 request ↔
      ReplaysExactly (run (step config) (initial seed) calls) request := by
  have indexed : Indexed (run (step config) (initial seed) calls) := run_indexed calls
  generalize run (step config) (initial seed) calls = state at indexed succeeded
  unfold publishRoute at succeeded ⊢
  split at succeeded
  · cases succeeded
  · rename_i after reported locked
    obtain ⟨rfl, record, found, replay⟩ := publishLocked_repeated indexed locked
    obtain ⟨binding, publisher, workerBoot, -⟩ := isReplay_iff.mp replay
    constructor
    · rintro ⟨other, otherFound, carries⟩ record held _
      obtain rfl := Option.some.inj (otherFound.symm.trans held)
      exact ⟨carries.epoch, carries.policyGeneration⟩
    · intro exactly
      obtain ⟨epoch, policyGeneration⟩ := exactly record found replay
      exact ⟨record, found, binding, publisher, workerBoot, epoch, policyGeneration⟩
  · rename_i after intent locked
    have moves : Moves config env state _ state _ := publishLocked_moves indexed request
    have afterIndexed := moves.indexed indexed
    rw [locked] at afterIndexed
    obtain ⟨updated, intends, ofKey, -⟩ := publishLocked_intends indexed locked
    refine iff_of_true ?_ fun record found replay => absurd locked (publishLocked_repeats indexed found replay)
    simp only
    rw [reportDispatch_state]
    exact (intends.retains answers afterIndexed).takesEffect ofKey intends.carries

end Impl

namespace Scenario

/-- The published route, bound to another path. -/
def repathed : PublishRequest := { publication 1 with binding := { binding with path := ⟨8⟩ } }

/-- The published route, under a later policy. -/
def repoliced : PublishRequest := { publication 1 with policyGeneration := { value := 2 } }

end Scenario

namespace Impl

theorem publish_takes_effect_rebound :
    (∃ result, ((run (step Scenario.config) (initial 0) Scenario.published).publishRoute Scenario.config
      Scenario.answering Scenario.repathed).2 = .ok result) ∧
      TakesEffect ((run (step Scenario.config) (initial 0) Scenario.published).publishRoute Scenario.config
        Scenario.answering Scenario.repathed).1 Scenario.repathed := by
  have accepted : ((run (step Scenario.config) (initial 0) Scenario.published).publishRoute Scenario.config
      Scenario.answering Scenario.repathed).2.isOk = true := by decide +kernel
  have differs : ((run (step Scenario.config) (initial 0) Scenario.published).lookupKey
      Scenario.repathed.key).map (isReplay Scenario.repathed) = some false := by decide +kernel
  obtain ⟨result, returned⟩ := exists_ok_of_isOk accepted
  refine ⟨⟨result, returned⟩, (publish_takes_effect_iff answering_answers returned).mpr ?_⟩
  intro record found replay
  rw [found, Option.map_some, replay] at differs
  cases differs

/-- A publication under a later policy generation is answered as a replay, and the record
keeps the policy generation it had. -/
theorem publish_ignores_policy :
    (∃ result, ((run (step Scenario.config) (initial 0) Scenario.published).publishRoute Scenario.config
      Scenario.answering Scenario.repoliced).2 = .ok result) ∧
      ¬ TakesEffect ((run (step Scenario.config) (initial 0) Scenario.published).publishRoute Scenario.config
        Scenario.answering Scenario.repoliced).1 Scenario.repoliced := by
  have accepted : ((run (step Scenario.config) (initial 0) Scenario.published).publishRoute Scenario.config
      Scenario.answering Scenario.repoliced).2.isOk = true := by decide +kernel
  have kept : (((run (step Scenario.config) (initial 0) Scenario.published).publishRoute Scenario.config
      Scenario.answering Scenario.repoliced).1.lookupKey Scenario.repoliced.key).map
        (·.provenance.policyGeneration) = some .one := by decide +kernel
  refine ⟨exists_ok_of_isOk accepted, ?_⟩
  rintro ⟨record, found, carries⟩
  rw [found, Option.map_some, carries.policyGeneration] at kept
  exact absurd kept (by decide)

end Impl

end RouteFabric
