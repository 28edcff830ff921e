import RouteFabric.Runtime.Calls
import RouteFabric.Safety.Readable

/-!
# Whether a published record can be read back

A publication checks its key and its binding in memory and the reader checks every field
on its own. `Steady` is what every run keeps of a record whatever was published: its
counters, its history and its publisher are read back. What is left depends on the
request, and a publication commits a record that can be read back exactly when the values
of its request are within the bounds of the reader.
-/

namespace RouteFabric

open OrderedMap Run

/-! ## Records -/

namespace RouteRecord

variable {record draft : RouteRecord} {limits : Limits}

/-- The part of a record that the runtime itself counts and copies. -/
structure Steady (record : RouteRecord) : Prop where
  generation : record.generation.Storable
  authorityGeneration : record.authorityGeneration.Storable
  invalidationWatermark : record.invalidationWatermark.Storable
  programmingGeneration : record.programmingGeneration.Storable
  publisher : record.provenance.publisher.isValid = true
  epoch : record.provenance.epoch.Storable
  history : ∀ entry ∈ record.history, entry.Storable

theorem Storable.steady (storable : record.Storable limits) : record.Steady :=
  ⟨storable.generation, storable.authorityGeneration, storable.invalidationWatermark,
    storable.programmingGeneration, storable.provenance.publisher, storable.provenance.epoch,
    storable.history⟩

theorem Steady.pushHistory (steady : draft.Steady) (historyLimit : Nat) (event : RouteEvent)
    (prior : RouteGeneration) : (draft.pushHistory historyLimit event prior).Steady :=
  ⟨steady.generation, steady.authorityGeneration, steady.invalidationWatermark,
    steady.programmingGeneration, steady.publisher, steady.epoch,
    storable_pushHistory steady.history steady.generation steady.publisher steady.epoch⟩

theorem length_pushHistory (historyLimit : Nat) (event : RouteEvent) (prior : RouteGeneration) :
    (draft.pushHistory historyLimit event prior).history.length =
      min historyLimit (draft.history.length + 1) := by
  simp only [RouteRecord.pushHistory, List.length_drop, List.length_append, List.length_singleton]
  omega

end RouteRecord

namespace Impl

variable {config : RuntimeConfig} {env : Env} {seed : Word} {origin state after : Impl}
  {action : Action} {edit : Edit} {request : PublishRequest}

/-! ## What every run keeps -/

/-- The counters of the coordinator and of all its records are read back. -/
structure Steady (state : Impl) : Prop where
  epoch : state.epoch.Storable
  routes : ∀ (id : RouteId) record, state.routes[id]? = some record → record.Steady

theorem Closing.steady {mutation : MutationRequest} {record updated : RouteRecord} {cause : RetirementCause}
    {event : RouteEvent} (closing : Closing config state mutation record updated cause event)
    (steady : record.Steady) : updated.Steady := by
  obtain ⟨generation, authorityGeneration, advanced, rfl⟩ := closing.made
  obtain ⟨-, -, watermark, programming, publisher, epoch, history⟩ := steady
  apply RouteRecord.Steady.pushHistory
  exact ⟨advanced.storable, advanced.storableAuthority, watermark,
    programming, publisher, epoch, history⟩

/-- Every edit installs steady records. -/
theorem Legal.steady (indexed : Indexed origin) (steady : Steady origin)
    (legal : Legal config env origin action state edit) (updated : RouteRecord)
    (member : updated ∈ edit.upserts) : updated.Steady := by
  have held := steady.routes
  cases legal with
  | takeover taken =>
      obtain rfl := List.mem_singleton.mp member
      obtain ⟨-, found, -⟩ := indexed.lookupKey taken.found
      obtain ⟨generation, authorityGeneration, advanced, rfl⟩ := taken.made
      obtain ⟨-, -, watermark, programming, publisher, epoch, history⟩ := held _ _ found
      apply RouteRecord.Steady.pushHistory
      exact ⟨advanced.storable, advanced.storableAuthority, watermark,
        programming, publisher, epoch, history⟩
  | create created =>
      obtain rfl := List.mem_singleton.mp member
      obtain ⟨registration, authorized⟩ := created.authority
      obtain ⟨programmingGeneration, programmed, rfl⟩ := created.made
      have epoch : state.epoch.Storable := by
        rw [created.frame.epoch]
        exact steady.epoch
      apply RouteRecord.Steady.pushHistory
      exact ⟨CounterId.storable_one, CounterId.storable_one,
        CounterId.storable_one, programmed.storable, (publishAuthority_eq_ok.mp authorized).1.1, epoch,
        fun _ member => absurd member List.not_mem_nil⟩
  | replace replaced =>
      obtain rfl := List.mem_singleton.mp member
      obtain ⟨registration, authorized, -⟩ := replaced.authority
      obtain ⟨-, found, -⟩ := indexed.lookupKey replaced.found
      obtain ⟨generation, authorityGeneration, programmingGeneration, advanced, programmed, rfl⟩ :=
        replaced.made
      obtain ⟨-, -, watermark, -, -, -, history⟩ := held _ _ found
      apply RouteRecord.Steady.pushHistory
      exact ⟨advanced.storable, advanced.storableAuthority, watermark,
        programmed.storable, (publishAuthority_eq_ok.mp authorized).1.1, steady.epoch, history⟩
  | withdraw withdrawn =>
      obtain rfl := List.mem_singleton.mp member
      obtain ⟨generation, authorityGeneration, programmingGeneration, advanced, programmed, rfl⟩ :=
        withdrawn.made
      obtain ⟨-, -, watermark, -, publisher, epoch, history⟩ :=
        held _ _ (withdrawTarget_eq_ok withdrawn.target).1.found
      apply RouteRecord.Steady.pushHistory
      exact ⟨advanced.storable, advanced.storableAuthority, watermark,
        programmed.storable, publisher, epoch, history⟩
  | revalidate revalidated =>
      obtain rfl := List.mem_singleton.mp member
      obtain ⟨generation, authorityGeneration, programmingGeneration, advanced, programmed, rfl⟩ :=
        revalidated.made
      obtain ⟨-, -, watermark, -, -, -, history⟩ :=
        held _ _ (revalidateTarget_eq_ok revalidated.target).1.found
      apply RouteRecord.Steady.pushHistory
      exact ⟨advanced.storable, advanced.storableAuthority, watermark,
        programmed.storable, (revalidateTarget_named revalidated.target).1, steady.epoch, history⟩
  | retire retired =>
      obtain rfl := List.mem_singleton.mp member
      exact retired.closing.steady (held _ _ (retireTarget_eq_ok retired.target).2.found)
  | revoke revoked =>
      obtain rfl := List.mem_singleton.mp member
      exact revoked.closing.steady (held _ _ (revokeTarget_eq_ok revoked.target).1)
  | invalidate unique invalidated =>
      obtain ⟨record, change⟩ := invalidated updated member
      obtain ⟨generation, authorityGeneration, advanced, rfl⟩ := change.made
      obtain ⟨-, -, -, programming, publisher, epoch, history⟩ := held _ _ change.found
      apply RouteRecord.Steady.pushHistory
      exact ⟨advanced.storable, advanced.storableAuthority,
        advanced.storableAuthority, programming, publisher, epoch, history⟩
  | resolve awaited => cases member
  | complete completed =>
      obtain rfl := List.mem_singleton.mp member
      obtain ⟨lifecycle, -, rfl⟩ := completed.made
      obtain ⟨generation, authority, watermark, programming, publisher, epoch, history⟩ :=
        held _ _ completed.awaited.found
      apply RouteRecord.Steady.pushHistory
      exact ⟨generation, authority, watermark, programming, publisher,
        epoch, history⟩
  | observe observed =>
      obtain rfl := List.mem_singleton.mp member
      obtain rfl := observed.made
      obtain ⟨generation, authority, watermark, programming, publisher, epoch, history⟩ :=
        held _ _ observed.found
      exact ⟨generation, authority, watermark, programming, publisher, epoch, history⟩

theorem Steady.move {before : Impl} (indexed : Indexed origin) (steady : Steady origin)
    (held : Steady before) (move : Move config env origin action before after) : Steady after where
  epoch := by
    cases move with
    | draw ids => exact held.epoch
    | mutate unbroken ids index legal =>
        rename_i edit
        have frame : Frame { before with ids := ids } _ := acknowledge_frame config (env.io index) edit
        rw [frame.epoch]
        exact held.epoch
    | administer administers =>
        have administered : Administered origin (origin.perform config env action) :=
          perform_administered administers
        have same : (origin.perform config env action).epoch = origin.epoch :=
          congrArg Contents.epoch administered.contents
        rw [same]
        exact held.epoch
    | save compacts => exact held.epoch
    | advance advances following saved => exact (CounterId.next_eq_ok following).2
  routes := move.records held.routes fun _ legal => legal.steady indexed steady

/-- Recovery adds evidence to records that were read. -/
theorem Loads.steady {files stored : StoreFiles} {loaded : PersistedState}
    (loads : Loads config env files stored loaded) :
    Steady (recovery config env seed stored loaded).1 where
  epoch := by
    have recovered : Recovered _ _ _ := loads.recovered seed
    rw [recovered.frame.epoch, populate_epoch]
    exact loads.sound.epoch
  routes := by
    refine recover_induction config env.backend.id (motive := fun _ current _ =>
      ∀ (id : RouteId) record, current.routes[id]? = some record → record.Steady) ?_ ?_ ?_ ?_
    · intro id record found
      rw [populate_routes] at found
      exact (loads.sound.routes record (lookup_index_some found).1).steady
    · exact fun _ _ _ _ known _ => known
    · exact fun _ _ _ _ _ _ _ known => known
    · intro _ current _ attempt waiting _ _ waitingFound _ known id record found
      rw [resolveAttempt_routes, commit_routes, lookup_insert] at found
      split at found
      · obtain rfl := Option.some.inj found
        obtain ⟨generation, authority, watermark, programming, publisher, epoch, history⟩ :=
          known attempt.route waiting waitingFound
        apply RouteRecord.Steady.pushHistory
        exact ⟨generation, authority, watermark, programming, publisher, epoch, history⟩
      · exact known id record found

theorem Steady.restart (steady : Steady state) (restarts : Restarts config env seed state after) :
    Steady after := by
  cases restarts with
  | refused => exact ⟨steady.epoch, steady.routes⟩
  | unsaved loads failed => exact ⟨steady.epoch, steady.routes⟩
  | opened checked loads saved => exact ⟨loads.steady.epoch, loads.steady.routes⟩

/-- Whatever happens, the counters of every record held are read back. -/
theorem run_steady (calls : List Call) : Steady (run (step config) (initial seed) calls) := by
  have always : Along (step config) (fun _ _ => True) (initial seed) calls :=
    along_of_forall (fun _ _ => trivial) _ _
  refine (run_preserves always ?_ ?_).2
  · refine ⟨CounterId.storable_one, ?_⟩
    intro id record found
    simp [initial, fresh] at found
  · intro state call indexed _ steady
    refine step_preserves indexed steady ?_ ?_
    · intro _ before after _ _ held move
      exact steady.move indexed held move
    · intro seed after _ restarts
      exact steady.restart restarts

/-! ## Publication -/

/-- Whether the record that a publication would commit can be read back: the values of the
request are within the bounds of the reader, the backend has a name, and the length
prefixes hold the length of the destination and of the history. -/
def commitsReadable (config : RuntimeConfig) (env : Env) (state : Impl) (request : PublishRequest) : Prop :=
  request.Storable config.limits ∧ env.backend.id.isValid = true ∧
    request.key.destination.token.length < 2 ^ 32 ∧
    ∀ record, state.lookupKey request.key = some record → record.blocksRepublication = false →
      min config.historyLimit (record.history.length + 1) < 2 ^ 32

/-- Of a published record that is steady, the rest is what the request gave. -/
theorem read_installing_iff {draft : RouteRecord} {limits : Limits} {historyLimit : Nat}
    {epoch : CoordinatorEpoch} {backend : BackendId} {prior : Option RouteGeneration}
    {programmingGeneration : ProgrammingGeneration} {attempt : ProgrammingAttemptId}
    {updated : RouteRecord} (made : updated = draft.installing historyLimit epoch backend request prior
      .installing programmingGeneration attempt)
    (steady : updated.Steady) (valid : updated.Valid limits) (key : draft.key = request.key)
    (named : request.publisher.isValid = true ∧ request.workerBoot.isValid = true ∧
      request.attempt.isValid = true) :
    RouteRecord.read limits updated.write = .ok (updated, []) ↔
      request.Storable limits ∧ backend.isValid = true ∧
        request.key.destination.token.length < 2 ^ 32 ∧
        min historyLimit (draft.history.length + 1) < 2 ^ 32 := by
  have sameKey : updated.key = request.key := by
    rw [made]
    exact key
  have length : updated.history.length = min historyLimit (draft.history.length + 1) := by
    rw [made]
    exact RouteRecord.length_pushHistory _ _ _
  rw [RouteRecord.read_write_iff, sameKey, length]
  constructor
  · rintro ⟨storable, short, history⟩
    have token := storable.key
    rw [sameKey] at token
    subst made
    exact ⟨⟨token, storable.binding.entityGeneration, storable.binding.policyGeneration,
      storable.provenance.policyGeneration, storable.provenance.pathAuthorityGeneration⟩,
      storable.applied.backend, short, history⟩
  · rintro ⟨⟨token, entity, bindingPolicy, policy, path⟩, answers, short, history⟩
    rw [← sameKey] at token
    subst made
    exact ⟨⟨token, steady.generation, steady.authorityGeneration, steady.invalidationWatermark,
      steady.programmingGeneration, ⟨entity, bindingPolicy, valid.binding⟩,
      ⟨answers, valid.appliedDetail⟩, ⟨answers, valid.observationDetail⟩,
      ⟨named.1, named.2.1, steady.epoch, steady.generation, named.2.2, policy, path⟩, steady.history,
      valid⟩, short, history⟩

/-- The key of a creation leads to no record, or to one that cannot be published again. -/
theorem lookupKey_of_reachesCreation (reaches : state.reachesCreation config request = true)
    (record : RouteRecord) (found : state.lookupKey request.key = some record) :
    record.blocksRepublication = true := by
  simp only [reachesCreation, takesOver, found, Option.isNone_some, Bool.and_false, Bool.false_or] at reaches
  split at reaches
  · rename_i held
    obtain rfl := Option.some.inj held
    simp only [Bool.and_eq_true] at reaches
    exact reaches.1.2
  · cases reaches

/-- Of the record that a publication commits, the reader accepts exactly what the request
lets it. -/
theorem Intends.readable_iff {intent : Intent} {updated : RouteRecord} (indexed : Indexed state)
    (steady : Steady state)
    (intends : Intends config env state (.publish request) after intent updated) :
    RouteRecord.read config.limits updated.write = .ok (updated, []) ↔
      commitsReadable config env state request := by
  obtain ⟨before, legal, -⟩ := intends.legal
  have ofRecord := legal.steady indexed steady updated List.mem_cons_self
  cases legal with
  | create created =>
      obtain ⟨registration, authorized⟩ := created.authority
      obtain ⟨programmingGeneration, programmed, made⟩ := created.made
      rw [read_installing_iff made ofRecord created.dispatched.valid rfl
        (publishAuthority_eq_ok.mp authorized).1]
      have unheld := lookupKey_of_reachesCreation created.reaches
      have first : min config.historyLimit (0 + 1) < 2 ^ 32 := by omega
      constructor
      · rintro ⟨storable, answers, token, -⟩
        refine ⟨storable, answers, token, ?_⟩
        intro record found live
        rw [unheld record found] at live
        cases live
      · rintro ⟨storable, answers, token, -⟩
        exact ⟨storable, answers, token, first⟩
  | replace replaced =>
      rename_i record
      obtain ⟨registration, authorized, -⟩ := replaced.authority
      obtain ⟨-, -, sameKey, -⟩ := indexed.lookupKey replaced.found
      obtain ⟨generation, authorityGeneration, programmingGeneration, advanced, programmed, made⟩ :=
        replaced.made
      rw [read_installing_iff made ofRecord replaced.dispatched.valid sameKey
        (publishAuthority_eq_ok.mp authorized).1]
      constructor
      · rintro ⟨storable, answers, token, history⟩
        refine ⟨storable, answers, token, ?_⟩
        intro other found _
        obtain rfl := Option.some.inj (replaced.found.symm.trans found)
        exact history
      · rintro ⟨storable, answers, token, history⟩
        exact ⟨storable, answers, token, history record replaced.found replaced.live⟩

/-- In every run, a publication that succeeds replays an earlier one and changes nothing, or
commits a record that can be read back exactly when its request, the backend and the
history of its key allow it. -/
theorem run_commits_readable_iff (calls : List Call) {final : Impl} {result : PublishResult}
    (published : (run (step config) (initial seed) calls).publishRoute config env request =
      (final, .ok result)) :
    result.idempotent = true ∧ final = run (step config) (initial seed) calls ∨
      ∃ after intent committed,
        (run (step config) (initial seed) calls).publishLocked config env request =
          (after, .ok (.inr intent)) ∧
        after.routes[intent.route]? = some committed ∧
        (RouteRecord.read config.limits committed.write = .ok (committed, []) ↔
          commitsReadable config env (run (step config) (initial seed) calls) request) := by
  have indexed : Indexed (run (step config) (initial seed) calls) := run_indexed calls
  have steady : Steady (run (step config) (initial seed) calls) := run_steady calls
  generalize run (step config) (initial seed) calls = state at published indexed steady ⊢
  unfold publishRoute at published
  split at published
  · simp at published
  · rename_i after replayed locked
    obtain ⟨rfl, idempotent, -⟩ := publishLocked_replays indexed locked
    obtain ⟨rfl, same⟩ := Prod.mk.inj published
    obtain rfl := Except.ok.inj same
    exact .inl ⟨idempotent, rfl⟩
  · rename_i after intent locked
    obtain ⟨committed, intends, -⟩ := publishLocked_intends indexed locked
    exact .inr ⟨after, intent, committed, locked, intends.found, intends.readable_iff indexed steady⟩

/-- The path binding with a generation for its unused next hop. -/
theorem run_commits_readable_carried :
    ∃ after intent committed,
      (run (step Scenario.config) (initial 0) Scenario.opening).publishLocked Scenario.config Scenario.env
        (Scenario.carried 1) = (after, .ok (.inr intent)) ∧
      after.routes[intent.route]? = some committed ∧
      RouteRecord.read Scenario.config.limits committed.write = .ok (committed, []) := by
  cases published : (run (step Scenario.config) (initial 0) Scenario.opening).publishRoute
      Scenario.config Scenario.env (Scenario.carried 1) with
  | mk final outcome =>
      have succeeded : ((run (step Scenario.config) (initial 0) Scenario.opening).publishRoute
          Scenario.config Scenario.env (Scenario.carried 1)).2.map (·.idempotent) = .ok false := by
        decide +kernel
      rw [published] at succeeded
      cases outcome with
      | error failure => cases succeeded
      | ok result =>
          rcases run_commits_readable_iff Scenario.opening published with
            ⟨idempotent, -⟩ | ⟨after, intent, committed, locked, found, readable⟩
          · simp only [Except.map, idempotent] at succeeded
            cases succeeded
          · refine ⟨after, intent, committed, locked, found, readable.mpr ?_⟩
            refine ⟨by decide +kernel, by decide +kernel, by decide +kernel, ?_⟩
            intro record held
            have vacant : (run (step Scenario.config) (initial 0) Scenario.opening).lookupKey
                (Scenario.carried 1).key = none := by decide +kernel
            rw [vacant] at held
            cases held

/-- A path binding whose unused next hop has no generation, as it has by default, is
published and acknowledged, and the reader refuses the record. -/
theorem committed_path_unreadable :
    Scenario.config.limits = {} ∧ (Scenario.publication 1).key.isValid = true ∧
      (Scenario.publication 1).binding.isValid = true ∧
      ((run (step Scenario.config) (initial 0) Scenario.opening).publishRoute Scenario.config Scenario.env
        (Scenario.publication 1)).2.isOk = true ∧
      ∃ committed, ((run (step Scenario.config) (initial 0) Scenario.opening).publishLocked
          Scenario.config Scenario.env (Scenario.publication 1)).1.routes[(⟨1⟩ : RouteId)]? = some committed ∧
        RouteRecord.read Scenario.config.limits committed.write ≠ .ok (committed, []) := by
  refine ⟨rfl, by decide +kernel, by decide +kernel, by decide +kernel, ?_⟩
  have unread : ((run (step Scenario.config) (initial 0) Scenario.opening).publishLocked Scenario.config
      Scenario.env (Scenario.publication 1)).1.routes[(⟨1⟩ : RouteId)]?.any
        (fun committed => decide (RouteRecord.read Scenario.config.limits committed.write ≠
          .ok (committed, []))) = true := by decide +kernel
  obtain ⟨committed, found, refused⟩ := (Option.any_eq_true _ _).mp unread
  exact ⟨committed, found, of_decide_eq_true refused⟩

end Impl

end RouteFabric
