import RouteFabric.Safety.Durability

/-!
# A revoked key stays revoked

A publication is refused through the index: the key leads to an identity, and the identity
is revoked. So a revocation lasts as long as its lineage keeps the key. Every operation but
the observation of the backend refuses a revoked lineage, and an observation keeps key and
standing; what can still take the key away is a successor, when the lineage revoked was
superseded already, or another key published under the revoked identity.
-/

namespace RouteFabric

open OrderedMap Run

namespace Scenario

/-- One lineage of the key. -/
def once : List Call := opening ++ [⟨env, .publish (carried 1)⟩]

/-- The lineage and its successor. -/
def succeeded : List Call := once ++ [⟨env, .retire (mutation 1)⟩, ⟨env, .publish (carried 2)⟩]

/-- The key with another path. -/
def rebound : PublishRequest :=
  { carried 2 with
    binding := { binding with path := ⟨8⟩, nextHop := { entityGeneration := .one } } }

/-- The store is closed and opened again, and the operator registers again. -/
def reopening : List Call := [⟨env, .restart 2⟩, ⟨env, .register operator boot override⟩]

end Scenario

namespace Impl

variable {config : RuntimeConfig} {env : Env} {seed : Word} {origin state : Impl} {call : Call}
  {edit : Edit} {id : RouteId} {key : RouteKey}

/-- A revoked lineage that holds its key. -/
structure Barred (state : Impl) (id : RouteId) (key : RouteKey) : Prop where
  revoked : (state.revocations[id]?).isSome = true
  holds : ∃ record, state.routes[id]? = some record ∧ record.key = key ∧ record.lifecycle ≠ .superseded

theorem Barred.congr {after : Impl} (barred : Barred state id key) (routes : after.routes = state.routes)
    (revocations : after.revocations = state.revocations) : Barred after id key := by
  refine ⟨?_, ?_⟩
  · rw [revocations]
    exact barred.revoked
  · rw [routes]
    exact barred.holds

/-- A publication of the key of a revoked lineage is refused and changes nothing. -/
theorem Barred.refuses (barred : Barred state id key) (indexed : Indexed state) (exact : KeysExact state)
    (config : RuntimeConfig) (env : Env) {request : PublishRequest} (sameKey : request.key = key) :
    ∃ failure, publishRoute config env request state = (state, .error failure) := by
  have named : state.keyIndex[request.key]? = some id := by
    rw [sameKey]
    exact (exact.named key id).mpr barred.holds
  obtain ⟨record, found, -⟩ := barred.holds
  have looked : state.lookupKey request.key = some record := by
    rw [lookupKey, named]
    exact found
  have own : record.id = id := indexed.routes _ _ found
  have valid : record.id.isValid = true := own ▸ indexed.identified _ _ found
  have revoked : (state.revocations[record.id]?).isSome = true := own ▸ barred.revoked
  have refused : ∃ failure, publishLocked config env request state = (state, .error failure) := by
    unfold publishLocked
    split
    · exact ⟨_, rfl⟩
    · simp only [looked, Option.getD_some, valid, Bool.true_eq_false, if_false, revoked, if_true]
      exact ⟨_, rfl⟩
  obtain ⟨failure, refused⟩ := refused
  exact ⟨failure, by rw [publishRoute, refused]⟩

/-! ## Edits -/

/-- Whether a publication creates no route under a revoked identity. -/
def sparesRevoked (config : RuntimeConfig) (state : Impl) (call : Call) : Bool :=
  match call.action with
  | .publish request =>
      !(state.reachesCreation config request && (state.revocations[createdId request]?).isSome)
  | _ => true

/-- A record installed by an edit is of a lineage that is not revoked, or keeps the key and
the standing of the one before. -/
theorem Legal.unrevoked (indexed : Indexed origin) (spares : origin.sparesRevoked config call = true)
    (legal : Legal config env origin call.action state edit) {updated : RouteRecord}
    (member : updated ∈ edit.upserts) :
    state.revocations[updated.id]? = none ∨
      ∃ record, state.routes[updated.id]? = some record ∧ record.Evidence updated := by
  have publishes : ∀ request, call.action = .publish request → origin.reachesCreation config request = true →
      origin.revocations[createdId request]? = none := by
    intro request action reaches
    simp only [sparesRevoked, action, reaches, Bool.true_and, Bool.not_eq_true', Option.isSome_eq_false_iff,
      Option.isNone_iff_eq_none] at spares
    exact spares
  generalize call.action = action at legal publishes
  cases legal with
  | takeover taken =>
      obtain rfl := List.mem_singleton.mp member
      exact .inl (taken.reissued.id ▸ taken.unrevoked)
  | create created =>
      obtain rfl := List.mem_singleton.mp member
      obtain ⟨programmingGeneration, -, made⟩ := created.made
      have own : updated.id = createdId _ := congrArg RouteRecord.id made
      rw [own, created.revocations]
      exact .inl (publishes _ rfl created.reaches)
  | replace replaced =>
      obtain rfl := List.mem_singleton.mp member
      exact .inl (replaced.reissued.id ▸ replaced.unrevoked)
  | withdraw withdrawn =>
      obtain rfl := List.mem_singleton.mp member
      exact .inl (withdrawn.reissued.id ▸ (withdrawTarget_eq_ok withdrawn.target).1.unrevoked)
  | revalidate revalidated =>
      obtain rfl := List.mem_singleton.mp member
      exact .inl (revalidated.reissued.id ▸ (revalidateTarget_eq_ok revalidated.target).1.unrevoked)
  | retire retired =>
      obtain rfl := List.mem_singleton.mp member
      exact .inl (retired.closing.reissued.id ▸ (retireTarget_eq_ok retired.target).2.unrevoked)
  | revoke revoked =>
      obtain rfl := List.mem_singleton.mp member
      exact .inl (revoked.closing.reissued.id ▸ revoked.unrevoked)
  | invalidate unique invalidated =>
      obtain ⟨record, change⟩ := invalidated updated member
      exact .inl (change.reissued.id ▸ change.unrevoked)
  | resolve awaited => cases member
  | complete completed =>
      obtain rfl := List.mem_singleton.mp member
      have found := completed.awaited.found
      rw [← indexed.routes _ _ found, ← completed.evidence.id] at found
      exact .inr ⟨_, found, completed.evidence⟩
  | observe observed =>
      obtain rfl := List.mem_singleton.mp member
      have evidence := observed.made ▸ RouteRecord.observed_evidence _ env.backend.id _
      have found := observed.found
      rw [← indexed.routes _ _ found, ← evidence.id] at found
      exact .inr ⟨_, found, evidence⟩

theorem Legal.barred (indexed : Indexed origin) (spares : origin.sparesRevoked config call = true)
    (legal : Legal config env origin call.action state edit) (barred : Barred state id key) :
    Barred (state.applyEdit edit) id key := by
  obtain ⟨record, found, sameKey, live⟩ := barred.holds
  refine ⟨?_, ?_⟩
  · rw [applyEdit_revocations, ← Std.ExtTreeMap.mem_iff_isSome_getElem?, mem_foldl_insert,
      Std.ExtTreeMap.mem_iff_isSome_getElem?]
    exact .inr barred.revoked
  · obtain ⟨after, afterFound, same | ⟨member, own⟩⟩ := lookup_applyEdit_of_held state edit found
    · exact ⟨after, afterFound, same ▸ sameKey, same ▸ live⟩
    · rcases legal.unrevoked indexed spares member with unrevoked | ⟨earlier, held, evidence⟩
      · rw [own] at unrevoked
        have revoked := barred.revoked
        rw [unrevoked] at revoked
        cases revoked
      · rw [own] at held
        obtain rfl := Option.some.inj (found.symm.trans held)
        exact ⟨after, afterFound, evidence.key.trans sameKey, fun lost => live (evidence.superseded.mp lost)⟩

/-- An edit revokes a lineage only together with the record that closes it. -/
theorem Legal.bars (legal : Legal config env origin call.action state edit) {revocation : RevocationRecord}
    (member : revocation ∈ edit.revoked) :
    ∃ record, (state.applyEdit edit).routes[revocation.route]? = some record ∧
      record.lifecycle = .retired := by
  generalize call.action = action at legal
  cases legal with
  | revoke revoked =>
      rename_i request record updated
      obtain rfl := List.mem_singleton.mp member
      obtain ⟨generation, authorityGeneration, -, made⟩ := revoked.closing.made
      refine ⟨updated, ?_, ?_⟩
      · rw [applyEdit_routes]
        exact lookup_insert_self _ _ _
      · rw [made]
        rfl
  | _ => cases member

/-- Every revoked lineage holds its key. -/
def RevokedLive (state : Impl) : Prop :=
  ∀ id, (state.revocations[id]?).isSome = true → ∃ key, Barred state id key

theorem RevokedLive.congr {after : Impl} (sealed : RevokedLive state) (routes : after.routes = state.routes)
    (revocations : after.revocations = state.revocations) : RevokedLive after := by
  intro id revoked
  rw [revocations] at revoked
  obtain ⟨key, barred⟩ := sealed id revoked
  exact ⟨key, barred.congr routes revocations⟩

theorem Legal.revokedLive (indexed : Indexed origin) (spares : origin.sparesRevoked config call = true)
    (legal : Legal config env origin call.action state edit) (sealed : RevokedLive state) :
    RevokedLive (state.applyEdit edit) := by
  intro id revoked
  have either := revoked
  rw [applyEdit_revocations, ← Std.ExtTreeMap.mem_iff_isSome_getElem?, mem_foldl_insert,
    Std.ExtTreeMap.mem_iff_isSome_getElem?] at either
  rcases either with ⟨revocation, member, rfl⟩ | earlier
  · obtain ⟨record, found, closed⟩ := legal.bars member
    exact ⟨record.key, revoked, record, found, rfl, by simp [closed]⟩
  · obtain ⟨key, barred⟩ := sealed id earlier
    exact ⟨key, legal.barred indexed spares barred⟩

theorem Barred.move {before after : Impl} (indexed : Indexed origin)
    (spares : origin.sparesRevoked config call = true) (barred : Barred origin id key)
    (held : Barred before id key) (move : Move config call.env origin call.action before after) :
    Barred after id key := by
  cases move with
  | draw ids => exact held.congr rfl rfl
  | mutate unbroken ids index legal =>
      rename_i edit
      rcases acknowledge_cases config (call.env.io index) { before with ids := ids } edit with
        ⟨files, -, applied⟩ | ⟨files, failure, -, failed⟩
      · rw [applied]
        exact (legal.barred indexed spares held).congr (by simp only [applyEdit_routes])
          (by simp only [applyEdit_revocations])
      · rw [failed]
        exact held.congr rfl rfl
  | administer administers =>
      have administered : Administered origin (origin.perform config call.env call.action) :=
        perform_administered administers
      exact barred.congr administered.routes (congrArg Contents.revocations administered.contents)
  | save compacts => exact barred.congr rfl rfl
  | advance advances following saved => exact barred.congr rfl rfl

theorem RevokedLive.move {before after : Impl} (indexed : Indexed origin)
    (spares : origin.sparesRevoked config call = true) (sealed : RevokedLive origin)
    (held : RevokedLive before) (move : Move config call.env origin call.action before after) :
    RevokedLive after := by
  cases move with
  | draw ids => exact held.congr rfl rfl
  | mutate unbroken ids index legal =>
      rename_i edit
      rcases acknowledge_cases config (call.env.io index) { before with ids := ids } edit with
        ⟨files, -, applied⟩ | ⟨files, failure, -, failed⟩
      · rw [applied]
        exact (legal.revokedLive indexed spares held).congr (by simp only [applyEdit_routes])
          (by simp only [applyEdit_revocations])
      · rw [failed]
        exact held.congr rfl rfl
  | administer administers =>
      have administered : Administered origin (origin.perform config call.env call.action) :=
        perform_administered administers
      exact sealed.congr administered.routes (congrArg Contents.revocations administered.contents)
  | save compacts => exact sealed.congr rfl rfl
  | advance advances following saved => exact sealed.congr rfl rfl

/-! ## Restarts -/

/-- Readable files give back what memory holds. -/
theorem Kept.loadsBack (durable : config.durability ≠ .none)
    (small : config.limits.maxPersistBytes < 2 ^ 32) (kept : Kept config state) :
    LoadsBack config state call := by
  intro seed files loaded _ loads
  obtain ⟨base, entries, intact⟩ := kept.intact
  obtain ⟨-, replayed⟩ := intact.loads small durable loads
  rw [replayed]
  exact intact.contents

theorem recovery_revocations {files after : StoreFiles} {loaded : PersistedState}
    (loads : Loads config env files after loaded) :
    (recovery config env seed after loaded).1.revocations = loaded.contents.revocations := by
  have recovered : Recovered _ _ _ := loads.recovered seed
  exact recovered.revocations.trans (populate_revocations loaded)

theorem recovery_barred {files after : StoreFiles} {loaded : PersistedState}
    (loads : Loads config env files after loaded) (same : loaded.contents = state.contents)
    (barred : Barred state id key) : Barred (recovery config env seed after loaded).1 id key := by
  obtain ⟨record, found, sameKey, live⟩ := barred.holds
  refine ⟨?_, ?_⟩
  · rw [recovery_revocations loads, same]
    exact barred.revoked
  · have loadedFound : loaded.contents.routes[id]? = some record := by
      rw [same]
      exact found
    obtain ⟨settled, settledFound, evidence⟩ := recovery_record loads seed loadedFound
    exact ⟨settled, settledFound, evidence.key.trans sameKey, fun lost => live (evidence.superseded.mp lost)⟩

theorem recovery_revokedLive {files after : StoreFiles} {loaded : PersistedState}
    (loads : Loads config env files after loaded) (same : loaded.contents = state.contents)
    (sealed : RevokedLive state) : RevokedLive (recovery config env seed after loaded).1 := by
  intro id revoked
  rw [recovery_revocations loads, same] at revoked
  obtain ⟨key, barred⟩ := sealed id revoked
  exact ⟨key, recovery_barred loads same barred⟩

/-! ## Runs -/

/-- A call that takes no key from a successor, publishes nothing under a revoked identity
and, when it restarts, finds what was there. -/
structure Seals (config : RuntimeConfig) (state : Impl) (call : Call) : Prop where
  keys : state.sparesKeys call = true
  identity : state.sparesRevoked config call = true
  store : state.LoadsBack config call

/-- What every step that seals preserves, when moves and recovery do. -/
theorem Seals.preserves {motive : Impl → Prop} (seals : Seals config state call) (indexed : Indexed state)
    (initially : motive state)
    (congruent : ∀ after : Impl, after.routes = state.routes → after.revocations = state.revocations →
      after.keyIndex = state.keyIndex → motive after)
    (moves : ∀ before after, Indexed before → motive before →
      Move config call.env state call.action before after → motive after)
    (recovers : ∀ seed files loaded stored fenced barred, Loads config call.env state.files files loaded →
      loaded.contents = state.contents → motive
        { (recovery config call.env seed files loaded).1 with
          files := stored, opened := true, fencedBoots := fenced, administrativeFences := barred }) :
    motive (state.step config call) := by
  refine step_preserves indexed initially ?_ ?_
  · exact fun _ before after _ heldIndexed held move => moves before after heldIndexed held move
  · intro seed after action restarts
    cases restarts with
    | refused => exact congruent _ rfl rfl rfl
    | unsaved loads failed => exact congruent _ rfl rfl rfl
    | opened checked loads saved =>
        exact recovers seed _ _ _ _ _ loads (seals.store seed _ _ action loads)

/-- Every revoked lineage holds its key, and the index is exact. -/
structure Revokes (state : Impl) : Prop where
  indexed : Indexed state
  exact : KeysExact state
  live : RevokedLive state

theorem Revokes.step (revokes : Revokes state) (seals : Seals config state call) :
    Revokes (state.step config call) := by
  refine ⟨revokes.indexed.step call, ?_, ?_⟩
  · refine seals.preserves revokes.indexed revokes.exact ?_ ?_ ?_
    · exact fun _ routes _ keyIndex => revokes.exact.congr routes keyIndex
    · intro before after heldIndexed held move
      exact KeysExact.move seals.keys revokes.indexed revokes.exact heldIndexed held move
    · intro seed files loaded stored fenced barred loads same
      exact (recovery_keysExact loads (same ▸ revokes.exact.unique)).congr rfl rfl
  · refine seals.preserves revokes.indexed revokes.live ?_ ?_ ?_
    · exact fun _ routes revocations _ => revokes.live.congr routes revocations
    · intro before after _ held move
      exact RevokedLive.move revokes.indexed seals.identity revokes.live held move
    · intro seed files loaded stored fenced barred loads same
      exact (recovery_revokedLive loads same revokes.live).congr rfl rfl

theorem Barred.step (barred : Barred state id key) (indexed : Indexed state)
    (seals : Seals config state call) : Barred (state.step config call) id key := by
  refine seals.preserves (motive := fun current => Barred current id key) indexed barred ?_ ?_ ?_
  · exact fun _ routes revocations _ => barred.congr routes revocations
  · intro before after _ held move
    exact Barred.move indexed seals.identity barred held move
  · intro seed files loaded stored fenced fences loads same
    exact (recovery_barred loads same barred).congr rfl rfl

theorem run_revokes {calls : List Call} (along : Along (step config) (Seals config) (initial seed) calls) :
    Revokes (run (step config) (initial seed) calls) := by
  refine along.invariant (fun state call revokes seals => revokes.step seals) ⟨initial_indexed seed, ?_, ?_⟩
  · exact KeysExact.of_named (by simp [initial, fresh])
  · simp [RevokedLive, initial, fresh]

/-- A revocation that succeeds, now or again, leaves its lineage barred. -/
theorem revokeRoute_bars (revokes : Revokes state) {request : MutationRequest} {record : RouteRecord}
    {after : Impl} {outcome : WithdrawOutcome} (found : state.routes[request.route]? = some record)
    (revoked : revokeRoute config env request state = (after, .ok outcome)) :
    Barred after request.route record.key := by
  have own : record.id = request.route := revokes.indexed.routes _ _ found
  unfold revokeRoute at revoked
  split at revoked
  · simp at revoked
  rename_i target addressed
  obtain rfl := Option.some.inj (found.symm.trans (revokeTarget_eq_ok addressed).1)
  split at revoked
  · rename_i already
    obtain ⟨rfl, -⟩ := Prod.mk.inj revoked
    obtain ⟨key, barred⟩ := revokes.live _ (own ▸ already)
    obtain ⟨other, held, rfl, live⟩ := barred.holds
    obtain rfl := Option.some.inj (found.symm.trans held)
    exact barred
  rename_i unrevoked
  rw [Bool.not_eq_true, Option.isSome_eq_false_iff, Option.isNone_iff_eq_none] at unrevoked
  split at revoked
  · simp at revoked
  rename_i updated closed
  have closing := close_eq_ok (fun _ _ => next_revoke) closed
  obtain ⟨generation, authorityGeneration, -, made⟩ := closing.made
  have same : updated.id = request.route := closing.reissued.id.trans own
  split at revoked
  · simp at revoked
  rename_i applied
  obtain ⟨rfl, -⟩ := Prod.mk.inj revoked
  rcases acknowledge_cases config (env.io 0) state
      { upserts := [updated], revoked := [state.revocationOf request updated] } with
    ⟨files, -, written⟩ | ⟨files, failure, -, failed⟩
  · rw [written] at applied
    obtain ⟨rfl, -⟩ := Prod.mk.inj applied
    refine ⟨?_, updated, ?_, closing.reissued.key, ?_⟩
    · rw [applyEdit_revocations, ← same]
      exact congrArg Option.isSome (lookup_insert_self _ _ _)
    · rw [applyEdit_routes, ← same]
      exact lookup_insert_self _ _ _
    · rw [made]
      exact RouteLifecycle.noConfusion
  · rw [failed] at applied
    simp at applied

theorem revokeRoute_opened {request : MutationRequest} {outcome : WithdrawOutcome}
    (revoked : (revokeRoute config env request state).2 = .ok outcome) : state.opened = true := by
  unfold revokeRoute at revoked
  split at revoked
  · simp at revoked
  · rename_i record target
    simp only [revokeTarget, bind_eq_ok, exists_unit, checkMutation_eq_ok] at target
    exact target.1.2.2.2.2.2

/-- In every run that seals what it revokes: once the revocation of a route has succeeded,
no publication of its key succeeds, and none changes anything. -/
theorem run_revoked {before rest : List Call} {request : MutationRequest} {record : RouteRecord}
    {outcome : WithdrawOutcome}
    (along : Along (step config) (Seals config) (initial seed) (before ++ ⟨env, .revoke request⟩ :: rest))
    (found : (run (step config) (initial seed) before).routes[request.route]? = some record)
    (revoked : (revokeRoute config env request (run (step config) (initial seed) before)).2 = .ok outcome)
    {publisherEnv : Env} {publication : PublishRequest} (sameKey : publication.key = record.key) :
    ∃ failure, publishRoute config publisherEnv publication
        (run (step config) (initial seed) (before ++ ⟨env, .revoke request⟩ :: rest)) =
      (run (step config) (initial seed) (before ++ ⟨env, .revoke request⟩ :: rest), .error failure) := by
  have final := run_revokes along
  obtain ⟨earlier, seals, later⟩ := along_append.mp along
  have revokes := run_revokes earlier
  rw [run_append, run_cons] at final ⊢
  generalize run (step config) (initial seed) before = state at found revoked seals later revokes final
  have opened : state.opened = true := revokeRoute_opened revoked
  have stepped : Barred (state.step config ⟨env, .revoke request⟩) request.route record.key := by
    simp only [step, takes, opened, Bool.true_or, if_true, perform]
    exact revokeRoute_bars revokes found (Prod.ext rfl revoked)
  have barred := later.invariant
    (motive := fun current => Revokes current ∧ Barred current request.route record.key)
    (fun current call held allowed => ⟨held.1.step allowed, held.2.step held.1.indexed allowed⟩)
    ⟨revokes.step seals, stepped⟩
  exact barred.2.refuses final.indexed final.exact config publisherEnv sameKey

/-- A route is published and revoked, and the store closed and opened again. -/
theorem run_revoked_reopened :
    ∃ failure, publishRoute Scenario.journaled Scenario.env (Scenario.carried 2)
        (run (step Scenario.journaled) (initial 0)
          (Scenario.once ++ ⟨Scenario.env, .revoke (Scenario.mutation 1)⟩ :: Scenario.reopening)) =
      (run (step Scenario.journaled) (initial 0)
        (Scenario.once ++ ⟨Scenario.env, .revoke (Scenario.mutation 1)⟩ :: Scenario.reopening),
        .error failure) := by
  have readable : Along (step Scenario.journaled) (KeepsReadable Scenario.journaled) (initial 0)
      (Scenario.once ++ ⟨Scenario.env, .revoke (Scenario.mutation 1)⟩ :: Scenario.reopening) := by
    refine along_keepsReadable (by decide) ?_ (by decide +kernel)
    simp [Scenario.once, Scenario.reopening, Scenario.opening, Scenario.env]
  have spares : Along (step Scenario.journaled) (fun state call =>
      state.sparesKeys call = true ∧ state.sparesRevoked Scenario.journaled call = true) (initial 0)
      (Scenario.once ++ ⟨Scenario.env, .revoke (Scenario.mutation 1)⟩ :: Scenario.reopening) := by
    decide +kernel
  have loads : ∀ earlier call rest, Scenario.once ++ ⟨Scenario.env, .revoke (Scenario.mutation 1)⟩ ::
      Scenario.reopening = earlier ++ call :: rest →
      LoadsBack Scenario.journaled (run (step Scenario.journaled) (initial 0) earlier) call := by
    intro earlier call rest parts
    rw [parts] at readable
    have kept := (run_kept (by decide) (along_append.mp readable).1).2
    exact kept.loadsBack (by decide) (by decide)
  have seals := spares.and_each loads
  have found : ((run (step Scenario.journaled) (initial 0) Scenario.once).routes[
      (Scenario.mutation 1).route]?).map (·.key) = some Scenario.key := by decide +kernel
  have revoked : (revokeRoute Scenario.journaled Scenario.env (Scenario.mutation 1)
      (run (step Scenario.journaled) (initial 0) Scenario.once)).2.toOption.isSome = true := by decide +kernel
  obtain ⟨record, held, sameKey⟩ := Option.map_eq_some_iff.mp found
  cases outcome : (revokeRoute Scenario.journaled Scenario.env (Scenario.mutation 1)
      (run (step Scenario.journaled) (initial 0) Scenario.once)).2 with
  | error failure =>
      rw [outcome] at revoked
      cases revoked
  | ok _ =>
      exact run_revoked (seals.mono fun state call held => ⟨held.1.1, held.1.2, held.2⟩) held outcome
        sameKey.symm

/-- Revoking a superseded lineage succeeds, and after an observation of its successor a
publication of the key does too. -/
theorem revoked_key_published :
    ((run (step Scenario.config) (initial 0) Scenario.succeeded).routes[
        (Scenario.mutation 1).route]?).map (·.key) = some Scenario.key ∧
      (revokeRoute Scenario.config Scenario.env (Scenario.mutation 1)
        (run (step Scenario.config) (initial 0) Scenario.succeeded)).2.toOption.isSome = true ∧
      Scenario.rebound.key = Scenario.key ∧
      ((publishRoute Scenario.config Scenario.env Scenario.rebound (run (step Scenario.config) (initial 0)
        (Scenario.succeeded ++ [⟨Scenario.env, .revoke (Scenario.mutation 1)⟩,
          ⟨Scenario.env, .reconcile ⟨2⟩ {}⟩]))).2.toOption.map fun result => (result.route, result.idempotent)) =
        some (⟨2⟩, false) := by
  decide +kernel

end Impl

end RouteFabric
