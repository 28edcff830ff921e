import RouteFabric.Safety.Storage

/-!
# One live route per key

A superseded lineage shares its key with its successor and is not indexed. Every commit
keeps the key index exact when the key of the record committed is free or already its
own. Revocation is the one operation that does not see to this: it retires a superseded
lineage without asking who holds the key, and thereby takes the key from the successor.
-/

namespace RouteFabric

open OrderedMap Run

/-- At most one record of each key is not superseded. -/
def Contents.LiveUnique (contents : Contents) : Prop :=
  ∀ (id other : RouteId) record sibling, contents.routes[id]? = some record →
    contents.routes[other]? = some sibling → record.key = sibling.key →
    record.lifecycle ≠ .superseded → sibling.lifecycle ≠ .superseded → id = other

/-- The route that an action addresses by its identity. -/
def Action.addressed : Action → Option RouteId
  | .withdraw request => some request.route
  | .revalidate request => some request.route
  | .retire request => some request.route
  | .revoke request => some request.route
  | .reconcile route _ => some route
  | _ => none

namespace Impl

variable {config : RuntimeConfig} {env : Env} {seed : Word} {origin state : Impl} {action : Action}
  {edit : Edit}

/-- At most one record of each key is live, and the key index names exactly the live ones. -/
structure KeysExact (state : Impl) : Prop where
  unique : state.contents.LiveUnique
  named : ∀ (key : RouteKey) (id : RouteId), state.keyIndex[key]? = some id ↔
    ∃ record, state.routes[id]? = some record ∧ record.key = key ∧ record.lifecycle ≠ .superseded

/-- An index that names exactly the live records names at most one of each key. -/
theorem KeysExact.of_named
    (named : ∀ (key : RouteKey) (id : RouteId), state.keyIndex[key]? = some id ↔
      ∃ record, state.routes[id]? = some record ∧ record.key = key ∧ record.lifecycle ≠ .superseded) :
    KeysExact state := by
  refine ⟨?_, named⟩
  intro id other record sibling found siblingFound sameKey live siblingLive
  have first := (named record.key id).mpr ⟨record, found, rfl, live⟩
  have second := (named record.key other).mpr ⟨sibling, siblingFound, sameKey.symm, siblingLive⟩
  exact Option.some.inj (first.symm.trans second)

theorem KeysExact.congr {after : Impl} (exact : KeysExact state) (routes : after.routes = state.routes)
    (keyIndex : after.keyIndex = state.keyIndex) : KeysExact after := by
  apply KeysExact.of_named
  rw [routes, keyIndex]
  exact exact.named

/-! ## Commits -/

/-- A record whose key is free or its own, unless it is superseded. -/
def Fits (state : Impl) (record : RouteRecord) : Prop :=
  record.lifecycle ≠ .superseded →
    state.keyIndex[record.key]? = none ∨ state.keyIndex[record.key]? = some record.id

theorem KeysExact.commit (exact : KeysExact state) (indexed : Indexed state) {record : RouteRecord}
    (fits : state.Fits record) : KeysExact (state.commit record) := by
  apply KeysExact.of_named
  intro key id
  rw [indexed.lookup_commit, commit_routes]
  by_cases own : record.id = id
  · -- Under its own identity the record is found, and it is named when it is live.
    subst own
    simp only [lookup_insert_self, Option.some.injEq, exists_eq_left']
    by_cases live : record.lifecycle ≠ .superseded ∧ record.key = key
    · simp [live]
    · rw [if_neg live]
      have unnamed : ¬ (record.key = key ∧ record.lifecycle ≠ .superseded) := fun both =>
        live ⟨both.2, both.1⟩
      refine iff_of_false ?_ unnamed
      split
      · simp
      · assumption
  · rw [lookup_insert_of_ne _ _ own, ← exact.named key id]
    by_cases live : record.lifecycle ≠ .superseded ∧ record.key = key
    · rw [if_pos live]
      obtain ⟨unsuperseded, rfl⟩ := live
      refine iff_of_false (by simpa using own) ?_
      rcases fits unsuperseded with free | held
      · simp [free]
      · simpa [held] using own
    · rw [if_neg live]
      split
      · rename_i held
        rw [held]
        simpa using own
      · exact Iff.rfl

/-- A record that keeps the key of the live record it replaces. -/
def Succeeds (state : Impl) (updated : RouteRecord) : Prop :=
  ∃ record, state.routes[updated.id]? = some record ∧ updated.key = record.key ∧
    record.lifecycle ≠ .superseded

theorem KeysExact.fits_of_succeeds (exact : KeysExact state) {updated : RouteRecord}
    (succeeds : state.Succeeds updated) : state.Fits updated := by
  obtain ⟨record, found, sameKey, live⟩ := succeeds
  intro _
  rw [sameKey]
  exact .inr ((exact.named record.key updated.id).mpr ⟨record, found, rfl, live⟩)

theorem KeysExact.commits (exact : KeysExact state) (indexed : Indexed state) {records : List RouteRecord}
    (unique : (records.map (·.id)).Nodup) (valid : ∀ record ∈ records, record.id.isValid = true)
    (succeed : ∀ record ∈ records, state.Succeeds record) :
    KeysExact (records.foldl Impl.commit state) := by
  induction records generalizing state with
  | nil => exact exact
  | cons first rest ih =>
      obtain ⟨apart, uniqueRest⟩ := List.nodup_cons.mp unique
      refine ih (exact.commit indexed (exact.fits_of_succeeds (succeed first List.mem_cons_self)))
        (indexed.commit (valid first List.mem_cons_self)) uniqueRest
        (fun other member => valid other (List.mem_cons_of_mem _ member)) ?_
      intro other member
      obtain ⟨record, found, sameKey, live⟩ := succeed other (List.mem_cons_of_mem _ member)
      have different : first.id ≠ other.id := by
        intro same
        have listed : other.id ∈ rest.map (·.id) := List.mem_map_of_mem member
        rw [← same] at listed
        exact apart listed
      refine ⟨record, ?_, sameKey, live⟩
      rw [commit_routes, lookup_insert_of_ne _ _ different]
      exact found

/-! ## Edits -/

/-- Whether a revocation takes a key from the live successor of its lineage. -/
def stealsKey (state : Impl) (request : MutationRequest) : Bool :=
  match state.revokeTarget request with
  | .ok record => record.lifecycle = .superseded && (state.revocations[record.id]?).isNone &&
      (state.keyIndex[record.key]?).isSome
  | .error _ => false

/-- The key index is exact after every edit that steals no key. -/
theorem Legal.keysExact (indexed : Indexed origin) (held : Indexed state) (exact : KeysExact state)
    (keeps : ∀ request, action = .revoke request → origin.stealsKey request = false)
    (legal : Legal config env origin action state edit) : KeysExact (state.applyEdit edit) := by
  have committed : KeysExact (edit.upserts.foldl Impl.commit state) := by
    have single : ∀ {updated : RouteRecord}, edit.upserts = [updated] → state.Fits updated →
        KeysExact (edit.upserts.foldl Impl.commit state) := by
      intro updated only fits
      rw [only]
      exact exact.commit held fits
    have succeeding : ∀ {record updated : RouteRecord} {id : RouteId}, state.routes[id]? = some record →
        updated.id = record.id → updated.key = record.key → record.lifecycle ≠ .superseded →
        state.Fits updated := by
      intro record updated id found sameId sameKey live
      refine exact.fits_of_succeeds ⟨record, ?_, sameKey, live⟩
      rw [sameId, held.routes id record found]
      exact found
    cases legal with
    | takeover taken =>
        obtain ⟨generation, authorityGeneration, -, made⟩ := taken.made
        exact single rfl fun live => absurd (by rw [made]; rfl) live
    | create created =>
        obtain ⟨programmingGeneration, -, made⟩ := created.made
        refine single rfl fun _ => .inl ?_
        rw [made]
        exact created.vacant
    | replace replaced =>
        obtain ⟨-, found, -, live, -⟩ := indexed.lookupKey replaced.found
        exact single rfl (succeeding found replaced.reissued.id replaced.reissued.key live)
    | withdraw withdrawn =>
        obtain ⟨mutable, -⟩ := withdrawTarget_eq_ok withdrawn.target
        exact single rfl (succeeding mutable.found withdrawn.reissued.id withdrawn.reissued.key
          mutable.unsuperseded)
    | revalidate revalidated =>
        obtain ⟨mutable, -⟩ := revalidateTarget_eq_ok revalidated.target
        exact single rfl (succeeding mutable.found revalidated.reissued.id revalidated.reissued.key
          mutable.unsuperseded)
    | retire retired =>
        obtain ⟨-, mutable⟩ := retireTarget_eq_ok retired.target
        exact single rfl (succeeding mutable.found retired.closing.reissued.id
          retired.closing.reissued.key mutable.unsuperseded)
    | revoke revoked =>
        rename_i request record updated
        obtain ⟨found, -⟩ := revokeTarget_eq_ok revoked.target
        by_cases live : record.lifecycle = .superseded
        · -- The key is free: otherwise the revocation would steal it.
          have free : (origin.keyIndex[record.key]?).isSome = false := by
            simpa only [stealsKey, revoked.target, live, revoked.unrevoked, decide_true,
              Option.isNone_none, Bool.true_and] using keeps _ rfl
          rw [Option.isSome_eq_false_iff, Option.isNone_iff_eq_none] at free
          refine single rfl fun _ => .inl ?_
          rw [revoked.closing.reissued.key]
          exact free
        · exact single rfl (succeeding found revoked.closing.reissued.id
            revoked.closing.reissued.key live)
    | invalidate unique invalidated =>
        refine exact.commits held unique (fun record member => ?_) fun record member => ?_
        · obtain ⟨earlier, change⟩ := invalidated record member
          exact change.reissued.id ▸ held.identified _ _ change.found
        · obtain ⟨earlier, change⟩ := invalidated record member
          refine ⟨earlier, change.reissued.id ▸ change.found, change.reissued.key, ?_⟩
          intro lost
          have asserts := change.asserts
          rw [lost] at asserts
          cases asserts
    | resolve awaited => exact exact
    | complete completed =>
        refine single rfl fun live => ?_
        exact succeeding completed.awaited.found completed.evidence.id completed.evidence.key
          (fun lost => live (completed.evidence.superseded.mpr lost)) live
    | observe observed =>
        have evidence := observed.made ▸ RouteRecord.observed_evidence _ env.backend.id _
        refine single rfl fun live => ?_
        exact succeeding observed.found evidence.id evidence.key
          (fun lost => live (evidence.superseded.mpr lost)) live
  have routes : (state.applyEdit edit).routes = (edit.upserts.foldl Impl.commit state).routes := by
    rw [applyEdit_routes, foldl_insert Impl.routes Impl.commit (·.id) (fun _ record => commit_routes record)]
  exact committed.congr routes (applyEdit_keyIndex edit)

theorem Legal.keysExact_acknowledge {ids : SeededIdSource} {io : IoOutcome} (indexed : Indexed origin)
    (held : Indexed state) (exact : KeysExact state)
    (keeps : ∀ request, action = .revoke request → origin.stealsKey request = false)
    (legal : Legal config env origin action state edit) :
    KeysExact (acknowledge config io { state with ids := ids } edit).1 := by
  rcases acknowledge_cases config io { state with ids := ids } edit with ⟨files, -, applied⟩ |
    ⟨files, failure, -, failed⟩
  · rw [applied]
    refine (legal.keysExact indexed held exact keeps).congr ?_ ?_
    · rw [applyEdit_routes, applyEdit_routes]
    · rw [applyEdit_keyIndex, applyEdit_keyIndex]
      have same : ∀ (records : List RouteRecord) (left right : Impl), left.routes = right.routes →
          left.keyIndex = right.keyIndex →
          (records.foldl Impl.commit left).keyIndex = (records.foldl Impl.commit right).keyIndex := by
        intro records
        induction records with
        | nil => exact fun _ _ _ keyIndex => keyIndex
        | cons record rest ih =>
            intro left right routes keyIndex
            refine ih _ _ (by rw [commit_routes, commit_routes, routes]) ?_
            unfold Impl.commit
            rw [routes]
            split <;> simp only [indexInsert, indexErase, keyIndex]
      exact same edit.upserts _ _ rfl rfl
  · rw [failed]
    exact exact.congr rfl rfl

/-! ## Restarts -/

/-- Rebuilding the index of contents with at most one live record of each key. -/
theorem populate_keysExact {files : StoreFiles} {loaded : PersistedState}
    (unique : loaded.contents.LiveUnique) : KeysExact ((fresh seed files).populate loaded) := by
  apply KeysExact.of_named
  intro key id
  rw [populate_routes]
  constructor
  · intro named
    obtain ⟨record, member, live, sameKey, rfl⟩ := populate_keyIndex named
    obtain ⟨other, present⟩ := (mem_values _ record).mp member
    have own := (lookup_index_some present).2
    rw [own]
    exact ⟨record, present, sameKey, live⟩
  · rintro ⟨record, present, rfl, live⟩
    have member : record ∈ values loaded.contents.routes := (mem_values _ _).mpr ⟨id, present⟩
    have indexed : ((fresh seed files).populate loaded).keyIndex[record.key]? ≠ none :=
      keyIndex_named (.inl ⟨record, member, live, rfl⟩)
    obtain ⟨other, named⟩ := Option.ne_none_iff_exists'.mp indexed
    obtain ⟨sibling, siblingMember, siblingLive, sameKey, rfl⟩ := populate_keyIndex named
    obtain ⟨other, siblingPresent⟩ := (mem_values _ sibling).mp siblingMember
    have own : sibling.id = other := (lookup_index_some siblingPresent).2
    have same := unique other id sibling record siblingPresent present sameKey siblingLive live
    rw [named, own, same]

theorem recovery_keysExact {files after : StoreFiles} {loaded : PersistedState}
    (loads : Loads config env files after loaded) (unique : loaded.contents.LiveUnique) :
    KeysExact (recovery config env seed after loaded).1 := by
  refine (recover_indexed_induction config env.backend.id loads.indexed
    (motive := fun _ current _ => KeysExact current) (populate_keysExact unique) ?_ ?_ ?_).2
  · exact fun _ _ _ _ exact _ => exact
  · exact fun _ current edit attempt _ _ _ _ exact => exact.congr rfl rfl
  · intro _ current edit attempt record indexed _ _ found awaited exact
    have evidence := RouteRecord.recovered_evidence awaited config.historyLimit env.backend.id
    obtain ⟨live, -, -⟩ := RouteRecord.recovered_lifecycle awaited config.historyLimit env.backend.id
    have fits : current.Fits (record.recovered config.historyLimit env.backend.id attempt) := by
      refine exact.fits_of_succeeds ⟨record, ?_, evidence.key, live⟩
      rw [evidence.id, indexed.routes _ _ found]
      exact found
    exact (exact.commit indexed fits).congr rfl rfl

/-! ## Runs -/

/-- Whether a call takes no key from a live successor. -/
def sparesKeys (state : Impl) (call : Call) : Bool :=
  match call.action with
  | .revoke request => !state.stealsKey request
  | _ => true

/-- A step that takes no key from a live successor, on a store that keeps in step. -/
structure KeepsKeys (config : RuntimeConfig) (state : Impl) (call : Call) : Prop where
  spares : state.sparesKeys call = true
  store : config.durability ≠ .none → KeepsStore config state call

theorem KeysExact.move {before after : Impl} {call : Call} (spares : origin.sparesKeys call = true)
    (indexed : Indexed origin) (exact : KeysExact origin) (heldIndexed : Indexed before)
    (held : KeysExact before) (move : Move config call.env origin call.action before after) :
    KeysExact after := by
  cases move with
  | draw ids => exact held.congr rfl rfl
  | mutate unbroken ids index legal =>
      exact legal.keysExact_acknowledge indexed heldIndexed held fun request action => by
        simpa [sparesKeys, action] using spares
  | administer administers =>
      have administered : Administered origin (origin.perform config call.env call.action) :=
        perform_administered administers
      exact exact.congr administered.routes administered.keyIndex
  | save compacts => exact exact.congr rfl rfl
  | advance advances following saved => exact exact.congr rfl rfl

theorem run_keysExact_of_keeps {calls : List Call}
    (along : Along (step config) (KeepsKeys config) (initial seed) calls) :
    Indexed (run (step config) (initial seed) calls) ∧
      KeysExact (run (step config) (initial seed) calls) := by
  refine ⟨run_indexed calls, (run_stored Contents.LiveUnique along (fun state call keeps => keeps.store)
    (fun state exact => exact.unique) ?_
    (fun state fenced barred files exact => exact.congr rfl rfl) ?_ ?_).2.1⟩
  · exact KeysExact.of_named (by simp [initial, fresh])
  · intro state call indexed keeps exact takes before after heldIndexed held move
    exact KeysExact.move keeps.spares indexed exact heldIndexed held move
  · intro state call restartSeed files loaded stored fenced barred keeps exact action checked loads unique
    exact (recovery_keysExact loads unique).congr rfl rfl

/-- An action addressed to a route changes no other record. -/
theorem Legal.addresses (indexed : Indexed origin) (legal : Legal config env origin action state edit)
    {id : RouteId} (addresses : action.addressed = some id) (updated : RouteRecord)
    (member : updated ∈ edit.upserts) : updated.id = id := by
  cases legal with
  | withdraw withdrawn =>
      obtain rfl := List.mem_singleton.mp member
      obtain ⟨mutable, -⟩ := withdrawTarget_eq_ok withdrawn.target
      rw [withdrawn.reissued.id, indexed.routes _ _ mutable.found]
      exact Option.some.inj addresses
  | revalidate revalidated =>
      obtain rfl := List.mem_singleton.mp member
      obtain ⟨mutable, -⟩ := revalidateTarget_eq_ok revalidated.target
      rw [revalidated.reissued.id, indexed.routes _ _ mutable.found]
      exact Option.some.inj addresses
  | retire retired =>
      obtain rfl := List.mem_singleton.mp member
      obtain ⟨-, mutable⟩ := retireTarget_eq_ok retired.target
      rw [retired.closing.reissued.id, indexed.routes _ _ mutable.found]
      exact Option.some.inj addresses
  | revoke revoked =>
      obtain rfl := List.mem_singleton.mp member
      obtain ⟨found, -⟩ := revokeTarget_eq_ok revoked.target
      rw [revoked.closing.reissued.id, indexed.routes _ _ found]
      exact Option.some.inj addresses
  | observe observed =>
      obtain rfl := List.mem_singleton.mp member
      have evidence := observed.made ▸ RouteRecord.observed_evidence _ env.backend.id _
      rw [evidence.id, indexed.routes _ _ observed.found]
      exact Option.some.inj addresses
  | _ => cases addresses

/-- A record that a step does not address is as it was. -/
theorem step_unaddressed {call : Call} (indexed : Indexed state) {id other : RouteId}
    (addresses : call.action.addressed = some id) (different : other ≠ id) :
    (state.step config call).routes[other]? = state.routes[other]? := by
  refine step_preserves (motive := fun current => current.routes[other]? = state.routes[other]?)
    indexed rfl ?_ ?_
  · intro opened before after live heldIndexed held move
    cases move with
    | draw ids => exact held
    | mutate unbroken ids index legal =>
        rename_i edit
        rcases acknowledge_cases config (call.env.io index) { before with ids := ids } edit with
          ⟨files, -, applied⟩ | ⟨files, failure, -, failed⟩
        · rw [applied, applyEdit_routes, lookup_foldl_insert_of_ne]
          · exact held
          · intro record member same
            exact different (same ▸ legal.addresses indexed addresses record member)
        · rw [failed]
          exact held
    | administer administers => rw [(perform_administered administers).routes]
    | save compacts => exact held
    | advance advances following saved => exact held
  · intro restartSeed after action restarts
    rw [action] at addresses
    cases addresses

/-- In every run that steals no key, at most one record of each key is live and the key
index names exactly the live ones; and no step addressed to a superseded lineage changes
what the index answers for the key of its successor. -/
theorem run_keysExact {calls : List Call}
    (along : Along (step config) (KeepsKeys config) (initial seed) calls) :
    KeysExact (run (step config) (initial seed) calls) ∧
      ∀ call id record successor, KeepsKeys config (run (step config) (initial seed) calls) call →
        call.action.addressed = some id →
        (run (step config) (initial seed) calls).routes[id]? = some record →
        record.lifecycle = .superseded →
        (run (step config) (initial seed) calls).keyIndex[record.key]? = some successor →
        ((run (step config) (initial seed) calls).step config call).keyIndex[record.key]? =
          some successor := by
  obtain ⟨indexed, exact⟩ := run_keysExact_of_keeps along
  refine ⟨exact, ?_⟩
  intro call id record successor keeps addresses found lost named
  have later : Along (step config) (KeepsKeys config) (initial seed) (calls ++ [call]) :=
    along_append.mpr ⟨along, keeps, trivial⟩
  obtain ⟨-, after⟩ := run_keysExact_of_keeps later
  rw [run_append] at after
  obtain ⟨live, liveFound, sameKey, unsuperseded⟩ := (exact.named record.key successor).mp named
  have different : successor ≠ id := by
    rintro rfl
    obtain rfl := Option.some.inj (found.symm.trans liveFound)
    exact unsuperseded lost
  refine (after.named record.key successor).mpr ⟨live, ?_, sameKey, unsuperseded⟩
  rw [run_cons, run_nil, step_unaddressed indexed addresses different]
  exact liveFound

/-- A lineage is created, retired, taken over, and its successor published again. -/
theorem run_keysExact_takenOver :
    KeysExact (run (step Scenario.config) (initial 0)
      (Scenario.opening ++ [⟨Scenario.env, .publish (Scenario.publication 1)⟩,
        ⟨Scenario.env, .retire (Scenario.mutation 1)⟩,
        ⟨Scenario.env, .publish (Scenario.publication 2)⟩,
        ⟨Scenario.env, .revoke (Scenario.mutation 2)⟩])) := by
  have along : Along (step Scenario.config) (fun state call => sparesKeys state call = true) (initial 0)
      (Scenario.opening ++ [⟨Scenario.env, .publish (Scenario.publication 1)⟩,
        ⟨Scenario.env, .retire (Scenario.mutation 1)⟩,
        ⟨Scenario.env, .publish (Scenario.publication 2)⟩,
        ⟨Scenario.env, .revoke (Scenario.mutation 2)⟩]) := by decide +kernel
  exact (run_keysExact (along.mono fun state call spares => ⟨spares, fun durable => absurd rfl durable⟩)).1

/-- Revoking a superseded lineage takes the key from its live successor. -/
theorem revoke_superseded_steals :
    ¬ KeysExact (run (step Scenario.config) (initial 0)
      (Scenario.opening ++ [⟨Scenario.env, .publish (Scenario.publication 1)⟩,
        ⟨Scenario.env, .retire (Scenario.mutation 1)⟩,
        ⟨Scenario.env, .publish (Scenario.publication 2)⟩,
        ⟨Scenario.env, .revoke (Scenario.mutation 1)⟩])) := by
  intro exact
  have named := (exact.named Scenario.key ⟨2⟩).mpr
  revert named
  decide +kernel

end Impl

end RouteFabric
