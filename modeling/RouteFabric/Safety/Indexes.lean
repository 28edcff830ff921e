import RouteFabric.Safety.InFlight

/-!
# The secondary indexes

Every index is maintained by taking the old record out and putting the new one in. The
indexes of a state group its records exactly: under their bound path, their publisher and
their lifecycle, and by number under their routing namespace. The counter of outstanding
attempts is their number. All of it holds in every reachable state, whatever the store
gave back.
-/

namespace RouteFabric

open OrderedMap Run

/-! ## Records grouped under a trait -/

section Groups

variable {κ : Type} [Ord κ] [Std.TransOrd κ] [Std.LawfulEqOrd κ] [DecidableEq κ]
  {grouped : Map κ (FinSet RouteId)} {routes : Map RouteId RouteRecord} {trait : RouteRecord → Option κ}

/-- Whether an index lists an identity under a key. -/
def Lists (grouped : Map κ (FinSet RouteId)) (key : κ) (id : RouteId) : Prop :=
  ∃ set, grouped[key]? = some set ∧ id ∈ set

/-- An index that lists the records with a trait under it, and nothing else. -/
structure Groups (grouped : Map κ (FinSet RouteId)) (routes : Map RouteId RouteRecord)
    (trait : RouteRecord → Option κ) : Prop where
  lists : ∀ key id, Lists grouped key id ↔
    ∃ record, routes[id]? = some record ∧ trait record = some key
  inhabited : ∀ (key : κ) set, grouped[key]? = some set → set ≠ ∅

theorem lists_insertInto {key other : κ} {id member : RouteId} :
    Lists (insertInto grouped key id) other member ↔ (key = other ∧ id = member) ∨ Lists grouped other member := by
  unfold Lists insertInto
  by_cases same : key = other
  · subst same
    cases held : grouped[key]? with
    | none => simp
    | some set => simp
  · simp [same]

theorem lists_eraseFrom {key other : κ} {id member : RouteId} :
    Lists (eraseFrom grouped key id) other member ↔
      Lists grouped other member ∧ ¬ (key = other ∧ id = member) := by
  unfold Lists eraseFrom
  by_cases same : key = other
  · subst same
    split
    · rename_i absent
      simp [absent]
    · rename_i set held
      split
      · rename_i empty
        have last : ∀ left, left ∈ set → id = left := by
          intro left member
          by_contra different
          have remains : left ∈ set.erase id := by simp [different, member]
          rw [Std.ExtTreeSet.isEmpty_iff.mp empty] at remains
          exact Std.ExtTreeSet.not_mem_empty remains
        simp only [lookup_erase, if_true, reduceCtorEq, false_and, exists_false, held, Option.some.injEq,
          exists_eq_left', true_and, false_iff, not_and, not_not]
        exact last member
      · simp [held, and_comm]
  · split
    · simp [same]
    · split <;> simp [same]

/-- Taking a record out of the index. -/
def eraseAt (grouped : Map κ (FinSet RouteId)) (key : Option κ) (id : RouteId) : Map κ (FinSet RouteId) :=
  match key with
  | none => grouped
  | some key => eraseFrom grouped key id

/-- Putting a record into the index. -/
def insertAt (grouped : Map κ (FinSet RouteId)) (key : Option κ) (id : RouteId) : Map κ (FinSet RouteId) :=
  match key with
  | none => grouped
  | some key => insertInto grouped key id

theorem eraseFrom_inhabited {key : κ} {id : RouteId}
    (inhabited : ∀ (key : κ) set, grouped[key]? = some set → set ≠ ∅) (other : κ) (set : FinSet RouteId)
    (found : (eraseFrom grouped key id)[other]? = some set) : set ≠ ∅ := by
  unfold eraseFrom at found
  split at found
  · exact inhabited other set found
  · split at found
    · rw [lookup_erase] at found
      split at found
      · cases found
      · exact inhabited other set found
    · rename_i remaining
      rw [lookup_insert] at found
      split at found
      · obtain rfl := Option.some.inj found
        exact fun empty => remaining (Std.ExtTreeSet.isEmpty_iff.mpr empty)
      · exact inhabited other set found

theorem Groups.erase (groups : Groups grouped routes trait) {record : RouteRecord}
    (found : routes[record.id]? = some record) :
    Groups (eraseAt grouped (trait record) record.id) (routes.erase record.id) trait := by
  constructor
  · intro key id
    have listed : Lists (eraseAt grouped (trait record) record.id) key id ↔
        Lists grouped key id ∧ ¬ (trait record = some key ∧ record.id = id) := by
      cases held : trait record with
      | none => simp [eraseAt]
      | some own => simp [eraseAt, lists_eraseFrom]
    rw [listed, groups.lists]
    by_cases same : record.id = id
    · subst same
      simp [found]
    · simp [same]
  · intro key set held
    cases attributed : trait record with
    | none =>
        rw [attributed] at held
        exact groups.inhabited key set held
    | some own =>
        rw [attributed] at held
        exact eraseFrom_inhabited groups.inhabited key set held

theorem Groups.insert (groups : Groups grouped routes trait) {record : RouteRecord}
    (absent : routes[record.id]? = none) :
    Groups (insertAt grouped (trait record) record.id) (routes.insert record.id record) trait := by
  constructor
  · intro key id
    have listed : Lists (insertAt grouped (trait record) record.id) key id ↔
        (trait record = some key ∧ record.id = id) ∨ Lists grouped key id := by
      cases held : trait record with
      | none => simp [insertAt]
      | some own => simp [insertAt, lists_insertInto]
    rw [listed, groups.lists]
    by_cases same : record.id = id
    · subst same
      simp [absent]
    · simp [same]
  · intro key set held
    cases attributed : trait record with
    | none =>
        rw [attributed] at held
        exact groups.inhabited key set held
    | some own =>
        simp only [attributed, insertAt, insertInto, lookup_insert] at held
        split at held
        · obtain rfl := Option.some.inj held
          intro empty
          have listed : record.id ∈ (grouped[own]?.getD ∅).insert record.id := by simp
          rw [empty] at listed
          exact Std.ExtTreeSet.not_mem_empty listed
        · exact groups.inhabited key set held

end Groups

/-- The routes of a routing namespace. -/
def namespaceIds (routes : Map RouteId RouteRecord) (routingNamespace : RoutingNamespace) : Finset RouteId :=
  keysWhere routes fun record => record.key.routingNamespace = routingNamespace

/-- Counts that give every namespace its number of records, and no entry for none. -/
def Tallies (counts : Map RoutingNamespace Nat) (routes : Map RouteId RouteRecord) : Prop :=
  ∀ routingNamespace : RoutingNamespace, counts[routingNamespace]? =
    if (namespaceIds routes routingNamespace).card = 0 then none
    else some (namespaceIds routes routingNamespace).card

namespace Impl

variable {config : RuntimeConfig} {env : Env} {seed : Word} {origin state : Impl} {edit : Edit}
  {routes : Map RouteId RouteRecord} {call : Call} {record : RouteRecord}

theorem Tallies.erase (tallies : Tallies state.namespaceCounts routes)
    (found : routes[record.id]? = some record) :
    Tallies (state.indexErase record).namespaceCounts (routes.erase record.id) := by
  intro routingNamespace
  have member : record.id ∈ namespaceIds routes record.key.routingNamespace :=
    mem_keysWhere.mpr ⟨record, found, by simp⟩
  have positive : 0 < (namespaceIds routes record.key.routingNamespace).card :=
    Finset.card_pos.mpr ⟨_, member⟩
  have own := tallies record.key.routingNamespace
  rw [if_neg (by omega)] at own
  have smaller : namespaceIds (routes.erase record.id) routingNamespace =
      (namespaceIds routes routingNamespace).erase record.id := keysWhere_erase _ _ _
  simp only [indexErase, own]
  by_cases same : record.key.routingNamespace = routingNamespace
  · subst same
    rw [smaller, Finset.card_erase_of_mem member]
    split <;> simp
  · have elsewhere : record.id ∉ namespaceIds routes routingNamespace := by
      intro listed
      obtain ⟨other, held, belongs⟩ := mem_keysWhere.mp listed
      obtain rfl := Option.some.inj (found.symm.trans held)
      exact same (of_decide_eq_true belongs)
    rw [smaller, Finset.erase_eq_of_notMem elsewhere, ← tallies routingNamespace]
    split
    · exact (lookup_erase _ _ _).trans (if_neg same)
    · exact lookup_insert_of_ne _ _ same

theorem Tallies.insert (tallies : Tallies state.namespaceCounts routes)
    (absent : routes[record.id]? = none) :
    Tallies (state.indexInsert record).namespaceCounts (routes.insert record.id record) := by
  intro routingNamespace
  have unlisted : record.id ∉ namespaceIds routes routingNamespace := by
    intro listed
    obtain ⟨other, held, -⟩ := mem_keysWhere.mp listed
    rw [absent] at held
    cases held
  have larger : namespaceIds (routes.insert record.id record) routingNamespace =
      if decide (record.key.routingNamespace = routingNamespace) then
        Insert.insert record.id (namespaceIds routes routingNamespace)
      else (namespaceIds routes routingNamespace).erase record.id := keysWhere_insert _ _ _ _
  rw [larger]
  simp only [indexInsert, lookup_insert, decide_eq_true_eq]
  by_cases same : record.key.routingNamespace = routingNamespace
  · subst same
    have counted := tallies record.key.routingNamespace
    have size : (state.namespaceCounts[record.key.routingNamespace]?).getD 0 =
        (namespaceIds routes record.key.routingNamespace).card := by
      rw [counted]
      split
      · rename_i none
        exact none.symm
      · rfl
    rw [if_pos rfl, if_pos rfl, size, Finset.card_insert_of_notMem unlisted]
    rfl
  · rw [if_neg same, if_neg same, Finset.erase_eq_of_notMem unlisted]
    exact tallies routingNamespace

/-! ## The indexes of a state -/

/-- The indexes group the records of a route map exactly. -/
structure IndexesOf (state : Impl) (routes : Map RouteId RouteRecord) : Prop where
  paths : Groups state.pathIndex routes RouteRecord.indexedPath
  publishers : Groups state.publisherIndex routes fun record => some record.provenance.publisher
  lifecycles : Groups state.lifecycleIndex routes fun record => some record.lifecycle
  namespaces : Tallies state.namespaceCounts routes

theorem IndexesOf.indexErase (indexes : IndexesOf state routes) (found : routes[record.id]? = some record) :
    IndexesOf (state.indexErase record) (routes.erase record.id) where
  paths := by
    have erased := indexes.paths.erase found
    simp only [Impl.indexErase]
    cases held : record.indexedPath <;> simpa only [eraseAt, held] using erased
  publishers := indexes.publishers.erase found
  lifecycles := indexes.lifecycles.erase found
  namespaces := Tallies.erase indexes.namespaces found

theorem IndexesOf.indexInsert (indexes : IndexesOf state routes) (absent : routes[record.id]? = none) :
    IndexesOf (state.indexInsert record) (routes.insert record.id record) where
  paths := by
    have inserted := indexes.paths.insert absent
    simp only [Impl.indexInsert]
    cases held : record.indexedPath <;> simpa only [insertAt, held] using inserted
  publishers := indexes.publishers.insert absent
  lifecycles := indexes.lifecycles.insert absent
  namespaces := Tallies.insert indexes.namespaces absent

theorem insert_erase (routes : Map RouteId RouteRecord) (record : RouteRecord) :
    (routes.erase record.id).insert record.id record = routes.insert record.id record := by
  apply Std.ExtTreeMap.ext_getElem?
  intro id
  rw [lookup_insert, lookup_insert, lookup_erase]
  split <;> rfl

theorem IndexesOf.commit (indexes : IndexesOf state state.routes)
    (keyed : ∀ (id : RouteId) record, state.routes[id]? = some record → record.id = id) :
    IndexesOf (state.commit record) (state.commit record).routes := by
  rw [commit_routes]
  cases held : state.routes[record.id]? with
  | none =>
      obtain ⟨paths, publishers, lifecycles, namespaces⟩ := indexes.indexInsert held
      simp only [Impl.commit, held]
      exact ⟨paths, publishers, lifecycles, namespaces⟩
  | some existing =>
      have own := keyed _ _ held
      rw [← own] at held
      have erased : IndexesOf (state.indexErase existing) (state.routes.erase record.id) :=
        own ▸ indexes.indexErase held
      have inserted : IndexesOf ((state.indexErase existing).indexInsert record)
          ((state.routes.erase record.id).insert record.id record) := erased.indexInsert (by simp)
      rw [insert_erase] at inserted
      rw [own] at held
      simp only [Impl.commit, held]
      exact ⟨inserted.paths, inserted.publishers, inserted.lifecycles, inserted.namespaces⟩

theorem IndexesOf.commits {records : List RouteRecord} (indexes : IndexesOf state state.routes)
    (keyed : ∀ (id : RouteId) record, state.routes[id]? = some record → record.id = id) :
    IndexesOf (records.foldl Impl.commit state) (records.foldl Impl.commit state).routes := by
  induction records generalizing state with
  | nil => exact indexes
  | cons record rest ih =>
      refine ih (indexes.commit keyed) fun id other found => ?_
      rw [commit_routes, lookup_insert] at found
      split at found
      · rename_i same
        exact Option.some.inj found ▸ same
      · exact keyed id other found

theorem IndexesOf.congr {after : Impl} (indexes : IndexesOf state routes)
    (same : after.secondary = state.secondary) : IndexesOf after routes := by
  simp only [secondary, Prod.mk.injEq] at same
  obtain ⟨paths, publishers, lifecycles, namespaces⟩ := same
  exact ⟨paths ▸ indexes.paths, publishers ▸ indexes.publishers, lifecycles ▸ indexes.lifecycles,
    namespaces ▸ indexes.namespaces⟩

/-- The indexes group the records of the state. -/
def IndexesExact (state : Impl) : Prop := IndexesOf state state.routes

theorem IndexesExact.applyEdit (indexes : IndexesExact state)
    (keyed : ∀ (id : RouteId) record, state.routes[id]? = some record → record.id = id) (edit : Edit) :
    IndexesExact (state.applyEdit edit) := by
  have committed : IndexesOf _ (edit.upserts.foldl Impl.commit state).routes :=
    IndexesOf.commits indexes keyed
  have routes : (state.applyEdit edit).routes = (edit.upserts.foldl Impl.commit state).routes := by
    rw [applyEdit_routes, foldl_insert Impl.routes Impl.commit (·.id) (fun _ record => commit_routes record)]
  unfold IndexesExact
  rw [routes]
  refine committed.congr ?_
  have settles : ∀ (state : Impl) attempt, (state.settleAttempt attempt).secondary = state.secondary := by
    intro state attempt
    unfold settleAttempt
    split <;> rfl
  rw [Impl.applyEdit, foldl_project secondary settleAttempt settles,
    foldl_project secondary Impl.revoke (fun _ _ => rfl)]

/-- Building the indexes of a loaded state. -/
theorem IndexesOf.inserts {records : List RouteRecord} (indexes : IndexesOf state routes)
    (unique : (records.map (·.id)).Nodup) (absent : ∀ record ∈ records, routes[record.id]? = none) :
    IndexesOf (records.foldl Impl.indexInsert state)
      (records.foldl (fun map record => map.insert record.id record) routes) := by
  induction records generalizing state routes with
  | nil => exact indexes
  | cons record rest ih =>
      obtain ⟨apart, unique⟩ := List.nodup_cons.mp unique
      refine ih (indexes.indexInsert (absent record List.mem_cons_self)) unique fun other member => ?_
      have different : record.id ≠ other.id := fun same =>
        apart (List.mem_map.mpr ⟨other, member, same.symm⟩)
      rw [lookup_insert_of_ne _ _ different]
      exact absent other (List.mem_cons_of_mem _ member)

theorem fresh_indexes (seed : Word) (files : StoreFiles) : IndexesOf (fresh seed files) ∅ := by
  have none : ∀ routingNamespace, namespaceIds ∅ routingNamespace = ∅ := by
    intro routingNamespace
    ext id
    simp [namespaceIds, mem_keysWhere]
  refine ⟨⟨?_, ?_⟩, ⟨?_, ?_⟩, ⟨?_, ?_⟩, ?_⟩
  all_goals simp [fresh, Lists, Tallies, none]

theorem populate_indexes {files : StoreFiles} (loaded : PersistedState) :
    IndexesExact ((fresh seed files).populate loaded) := by
  have keyed : ∀ (id : RouteId) record, (index (·.id) loaded.routes)[id]? = some record → record.id = id :=
    fun _ _ found => (lookup_index_some found).2
  unfold IndexesExact
  rw [populate_routes]
  have same : (values (index (·.id) loaded.routes)).foldl (fun map record => map.insert record.id record) ∅ =
      index (·.id) loaded.routes := index_values keyed
  rw [← same]
  refine IndexesOf.inserts ?_ (nodup_map_values keyed) (by simp)
  exact (fresh_indexes seed files).congr rfl

theorem recovery_indexes {files after : StoreFiles} {loaded : PersistedState}
    (loads : Loads config env files after loaded) :
    IndexesExact (recovery config env seed after loaded).1 := by
  refine (recover_indexed_induction config env.backend.id loads.indexed
    (motive := fun _ current _ => IndexesExact current) (populate_indexes loaded) ?_ ?_ ?_).2
  · exact fun _ _ _ _ held _ => held
  · exact fun _ _ _ _ _ _ _ _ held => IndexesOf.congr held rfl
  · intro _ current _ attempt record indexed _ _ _ _ held
    exact IndexesOf.congr (IndexesOf.commit held indexed.routes) rfl

/-! ## Outstanding attempts -/

/-- The counter is the number of unresolved attempts. -/
def CountsOutstanding (state : Impl) : Prop := state.outstandingProgramming = (outstandingIds state.attempts).card

variable {attempt : ProgrammingAttemptRecord}

theorem outstandingIds_insert (attempts : Map ProgrammingAttemptId ProgrammingAttemptRecord)
    (attempt : ProgrammingAttemptRecord) :
    outstandingIds (attempts.insert attempt.attempt attempt) =
      if attempt.resolved then (outstandingIds attempts).erase attempt.attempt
      else insert attempt.attempt (outstandingIds attempts) := by
  ext id
  by_cases same : attempt.attempt = id
  · subst same
    by_cases resolved : attempt.resolved = true <;> simp [mem_outstandingIds, resolved]
  · have different : ¬ id = attempt.attempt := fun equal => same equal.symm
    by_cases resolved : attempt.resolved = true <;> simp [mem_outstandingIds, resolved, same, different]

theorem CountsOutstanding.congr {after : Impl} (counted : state.CountsOutstanding) (attempts : after.attempts = state.attempts)
    (outstanding : after.outstandingProgramming = state.outstandingProgramming) : after.CountsOutstanding := by
  unfold CountsOutstanding
  rw [attempts, outstanding]
  exact counted

theorem CountsOutstanding.recordAttempt (counted : state.CountsOutstanding) (waits : attempt.resolved = false)
    (unpending : attempt.attempt ∉ outstandingIds state.attempts) :
    (state.recordAttempt attempt).CountsOutstanding := by
  have number : state.outstandingProgramming = _ := counted
  simp only [CountsOutstanding, Impl.recordAttempt, outstandingIds_insert, waits, Bool.false_eq_true, if_false]
  rw [Finset.card_insert_of_notMem unpending, number]

theorem CountsOutstanding.resolveAttempt (counted : state.CountsOutstanding) (resolved : attempt.resolved = true) :
    (state.resolveAttempt attempt).CountsOutstanding := by
  have number : state.outstandingProgramming = _ := counted
  simp only [CountsOutstanding, Impl.resolveAttempt, outstandingIds_insert, resolved, if_true]
  by_cases waits : attempt.attempt ∈ outstandingIds state.attempts
  · obtain ⟨known, found, unresolved⟩ := mem_outstandingIds.mp waits
    rw [Finset.card_erase_of_mem waits, ← number]
    simp [found, unresolved]
  · rw [Finset.erase_eq_of_notMem waits, ← number]
    split
    · rename_i known found
      split
      · rfl
      · rename_i unresolved
        exact absurd (mem_outstandingIds.mpr ⟨known, found, Bool.eq_false_iff.mpr unresolved⟩) waits
    · rfl

/-- Every edit keeps the counter exact when its call draws the identity of no unresolved
attempt. -/
theorem Legal.countsOutstanding {held : Impl} (indexed : Indexed origin)
    (unpending : origin.drawsUnpending call = true)
    (legal : Legal config call.env origin call.action state edit) (attempts : held.attempts = state.attempts)
    (counted : held.CountsOutstanding) : (held.applyEdit edit).CountsOutstanding := by
  have same : (edit.revoked.foldl Impl.revoke (edit.upserts.foldl Impl.commit held)).attempts =
      held.attempts := by
    rw [foldl_project Impl.attempts Impl.revoke (fun _ _ => rfl),
      foldl_project Impl.attempts Impl.commit (fun _ _ => commit_attempts _)]
  have number : (edit.revoked.foldl Impl.revoke (edit.upserts.foldl Impl.commit
      held)).outstandingProgramming = held.outstandingProgramming := by
    rw [foldl_project Impl.outstandingProgramming Impl.revoke (fun _ _ => rfl),
      foldl_project Impl.outstandingProgramming Impl.commit (fun _ _ => commit_outstandingProgramming _)]
  have installed := counted.congr same number
  rcases legal.books indexed with none | ⟨updated, operation, attempt, -, only, origins, dispatched⟩ |
    ⟨attempt, only, -⟩
  · rw [applyEdit, none]
    exact installed
  · have waits : attempt.resolved = false := by
      rw [dispatched.waits]
      rfl
    have draws := legal.drawn (only ▸ List.mem_singleton_self attempt) waits
    simp only [drawsUnpending, draws, ← origins] at unpending
    rw [applyEdit, only, List.foldl_cons, List.foldl_nil, settleAttempt, if_neg (by simp [waits])]
    refine installed.recordAttempt waits ?_
    rw [same, attempts]
    intro pending
    obtain ⟨known, found, unresolved⟩ := mem_outstandingIds.mp pending
    rw [found, Option.all_some, unresolved] at unpending
    cases unpending
  · rw [applyEdit, only, List.foldl_cons, List.foldl_nil, settleAttempt, if_pos rfl]
    exact installed.resolveAttempt rfl

/-- Every resolution of a recovery keeps the counter exact. -/
theorem CountsOutstanding.recover (counted : state.CountsOutstanding) (backend : BackendId) :
    (state.recover config backend).1.CountsOutstanding := by
  refine recover_induction config backend (motive := fun _ current _ => current.CountsOutstanding) counted ?_ ?_ ?_
  · exact fun _ _ _ _ held _ => held
  · exact fun _ _ _ _ _ _ _ held => held.resolveAttempt rfl
  · intro _ current _ attempt record _ _ _ _ held
    exact (held.congr (commit_attempts _) (commit_outstandingProgramming _)).resolveAttempt rfl

/-- Recovery leaves nothing outstanding. -/
theorem recovery_outstanding {files after : StoreFiles} {loaded : PersistedState}
    (loads : Loads config env files after loaded) (seed : Word) :
    (recovery config env seed after loaded).1.outstandingProgramming = 0 ∧
      outstandingIds (recovery config env seed after loaded).1.attempts = ∅ := by
  have recovered : Recovered _ _ _ := loads.recovered seed
  have none : outstandingIds (recovery config env seed after loaded).1.attempts = ∅ := by
    ext id
    simp only [mem_outstandingIds, Finset.notMem_empty, iff_false, not_exists, not_and]
    intro attempt found
    rw [recovered.settled id attempt found]
    exact Bool.noConfusion
  refine ⟨?_, none⟩
  have loadedCount : ((fresh seed after).populate loaded).CountsOutstanding := by
    unfold CountsOutstanding
    rw [populate_attempts]
    exact populate_outstanding loads.unique
  have counted : (recovery config env seed after loaded).1.CountsOutstanding :=
    loadedCount.recover env.backend.id
  rw [counted, none, Finset.card_empty]

/-! ## Moves and restarts -/

theorem IndexesExact.congr {after : Impl} (indexes : IndexesExact state) (routes : after.routes = state.routes)
    (secondary : after.secondary = state.secondary) : IndexesExact after := by
  unfold IndexesExact
  rw [routes]
  exact IndexesOf.congr indexes secondary

theorem IndexesExact.move {before after : Impl} (kept : IndexesExact origin) (heldIndexed : Indexed before)
    (held : IndexesExact before) (move : Move config call.env origin call.action before after) :
    IndexesExact after := by
  cases move with
  | draw ids => exact held.congr rfl rfl
  | mutate unbroken ids index legal =>
      rename_i edit
      rcases acknowledge_cases config (call.env.io index) { before with ids := ids } edit with
        ⟨files, -, applied⟩ | ⟨files, failure, -, failed⟩
      · rw [applied]
        have drawn : IndexesExact { before with ids := ids, files := files } := held.congr rfl rfl
        exact drawn.applyEdit heldIndexed.routes edit
      · rw [failed]
        exact held.congr rfl rfl
  | administer administers =>
      have administered : Administered origin (origin.perform config call.env call.action) :=
        perform_administered administers
      exact kept.congr administered.routes administered.secondary
  | save compacts => exact kept.congr rfl rfl
  | advance advances following saved => exact kept.congr rfl rfl

theorem IndexesExact.restart {after : Impl} (kept : IndexesExact state)
    (restarts : Restarts config env seed state after) : IndexesExact after := by
  cases restarts with
  | refused => exact kept.congr rfl rfl
  | unsaved loads failed => exact kept.congr rfl rfl
  | opened checked loads saved => exact IndexesOf.congr (recovery_indexes loads) rfl

/-- The indexes are exact in every reachable state. -/
theorem run_indexesExact (calls : List Call) : IndexesExact (run (step config) (initial seed) calls) := by
  have always : Along (step config) (fun _ _ => True) (initial seed) calls :=
    along_of_forall (fun _ _ => trivial) _ _
  refine (run_preserves always (fresh_indexes seed {}) fun state call indexed _ kept => ?_).2
  refine step_preserves indexed kept ?_ ?_
  · exact fun _ before after _ heldIndexed held move => kept.move heldIndexed held move
  · exact fun _ after _ restarts => kept.restart restarts

/-- The indexes and the counter of a state agree with its maps. -/
structure Bookkept (limits : Limits) (state : Impl) : Prop where
  indexes : IndexesExact state
  counted : CountsOutstanding state
  limited : state.outstandingProgramming ≤ limits.maxOutstandingProgramming

theorem Bookkept.congr {limits : Limits} {after : Impl} (kept : Bookkept limits state)
    (routes : after.routes = state.routes) (secondary : after.secondary = state.secondary)
    (attempts : after.attempts = state.attempts)
    (outstanding : after.outstandingProgramming = state.outstandingProgramming) : Bookkept limits after where
  indexes := kept.indexes.congr routes secondary
  counted := kept.counted.congr attempts outstanding
  limited := outstanding ▸ kept.limited

theorem Bookkept.rationed {limits : Limits} (kept : Bookkept limits state) : state.Rationed limits :=
  ⟨kept.counted.symm.le, kept.limited⟩

theorem Bookkept.move {before after : Impl} (indexed : Indexed origin)
    (unpending : origin.drawsUnpending call = true) (kept : Bookkept config.limits origin)
    (heldIndexed : Indexed before) (held : Bookkept config.limits before)
    (move : Move config call.env origin call.action before after) : Bookkept config.limits after := by
  cases move with
  | draw ids => exact held.congr rfl rfl rfl rfl
  | mutate unbroken ids index legal =>
      rename_i edit
      rcases acknowledge_cases config (call.env.io index) { before with ids := ids } edit with
        ⟨files, -, applied⟩ | ⟨files, failure, -, failed⟩
      · rw [applied]
        have drawn : Bookkept config.limits { before with ids := ids, files := files } :=
          held.congr rfl rfl rfl rfl
        have rationed : Rationed (applyEdit { before with ids := ids, files := files } edit) config.limits :=
          legal.rationed indexed rfl drawn.rationed
        exact ⟨drawn.indexes.applyEdit heldIndexed.routes edit,
          legal.countsOutstanding indexed unpending rfl drawn.counted, rationed.limited⟩
      · rw [failed]
        exact held.congr rfl rfl rfl rfl
  | administer administers =>
      have administered : Administered origin (origin.perform config call.env call.action) :=
        perform_administered administers
      exact kept.congr administered.routes administered.secondary
        (congrArg Contents.attempts administered.contents) administered.outstandingProgramming
  | save compacts => exact kept.congr rfl rfl rfl rfl
  | advance advances following saved => exact kept.congr rfl rfl rfl rfl

theorem Bookkept.restart {after : Impl} (kept : Bookkept config.limits state)
    (restarts : Restarts config env seed state after) : Bookkept config.limits after := by
  cases restarts with
  | refused => exact kept.congr rfl rfl rfl rfl
  | unsaved loads failed => exact kept.congr rfl rfl rfl rfl
  | opened checked loads saved =>
      obtain ⟨zero, none⟩ := recovery_outstanding loads seed
      refine ⟨IndexesOf.congr (recovery_indexes loads) rfl, ?_, ?_⟩
      · exact zero.trans (by rw [none, Finset.card_empty])
      · exact zero ▸ Nat.zero_le _

end Impl

end RouteFabric
