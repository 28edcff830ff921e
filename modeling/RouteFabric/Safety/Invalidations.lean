import RouteFabric.Safety.Indexes

/-!
# Path invalidation

When a path loses its authority, the routes bound to it are found through the path index
and lose their claim to be installed. The index is exact in every reachable state, so the
routes that change are exactly those that depend on the path and still assert that they
can be installed. Asking the path authority about every indexed path leaves no such route
on a path that is not usable at the generation it is bound to.
-/

namespace RouteFabric

open OrderedMap Run

/-- A route that loses its authority when its path is authorized as given. -/
structure Impl.LosesPath (state : Impl) (path : PathId) (generation : PathAuthorityGeneration)
    (authorization : PathAuthorization) (record : RouteRecord) : Prop where
  kind : record.binding.kind = .authorizedPath
  path : record.binding.path = path
  unrevoked : state.revocations[record.id]? = none
  asserts : record.lifecycle = .installed ∨ record.lifecycle = .installing ∨ record.lifecycle = .ready ∨
    record.lifecycle = .revalidationRequired
  changed : ¬ (authorization = .usable ∧ generation = record.binding.pathAuthorityGeneration)

/-- What becomes of it. -/
structure RouteRecord.Invalidated (before after : RouteRecord) : Prop where
  lifecycle : after.lifecycle = .revalidationRequired
  generation : after.generation.value = before.generation.value + 1
  authorityGeneration : after.authorityGeneration.value = before.authorityGeneration.value + 1
  watermark : after.invalidationWatermark = after.authorityGeneration

namespace Impl

variable {config : RuntimeConfig} {env : Env} {seed : Word} {origin state after : Impl} {path : PathId}
  {generation : PathAuthorityGeneration} {authorization : PathAuthorization} {io : IoOutcome}
  {id : RouteId} {record updated : RouteRecord}

theorem assertsInstallability_iff {lifecycle : RouteLifecycle} : assertsInstallability lifecycle = true ↔
    lifecycle = .installed ∨ lifecycle = .installing ∨ lifecycle = .ready ∨
      lifecycle = .revalidationRequired := by
  simp [assertsInstallability]

theorem Invalidation.invalidated
    (invalidation : Invalidation config state generation authorization record updated) :
    record.Invalidated updated ∧ updated.id = record.id ∧ updated.binding = record.binding := by
  obtain ⟨next, nextAuthority, counters, rfl⟩ := invalidation.made
  exact ⟨⟨rfl, counters.next, counters.nextAuthority, rfl⟩, rfl, rfl⟩

theorem indexedPath_eq_some : record.indexedPath = some path ↔
    record.binding.kind = .authorizedPath ∧ record.binding.path.isValid = true ∧ record.binding.path = path := by
  unfold RouteRecord.indexedPath
  split
  · rename_i bound
    simp [bound]
  · rename_i unbound
    simp only [reduceCtorEq, false_iff]
    exact fun bound => unbound ⟨bound.1, bound.2.1⟩

/-! ## Bindings -/

/-- Every binding held is valid. -/
def BindingsValid (state : Impl) : Prop :=
  ∀ (id : RouteId) record, state.routes[id]? = some record → record.binding.isValid = true

/-- What is not validated keeps the binding it had. -/
theorem Legal.bindingValid {action : Action} {edit : Edit} (valid : BindingsValid origin) (indexed : Indexed origin)
    (legal : Legal config env origin action state edit) (member : updated ∈ edit.upserts) :
    updated.binding.isValid = true := by
  cases legal with
  | takeover taken =>
      obtain rfl := List.mem_singleton.mp member
      obtain ⟨-, found, -⟩ := indexed.lookupKey taken.found
      have kept := valid _ _ found
      obtain ⟨_, _, -, rfl⟩ := taken.made
      exact kept
  | create created =>
      obtain rfl := List.mem_singleton.mp member
      exact created.dispatched.valid.binding
  | replace replaced =>
      obtain rfl := List.mem_singleton.mp member
      exact replaced.dispatched.valid.binding
  | withdraw withdrawn =>
      obtain rfl := List.mem_singleton.mp member
      exact withdrawn.dispatched.valid.binding
  | revalidate revalidated =>
      obtain rfl := List.mem_singleton.mp member
      exact revalidated.dispatched.valid.binding
  | retire retired =>
      obtain rfl := List.mem_singleton.mp member
      exact retired.closing.valid.binding
  | revoke revoked =>
      obtain rfl := List.mem_singleton.mp member
      exact revoked.closing.valid.binding
  | invalidate unique invalidated =>
      obtain ⟨record, invalidation⟩ := invalidated updated member
      obtain ⟨-, -, same⟩ := invalidation.invalidated
      rw [same]
      exact valid _ _ invalidation.found
  | resolve awaited idle => exact absurd member List.not_mem_nil
  | complete completed =>
      obtain rfl := List.mem_singleton.mp member
      rw [completed.evidence.binding]
      exact valid _ _ completed.awaited.found
  | observe observed =>
      obtain rfl := List.mem_singleton.mp member
      exact observed.valid.binding

/-- The bindings are valid in every reachable state. -/
theorem run_bindingsValid (calls : List Call) : BindingsValid (run (step config) (initial seed) calls) := by
  have always : Along (step config) (fun _ _ => True) (initial seed) calls :=
    along_of_forall (fun _ _ => trivial) _ _
  refine (run_preserves always (by simp [BindingsValid, initial, fresh]) fun state call indexed _ valid => ?_).2
  refine step_preserves indexed valid ?_ ?_
  · intro _ before after _ _ held move
    exact move.records held fun edit legal updated member => legal.bindingValid valid indexed member
  · intro seed after _ restarts
    cases restarts with
    | refused => exact valid
    | unsaved loads failed => exact valid
    | opened checked loads saved =>
        intro id record found
        have recovered : Recovered _ _ _ := loads.recovered seed
        obtain ⟨earlier, held, evidence⟩ := recovered.evidence id record found
        rw [populate_routes] at held
        obtain ⟨member, -⟩ := lookup_index_some held
        rw [evidence.binding]
        exact (loads.sound.routes earlier member).valid.binding

/-! ## One path -/

/-- What invalidating a path makes of the routes. -/
structure Invalidates (path : PathId) (generation : PathAuthorityGeneration)
    (authorization : PathAuthorization) (before after : Impl) : Prop where
  loses : ∀ (id : RouteId) record, before.routes[id]? = some record →
    before.LosesPath path generation authorization record →
    ∃ updated, after.routes[id]? = some updated ∧ record.Invalidated updated ∧ updated.binding = record.binding
  keeps : ∀ (id : RouteId) record, before.routes[id]? = some record →
    ¬ before.LosesPath path generation authorization record → after.routes[id]? = some record
  absent : ∀ id : RouteId, before.routes[id]? = none → after.routes[id]? = none
  revocations : after.revocations = before.revocations

theorem mem_invalidatedRecords {ids : List RouteId} {records : List RouteRecord}
    (built : state.invalidatedRecords config generation authorization ids = .ok records) :
    (∀ id ∈ ids, ∃ one, state.invalidateOne config generation authorization id = .ok one ∧
      ∀ record ∈ one, record ∈ records) ∧
      ∀ record ∈ records, ∃ id ∈ ids,
        state.invalidateOne config generation authorization id = .ok (some record) := by
  induction ids generalizing records with
  | nil =>
      simp only [invalidatedRecords, Except.ok.injEq] at built
      simp [← built]
  | cons id rest ih =>
      simp only [invalidatedRecords, bind_eq_ok, pure_eq_ok] at built
      obtain ⟨first, one, others, more, rfl⟩ := built
      obtain ⟨each, listed⟩ := ih more
      constructor
      · intro other member
        rcases List.mem_cons.mp member with rfl | inRest
        · exact ⟨first, one, fun record held => List.mem_append_left _ (by simpa using held)⟩
        · obtain ⟨found, built, contained⟩ := each other inRest
          exact ⟨found, built, fun record held => List.mem_append_right _ (contained record held)⟩
      · intro record member
        rcases List.mem_append.mp member with isFirst | inOthers
        · have held : first = some record := by simpa using isFirst
          exact ⟨id, List.mem_cons_self, held ▸ one⟩
        · obtain ⟨other, inRest, built⟩ := listed record inOthers
          exact ⟨other, List.mem_cons_of_mem _ inRest, built⟩

/-- A dependent that loses its path and is left out of what has to be written is none. -/
theorem invalidateOne_some (found : state.routes[id]? = some record) (own : record.id = id)
    (loses : state.LosesPath path generation authorization record) {one : Option RouteRecord}
    (built : state.invalidateOne config generation authorization id = .ok one) : one ≠ none := by
  rintro rfl
  have unrevoked : (state.revocations[id]?).isSome = false := by
    rw [← own, loses.unrevoked]
    rfl
  have asserts := assertsInstallability_iff.mpr loses.asserts
  simp only [invalidateOne, found, unrevoked, asserts, loses.changed, Bool.false_eq_true, Bool.true_eq_false,
    if_false, bind_eq_ok, pure_eq_ok, reduceCtorEq, and_false, exists_false] at built

/-- The dependents of a path are found in the path index. -/
theorem IndexesExact.dependents (indexes : IndexesExact state) (valid : path.isValid = true)
    (found : state.routes[id]? = some record) (kind : record.binding.kind = .authorizedPath)
    (bound : record.binding.path = path) : Lists state.pathIndex path id := by
  refine (indexes.paths.lists path id).mpr ⟨record, found, ?_⟩
  simp [RouteRecord.indexedPath, kind, bound, valid]

theorem invalidatePath_invalidates (indexed : Indexed state) (indexes : IndexesExact state)
    (valid : path.isValid = true)
    (done : state.invalidatePath config io path generation authorization = (after, .ok ())) :
    Invalidates path generation authorization state after := by
  have unaffected : (∀ (id : RouteId) record, state.routes[id]? = some record →
      ¬ state.LosesPath path generation authorization record) →
      Invalidates path generation authorization state state := fun none =>
    ⟨fun id record found loses => absurd loses (none id record found), fun _ _ found _ => found,
      fun _ missing => missing, rfl⟩
  unfold invalidatePath at done
  split at done
  · rename_i unindexed
    obtain ⟨rfl, -⟩ := Prod.mk.inj done
    refine unaffected fun id record found loses => ?_
    obtain ⟨set, held, -⟩ := indexes.dependents valid found loses.kind loses.path
    rw [unindexed] at held
    cases held
  rename_i dependents held
  split at done
  · simp at done
  rename_i records built
  obtain ⟨each, listed⟩ := mem_invalidatedRecords built
  have inDependents : ∀ (id : RouteId) record, state.routes[id]? = some record →
      state.LosesPath path generation authorization record → id ∈ dependents.toList := by
    intro id record found loses
    obtain ⟨set, same, member⟩ := indexes.dependents valid found loses.kind loses.path
    obtain rfl := Option.some.inj (held.symm.trans same)
    exact Std.ExtTreeSet.mem_toList.mpr member
  have written : ∀ (id : RouteId) record, state.routes[id]? = some record →
      state.LosesPath path generation authorization record →
      ∃ updated ∈ records, updated.id = id ∧ Invalidation config state generation authorization record updated := by
    intro id record found loses
    have own := indexed.routes _ _ found
    obtain ⟨one, builtOne, contained⟩ := each id (inDependents id record found loses)
    obtain ⟨updated, rfl⟩ := Option.ne_none_iff_exists'.mp (invalidateOne_some found own loses builtOne)
    obtain ⟨same, other, invalidation⟩ := invalidateOne_eq_ok indexed builtOne
    have otherId : other.id = id := by
      rw [← invalidation.invalidated.2.1, same]
    have otherFound := invalidation.found
    rw [otherId, found] at otherFound
    obtain rfl := Option.some.inj otherFound
    exact ⟨updated, contained updated rfl, same, invalidation⟩
  split at done
  · rename_i nothing
    obtain ⟨rfl, -⟩ := Prod.mk.inj done
    refine unaffected fun id record found loses => ?_
    obtain ⟨updated, member, -⟩ := written id record found loses
    rw [nothing] at member
    cases member
  obtain ⟨sublist, invalidations⟩ := invalidatedRecords_eq_ok indexed built
  have unique : (records.map (·.id)).Nodup := sublist.nodup (nodup_toList dependents)
  rcases acknowledge_cases config io state { upserts := records } with
    ⟨files, -, applied⟩ | ⟨files, failure, -, failed⟩
  · rw [applied] at done
    obtain ⟨rfl, -⟩ := Prod.mk.inj done
    refine ⟨?_, ?_, ?_, ?_⟩
    · intro id record found loses
      obtain ⟨updated, member, rfl, invalidation⟩ := written id record found loses
      refine ⟨updated, ?_, invalidation.invalidated.1, invalidation.invalidated.2.2⟩
      rw [applyEdit_routes]
      exact lookup_foldl_insert_of_mem unique member
    · intro id record found keeps
      rw [applyEdit_routes, lookup_foldl_insert_of_ne]
      · exact found
      · rintro updated member rfl
        obtain ⟨dependent, inList, builtOne⟩ := listed updated member
        obtain ⟨same, other, invalidation⟩ := invalidateOne_eq_ok indexed builtOne
        have otherFound := invalidation.found
        rw [← invalidation.invalidated.2.1, found] at otherFound
        obtain rfl := Option.some.inj otherFound
        obtain ⟨other, otherFound, indexedPath⟩ := (indexes.paths.lists path dependent).mp
          ⟨dependents, held, Std.ExtTreeSet.mem_toList.mp inList⟩
        rw [← same, found] at otherFound
        obtain rfl := Option.some.inj otherFound
        obtain ⟨kind, bound⟩ := indexedPath_eq_some.mp indexedPath
        exact keeps ⟨kind, bound.2, invalidation.unrevoked, assertsInstallability_iff.mp invalidation.asserts,
          invalidation.changed⟩
    · intro id missing
      rw [applyEdit_routes, lookup_foldl_insert_of_ne]
      · exact missing
      · rintro updated member rfl
        obtain ⟨record, invalidation⟩ := invalidations updated member
        have found := invalidation.found
        rw [← invalidation.invalidated.2.1, missing] at found
        cases found
    · exact applyEdit_revocations _
  · rw [failed] at done
    simp at done

theorem invalidatePath_moved (indexed : Indexed state) (indexes : IndexesExact state) (env : Env) :
    Indexed (state.invalidatePath config io path generation authorization).1 ∧
      IndexesExact (state.invalidatePath config io path generation authorization).1 := by
  have moves : Moves config { env with io := fun _ => io } state (.invalidate path generation authorization) state
      (state.invalidatePath config io path generation authorization).1 :=
    invalidatePath_moves indexed path generation authorization
  refine moves_invariant (motive := fun current => Indexed current ∧ IndexesExact current) moves ?_
    ⟨indexed, indexes⟩
  intro before after held move
  exact ⟨indexed.move held.1 move, @IndexesExact.move config state ⟨{ env with io := fun _ => io },
    .invalidate path generation authorization⟩ before after indexes held.1 held.2 move⟩

/-! ## Every path -/

/-- An unrevoked route that claims to be installed, or about to be, over a path. -/
structure ClaimsPath (state : Impl) (id : RouteId) (record : RouteRecord) : Prop where
  found : state.routes[id]? = some record
  unrevoked : state.revocations[id]? = none
  kind : record.binding.kind = .authorizedPath
  claims : record.lifecycle = .installed ∨ record.lifecycle = .installing ∨ record.lifecycle = .ready

/-- The path authority reports the path of a binding usable at the generation bound. -/
def UsableAt (env : Env) (binding : RouteBinding) : Prop :=
  (env.query binding.path).state = .usable ∧ (env.query binding.path).generation = binding.pathAuthorityGeneration

/-- No claim over one of the given paths is unfounded. -/
def Cleared (env : Env) (covered : PathId → Prop) (state : Impl) : Prop :=
  ∀ id record, state.ClaimsPath id record → covered record.binding.path → UsableAt env record.binding

/-- Every record over a path is bound to one of the given ones. -/
def BoundWithin (covered : PathId → Prop) (state : Impl) : Prop :=
  ∀ (id : RouteId) record, state.routes[id]? = some record → record.binding.kind = .authorizedPath →
    covered record.binding.path

/-- A record after an invalidation is that of before, or one that was invalidated. -/
theorem Invalidates.cases
    (invalidates : Invalidates path generation authorization state after)
    (found : after.routes[id]? = some record) :
    (state.routes[id]? = some record ∧ ¬ state.LosesPath path generation authorization record) ∨
      ∃ earlier, state.routes[id]? = some earlier ∧ earlier.Invalidated record ∧ record.binding = earlier.binding := by
  cases held : state.routes[id]? with
  | none =>
      rw [invalidates.absent id held] at found
      cases found
  | some earlier =>
      by_cases loses : state.LosesPath path generation authorization earlier
      · obtain ⟨updated, changed, invalidated, binding⟩ := invalidates.loses id earlier held loses
        obtain rfl := Option.some.inj (found.symm.trans changed)
        exact .inr ⟨earlier, rfl, invalidated, binding⟩
      · obtain rfl := Option.some.inj (found.symm.trans (invalidates.keeps id earlier held loses))
        exact .inl ⟨rfl, loses⟩

theorem Invalidates.bound {covered : PathId → Prop}
    (invalidates : Invalidates path generation authorization state after) (within : BoundWithin covered state) :
    BoundWithin covered after := by
  intro id record found kind
  rcases invalidates.cases found with ⟨held, -⟩ | ⟨earlier, held, -, binding⟩
  · exact within id record held kind
  · rw [binding] at kind ⊢
    exact within id earlier held kind

theorem Invalidates.cleared (indexed : Indexed state) {covered : PathId → Prop}
    (invalidates : Invalidates path (env.query path).generation (env.query path).state state after)
    (cleared : Cleared env covered state) : Cleared env (fun other => other = path ∨ covered other) after := by
  intro id record claim bound
  rcases invalidates.cases claim.found with ⟨held, keeps⟩ | ⟨earlier, -, invalidated, -⟩
  · have unrevoked := claim.unrevoked
    rw [invalidates.revocations] at unrevoked
    rcases bound with rfl | earlier
    · by_contra unusable
      refine keeps ⟨claim.kind, rfl, indexed.routes id record held ▸ unrevoked, ?_, fun usable =>
        unusable ⟨usable.1, usable.2⟩⟩
      rcases claim.claims with installed | installing | ready
      · exact .inl installed
      · exact .inr (.inl installing)
      · exact .inr (.inr (.inl ready))
    · exact cleared id record ⟨held, unrevoked, claim.kind, claim.claims⟩ earlier
  · have claims := claim.claims
    simp [invalidated.lifecycle] at claims

theorem revalidatePaths_cleared {paths : List PathId} {index : Nat} {covered all : PathId → Prop}
    (indexed : Indexed state) (indexes : IndexesExact state) (valid : ∀ path ∈ paths, path.isValid = true)
    (cleared : Cleared env covered state) (within : BoundWithin all state)
    (done : revalidatePaths config env index paths state = (after, .ok ())) :
    Cleared env (fun path => path ∈ paths ∨ covered path) after ∧ BoundWithin all after := by
  induction paths generalizing state index covered with
  | nil =>
      obtain ⟨rfl, -⟩ := Prod.mk.inj done
      exact ⟨fun id record claim bound => cleared id record claim (by simpa using bound), within⟩
  | cons path rest ih =>
      unfold revalidatePaths at done
      split at done
      · simp at done
      rename_i next one
      obtain ⟨nextIndexed, nextIndexes⟩ := @invalidatePath_moved config state path (env.query path).generation
        (env.query path).state (env.io index) indexed indexes env
      rw [one] at nextIndexed nextIndexes
      have invalidates := invalidatePath_invalidates indexed indexes (valid path List.mem_cons_self) one
      obtain ⟨clearedAll, bound⟩ := ih nextIndexed nextIndexes
        (fun other member => valid other (List.mem_cons_of_mem _ member)) (invalidates.cleared indexed cleared)
        (invalidates.bound within) done
      refine ⟨fun id record claim covers => clearedAll id record claim ?_, bound⟩
      rcases covers with listed | earlier
      · rcases List.mem_cons.mp listed with same | inRest
        · exact .inr (.inl same)
        · exact .inl inRest
      · exact .inr (.inr earlier)

/-- An indexed path is valid. -/
theorem IndexesExact.validPath (indexes : IndexesExact state) (listed : path ∈ state.pathIndex.keys) :
    path.isValid = true := by
  obtain ⟨set, held⟩ := (mem_iff_lookup _ _).mp (Std.ExtTreeMap.mem_keys.mp listed)
  obtain ⟨id, member⟩ : ∃ id, id ∈ set := by
    by_contra none
    refine indexes.paths.inhabited path set held (Std.ExtTreeSet.ext_mem fun id => ?_)
    constructor
    · exact fun member => absurd ⟨id, member⟩ none
    · exact fun member => absurd member Std.ExtTreeSet.not_mem_empty
  obtain ⟨record, -, indexedPath⟩ := (indexes.paths.lists path id).mp ⟨set, held, member⟩
  obtain ⟨-, valid, rfl⟩ := indexedPath_eq_some.mp indexedPath
  exact valid

/-! ## Exactness -/

/-- The routes that changed are exactly those that lose their path, and each of them waits
for a revalidation. -/
structure ExactlyInvalidates (path : PathId) (generation : PathAuthorityGeneration)
    (authorization : PathAuthorization) (before after : Impl) : Prop where
  changed : ∀ (id : RouteId) record, before.routes[id]? = some record →
    (after.routes[id]? ≠ some record ↔ before.LosesPath path generation authorization record)
  invalidated : ∀ (id : RouteId) record, before.routes[id]? = some record →
    before.LosesPath path generation authorization record →
    ∃ updated, after.routes[id]? = some updated ∧ record.Invalidated updated
  absent : ∀ id : RouteId, before.routes[id]? = none → after.routes[id]? = none

theorem Invalidates.exactly (invalidates : Invalidates path generation authorization state after) :
    ExactlyInvalidates path generation authorization state after where
  changed id record found := by
    constructor
    · intro different
      by_contra keeps
      exact different (invalidates.keeps id record found keeps)
    · intro loses same
      obtain ⟨updated, changed, invalidated, -⟩ := invalidates.loses id record found loses
      obtain rfl := Option.some.inj (same.symm.trans changed)
      have advanced := invalidated.generation
      omega
  invalidated id record found loses := by
    obtain ⟨updated, changed, invalidated, -⟩ := invalidates.loses id record found loses
    exact ⟨updated, changed, invalidated⟩
  absent := invalidates.absent

/-- In every reachable state, a change of a path's authority that succeeds invalidates
exactly the routes that lose their path, and once every path was asked about, no route
claims to be installed, or about to be, over a path that is not usable as bound. -/
theorem path_invalidation_exact (calls : List Call) :
    (∀ (env : Env) path generation authorization after,
      (run (step config) (initial seed) calls).onPathAuthorityChanged config env path generation authorization =
          (after, .ok ()) →
        ExactlyInvalidates path generation authorization (run (step config) (initial seed) calls) after) ∧
      ∀ (env : Env) after,
        (run (step config) (initial seed) calls).revalidatePathAuthorities config env = (after, .ok ()) →
        ∀ id record, after.ClaimsPath id record → UsableAt env record.binding := by
  have indexed : Indexed (run (step config) (initial seed) calls) := run_indexed calls
  have indexes : IndexesExact (run (step config) (initial seed) calls) := run_indexesExact calls
  have bindings : BindingsValid (run (step config) (initial seed) calls) := run_bindingsValid calls
  generalize run (step config) (initial seed) calls = state at indexed indexes bindings
  constructor
  · intro env path generation authorization after done
    unfold onPathAuthorityChanged at done
    split at done
    · simp at done
    · rename_i checked
      simp only [bind_eq_ok, exists_unit, ensure_eq_ok] at checked
      exact (invalidatePath_invalidates indexed indexes checked.1 done).exactly
  · intro env after done id record claim
    unfold revalidatePathAuthorities at done
    split at done
    · simp at done
    have within : BoundWithin (· ∈ state.pathIndex.keys) state := by
      intro id record found kind
      have valid := bindings id record found
      simp only [RouteBinding.isValid, kind, Bool.and_eq_true] at valid
      obtain ⟨set, held, -⟩ := indexes.dependents valid.1 found kind rfl
      exact Std.ExtTreeMap.mem_keys.mpr ((mem_iff_lookup _ _).mpr ⟨set, held⟩)
    obtain ⟨cleared, bound⟩ := @revalidatePaths_cleared config env state after state.pathIndex.keys 0
      (fun _ => False) _ indexed indexes (fun path listed => indexes.validPath listed)
      (fun _ _ _ bound => absurd bound not_false) within done
    exact cleared id record claim (.inl (bound id record claim.found claim.kind))

end Impl

namespace Scenario

/-- The path authority no longer reports any path usable. -/
def distrusting : Env := { env with query := fun _ => ⟨.one, .rejected⟩ }

end Scenario

namespace Impl

/-- The path of the published route is rejected: the route is invalidated, and asking the
path authority about every path leaves no claim. -/
theorem path_invalidation_published :
    (∃ after, (run (step Scenario.config) (initial 0) Scenario.published).onPathAuthorityChanged Scenario.config
        Scenario.env ⟨7⟩ .one .rejected = (after, .ok ()) ∧
      ExactlyInvalidates ⟨7⟩ .one .rejected (run (step Scenario.config) (initial 0) Scenario.published) after) ∧
    ∃ after, (run (step Scenario.config) (initial 0) Scenario.published).revalidatePathAuthorities Scenario.config
        Scenario.distrusting = (after, .ok ()) ∧
      ∀ id record, after.ClaimsPath id record → UsableAt Scenario.distrusting record.binding := by
  obtain ⟨exactly, cleared⟩ := @path_invalidation_exact Scenario.config 0 Scenario.published
  have changed : ((run (step Scenario.config) (initial 0) Scenario.published).onPathAuthorityChanged Scenario.config
      Scenario.env ⟨7⟩ .one .rejected).2 = .ok () := by decide +kernel
  have asked : ((run (step Scenario.config) (initial 0) Scenario.published).revalidatePathAuthorities
      Scenario.config Scenario.distrusting).2 = .ok () := by decide +kernel
  exact ⟨⟨_, Prod.ext rfl changed, exactly _ _ _ _ _ (Prod.ext rfl changed)⟩,
    _, Prod.ext rfl asked, cleared _ _ (Prod.ext rfl asked)⟩

end Impl

end RouteFabric
