import RouteFabric.Safety.Storage

/-!
# Programming attempts and their routes

Every attempt on record belongs to a route on record, is for a generation and a
programming generation not later than those of the route, and no two attempts of one
route share a programming generation. While a route waits for an outcome, an attempt of
its current programming generation is of the kind that it waits for.
-/

namespace RouteFabric

open OrderedMap Run

/-- An attempt agrees with the record of its route. -/
structure ProgrammingAttemptRecord.Agrees (attempt : ProgrammingAttemptRecord) (record : RouteRecord) :
    Prop where
  programmed : attempt.programmingGeneration.value ≤ record.programmingGeneration.value
  desired : attempt.desiredGeneration.value ≤ record.generation.value
  operation : attempt.programmingGeneration.value = record.programmingGeneration.value →
    record.lifecycle.hasOutstandingProgramming = true →
    (record.lifecycle = .withdrawing ↔ attempt.operation = .withdraw)

/-- The same attempt, perhaps resolved since. -/
def ProgrammingAttemptRecord.Continues (attempt known : ProgrammingAttemptRecord) : Prop :=
  attempt = known ∨ known.resolved = false ∧ attempt = { known with resolved := true }

namespace ProgrammingAttemptRecord.Continues

variable {attempt known : ProgrammingAttemptRecord}

theorem route (continues : attempt.Continues known) : attempt.route = known.route := by
  rcases continues with rfl | ⟨-, rfl⟩ <;> rfl

theorem programmingGeneration (continues : attempt.Continues known) :
    attempt.programmingGeneration = known.programmingGeneration := by
  rcases continues with rfl | ⟨-, rfl⟩ <;> rfl

theorem agrees (continues : attempt.Continues known) {record : RouteRecord} (agrees : known.Agrees record) :
    attempt.Agrees record := by
  rcases continues with rfl | ⟨-, rfl⟩
  · exact agrees
  · exact ⟨agrees.programmed, agrees.desired, agrees.operation⟩

end ProgrammingAttemptRecord.Continues

/-- Every attempt agrees with its route, and no two attempts of a route are for the same
programming generation. -/
structure Contents.Accounted (contents : Contents) : Prop where
  agrees : ∀ (id : ProgrammingAttemptId) attempt, contents.attempts[id]? = some attempt →
    ∃ record, contents.routes[attempt.route]? = some record ∧ attempt.Agrees record
  distinct : ∀ (id other : ProgrammingAttemptId) attempt sibling,
    contents.attempts[id]? = some attempt → contents.attempts[other]? = some sibling →
    attempt.route = sibling.route →
    attempt.programmingGeneration.value = sibling.programmingGeneration.value → id = other

namespace Impl

variable {config : RuntimeConfig} {env : Env} {seed : Word} {origin state : Impl} {action : Action}
  {edit : Edit}

/-! ## What an edit does to attempts -/

/-- An attempt recorded with the record that waits for it. -/
structure Opens (state : Impl) (updated : RouteRecord) (attempt : ProgrammingAttemptRecord) : Prop where
  waits : attempt = updated.attemptFor attempt.attempt attempt.operation state.epoch
  lifecycle : updated.lifecycle = if attempt.operation = .withdraw then .withdrawing else .installing
  later : ∀ record, state.routes[updated.id]? = some record →
    record.programmingGeneration.value < updated.programmingGeneration.value

/-- An edit opens the attempt of its record or resolves one that is outstanding. -/
theorem Legal.settles {call : Call} (indexed : Indexed origin)
    (unused : origin.createsUnused config call = true)
    (legal : Legal config env origin call.action state edit) {attempt : ProgrammingAttemptRecord}
    (member : attempt ∈ edit.attempts) :
    (∃ updated, edit.upserts = [updated] ∧ state.Opens updated attempt) ∨
      ∃ known, state.attempts[attempt.attempt]? = some known ∧ known.resolved = false ∧
        attempt = { known with resolved := true } := by
  generalize taken : call.action = action at legal
  have advances : ∀ {record updated : RouteRecord}, state.routes[updated.id]? = some record →
      record.Programmed updated.programmingGeneration →
      ∀ other, state.routes[updated.id]? = some other →
        other.programmingGeneration.value < updated.programmingGeneration.value := by
    intro record updated found programmed other same
    obtain rfl := Option.some.inj (found.symm.trans same)
    have next := programmed.next
    omega
  cases legal with
  | takeover | retire | revoke | invalidate | observe => cases member
  | create created =>
      obtain rfl := List.mem_singleton.mp member
      obtain ⟨-, absent⟩ := created.unused unused taken
      obtain ⟨programmingGeneration, -, made⟩ := created.made
      have operation : attempt.operation = .install := by rw [created.dispatched.waits]; rfl
      refine .inl ⟨_, rfl, by rw [operation]; exact created.dispatched.waits, ?_, ?_⟩
      · rw [operation, made]
        rfl
      · intro record found
        exact absurd ((mem_iff_lookup _ _).mpr ⟨record, found⟩) absent
  | replace replaced =>
      obtain rfl := List.mem_singleton.mp member
      obtain ⟨-, found, -⟩ := indexed.lookupKey replaced.found
      rw [← replaced.reissued.id] at found
      obtain ⟨generation, authorityGeneration, programmingGeneration, -, programmed, made⟩ := replaced.made
      have operation : attempt.operation = .replace := by rw [replaced.dispatched.waits]; rfl
      refine .inl ⟨_, rfl, by rw [operation]; exact replaced.dispatched.waits, ?_,
        advances found (by rw [made]; exact programmed)⟩
      rw [operation, made]
      rfl
  | withdraw withdrawn =>
      obtain rfl := List.mem_singleton.mp member
      have found := (withdrawTarget_eq_ok withdrawn.target).1.found
      rw [← indexed.routes _ _ found, ← withdrawn.reissued.id] at found
      obtain ⟨generation, authorityGeneration, programmingGeneration, -, programmed, made⟩ := withdrawn.made
      have operation : attempt.operation = .withdraw := by rw [withdrawn.dispatched.waits]; rfl
      refine .inl ⟨_, rfl, by rw [operation]; exact withdrawn.dispatched.waits, ?_,
        advances found (by rw [made]; exact programmed)⟩
      rw [operation, made]
      rfl
  | revalidate revalidated =>
      rename_i request record updated dispatched
      obtain rfl := List.mem_singleton.mp member
      have found := (revalidateTarget_eq_ok revalidated.target).1.found
      rw [← indexed.routes _ _ found, ← revalidated.reissued.id] at found
      obtain ⟨generation, authorityGeneration, programmingGeneration, -, programmed, made⟩ :=
        revalidated.made
      have operation : attempt.operation = if record.applied.reportsApplied then .replace else .install := by
        rw [revalidated.dispatched.waits]
        rfl
      refine .inl ⟨_, rfl, by rw [operation]; exact revalidated.dispatched.waits, ?_,
        advances found (by rw [made]; exact programmed)⟩
      rw [operation, made]
      split <;> rfl
  | resolve awaited =>
      obtain rfl := List.mem_singleton.mp member
      have known := awaited.known
      rw [← indexed.attempts _ _ known] at known
      exact .inr ⟨_, known, awaited.pending, rfl⟩
  | complete completed =>
      obtain rfl := List.mem_singleton.mp member
      have known := completed.awaited.known
      rw [← indexed.attempts _ _ known] at known
      exact .inr ⟨_, known, completed.awaited.pending, rfl⟩

/-- A record that keeps its programming generation waits for an outcome only if it did. -/
theorem Legal.outstanding {call : Call} (indexed : Indexed origin)
    (unused : origin.createsUnused config call = true)
    (legal : Legal config env origin call.action state edit) {record updated : RouteRecord}
    (member : updated ∈ edit.upserts) (found : state.routes[updated.id]? = some record) :
    record.generation.value ≤ updated.generation.value ∧
      (record.programmingGeneration.value < updated.programmingGeneration.value ∨
        updated.programmingGeneration = record.programmingGeneration ∧
        (updated.lifecycle.hasOutstandingProgramming = true → updated.lifecycle = record.lifecycle)) := by
  rcases legal.updates indexed member with ⟨request, attempt, publishes, created⟩ |
    ⟨earlier, rfl, held, ⟨-, reissued⟩ | ⟨-, evidence⟩⟩
  · obtain ⟨-, absent⟩ := created.unused unused publishes
    exact absurd ((mem_iff_lookup _ _).mpr ⟨record, found⟩) absent
  · obtain rfl := Option.some.inj (held.symm.trans found)
    have next := reissued.advanced.next
    refine ⟨by omega, ?_⟩
    rcases reissued.programmed with ⟨same, settled⟩ | programmed
    · exact .inr ⟨same, fun waiting => absurd settled (by simp [waiting])⟩
    · have later := programmed.next
      exact .inl (by omega)
  · obtain rfl := Option.some.inj (held.symm.trans found)
    exact ⟨by rw [evidence.generation], .inr ⟨evidence.programmingGeneration, evidence.waits⟩⟩

/-! ## Preservation -/

/-- An attempt of before agrees with the record that an edit installs for its route. -/
theorem Legal.agrees {call : Call} (indexed : Indexed origin)
    (unused : origin.createsUnused config call = true)
    (legal : Legal config env origin call.action state edit) {record updated : RouteRecord}
    (member : updated ∈ edit.upserts) (found : state.routes[updated.id]? = some record)
    {attempt : ProgrammingAttemptRecord} (agrees : attempt.Agrees record) : attempt.Agrees updated := by
  obtain ⟨generation, programming⟩ := legal.outstanding indexed unused member found
  have programmed := agrees.programmed
  refine ⟨?_, agrees.desired.trans generation, ?_⟩
  · rcases programming with later | ⟨same, -⟩
    · omega
    · rw [same]
      exact programmed
  · intro current waiting
    rcases programming with later | ⟨same, lifecycle⟩
    · omega
    · have unchanged := lifecycle waiting
      rw [same] at current
      rw [unchanged] at waiting ⊢
      exact agrees.operation current waiting

theorem Opens.agrees {updated : RouteRecord} {attempt : ProgrammingAttemptRecord}
    (opens : state.Opens updated attempt) : attempt.route = updated.id ∧ attempt.Agrees updated := by
  have route : attempt.route = updated.id := by rw [opens.waits]; rfl
  have programmed : attempt.programmingGeneration = updated.programmingGeneration := by
    rw [opens.waits]
    rfl
  have desired : attempt.desiredGeneration = updated.generation := by rw [opens.waits]; rfl
  refine ⟨route, by rw [programmed], by rw [desired], fun _ _ => ?_⟩
  rw [opens.lifecycle]
  split
  · simp [*]
  · simp [*]

theorem Legal.single (legal : Legal config env origin action state edit)
    {attempt sibling : ProgrammingAttemptRecord} (member : attempt ∈ edit.attempts)
    (other : sibling ∈ edit.attempts) : attempt = sibling := by
  cases legal with
  | takeover | retire | revoke | invalidate | observe => cases member
  | _ => rw [List.mem_singleton.mp member, List.mem_singleton.mp other]

/-- An attempt found after an edit was there before, perhaps unresolved, or was opened by
the edit. -/
theorem Legal.attempts_cases {call : Call} (indexed : Indexed origin)
    (unused : origin.createsUnused config call = true)
    (legal : Legal config env origin call.action state edit) {id : ProgrammingAttemptId}
    {attempt : ProgrammingAttemptRecord} (found : (state.applyEdit edit).attempts[id]? = some attempt) :
    (∃ known, state.attempts[id]? = some known ∧ attempt.Continues known) ∨
      attempt ∈ edit.attempts ∧ attempt.attempt = id ∧ ∃ updated, edit.upserts = [updated] ∧ state.Opens updated attempt := by
  rw [applyEdit_attempts] at found
  rcases lookup_foldl_insert_some found with ⟨member, rfl⟩ | ⟨-, kept⟩
  · rcases legal.settles indexed unused member with opened | ⟨known, held, pending, resolved⟩
    · exact .inr ⟨member, rfl, opened⟩
    · exact .inl ⟨known, held, .inr ⟨pending, resolved⟩⟩
  · exact .inl ⟨attempt, kept, .inl rfl⟩

theorem Legal.accounted {call : Call} (indexed : Indexed origin)
    (unused : origin.createsUnused config call = true)
    (legal : Legal config env origin call.action state edit) (accounted : state.contents.Accounted) :
    (state.applyEdit edit).contents.Accounted := by
  -- An attempt of before still agrees with the record of its route.
  have kept : ∀ (id : ProgrammingAttemptId) known, state.attempts[id]? = some known →
      ∃ record, (state.applyEdit edit).routes[known.route]? = some record ∧ known.Agrees record := by
    intro id known held
    obtain ⟨record, found, agrees⟩ := accounted.agrees id known held
    obtain ⟨after, installed, rfl | ⟨member, same⟩⟩ := lookup_applyEdit_of_held state edit found
    · exact ⟨after, installed, agrees⟩
    · have found : state.routes[known.route]? = some record := found
      rw [← same] at found
      exact ⟨after, installed, legal.agrees indexed unused member found agrees⟩
  -- An opened attempt is for a later programming generation than all of its route before.
  have later : ∀ (id : ProgrammingAttemptId) known updated attempt, state.attempts[id]? = some known →
      state.Opens updated attempt → known.route = attempt.route →
      known.programmingGeneration.value < attempt.programmingGeneration.value := by
    intro id known updated attempt held opens sameRoute
    obtain ⟨record, found, agrees⟩ := accounted.agrees id known held
    have bound := agrees.programmed
    have found : state.routes[known.route]? = some record := found
    rw [sameRoute, opens.agrees.1] at found
    have next := opens.later record found
    have same : attempt.programmingGeneration = updated.programmingGeneration := by
      rw [opens.waits]
      rfl
    rw [same]
    omega
  constructor
  · intro id attempt found
    rcases legal.attempts_cases indexed unused found with
      ⟨known, held, continues⟩ | ⟨-, -, updated, only, opens⟩
    · obtain ⟨record, installed, agrees⟩ := kept id known held
      exact ⟨record, continues.route ▸ installed, continues.agrees agrees⟩
    · refine ⟨updated, ?_, opens.agrees.2⟩
      rw [opens.agrees.1]
      change (state.applyEdit edit).routes[updated.id]? = some updated
      rw [applyEdit_routes, only]
      exact lookup_insert_self _ _ _
  · intro id other attempt sibling found otherFound sameRoute sameGeneration
    rcases legal.attempts_cases indexed unused found with
        ⟨known, held, continues⟩ | ⟨member, own, updated, only, opens⟩ <;>
      rcases legal.attempts_cases indexed unused otherFound with
        ⟨otherKnown, otherHeld, otherContinues⟩ | ⟨otherMember, otherOwn, otherUpdated, -, otherOpens⟩
    · refine accounted.distinct id other known otherKnown held otherHeld ?_ ?_
      · rw [← continues.route, ← otherContinues.route, sameRoute]
      · rw [← continues.programmingGeneration, ← otherContinues.programmingGeneration, sameGeneration]
    · have bound := later id known otherUpdated sibling held otherOpens
        (continues.route.symm.trans sameRoute)
      rw [← continues.programmingGeneration] at bound
      omega
    · have bound := later other otherKnown updated attempt otherHeld opens
        (otherContinues.route.symm.trans sameRoute.symm)
      rw [← otherContinues.programmingGeneration] at bound
      omega
    · rw [← own, ← otherOwn, legal.single member otherMember]

/-! ## Recovery -/

/-- Recovery forgets no attempt and opens none. -/
theorem recovery_continues {files after : StoreFiles} {loaded : PersistedState}
    (loads : Loads config env files after loaded) {id : ProgrammingAttemptId}
    {attempt : ProgrammingAttemptRecord}
    (found : (recovery config env seed after loaded).1.attempts[id]? = some attempt) :
    ∃ known, loaded.contents.attempts[id]? = some known ∧ attempt.Continues known := by
  have recovered : Recovered _ _ _ := loads.recovered seed
  rw [recovered.attempts, populate_attempts] at found
  rcases lookup_foldl_insert_some found with ⟨member, rfl⟩ | ⟨-, kept⟩
  · obtain ⟨known, held, pending, resolved⟩ := recovered.resolves attempt member
    rw [populate_attempts] at held
    exact ⟨known, held, .inr ⟨pending, resolved⟩⟩
  · exact ⟨attempt, kept, .inl rfl⟩

/-- A loaded record is there after recovery, with new evidence at most. -/
theorem recovery_record {files after : StoreFiles} {loaded : PersistedState}
    (loads : Loads config env files after loaded) (seed : Word) {id : RouteId} {record : RouteRecord}
    (found : loaded.contents.routes[id]? = some record) :
    ∃ settled, (recovery config env seed after loaded).1.routes[id]? = some settled ∧
      record.Evidence settled := by
  have recovered : Recovered _ _ _ := loads.recovered seed
  have member : id ∈ ((fresh seed after).populate loaded).routes := by
    rw [populate_routes]
    exact (mem_iff_lookup _ _).mpr ⟨record, found⟩
  obtain ⟨settled, recoveredFound⟩ := (mem_iff_lookup _ _).mp (recovered.present _ member)
  obtain ⟨earlier, earlierFound, evidence⟩ := recovered.evidence _ _ recoveredFound
  rw [populate_routes] at earlierFound
  obtain rfl := Option.some.inj (earlierFound.symm.trans found)
  exact ⟨settled, recoveredFound, evidence⟩

/-- Recovery keeps the accounts: it resolves attempts and settles the routes that wait. -/
theorem recovery_accounted {files after : StoreFiles} {loaded : PersistedState}
    (loads : Loads config env files after loaded) (accounted : loaded.contents.Accounted) :
    (recovery config env seed after loaded).1.contents.Accounted := by
  constructor
  · intro id attempt found
    obtain ⟨known, held, continues⟩ := recovery_continues loads found
    obtain ⟨record, present, agrees⟩ := accounted.agrees id known held
    obtain ⟨settled, recoveredFound, evidence⟩ := recovery_record loads seed present
    refine ⟨settled, continues.route ▸ recoveredFound, continues.agrees ⟨?_, ?_, ?_⟩⟩
    · rw [evidence.programmingGeneration]
      exact agrees.programmed
    · rw [evidence.generation]
      exact agrees.desired
    · intro current waiting
      have same := evidence.waits waiting
      rw [evidence.programmingGeneration] at current
      rw [same] at waiting ⊢
      exact agrees.operation current waiting
  · intro id other attempt sibling found otherFound sameRoute sameGeneration
    obtain ⟨known, held, continues⟩ := recovery_continues loads found
    obtain ⟨otherKnown, otherHeld, otherContinues⟩ := recovery_continues loads otherFound
    refine accounted.distinct id other known otherKnown held otherHeld ?_ ?_
    · rw [← continues.route, ← otherContinues.route, sameRoute]
    · rw [← continues.programmingGeneration, ← otherContinues.programmingGeneration, sameGeneration]

/-! ## Runs -/

theorem accounted_congr {contents : Contents} (accounted : contents.Accounted) {after : Contents}
    (routes : after.routes = contents.routes) (attempts : after.attempts = contents.attempts) :
    after.Accounted := by
  constructor
  · rw [routes, attempts]
    exact accounted.agrees
  · rw [attempts]
    exact accounted.distinct

theorem accounted_move {before after : Impl} {call : Call} (indexed : Indexed origin)
    (unused : origin.createsUnused config call = true) (accounted : origin.contents.Accounted)
    (held : before.contents.Accounted) (move : Move config call.env origin call.action before after) :
    after.contents.Accounted := by
  cases move with
  | draw ids => exact held
  | mutate unbroken ids index legal =>
      rename_i edit
      rcases acknowledge_cases config (call.env.io index) { before with ids := ids } edit with
        ⟨files, -, applied⟩ | ⟨files, failure, -, failed⟩
      · have same : (applyEdit { before with ids := ids, files := files } edit).contents =
            (before.applyEdit edit).contents := applyEdit_contents_congr (by rfl) edit
        rw [applied, same]
        exact legal.accounted indexed unused held
      · rw [failed]
        exact held
  | administer administers =>
      have administered : Administered origin (origin.perform config call.env call.action) :=
        perform_administered administers
      rw [administered.contents]
      exact accounted
  | save compacts => exact accounted
  | advance advances following saved => exact accounted_congr accounted rfl rfl

theorem initial_accounted (seed : Word) : (initial seed).contents.Accounted := by
  constructor <;> intros <;> simp_all [initial, fresh, contents]

end Impl

end RouteFabric
