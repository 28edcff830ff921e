import RouteFabric.Safety.Attempts
import RouteFabric.Safety.Validity

/-!
# The lifecycle table

Whenever a record is committed over another one, its lifecycle follows the table: either
it is the one of before and no history entry was appended, or the event of the entry
appended leads to it. A takeover is the exception. It assigns the superseded state itself,
where the table keeps a retired lineage retired.
-/

namespace RouteFabric

open OrderedMap Run

namespace RouteRecord

variable {record : RouteRecord}

/-- The lifecycle of a record committed over another one follows the table. -/
def Follows (before after : RouteRecord) : Prop :=
  after.lifecycle = before.lifecycle ∧ after.history = before.history ∨
    ∃ entry ∈ after.history.getLast?, nextLifecycle before.lifecycle entry.event = some after.lifecycle

instance (before after : RouteRecord) : Decidable (before.Follows after) :=
  inferInstanceAs (Decidable (after.lifecycle = before.lifecycle ∧ after.history = before.history ∨
    ∃ entry ∈ after.history.getLast?, nextLifecycle before.lifecycle entry.event = some after.lifecycle))

theorem Follows.refl (record : RouteRecord) : record.Follows record := .inl ⟨rfl, rfl⟩

/-- The entry appended is the last one, as long as one entry is kept. -/
theorem getLast?_pushHistory {historyLimit : Nat} (keeps : 1 ≤ historyLimit) (event : RouteEvent)
    (prior : RouteGeneration) :
    (record.pushHistory historyLimit event prior).history.getLast? =
      some (record.lineageEntry event prior) := by
  simp only [pushHistory, List.getLast?_drop, List.length_append, List.length_singleton]
  rw [if_neg (by omega)]
  simp

/-- A record whose last step was recorded with the event that led to it. -/
theorem follows_pushHistory {before : RouteRecord} {historyLimit : Nat} (keeps : 1 ≤ historyLimit)
    {event : RouteEvent} {prior : RouteGeneration}
    (allowed : nextLifecycle before.lifecycle event = some record.lifecycle) :
    before.Follows (record.pushHistory historyLimit event prior) :=
  .inr ⟨_, getLast?_pushHistory keeps event prior, allowed⟩

end RouteRecord

namespace Impl

variable {config : RuntimeConfig} {env : Env} {seed : Word} {origin state : Impl} {edit : Edit}

/-- Whether a call takes no retired lineage over. -/
def keepsLineages (config : RuntimeConfig) (state : Impl) (call : Call) : Bool :=
  match call.action with
  | .publish request => !state.takesOver config request
  | _ => true

theorem checkConfig_keepsHistory (checked : checkConfig config = .ok ()) : 1 ≤ config.historyLimit := by
  simp only [checkConfig, bind_eq_ok, exists_unit, ensure_eq_ok] at checked
  exact checked.2.2.1

/-- Every edit but a takeover follows the table. -/
theorem Legal.follows {call : Call} (indexed : Indexed origin) (keeps : 1 ≤ config.historyLimit)
    (unused : origin.createsUnused config call = true)
    (lineages : origin.keepsLineages config call = true)
    (legal : Legal config env origin call.action state edit) (updated : RouteRecord)
    (member : updated ∈ edit.upserts) (record : RouteRecord)
    (found : state.routes[updated.id]? = some record) : record.Follows updated := by
  generalize taken : call.action = action at legal
  have same : ∀ {earlier : RouteRecord} {id : RouteId}, state.routes[id]? = some earlier →
      Indexed state → updated.id = earlier.id → earlier = record := by
    intro earlier id held stateIndexed sameId
    rw [sameId, stateIndexed.routes id earlier held] at found
    exact Option.some.inj (held.symm.trans found)
  cases legal with
  | takeover takeover =>
      rename_i request record updated
      have refused : origin.takesOver config request = false := by
        simpa [keepsLineages, taken] using lineages
      rw [takeover.takesOver] at refused
      cases refused
  | create created =>
      obtain rfl := List.mem_singleton.mp member
      obtain ⟨-, absent⟩ := created.unused unused taken
      exact absurd ((mem_iff_lookup _ _).mpr ⟨record, found⟩) absent
  | replace replaced =>
      obtain rfl := List.mem_singleton.mp member
      obtain ⟨-, held, -⟩ := indexed.lookupKey replaced.found
      obtain rfl := same held indexed replaced.reissued.id
      obtain ⟨generation, authorityGeneration, programmingGeneration, -, -, made⟩ := replaced.made
      rw [made]
      exact RouteRecord.follows_pushHistory keeps replaced.allowed
  | withdraw withdrawn =>
      obtain rfl := List.mem_singleton.mp member
      obtain rfl := same (withdrawTarget_eq_ok withdrawn.target).1.found indexed withdrawn.reissued.id
      obtain ⟨generation, authorityGeneration, programmingGeneration, -, -, made⟩ := withdrawn.made
      rw [made]
      exact RouteRecord.follows_pushHistory keeps withdrawn.allowed
  | revalidate revalidated =>
      obtain rfl := List.mem_singleton.mp member
      obtain rfl := same (revalidateTarget_eq_ok revalidated.target).1.found indexed
        revalidated.reissued.id
      obtain ⟨generation, authorityGeneration, programmingGeneration, -, -, made⟩ := revalidated.made
      rw [made]
      exact RouteRecord.follows_pushHistory keeps revalidated.allowed
  | retire retired =>
      obtain rfl := List.mem_singleton.mp member
      obtain rfl := same (retireTarget_eq_ok retired.target).2.found indexed retired.closing.reissued.id
      obtain ⟨generation, authorityGeneration, -, made⟩ := retired.closing.made
      rw [made]
      exact RouteRecord.follows_pushHistory keeps retired.closing.allowed
  | revoke revoked =>
      obtain rfl := List.mem_singleton.mp member
      obtain rfl := same (revokeTarget_eq_ok revoked.target).1 indexed revoked.closing.reissued.id
      obtain ⟨generation, authorityGeneration, -, made⟩ := revoked.closing.made
      rw [made]
      exact RouteRecord.follows_pushHistory keeps revoked.closing.allowed
  | invalidate unique invalidated =>
      obtain ⟨earlier, change⟩ := invalidated updated member
      obtain rfl := same change.found indexed change.reissued.id
      obtain ⟨next, nextAuthority, -, made⟩ := change.made
      rw [made]
      refine RouteRecord.follows_pushHistory keeps ?_
      have asserts := change.asserts
      change nextLifecycle earlier.lifecycle .requireRevalidation = some .revalidationRequired
      revert asserts
      cases earlier.lifecycle <;> decide
  | resolve awaited => cases member
  | complete completed =>
      obtain rfl := List.mem_singleton.mp member
      obtain rfl := same completed.awaited.found indexed completed.evidence.id
      obtain ⟨lifecycle, allowed, made⟩ := completed.made
      rw [made]
      exact RouteRecord.follows_pushHistory keeps allowed
  | observe observed =>
      obtain rfl := List.mem_singleton.mp member
      have evidence := observed.made ▸ RouteRecord.observed_evidence _ env.backend.id _
      obtain rfl := same observed.found indexed evidence.id
      rw [observed.made]
      exact .inl ⟨rfl, rfl⟩

/-! ## Recovery -/

/-- The event that recovery raises leads on from the state of a route that waits. -/
theorem recovered_allowed {record : RouteRecord} {attempt : ProgrammingAttemptRecord}
    (awaited : awaits record attempt = true) (agrees : attempt.Agrees record) :
    nextLifecycle record.lifecycle (RouteRecord.recoveryEvent attempt.operation) =
      some .revalidationRequired := by
  simp only [awaits, Bool.and_eq_true, decide_eq_true_eq] at awaited
  have operation := agrees.operation (by rw [awaited.2]) awaited.1
  have waiting := awaited.1
  simp only [RouteLifecycle.hasOutstandingProgramming, decide_eq_true_eq] at waiting
  unfold RouteRecord.recoveryEvent
  rcases waiting with installing | withdrawing
  · rw [if_neg (fun withdraws => by simpa [installing] using operation.mpr withdraws), installing]
    decide
  · rw [if_pos (operation.mp withdrawing), withdrawing]
    decide

/-- Recovery follows the table when every attempt is of the kind that its route waits for. -/
theorem recovery_follows {files after : StoreFiles} {loaded : PersistedState}
    (loads : Loads config env files after loaded) (keeps : 1 ≤ config.historyLimit)
    (accounted : loaded.contents.Accounted) (id : RouteId) (record recovered : RouteRecord)
    (found : loaded.contents.routes[id]? = some record)
    (recoveredFound : (recovery config env seed after loaded).1.routes[id]? = some recovered) :
    record.Follows recovered := by
  have known : ∃ final, (recovery config env seed after loaded).1.routes[id]? = some final ∧
      (final = record ∨ record.Follows final ∧ final.lifecycle = .revalidationRequired) := by
    refine (recover_indexed_induction config env.backend.id loads.indexed (motive := fun _ current _ =>
      ∃ final, current.routes[id]? = some final ∧
        (final = record ∨ record.Follows final ∧ final.lifecycle = .revalidationRequired)) ?_ ?_ ?_ ?_).2
    · exact ⟨record, by rw [populate_routes]; exact found, .inl rfl⟩
    · exact fun _ _ _ _ known _ => known
    · exact fun _ _ _ _ _ _ _ _ known => known
    · rintro _ current edit attempt waiting indexed member - waitingFound awaited ⟨final, held, known⟩
      obtain ⟨-, -, lifecycle⟩ :=
        RouteRecord.recovered_lifecycle awaited config.historyLimit env.backend.id
      rw [resolveAttempt_routes, commit_routes, lookup_insert]
      split
      · rename_i own
        have route : attempt.route = id := (indexed.routes _ _ waitingFound).symm.trans own
        rw [route] at waitingFound
        obtain rfl := Option.some.inj (held.symm.trans waitingFound)
        -- A route is reclaimed once: afterwards it no longer waits.
        rcases known with rfl | ⟨-, reclaimed⟩
        · refine ⟨_, rfl, .inr ⟨?_, lifecycle⟩⟩
          obtain ⟨key, attemptFound⟩ := (mem_values _ _).mp member
          rw [populate_attempts] at attemptFound
          obtain ⟨other, otherFound, agrees⟩ := accounted.agrees key attempt attemptFound
          rw [route] at otherFound
          obtain rfl := Option.some.inj (found.symm.trans otherFound)
          have allowed := recovered_allowed awaited agrees
          refine RouteRecord.follows_pushHistory keeps (allowed.trans ?_)
          simp only [allowed, Option.getD_some]
        · simp [awaits, reclaimed, RouteLifecycle.hasOutstandingProgramming] at awaited
      · exact ⟨final, held, known⟩
  obtain ⟨final, held, same | ⟨follows, -⟩⟩ := known
  · rw [held] at recoveredFound
    rw [← Option.some.inj recoveredFound, same]
    exact .refl record
  · rw [held] at recoveredFound
    rw [← Option.some.inj recoveredFound]
    exact follows

/-! ## Runs -/

/-- A step that takes no lineage over and creates no route under an identity in use, on a
store that keeps in step. -/
structure FollowsTable (config : RuntimeConfig) (state : Impl) (call : Call) : Prop where
  lineages : state.keepsLineages config call = true
  unused : state.createsUnused config call = true
  store : config.durability ≠ .none → KeepsStore config state call

/-- Every record that a step commits over another one follows the table. What recovery
commits is compared with what it loaded. -/
def CommitsFollow (config : RuntimeConfig) (state : Impl) (call : Call) : Prop :=
  match call.action with
  | .restart seed => ∀ files loaded, checkConfig config = .ok () →
      Loads config call.env state.files files loaded → ∀ (id : RouteId) before after,
        loaded.contents.routes[id]? = some before →
        (recovery config call.env seed files loaded).1.routes[id]? = some after → before.Follows after
  | _ => ∀ (id : RouteId) before after, state.routes[id]? = some before →
      (state.step config call).routes[id]? = some after → before.Follows after

theorem step_follows {call : Call} (indexed : Indexed state) (follows : FollowsTable config state call)
    (checked : state.opened = true → checkConfig config = .ok ())
    (continues : ∀ seed, call.action ≠ .restart seed) (id : RouteId) (before after : RouteRecord)
    (found : state.routes[id]? = some before)
    (afterFound : (state.step config call).routes[id]? = some after) : before.Follows after := by
  by_cases opened : state.opened = true
  · have keeps := checkConfig_keepsHistory (checked opened)
    obtain ⟨final, finalFound, finalFollows⟩ := step_records RouteRecord.Follows indexed
      follows.unused continues RouteRecord.Follows.refl (fun edit legal updated member record found =>
        legal.follows indexed keeps follows.unused follows.lineages updated member record found)
      id before found
    rw [finalFound] at afterFound
    exact Option.some.inj afterFound ▸ finalFollows
  · have closed : Administered state (state.step config call) :=
      step_closed (Bool.eq_false_iff.mpr opened) continues
    rw [closed.routes, found] at afterFound
    exact Option.some.inj afterFound ▸ .refl before

/-- In every run that meets the condition, every step follows the lifecycle table. -/
theorem run_commitsFollow {calls : List Call} {call : Call}
    (along : Along (step config) (FollowsTable config) (initial seed) (calls ++ [call])) :
    CommitsFollow config (run (step config) (initial seed) calls) call := by
  obtain ⟨earlier, follows, -⟩ := along_append.mp along
  have checked : (run (step config) (initial seed) calls).opened = true → checkConfig config = .ok () :=
    run_checked calls
  obtain ⟨indexed, accounted, stored⟩ := run_stored Contents.Accounted
    (motive := fun state => state.contents.Accounted) earlier
    (fun state call follows => follows.store) (fun state held => held)
    (initial_accounted seed) (fun state fenced barred files held => held)
    (fun state call indexed follows held takes before after heldIndexed heldBefore move =>
      accounted_move indexed follows.unused held heldBefore move)
    (fun state call restartSeed files loaded stored fenced barred follows held action checked loads accounted =>
      recovery_accounted loads accounted)
  generalize run (step config) (initial seed) calls = state at *
  unfold CommitsFollow
  split
  · rename_i restartSeed action
    intro files loaded checked loads id before after found recovered
    have loadedAccounted : loaded.contents.Accounted := by
      by_cases durable : config.durability = .none
      · cases loads with
        | nothing memory => exact initial_accounted 0
        | stored durable' read => exact absurd durable durable'
      · exact (stored.loads (follows.store durable).small durable loads).1
    exact recovery_follows loads (checkConfig_keepsHistory checked) loadedAccounted id before after found
      recovered
  · rename_i continues
    exact step_follows indexed follows checked continues

/-- A path is invalidated and its route revalidated. -/
theorem run_commitsFollow_revalidated :
    CommitsFollow Scenario.config (run (step Scenario.config) (initial 0) (Scenario.opening ++
        [⟨Scenario.env, .publish (Scenario.publication 1)⟩, ⟨Scenario.env, .invalidate ⟨7⟩ .one .stale⟩]))
      ⟨Scenario.env, .revalidate (Scenario.mutation 1)⟩ := by
  have along : Along (step Scenario.config) (fun state call =>
      state.keepsLineages Scenario.config call = true ∧ state.createsUnused Scenario.config call = true)
      (initial 0) ((Scenario.opening ++ [⟨Scenario.env, .publish (Scenario.publication 1)⟩,
        ⟨Scenario.env, .invalidate ⟨7⟩ .one .stale⟩]) ++
        [⟨Scenario.env, .revalidate (Scenario.mutation 1)⟩]) := by decide +kernel
  exact run_commitsFollow (along.mono fun state call keeps =>
    ⟨keeps.1, keeps.2, fun durable => absurd rfl durable⟩)

/-- A takeover turns a retired lineage into a superseded one, which the table does not. -/
theorem takeover_leaves_table :
    ¬ CommitsFollow Scenario.config (run (step Scenario.config) (initial 0) (Scenario.opening ++
        [⟨Scenario.env, .publish (Scenario.publication 1)⟩,
          ⟨Scenario.env, .retire (Scenario.mutation 1)⟩]))
      ⟨Scenario.env, .publish (Scenario.publication 2)⟩ := by
  intro follows
  have step := follows ⟨1⟩
    ((run (step Scenario.config) (initial 0) (Scenario.opening ++
      [⟨Scenario.env, .publish (Scenario.publication 1)⟩,
        ⟨Scenario.env, .retire (Scenario.mutation 1)⟩])).routes[(⟨1⟩ : RouteId)]?.getD {})
    ((run (step Scenario.config) (initial 0) (Scenario.opening ++
      [⟨Scenario.env, .publish (Scenario.publication 1)⟩, ⟨Scenario.env, .retire (Scenario.mutation 1)⟩,
        ⟨Scenario.env, .publish (Scenario.publication 2)⟩])).routes[(⟨1⟩ : RouteId)]?.getD {})
  revert step
  decide +kernel

end Impl

end RouteFabric
