import RouteFabric.Runtime.Updates

/-!
# What a restart does

A restart takes the loaded state over, rebuilds the indexes and resolves every attempt
that was outstanding. `Restarted` says what state it leads to; `Recovered` says what
recovery changed and what it wrote.
-/

namespace RouteFabric

open OrderedMap

namespace Impl

variable {config : RuntimeConfig} {backend : BackendId} {env : Env} {seed : Word} {files : StoreFiles}
  {state : Impl}

/-! ## Taking the loaded state over -/

theorem populate_contents (loaded : PersistedState) :
    ((fresh seed files).populate loaded).contents = loaded.contents :=
  foldl_project contents indexInsert (fun _ _ => rfl) _

@[simp] theorem populate_epoch (loaded : PersistedState) :
    ((fresh seed files).populate loaded).epoch = loaded.epoch :=
  congrArg Contents.epoch (populate_contents loaded)

@[simp] theorem populate_policyGeneration (loaded : PersistedState) :
    ((fresh seed files).populate loaded).policyGeneration = loaded.policyGeneration :=
  congrArg Contents.policyGeneration (populate_contents loaded)

@[simp] theorem populate_routes (loaded : PersistedState) :
    ((fresh seed files).populate loaded).routes = index (·.id) loaded.routes :=
  congrArg Contents.routes (populate_contents loaded)

@[simp] theorem populate_revocations (loaded : PersistedState) :
    ((fresh seed files).populate loaded).revocations = index (·.route) loaded.revocations :=
  congrArg Contents.revocations (populate_contents loaded)

@[simp] theorem populate_attempts (loaded : PersistedState) :
    ((fresh seed files).populate loaded).attempts = index (·.attempt) loaded.attempts :=
  congrArg Contents.attempts (populate_contents loaded)

theorem populate_frame (loaded : PersistedState) :
    Frame { fresh seed files with epoch := loaded.epoch, policyGeneration := loaded.policyGeneration }
      ((fresh seed files).populate loaded) := by
  refine Frame.trans ?_ (foldl_frame indexInsert
    (fun _ _ => ⟨rfl, rfl, rfl, rfl, rfl, rfl, rfl⟩) _)
  exact ⟨rfl, rfl, rfl, rfl, rfl, rfl, rfl⟩

theorem populate_files (loaded : PersistedState) :
    ((fresh seed files).populate loaded).files = files :=
  foldl_project Impl.files indexInsert (fun _ _ => rfl) _

/-- The key index that insertions build names live records among those inserted. -/
theorem keyIndex_inserts {records : List RouteRecord} {key : RouteKey} {id : RouteId}
    (named : (records.foldl indexInsert state).keyIndex[key]? = some id) :
    (∃ record ∈ records, record.lifecycle ≠ .superseded ∧ record.key = key ∧ record.id = id) ∨
      state.keyIndex[key]? = some id := by
  induction records generalizing state with
  | nil => exact .inr named
  | cons record rest ih =>
      rcases ih named with ⟨other, member, found⟩ | inserted
      · exact .inl ⟨other, List.mem_cons_of_mem _ member, found⟩
      · by_cases lost : record.lifecycle = .superseded
        · simp only [indexInsert, lost, if_true] at inserted
          exact .inr inserted
        · simp only [indexInsert, lost, if_false, lookup_insert] at inserted
          split at inserted
          · rename_i sameKey
            exact .inl ⟨record, List.mem_cons_self, lost, sameKey, Option.some.inj inserted⟩
          · exact .inr inserted

/-- Every live record inserted leaves its key named. -/
theorem keyIndex_named {records : List RouteRecord} {key : RouteKey}
    (live : (∃ record ∈ records, record.lifecycle ≠ .superseded ∧ record.key = key) ∨
      state.keyIndex[key]? ≠ none) : (records.foldl indexInsert state).keyIndex[key]? ≠ none := by
  induction records generalizing state with
  | nil =>
      rcases live with ⟨record, member, -⟩ | named
      · cases member
      · exact named
  | cons record rest ih =>
      apply ih
      have kept : state.keyIndex[key]? ≠ none → (state.indexInsert record).keyIndex[key]? ≠ none := by
        intro named
        by_cases lost : record.lifecycle = .superseded
        · simpa only [indexInsert, lost, if_true] using named
        · simp only [indexInsert, lost, if_false, lookup_insert]
          split
          · simp
          · exact named
      rcases live with ⟨other, member, unsuperseded, sameKey⟩ | named
      · rcases List.mem_cons.mp member with rfl | inRest
        · right
          simp [indexInsert, unsuperseded, sameKey]
        · exact .inl ⟨other, inRest, unsuperseded, sameKey⟩
      · exact .inr (kept named)

theorem populate_keyIndex {loaded : PersistedState} {key : RouteKey} {id : RouteId}
    (named : ((fresh seed files).populate loaded).keyIndex[key]? = some id) :
    ∃ record ∈ values loaded.contents.routes, record.lifecycle ≠ .superseded ∧ record.key = key ∧
      record.id = id := by
  rcases keyIndex_inserts named with found | initially
  · exact found
  · simp [fresh] at initially

theorem populate_indexed {loaded : PersistedState} (valid : ∀ record ∈ loaded.routes, record.id.isValid = true) :
    Indexed ((fresh seed files).populate loaded) := by
  constructor
  · intro id record found
    rw [populate_routes] at found
    exact (lookup_index_some found).2
  · intro id record found
    rw [populate_routes] at found
    obtain ⟨member, rfl⟩ := lookup_index_some found
    exact valid record member
  · intro id revocation found
    rw [populate_revocations] at found
    exact (lookup_index_some found).2
  · intro id attempt found
    rw [populate_attempts] at found
    exact (lookup_index_some found).2
  · intro key id named
    obtain ⟨record, member, live, sameKey, rfl⟩ := populate_keyIndex named
    obtain ⟨other, present⟩ := (mem_values _ record).mp member
    have own := (lookup_index_some present).2
    rw [populate_routes, own]
    exact ⟨record, present, sameKey, live⟩

/-! ## Recovery -/

/-- Recovery goes through the attempts one by one: a resolved one is skipped, an
outstanding one is resolved, and its route is reclaimed when it still waits for it. -/
theorem recover_induction (config : RuntimeConfig) (backend : BackendId)
    {motive : List ProgrammingAttemptRecord → Impl → Edit → Prop} (start : motive [] state {})
    (skips : ∀ done current edit attempt, motive done current edit → attempt.resolved = true →
      motive (done ++ [attempt]) current edit)
    (resolves : ∀ done current edit attempt, attempt ∈ values state.attempts → attempt.resolved = false →
      (∀ record, current.routes[attempt.route]? = some record → awaits record attempt = false) →
      motive done current edit →
      motive (done ++ [attempt]) (current.resolveAttempt { attempt with resolved := true })
        { edit with attempts := edit.attempts ++ [{ attempt with resolved := true }] })
    (reclaims : ∀ done current edit attempt record, attempt ∈ values state.attempts →
      attempt.resolved = false → current.routes[attempt.route]? = some record →
      awaits record attempt = true → motive done current edit →
      motive (done ++ [attempt])
        ((current.commit (record.recovered config.historyLimit backend attempt)).resolveAttempt
          { attempt with resolved := true })
        { edit with
          upserts := edit.upserts ++ [record.recovered config.historyLimit backend attempt]
          attempts := edit.attempts ++ [{ attempt with resolved := true }] }) :
    motive (values state.attempts) (state.recover config backend).1 (state.recover config backend).2 := by
  have folds : ∀ attempts : List ProgrammingAttemptRecord,
      (∀ attempt ∈ attempts, attempt ∈ values state.attempts) →
      motive attempts (attempts.foldl (recoverAttempt config backend) (state, {})).1
        (attempts.foldl (recoverAttempt config backend) (state, {})).2 := by
    intro attempts
    induction attempts using List.reverseRecOn with
    | nil => exact fun _ => start
    | append_singleton done attempt ih =>
        intro members
        have earlier := ih fun other inDone => members other (List.mem_append_left _ inDone)
        have member := members attempt (List.mem_append_right _ List.mem_cons_self)
        rw [List.foldl_append, List.foldl_cons, List.foldl_nil]
        generalize done.foldl (recoverAttempt config backend) (state, {}) = progress at earlier ⊢
        unfold recoverAttempt
        split
        · exact skips done _ _ attempt earlier ‹_›
        rename_i outstanding
        rw [Bool.not_eq_true] at outstanding
        simp only
        split
        · rename_i record found
          split
          · exact reclaims done _ _ attempt record member outstanding found ‹_› earlier
          · rename_i settled
            refine resolves done _ _ attempt member outstanding (fun other held => ?_) earlier
            obtain rfl := Option.some.inj (found.symm.trans held)
            simpa using settled
        · rename_i missing
          refine resolves done _ _ attempt member outstanding (fun other held => ?_) earlier
          rw [missing] at held
          cases held
  exact folds _ fun _ member => member

/-- The same induction, with maps and identities in agreement at every step. -/
theorem recover_indexed_induction (config : RuntimeConfig) (backend : BackendId) (indexed : Indexed state)
    {motive : List ProgrammingAttemptRecord → Impl → Edit → Prop} (start : motive [] state {})
    (skips : ∀ done current edit attempt, motive done current edit → attempt.resolved = true →
      motive (done ++ [attempt]) current edit)
    (resolves : ∀ done current edit attempt, Indexed current → attempt ∈ values state.attempts →
      attempt.resolved = false →
      (∀ record, current.routes[attempt.route]? = some record → awaits record attempt = false) →
      motive done current edit →
      motive (done ++ [attempt]) (current.resolveAttempt { attempt with resolved := true })
        { edit with attempts := edit.attempts ++ [{ attempt with resolved := true }] })
    (reclaims : ∀ done current edit attempt record, Indexed current → attempt ∈ values state.attempts →
      attempt.resolved = false → current.routes[attempt.route]? = some record →
      awaits record attempt = true → motive done current edit →
      motive (done ++ [attempt])
        ((current.commit (record.recovered config.historyLimit backend attempt)).resolveAttempt
          { attempt with resolved := true })
        { edit with
          upserts := edit.upserts ++ [record.recovered config.historyLimit backend attempt]
          attempts := edit.attempts ++ [{ attempt with resolved := true }] }) :
    Indexed (state.recover config backend).1 ∧
      motive (values state.attempts) (state.recover config backend).1 (state.recover config backend).2 := by
  refine recover_induction config backend (motive := fun done current edit =>
    Indexed current ∧ motive done current edit) ⟨indexed, start⟩ ?_ ?_ ?_
  · exact fun done current edit attempt held resolved =>
      ⟨held.1, skips done current edit attempt held.2 resolved⟩
  · intro done current edit attempt member outstanding settled held
    exact ⟨held.1.applyEdit { attempts := [{ attempt with resolved := true }] } (by simp),
      resolves done current edit attempt held.1 member outstanding settled held.2⟩
  · intro done current edit attempt record member outstanding found awaited held
    have valid : (record.recovered config.historyLimit backend attempt).id.isValid = true :=
      held.1.routes _ _ found ▸ held.1.identified _ _ found
    exact ⟨(held.1.commit valid).applyEdit { attempts := [{ attempt with resolved := true }] } (by simp),
      reclaims done current edit attempt record held.1 member outstanding found awaited held.2⟩

/-- What recovery made of a state, and the batch it has to write. -/
structure Recovered (before after : Impl) (edit : Edit) : Prop where
  frame : Frame before after
  files : after.files = before.files
  revocations : after.revocations = before.revocations
  unrevoked : edit.revoked = []
  routes : after.routes = edit.upserts.foldl (fun map record => map.insert record.id record) before.routes
  attempts : after.attempts = edit.attempts.foldl (fun map item => map.insert item.attempt item) before.attempts
  evidence : ∀ (id : RouteId) record, after.routes[id]? = some record →
    ∃ earlier, before.routes[id]? = some earlier ∧ earlier.Evidence record
  present : ∀ id, id ∈ before.routes → id ∈ after.routes
  upserts : ∀ record ∈ edit.upserts, ∃ earlier, before.routes[record.id]? = some earlier ∧
    earlier.Evidence record
  resolves : ∀ attempt ∈ edit.attempts, ∃ known, before.attempts[attempt.attempt]? = some known ∧
    known.resolved = false ∧ attempt = { known with resolved := true }
  settled : ∀ (id : ProgrammingAttemptId) attempt, after.attempts[id]? = some attempt →
    attempt.resolved = true

@[simp] theorem resolveAttempt_routes (attempt : ProgrammingAttemptRecord) :
    (state.resolveAttempt attempt).routes = state.routes := rfl

theorem recover_frame : Frame state (state.recover config backend).1 := by
  refine recover_induction config backend
      (motive := fun _ current _ => Frame state current) (Frame.refl state) ?_ ?_ ?_
  · exact fun _ _ _ _ frame _ => frame
  · exact fun _ _ _ _ _ _ _ frame => frame.trans ⟨rfl, rfl, rfl, rfl, rfl, rfl, rfl⟩
  · intro _ current _ attempt record _ _ _ _ frame
    exact (frame.trans (commit_frame _)).trans ⟨rfl, rfl, rfl, rfl, rfl, rfl, rfl⟩

/-- The records after recovery are those before, with evidence taken in. -/
theorem recover_evidence (config : RuntimeConfig) (backend : BackendId) (indexed : Indexed state) :
    (∀ (id : RouteId) record, (state.recover config backend).1.routes[id]? = some record →
      ∃ earlier, state.routes[id]? = some earlier ∧ earlier.Evidence record) ∧
    (∀ id, id ∈ state.routes → id ∈ (state.recover config backend).1.routes) ∧
    ∀ record ∈ (state.recover config backend).2.upserts,
      ∃ earlier, state.routes[record.id]? = some earlier ∧ earlier.Evidence record := by
  refine recover_induction config backend
      (motive := fun _ current edit =>
      (∀ (id : RouteId) record, current.routes[id]? = some record →
        ∃ earlier, state.routes[id]? = some earlier ∧ earlier.Evidence record) ∧
      (∀ id, id ∈ state.routes → id ∈ current.routes) ∧
      ∀ record ∈ edit.upserts, ∃ earlier, state.routes[record.id]? = some earlier ∧
        earlier.Evidence record) ?_ ?_ ?_ ?_
  · exact ⟨fun id record found => ⟨record, found, .refl record⟩, fun _ present => present, by simp⟩
  · exact fun _ _ _ _ known _ => known
  · exact fun _ _ _ _ _ _ _ known => known
  · intro done current edit attempt record _ _ found awaits known
    obtain ⟨evidence, present, upserts⟩ := known
    have taken := RouteRecord.recovered_evidence awaits config.historyLimit backend
    obtain ⟨earlier, held, before⟩ := evidence attempt.route record found
    have same : (record.recovered config.historyLimit backend attempt).id = attempt.route := by
      rw [taken.id, before.id, indexed.routes _ _ held]
    refine ⟨?_, ?_, ?_⟩
    · intro id other lookup
      rw [resolveAttempt_routes, commit_routes, lookup_insert] at lookup
      split at lookup
      · rename_i sameId
        obtain rfl := Option.some.inj lookup
        exact ⟨earlier, by rw [← sameId, same]; exact held, before.trans taken⟩
      · exact evidence id other lookup
    · intro id member
      rw [resolveAttempt_routes, commit_routes, mem_iff_lookup]
      obtain ⟨value, lookup⟩ := (mem_iff_lookup _ _).mp (present id member)
      rw [lookup_insert]
      split
      · exact ⟨_, rfl⟩
      · exact ⟨value, lookup⟩
    · intro other member
      rcases List.mem_append.mp member with old | new
      · exact upserts other old
      · obtain rfl := List.mem_singleton.mp new
        exact ⟨earlier, by rw [same]; exact held, before.trans taken⟩

theorem recover_settled (indexed : Indexed state) (id : ProgrammingAttemptId)
    {attempt : ProgrammingAttemptRecord}
    (found : (state.recover config backend).1.attempts[id]? = some attempt) :
    attempt.resolved = true := by
  have settles : ∀ (id : ProgrammingAttemptId) attempt,
      (state.recover config backend).1.attempts[id]? = some attempt →
      attempt.resolved = true ∨ attempt ∉ values state.attempts ∧ state.attempts[id]? = some attempt := by
    have inserts : ∀ (done : List ProgrammingAttemptRecord)
        (attempts : Map ProgrammingAttemptId ProgrammingAttemptRecord) seen,
        (∀ (id : ProgrammingAttemptId) attempt, attempts[id]? = some attempt →
          attempt.resolved = true ∨ attempt ∉ done ∧ state.attempts[id]? = some attempt) →
        ∀ (id : ProgrammingAttemptId) attempt,
          (attempts.insert seen.attempt { seen with resolved := true })[id]? = some attempt →
          attempt.resolved = true ∨ attempt ∉ done ++ [seen] ∧ state.attempts[id]? = some attempt := by
      intro done attempts seen known id attempt inserted
      rw [lookup_insert] at inserted
      split at inserted
      · exact .inl (Option.some.inj inserted ▸ rfl)
      · rename_i other
        rcases known id attempt inserted with settled | ⟨unseen, held⟩
        · exact .inl settled
        · refine .inr ⟨?_, held⟩
          have different : attempt ≠ seen := by
            rintro rfl
            exact other (indexed.attempts id attempt held)
          simp [unseen, different]
    -- An attempt not seen yet is still the one of before.
    refine recover_induction config backend
      (motive := fun done current _ => ∀ (id : ProgrammingAttemptId) attempt,
        current.attempts[id]? = some attempt →
        attempt.resolved = true ∨ attempt ∉ done ∧ state.attempts[id]? = some attempt) ?_ ?_ ?_ ?_
    · exact fun id attempt found => .inr ⟨by simp, found⟩
    · intro done current edit seen known resolved id attempt found
      rcases known id attempt found with settled | ⟨unseen, held⟩
      · exact .inl settled
      · by_cases same : attempt = seen
        · exact .inl (same ▸ resolved)
        · exact .inr ⟨by simp [unseen, same], held⟩
    · intro done current edit seen member _ _ known
      exact inserts done current.attempts seen known
    · intro done current edit seen record member _ _ _ known
      rw [← @commit_attempts current (record.recovered config.historyLimit backend seen)] at known
      exact inserts done _ seen known
  rcases settles id attempt found with settled | ⟨unseen, held⟩
  · exact settled
  · exact absurd ((mem_values _ _).mpr ⟨id, held⟩) unseen

theorem recover_recovered (indexed : Indexed state) :
    Recovered state (state.recover config backend).1 (state.recover config backend).2 := by
  obtain ⟨evidence, present, upserts⟩ := recover_evidence config backend indexed
  have effects : (state.recover config backend).1.files = state.files ∧
      (state.recover config backend).1.revocations = state.revocations ∧
      (state.recover config backend).2.revoked = [] ∧
      (state.recover config backend).1.routes = (state.recover config backend).2.upserts.foldl
        (fun map record => map.insert record.id record) state.routes ∧
      (state.recover config backend).1.attempts = (state.recover config backend).2.attempts.foldl
        (fun map item => map.insert item.attempt item) state.attempts ∧
      ∀ attempt ∈ (state.recover config backend).2.attempts,
        ∃ known, state.attempts[attempt.attempt]? = some known ∧ known.resolved = false ∧
          attempt = { known with resolved := true } := by
    have resolving : ∀ {resolved : List ProgrammingAttemptRecord} {attempt : ProgrammingAttemptRecord},
        attempt ∈ values state.attempts → attempt.resolved = false →
        (∀ earlier ∈ resolved, ∃ known, state.attempts[earlier.attempt]? = some known ∧
          known.resolved = false ∧ earlier = { known with resolved := true }) →
        ∀ later ∈ resolved ++ [{ attempt with resolved := true }],
          ∃ known, state.attempts[later.attempt]? = some known ∧ known.resolved = false ∧
            later = { known with resolved := true } := by
      intro resolved attempt member outstanding known later inLater
      rcases List.mem_append.mp inLater with old | new
      · exact known later old
      · obtain rfl := List.mem_singleton.mp new
        obtain ⟨id, held⟩ := (mem_values _ _).mp member
        exact ⟨attempt, indexed.attempts id attempt held ▸ held, outstanding, rfl⟩
    refine recover_induction config backend
      (motive := fun _ current edit => current.files = state.files ∧
        current.revocations = state.revocations ∧ edit.revoked = [] ∧
        current.routes = edit.upserts.foldl (fun map record => map.insert record.id record) state.routes ∧
        current.attempts = edit.attempts.foldl (fun map item => map.insert item.attempt item)
          state.attempts ∧
        ∀ attempt ∈ edit.attempts, ∃ known, state.attempts[attempt.attempt]? = some known ∧
          known.resolved = false ∧ attempt = { known with resolved := true }) ?_ ?_ ?_ ?_
    · exact ⟨rfl, rfl, rfl, rfl, rfl, nofun⟩
    · exact fun _ _ _ _ known _ => known
    · rintro _ current edit attempt member outstanding -
        ⟨files, revocations, unrevoked, routes, attempts, resolved⟩
      refine ⟨files, revocations, unrevoked, routes, ?_, resolving member outstanding resolved⟩
      rw [List.foldl_append, ← attempts]
      rfl
    · rintro _ current edit attempt record member outstanding - -
        ⟨files, revocations, unrevoked, routes, attempts, resolved⟩
      refine ⟨(commit_files _).trans files, (commit_revocations _).trans revocations, unrevoked, ?_, ?_,
        resolving member outstanding resolved⟩
      · rw [resolveAttempt_routes, commit_routes, List.foldl_append, ← routes]
        rfl
      · rw [List.foldl_append, ← attempts, ← @commit_attempts current (record.recovered config.historyLimit backend attempt)]
        rfl
  obtain ⟨files, revocations, unrevoked, routes, attempts, resolves⟩ := effects
  exact ⟨recover_frame, files, revocations, unrevoked, routes, attempts, evidence, present, upserts, resolves,
    fun id _ found => recover_settled indexed id found⟩

end Impl

end RouteFabric
