import RouteFabric.Runtime.Runs

/-!
# The store mirrors memory

`Mirrors` relates the files of a state to its maps: the files hold a snapshot and journal
entries whose replay gives what memory holds. Every acknowledged edit, every snapshot and
every restart keeps the two in step, as long as replay takes in every record journaled
(`Admitted`) and the file system is clean. What of this can be loaded again is another
matter: here entries need not be storable.
-/

namespace RouteFabric

open OrderedMap Run

namespace Impl

variable {config : RuntimeConfig} {env : Env} {seed : Word} {origin state : Impl} {action : Action}
  {edit : Edit}

/-! ## The header of an image -/

/-- The counters that every image starts with are set. -/
structure Dated (state : Impl) : Prop where
  epoch : 1 ≤ state.epoch.value
  policyGeneration : 1 ≤ state.policyGeneration.value

theorem Dated.congr {after : Impl} (dated : Dated state) (epoch : after.epoch = state.epoch)
    (policy : after.policyGeneration = state.policyGeneration) : Dated after :=
  ⟨epoch ▸ dated.epoch, policy ▸ dated.policyGeneration⟩

theorem Dated.advance {next : CoordinatorEpoch} (dated : Dated state)
    (following : state.epoch.next = .ok next) : Dated { state with epoch := next } :=
  ⟨(CounterId.next_eq_ok following).2.1, dated.policyGeneration⟩

theorem Dated.move {before after : Impl} (dated : Dated origin) (held : Dated before)
    (move : Move config env origin action before after) : Dated after := by
  cases move with
  | draw ids => exact held.congr rfl rfl
  | mutate unbroken ids index legal =>
      rename_i edit
      have frame : Frame { before with ids := ids } _ := acknowledge_frame config (env.io index) edit
      exact held.congr frame.epoch frame.policyGeneration
  | administer administers =>
      have administered : Administered origin (origin.perform config env action) :=
        perform_administered administers
      have contents := administered.contents
      exact dated.congr (congrArg Contents.epoch contents) (congrArg Contents.policyGeneration contents)
  | save compacts => exact dated.congr rfl rfl
  | advance advances following saved => exact (dated.advance following).congr rfl rfl

theorem Loads.dated {files after : StoreFiles} {loaded : PersistedState}
    (loads : Loads config env files after loaded) :
    Dated (recovery config env seed after loaded).1 := by
  have recovered : Recovered _ _ _ := loads.recovered seed
  constructor
  · rw [recovered.frame.epoch, populate_epoch]
    exact loads.sound.epoch.1
  · rw [recovered.frame.policyGeneration, populate_policyGeneration]
    exact loads.sound.policyGeneration.1

theorem Dated.restart {after : Impl} (dated : Dated state)
    (restarts : Restarts config env seed state after) : Dated after := by
  cases restarts with
  | refused => exact dated.congr rfl rfl
  | unsaved loads failed => exact dated.congr rfl rfl
  | opened checked loads saved => exact loads.dated.congr rfl rfl

theorem initial_dated (seed : Word) : Dated (initial seed) := ⟨Nat.le_refl 1, Nat.le_refl 1⟩

/-! ## Images -/

theorem journalEntry_formed (dated : Dated state) : (state.journalEntry edit).Formed :=
  ⟨dated.epoch, dated.policyGeneration⟩

theorem collectState_formed (dated : Dated state) : state.collectState.Formed :=
  ⟨dated.epoch, dated.policyGeneration⟩

theorem mergedState_formed (dated : Dated state) : (state.mergedState edit).Formed :=
  ⟨dated.epoch, dated.policyGeneration⟩

/-- The collected lists stand for the maps. -/
theorem collectState_contents (indexed : Indexed state) :
    state.collectState.Unique ∧ state.collectState.contents = state.contents := by
  refine ⟨⟨nodup_map_values indexed.routes, nodup_map_values indexed.revocations,
    nodup_map_values indexed.attempts⟩, ?_⟩
  simp only [PersistedState.contents, collectState, contents, index_values indexed.routes,
    index_values indexed.revocations, index_values indexed.attempts]

/-- The merged lists stand for the maps after the edit. -/
theorem mergedState_contents (indexed : Indexed state) (edit : Edit) :
    (state.mergedState edit).Unique ∧
      (state.mergedState edit).contents = (state.applyEdit edit).contents := by
  obtain ⟨unique, same⟩ := collectState_contents indexed
  have routes := index_foldl
    (fun routes (record : RouteRecord) =>
      upsert (fun candidate => decide (candidate.id = record.id)) (fun _ => true) record routes)
    (fun map record => map.insert record.id record) (fun _ nodup => nodup_map_upsert nodup)
    (fun item nodup => index_upsert_replacing nodup item) edit.upserts unique.routes
  have revocations := index_foldl upsertRevocation (fun map item => map.insert item.route item)
    (fun _ nodup => nodup_map_upsert nodup)
    (fun item nodup => index_upsert_replacing nodup item) edit.revoked unique.revocations
  have attempts := index_foldl upsertAttempt (fun map item => map.insert item.attempt item)
    (fun _ nodup => nodup_map_upsert nodup)
    (fun item nodup => index_upsert_replacing nodup item) edit.attempts unique.attempts
  refine ⟨⟨routes.1, revocations.1, attempts.1⟩, ?_⟩
  have sameRoutes := congrArg Contents.routes same
  have sameRevocations := congrArg Contents.revocations same
  have sameAttempts := congrArg Contents.attempts same
  simp only [PersistedState.contents, contents] at sameRoutes sameRevocations sameAttempts
  simp only [PersistedState.contents, mergedState, contents, routes.2, revocations.2, attempts.2,
    sameRoutes, sameRevocations, sameAttempts, applyEdit_routes, applyEdit_revocations,
    applyEdit_attempts, (applyEdit_frame edit).epoch, (applyEdit_frame edit).policyGeneration]
  rfl

theorem laterCounter_self {tag : CounterTag} (counter : CounterId tag) :
    laterCounter counter counter = counter := by
  simp [laterCounter]

/-- Replaying the entry of an edit does what the edit does. -/
theorem contents_apply (admitted : Admitted state.routes edit.upserts) :
    state.contents.apply (state.journalEntry edit) = (state.applyEdit edit).contents := by
  simp only [Contents.apply, contents, journalEntry, laterCounter_self, admitted.foldl_insertRoute,
    applyEdit_routes, applyEdit_revocations, applyEdit_attempts, (applyEdit_frame edit).epoch,
    (applyEdit_frame edit).policyGeneration]

/-! ## What replay takes in -/

/-- Whether a publication creates a route under an identity that names no record. -/
def createsUnused (config : RuntimeConfig) (state : Impl) (call : Call) : Bool :=
  match call.action with
  | .publish request =>
      !(state.reachesCreation config request && state.routes.contains (createdId request))
  | _ => true

theorem Creation.unused {request : PublishRequest} {updated : RouteRecord}
    {attempt : ProgrammingAttemptRecord} {call : Call} (unused : origin.createsUnused config call = true)
    (publishes : call.action = .publish request)
    (created : Creation config env origin state request updated attempt) :
    updated.id = createdId request ∧ updated.id ∉ state.routes := by
  obtain ⟨programmingGeneration, -, made⟩ := created.made
  have same : updated.id = createdId request := by rw [made]; rfl
  refine ⟨same, ?_⟩
  have absent : origin.routes.contains (createdId request) = false := by
    simpa [createsUnused, publishes, created.reaches] using unused
  rw [same, created.present, ← Std.ExtTreeMap.contains_iff_mem, absent]
  exact Bool.false_ne_true

/-- An edit never installs an older record over a newer one, unless it creates a route
under an identity in use. -/
theorem Legal.admitted {call : Call} (indexed : Indexed origin)
    (unused : origin.createsUnused config call = true)
    (legal : Legal config env origin call.action state edit) : Admitted state.routes edit.upserts where
  held := by
    intro updated member existing found
    rcases legal.updates indexed member with ⟨request, attempt, publishes, created⟩ |
      ⟨record, rfl, held, ⟨-, reissued⟩ | ⟨-, evidence⟩⟩
    · obtain ⟨-, absent⟩ := created.unused unused publishes
      exact absurd ((mem_iff_lookup _ _).mpr ⟨existing, found⟩) absent
    · obtain rfl := Option.some.inj (held.symm.trans found)
      have next := reissued.advanced.next
      omega
    · obtain rfl := Option.some.inj (held.symm.trans found)
      rw [evidence.generation]
  ordered := by
    have unique := legal.unique
    rw [List.Nodup, List.pairwise_map] at unique
    exact unique.imp fun different same => absurd same different

/-- A relation between records that every edit respects relates the records before and
after a step. -/
theorem step_records {call : Call} (related : RouteRecord → RouteRecord → Prop) (indexed : Indexed state)
    (unused : state.createsUnused config call = true) (continues : ∀ seed, call.action ≠ .restart seed)
    (reflexive : ∀ record, related record record)
    (edits : ∀ edit, Legal config call.env state call.action state edit → ∀ updated ∈ edit.upserts,
      ∀ record, state.routes[updated.id]? = some record → related record updated)
    (id : RouteId) (record : RouteRecord) (found : state.routes[id]? = some record) :
    ∃ after, (state.step config call).routes[id]? = some after ∧ related record after := by
  refine step_preserves (motive := fun current => ∃ after, current.routes[id]? = some after ∧
    related record after) indexed ⟨record, found, reflexive record⟩ ?_ ?_
  · rintro opened before after live heldIndexed ⟨current, currentFound, currentRelated⟩ move
    cases move with
    | draw ids => exact ⟨current, currentFound, currentRelated⟩
    | mutate unbroken ids index legal =>
        rename_i edit
        rcases acknowledge_cases config (call.env.io index) { before with ids := ids } edit with
          ⟨files, -, applied⟩ | ⟨files, failure, -, failed⟩
        · rw [applied]
          obtain ⟨final, finalFound, rfl | ⟨member, rfl⟩⟩ :=
            lookup_applyEdit_of_held { before with ids := ids, files := files } edit currentFound
          · exact ⟨final, finalFound, currentRelated⟩
          · refine ⟨final, finalFound, ?_⟩
            rcases legal.updates indexed member with ⟨request, attempt, publishes, created⟩ | ⟨-, rfl, -⟩
            · obtain ⟨-, absent⟩ := created.unused unused publishes
              exact absurd ((mem_iff_lookup _ _).mpr ⟨current, currentFound⟩) absent
            · exact edits edit legal final member record found
        · rw [failed]
          exact ⟨current, currentFound, currentRelated⟩
    | administer administers =>
        rw [(perform_administered administers).routes]
        exact ⟨record, found, reflexive record⟩
    | save compacts => exact ⟨record, found, reflexive record⟩
    | advance advances following saved => exact ⟨record, found, reflexive record⟩
  · intro restartSeed after action restarts
    exact absurd action (continues restartSeed)

theorem Recovered.admitted {before after : Impl} (recovered : Recovered before after edit) :
    Admitted before.routes edit.upserts where
  held := by
    intro record member existing found
    obtain ⟨earlier, held, evidence⟩ := recovered.upserts record member
    obtain rfl := Option.some.inj (held.symm.trans found)
    rw [evidence.generation]
  ordered := by
    refine List.pairwise_of_forall_mem_list fun first inFirst second inSecond same => ?_
    obtain ⟨earlier, held, evidence⟩ := recovered.upserts first inFirst
    obtain ⟨other, otherHeld, otherEvidence⟩ := recovered.upserts second inSecond
    rw [same] at held
    obtain rfl := Option.some.inj (held.symm.trans otherHeld)
    rw [evidence.generation, otherEvidence.generation]

/-! ## Mirrors -/

/-- The files hold a snapshot and entries whose replay gives what an open runtime holds. -/
structure Mirrors (config : RuntimeConfig) (state : Impl) (base : Option PersistedState)
    (entries : List JournalEntry) : Prop where
  represents : Represents config.limits state.files base entries
  unique : (base.getD {}).Unique
  contents : state.opened = true →
    (entries.foldl PersistedState.replay (base.getD {})).contents = state.contents

/-- What a successful write of an edit makes of a snapshot and a list of entries. -/
inductive Extends (config : RuntimeConfig) (state : Impl) (edit : Edit) (base : Option PersistedState)
    (entries : List JournalEntry) : Option PersistedState → List JournalEntry → Prop
  | journal (mode : config.durability = .journal) :
      Extends config state edit base entries base (entries ++ [state.journalEntry edit])
  | snapshot (mode : config.durability = .snapshot) :
      Extends config state edit base entries (some (state.mergedState edit)) []

section Writes

variable {base : Option PersistedState} {entries : List JournalEntry} {files : StoreFiles}
  {io : IoOutcome}

theorem persist_represents (represents : Represents config.limits state.files base entries)
    (clean : io.Clean) (durable : config.durability ≠ .none) (dated : Dated state)
    (written : state.persist config io edit = (files, .ok ())) :
    ∃ base' entries', Extends config state edit base entries base' entries' ∧
      Represents config.limits files base' entries' := by
  unfold persist at written
  split at written
  · rename_i memory
    exact absurd memory durable
  · rename_i mode
    have saved := represents.save (mergedState_formed dated) written
    rw [clean.remove, if_pos rfl] at saved
    exact ⟨_, _, .snapshot mode, saved⟩
  · rename_i mode
    exact ⟨_, _, .journal mode, represents.append (journalEntry_formed dated) written⟩

/-- A write that fails leaves what the files hold. -/
theorem persist_failed {failure : Error} (represents : Represents config.limits state.files base entries)
    (clean : io.Clean) (failed : state.persist config io edit = (files, .error failure)) :
    Represents config.limits files base entries := by
  unfold persist at failed
  split at failed
  · simp at failed
  · rw [saveSnapshot_error failed]
    exact represents
  · exact represents.append_failed clean.append failed

theorem Extends.unique {base' : Option PersistedState} {entries' : List JournalEntry}
    (extends_ : Extends config state edit base entries base' entries') (unique : (base.getD {}).Unique)
    (indexed : Indexed state) : (base'.getD {}).Unique := by
  cases extends_ with
  | journal mode => exact unique
  | snapshot mode => exact (mergedState_contents indexed edit).1

/-- An acknowledged edit extends the store and memory alike; a refused one changes neither. -/
theorem Mirrors.acknowledge (mirrors : Mirrors config state base entries) (clean : io.Clean)
    (durable : config.durability ≠ .none) (indexed : Indexed state) (dated : Dated state)
    (opened : state.opened = true) (admitted : Admitted state.routes edit.upserts) :
    (state.acknowledge config io edit).1.contents = state.contents ∧
        Mirrors config (state.acknowledge config io edit).1 base entries ∨
      (state.acknowledge config io edit).1.contents = (state.applyEdit edit).contents ∧
        ∃ base' entries', Extends config state edit base entries base' entries' ∧
          Mirrors config (state.acknowledge config io edit).1 base' entries' := by
  have held := mirrors.contents opened
  rcases acknowledge_cases config io state edit with ⟨files, written, applied⟩ |
    ⟨files, failure, failed, refused⟩
  · rw [applied]
    obtain ⟨base', entries', extension, represents⟩ :=
      persist_represents mirrors.represents clean durable dated written
    have sameContents : (applyEdit { state with files := files } edit).contents =
        (state.applyEdit edit).contents := by
      simp only [Impl.contents, applyEdit_routes, applyEdit_revocations, applyEdit_attempts,
        (applyEdit_frame edit).epoch, (applyEdit_frame edit).policyGeneration]
    refine .inr ⟨sameContents, base', entries', extension, ?_, extension.unique mirrors.unique indexed, ?_⟩
    · rw [applyEdit_files]
      exact represents
    · intro _
      rw [sameContents]
      cases extension with
      | journal mode =>
          rw [List.foldl_append, List.foldl_cons, List.foldl_nil,
            ((mirrors.unique.replays entries).replay _).2, held, contents_apply admitted]
      | snapshot mode => exact (mergedState_contents indexed edit).2
  · rw [refused]
    exact .inl ⟨rfl, persist_failed mirrors.represents clean failed, mirrors.unique, fun _ => held⟩

/-- A snapshot of the whole state holds what memory holds. -/
theorem compactStore_mirrors (represents : Represents config.limits state.files base entries)
    (clean : io.Clean) (durable : config.durability ≠ .none) (indexed : Indexed state)
    (dated : Dated state) (saved : state.compactStore config io = (files, .ok ())) :
    Mirrors config { state with files := files } (some state.collectState) [] := by
  obtain ⟨unique, same⟩ := collectState_contents indexed
  unfold Impl.compactStore at saved
  rw [if_neg durable] at saved
  have represents := represents.save (collectState_formed dated) saved
  rw [clean.remove, if_pos rfl] at represents
  exact ⟨represents, unique, fun _ => same⟩

end Writes

/-! ## Restarts -/

section Restart

variable {base : Option PersistedState} {entries : List JournalEntry} {files stored : StoreFiles}
  {loaded : PersistedState} {io : IoOutcome}

/-- A restart loads a prefix of the entries, up to the first one that is not storable. -/
theorem Loads.kept (small : config.limits.maxPersistBytes < 2 ^ 32) (durable : config.durability ≠ .none)
    (represents : Represents config.limits state.files base entries)
    (loads : Loads config env state.files files loaded) :
    ∃ kept dropped, entries = kept ++ dropped ∧
      (∀ entry ∈ dropped.head?, ¬ entry.Storable config.limits) ∧
      Represents config.limits files base kept ∧
      loaded = kept.foldl PersistedState.replay (base.getD {}) := by
  cases loads with
  | nothing memory => exact absurd memory durable
  | stored _ read =>
      rcases represents.load small (env.io 0) with ⟨failure, failed⟩ | ⟨kept, dropped, after, loaded⟩
      · rw [failed] at read
        simp at read
      · have result := loaded.result
        rw [read, Prod.mk.injEq, Except.ok.injEq] at result
        obtain ⟨rfl, rfl⟩ := result
        exact ⟨kept, dropped, loaded.parts, loaded.stopped, loaded.represents, rfl⟩

/-- What the recovered state holds, as a replay of the recovery's own entry. -/
theorem recovery_contents {before : StoreFiles} (seed : Word) (loads : Loads config env before files loaded) :
    (recovery config env seed files loaded).1.contents = loaded.contents.apply
      ((recovery config env seed files loaded).1.journalEntry (recovery config env seed files loaded).2) := by
  have recovered : Recovered _ _ _ := loads.recovered seed
  have admitted := recovered.admitted
  rw [populate_routes] at admitted
  simp only [Contents.apply, contents, journalEntry, PersistedState.contents,
    admitted.foldl_insertRoute, recovered.routes, recovered.attempts, recovered.revocations,
    recovered.unrevoked, recovered.frame.epoch, recovered.frame.policyGeneration, populate_epoch,
    populate_policyGeneration, populate_routes, populate_attempts, populate_revocations,
    laterCounter_self, List.foldl_nil]

/-- Merging what recovery wrote into the recovered state gives that state. -/
theorem recovery_merged {before : StoreFiles} (loads : Loads config env before files loaded) :
    (applyEdit (recovery config env seed files loaded).1 (recovery config env seed files loaded).2).contents =
      (recovery config env seed files loaded).1.contents := by
  have recovered : Recovered _ _ _ := loads.recovered seed
  simp only [contents, applyEdit_routes, applyEdit_revocations, applyEdit_attempts,
    (applyEdit_frame _).epoch, (applyEdit_frame _).policyGeneration, recovered.unrevoked, List.foldl_nil]
  rw [recovered.routes, recovered.attempts, foldl_insert_again, foldl_insert_again]

/-- Recovery leaves the store and memory in step. -/
theorem mirrors_recovery (represents : Represents config.limits files base entries)
    (unique : (base.getD {}).Unique) (clean : (env.io 1).Clean) (durable : config.durability ≠ .none)
    (replayed : loaded = entries.foldl PersistedState.replay (base.getD {}))
    (loads : Loads config env state.files files loaded)
    (saved : (recovery config env seed files loaded).2.upserts = [] ∧
        (recovery config env seed files loaded).2.attempts = [] ∧ stored = files ∨
      persist config (env.io 1) (recovery config env seed files loaded).1
        (recovery config env seed files loaded).2 = (stored, .ok ())) :
    ∃ base' entries', (base' = base ∧ entries' = entries ∨
        Extends config (recovery config env seed files loaded).1 (recovery config env seed files loaded).2
          base entries base' entries') ∧
      Mirrors config { (recovery config env seed files loaded).1 with files := stored, opened := true }
        base' entries' := by
  have merged := recovery_contents seed loads
  rcases saved with ⟨noUpserts, noAttempts, rfl⟩ | written
  · have recovered : Recovered _ _ _ := loads.recovered seed
    refine ⟨base, entries, .inl ⟨rfl, rfl⟩, represents, unique, fun _ => ?_⟩
    have routes := recovered.routes
    have attempts := recovered.attempts
    rw [noUpserts] at routes
    rw [noAttempts] at attempts
    simp only [List.foldl_nil, populate_routes, populate_attempts] at routes attempts
    rw [← replayed]
    simp only [Impl.contents, PersistedState.contents, routes, attempts, recovered.revocations,
      recovered.frame.epoch, recovered.frame.policyGeneration, populate_epoch,
      populate_policyGeneration, populate_revocations]
  · have initially : Represents config.limits (recovery config env seed files loaded).1.files base entries := by
      rw [recovery_files]
      exact represents
    obtain ⟨base', entries', extension, after⟩ := persist_represents initially clean durable
      loads.dated written
    refine ⟨base', entries', .inr extension, after, extension.unique unique (recovery_indexed loads), ?_⟩
    intro _
    cases extension with
    | journal mode =>
        rw [List.foldl_append, List.foldl_cons, List.foldl_nil, ((unique.replays entries).replay _).2,
          ← replayed, ← merged]
        rfl
    | snapshot mode =>
        exact (mergedState_contents (recovery_indexed loads) _).2.trans (recovery_merged loads)

end Restart

/-! ## Stored invariants -/

/-- A call during which the store keeps in step with memory. -/
structure KeepsStore (config : RuntimeConfig) (state : Impl) (call : Call) : Prop where
  small : config.limits.maxPersistBytes < 2 ^ 32
  clean : ∀ index, (call.env.io index).Clean
  unused : state.createsUnused config call = true

/-- The store mirrors memory, and every prefix of its journal gives contents of a kind. -/
def Stored (config : RuntimeConfig) (kind : Contents → Prop) (state : Impl) : Prop :=
  config.durability ≠ .none → ∃ base entries, Mirrors config state base entries ∧
    ∀ kept, kept <+: entries → kind (kept.foldl PersistedState.replay (base.getD {})).contents

section Stored

variable {kind : Contents → Prop} {call : Call}

theorem Extends.prefixes {base base' : Option PersistedState} {entries entries' : List JournalEntry}
    (extends_ : Extends config state edit base entries base' entries')
    (earlier : ∀ kept, kept <+: entries →
      kind (kept.foldl PersistedState.replay (base.getD {})).contents)
    (whole : kind (entries'.foldl PersistedState.replay (base'.getD {})).contents)
    (kept : List JournalEntry) (prefixes : kept <+: entries') :
    kind (kept.foldl PersistedState.replay (base'.getD {})).contents := by
  cases extends_ with
  | journal mode =>
      rcases List.prefix_concat_iff.mp prefixes with rfl | shorter
      · exact whole
      · exact earlier kept shorter
  | snapshot mode =>
      obtain rfl := List.prefix_nil.mp prefixes
      exact whole

theorem Stored.move {before after : Impl} (keeps : KeepsStore config origin call)
    (indexed : Indexed origin) (dated : Dated origin)
    (takes : origin.takes call.action = true) (same : before.opened = origin.opened)
    (heldIndexed : Indexed before) (heldDated : Dated before) (held : Stored config kind before) (move : Move config call.env origin call.action before after)
    (of_kind : kind after.contents) : Stored config kind after := by
  intro durable
  cases move with
  | draw ids =>
      obtain ⟨base, entries, mirrors, prefixes⟩ := held durable
      exact ⟨base, entries, ⟨mirrors.represents, mirrors.unique, mirrors.contents⟩, prefixes⟩
  | mutate unbroken ids index legal =>
      rename_i edit
      obtain ⟨base, entries, mirrors, prefixes⟩ := held durable
      have drawn : Mirrors config { before with ids := ids } base entries :=
        ⟨mirrors.represents, mirrors.unique, mirrors.contents⟩
      have frame : Frame { before with ids := ids } _ :=
        acknowledge_frame config (call.env.io index) edit
      have admitted := legal.admitted indexed keeps.unused
      have opened : before.opened = true := same.trans (legal.opened takes)
      rcases drawn.acknowledge (keeps.clean index) durable (heldIndexed.congr rfl rfl rfl rfl)
          (heldDated.congr rfl rfl) opened admitted with
        ⟨-, unchanged⟩ | ⟨-, base', entries', extension, extended⟩
      · exact ⟨base, entries, unchanged, prefixes⟩
      · refine ⟨base', entries', extended, extension.prefixes prefixes ?_⟩
        rw [extended.contents (frame.opened.trans opened)]
        exact of_kind
  | administer administers =>
      obtain ⟨base, entries, mirrors, prefixes⟩ := held durable
      have administered : Administered origin (origin.perform config call.env call.action) :=
        perform_administered administers
      refine ⟨base, entries, ⟨administered.files ▸ mirrors.represents, mirrors.unique, ?_⟩, prefixes⟩
      rw [administered.opened, administered.contents]
      exact mirrors.contents
  | save compacts =>
      obtain ⟨base, entries, mirrors, prefixes⟩ := held durable
      cases saved : origin.compactStore config (call.env.io 0) with
      | mk files result =>
          cases result with
          | error failure =>
              rw [compactStore_error saved]
              exact ⟨base, entries, mirrors, prefixes⟩
          | ok _ =>
              have snapshot := compactStore_mirrors mirrors.represents (keeps.clean 0) durable indexed
                dated saved
              have opened : origin.opened = true := opened_of_takes takes (by rw [compacts]; rfl)
              refine ⟨_, _, snapshot, fun kept prefixes => ?_⟩
              obtain rfl := List.prefix_nil.mp prefixes
              exact (snapshot.contents opened).symm ▸ of_kind
  | advance advances following saved =>
      rename_i next files
      obtain ⟨base, entries, mirrors, prefixes⟩ := held durable
      have advanced : Dated { origin with epoch := next } := dated.advance following
      have represents : Represents config.limits { origin with epoch := next }.files base entries :=
        mirrors.represents
      have snapshot := compactStore_mirrors represents (keeps.clean 0) durable
        (indexed.congr rfl rfl rfl rfl) advanced saved
      have opened : origin.opened = true := opened_of_takes takes (by rw [advances]; rfl)
      refine ⟨_, _, snapshot, fun kept prefixes => ?_⟩
      obtain rfl := List.prefix_nil.mp prefixes
      exact (snapshot.contents opened).symm ▸ of_kind

/-- What a restart loads is of the kind that every prefix of the journal gives. -/
theorem Stored.loads {files : StoreFiles} {loaded : PersistedState}
    (small : config.limits.maxPersistBytes < 2 ^ 32) (stored : Stored config kind state) (durable : config.durability ≠ .none)
    (loads : Loads config env state.files files loaded) :
    kind loaded.contents ∧ ∃ base entries, Represents config.limits files base entries ∧
      (base.getD {}).Unique ∧ loaded = entries.foldl PersistedState.replay (base.getD {}) ∧
      ∀ kept, kept <+: entries → kind (kept.foldl PersistedState.replay (base.getD {})).contents := by
  obtain ⟨base, entries, mirrors, prefixes⟩ := stored durable
  obtain ⟨kept, dropped, parts, -, represents, rfl⟩ := loads.kept small durable mirrors.represents
  have shorter : kept <+: entries := parts ▸ List.prefix_append kept dropped
  exact ⟨prefixes kept shorter, base, kept, represents, mirrors.unique, rfl,
    fun other inKept => prefixes other (inKept.trans shorter)⟩

theorem Stored.restart {after : Impl} (keeps : KeepsStore config state call)
    (stored : Stored config kind state) (restarts : Restarts config call.env seed state after)
    (of_kind : after.opened = true → kind after.contents) : Stored config kind after := by
  intro durable
  cases restarts with
  | refused =>
      obtain ⟨base, entries, mirrors, prefixes⟩ := stored durable
      exact ⟨base, entries, ⟨mirrors.represents, mirrors.unique, nofun⟩, prefixes⟩
  | unsaved loads failed =>
      obtain ⟨-, base, entries, represents, unique, -, prefixes⟩ :=
        stored.loads keeps.small durable loads
      refine ⟨base, entries, ⟨?_, unique, nofun⟩, prefixes⟩
      exact persist_failed (by rw [recovery_files]; exact represents) (keeps.clean 1) failed
  | opened checked loads saved =>
      obtain ⟨-, base, entries, represents, unique, replayed, prefixes⟩ :=
        stored.loads keeps.small durable loads
      obtain ⟨base', entries', grown, mirrors⟩ := mirrors_recovery represents unique (keeps.clean 1)
        durable replayed loads saved
      refine ⟨base', entries', ⟨mirrors.represents, mirrors.unique, mirrors.contents⟩, ?_⟩
      rcases grown with ⟨rfl, rfl⟩ | extension
      · exact prefixes
      · refine extension.prefixes prefixes ?_
        rw [mirrors.contents rfl]
        exact of_kind rfl

/-- The rule for invariants that survive restarts. Every reached state satisfies `motive`,
and recovery relies on the contents that it loads being of the given kind. -/
theorem run_stored (kind : Contents → Prop) {motive : Impl → Prop} {allowed : Impl → Call → Prop}
    {calls : List Call}
    (along : Along (step config) allowed (initial seed) calls)
    (reliable : ∀ state call, allowed state call → config.durability ≠ .none → KeepsStore config state call)
    (of_motive : ∀ state, motive state → kind state.contents) (initially : motive (initial seed))
    (closes : ∀ state fenced barred files, motive state → motive
      { state with
        opened := false, registrations := ∅, fencedBoots := fenced, administrativeFences := barred,
        files := files })
    (moves : ∀ state call, Indexed state → allowed state call → motive state →
      state.takes call.action = true → ∀ before after, Indexed before → motive before →
        Move config call.env state call.action before after → motive after)
    (recovers : ∀ state call seed files loaded stored fenced barred, allowed state call → motive state →
      call.action = .restart seed → checkConfig config = .ok () →
      Loads config call.env state.files files loaded → kind loaded.contents → motive
        { (recovery config call.env seed files loaded).1 with
          files := stored, opened := true, fencedBoots := fenced, administrativeFences := barred }) :
    Indexed (run (step config) (initial seed) calls) ∧ motive (run (step config) (initial seed) calls) ∧
      Stored config kind (run (step config) (initial seed) calls) := by
  have held : Indexed (run (step config) (initial seed) calls) ∧
      motive (run (step config) (initial seed) calls) ∧
      Dated (run (step config) (initial seed) calls) ∧
      Stored config kind (run (step config) (initial seed) calls) := by
    refine run_preserves (motive := fun state => motive state ∧ Dated state ∧
      Stored config kind state) along ?_ ?_
    · refine ⟨initially, initial_dated seed, fun _ => ⟨none, [], ?_, ?_⟩⟩
      · exact ⟨⟨rfl, rfl, by simp, by simp⟩, unique_empty, nofun⟩
      · intro kept prefixes
        obtain rfl := List.prefix_nil.mp prefixes
        exact of_motive _ initially
    · rintro state call indexed allows ⟨holds, dated, stored⟩
      have storeKept := reliable state call allows
      refine step_preserves (motive := fun state => motive state ∧ Dated state ∧
        Stored config kind state) indexed ⟨holds, dated, stored⟩ ?_ ?_
      · rintro takes before after same heldIndexed ⟨held, heldDated, heldStored⟩ move
        have next := moves state call indexed allows holds takes before after heldIndexed held move
        refine ⟨next, dated.move heldDated move, fun durable => ?_⟩
        exact heldStored.move (storeKept durable) indexed dated takes same heldIndexed heldDated move
          (of_motive _ next) durable
      · intro restartSeed after action restarts
        have next : motive after := by
          cases restarts with
          | refused => exact closes state _ _ state.files holds
          | unsaved loads failed => exact closes state _ _ _ holds
          | opened checked loads saved =>
              refine recovers state call restartSeed _ _ _ _ _ allows holds action checked loads ?_
              by_cases durable : config.durability = .none
              · cases loads with
                | nothing memory => exact of_motive _ initially
                | stored durable' read => exact absurd durable durable'
              · exact (stored.loads (storeKept durable).small durable loads).1
        refine ⟨next, dated.restart restarts, fun durable => ?_⟩
        exact stored.restart (storeKept durable) restarts (fun _ => of_motive _ next) durable
  exact ⟨held.1, held.2.1, held.2.2.2⟩

end Stored

end Impl

end RouteFabric
