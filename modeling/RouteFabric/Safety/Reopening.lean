import RouteFabric.Store.Reload
import RouteFabric.Safety.Currentness
import RouteFabric.Safety.Indexes

/-!
# Conservative recovery

An attempt that is unresolved when a process ends leaves no proof of what the backend
applied. `Open` resolves it, and when its route still waits for it the route keeps its
intent and loses its claim to be applied. Everything else that was loaded stays as it was.

What recovery did is written as one journal entry. The next load replays it and has
nothing to recover; an entry too long for a frame is not found again, and the next
recovery repeats it. Either way opening the store again gives the same contents.
-/

namespace RouteFabric

open OrderedMap Run ByteReader

/-! ## What recovery is for -/

/-- A record that waited for an attempt nobody resolved. -/
def PersistedState.Interrupted (loaded : PersistedState) (record : RouteRecord) : Prop :=
  (record.lifecycle = .installing ∨ record.lifecycle = .withdrawing) ∧
    ∃ attempt ∈ loaded.attempts, attempt.route = record.id ∧ attempt.resolved = false ∧
      record.programmingGeneration = attempt.programmingGeneration

/-- A loaded state whose recovery stays within the limits of the store. -/
structure PersistedState.Recoverable (loaded : PersistedState) (limits : Limits) : Prop where
  routes : loaded.routes.length ≤ limits.maxRoutes
  attempts : (loaded.attempts.filter (·.resolved = false)).length ≤ limits.maxOutstandingProgramming
  desired : ∀ attempt ∈ loaded.attempts, ∀ record ∈ loaded.routes, record.id = attempt.route →
    attempt.desiredGeneration.value ≤ record.generation.value

/-- The intent of a record survives, its claim to be applied does not. -/
structure RouteRecord.Reclaimed (before after : RouteRecord) : Prop where
  key : after.key = before.key
  generation : after.generation = before.generation
  authorityGeneration : after.authorityGeneration = before.authorityGeneration
  binding : after.binding = before.binding
  provenance : after.provenance = before.provenance
  lifecycle : after.lifecycle = .revalidationRequired
  applied : after.applied.classification = .ambiguous

/-- What a runtime holds after it recovered a loaded state. -/
structure Impl.Conservative (state : Impl) (loaded : PersistedState) : Prop where
  interrupted : ∀ record ∈ loaded.routes, loaded.Interrupted record →
    ∃ after, state.routes[record.id]? = some after ∧ record.Reclaimed after
  kept : ∀ record ∈ loaded.routes, ¬ loaded.Interrupted record → state.routes[record.id]? = some record
  routes : ∀ id : RouteId, id ∈ state.routes → ∃ record ∈ loaded.routes, record.id = id
  revocations : ∀ (id : RouteId) revocation, state.revocations[id]? = some revocation ↔
    revocation ∈ loaded.revocations ∧ revocation.route = id
  attempts : ∀ (id : ProgrammingAttemptId) attempt, state.attempts[id]? = some attempt ↔
    ∃ known ∈ loaded.attempts, known.attempt = id ∧ attempt = { known with resolved := true }
  outstanding : state.outstandingProgramming = 0

theorem RouteRecord.reclaimed_recovered {record : RouteRecord} {attempt : ProgrammingAttemptRecord}
    (awaited : Impl.awaits record attempt = true) (historyLimit : Nat) (backend : BackendId) :
    record.Reclaimed (record.recovered historyLimit backend attempt) := by
  have evidence := recovered_evidence awaited historyLimit backend
  obtain ⟨-, -, lifecycle⟩ := recovered_lifecycle awaited historyLimit backend
  exact ⟨evidence.key, evidence.generation, evidence.authorityGeneration, evidence.binding,
    evidence.provenance, lifecycle, rfl⟩

theorem RouteLifecycle.hasOutstandingProgramming_iff {lifecycle : RouteLifecycle} :
    lifecycle.hasOutstandingProgramming = true ↔ lifecycle = .installing ∨ lifecycle = .withdrawing := by
  cases lifecycle <;> simp [hasOutstandingProgramming]

/-- Whether an action registers a publisher. -/
def Action.registers : Action → Bool
  | .register .. => true
  | _ => false

namespace Impl

variable {config : RuntimeConfig} {env : Env} {seed : Word} {state : Impl} {files after : StoreFiles}
  {loaded : PersistedState}

theorem awaits_iff {record : RouteRecord} {attempt : ProgrammingAttemptRecord} :
    awaits record attempt = true ↔ (record.lifecycle = .installing ∨ record.lifecycle = .withdrawing) ∧
      record.programmingGeneration = attempt.programmingGeneration := by
  rw [awaits, Bool.and_eq_true, RouteLifecycle.hasOutstandingProgramming_iff, decide_eq_true_eq]

/-! ## One recovery -/

/-- A record after some of the attempts were recovered: reclaimed for one of them, or
untouched because it waits for none of them. -/
def Recalled (config : RuntimeConfig) (backend : BackendId) (done : List ProgrammingAttemptRecord)
    (id : RouteId) (record after : RouteRecord) : Prop :=
  (∃ attempt ∈ done, attempt.resolved = false ∧ attempt.route = id ∧ awaits record attempt = true ∧
      after = record.recovered config.historyLimit backend attempt) ∨
    (∀ attempt ∈ done, attempt.resolved = false → attempt.route = id → awaits record attempt = false) ∧
      after = record

theorem Recalled.snoc {backend : BackendId} {done : List ProgrammingAttemptRecord} {id : RouteId}
    {record after : RouteRecord} {attempt : ProgrammingAttemptRecord}
    (recalled : Recalled config backend done id record after)
    (settled : attempt.resolved = false → attempt.route = id → awaits after attempt = false) :
    Recalled config backend (done ++ [attempt]) id record after := by
  rcases recalled with ⟨other, member, reclaimed⟩ | ⟨unawaited, rfl⟩
  · exact .inl ⟨other, List.mem_append_left _ member, reclaimed⟩
  · refine .inr ⟨fun other member unresolved own => ?_, rfl⟩
    rcases List.mem_append.mp member with earlier | last
    · exact unawaited other earlier unresolved own
    · obtain rfl := List.mem_singleton.mp last
      exact settled unresolved own

/-- What recovery makes of the records, and what it writes. -/
theorem recover_exact (config : RuntimeConfig) (backend : BackendId) (indexed : Indexed state) :
    (∀ (id : RouteId) after, (state.recover config backend).1.routes[id]? = some after →
      ∃ record, state.routes[id]? = some record ∧
        Recalled config backend (values state.attempts) id record after) ∧
    (∀ updated ∈ (state.recover config backend).2.upserts, ∃ record attempt,
      state.routes[attempt.route]? = some record ∧ attempt ∈ values state.attempts ∧
        awaits record attempt = true ∧ updated = record.recovered config.historyLimit backend attempt) ∧
    (state.recover config backend).2.upserts.length ≤ (state.recover config backend).2.attempts.length := by
  refine (recover_indexed_induction config backend indexed (motive := fun done current edit =>
    (∀ (id : RouteId) after, current.routes[id]? = some after →
      ∃ record, state.routes[id]? = some record ∧ Recalled config backend done id record after) ∧
    (∀ updated ∈ edit.upserts, ∃ record attempt, state.routes[attempt.route]? = some record ∧
      attempt ∈ values state.attempts ∧ awaits record attempt = true ∧
        updated = record.recovered config.historyLimit backend attempt) ∧
    edit.upserts.length ≤ edit.attempts.length) ?_ ?_ ?_ ?_).2
  · refine ⟨fun id record found => ⟨record, found, .inr ⟨?_, rfl⟩⟩, ?_, Nat.le_refl _⟩
    · exact fun _ member => absurd member List.not_mem_nil
    · exact fun _ member => absurd member List.not_mem_nil
  · rintro done current edit attempt ⟨routes, upserts, count⟩ resolved
    refine ⟨fun id after found => ?_, upserts, count⟩
    obtain ⟨record, held, recalled⟩ := routes id after found
    refine ⟨record, held, recalled.snoc fun pending => ?_⟩
    rw [resolved] at pending
    cases pending
  · rintro done current edit attempt - - - settled ⟨routes, upserts, count⟩
    refine ⟨fun id after found => ?_, upserts, ?_⟩
    · obtain ⟨record, held, recalled⟩ := routes id after found
      exact ⟨record, held, recalled.snoc fun _ own => settled after (own ▸ found)⟩
    · rw [List.length_append]
      exact count.trans (Nat.le_add_right _ _)
  · rintro done current edit attempt waiting heldIndexed member pending waitingFound awaited
      ⟨routes, upserts, count⟩
    -- The record that waits is the one that was there before: a reclaimed one waits for nothing.
    obtain ⟨record, held, recalled⟩ := routes _ waiting waitingFound
    obtain rfl : waiting = record := by
      rcases recalled with ⟨other, -, -, -, earlier, rfl⟩ | ⟨-, same⟩
      · obtain ⟨-, -, lifecycle⟩ := RouteRecord.recovered_lifecycle earlier config.historyLimit backend
        simp [awaits, lifecycle, RouteLifecycle.hasOutstandingProgramming] at awaited
      · exact same
    have own : (waiting.recovered config.historyLimit backend attempt).id = attempt.route := by
      rw [(RouteRecord.recovered_evidence awaited config.historyLimit backend).id]
      exact heldIndexed.routes _ _ waitingFound
    refine ⟨fun id after found => ?_, ?_, ?_⟩
    · rw [resolveAttempt_routes, commit_routes, lookup_insert, own] at found
      split at found
      · rename_i sameRoute
        obtain rfl := Option.some.inj found
        obtain rfl := sameRoute
        exact ⟨waiting, held, .inl ⟨attempt, List.mem_append_right _ List.mem_cons_self, pending, rfl,
          awaited, rfl⟩⟩
      · rename_i elsewhere
        obtain ⟨record, recordHeld, kept⟩ := routes id after found
        exact ⟨record, recordHeld, kept.snoc fun _ sameRoute => absurd sameRoute elsewhere⟩
    · intro updated inUpserts
      rcases List.mem_append.mp inUpserts with earlier | last
      · exact upserts updated earlier
      · exact ⟨waiting, attempt, held, member, awaited, List.mem_singleton.mp last⟩
    · rw [List.length_append, List.length_append]
      exact Nat.add_le_add_right count 1

section Loaded

variable (loads : Loads config env files after loaded)

include loads

/-- The attempts after recovery are those that were loaded, resolved. -/
theorem recovery_attempts (seed : Word) (id : ProgrammingAttemptId) (attempt : ProgrammingAttemptRecord) :
    (recovery config env seed after loaded).1.attempts[id]? = some attempt ↔
      ∃ known ∈ loaded.attempts, known.attempt = id ∧ attempt = { known with resolved := true } := by
  have recovered : Recovered _ _ _ := loads.recovered seed
  have continued : ∀ found : ProgrammingAttemptRecord,
      (recovery config env seed after loaded).1.attempts[id]? = some found →
      ∃ known, loaded.contents.attempts[id]? = some known ∧ found = { known with resolved := true } := by
    intro found held
    obtain ⟨known, knownHeld, rfl | ⟨-, same⟩⟩ := recovery_continues loads held
    · have settled := recovered.settled id found held
      refine ⟨found, knownHeld, ?_⟩
      rw [← settled]
    · exact ⟨known, knownHeld, same⟩
  constructor
  · intro found
    obtain ⟨known, held, same⟩ := continued attempt found
    obtain ⟨member, own⟩ := lookup_index_some held
    exact ⟨known, member, own, same⟩
  · rintro ⟨known, member, rfl, rfl⟩
    have held : loaded.contents.attempts[known.attempt]? = some known :=
      lookup_index_of_mem loads.unique.attempts member
    have present : known.attempt ∈ (recovery config env seed after loaded).1.attempts := by
      rw [recovered.attempts, populate_attempts]
      exact mem_foldl_insert.mpr (.inr ((mem_iff_lookup _ _).mpr ⟨known, held⟩))
    obtain ⟨found, foundHeld⟩ := (mem_iff_lookup _ _).mp present
    obtain ⟨other, otherHeld, same⟩ := continued found foundHeld
    obtain rfl := Option.some.inj (held.symm.trans otherHeld)
    rw [foundHeld, same]

/-- The unresolved attempts of a loaded state, by membership of its map and of its list. -/
theorem Loads.interrupted_iff (seed : Word) {record : RouteRecord} :
    loaded.Interrupted record ↔ ∃ attempt ∈ values ((fresh seed after).populate loaded).attempts,
      attempt.resolved = false ∧ attempt.route = record.id ∧ awaits record attempt = true := by
  have listed : ∀ attempt, attempt ∈ values ((fresh seed after).populate loaded).attempts ↔
      attempt ∈ loaded.attempts := by
    intro attempt
    rw [mem_values, populate_attempts]
    constructor
    · rintro ⟨id, found⟩
      exact (lookup_index_some found).1
    · intro member
      exact ⟨attempt.attempt, lookup_index_of_mem loads.unique.attempts member⟩
  constructor
  · rintro ⟨waits, attempt, member, own, pending, same⟩
    exact ⟨attempt, (listed attempt).mpr member, pending, own, awaits_iff.mpr ⟨waits, same⟩⟩
  · rintro ⟨attempt, member, pending, own, awaited⟩
    obtain ⟨waits, same⟩ := awaits_iff.mp awaited
    exact ⟨waits, attempt, (listed attempt).mp member, own, pending, same⟩

/-- Recovery is conservative, whatever the store gave back. -/
theorem recovery_conservative (seed : Word) :
    (recovery config env seed after loaded).1.Conservative loaded := by
  have recovered : Recovered _ _ _ := loads.recovered seed
  have indexed : Indexed ((fresh seed after).populate loaded) := loads.indexed
  obtain ⟨exactly, -, -⟩ := recover_exact config env.backend.id indexed
  have found : ∀ record ∈ loaded.routes,
      ((fresh seed after).populate loaded).routes[record.id]? = some record := by
    intro record member
    rw [populate_routes]
    exact lookup_index_of_mem loads.unique.routes member
  have becomes : ∀ record ∈ loaded.routes,
      ∃ updated, (recovery config env seed after loaded).1.routes[record.id]? = some updated ∧
        Recalled config env.backend.id (values ((fresh seed after).populate loaded).attempts) record.id
          record updated := by
    intro record member
    have present := recovered.present record.id ((mem_iff_lookup _ _).mpr ⟨record, found record member⟩)
    obtain ⟨updated, held⟩ := (mem_iff_lookup _ _).mp present
    obtain ⟨earlier, earlierFound, recalled⟩ := exactly record.id updated held
    obtain rfl := Option.some.inj ((found record member).symm.trans earlierFound)
    exact ⟨updated, held, recalled⟩
  constructor
  · intro record member interrupted
    obtain ⟨updated, held, ⟨attempt, -, -, -, awaited, rfl⟩ | ⟨unawaited, -⟩⟩ := becomes record member
    · exact ⟨_, held, RouteRecord.reclaimed_recovered awaited _ _⟩
    · obtain ⟨attempt, inAttempts, pending, own, awaited⟩ := (loads.interrupted_iff seed).mp interrupted
      rw [unawaited attempt inAttempts pending own] at awaited
      cases awaited
  · intro record member uninterrupted
    obtain ⟨updated, held, ⟨attempt, inAttempts, pending, own, awaited, -⟩ | ⟨-, rfl⟩⟩ := becomes record member
    · exact absurd ((loads.interrupted_iff seed).mpr ⟨attempt, inAttempts, pending, own, awaited⟩) uninterrupted
    · exact held
  · intro id member
    obtain ⟨updated, held⟩ := (mem_iff_lookup _ _).mp member
    obtain ⟨record, earlier, -⟩ := exactly id updated held
    rw [populate_routes] at earlier
    obtain ⟨inRoutes, own⟩ := lookup_index_some earlier
    exact ⟨record, inRoutes, own⟩
  · intro id revocation
    rw [recovered.revocations, populate_revocations]
    constructor
    · exact lookup_index_some
    · rintro ⟨member, rfl⟩
      exact lookup_index_of_mem loads.unique.revocations member
  · exact recovery_attempts loads seed
  · exact (recovery_outstanding loads seed).1

/-! ## What recovery writes -/

/-- What recovery writes is read back when the loaded state is within the limits. -/
theorem recovery_storable (checked : checkConfig config = .ok ()) (backend : env.backend.id.isValid = true)
    (recoverable : loaded.Recoverable config.limits) (seed : Word) :
    ((recovery config env seed after loaded).1.journalEntry
      (recovery config env seed after loaded).2).Storable config.limits := by
  have recovered : Recovered _ _ _ := loads.recovered seed
  have indexed : Indexed ((fresh seed after).populate loaded) := loads.indexed
  obtain ⟨-, upserts, -⟩ := recover_exact config env.backend.id indexed
  obtain ⟨uniqueRoutes, -⟩ := recovery_distinct loads seed
  have sound := loads.sound
  refine ⟨?_, ?_, ?_, ?_, ?_, ?_, ?_, ?_⟩
  · simp only [journalEntry, recovered.frame.epoch, populate_epoch]
    exact sound.epoch
  · simp only [journalEntry, recovered.frame.policyGeneration, populate_policyGeneration]
    exact sound.policyGeneration
  · have present : ∀ id ∈ (recovery config env seed after loaded).2.upserts.map (·.id),
        id ∈ ((fresh seed after).populate loaded).routes := by
      intro id member
      obtain ⟨record, inUpserts, rfl⟩ := List.mem_map.mp member
      obtain ⟨earlier, found, -⟩ := recovered.upserts record inUpserts
      exact (mem_iff_lookup _ _).mpr ⟨earlier, found⟩
    have length := length_le_size uniqueRoutes present
    rw [List.length_map, populate_routes, size_index loads.unique.routes] at length
    exact length.trans recoverable.routes
  · intro updated member
    obtain ⟨record, attempt, found, inAttempts, awaited, rfl⟩ := upserts updated member
    rw [populate_routes] at found
    obtain ⟨inRoutes, own⟩ := lookup_index_some found
    obtain ⟨id, attemptFound⟩ := (mem_values _ _).mp inAttempts
    rw [populate_attempts] at attemptFound
    obtain ⟨inLoaded, -⟩ := lookup_index_some attemptFound
    exact (sound.routes record inRoutes).recovered (checkConfig_historyLimit checked) awaited
      (recoverable.desired attempt inLoaded record inRoutes own) backend
  · simp only [JournalEntry.body, journalEntry, recovered.unrevoked]
    exact Nat.zero_le _
  · simp only [JournalEntry.body, journalEntry, recovered.unrevoked]
    exact fun _ member => absurd member List.not_mem_nil
  · have length := recovery_resolved_length loads seed
    rw [outstandingIds_card loads.unique] at length
    exact length.trans recoverable.attempts
  · intro attempt member
    obtain ⟨known, found, -, same⟩ := recovered.resolves attempt member
    rw [populate_attempts] at found
    obtain ⟨inLoaded, -⟩ := lookup_index_some found
    have storable := sound.attempts known inLoaded
    rw [same]
    exact ⟨storable.attempt, storable.route, storable.desiredGeneration, storable.programmingGeneration,
      storable.epoch⟩

end Loaded

/-- The history of a record that was read has room for one more entry. -/
theorem recovered_measured {limits : Limits} {record : RouteRecord} {historyLimit : Nat} {backend : BackendId}
    {attempt : ProgrammingAttemptRecord} (short : record.write.length < 2 ^ 32)
    (storable : (record.recovered historyLimit backend attempt).Storable limits) :
    (record.recovered historyLimit backend attempt).Measured := by
  have measured := RouteRecord.measured_of_length short
  refine storable.measured measured.key.destination ?_
  have entries := length_le_flatMap LineageEntry.one_le_length_write record.history
  simp only [RouteRecord.write, List.flatten_cons, List.length_append, length_writeList] at short
  simp only [RouteRecord.recovered, RouteRecord.pushHistory, List.length_drop, List.length_append,
    List.length_singleton]
  omega

/-! ## Recovering again -/

/-- The contents that a recovery reaches and what it writes depend on the contents it
starts from only. -/
theorem recoverAttempt_congr {backend : BackendId} {left right : Impl × Edit}
    (contents : left.1.contents = right.1.contents) (edits : left.2 = right.2)
    (attempt : ProgrammingAttemptRecord) :
    (recoverAttempt config backend left attempt).1.contents =
        (recoverAttempt config backend right attempt).1.contents ∧
      (recoverAttempt config backend left attempt).2 = (recoverAttempt config backend right attempt).2 := by
  have routes : left.1.routes = right.1.routes := congrArg Contents.routes contents
  have resolves : ∀ {first second : Impl} (resolved : ProgrammingAttemptRecord),
      first.contents = second.contents →
      (first.resolveAttempt resolved).contents = (second.resolveAttempt resolved).contents := by
    intro first second resolved same
    simp only [Impl.contents, resolveAttempt, Contents.mk.injEq] at same ⊢
    simp [same]
  have commits : ∀ record, (left.1.commit record).contents = (right.1.commit record).contents := by
    intro record
    simp only [Impl.contents, Contents.mk.injEq] at contents ⊢
    simp [contents, (commit_frame record).epoch, (commit_frame record).policyGeneration]
  unfold recoverAttempt
  split
  · exact ⟨contents, edits⟩
  simp only [routes]
  split
  · rename_i record found
    split
    · exact ⟨resolves _ (commits _), by rw [edits]⟩
    · exact ⟨resolves _ contents, by rw [edits]⟩
  · exact ⟨resolves _ contents, by rw [edits]⟩

theorem recover_congr {backend : BackendId} {left right : Impl} (contents : left.contents = right.contents) :
    (left.recover config backend).1.contents = (right.recover config backend).1.contents ∧
      (left.recover config backend).2 = (right.recover config backend).2 := by
  have folds : ∀ (attempts : List ProgrammingAttemptRecord) (first second : Impl × Edit),
      first.1.contents = second.1.contents → first.2 = second.2 →
      (attempts.foldl (recoverAttempt config backend) first).1.contents =
          (attempts.foldl (recoverAttempt config backend) second).1.contents ∧
        (attempts.foldl (recoverAttempt config backend) first).2 =
          (attempts.foldl (recoverAttempt config backend) second).2 := by
    intro attempts
    induction attempts with
    | nil => exact fun _ _ same edits => ⟨same, edits⟩
    | cons attempt rest ih =>
        intro first second same edits
        obtain ⟨next, nextEdits⟩ := recoverAttempt_congr same edits attempt
        exact ih _ _ next nextEdits
  have attempts : left.attempts = right.attempts := congrArg Contents.attempts contents
  unfold recover
  rw [attempts]
  exact folds _ _ _ contents rfl

/-- Where every attempt is resolved there is nothing to recover. -/
theorem recover_nothing {backend : BackendId}
    (settled : ∀ (id : ProgrammingAttemptId) attempt, state.attempts[id]? = some attempt →
      attempt.resolved = true) :
    state.recover config backend = (state, {}) := by
  have each : ∀ attempts : List ProgrammingAttemptRecord, (∀ attempt ∈ attempts, attempt.resolved = true) →
      attempts.foldl (recoverAttempt config backend) (state, {}) = (state, {}) := by
    intro attempts resolved
    induction attempts with
    | nil => rfl
    | cons attempt rest ih =>
        rw [List.foldl_cons, recoverAttempt, if_pos (resolved attempt List.mem_cons_self)]
        exact ih fun other member => resolved other (List.mem_cons_of_mem _ member)
  apply each
  intro attempt member
  obtain ⟨id, found⟩ := (mem_values _ _).mp member
  exact settled id attempt found

/-! ## Opening again -/

/-- A process that opens the store its predecessor left, with the same backend, on a file
system on which reading and writing succeed. -/
structure Reopens (backend : BackendId) (call : Call) : Prop where
  restarts : ∃ seed, call.action = .restart seed
  backend : call.env.backend.id = backend
  reads : ∀ index, (call.env.io index).read = none
  truncates : ∀ index, (call.env.io index).truncate = none
  appends : ∀ index, (call.env.io index).append = none

/-- The contents that the recovery of a loaded state reaches. -/
def recoveredContents (config : RuntimeConfig) (backend : BackendId) (loaded : PersistedState) : Contents :=
  ((((fresh 0 {}).populate loaded).recover config backend).1).contents

/-- What the recovery of a loaded state writes. -/
def recoveryEdit (config : RuntimeConfig) (backend : BackendId) (loaded : PersistedState) : Edit :=
  (((fresh 0 {}).populate loaded).recover config backend).2

def recoveryEntry (config : RuntimeConfig) (backend : BackendId) (loaded : PersistedState) : JournalEntry :=
  (((fresh 0 {}).populate loaded).recover config backend).1.journalEntry
    (recoveryEdit config backend loaded)

/-- No process recovers a loaded state differently. -/
theorem recovery_eq (config : RuntimeConfig) (env : Env) (seed : Word) (files : StoreFiles)
    (loaded : PersistedState) :
    (recovery config env seed files loaded).1.contents = recoveredContents config env.backend.id loaded ∧
      (recovery config env seed files loaded).2 = recoveryEdit config env.backend.id loaded ∧
      (recovery config env seed files loaded).1.journalEntry (recovery config env seed files loaded).2 =
        recoveryEntry config env.backend.id loaded := by
  have same : ((fresh seed files).populate loaded).contents = ((fresh 0 {}).populate loaded).contents := by
    rw [populate_contents, populate_contents]
  obtain ⟨contents, edits⟩ := @recover_congr config env.backend.id _ _ same
  refine ⟨contents, edits, ?_⟩
  have epochs := congrArg Contents.epoch contents
  have policies := congrArg Contents.policyGeneration contents
  simp only [journalEntry, recoveryEntry, JournalEntry.mk.injEq]
  exact ⟨epochs, policies, congrArg Edit.upserts edits, congrArg Edit.revoked edits,
    congrArg Edit.attempts edits⟩

/-- The files and the contents between two openings: the next load gives the state that
was first loaded, or that state with its recovery replayed. -/
structure Settled (config : RuntimeConfig) (backend : BackendId) (base : PersistedState)
    (entries : List JournalEntry) (state : Impl) : Prop where
  opened : state.opened = true
  contents : state.contents =
    recoveredContents config backend (entries.foldl PersistedState.replay base)
  held : (∃ tail, StoreHolds config.limits state.files base entries tail) ∨
    StoreHolds config.limits state.files base
      (entries ++ [recoveryEntry config backend (entries.foldl PersistedState.replay base)]) []

theorem step_restart {call : Call} (restarts : call.action = .restart seed) :
    state.step config call = state.closed.afterOpen
      (((fresh seed state.files).openRuntime config call.env).1.fencedAs state.closed.fencedBoots
        state.closed.administrativeFences, ((fresh seed state.files).openRuntime config call.env).2) := by
  simp only [step, restarts]
  exact restart_eq config call.env seed state

/-- A restart whose `Open` succeeds. -/
theorem step_reopened {call : Call} (restarts : call.action = .restart seed) {recovered : Impl}
    {stored : StoreFiles}
    (opens : (fresh seed state.files).openRuntime config call.env =
      ({ recovered with files := stored, opened := true }, .ok ())) :
    (state.step config call).opened = true ∧ (state.step config call).contents = recovered.contents ∧
      (state.step config call).files = stored := by
  rw [step_restart restarts, opens]
  exact ⟨rfl, rfl, rfl⟩

/-- What opening a store that loads comes to, when there is nothing to write or it can be
written. -/
theorem openRuntime_opens (checked : checkConfig config = .ok ()) (journal : config.durability = .journal)
    (read : load config.limits (env.io 0) files = (after, .ok loaded)) {stored : StoreFiles}
    (saved : (recoveryEdit config env.backend.id loaded).upserts = [] ∧
        (recoveryEdit config env.backend.id loaded).attempts = [] ∧ stored = after ∨
      ¬ ((recoveryEdit config env.backend.id loaded).upserts = [] ∧
          (recoveryEdit config env.backend.id loaded).attempts = []) ∧
        appendJournal config.limits (env.io 1) after (recoveryEntry config env.backend.id loaded) =
          (stored, .ok ())) :
    (fresh seed files).openRuntime config env =
      ({ (recovery config env seed after loaded).1 with files := stored, opened := true }, .ok ()) := by
  have durable : config.durability ≠ .none := by simp [journal]
  have same : (recovery config env seed after loaded).1.files = after := recovery_files after loaded
  obtain ⟨-, edit, entry⟩ := recovery_eq config env seed after loaded
  rw [← edit, ← entry] at saved
  rw [openRuntime_eq checked durable read]
  unfold finishOpen
  change (if (recovery config env seed after loaded).2.upserts = [] ∧
    (recovery config env seed after loaded).2.attempts = [] then _ else _) = _
  rcases saved with ⟨noUpserts, noAttempts, rfl⟩ | ⟨something, written⟩
  · rw [if_pos ⟨noUpserts, noAttempts⟩]
    exact congrArg (fun files => ({ (recovery config env seed stored loaded).1 with
      files := files, opened := true }, Except.ok ())) same
  · rw [if_neg something]
    have persisted : persist config (env.io 1) (recovery config env seed after loaded).1
        (recovery config env seed after loaded).2 = (stored, .ok ()) := by
      simp only [persist, journal, same]
      exact written
    unfold recovery at persisted ⊢
    rw [persisted]

section Reopening

variable {base : PersistedState} {entries : List JournalEntry} {backend : BackendId}

/-- What recovery writes, when it writes at all, can be written and is read back. -/
structure Replayable (config : RuntimeConfig) (backend : BackendId) (loaded : PersistedState) : Prop where
  storable : (recoveryEntry config backend loaded).Storable config.limits
  measured : (recoveryEntry config backend loaded).body.Measured
  bounded : ¬ ((recoveryEdit config backend loaded).upserts = [] ∧
    (recoveryEdit config backend loaded).attempts = []) →
    (recoveryEntry config backend loaded).payload.length ≤ config.limits.maxPersistBytes

/-- Opening on files that give back the state that was first loaded recovers it again. -/
theorem settled_recovered {call : Call} (checked : checkConfig config = .ok ())
    (journal : config.durability = .journal) (reopens : Reopens backend call) {tail : Bytes}
    (replayable : Replayable config backend (entries.foldl PersistedState.replay base))
    (holds : StoreHolds config.limits state.files base entries tail) :
    Settled config backend base entries (state.step config call) := by
  obtain ⟨seed, restarts⟩ := reopens.restarts
  obtain ⟨after, read, kept⟩ := holds.load (reopens.reads 0) (reopens.truncates 0)
  obtain ⟨contents, -, -⟩ := recovery_eq config call.env seed after (entries.foldl PersistedState.replay base)
  rw [← reopens.backend] at replayable ⊢
  by_cases nothing :
      (recoveryEdit config call.env.backend.id (entries.foldl PersistedState.replay base)).upserts = [] ∧
        (recoveryEdit config call.env.backend.id (entries.foldl PersistedState.replay base)).attempts = []
  · obtain ⟨opened, same, files⟩ := step_reopened restarts
      (openRuntime_opens checked journal read (.inl ⟨nothing.1, nothing.2, rfl⟩))
    exact ⟨opened, same.trans contents, .inl ⟨[], files.symm ▸ kept⟩⟩
  · obtain ⟨stored, written⟩ :=
      appendJournal_succeeds (replayable.bounded nothing) (reopens.appends 1) after
    obtain ⟨opened, same, files⟩ := step_reopened restarts
      (openRuntime_opens checked journal read (.inr ⟨nothing, written⟩))
    refine ⟨opened, same.trans contents, ?_⟩
    rw [files]
    rcases kept.append replayable.storable replayable.measured written with whole | dropped
    · exact .inr whole
    · exact .inl ⟨_, dropped⟩

/-- Opening on files that hold the recovery of the state that was first loaded finds
nothing to recover. -/
theorem settled_replayed {call : Call} (checked : checkConfig config = .ok ())
    (journal : config.durability = .journal) (reopens : Reopens backend call)
    (first : Loads config env files after (entries.foldl PersistedState.replay base))
    (same : env.backend.id = backend)
    (holds : StoreHolds config.limits state.files base
      (entries ++ [recoveryEntry config backend (entries.foldl PersistedState.replay base)]) []) :
    Settled config backend base entries (state.step config call) := by
  obtain ⟨seed, restarts⟩ := reopens.restarts
  obtain ⟨kept, read, keptHolds⟩ := holds.load (reopens.reads 0) (reopens.truncates 0)
  rw [List.foldl_append, List.foldl_cons, List.foldl_nil] at read
  generalize found : entries.foldl PersistedState.replay base = loaded at *
  have recovered : Recovered _ _ _ := first.recovered 0
  obtain ⟨contents, -, entry⟩ := recovery_eq config env 0 after loaded
  rw [same] at contents entry
  have replayed : (loaded.replay (recoveryEntry config backend loaded)).contents =
      recoveredContents config backend loaded := by
    rw [(first.unique.replay _).2, ← entry, ← recovery_contents 0 first, contents]
  have populated : ((fresh seed kept).populate (loaded.replay (recoveryEntry config backend loaded))).contents =
      recoveredContents config backend loaded := by
    rw [populate_contents, replayed]
  have nothing : recovery config call.env seed kept (loaded.replay (recoveryEntry config backend loaded)) =
      ((fresh seed kept).populate (loaded.replay (recoveryEntry config backend loaded)), {}) := by
    apply recover_nothing
    have attempts := congrArg Contents.attempts (populated.trans contents.symm)
    intro id attempt held
    exact recovered.settled id attempt ((congrArg (fun map => map[id]?) attempts).symm.trans held)
  obtain ⟨-, edit, -⟩ := recovery_eq config call.env seed kept
    (loaded.replay (recoveryEntry config backend loaded))
  have noUpserts := congrArg Edit.upserts (edit.symm.trans (congrArg Prod.snd nothing))
  have noAttempts := congrArg Edit.attempts (edit.symm.trans (congrArg Prod.snd nothing))
  have opens := @openRuntime_opens config call.env seed state.files kept _ checked journal read kept
    (.inl ⟨noUpserts, noAttempts, rfl⟩)
  rw [nothing] at opens
  obtain ⟨opened, same, files⟩ := step_reopened restarts opens
  refine ⟨opened, ?_, .inr ?_⟩
  · rw [found]
    exact same.trans populated
  · rw [found, files]
    exact keptHolds

theorem Settled.reopen {call : Call} (checked : checkConfig config = .ok ())
    (journal : config.durability = .journal) (reopens : Reopens backend call)
    (first : Loads config env files after (entries.foldl PersistedState.replay base))
    (same : env.backend.id = backend)
    (replayable : Replayable config backend (entries.foldl PersistedState.replay base))
    (settled : Settled config backend base entries state) :
    Settled config backend base entries (state.step config call) := by
  rcases settled.held with ⟨tail, holds⟩ | holds
  · exact settled_recovered checked journal reopens replayable holds
  · exact settled_replayed checked journal reopens first same holds

/-- Opening again, any number of times, gives the same contents. -/
theorem Settled.reopens {calls : List Call} (checked : checkConfig config = .ok ())
    (journal : config.durability = .journal) (reopens : ∀ call ∈ calls, Reopens backend call)
    (first : Loads config env files after (entries.foldl PersistedState.replay base))
    (same : env.backend.id = backend)
    (replayable : Replayable config backend (entries.foldl PersistedState.replay base))
    (settled : Settled config backend base entries state) :
    Settled config backend base entries (run (step config) state calls) :=
  (along_of_mem reopens state).invariant
    (fun _ _ held reopens => held.reopen checked journal reopens first same replayable) settled

end Reopening

/-- What a successful `Open` on a store that loads leaves behind. -/
theorem openRuntime_recovers {opened : Impl} (journal : config.durability = .journal)
    (accepted : load config.limits (env.io 0) files = (after, .ok loaded))
    (succeeded : (fresh seed files).openRuntime config env = (opened, .ok ())) :
    checkConfig config = .ok () ∧ ∃ stored,
      opened = { (recovery config env seed after loaded).1 with files := stored, opened := true } ∧
      ((recoveryEdit config env.backend.id loaded).upserts = [] ∧
          (recoveryEdit config env.backend.id loaded).attempts = [] ∧ stored = after ∨
        ¬ ((recoveryEdit config env.backend.id loaded).upserts = [] ∧
            (recoveryEdit config env.backend.id loaded).attempts = []) ∧
          appendJournal config.limits (env.io 1) after (recoveryEntry config env.backend.id loaded) =
            (stored, .ok ())) := by
  have checked : checkConfig config = .ok () := by
    unfold openRuntime at succeeded
    rw [if_neg (by simp [fresh])] at succeeded
    split at succeeded
    · simp at succeeded
    · assumption
  have durable : config.durability ≠ .none := by simp [journal]
  have same : (recovery config env seed after loaded).1.files = after := recovery_files after loaded
  obtain ⟨-, edit, entry⟩ := recovery_eq config env seed after loaded
  refine ⟨checked, ?_⟩
  rw [openRuntime_eq checked durable accepted] at succeeded
  unfold finishOpen at succeeded
  change (if (recovery config env seed after loaded).2.upserts = [] ∧
    (recovery config env seed after loaded).2.attempts = [] then _ else _) = _ at succeeded
  rw [← entry, ← edit]
  split at succeeded
  · rename_i nothing
    obtain ⟨rfl, -⟩ := Prod.mk.inj succeeded
    refine ⟨after, ?_, .inl ⟨nothing.1, nothing.2, rfl⟩⟩
    exact congrArg (fun files => { (recovery config env seed after loaded).1 with
      files := files, opened := true }) same
  · rename_i something
    split at succeeded
    · simp at succeeded
    · rename_i stored written
      obtain ⟨rfl, -⟩ := Prod.mk.inj succeeded
      refine ⟨stored, rfl, .inr ⟨something, ?_⟩⟩
      change persist config (env.io 1) (recovery config env seed after loaded).1
        (recovery config env seed after loaded).2 = _ at written
      simpa only [persist, journal, same] using written

/-- What a recovery that succeeded wrote is read back or not found, if its counts fit
their words. -/
theorem recovery_replayable (accepted : load config.limits (env.io 0) files = (after, .ok loaded))
    (loads : Loads config env files after loaded) (checked : checkConfig config = .ok ())
    (backend : env.backend.id.isValid = true) (recoverable : loaded.Recoverable config.limits)
    (countable : (loaded.attempts.filter (·.resolved = false)).length < 2 ^ 32) {stored : StoreFiles}
    (saved : (recoveryEdit config env.backend.id loaded).upserts = [] ∧
        (recoveryEdit config env.backend.id loaded).attempts = [] ∧ stored = after ∨
      ¬ ((recoveryEdit config env.backend.id loaded).upserts = [] ∧
          (recoveryEdit config env.backend.id loaded).attempts = []) ∧
        appendJournal config.limits (env.io 1) after (recoveryEntry config env.backend.id loaded) =
          (stored, .ok ())) :
    Replayable config env.backend.id loaded := by
  have recovered : Recovered _ _ _ := loads.recovered 0
  have indexed : Indexed ((fresh 0 after).populate loaded) := loads.indexed
  obtain ⟨-, upserts, fewer⟩ := recover_exact config env.backend.id indexed
  have resolved := recovery_resolved_length loads 0
  rw [outstandingIds_card loads.unique] at resolved
  have storable := recovery_storable loads checked backend recoverable 0
  obtain ⟨-, edit, entry⟩ := recovery_eq config env 0 after loaded
  refine ⟨entry ▸ storable, entry ▸ ⟨?_, ?_, ?_, ?_, ?_⟩, ?_⟩
  · exact (fewer.trans resolved).trans_lt countable
  · intro updated member
    have stores := storable.body.routes updated member
    obtain ⟨record, attempt, found, -, -, rfl⟩ := upserts updated member
    rw [populate_routes] at found
    obtain ⟨inRoutes, -⟩ := lookup_index_some found
    exact recovered_measured (load_short accepted record inRoutes) stores
  · simp only [JournalEntry.body, journalEntry, recovered.unrevoked]
    exact Nat.two_pow_pos 32
  · simp only [JournalEntry.body, journalEntry, recovered.unrevoked]
    exact fun _ member => absurd member List.not_mem_nil
  · exact resolved.trans_lt countable
  · intro something
    rcases saved with ⟨noUpserts, noAttempts, -⟩ | ⟨-, written⟩
    · exact absurd ⟨noUpserts, noAttempts⟩ something
    · exact (appendJournal_ok written).1

/-! ## Before anybody registers -/

theorem perform_nobody {action : Action} (administers : action.administers = true)
    (unregistering : action.registers = false)
    (nobody : ∀ publisher : PublisherId, state.registrations[publisher]? = none) (publisher : PublisherId) :
    (state.perform config env action).registrations[publisher]? = none := by
  cases action with
  | register registering workerBoot scope => cases unregistering
  | fencePublisher fenced reason =>
      simp only [perform, fencePublisher_registrations]
      split
      · rfl
      · exact nobody publisher
  | fenceWorkerBoot workerBoot reason =>
      simp only [perform, fenceWorkerBoot]
      split
      · exact nobody publisher
      split
      · rw [Option.eq_none_iff_forall_ne_some]
        intro registration found
        obtain ⟨held, -⟩ := barPublisher_registrations found
        rw [nobody publisher] at held
        cases held
      · exact nobody publisher
  | clearFence cleared => exact nobody publisher
  | _ => cases administers

theorem step_unregistered {call : Call} (indexed : Indexed state) (unregistering : call.action.registers = false)
    (nobody : ∀ publisher : PublisherId, state.registrations[publisher]? = none) :
    ∀ publisher : PublisherId, (state.step config call).registrations[publisher]? = none := by
  refine step_preserves (motive := fun current => ∀ publisher : PublisherId,
    current.registrations[publisher]? = none) indexed nobody ?_ ?_
  · intro _ before after _ _ held move
    cases move with
    | draw ids => exact held
    | mutate unbroken ids index legal =>
        rename_i edit
        have frame : Frame { before with ids := ids } _ := acknowledge_frame config (call.env.io index) edit
        intro publisher
        rw [frame.registrations]
        exact held publisher
    | administer administers => exact perform_nobody administers unregistering nobody
    | save compacts => exact nobody
    | advance advances following saved => exact nobody
  · intro seed after _ restarts
    cases restarts with
    | refused | unsaved => exact fun publisher => by simp
    | opened checked loads saved => exact fun publisher => by simp [recovery_registrations loads]

/-- Where nobody is registered no record is current. -/
theorem not_current (nobody : ∀ publisher : PublisherId, state.registrations[publisher]? = none)
    (record : RouteRecord) : state.currentnessOf env record ≠ .current := by
  intro current
  obtain ⟨registration, registered, -⟩ := (currentnessOf_current current).registered
  rw [nobody] at registered
  cases registered

/-! ## Conservative recovery -/

/-- What `Open` makes of a store of any origin that loads, with the journal as its
durability. The loaded state is recovered conservatively; no record is current before a
publisher registers; and opening again gives the same routes, revocations and attempts, as
long as the number of attempts to resolve fits the count of a journal entry. -/
theorem open_conservative {opened : Impl} (journal : config.durability = .journal)
    (accepted : load config.limits (env.io 0) files = (after, .ok loaded))
    (recoverable : loaded.Recoverable config.limits) (backend : env.backend.id.isValid = true)
    (succeeded : (fresh seed files).openRuntime config env = (opened, .ok ())) :
    opened.Conservative loaded ∧
      (∀ calls : List Call, (∀ call ∈ calls, call.action.registers = false) →
        ∀ (env : Env) (id : RouteId) record, (run (step config) opened calls).routes[id]? = some record →
          (run (step config) opened calls).currentnessOf env record ≠ .current) ∧
      ((loaded.attempts.filter (·.resolved = false)).length < 2 ^ 32 →
        ∀ calls : List Call, (∀ call ∈ calls, Reopens env.backend.id call) →
          (run (step config) opened calls).opened = true ∧
            (run (step config) opened calls).routes = opened.routes ∧
            (run (step config) opened calls).revocations = opened.revocations ∧
            (run (step config) opened calls).attempts = opened.attempts) := by
  obtain ⟨checked, stored, made, saved⟩ := openRuntime_recovers journal accepted succeeded
  have loads : Loads config env files after loaded := .stored (by simp [journal]) accepted
  obtain ⟨contents, edit, entry⟩ := recovery_eq config env seed after loaded
  have held : opened.contents = recoveredContents config env.backend.id loaded := by
    have same : opened.contents = (recovery config env seed after loaded).1.contents := by rw [made]; rfl
    exact same.trans contents
  refine ⟨?_, ?_, ?_⟩
  · obtain ⟨interrupted, kept, routes, revocations, attempts, outstanding⟩ := recovery_conservative loads seed
    rw [made]
    exact ⟨interrupted, kept, routes, revocations, attempts, outstanding⟩
  · intro calls unregistering env id record _
    apply not_current
    have initially : Indexed opened ∧ ∀ publisher : PublisherId, opened.registrations[publisher]? = none := by
      rw [made]
      refine ⟨(recovery_indexed loads).congr rfl rfl rfl rfl, fun publisher => ?_⟩
      simp [recovery_registrations loads]
    have along : Along (step config) (fun _ call => call.action.registers = false) opened calls :=
      along_of_mem unregistering opened
    exact (along.invariant (motive := fun state => Indexed state ∧
        ∀ publisher : PublisherId, state.registrations[publisher]? = none)
      (fun _ call known quiet => ⟨known.1.step call, step_unregistered known.1 quiet known.2⟩) initially).2
  · intro countable calls reopens
    obtain ⟨base, entries, holds, rfl⟩ := load_holds accepted
    have replayable := recovery_replayable accepted loads checked backend recoverable countable saved
    have settled : Settled config env.backend.id base entries opened := by
      refine ⟨by rw [made], held, ?_⟩
      have files : opened.files = stored := by rw [made]
      rw [files]
      rcases saved with ⟨-, -, rfl⟩ | ⟨-, written⟩
      · exact .inl ⟨[], holds⟩
      · rcases holds.append replayable.storable replayable.measured written with whole | dropped
        · exact .inr whole
        · exact .inl ⟨_, dropped⟩
    have again := settled.reopens checked journal reopens loads rfl replayable
    have same := again.contents.trans held.symm
    exact ⟨again.opened, congrArg Contents.routes same, congrArg Contents.revocations same,
      congrArg Contents.attempts same⟩

end Impl

/-! ### A store whose last process ended during an installation -/

namespace Scenario

def journaling : RuntimeConfig := { config with durability := .journal }

/-- A route that waits for its first attempt. -/
def waiting : RouteRecord :=
  { Stored.record with
    lifecycle := .installing
    applied := { Stored.record.applied with classification := .pending } }

def unresolved : ProgrammingAttemptRecord :=
  { attempt := ⟨3⟩, route := ⟨5⟩, desiredGeneration := .one, programmingGeneration := .one,
    operation := .install, epoch := .one, resolved := false }

def interrupted : JournalEntry :=
  { epoch := .one, policyGeneration := .one, upserts := [waiting], revocations := [],
    attempts := [unresolved] }

def leftBehind : StoreFiles :=
  { journal := some (writeFrame journalEntryMagic interrupted.payload) }

theorem interrupted_recorded : interrupted.Recorded journaling.limits := by
  have read : RouteRecord.read journaling.limits waiting.write = .ok (waiting, []) := by decide +kernel
  have accepted : interrupted.body.Accepted journaling.limits := by
    refine ⟨by decide, by decide, by decide, ?_, ?_, ?_⟩
    · intro record member
      rw [List.mem_singleton.mp member]
      exact ⟨_, read⟩
    · exact fun _ member => absurd member List.not_mem_nil
    · intro record member
      rw [List.mem_singleton.mp member]
      exact ⟨_, rfl⟩
  have fits : interrupted.payload.length < 1024 := by decide +kernel
  have short : interrupted.payload.length < 2 ^ 32 := fits.trans (by decide)
  exact ⟨⟨CounterId.storable_one, CounterId.storable_one, accepted.storable (JournalEntry.measured short)⟩,
    fits.le.trans (by decide), short⟩

theorem leftBehind_holds : StoreHolds journaling.limits leftBehind {} [interrupted] [] where
  snapshot := fun _ _ => rfl
  journal := by simp [leftBehind, journalImage]
  recorded := by simpa using interrupted_recorded
  stops := nextFrame_nil

end Scenario

namespace Impl

/-- The route of the interrupted installation is reclaimed. -/
theorem open_conservative_interrupted :
    ∃ opened : Impl, (fresh 1 Scenario.leftBehind).openRuntime Scenario.journaling Scenario.env = (opened, .ok ()) ∧
      (({} : PersistedState).replay Scenario.interrupted).Interrupted Scenario.waiting ∧
      opened.Conservative (({} : PersistedState).replay Scenario.interrupted) := by
  obtain ⟨after, accepted, -⟩ := @StoreHolds.load _ (Scenario.env.io 0) _ _ _ _ Scenario.leftBehind_holds rfl rfl
  have bounded : (recoveryEntry Scenario.journaling Scenario.env.backend.id
      (({} : PersistedState).replay Scenario.interrupted)).payload.length ≤ 1024 := by decide +kernel
  obtain ⟨stored, written⟩ := @appendJournal_succeeds Scenario.journaling.limits (Scenario.env.io 1) _
    (bounded.trans (by decide)) rfl after
  have opens := @openRuntime_opens Scenario.journaling Scenario.env 1 Scenario.leftBehind after _ (by decide)
    rfl accepted stored (.inr ⟨by decide +kernel, written⟩)
  refine ⟨_, opens, ⟨.inl rfl, Scenario.unresolved, List.mem_singleton_self _, rfl, rfl, rfl⟩, ?_⟩
  refine (open_conservative rfl accepted ⟨by decide +kernel, by decide +kernel, ?_⟩ (by decide) opens).1
  intro attempt inAttempts record inRoutes _
  rw [List.mem_singleton.mp inAttempts, List.mem_singleton.mp inRoutes]
  decide

end Impl

end RouteFabric
