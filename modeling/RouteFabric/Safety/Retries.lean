import RouteFabric.Store.Absorption
import RouteFabric.Safety.Reopening

/-!
# Opening again after a failure

`Open` fills the maps, the indexes and the counter of outstanding programming before the write
that may fail, and does not clear them when it fails. The maps and the counter survive this:
what a later load gives covers what an earlier one left behind. The namespace counts do not:
every `Open` that gets as far as the indexes counts the loaded routes once more.
-/

namespace RouteFabric

open OrderedMap Run

/-- The maps, indexes and counters that `Open` builds. -/
structure Books where
  routes : Map RouteId RouteRecord
  keyIndex : Map RouteKey RouteId
  pathIndex : Map PathId (FinSet RouteId)
  publisherIndex : Map PublisherId (FinSet RouteId)
  lifecycleIndex : Map RouteLifecycle (FinSet RouteId)
  namespaceCounts : Map RoutingNamespace Nat
  attempts : Map ProgrammingAttemptId ProgrammingAttemptRecord
  revocations : Map RouteId RevocationRecord
  epoch : CoordinatorEpoch
  outstandingProgramming : Nat

namespace Impl

variable {config : RuntimeConfig} {env : Env} {seed : Word} {state left right : Impl}

def books (state : Impl) : Books where
  routes := state.routes
  keyIndex := state.keyIndex
  pathIndex := state.pathIndex
  publisherIndex := state.publisherIndex
  lifecycleIndex := state.lifecycleIndex
  namespaceCounts := state.namespaceCounts
  attempts := state.attempts
  revocations := state.revocations
  epoch := state.epoch
  outstandingProgramming := state.outstandingProgramming

/-! ## What the books determine -/

theorem indexInsert_books (same : left.books = right.books) (record : RouteRecord) :
    (left.indexInsert record).books = (right.indexInsert record).books := by
  simp only [books, Books.mk.injEq] at same
  simp only [indexInsert, books, same]

theorem commit_books (same : left.books = right.books) (record : RouteRecord) :
    (left.commit record).books = (right.commit record).books := by
  simp only [books, Books.mk.injEq] at same
  simp only [commit, same.1]
  cases right.routes[record.id]? <;> simp only [indexErase, indexInsert, books, same]

theorem resolveAttempt_books (same : left.books = right.books) (attempt : ProgrammingAttemptRecord) :
    (left.resolveAttempt attempt).books = (right.resolveAttempt attempt).books := by
  simp only [books, Books.mk.injEq] at same
  simp only [resolveAttempt, books, same]

theorem recoverAttempt_books {backend : BackendId} {first second : Impl × Edit}
    (same : first.1.books = second.1.books) (edits : first.2 = second.2)
    (attempt : ProgrammingAttemptRecord) :
    (recoverAttempt config backend first attempt).1.books =
        (recoverAttempt config backend second attempt).1.books ∧
      (recoverAttempt config backend first attempt).2 = (recoverAttempt config backend second attempt).2 := by
  have routes : first.1.routes = second.1.routes := congrArg Books.routes same
  unfold recoverAttempt
  split
  · exact ⟨same, edits⟩
  · simp only [routes]
    split
    · split
      · exact ⟨resolveAttempt_books (commit_books same _) _, by rw [edits]⟩
      · exact ⟨resolveAttempt_books same _, by rw [edits]⟩
    · exact ⟨resolveAttempt_books same _, by rw [edits]⟩

theorem recover_books {backend : BackendId} (same : left.books = right.books) :
    (left.recover config backend).1.books = (right.recover config backend).1.books ∧
      (left.recover config backend).2 = (right.recover config backend).2 := by
  have folds : ∀ (attempts : List ProgrammingAttemptRecord) (first second : Impl × Edit),
      first.1.books = second.1.books → first.2 = second.2 →
      (attempts.foldl (recoverAttempt config backend) first).1.books =
          (attempts.foldl (recoverAttempt config backend) second).1.books ∧
        (attempts.foldl (recoverAttempt config backend) first).2 =
          (attempts.foldl (recoverAttempt config backend) second).2 := by
    intro attempts
    induction attempts with
    | nil => exact fun _ _ agree edits => ⟨agree, edits⟩
    | cons attempt rest ih =>
        intro first second agree edits
        obtain ⟨next, nextEdits⟩ := recoverAttempt_books agree edits attempt
        exact ih _ _ next nextEdits
  have attempts : left.attempts = right.attempts := congrArg Books.attempts same
  unfold recover
  rw [attempts]
  exact folds _ _ _ same rfl

/-- The books after recovery, whether or not it could be saved. -/
theorem finishOpen_books (config : RuntimeConfig) (env : Env) (state : Impl) :
    (finishOpen config env state).1.books = (state.recover config env.backend.id).1.books := by
  unfold finishOpen
  simp only
  split
  · rfl
  · split <;> rfl

/-- What there is to save decides the outcome. -/
theorem finishOpen_persists {stored : StoreFiles} {status : Status}
    (something : ¬ ((state.recover config env.backend.id).2.upserts = [] ∧
      (state.recover config env.backend.id).2.attempts = []))
    (persisted : persist config (env.io 1) (state.recover config env.backend.id).1
      (state.recover config env.backend.id).2 = (stored, status)) :
    (finishOpen config env state).2 = status ∧ (finishOpen config env state).1.files = stored := by
  unfold finishOpen
  simp only
  rw [if_neg something, persisted]
  cases status with
  | error failure => exact ⟨rfl, rfl⟩
  | ok done => exact ⟨rfl, rfl⟩

/-! ## Attempts to open -/

/-- One attempt to open a runtime. -/
def tryOpen (config : RuntimeConfig) (env : Env) (state : Impl) : Impl := (state.openRuntime config env).1

/-- Opening a runtime fails. -/
def FailsToOpen (config : RuntimeConfig) (state : Impl) (env : Env) : Prop :=
  (state.openRuntime config env).2 ≠ .ok ()

/-! ## What a later load covers -/

/-- Whether a load finds every key that a runtime holds. -/
structure LoadCovers (loaded : PersistedState) (state : Impl) : Prop where
  routes : ∀ id ∈ state.routes, id ∈ loaded.routes.map (·.id)
  revocations : ∀ id ∈ state.revocations, id ∈ loaded.revocations.map (·.route)
  attempts : ∀ id ∈ state.attempts, id ∈ loaded.attempts.map (·.attempt)

/-- Entries that follow drop no key. -/
theorem LoadCovers.replays {loaded : PersistedState} (covers : LoadCovers loaded state) (entries : List JournalEntry) :
    LoadCovers (entries.foldl PersistedState.replay loaded) state where
  routes id held := by
    rw [foldl_replay_routes]
    exact mem_map_foldl_place (.inl (covers.routes id held))
  revocations id held := by
    rw [foldl_replay_revocations]
    exact mem_map_foldl_place (.inl (covers.revocations id held))
  attempts id held := by
    rw [foldl_replay_attempts]
    exact mem_map_foldl_place (.inl (covers.attempts id held))

/-- Where every key is loaded again nothing shows of what was there. -/
theorem foldl_insert_covered {α κ : Type} [Ord κ] [Std.TransOrd κ] [Std.LawfulEqOrd κ] [DecidableEq κ]
    {keyOf : α → κ} {items : List α} {map : Map κ α} (covered : ∀ key ∈ map, key ∈ items.map keyOf) :
    items.foldl (fun map item => map.insert (keyOf item) item) map = index keyOf items := by
  apply Std.ExtTreeMap.ext_getElem?
  intro key
  rw [index, lookup_foldl_insert, lookup_foldl_insert]
  cases found : items.reverse.find? fun item => decide (keyOf item = key) with
  | some item => rfl
  | none =>
      have unheld : key ∉ map := by
        intro held
        obtain ⟨item, member, same⟩ := List.mem_map.mp (covered key held)
        have different := List.find?_eq_none.mp found item (List.mem_reverse.mpr member)
        exact different (decide_eq_true same)
      rw [(not_mem_iff_lookup _ _).mp unheld]
      simp

theorem covers_fresh (loaded : PersistedState) (seed : Word) (files : StoreFiles) :
    LoadCovers loaded (fresh seed files) := ⟨by simp [fresh], by simp [fresh], by simp [fresh]⟩

/-- A runtime whose earlier attempts to open failed: what it holds is loaded again by any
load that succeeds, and nothing is outstanding. -/
structure Retried (config : RuntimeConfig) (state : Impl) : Prop where
  closed : state.opened = false
  idle : state.outstandingProgramming = 0
  covered : ∀ (io : IoOutcome) after loaded, load config.limits io state.files = (after, .ok loaded) →
    LoadCovers loaded state

theorem retried_fresh (config : RuntimeConfig) (seed : Word) (files : StoreFiles) :
    Retried config (fresh seed files) where
  closed := rfl
  idle := rfl
  covered _ _ loaded _ := covers_fresh loaded seed files

section Loading

variable {files after : StoreFiles} {loaded : PersistedState}

/-- The indexes aside, a load over a runtime that it covers leaves what it would leave on a
fresh one. -/
theorem populate_covered (covers : LoadCovers loaded state) (files : StoreFiles) :
    (populate { state with files := files } loaded).contents = loaded.contents ∧
      (populate { state with files := files } loaded).outstandingProgramming =
        state.outstandingProgramming + (loaded.attempts.filter (·.resolved = false)).length := by
  constructor
  · unfold populate
    rw [foldl_project contents indexInsert (fun _ _ => rfl)]
    simp only [Impl.contents, PersistedState.contents, foldl_insert_covered covers.routes,
      foldl_insert_covered covers.revocations, foldl_insert_covered covers.attempts]
  · unfold populate
    rw [foldl_project Impl.outstandingProgramming indexInsert (fun _ _ => rfl)]

/-- The recovery of a state that was loaded over what a runtime held. -/
def retry (config : RuntimeConfig) (env : Env) (state : Impl) (after : StoreFiles) (loaded : PersistedState) :
    Impl × Edit :=
  (populate { state with files := after } loaded).recover config env.backend.id

theorem retry_contents (covers : LoadCovers loaded state) :
    (retry config env state after loaded).1.contents = (recovery config env seed after loaded).1.contents := by
  refine (recover_congr ?_).1
  rw [populate_contents]
  exact (populate_covered covers after).1

theorem retry_frame : (retry config env state after loaded).1.opened = state.opened ∧
    (retry config env state after loaded).1.files = after := by
  constructor
  · rw [retry, (recover_frame).opened, populate, foldl_project Impl.opened indexInsert (fun _ _ => rfl)]
  · refine recover_induction config env.backend.id (motive := fun _ current _ => current.files = after) ?_ ?_ ?_ ?_
    · exact foldl_project Impl.files indexInsert (fun _ _ => rfl) _
    · exact fun _ _ _ _ same _ => same
    · exact fun _ _ _ _ _ _ _ same => same
    · exact fun _ _ _ _ _ _ _ _ _ same => (commit_files _).trans same

/-- A recovery holds no key that was not loaded. -/
theorem covers_retry (loads : Loads config env files after loaded) (covers : LoadCovers loaded state) :
    LoadCovers loaded (retry config env state after loaded).1 := by
  have same := @retry_contents config env 0 state after loaded covers
  have recovered : Recovered _ _ _ := loads.recovered 0
  have routes : (retry config env state after loaded).1.routes = _ := congrArg Contents.routes same
  have revocations : (retry config env state after loaded).1.revocations = _ := congrArg Contents.revocations same
  have attempts : (retry config env state after loaded).1.attempts = _ := congrArg Contents.attempts same
  refine ⟨fun id held => ?_, fun id held => ?_, fun id held => ?_⟩
  · obtain ⟨record, found⟩ := (mem_iff_lookup _ _).mp (routes ▸ held)
    obtain ⟨earlier, earlierFound, -⟩ := recovered.evidence id record found
    rw [populate_routes] at earlierFound
    obtain ⟨member, own⟩ := lookup_index_some earlierFound
    exact List.mem_map.mpr ⟨earlier, member, own⟩
  · obtain ⟨revocation, found⟩ := (mem_iff_lookup _ _).mp (revocations ▸ held)
    have kept : (recovery config env 0 after loaded).1.revocations = _ := recovered.revocations
    change (recovery config env 0 after loaded).1.revocations[id]? = some revocation at found
    rw [kept, populate_revocations] at found
    obtain ⟨member, own⟩ := lookup_index_some found
    exact List.mem_map.mpr ⟨revocation, member, own⟩
  · obtain ⟨attempt, found⟩ := (mem_iff_lookup _ _).mp (attempts ▸ held)
    obtain ⟨known, member, own, -⟩ := (recovery_attempts loads 0 id attempt).mp found
    exact List.mem_map.mpr ⟨known, member, own⟩

theorem retry_idle (loads : Loads config env files after loaded) (covers : LoadCovers loaded state)
    (idle : state.outstandingProgramming = 0) :
    (retry config env state after loaded).1.outstandingProgramming = 0 := by
  obtain ⟨contents, outstanding⟩ := populate_covered covers after
  have attempts : (populate { state with files := after } loaded).attempts = loaded.contents.attempts :=
    congrArg Contents.attempts contents
  have counted : (populate { state with files := after } loaded).CountsOutstanding := by
    unfold CountsOutstanding
    rw [outstanding, attempts, idle, Nat.zero_add, outstandingIds_card loads.unique]
  have recovered : (retry config env state after loaded).1.CountsOutstanding := counted.recover env.backend.id
  have same : (retry config env state after loaded).1.attempts = (recovery config env 0 after loaded).1.attempts :=
    congrArg Contents.attempts (retry_contents covers)
  rw [recovered, same, (recovery_outstanding loads 0).2, Finset.card_empty]

/-- A write that failed leaves the snapshot alone and adds bytes to the journal at most. -/
theorem persist_appends {io : IoOutcome} {edit : Edit} {failure : Error}
    (failed : state.persist config io edit = (after, .error failure)) :
    after.snapshot = state.files.snapshot ∧
      ∃ added, after.journal.getD [] = state.files.journal.getD [] ++ added := by
  unfold persist at failed
  split at failed
  · simp at failed
  · obtain rfl := saveSnapshot_error failed
    exact ⟨rfl, [], (List.append_nil _).symm⟩
  · exact appendJournal_error failed

/-- The two ways in which opening a closed runtime fails. -/
theorem openRuntime_fails (closed : state.opened = false) (checked : checkConfig config = .ok ())
    (durable : config.durability ≠ .none) (failed : FailsToOpen config state env) :
    ((∀ after loaded, load config.limits (env.io 0) state.files ≠ (after, .ok loaded)) ∧
        tryOpen config env state = state) ∨
      ∃ after loaded stored failure, load config.limits (env.io 0) state.files = (after, .ok loaded) ∧
        persist config (env.io 1) (retry config env state after loaded).1
          (retry config env state after loaded).2 = (stored, .error failure) ∧
        tryOpen config env state = { (retry config env state after loaded).1 with files := stored } := by
  unfold FailsToOpen openRuntime at failed
  unfold tryOpen openRuntime
  rw [if_neg (by simp [closed]), checked] at failed ⊢
  simp only [durable, if_false] at failed ⊢
  split
  · rename_i files failure unread
    obtain rfl := load_error unread
    left
    refine ⟨fun after loaded read => ?_, rfl⟩
    rw [read] at unread
    cases (Prod.mk.inj unread).2
  · rename_i after loaded read
    rw [read] at failed
    right
    unfold finishOpen at failed ⊢
    simp only at failed ⊢
    split at failed
    · exact absurd rfl failed
    rename_i something
    split at failed
    · rename_i stored failure unsaved
      refine ⟨after, loaded, stored, failure, read, unsaved, ?_⟩
      rw [if_neg something]
      rfl
    · exact absurd rfl failed

/-- An attempt that fails leaves a runtime that can try again. -/
theorem Retried.fails (retried : Retried config state) (checked : checkConfig config = .ok ())
    (durable : config.durability ≠ .none) (failed : FailsToOpen config state env) :
    Retried config (tryOpen config env state) := by
  rcases openRuntime_fails retried.closed checked durable failed with
    ⟨-, same⟩ | ⟨after, loaded, stored, failure, read, unsaved, same⟩
  · rw [same]
    exact retried
  · have covers := retried.covered _ _ _ read
    have loads : Loads config env state.files after loaded := .stored durable read
    obtain ⟨opened, files⟩ := @retry_frame config env state after loaded
    rw [same]
    refine ⟨opened.trans retried.closed, retry_idle loads covers retried.idle, ?_⟩
    intro io next again reread
    obtain ⟨base, entries, holds, whole⟩ := load_holds read
    obtain ⟨snapshot, added, journal⟩ := persist_appends unsaved
    rw [files] at snapshot journal
    obtain ⟨more, rest, extended⟩ := holds.extended snapshot journal
    have found := (extended.load_cut reread).1
    rw [List.foldl_append, ← whole] at found
    rw [found]
    obtain ⟨routes, revocations, attempts⟩ := (covers_retry loads covers).replays more
    exact ⟨routes, revocations, attempts⟩

/-- Opening a closed runtime on a store that loads. -/
theorem openRuntime_retry (closed : state.opened = false) (checked : checkConfig config = .ok ())
    (durable : config.durability ≠ .none)
    (read : load config.limits (env.io 0) state.files = (after, .ok loaded)) :
    state.openRuntime config env = finishOpen config env (populate { state with files := after } loaded) := by
  unfold openRuntime
  rw [if_neg (by simp [closed]), checked]
  simp only [durable, if_false, read]

theorem openRuntime_books (closed : state.opened = false) (checked : checkConfig config = .ok ())
    (durable : config.durability ≠ .none)
    (read : load config.limits (env.io 0) state.files = (after, .ok loaded)) :
    (state.openRuntime config env).1.books = (retry config env state after loaded).1.books := by
  rw [openRuntime_retry closed checked durable read]
  exact finishOpen_books config env _

/-- A retry writes what any process that recovers the loaded state writes. -/
theorem openRuntime_journals (closed : state.opened = false) (checked : checkConfig config = .ok ())
    (journal : config.durability = .journal)
    (read : load config.limits (env.io 0) state.files = (after, .ok loaded)) (covers : LoadCovers loaded state)
    (something : ¬ ((recoveryEdit config env.backend.id loaded).upserts = [] ∧
      (recoveryEdit config env.backend.id loaded).attempts = []))
    {stored : StoreFiles} {status : Status}
    (written : appendJournal config.limits (env.io 1) after (recoveryEntry config env.backend.id loaded) =
      (stored, status)) :
    (state.openRuntime config env).2 = status ∧ (state.openRuntime config env).1.files = stored := by
  have same : (populate { state with files := after } loaded).contents =
      ((fresh 0 {}).populate loaded).contents := by
    rw [populate_contents, (populate_covered covers after).1]
  obtain ⟨contents, edits⟩ := @recover_congr config env.backend.id _ _ same
  have entry : (retry config env state after loaded).1.journalEntry (retry config env state after loaded).2 =
      recoveryEntry config env.backend.id loaded := by
    simp only [journalEntry, recoveryEntry, JournalEntry.mk.injEq]
    exact ⟨congrArg Contents.epoch contents, congrArg Contents.policyGeneration contents,
      congrArg Edit.upserts edits, congrArg Edit.revoked edits, congrArg Edit.attempts edits⟩
  have persisted : persist config (env.io 1) (retry config env state after loaded).1
      (retry config env state after loaded).2 = (stored, status) := by
    simp only [persist, journal, entry, retry_frame.2]
    exact written
  rw [openRuntime_retry closed checked (by simp [journal]) read]
  exact finishOpen_persists (by rw [edits]; exact something) persisted

/-! ## Runtimes that indexed nothing yet -/

/-- No route was loaded yet. -/
structure Blank (state : Impl) : Prop where
  routes : state.routes = ∅
  keyIndex : state.keyIndex = ∅
  pathIndex : state.pathIndex = ∅
  publisherIndex : state.publisherIndex = ∅
  lifecycleIndex : state.lifecycleIndex = ∅
  namespaceCounts : state.namespaceCounts = ∅

theorem blank_fresh (seed : Word) (files : StoreFiles) : Blank (fresh seed files) := ⟨rfl, rfl, rfl, rfl, rfl, rfl⟩

theorem Blank.retry (blank : Blank state) (nothing : loaded.routes = []) :
    Blank (retry config env state after loaded).1 := by
  refine recover_induction config env.backend.id (motive := fun _ current _ => Blank current) ?_ ?_ ?_ ?_
  · have empty : values (∅ : Map RouteId RouteRecord) = [] := by
      apply List.eq_nil_of_length_eq_zero
      simp
    simp only [populate, nothing, List.foldl_nil, blank.routes, empty]
    exact ⟨rfl, blank.keyIndex, blank.pathIndex, blank.publisherIndex, blank.lifecycleIndex,
      blank.namespaceCounts⟩
  · exact fun _ _ _ _ held _ => held
  · exact fun _ _ _ _ _ _ _ held => ⟨held.routes, held.keyIndex, held.pathIndex, held.publisherIndex,
      held.lifecycleIndex, held.namespaceCounts⟩
  · intro _ current _ attempt record _ _ found _ held
    rw [held.routes] at found
    simp at found

/-- Over a runtime that indexed nothing a load builds the books of a fresh one. -/
theorem Blank.populate_books (blank : Blank state) (covers : LoadCovers loaded state)
    (idle : state.outstandingProgramming = 0) :
    (populate { state with files := after } loaded).books =
      (populate { fresh seed files with files := after } loaded).books := by
  have inserts : ∀ (records : List RouteRecord) (first second : Impl), first.books = second.books →
      (records.foldl indexInsert first).books = (records.foldl indexInsert second).books := by
    intro records
    induction records with
    | nil => exact fun _ _ same => same
    | cons record rest ih => exact fun _ _ same => ih _ _ (indexInsert_books same record)
  have initially := covers_fresh loaded seed files
  simp only [populate, foldl_insert_covered covers.routes, foldl_insert_covered covers.revocations,
    foldl_insert_covered covers.attempts, foldl_insert_covered initially.routes,
    foldl_insert_covered initially.revocations, foldl_insert_covered initially.attempts]
  apply inserts
  simp only [books, blank.keyIndex, blank.pathIndex, blank.publisherIndex, blank.lifecycleIndex,
    blank.namespaceCounts, idle, fresh]

/-! ## What is counted twice -/

/-- The number of routes that a runtime counts in a namespace. -/
def countIn (state : Impl) (routingNamespace : RoutingNamespace) : Nat :=
  state.namespaceCounts[routingNamespace]?.getD 0

variable {record : RouteRecord} {routingNamespace : RoutingNamespace}

theorem indexInsert_countIn : (state.indexInsert record).countIn routingNamespace =
    state.countIn routingNamespace + if record.key.routingNamespace = routingNamespace then 1 else 0 := by
  simp only [countIn, indexInsert, lookup_insert]
  split
  · rename_i same
    rw [same]
    rfl
  · rfl

theorem indexErase_countIn : (state.indexErase record).countIn routingNamespace =
    state.countIn routingNamespace - if record.key.routingNamespace = routingNamespace then 1 else 0 := by
  simp only [countIn, indexErase]
  by_cases same : record.key.routingNamespace = routingNamespace
  · subst same
    split
    · rename_i absent
      simp [absent]
    · rename_i count held
      split
      · rename_i last
        simp [held, last]
      · simp [held]
  · split
    · simp [same]
    · split <;> simp [same]

/-- A record that stays in its namespace is counted at least as often as before. -/
theorem commit_countIn (stays : ∀ existing, state.routes[record.id]? = some existing →
      existing.key.routingNamespace = record.key.routingNamespace) :
    state.countIn routingNamespace ≤ (state.commit record).countIn routingNamespace := by
  cases held : state.routes[record.id]? with
  | none =>
      have committed : (state.commit record).countIn routingNamespace =
          (state.indexInsert record).countIn routingNamespace := by
        simp only [commit, held]
        rfl
      rw [committed, indexInsert_countIn]
      exact Nat.le_add_right _ _
  | some existing =>
      have committed : (state.commit record).countIn routingNamespace =
          ((state.indexErase existing).indexInsert record).countIn routingNamespace := by
        simp only [commit, held]
        rfl
      rw [committed, indexInsert_countIn, indexErase_countIn, stays existing held]
      omega

theorem foldl_indexInsert_countIn (records : List RouteRecord) (state : Impl) :
    (records.foldl indexInsert state).countIn routingNamespace = state.countIn routingNamespace +
      records.countP (·.key.routingNamespace = routingNamespace) := by
  induction records generalizing state with
  | nil => rfl
  | cons record rest ih =>
      rw [List.foldl_cons, ih, indexInsert_countIn, List.countP_cons]
      simp only [decide_eq_true_eq]
      omega

theorem recover_countIn {backend : BackendId}
    (keyed : ∀ (id : RouteId) record, state.routes[id]? = some record → record.id = id) :
    state.countIn routingNamespace ≤ (state.recover config backend).1.countIn routingNamespace := by
  refine (recover_induction config backend (motive := fun _ current _ =>
    (∀ (id : RouteId) record, current.routes[id]? = some record → record.id = id) ∧
      state.countIn routingNamespace ≤ current.countIn routingNamespace) ⟨keyed, Nat.le_refl _⟩ ?_ ?_ ?_).2
  · exact fun _ _ _ _ held _ => held
  · exact fun _ _ _ _ _ _ _ held => held
  · rintro _ current _ attempt record - - found awaited ⟨own, counted⟩
    have evidence := RouteRecord.recovered_evidence awaited config.historyLimit backend
    constructor
    · intro id other lookup
      rw [resolveAttempt_routes, commit_routes, lookup_insert] at lookup
      split at lookup
      · rename_i same
        exact Option.some.inj lookup ▸ same
      · exact own id other lookup
    · refine counted.trans (commit_countIn fun existing held => ?_)
      rw [evidence.id, own _ _ found, found] at held
      rw [← Option.some.inj held, evidence.key]

/-- A load adds its routes to what is counted. -/
theorem populate_countIn (covers : LoadCovers loaded state) :
    (populate { state with files := after } loaded).countIn routingNamespace =
      state.countIn routingNamespace +
        ((fresh seed files).populate loaded).countIn routingNamespace := by
  have initially := covers_fresh loaded seed files
  simp only [populate, foldl_indexInsert_countIn, foldl_insert_covered covers.routes,
    foldl_insert_covered initially.routes]
  have none : countIn (fresh seed files) routingNamespace = 0 := by simp [countIn, fresh]
  change state.countIn routingNamespace + _ =
    state.countIn routingNamespace + (countIn (fresh seed files) routingNamespace + _)
  rw [none, Nat.zero_add]

theorem countIn_of_tallies {routes : Map RouteId RouteRecord} (tallies : Tallies state.namespaceCounts routes) :
    state.countIn routingNamespace = (namespaceIds routes routingNamespace).card := by
  rw [countIn, tallies routingNamespace]
  split
  · rename_i none
    exact none.symm
  · rfl

/-- A fresh runtime counts what it loaded, before and after recovery. -/
theorem recovery_countIn (loads : Loads config env files after loaded) :
    (recovery config env seed after loaded).1.countIn routingNamespace =
      ((fresh seed after).populate loaded).countIn routingNamespace := by
  have recovered : Recovered _ _ _ := loads.recovered seed
  rw [countIn_of_tallies (recovery_indexes loads).namespaces,
    countIn_of_tallies (populate_indexes loaded).namespaces]
  congr 1
  ext id
  simp only [namespaceIds, mem_keysWhere, decide_eq_true_eq]
  constructor
  · rintro ⟨record, found, belongs⟩
    obtain ⟨earlier, held, evidence⟩ := recovered.evidence id record found
    exact ⟨earlier, held, evidence.key ▸ belongs⟩
  · rintro ⟨record, found, belongs⟩
    obtain ⟨later, held⟩ := (mem_iff_lookup _ _).mp
      (recovered.present id ((mem_iff_lookup _ _).mpr ⟨record, found⟩))
    obtain ⟨earlier, same, evidence⟩ := recovered.evidence id later held
    obtain rfl := Option.some.inj (found.symm.trans same)
    exact ⟨later, held, evidence.key ▸ belongs⟩

/-- A retry counts what it loaded on top of what was counted. -/
theorem le_retry_countIn (covers : LoadCovers loaded state) (seed : Word) (files : StoreFiles)
    (routingNamespace : RoutingNamespace) :
    state.countIn routingNamespace + ((fresh seed files).populate loaded).countIn routingNamespace ≤
      (retry config env state after loaded).1.countIn routingNamespace := by
  rw [← populate_countIn covers]
  apply recover_countIn
  have routes : (populate { state with files := after } loaded).routes = loaded.contents.routes :=
    congrArg Contents.routes (populate_covered covers after).1
  intro id record found
  rw [routes] at found
  exact (lookup_index_some found).2

/-- A store with routes leaves some namespace counted. -/
theorem populate_countIn_pos (loads : Loads config env files after loaded) (seed : Word)
    (member : record ∈ loaded.routes) :
    0 < ((fresh seed after).populate loaded).countIn record.key.routingNamespace := by
  rw [countIn_of_tallies (populate_indexes loaded).namespaces, Finset.card_pos]
  refine ⟨record.id, mem_keysWhere.mpr ⟨record, ?_, by simp⟩⟩
  rw [populate_routes]
  exact lookup_index_of_mem loads.unique.routes member

end Loading

/-! ## Runs of attempts to open -/

/-- The store gives an attempt to open no routes: it does not load, or there are none. -/
def LoadsNoRoutes (config : RuntimeConfig) (state : Impl) (env : Env) : Prop :=
  ∀ after loaded, load config.limits (env.io 0) state.files = (after, .ok loaded) → loaded.routes = []

section Runs

variable (checked : checkConfig config = .ok ()) (durable : config.durability ≠ .none)

include checked durable

theorem tryOpen_blank (retried : Retried config state) (blank : Blank state) (failed : FailsToOpen config state env)
    (nothing : LoadsNoRoutes config state env) : Blank (tryOpen config env state) := by
  rcases openRuntime_fails retried.closed checked durable failed with
    ⟨-, same⟩ | ⟨after, loaded, stored, failure, read, -, same⟩
  · rw [same]
    exact blank
  · rw [same]
    obtain ⟨routes, keyIndex, pathIndex, publisherIndex, lifecycleIndex, namespaceCounts⟩ :=
      @Blank.retry config env state after loaded blank (nothing after loaded read)
    exact ⟨routes, keyIndex, pathIndex, publisherIndex, lifecycleIndex, namespaceCounts⟩

theorem le_tryOpen_countIn (retried : Retried config state) (failed : FailsToOpen config state env)
    (routingNamespace : RoutingNamespace) :
    state.countIn routingNamespace ≤ (tryOpen config env state).countIn routingNamespace := by
  rcases openRuntime_fails retried.closed checked durable failed with
    ⟨-, same⟩ | ⟨after, loaded, stored, failure, read, -, same⟩
  · rw [same]
  · have counted := @le_retry_countIn config env state after loaded (retried.covered _ _ _ read) 0 {}
      routingNamespace
    rw [same]
    exact (Nat.le_add_right _ _).trans counted

/-- An attempt that loaded routes and failed leaves some of them counted. -/
theorem tryOpen_counts (retried : Retried config state) (failed : FailsToOpen config state env)
    (something : ¬ LoadsNoRoutes config state env) :
    ∃ routingNamespace, 0 < (tryOpen config env state).countIn routingNamespace := by
  simp only [LoadsNoRoutes, not_forall] at something
  obtain ⟨after, loaded, read, nonempty⟩ := something
  obtain ⟨record, member⟩ := List.exists_mem_of_ne_nil _ nonempty
  have loads : Loads config env state.files after loaded := .stored durable read
  rcases openRuntime_fails retried.closed checked durable failed with
    ⟨unread, -⟩ | ⟨other, again, stored, failure, reread, -, same⟩
  · exact absurd read (unread after loaded)
  · obtain ⟨rfl, found⟩ := Prod.mk.inj (read.symm.trans reread)
    obtain rfl := Except.ok.inj found
    have counted := @le_retry_countIn config env state after loaded (retried.covered _ _ _ read) 0 after
      record.key.routingNamespace
    have positive := populate_countIn_pos loads 0 member
    refine ⟨record.key.routingNamespace, ?_⟩
    rw [same]
    change 0 < (retry config env state after loaded).1.countIn record.key.routingNamespace
    omega

/-- Unless no attempt loaded any route, a run of failed attempts leaves something counted. -/
theorem run_counts {failing : List Env} (retried : Retried config state)
    (failed : Along (tryOpen config) (FailsToOpen config) state failing)
    (something : ¬ Along (tryOpen config) (LoadsNoRoutes config) state failing) :
    ∃ routingNamespace, 0 < (run (tryOpen config) state failing).countIn routingNamespace := by
  induction failing generalizing state with
  | nil => exact absurd trivial something
  | cons env rest ih =>
      have next : Retried config (tryOpen config env state) := retried.fails checked durable failed.1
      by_cases first : LoadsNoRoutes config state env
      · exact ih next failed.2 fun later => something ⟨first, later⟩
      · obtain ⟨routingNamespace, positive⟩ := tryOpen_counts checked durable retried failed.1 first
        refine ⟨routingNamespace, ?_⟩
        exact (failed.2.invariant (motive := fun state => Retried config state ∧
            0 < state.countIn routingNamespace)
          (fun state env held fails => ⟨held.1.fails checked durable fails,
            held.2.trans_le (le_tryOpen_countIn checked durable held.1 fails routingNamespace)⟩)
          ⟨next, positive⟩).2

end Runs

theorem openRuntime_accepts (succeeded : (state.openRuntime config env).2 = .ok ()) :
    state.opened = false ∧ checkConfig config = .ok () := by
  unfold openRuntime at succeeded
  split at succeeded
  · simp at succeeded
  rename_i closed
  split at succeeded
  · cases succeeded
  · exact ⟨by simpa using closed, by assumption⟩

theorem openRuntime_reads (durable : config.durability ≠ .none)
    (succeeded : (state.openRuntime config env).2 = .ok ()) :
    ∃ after loaded, load config.limits (env.io 0) state.files = (after, .ok loaded) := by
  obtain ⟨closed, checked⟩ := openRuntime_accepts succeeded
  unfold openRuntime at succeeded
  rw [if_neg (by simp [closed]), checked] at succeeded
  simp only [durable, if_false] at succeeded
  split at succeeded
  · cases succeeded
  · rename_i after loaded read
    exact ⟨after, loaded, read⟩

/-- Without a store there is nothing to load, and opening succeeds at once. -/
theorem openRuntime_memory {files : StoreFiles} (checked : checkConfig config = .ok ())
    (memory : config.durability = .none) :
    (fresh seed files).openRuntime config env = ({ fresh seed files with opened := true }, .ok ()) := by
  have nothing : (fresh seed files).recover config env.backend.id = (fresh seed files, {}) :=
    recover_nothing fun id attempt found => by simp [fresh] at found
  unfold openRuntime
  rw [if_neg (by simp [fresh]), checked]
  simp only [memory, if_true, finishOpen, nothing, and_self]

/-- What an earlier attempt left counted is counted twice. -/
theorem retry_books_ne {after : StoreFiles} {loaded : PersistedState} {routingNamespace : RoutingNamespace}
    (durable : config.durability ≠ .none) (retried : Retried config state)
    (read : load config.limits (env.io 0) state.files = (after, .ok loaded))
    (positive : 0 < state.countIn routingNamespace) (seed : Word) :
    (retry config env state after loaded).1.books ≠ (recovery config env seed after loaded).1.books := by
  intro same
  have loads : Loads config env state.files after loaded := .stored durable read
  have counted := @le_retry_countIn config env state after loaded (retried.covered _ _ _ read) seed after
    routingNamespace
  have exactly := @recovery_countIn config env seed _ after loaded routingNamespace loads
  have counts : (retry config env state after loaded).1.countIn routingNamespace =
      (recovery config env seed after loaded).1.countIn routingNamespace :=
    congrArg (fun books : Books => books.namespaceCounts[routingNamespace]?.getD 0) same
  omega

/-- `Open` on a runtime whose earlier attempts failed builds what a fresh runtime builds
from the same files, exactly when none of these attempts had loaded a route. The routes
that an attempt loaded before it failed are counted in their namespaces once more by every
later one. -/
theorem open_retries_iff {files : StoreFiles} {failing : List Env} {other : Word}
    (failed : Along (tryOpen config) (FailsToOpen config) (fresh seed files) failing)
    (succeeded : ((run (tryOpen config) (fresh seed files) failing).openRuntime config env).2 = .ok ()) :
    ((run (tryOpen config) (fresh seed files) failing).openRuntime config env).1.books =
        ((fresh other (run (tryOpen config) (fresh seed files) failing).files).openRuntime config env).1.books ↔
      Along (tryOpen config) (LoadsNoRoutes config) (fresh seed files) failing := by
  obtain ⟨closed, checked⟩ := openRuntime_accepts succeeded
  by_cases durable : config.durability = .none
  · cases failing with
    | nil =>
        rw [run_nil, openRuntime_memory checked durable, openRuntime_memory checked durable]
        refine iff_of_true ?_ trivial
        simp only [books, fresh]
    | cons first rest =>
        refine absurd ?_ failed.1
        rw [openRuntime_memory checked durable]
  obtain ⟨after, loaded, read⟩ := openRuntime_reads durable succeeded
  have retried : Retried config (run (tryOpen config) (fresh seed files) failing) :=
    failed.invariant (fun _ _ held fails => held.fails checked durable fails) (retried_fresh config seed files)
  rw [openRuntime_books retried.closed checked durable read,
    @openRuntime_books config env (fresh other _) _ _ rfl checked durable read]
  constructor
  · intro same
    by_contra something
    obtain ⟨routingNamespace, positive⟩ :=
      run_counts checked durable (retried_fresh config seed files) failed something
    exact retry_books_ne durable retried read positive other same
  · intro nothing
    have blank : Retried config (run (tryOpen config) (fresh seed files) failing) ∧
        Blank (run (tryOpen config) (fresh seed files) failing) :=
      (failed.and nothing).invariant (motive := fun state => Retried config state ∧ Blank state)
        (fun _ _ held fails => ⟨held.1.fails checked durable fails.1,
          tryOpen_blank checked durable held.1 held.2 fails.1 fails.2⟩)
        ⟨retried_fresh config seed files, blank_fresh seed files⟩
    exact (recover_books (blank.2.populate_books (retried.covered _ _ _ read) retried.idle)).1

end Impl

/-! ### A store that cannot be read, or cannot be written, at first -/

namespace Scenario

def unreadable : Env := { env with io := fun _ => { read := some "input/output error" } }

/-- A file system without room for the recovery. -/
def unwritable : Env := { env with io := fun _ => { append := some (0, "no space left on device") } }

end Scenario

namespace Impl

/-- An attempt that could not read the store leaves nothing behind. -/
theorem open_retries_unreadable :
    FailsToOpen Scenario.journaling (fresh 1 Scenario.leftBehind) Scenario.unreadable ∧
      ((tryOpen Scenario.journaling Scenario.unreadable (fresh 1 Scenario.leftBehind)).openRuntime
        Scenario.journaling Scenario.env).2 = .ok () ∧
      ((tryOpen Scenario.journaling Scenario.unreadable (fresh 1 Scenario.leftBehind)).openRuntime
          Scenario.journaling Scenario.env).1.books =
        ((fresh 2 Scenario.leftBehind).openRuntime Scenario.journaling Scenario.env).1.books := by
  have failure : (fresh 1 Scenario.leftBehind).openRuntime Scenario.journaling Scenario.unreadable =
      (fresh 1 Scenario.leftBehind, makeError .persistenceFailure
        ("cannot read store journal: " ++ "input/output error")) := rfl
  have failed : FailsToOpen Scenario.journaling (fresh 1 Scenario.leftBehind) Scenario.unreadable := by
    rw [FailsToOpen, failure]
    exact nofun
  have same : tryOpen Scenario.journaling Scenario.unreadable (fresh 1 Scenario.leftBehind) =
      fresh 1 Scenario.leftBehind := congrArg Prod.fst failure
  obtain ⟨after, accepted, -⟩ := @StoreHolds.load _ (Scenario.env.io 0) _ _ _ _ Scenario.leftBehind_holds rfl rfl
  have bounded : (recoveryEntry Scenario.journaling Scenario.env.backend.id
      (({} : PersistedState).replay Scenario.interrupted)).payload.length ≤ 1024 := by decide +kernel
  obtain ⟨stored, written⟩ := @appendJournal_succeeds Scenario.journaling.limits (Scenario.env.io 1) _
    (bounded.trans (by decide)) rfl after
  have opens := @openRuntime_opens Scenario.journaling Scenario.env 1 Scenario.leftBehind after _ (by decide)
    rfl accepted stored (.inr ⟨by decide +kernel, written⟩)
  have succeeded : ((tryOpen Scenario.journaling Scenario.unreadable (fresh 1 Scenario.leftBehind)).openRuntime
      Scenario.journaling Scenario.env).2 = .ok () := by rw [same, opens]
  have retries := @open_retries_iff Scenario.journaling Scenario.env 1 Scenario.leftBehind [Scenario.unreadable] 2
    ⟨failed, trivial⟩ succeeded
  simp only [run_cons, run_nil, same] at retries
  refine ⟨failed, succeeded, ?_⟩
  rw [same]
  refine retries.mpr ⟨fun after loaded read => ?_, trivial⟩
  cases (Prod.mk.inj read).2

theorem recovery_fits : (recoveryEntry Scenario.journaling Scenario.env.backend.id
    (({} : PersistedState).replay Scenario.interrupted)).payload.length ≤
      Scenario.journaling.limits.maxPersistBytes := by
  have bounded : (recoveryEntry Scenario.journaling Scenario.env.backend.id
      (({} : PersistedState).replay Scenario.interrupted)).payload.length ≤ 1024 := by decide +kernel
  exact bounded.trans (by decide)

theorem recovery_something : ¬ ((recoveryEdit Scenario.journaling Scenario.env.backend.id
      (({} : PersistedState).replay Scenario.interrupted)).upserts = [] ∧
    (recoveryEdit Scenario.journaling Scenario.env.backend.id
      (({} : PersistedState).replay Scenario.interrupted)).attempts = []) := by decide +kernel

/-- A runtime that counted something opens the store, and so does a fresh one, but they do
not agree. -/
theorem open_again {tried : Impl} {routingNamespace : RoutingNamespace}
    (retried : Retried Scenario.journaling tried)
    (held : StoreHolds Scenario.journaling.limits tried.files {} [Scenario.interrupted] [])
    (positive : 0 < tried.countIn routingNamespace) :
    (tried.openRuntime Scenario.journaling Scenario.env).2 = .ok () ∧
      ((fresh 2 tried.files).openRuntime Scenario.journaling Scenario.env).2 = .ok () ∧
      (tried.openRuntime Scenario.journaling Scenario.env).1.books ≠
        ((fresh 2 tried.files).openRuntime Scenario.journaling Scenario.env).1.books := by
  have checked : checkConfig Scenario.journaling = .ok () := by decide
  have durable : Scenario.journaling.durability ≠ .none := by decide
  obtain ⟨after, read, -⟩ := @StoreHolds.load _ (Scenario.env.io 0) _ _ _ _ held rfl rfl
  obtain ⟨stored, written⟩ :=
    @appendJournal_succeeds Scenario.journaling.limits (Scenario.env.io 1) _ recovery_fits rfl after
  refine ⟨?_, ?_, ?_⟩
  · exact (openRuntime_journals retried.closed checked rfl read (retried.covered _ _ _ read) recovery_something
      written).1
  · exact (@openRuntime_journals Scenario.journaling Scenario.env (fresh 2 tried.files) after _ rfl checked rfl read
      (covers_fresh _ 2 _) recovery_something _ _ written).1
  · rw [openRuntime_books retried.closed checked durable read,
      @openRuntime_books Scenario.journaling Scenario.env (fresh 2 tried.files) after _ rfl checked durable read]
    exact retry_books_ne durable retried read positive 2

/-- The recovery of the store cannot be written at first. When it can, the second attempt
counts the route again. -/
theorem open_counts_again :
    FailsToOpen Scenario.journaling (fresh 1 Scenario.leftBehind) Scenario.unwritable ∧
      ((tryOpen Scenario.journaling Scenario.unwritable (fresh 1 Scenario.leftBehind)).openRuntime
        Scenario.journaling Scenario.env).2 = .ok () ∧
      ((fresh 2 (tryOpen Scenario.journaling Scenario.unwritable (fresh 1 Scenario.leftBehind)).files).openRuntime
        Scenario.journaling Scenario.env).2 = .ok () ∧
      ((tryOpen Scenario.journaling Scenario.unwritable (fresh 1 Scenario.leftBehind)).openRuntime
          Scenario.journaling Scenario.env).1.books ≠
        ((fresh 2 (tryOpen Scenario.journaling Scenario.unwritable (fresh 1 Scenario.leftBehind)).files).openRuntime
          Scenario.journaling Scenario.env).1.books := by
  have checked : checkConfig Scenario.journaling = .ok () := by decide
  have durable : Scenario.journaling.durability ≠ .none := by decide
  have initially := retried_fresh Scenario.journaling 1 Scenario.leftBehind
  obtain ⟨after, read, held⟩ := @StoreHolds.load _ (Scenario.unwritable.io 0) _ _ _ _ Scenario.leftBehind_holds rfl rfl
  -- Nothing of the recovery reaches the journal.
  obtain ⟨refused, files⟩ := openRuntime_journals initially.closed checked rfl read
    (initially.covered _ _ _ read) recovery_something (appendJournal_fails recovery_fits rfl after)
  have failed : FailsToOpen Scenario.journaling (fresh 1 Scenario.leftBehind) Scenario.unwritable := by
    rw [FailsToOpen, refused]
    exact nofun
  have left : StoreHolds Scenario.journaling.limits
      (tryOpen Scenario.journaling Scenario.unwritable (fresh 1 Scenario.leftBehind)).files {}
      [Scenario.interrupted] [] := by
    rw [tryOpen, files]
    exact ⟨held.snapshot, by simpa using held.journal, held.recorded, held.stops⟩
  have loaded : ¬ LoadsNoRoutes Scenario.journaling (fresh 1 Scenario.leftBehind) Scenario.unwritable :=
    fun nothing => absurd (nothing _ _ read) (by decide +kernel)
  obtain ⟨routingNamespace, positive⟩ := tryOpen_counts checked durable initially failed loaded
  exact ⟨failed, open_again (initially.fails checked durable failed) left positive⟩

end Impl

end RouteFabric
