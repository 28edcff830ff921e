import RouteFabric.Safety.Written
import RouteFabric.Safety.Failures
import RouteFabric.Safety.Indexes

/-!
# The routes a coordinator has room for

No operation creates a route when there is no room for one, so only a restart could bring
back more. What it loads are the routes of the files, and those are routes of the process
that wrote them when an append that fails leaves nothing behind: `Backed` says that the
files hold no other route, and no attempt without its route, at whichever entry the replay
of the journal stops.
-/

namespace RouteFabric

open OrderedMap Run

/-! ## The routes of a journal -/

def PersistedState.routeIds (state : PersistedState) : Set RouteId := {id | ∃ record ∈ state.routes, record.id = id}

def JournalEntry.routeIds (entry : JournalEntry) : Set RouteId := {id | ∃ record ∈ entry.upserts, record.id = id}

theorem upsertRoute_ids (routes : List RouteRecord) (record : RouteRecord) (id : RouteId) :
    (∃ held ∈ upsertRoute routes record, held.id = id) ↔ record.id = id ∨ ∃ held ∈ routes, held.id = id := by
  have ids := map_upsert (·.id) routes record
    (fun existing => decide (existing.generation.value ≤ record.generation.value))
  have mapped : ∀ list : List RouteRecord, (∃ held ∈ list, held.id = id) ↔ id ∈ list.map (·.id) := by
    intro list
    simp
  rw [mapped, mapped, upsertRoute, ids]
  split
  · rename_i known
    constructor
    · exact .inr
    · rintro (rfl | held)
      · exact known
      · exact held
  · simp only [List.mem_append, List.mem_singleton]
    rw [or_comm, eq_comm]

/-- Replaying an entry adds its routes and drops none. -/
theorem PersistedState.routeIds_replay (state : PersistedState) (entry : JournalEntry) :
    (state.replay entry).routeIds = state.routeIds ∪ entry.routeIds := by
  have folds : ∀ (upserts routes : List RouteRecord) (id : RouteId),
      (∃ held ∈ upserts.foldl upsertRoute routes, held.id = id) ↔
        (∃ held ∈ routes, held.id = id) ∨ ∃ record ∈ upserts, record.id = id := by
    intro upserts routes id
    induction upserts generalizing routes with
    | nil => simp
    | cons record rest ih =>
        rw [List.foldl_cons, ih, upsertRoute_ids]
        simp only [List.mem_cons, exists_eq_or_imp]
        rw [or_assoc, or_left_comm]
  ext id
  exact folds entry.upserts state.routes id

theorem PersistedState.routeIds_replays (state : PersistedState) (entries : List JournalEntry) :
    (entries.foldl PersistedState.replay state).routeIds =
      state.routeIds ∪ {id | ∃ entry ∈ entries, id ∈ entry.routeIds} := by
  induction entries generalizing state with
  | nil => simp
  | cons entry rest ih =>
      rw [List.foldl_cons, ih, PersistedState.routeIds_replay]
      ext id
      simp [or_assoc]

/-- Entries whose attempts name a route that is known by then. -/
def Rooted (known : Set RouteId) : List JournalEntry → Prop
  | [] => True
  | entry :: rest =>
      (∀ attempt ∈ entry.attempts, attempt.route ∈ known ∪ entry.routeIds) ∧
        Rooted (known ∪ entry.routeIds) rest

theorem Rooted.mono {known more : Set RouteId} {entries : List JournalEntry} (larger : known ⊆ more)
    (rooted : Rooted known entries) : Rooted more entries := by
  induction entries generalizing known more with
  | nil => trivial
  | cons entry rest ih =>
      have grows : known ∪ entry.routeIds ⊆ more ∪ entry.routeIds := Set.union_subset_union_left _ larger
      exact ⟨fun attempt member => grows (rooted.1 attempt member), ih grows rooted.2⟩

theorem rooted_append {known : Set RouteId} {first second : List JournalEntry} :
    Rooted known (first ++ second) ↔
      Rooted known first ∧ Rooted (known ∪ {id | ∃ entry ∈ first, id ∈ entry.routeIds}) second := by
  induction first generalizing known with
  | nil => simp [Rooted]
  | cons entry rest ih =>
      have same : known ∪ entry.routeIds ∪ {id | ∃ other ∈ rest, id ∈ other.routeIds} =
          known ∪ {id | ∃ other ∈ entry :: rest, id ∈ other.routeIds} := by
        ext id
        simp [or_assoc]
      rw [List.cons_append, Rooted, Rooted, ih, same, and_assoc]

/-- A state whose attempts all name one of its routes. -/
def PersistedState.Rooted (state : PersistedState) : Prop :=
  ∀ attempt ∈ state.attempts, attempt.route ∈ state.routeIds

theorem PersistedState.Rooted.replays {state : PersistedState} {entries : List JournalEntry}
    (based : state.Rooted) (rooted : RouteFabric.Rooted state.routeIds entries) :
    (entries.foldl PersistedState.replay state).Rooted := by
  induction entries generalizing state with
  | nil => exact based
  | cons entry rest ih =>
      refine ih ?_ (by rw [PersistedState.routeIds_replay]; exact rooted.2)
      intro attempt member
      rw [PersistedState.routeIds_replay]
      rcases PersistedState.mem_replay_attempts member with added | kept
      · exact rooted.1 attempt added
      · exact .inl (based attempt kept)

namespace Impl

variable {config : RuntimeConfig} {env : Env} {seed : Word} {origin state : Impl} {edit : Edit} {call : Call}
  {routes : Map RouteId RouteRecord} {base : Option PersistedState} {entries : List JournalEntry}
  {files : StoreFiles} {io : IoOutcome}

/-! ## Attempts and their routes -/

/-- Every attempt names a route. -/
def AttemptsNamed (state : Impl) : Prop :=
  ∀ (id : ProgrammingAttemptId) attempt, state.attempts[id]? = some attempt → attempt.route ∈ state.routes

theorem AttemptsNamed.congr {after : Impl} (named : AttemptsNamed state)
    (contents : after.contents = state.contents) : AttemptsNamed after := by
  have routes : after.routes = state.routes := congrArg Contents.routes contents
  have attempts : after.attempts = state.attempts := congrArg Contents.attempts contents
  intro id attempt found
  rw [attempts] at found
  rw [routes]
  exact named id attempt found

theorem mem_applyEdit_routes {id : RouteId} :
    id ∈ (state.applyEdit edit).routes ↔ (∃ record ∈ edit.upserts, record.id = id) ∨ id ∈ state.routes := by
  rw [applyEdit_routes]
  exact mem_foldl_insert

/-- An edit books attempts for routes that are there after it. -/
theorem Legal.names (indexed : Indexed origin) (legal : Legal config env origin call.action state edit)
    {attempt : ProgrammingAttemptRecord} (member : attempt ∈ edit.attempts) :
    attempt.route ∈ (state.applyEdit edit).routes := by
  rw [mem_applyEdit_routes]
  rcases legal.books indexed with none | ⟨updated, operation, booked, single, only, -, dispatched⟩ |
    ⟨booked, only, -, -, present⟩
  · rw [none] at member
    cases member
  · rw [only] at member
    obtain rfl := List.mem_singleton.mp member
    refine .inl ⟨updated, single ▸ List.mem_singleton_self updated, ?_⟩
    rw [dispatched.waits]
    rfl
  · rw [only] at member
    obtain rfl := List.mem_singleton.mp member
    exact .inr present

theorem AttemptsNamed.applyEdit (named : AttemptsNamed state)
    (edits : ∀ attempt ∈ edit.attempts, attempt.route ∈ (state.applyEdit edit).routes) :
    AttemptsNamed (state.applyEdit edit) := by
  intro id attempt found
  rw [applyEdit_attempts] at found
  rcases lookup_foldl_insert_some found with ⟨added, -⟩ | ⟨-, kept⟩
  · exact edits attempt added
  · rw [mem_applyEdit_routes]
    exact .inr (named id attempt kept)

/-- A store whose frames can be told apart: lengths fit their field, and an append that
fails leaves nothing behind. -/
structure AppendsWhole (config : RuntimeConfig) (call : Call) : Prop where
  small : config.limits.maxPersistBytes < 2 ^ 32
  whole : ∀ index written why, (call.env.io index).append = some (written, why) → written = 0

/-! ## The routes of the files -/

/-- Files that hold no route but the given ones, and no attempt without its route. -/
structure Backed (limits : Limits) (files : StoreFiles) (routes : Map RouteId RouteRecord)
    (base : Option PersistedState) (entries : List JournalEntry) : Prop where
  represents : Represents limits files base entries
  based : (base.getD {}).Rooted
  rooted : Rooted (base.getD {}).routeIds entries
  within : ∀ id ∈ (entries.foldl PersistedState.replay (base.getD {})).routeIds, id ∈ routes

/-- The files hold all the given routes. -/
def Covers (routes : Map RouteId RouteRecord) (base : Option PersistedState) (entries : List JournalEntry) :
    Prop :=
  ∀ id ∈ routes, id ∈ (entries.foldl PersistedState.replay (base.getD {})).routeIds

/-- The store, if there is one, holds the routes of the state and nothing else. -/
def Backing (config : RuntimeConfig) (state : Impl) : Prop :=
  config.durability ≠ .none → ∃ base entries, Backed config.limits state.files state.routes base entries ∧
    (state.opened = true → Covers state.routes base entries)

theorem mem_routeIds {saved : PersistedState} {id : RouteId} :
    id ∈ saved.routeIds ↔ id ∈ saved.contents.routes := by
  rw [PersistedState.contents, index, mem_foldl_insert]
  simp [PersistedState.routeIds]

/-- A snapshot of a state holds its routes, whatever the journal beside it still holds. -/
theorem Backed.save {saved : PersistedState} {left : List JournalEntry} (after : Impl)
    (backed : Backed config.limits files routes base entries) (kept : left = [] ∨ left = entries)
    (present : ∀ id ∈ routes, id ∈ after.routes) (named : AttemptsNamed after) (unique : saved.Unique)
    (same : saved.contents = after.contents)
    (represents : Represents config.limits after.files (some saved) left) :
    Backed config.limits after.files after.routes (some saved) left ∧ Covers after.routes (some saved) left := by
  have routes : saved.contents.routes = after.routes := congrArg Contents.routes same
  have attempts : saved.contents.attempts = after.attempts := congrArg Contents.attempts same
  have ids : ∀ id, id ∈ saved.routeIds ↔ id ∈ after.routes := by
    intro id
    rw [mem_routeIds, routes]
  have journaled : ∀ entry ∈ left, ∀ id ∈ entry.routeIds, id ∈ after.routes := by
    intro entry member id listed
    rcases kept with rfl | rfl
    · cases member
    · refine present id (backed.within id ?_)
      rw [PersistedState.routeIds_replays]
      exact .inr ⟨entry, member, listed⟩
  have based : saved.Rooted := by
    intro attempt member
    rw [ids]
    refine named attempt.attempt attempt ?_
    rw [← attempts]
    exact lookup_index_of_mem unique.attempts member
  have replayed : ∀ id, id ∈ (left.foldl PersistedState.replay ((some saved).getD {})).routeIds ↔
      id ∈ after.routes := by
    intro id
    rw [PersistedState.routeIds_replays]
    constructor
    · rintro (held | ⟨entry, member, listed⟩)
      · exact (ids id).mp held
      · exact journaled entry member id listed
    · exact fun held => .inl ((ids id).mpr held)
  refine ⟨⟨represents, based, ?_, fun id => (replayed id).mp⟩, fun id => (replayed id).mpr⟩
  rcases kept with rfl | rfl
  · trivial
  · refine backed.rooted.mono fun id held => (ids id).mpr (present id (backed.within id ?_))
    rw [PersistedState.routeIds_replays]
    exact .inl held

theorem Backed.append {entry : JournalEntry} (after : Impl)
    (backed : Backed config.limits files routes base entries) (covers : Covers routes base entries)
    (present : ∀ id, id ∈ after.routes ↔ id ∈ entry.routeIds ∨ id ∈ routes)
    (named : ∀ attempt ∈ entry.attempts, attempt.route ∈ after.routes)
    (represents : Represents config.limits after.files base (entries ++ [entry])) :
    Backed config.limits after.files after.routes base (entries ++ [entry]) ∧
      Covers after.routes base (entries ++ [entry]) := by
  have held : ∀ id, id ∈ (entries.foldl PersistedState.replay (base.getD {})).routeIds ↔ id ∈ routes :=
    fun id => ⟨backed.within id, covers id⟩
  have replayed : ∀ id, id ∈ ((entries ++ [entry]).foldl PersistedState.replay (base.getD {})).routeIds ↔
      id ∈ after.routes := by
    intro id
    rw [List.foldl_append, List.foldl_cons, List.foldl_nil, PersistedState.routeIds_replay, present]
    constructor
    · rintro (earlier | added)
      · exact .inr ((held id).mp earlier)
      · exact .inl added
    · rintro (added | earlier)
      · exact .inr added
      · exact .inl ((held id).mpr earlier)
  refine ⟨⟨represents, backed.based, ?_, fun id => (replayed id).mp⟩, fun id => (replayed id).mpr⟩
  rw [rooted_append, ← PersistedState.routeIds_replays]
  refine ⟨backed.rooted, fun attempt member => ?_, trivial⟩
  rw [← PersistedState.routeIds_replay]
  have known := (replayed _).mpr (named attempt member)
  rwa [List.foldl_append, List.foldl_cons, List.foldl_nil] at known

/-- What a write leaves in the files, when the state it is written from is in them. -/
theorem Backed.persist (backed : Backed config.limits state.files state.routes base entries)
    (covers : Covers state.routes base entries) (durable : config.durability ≠ .none)
    (indexed : Indexed state) (dated : Dated state) (named : AttemptsNamed (state.applyEdit edit))
    (edits : ∀ attempt ∈ edit.attempts, attempt.route ∈ (state.applyEdit edit).routes)
    (succeeded : state.persist config io edit = (files, .ok ())) :
    ∃ base entries, Backed config.limits files (state.applyEdit edit).routes base entries ∧
      Covers (state.applyEdit edit).routes base entries := by
  unfold Impl.persist at succeeded
  split at succeeded
  · rename_i memory
    exact absurd memory durable
  · obtain ⟨unique, same⟩ := mergedState_contents indexed edit
    have represents := backed.represents.save (mergedState_formed dated) succeeded
    refine ⟨_, _, backed.save { state.applyEdit edit with files := files } ?_ ?_ named unique same
      represents⟩
    · split
      · exact .inl rfl
      · exact .inr rfl
    · exact fun id present => mem_applyEdit_routes.mpr (.inr present)
  · have represents := backed.represents.append (journalEntry_formed dated) succeeded
    exact ⟨_, _, backed.append { state.applyEdit edit with files := files } covers
      (fun id => mem_applyEdit_routes) edits represents⟩

theorem Backed.persist_failed {failure : Error} (backed : Backed config.limits state.files routes base entries)
    (whole : ∀ written why, io.append = some (written, why) → written = 0)
    (failed : state.persist config io edit = (files, .error failure)) :
    Backed config.limits files routes base entries := by
  refine ⟨?_, backed.based, backed.rooted, backed.within⟩
  unfold Impl.persist at failed
  split at failed
  · simp at failed
  · rw [saveSnapshot_error failed]
    exact backed.represents
  · exact backed.represents.append_failed whole failed

theorem Backed.compactStore (backed : Backed config.limits state.files state.routes base entries)
    (covers : Covers state.routes base entries) (indexed : Indexed state) (dated : Dated state)
    (named : AttemptsNamed state) (succeeded : state.compactStore config io = (files, .ok ())) :
    ∃ base entries, Backed config.limits files state.routes base entries ∧ Covers state.routes base entries := by
  unfold Impl.compactStore at succeeded
  split at succeeded
  · obtain ⟨rfl, -⟩ := Prod.mk.inj succeeded
    exact ⟨base, entries, backed, covers⟩
  · obtain ⟨unique, same⟩ := collectState_contents indexed
    have represents := backed.represents.save (collectState_formed dated) succeeded
    refine ⟨_, _, backed.save { state with files := files } ?_ (fun _ present => present) named unique same
      represents⟩
    split
    · exact .inl rfl
    · exact .inr rfl

/-! ## Moves and restarts -/

/-- A state within its limits, on files that hold its routes. -/
structure Housed (config : RuntimeConfig) (state : Impl) : Prop where
  room : state.routes.size ≤ config.limits.maxRoutes
  named : AttemptsNamed state
  dated : Dated state
  backing : Backing config state

theorem Housed.move {before after : Impl} (indexed : Indexed origin)
    (appends : config.durability ≠ .none → AppendsWhole config call) (housed : Housed config origin)
    (takes : origin.takes call.action = true) (same : before.opened = origin.opened)
    (heldIndexed : Indexed before) (held : Housed config before) (move : Move config call.env origin call.action before after) :
    Housed config after := by
  have dated := housed.dated.move held.dated move
  cases move with
  | draw ids => exact ⟨held.room, held.named, dated, held.backing⟩
  | mutate unbroken ids index legal =>
      rename_i edit
      have names : ∀ attempt ∈ edit.attempts, attempt.route ∈ (before.applyEdit edit).routes :=
        fun attempt member => legal.names indexed member
      have named := held.named.applyEdit names
      have room := legal.count indexed held.room
      rcases acknowledge_cases config (call.env.io index) { before with ids := ids } edit with
        ⟨files, succeeded, applied⟩ | ⟨files, failure, failed, refused⟩
      · rw [applied] at dated ⊢
        have contents : (applyEdit { before with ids := ids, files := files } edit).contents =
            (before.applyEdit edit).contents := applyEdit_contents_congr (by rfl) edit
        have routes : (applyEdit { before with ids := ids, files := files } edit).routes =
            (before.applyEdit edit).routes := congrArg Contents.routes contents
        refine ⟨routes ▸ room, named.congr contents, dated, fun durable => ?_⟩
        obtain ⟨base, entries, backed, covers⟩ := held.backing durable
        rw [routes, applyEdit_files]
        have drawn : Indexed { before with ids := ids } := heldIndexed.congr rfl rfl rfl rfl
        have merged : (applyEdit { before with ids := ids } edit).contents = (before.applyEdit edit).contents :=
          applyEdit_contents_congr (by rfl) edit
        have drawnRoutes : (applyEdit { before with ids := ids } edit).routes =
            (before.applyEdit edit).routes := congrArg Contents.routes merged
        have backed : Backed config.limits { before with ids := ids }.files { before with ids := ids }.routes
            base entries := backed
        obtain ⟨base', entries', backed', covers'⟩ := backed.persist
          (covers (same.trans (legal.opened takes))) durable drawn
          (held.dated.congr rfl rfl) (named.congr merged) (drawnRoutes ▸ names) succeeded
        exact ⟨base', entries', drawnRoutes ▸ backed', fun _ => drawnRoutes ▸ covers'⟩
      · rw [refused] at dated ⊢
        refine ⟨held.room, held.named, dated, fun durable => ?_⟩
        obtain ⟨base, entries, backed, covers⟩ := held.backing durable
        have backed : Backed config.limits { before with ids := ids }.files before.routes base entries := backed
        exact ⟨base, entries, backed.persist_failed ((appends durable).whole index) failed, covers⟩
  | administer administers =>
      have administered : Administered origin (origin.perform config call.env call.action) :=
        perform_administered administers
      refine ⟨administered.routes ▸ housed.room, housed.named.congr administered.contents, dated,
        fun durable => ?_⟩
      obtain ⟨base, entries, backed, covers⟩ := housed.backing durable
      rw [administered.routes, administered.files]
      exact ⟨base, entries, backed, fun opened => covers (administered.opened.symm.trans opened)⟩
  | save compacts =>
      have opened := opened_of_takes takes (by rw [compacts]; rfl)
      refine ⟨housed.room, housed.named, dated, fun durable => ?_⟩
      obtain ⟨base, entries, backed, covers⟩ := housed.backing durable
      cases saved : origin.compactStore config (call.env.io 0) with
      | mk files result =>
          cases result with
          | error failure =>
              rw [compactStore_error saved]
              exact ⟨base, entries, backed, covers⟩
          | ok _ =>
              obtain ⟨base', entries', backed', covers'⟩ :=
                backed.compactStore (covers opened) indexed housed.dated housed.named saved
              exact ⟨base', entries', backed', fun _ => covers'⟩
  | advance advances following saved =>
      have opened := opened_of_takes takes (by rw [advances]; rfl)
      refine ⟨housed.room, housed.named, dated, fun durable => ?_⟩
      obtain ⟨base, entries, backed, covers⟩ := housed.backing durable
      rename_i next files
      have advanced : Indexed { origin with epoch := next } := indexed.congr rfl rfl rfl rfl
      have backed : Backed config.limits { origin with epoch := next }.files { origin with epoch := next }.routes
          base entries := backed
      obtain ⟨base', entries', backed', covers'⟩ := backed.compactStore (covers opened) advanced
        (housed.dated.advance following) housed.named saved
      exact ⟨base', entries', backed', fun _ => covers'⟩

section Recovery

variable {after : StoreFiles} {loaded : PersistedState}

theorem recovery_present (loads : Loads config env files after loaded) (seed : Word) (id : RouteId) :
    id ∈ (recovery config env seed after loaded).1.routes ↔ id ∈ loaded.routeIds := by
  have recovered : Recovered _ _ _ := loads.recovered seed
  rw [mem_routeIds]
  have populated : ((fresh seed after).populate loaded).routes = loaded.contents.routes := populate_routes loaded
  constructor
  · intro member
    obtain ⟨record, found⟩ := (mem_iff_lookup _ _).mp member
    obtain ⟨earlier, held, -⟩ := recovered.evidence id record found
    exact populated ▸ (mem_iff_lookup _ _).mpr ⟨earlier, held⟩
  · intro member
    exact recovered.present id (populated ▸ member)

/-- Recovery resolves attempts and leaves their routes. -/
theorem recovery_named (loads : Loads config env files after loaded) (seed : Word) (rooted : loaded.Rooted) :
    AttemptsNamed (recovery config env seed after loaded).1 ∧
      ∀ attempt ∈ (recovery config env seed after loaded).2.attempts,
        attempt.route ∈ (recovery config env seed after loaded).1.routes := by
  have recovered : Recovered _ _ _ := loads.recovered seed
  have held : ∀ (id : ProgrammingAttemptId) attempt,
      ((fresh seed after).populate loaded).attempts[id]? = some attempt →
        attempt.route ∈ (recovery config env seed after loaded).1.routes := by
    intro id attempt found
    rw [populate_attempts] at found
    exact (recovery_present loads seed _).mpr (rooted attempt (lookup_index_some found).1)
  have resolved : ∀ attempt ∈ (recovery config env seed after loaded).2.attempts,
      attempt.route ∈ (recovery config env seed after loaded).1.routes := by
    intro attempt member
    obtain ⟨known, found, -, same⟩ := recovered.resolves attempt member
    rw [same]
    exact held _ known found
  refine ⟨fun id attempt found => ?_, resolved⟩
  rw [recovered.attempts] at found
  rcases lookup_foldl_insert_some found with ⟨added, -⟩ | ⟨-, kept⟩
  · exact resolved attempt added
  · exact held id attempt kept

/-- What a restart finds in files that hold the routes of a state. -/
theorem Backed.loads (backed : Backed config.limits state.files state.routes base entries)
    (small : config.limits.maxPersistBytes < 2 ^ 32) (durable : config.durability ≠ .none)
    (loads : Loads config env state.files after loaded) :
    loaded.Rooted ∧ (∀ id ∈ loaded.routeIds, id ∈ state.routes) ∧
      ∃ kept, Represents config.limits after base kept ∧ Rooted (base.getD {}).routeIds kept ∧
        loaded = kept.foldl PersistedState.replay (base.getD {}) := by
  obtain ⟨kept, dropped, rfl, -, represents, rfl⟩ := loads.kept small durable backed.represents
  have rooted := (rooted_append.mp backed.rooted).1
  refine ⟨backed.based.replays rooted, fun id held => backed.within id ?_, kept, represents, rooted, rfl⟩
  rw [PersistedState.routeIds_replays] at held ⊢
  rcases held with based | ⟨entry, member, listed⟩
  · exact .inl based
  · exact .inr ⟨entry, List.mem_append_left _ member, listed⟩

end Recovery

theorem Housed.restart {after : Impl} (appends : config.durability ≠ .none → AppendsWhole config call)
    (housed : Housed config state) (restarts : Restarts config call.env seed state after) :
    Housed config after := by
  have dated := housed.dated.restart restarts
  cases restarts with
  | refused =>
      refine ⟨housed.room, housed.named, dated, fun durable => ?_⟩
      obtain ⟨base, entries, backed, -⟩ := housed.backing durable
      exact ⟨base, entries, backed, nofun⟩
  | unsaved loads failed =>
      rename_i files loaded stored failure
      refine ⟨housed.room, housed.named, dated, fun durable => ?_⟩
      obtain ⟨base, entries, backed, -⟩ := housed.backing durable
      obtain ⟨-, within, kept, represents, rooted, replayed⟩ :=
        backed.loads (appends durable).small durable loads
      have left : Backed config.limits (recovery config call.env seed files loaded).1.files state.routes
          base kept := by
        rw [recovery_files]
        exact ⟨represents, backed.based, rooted, replayed ▸ within⟩
      exact ⟨base, kept, left.persist_failed ((appends durable).whole 1) failed, nofun⟩
  | opened checked loads saved =>
      rename_i files loaded stored
      by_cases durable : config.durability = .none
      · -- Without a store nothing is loaded.
        cases loads with
        | stored durable' read => exact absurd durable durable'
        | nothing memory =>
            have nothing : Loads config call.env state.files state.files {} := .nothing memory
            have empty : ∀ id, id ∉ (recovery config call.env seed state.files {}).1.routes := by
              intro id member
              obtain ⟨record, listed, -⟩ := (recovery_present nothing seed id).mp member
              cases listed
            have none : (recovery config call.env seed state.files {}).1.routes.size ≤
                (∅ : Map RouteId RouteRecord).size := size_le_size fun id member => absurd member (empty id)
            obtain ⟨named, -⟩ := recovery_named nothing seed nofun
            exact ⟨none.trans (Nat.zero_le _), named, dated, fun durable' => absurd durable durable'⟩
      · obtain ⟨base, entries, backed, -⟩ := housed.backing durable
        obtain ⟨based, within, kept, represents, rooted, replayed⟩ :=
          backed.loads (appends durable).small durable loads
        have present := recovery_present loads seed
        obtain ⟨named, edits⟩ := recovery_named loads seed based
        have smaller : (recovery config call.env seed files loaded).1.routes.size ≤ state.routes.size :=
          size_le_size fun id member => within id ((present id).mp member)
        refine ⟨smaller.trans housed.room, named, dated, fun _ => ?_⟩
        have left : Backed config.limits (recovery config call.env seed files loaded).1.files
            (recovery config call.env seed files loaded).1.routes base kept := by
          rw [recovery_files]
          exact ⟨represents, backed.based, rooted, fun id held => (present id).mpr (replayed ▸ held)⟩
        have covers : Covers (recovery config call.env seed files loaded).1.routes base kept :=
          fun id held => replayed ▸ (present id).mp held
        rcases saved with ⟨-, -, rfl⟩ | succeeded
        · rw [recovery_files] at left
          exact ⟨base, kept, left, fun _ => covers⟩
        · have same : (applyEdit (recovery config call.env seed files loaded).1 _).contents = _ :=
            recovery_merged loads
          have routes : (applyEdit _ (recovery config call.env seed files loaded).2).routes =
              (recovery config call.env seed files loaded).1.routes := congrArg Contents.routes same
          obtain ⟨base', entries', backed', covers'⟩ := left.persist covers durable (recovery_indexed loads)
            loads.dated (named.congr same) (routes.symm ▸ edits) succeeded
          rw [routes] at backed' covers'
          exact ⟨base', entries', backed', fun _ => covers'⟩

/-! ## Runs -/

/-- A call that leaves the books in order: it draws the identity of no unresolved attempt,
and an append that fails leaves nothing in the journal. -/
structure KeepsBooks (config : RuntimeConfig) (state : Impl) (call : Call) : Prop where
  unpending : state.drawsUnpending call = true
  appends : config.durability ≠ .none → AppendsWhole config call

theorem initial_bookkept (limits : Limits) (seed : Word) : Bookkept limits (initial seed) := by
  have none : outstandingIds (initial seed).attempts = ∅ := by
    ext id
    simp [mem_outstandingIds, initial, fresh]
  refine ⟨fresh_indexes seed {}, ?_, Nat.zero_le _⟩
  unfold CountsOutstanding
  rw [none]
  rfl

theorem initial_housed (config : RuntimeConfig) (seed : Word) : Housed config (initial seed) := by
  refine ⟨Nat.zero_le _, ?_, initial_dated seed, fun _ => ⟨none, [], ?_, ?_⟩⟩
  · intro id attempt found
    simp [initial, fresh] at found
  · refine ⟨⟨rfl, rfl, by simp, by simp⟩, ?_, trivial, by simp [PersistedState.routeIds]⟩
    intro attempt listed
    cases listed
  · intro opened
    cases opened

/-- In every run whose calls keep the books, the indexes list exactly the records they are
about, the namespaces and the outstanding attempts are counted exactly, every attempt
names a route, and there are no more routes and outstanding attempts than allowed. -/
theorem run_books {calls : List Call}
    (along : Along (step config) (KeepsBooks config) (initial seed) calls) :
    Bookkept config.limits (run (step config) (initial seed) calls) ∧
      AttemptsNamed (run (step config) (initial seed) calls) ∧
      (run (step config) (initial seed) calls).routes.size ≤ config.limits.maxRoutes := by
  have held := run_preserves (motive := fun state => Bookkept config.limits state ∧ Housed config state) along
    ⟨initial_bookkept config.limits seed, initial_housed config seed⟩ (by
    rintro state call indexed ⟨unpending, appends⟩ ⟨kept, housed⟩
    refine step_preserves (motive := fun state => Bookkept config.limits state ∧ Housed config state) indexed
      ⟨kept, housed⟩ ?_ ?_
    · rintro takes before after same heldIndexed ⟨heldKept, heldHoused⟩ move
      exact ⟨kept.move indexed unpending heldIndexed heldKept move,
        housed.move indexed appends takes same heldIndexed heldHoused move⟩
    · intro seed after action restarts
      exact ⟨kept.restart restarts, housed.restart appends restarts⟩)
  exact ⟨held.2.1, held.2.2.named, held.2.2.room⟩

/-- A route is published, its path invalidated, the store compacted and the route retired. -/
theorem run_books_compacted :
    Bookkept Scenario.journaled.limits (run (step Scenario.journaled) (initial 0) Scenario.stored) ∧
      AttemptsNamed (run (step Scenario.journaled) (initial 0) Scenario.stored) ∧
      (run (step Scenario.journaled) (initial 0) Scenario.stored).routes.size ≤
        Scenario.journaled.limits.maxRoutes := by
  have unpending : Along (step Scenario.journaled) (fun state call => state.drawsUnpending call = true)
      (initial 0) Scenario.stored := by decide +kernel
  have readable : Along (step Scenario.journaled) (KeepsReadable Scenario.journaled) (initial 0)
      Scenario.stored := by
    refine along_keepsReadable (by decide) ?_ (by decide +kernel)
    simp [Scenario.stored, Scenario.invalidated, Scenario.opening, Scenario.env]
  exact run_books ((unpending.and readable).mono fun _ _ keeps =>
    ⟨keeps.1, fun _ => ⟨keeps.2.small, fun index => (keeps.2.clean index).append⟩⟩)

/-! ## An append that fails and leaves its frame -/

/-- A publication of a new key that gets as far as the store. -/
structure Writes (config : RuntimeConfig) (env : Env) (state : Impl) (request : PublishRequest) : Prop where
  authorized : (state.publishAuthority request).isOk = true
  unknown : (state.lookupKey request.key).isNone = true
  unnamed : state.keyIndex[request.key]? = none
  room : state.routes.size < config.limits.maxRoutes
  spared : ¬ (state.namespaceCounts[request.key.routingNamespace]? = none ∧
    config.limits.maxRoutingNamespaces ≤ state.namespaceCounts.size)
  stands : pathAdmits env request.binding = true
  waits : state.outstandingProgramming < config.limits.maxOutstandingProgramming
  identified : (createdId request).isValid = true
  fits : (state.journalEntry (state.creationEdit config env request)).payload.length ≤
    config.limits.maxPersistBytes

variable {request : PublishRequest}

theorem Writes.authority (writes : Writes config env state request) :
    ∃ registration, state.publishAuthority request = .ok registration := by
  have authorized := writes.authorized
  cases held : state.publishAuthority request with
  | ok registration => exact ⟨registration, rfl⟩
  | error failure =>
      rw [held] at authorized
      cases authorized

theorem Writes.valid (writes : Writes config env state request) (checked : checkConfig config = .ok ())
    {record : RouteRecord} (member : record ∈ (state.creationEdit config env request).upserts) :
    record.Valid config.limits := by
  obtain ⟨registration, authorized⟩ := writes.authority
  obtain ⟨-, key, binding, -⟩ := publishAuthority_eq_ok.mp authorized
  exact creationEdit_valid checked key binding writes.identified member

theorem Writes.legal (writes : Writes config env state request) (checked : checkConfig config = .ok ()) :
    Legal config env state (.publish request) state (state.creationEdit config env request) := by
  have valid := writes.valid checked (List.mem_singleton_self _)
  have unknown := Option.isNone_iff_eq_none.mp writes.unknown
  exact .create
    { authority := writes.authority
      reaches := by simp [reachesCreation, writes.authorized, unknown]
      frame := .refl state
      present := fun _ => Iff.rfl
      revocations := rfl
      attempts := rfl
      vacant := writes.unnamed
      capacity := writes.room
      dispatched := ⟨valid, writes.waits, rfl, rfl⟩
      made := ⟨⟨2, by decide⟩, RouteRecord.advanceProgramming_eq_ok rfl, rfl⟩ }

/-- The files with one more entry in the journal. -/
def extended (files : StoreFiles) (entry : JournalEntry) : StoreFiles :=
  { files with journal := some (files.journal.getD [] ++ writeFrame journalEntryMagic entry.payload) }

/-- When the append fails after the whole frame was written, the publication is refused
and its entry stays in the journal. -/
theorem Writes.torn {written : Nat} {why : String} (writes : Writes config env state request)
    (checked : checkConfig config = .ok ()) (journal : config.durability = .journal)
    (fails : (env.io 1).append = some (written, why))
    (whole : (writeFrame journalEntryMagic
      (state.journalEntry (state.creationEdit config env request)).payload).length ≤ written) :
    ∃ ids, (publishLocked config env request state).1 = { state with
      ids := ids, files := extended state.files (state.journalEntry (state.creationEdit config env request)) } := by
  obtain ⟨registration, authorized⟩ := writes.authority
  have unknown := Option.isNone_iff_eq_none.mp writes.unknown
  obtain ⟨ids, updated, attempt, intent, made, committing⟩ :=
    publishCreate_eq writes.room writes.spared writes.stands
  have creates : publishLocked config env request state = publishCreate config env request state := by
    unfold publishLocked
    rw [authorized, unknown]
    rfl
  have valid : updated.Valid config.limits := by
    refine writes.valid checked ?_
    rw [made]
    exact List.mem_singleton_self updated
  have image : encodeJournalEntry (state.journalEntry (state.creationEdit config env request)) config.limits =
      writeFrame journalEntryMagic (state.journalEntry (state.creationEdit config env request)).payload :=
    if_neg (Nat.not_lt.mpr writes.fits)
  have filled : writeFrame journalEntryMagic
      (state.journalEntry (state.creationEdit config env request)).payload ≠ [] := by
    intro empty
    have length := congrArg List.length empty
    simp [length_writeFrame] at length
  have refused : persist config (env.io 1) { state with ids := ids } (state.creationEdit config env request) =
      (extended state.files (state.journalEntry (state.creationEdit config env request)),
        makeError .persistenceFailure ("cannot append store journal: " ++ why)) := by
    have entry : journalEntry { state with ids := ids } (state.creationEdit config env request) =
        state.journalEntry (state.creationEdit config env request) := rfl
    simp only [persist, journal, entry, appendJournal, image, filled, if_false, fails,
      List.take_of_length_le whole, extended]
  have committed : commitIntent config (env.io 1) { state with ids := ids } updated attempt =
      acknowledge config (env.io 1) { state with ids := ids } (state.creationEdit config env request) := by
    unfold commitIntent
    rw [validateRouteRecord_eq_ok.mpr valid, made]
    simp only [ensure, writes.waits, if_true, bind, Except.bind]
  refine ⟨ids, ?_⟩
  rw [creates, committing, committed, acknowledge, refused]
  rfl

theorem Represents.extended {limits : Limits} {entry : JournalEntry}
    (represents : Represents limits files base entries) (framed : entry.Framed limits) :
    Represents limits (Impl.extended files entry) base (entries ++ [entry]) := by
  refine ⟨represents.snapshot, ?_, represents.baseFramed, fun other member => ?_⟩
  · simp only [Impl.extended, Option.getD_some, represents.journal, journalImage_append]
    simp [journalImage]
  · rcases List.mem_append.mp member with old | new
    · exact represents.entriesFramed other old
    · exact List.mem_singleton.mp new ▸ framed

end Impl

/-! ## A coordinator with room for one route -/

namespace Scenario

def narrow : RuntimeConfig := { journaled with limits := { maxRoutes := 1 } }

/-- The journal takes every append and reports that it failed. -/
def torn : Env := { env with io := fun _ => { append := some (2 ^ 20, "flush failed") } }

def keyed (key : RouteKey) (lineage : Nat) : PublishRequest := { carried lineage with key := key }

/-- A publication that is not acknowledged, and another one. -/
def tornOnce : List Call := opening ++ [⟨torn, .publish (keyed key 1)⟩]

def tornTwice : List Call := tornOnce ++ [⟨torn, .publish (keyed otherKey 2)⟩]

end Scenario

namespace Impl

/-- The entry that a torn publication leaves. -/
def tornEntry (state : Impl) (request : PublishRequest) : JournalEntry :=
  state.journalEntry (state.creationEdit Scenario.narrow Scenario.torn request)

/-- A torn publication changes nothing but the files, and leaves an entry that is read
back. -/
theorem torn_publication {state : Impl} {request : PublishRequest} (indexed : Indexed state)
    (readable : state.contents.Readable Scenario.narrow.limits) (opened : state.opened = true)
    (keeps : KeepsReadable Scenario.narrow state ⟨Scenario.env, .publish request⟩)
    (writes : Writes Scenario.narrow Scenario.torn state request)
    (whole : (writeFrame journalEntryMagic (state.tornEntry request).payload).length ≤ 2 ^ 20) :
    (∃ ids, state.step Scenario.narrow ⟨Scenario.torn, .publish request⟩ =
      { state with ids := ids, files := extended state.files (state.tornEntry request) }) ∧
    (state.tornEntry request).Storable Scenario.narrow.limits ∧
    (state.tornEntry request).Framed Scenario.narrow.limits := by
  have checked : checkConfig Scenario.narrow = .ok () := by decide
  refine ⟨?_, ?_, journalEntry_formed (readable_dated readable), writes.fits⟩
  · obtain ⟨ids, after⟩ := writes.torn checked rfl rfl whole
    refine ⟨ids, Eq.trans ?_ after⟩
    simp only [step, takes, opened, Bool.true_or, if_true, perform]
  · -- Which edit is written does not depend on what the file system does with it.
    have clean : Writes Scenario.narrow Scenario.env state request :=
      ⟨writes.authorized, writes.unknown, writes.unnamed, writes.room, writes.spared, writes.stands,
        writes.waits, writes.identified, writes.fits⟩
    exact journalEntry_storable readable ((clean.legal checked).carried indexed readable keeps checked readable)

theorem scenario_clean (index : Nat) : (Scenario.env.io index).Clean := by
  constructor
  · intro written why failed
    cases failed
  · rfl

/-- With room for one route, two publications are refused, and a restart brings both of
their routes back. -/
theorem torn_appends_overfill :
    Along (step Scenario.narrow) (fun state call =>
      (state.drawsAttempt call).all (fun id => !state.attempts.contains id) = true)
        (initial 0) (Scenario.tornTwice ++ [⟨Scenario.env, .restart 2⟩]) ∧
      ¬ (run (step Scenario.narrow) (initial 0)
        (Scenario.tornTwice ++ [⟨Scenario.env, .restart 2⟩])).routes.size ≤
          Scenario.narrow.limits.maxRoutes := by
  refine ⟨by decide +kernel, ?_⟩
  have small : Scenario.narrow.limits.maxPersistBytes < 2 ^ 32 := by decide
  have along : Along (step Scenario.narrow) (KeepsReadable Scenario.narrow) (initial 0) Scenario.opening := by
    refine along_keepsReadable small ?_ (by decide +kernel)
    simp [Scenario.opening, Scenario.env]
  obtain ⟨indexed, kept⟩ := run_kept (by decide) along
  have readable := kept.readable
  have empty : (run (step Scenario.narrow) (initial 0) Scenario.opening).files = {} := by decide +kernel
  obtain ⟨⟨ids, once⟩, storable, framed⟩ := @torn_publication _ (Scenario.keyed Scenario.key 1) indexed readable
    (by decide +kernel) ⟨⟨small, scenario_clean, by decide +kernel⟩, by decide, by decide +kernel⟩
    ⟨by decide +kernel, by decide +kernel, by decide +kernel, by decide +kernel, by decide +kernel,
      by decide +kernel, by decide +kernel, by decide +kernel, by decide +kernel⟩ (by decide +kernel)
  have once : run (step Scenario.narrow) (initial 0) Scenario.tornOnce = _ := (run_snoc _ _ _ _).trans once
  have readableOnce : (run (step Scenario.narrow) (initial 0) Scenario.tornOnce).contents.Readable
      Scenario.narrow.limits := by
    rw [once]
    exact readable
  obtain ⟨⟨ids', twice⟩, storable', framed'⟩ := @torn_publication _ (Scenario.keyed Scenario.otherKey 2)
    (run_indexed _) readableOnce (by decide +kernel)
    ⟨⟨small, scenario_clean, by decide +kernel⟩, by decide, by decide +kernel⟩
    ⟨by decide +kernel, by decide +kernel, by decide +kernel, by decide +kernel, by decide +kernel,
      by decide +kernel, by decide +kernel, by decide +kernel, by decide +kernel⟩ (by decide +kernel)
  have twice : run (step Scenario.narrow) (initial 0) Scenario.tornTwice = _ := (run_snoc _ _ _ _).trans twice
  -- The journal holds both entries.
  have stored : Represents Scenario.narrow.limits
      (run (step Scenario.narrow) (initial 0) Scenario.opening).files none [] := by
    rw [empty]
    exact ⟨rfl, rfl, by simp, by simp⟩
  have storedOnce : Represents Scenario.narrow.limits
      (run (step Scenario.narrow) (initial 0) Scenario.tornOnce).files none
      [tornEntry (run (step Scenario.narrow) (initial 0) Scenario.opening) (Scenario.keyed Scenario.key 1)] := by
    rw [once]
    exact Represents.extended stored framed
  have storedTwice : Represents Scenario.narrow.limits
      (run (step Scenario.narrow) (initial 0) Scenario.tornTwice).files none
      [tornEntry (run (step Scenario.narrow) (initial 0) Scenario.opening) (Scenario.keyed Scenario.key 1),
        tornEntry (run (step Scenario.narrow) (initial 0) Scenario.tornOnce)
          (Scenario.keyed Scenario.otherKey 2)] := by
    rw [twice]
    exact Represents.extended storedOnce framed'
  have loads := storedTwice.load_storable small (by simp) (by
    intro entry member
    rcases List.mem_cons.mp member with rfl | member
    · exact storable
    · exact List.mem_singleton.mp member ▸ storable') (rfl : (Scenario.env.io 0).read = none)
  have opens : run (step Scenario.narrow) (initial 0) (Scenario.tornTwice ++ [⟨Scenario.env, .restart 2⟩]) = _ :=
    (run_snoc _ _ _ _).trans (restart_eq _ _ _ _)
  rw [opens, openRuntime_eq (by decide) (by decide) loads]
  decide +kernel

end Impl

end RouteFabric
