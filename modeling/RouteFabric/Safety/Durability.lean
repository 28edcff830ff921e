import RouteFabric.Safety.Readable

/-!
# What was acknowledged is loaded again

In a run that gives the store nothing its readers refuse, the files always load to what
memory holds, and every snapshot that was saved decodes to it.
-/

namespace RouteFabric

open OrderedMap Run

/-! ## A coordinator with a journal -/

namespace Scenario

def journaled : RuntimeConfig := { config with durability := .journal }

def invalidated : List Call :=
  opening ++ [⟨env, .publish (carried 1)⟩, ⟨env, .invalidate ⟨7⟩ .one .stale⟩]

def stored : List Call := invalidated ++ [⟨env, .compact⟩, ⟨env, .retire (mutation 1)⟩]

def takenOver : List Call :=
  opening ++ [⟨env, .publish (carried 1)⟩, ⟨env, .retire (mutation 1)⟩, ⟨env, .publish (carried 2)⟩]

end Scenario

namespace Impl

variable {config : RuntimeConfig} {env : Env} {seed : Word} {origin state : Impl} {call : Call}
  {edit : Edit}

/-- Files whose snapshot and entries are all read back, and give what memory holds. -/
structure Intact (config : RuntimeConfig) (state : Impl) (base : Option PersistedState)
    (entries : List JournalEntry) : Prop where
  represents : Represents config.limits state.files base entries
  unique : (base.getD {}).Unique
  contents : (entries.foldl PersistedState.replay (base.getD {})).contents = state.contents
  baseStorable : ∀ saved ∈ base, saved.Storable config.limits
  entriesStorable : ∀ entry ∈ entries, entry.Storable config.limits
  unjournaled : config.durability = .snapshot → entries = []

section Intact

variable {base : Option PersistedState} {entries : List JournalEntry} {files : StoreFiles}
  {loaded : PersistedState}

theorem Intact.mirrors (intact : Intact config state base entries) : Mirrors config state base entries :=
  ⟨intact.represents, intact.unique, fun _ => intact.contents⟩

theorem Intact.congr {after : Impl} (intact : Intact config state base entries)
    (represents : Represents config.limits after.files base entries)
    (contents : after.contents = state.contents) : Intact config after base entries :=
  ⟨represents, intact.unique, intact.contents.trans contents.symm, intact.baseStorable,
    intact.entriesStorable, intact.unjournaled⟩

/-- Intact files load to what memory holds, and stay as they are. -/
theorem Intact.load (intact : Intact config state base entries)
    (small : config.limits.maxPersistBytes < 2 ^ 32) {io : IoOutcome} (readable : io.read = none) :
    ∃ loaded, RouteFabric.load config.limits io state.files = (state.files, .ok loaded) ∧
      loaded.contents = state.contents :=
  ⟨_, intact.represents.load_storable small intact.baseStorable intact.entriesStorable readable,
    intact.contents⟩

/-- A restart finds everything in intact files. -/
theorem Intact.loads (intact : Intact config state base entries)
    (small : config.limits.maxPersistBytes < 2 ^ 32) (durable : config.durability ≠ .none)
    (loads : Loads config env state.files files loaded) :
    Represents config.limits files base entries ∧
      loaded = entries.foldl PersistedState.replay (base.getD {}) := by
  obtain ⟨kept, dropped, parts, stopped, represents, replayed⟩ :=
    loads.kept small durable intact.represents
  have whole : dropped = [] := by
    cases dropped with
    | nil => rfl
    | cons first rest =>
        have member : first ∈ entries := parts ▸ List.mem_append_right _ List.mem_cons_self
        exact absurd (intact.entriesStorable first member) (stopped first rfl)
  subst whole
  rw [List.append_nil] at parts
  subst parts
  exact ⟨represents, replayed⟩

/-- A written edit leaves the files intact when its entry, or the snapshot it went into, is
read back. -/
theorem Intact.extend {after : Impl} {base' : Option PersistedState} {entries' : List JournalEntry}
    (intact : Intact config state base entries)
    (extends_ : Extends config origin edit base entries base' entries')
    (mirrors : Mirrors config after base' entries') (opened : after.opened = true)
    (entry : config.durability = .journal → (origin.journalEntry edit).Storable config.limits)
    (snapshot : config.durability = .snapshot → (origin.mergedState edit).Storable config.limits) :
    Intact config after base' entries' := by
  refine ⟨mirrors.represents, mirrors.unique, mirrors.contents opened, ?_, ?_, ?_⟩
  · cases extends_ with
    | journal mode => exact intact.baseStorable
    | snapshot mode =>
        intro saved member
        obtain rfl := Option.mem_some_iff.mp member
        exact snapshot mode
  · cases extends_ with
    | journal mode =>
        intro other member
        rcases List.mem_append.mp member with old | new
        · exact intact.entriesStorable other old
        · exact List.mem_singleton.mp new ▸ entry mode
    | snapshot mode => exact fun _ member => absurd member List.not_mem_nil
  · cases extends_ with
    | journal mode =>
        intro snapshot
        rw [mode] at snapshot
        cases snapshot
    | snapshot mode => exact fun _ => rfl

/-- The snapshot file decodes to what memory holds. -/
def Saved (config : RuntimeConfig) (state : Impl) : Prop :=
  ∃ image loaded, state.files.snapshot = some image ∧
    decodeSnapshot image config.limits = .ok loaded ∧ loaded.contents = state.contents

theorem Intact.saved {saved : PersistedState} (intact : Intact config state (some saved) [])
    (small : config.limits.maxPersistBytes < 2 ^ 32) : Saved config state := by
  have framed := intact.represents.baseFramed saved rfl
  have decodes := (decodeSnapshot_encode framed.formed framed.bounded (framed.bounded.trans_lt small)).1
    (intact.baseStorable saved rfl)
  exact ⟨_, saved, intact.represents.snapshot, decodes, intact.contents⟩

end Intact

/-! ## The invariant -/

/-- What holds of a coordinator whose store is readable. -/
structure Kept (config : RuntimeConfig) (state : Impl) : Prop where
  exact : KeysExact state
  readable : state.contents.Readable config.limits
  accounted : state.contents.Accounted
  rationed : state.Rationed config.limits
  snapshot : config.durability = .snapshot →
    state.contents.attempts.size ≤ config.limits.maxOutstandingProgramming
  checked : state.opened = true → checkConfig config = .ok ()
  intact : ∃ base entries, Intact config state base entries

theorem initial_kept (config : RuntimeConfig) (seed : Word) : Kept config (initial seed) := by
  have outstanding : outstandingIds (initial seed).attempts = ∅ := by
    ext id
    simp [mem_outstandingIds, initial, fresh]
  refine ⟨KeysExact.of_named (by simp [initial, fresh]), ?_, initial_accounted seed, ?_,
    fun _ => Nat.zero_le _, by simp [initial, fresh], none, [], ?_⟩
  · refine ⟨CounterId.storable_one, CounterId.storable_one, ?_, ?_, ?_, ?_, Nat.zero_le _⟩ <;> intros <;>
      simp_all [initial, fresh, contents]
  · refine ⟨?_, Nat.zero_le _⟩
    rw [outstanding, Finset.card_empty]
    exact Nat.zero_le _
  · exact ⟨⟨rfl, rfl, by simp, by simp⟩, unique_empty, rfl, by simp, by simp, fun _ => rfl⟩

/-- The invariant is about contents, the key index and the counter of attempts. -/
theorem Kept.congr {after : Impl} (kept : Kept config state) (contents : after.contents = state.contents)
    (keyIndex : after.keyIndex = state.keyIndex)
    (outstanding : after.outstandingProgramming = state.outstandingProgramming)
    (checked : after.opened = true → checkConfig config = .ok ())
    (represents : ∀ base entries, Represents config.limits state.files base entries →
      Represents config.limits after.files base entries) : Kept config after := by
  have routes : after.routes = state.routes := congrArg Contents.routes contents
  have attempts : after.attempts = state.attempts := congrArg Contents.attempts contents
  obtain ⟨base, entries, intact⟩ := kept.intact
  refine ⟨kept.exact.congr routes keyIndex, ?_, ?_, kept.rationed.congr attempts outstanding, ?_, checked,
    base, entries, intact.congr (represents base entries intact.represents) contents⟩
  · rw [contents]
    exact kept.readable
  · rw [contents]
    exact kept.accounted
  · rw [contents]
    exact kept.snapshot

/-! ## Steps -/

/-- No revocation steals a key where no lineage is superseded. -/
theorem readable_spares (readable : state.contents.Readable config.limits) (request : MutationRequest) :
    state.stealsKey request = false := by
  unfold stealsKey
  split
  · rename_i record target
    have live := (readable.routes _ record (revokeTarget_eq_ok target).1).live
    simp [live]
  · rfl

/-- A snapshot of the contents that an edit leaves is read back. -/
theorem mergedState_storable (indexed : Indexed state)
    (readable : (state.applyEdit edit).contents.Readable config.limits)
    (live : (state.applyEdit edit).contents.LiveUnique)
    (room : (state.applyEdit edit).contents.attempts.size ≤ config.limits.maxOutstandingProgramming) :
    (state.mergedState edit).Storable config.limits := by
  obtain ⟨unique, same⟩ := mergedState_contents indexed edit
  apply snapshot_storable unique
  · rw [same]
    exact readable
  · rw [same]
    exact live
  · rw [same]
    exact room

/-- An edit of a snapshot store leaves room for its attempts in the next snapshot. -/
theorem Legal.room (indexed : Indexed origin) (keeps : KeepsReadable config origin call)
    (snapshot : config.durability = .snapshot)
    (held : state.attempts.size ≤ config.limits.maxOutstandingProgramming)
    (legal : Legal config call.env origin call.action state edit) :
    (state.applyEdit edit).attempts.size ≤ config.limits.maxOutstandingProgramming := by
  rw [applyEdit_attempts]
  have opens : ∀ (attempt : ProgrammingAttemptRecord) (attempts : Map ProgrammingAttemptId ProgrammingAttemptRecord),
      attempts.size < config.limits.maxOutstandingProgramming →
      (attempts.insert attempt.attempt attempt).size ≤ config.limits.maxOutstandingProgramming := by
    intro attempt attempts room
    have grown := @Std.ExtTreeMap.size_insert_le _ _ _ attempts _ attempt.attempt attempt
    omega
  have resolves : ∀ (result : ProgrammingResult) (attempt : ProgrammingAttemptRecord),
      origin.attempts[result.attempt]? = some attempt →
      (origin.attempts.insert attempt.attempt { attempt with resolved := true }).size ≤ origin.attempts.size := by
    intro result attempt known
    apply size_le_size
    intro id member
    rw [Std.ExtTreeMap.mem_insert, Std.compare_eq_iff_eq] at member
    rcases member with rfl | present
    · rw [indexed.attempts _ _ known]
      exact (mem_iff_lookup _ _).mpr ⟨attempt, known⟩
    · exact present
  have spares := keeps.spares
  generalize call.action = action at legal spares
  cases legal with
  | takeover | retire | revoke | invalidate | observe => exact held
  | create created =>
      refine opens _ _ ?_
      rw [created.attempts]
      exact spares.2.2 snapshot
  | replace replaced => exact opens _ _ (spares.2.2 snapshot)
  | withdraw withdrawn => exact opens _ _ (spares snapshot)
  | revalidate revalidated => exact opens _ _ (spares snapshot)
  | resolve awaited => exact (resolves _ _ awaited.known).trans held
  | complete completed => exact (resolves _ _ completed.awaited.known).trans held

section Move

variable (durable : config.durability ≠ .none)

include durable

theorem Kept.acknowledge {ids : SeededIdSource} {index : Nat} (indexed : Indexed origin)
    (kept : Kept config origin) (keeps : KeepsReadable config origin call)
    (checked : checkConfig config = .ok ()) (heldIndexed : Indexed state) (held : Kept config state)
    (opened : state.opened = true)
    (legal : Legal config call.env origin call.action state edit) :
    Kept config (acknowledge config (call.env.io index) { state with ids := ids } edit).1 := by
  obtain ⟨base, entries, intact⟩ := held.intact
  have drawn : Intact config { state with ids := ids } base entries :=
    intact.congr intact.represents rfl
  have drawnIndexed : Indexed { state with ids := ids } := heldIndexed.congr rfl rfl rfl rfl
  have dated : Dated { state with ids := ids } := readable_dated held.readable
  have frame : Frame { state with ids := ids } _ := acknowledge_frame config (call.env.io index) edit
  have admitted := legal.admitted indexed keeps.unused
  have carried := legal.carried indexed kept.readable keeps checked held.readable
  have readable : (state.applyEdit edit).contents.Readable config.limits :=
    readable_applyEdit held.readable carried (legal.count indexed held.readable.count)
      fun revocation member => ((legal.storable_revoked kept.readable carried.upserts).2 revocation member).2
  have exact : KeysExact (Impl.acknowledge config (call.env.io index) { state with ids := ids } edit).1 :=
    legal.keysExact_acknowledge indexed heldIndexed held.exact fun request _ =>
      readable_spares kept.readable request
  have rationed : Rationed (Impl.acknowledge config (call.env.io index) { state with ids := ids } edit).1
      config.limits := by
    rcases acknowledge_cases config (call.env.io index) { state with ids := ids } edit with
      ⟨files, -, applied⟩ | ⟨files, failure, -, refused⟩
    · rw [applied]
      exact legal.rationed indexed rfl (held.rationed.congr rfl rfl)
    · rw [refused]
      exact held.rationed.congr rfl rfl
  rcases drawn.mirrors.acknowledge (keeps.clean index) durable drawnIndexed dated opened admitted with
    ⟨same, mirrors⟩ | ⟨same, base', entries', extension, mirrors⟩
  · exact ⟨exact, same ▸ held.readable, same ▸ held.accounted, rationed,
      same ▸ held.snapshot, fun _ => checked, base, entries,
      drawn.congr mirrors.represents same⟩
  · rw [applyEdit_contents_congr (by rfl : contents { state with ids := ids } = state.contents)] at same
    have room : config.durability = .snapshot →
        (state.applyEdit edit).contents.attempts.size ≤ config.limits.maxOutstandingProgramming :=
      fun snapshot => legal.room indexed keeps snapshot (held.snapshot snapshot)
    refine ⟨exact, same ▸ readable, same ▸ legal.accounted indexed keeps.unused held.accounted, rationed,
      same ▸ room, fun _ => checked, base', entries', ?_⟩
    refine drawn.extend extension mirrors (frame.opened.trans opened)
      (fun _ => journalEntry_storable held.readable carried) fun snapshot => ?_
    have live : (state.applyEdit edit).contents.LiveUnique := same ▸ exact.unique
    have merged := mergedState_storable heldIndexed readable live (room snapshot)
    exact merged

/-- A saved snapshot is all that the store needs. -/
theorem intact_compactStore {base : Option PersistedState} {entries : List JournalEntry}
    {files : StoreFiles} {io : IoOutcome} (indexed : Indexed state) (exact : KeysExact state)
    (readable : state.contents.Readable config.limits)
    (represents : Represents config.limits state.files base entries) (clean : io.Clean)
    (room : state.contents.attempts.size ≤ config.limits.maxOutstandingProgramming)
    (saved : state.compactStore config io = (files, .ok ())) :
    Intact config { state with files := files } (some state.collectState) [] := by
  have mirrors := compactStore_mirrors represents clean durable indexed (readable_dated readable) saved
  obtain ⟨unique, same⟩ := collectState_contents indexed
  have storable : state.collectState.Storable config.limits :=
    snapshot_storable unique (same ▸ readable) (same ▸ exact.unique) (same ▸ room)
  refine ⟨mirrors.represents, unique, same, ?_, fun _ member => absurd member List.not_mem_nil,
    fun _ => rfl⟩
  intro saved member
  obtain rfl := Option.mem_some_iff.mp member
  exact storable

theorem kept_compactStore {base : Option PersistedState} {entries : List JournalEntry} {files : StoreFiles}
    {io : IoOutcome} (indexed : Indexed state) (exact : KeysExact state)
    (readable : state.contents.Readable config.limits) (accounted : state.contents.Accounted)
    (rationed : state.Rationed config.limits) (checked : checkConfig config = .ok ())
    (represents : Represents config.limits state.files base entries) (clean : io.Clean)
    (room : state.contents.attempts.size ≤ config.limits.maxOutstandingProgramming)
    (saved : state.compactStore config io = (files, .ok ())) :
    Kept config { state with files := files } :=
  ⟨exact.congr rfl rfl, readable, accounted, rationed.congr rfl rfl, fun _ => room, fun _ => checked, _, _,
    intact_compactStore durable indexed exact readable represents clean room saved⟩

theorem Kept.move {before after : Impl} (indexed : Indexed origin) (kept : Kept config origin)
    (keeps : KeepsReadable config origin call) (takes : origin.takes call.action = true)
    (same : before.opened = origin.opened) (heldIndexed : Indexed before) (held : Kept config before)
    (move : Move config call.env origin call.action before after) : Kept config after := by
  cases move with
  | draw ids => exact held.congr rfl rfl rfl held.checked fun _ _ represents => represents
  | mutate unbroken ids index legal =>
      have opened := legal.opened takes
      exact Kept.acknowledge durable indexed kept keeps (kept.checked opened) heldIndexed held
        (same.trans opened) legal
  | administer administers =>
      have administered : Administered origin (origin.perform config call.env call.action) :=
        perform_administered administers
      refine kept.congr administered.contents administered.keyIndex
        administered.outstandingProgramming
        (fun opened => kept.checked (administered.opened.symm.trans opened)) fun _ _ represents => ?_
      rw [administered.files]
      exact represents
  | save compacts =>
      have room := keeps.spares
      have checked := kept.checked (opened_of_takes takes (by rw [compacts]; rfl))
      rw [compacts] at room
      cases saved : origin.compactStore config (call.env.io 0) with
      | mk files result =>
          cases result with
          | error failure =>
              rw [compactStore_error saved]
              exact kept
          | ok _ =>
              obtain ⟨base, entries, intact⟩ := kept.intact
              exact kept_compactStore durable indexed kept.exact kept.readable kept.accounted
                kept.rationed checked intact.represents (keeps.clean 0) room saved
  | advance advances following saved =>
      rename_i next files
      have room := keeps.spares
      have checked := kept.checked (opened_of_takes takes (by rw [advances]; rfl))
      rw [advances] at room
      have readable : (contents { origin with epoch := next }).Readable config.limits :=
        { kept.readable with epoch := (CounterId.next_eq_ok following).2 }
      obtain ⟨base, entries, intact⟩ := kept.intact
      have represents : Represents config.limits { origin with epoch := next }.files base entries :=
        intact.represents
      have advanced : Indexed { origin with epoch := next } := indexed.congr rfl rfl rfl rfl
      have exact : KeysExact { origin with epoch := next } := kept.exact.congr rfl rfl
      exact kept_compactStore durable advanced exact readable (accounted_congr kept.accounted rfl rfl)
        (kept.rationed.congr rfl rfl) checked represents (keeps.clean 0) room saved

/-- A restart finds what was acknowledged and keeps the store readable. -/
theorem Kept.restart {after : Impl} (kept : Kept config state) (keeps : KeepsReadable config state call)
    (restarts : Restarts config call.env seed state after) : Kept config after := by
  obtain ⟨base, entries, intact⟩ := kept.intact
  cases restarts with
  | refused => exact kept.congr rfl rfl rfl nofun fun _ _ represents => represents
  | unsaved loads failed =>
      obtain ⟨represents, -⟩ := intact.loads keeps.small durable loads
      refine ⟨kept.exact.congr rfl rfl, kept.readable, kept.accounted, kept.rationed.congr rfl rfl,
        kept.snapshot, nofun, base, entries, intact.congr ?_ rfl⟩
      exact persist_failed (by rw [recovery_files]; exact represents) (keeps.clean 1) failed
  | opened checked loads saved =>
      rename_i files loaded stored
      obtain ⟨represents, replayed⟩ := intact.loads keeps.small durable loads
      have unique : loaded.Unique := replayed ▸ intact.unique.replays entries
      have same : loaded.contents = state.contents := replayed ▸ intact.contents
      have readable : loaded.contents.Readable config.limits := same ▸ kept.readable
      have accounted : loaded.contents.Accounted := same ▸ kept.accounted
      have waiting : (outstandingIds loaded.contents.attempts).card ≤
          config.limits.maxOutstandingProgramming :=
        same ▸ kept.rationed.counted.trans kept.rationed.limited
      have settled : (recovery config call.env seed files loaded).1.contents.Readable config.limits :=
        recovery_readable loads checked keeps.backend readable accounted
      have carried : (recovery config call.env seed files loaded).2.Carried config.limits :=
        recovery_carried loads checked keeps.backend readable accounted waiting
      have exact : KeysExact (recovery config call.env seed files loaded).1 :=
        recovery_keysExact loads (same ▸ kept.exact.unique)
      have room : config.durability = .snapshot → (recovery config call.env seed files
          loaded).1.contents.attempts.size ≤ config.limits.maxOutstandingProgramming := by
        intro snapshot
        refine Nat.le_trans (size_le_size fun id member => ?_) (same ▸ kept.snapshot snapshot)
        obtain ⟨attempt, found⟩ := (mem_iff_lookup _ _).mp member
        obtain ⟨known, held, -⟩ := recovery_continues loads found
        exact (mem_iff_lookup _ _).mpr ⟨known, held⟩
      refine ⟨exact.congr rfl rfl, settled, recovery_accounted loads accounted,
        (recovery_rationed unique waiting).congr rfl rfl, room, fun _ => checked, ?_⟩
      obtain ⟨base', entries', grown, mirrors⟩ := mirrors_recovery represents intact.unique (keeps.clean 1)
        durable replayed loads saved
      refine ⟨base', entries', ?_⟩
      rcases grown with ⟨rfl, rfl⟩ | extension
      · exact ⟨mirrors.represents, mirrors.unique, mirrors.contents rfl, intact.baseStorable,
          intact.entriesStorable, intact.unjournaled⟩
      · have merged : (applyEdit (recovery config call.env seed files loaded).1
            (recovery config call.env seed files loaded).2).contents = _ := recovery_merged loads
        refine intact.extend extension ⟨mirrors.represents, mirrors.unique, mirrors.contents⟩ rfl
          (fun _ => journalEntry_storable settled carried) fun snapshot => ?_
        exact mergedState_storable (recovery_indexed loads) (merged ▸ settled) (merged ▸ exact.unique)
          (merged ▸ room snapshot)

/-! ## Runs -/

theorem run_kept {calls : List Call}
    (along : Along (step config) (KeepsReadable config) (initial seed) calls) :
    Indexed (run (step config) (initial seed) calls) ∧
      Kept config (run (step config) (initial seed) calls) := by
  refine run_preserves along (initial_kept config seed) ?_
  intro state call indexed keeps kept
  refine step_preserves indexed kept ?_ ?_
  · intro takes before after same heldIndexed held move
    exact Kept.move durable indexed kept keeps takes same heldIndexed held move
  · intro restartSeed after action restarts
    exact Kept.restart durable kept keeps restarts

end Move

/-- In every run of a journaling runtime that gives the store nothing its readers refuse,
the files always load, whole, to what memory holds. -/
theorem run_durable (journal : config.durability = .journal) {calls : List Call}
    (along : Along (step config) (KeepsReadable config) (initial seed) calls) {io : IoOutcome}
    (readable : io.read = none) :
    ∃ loaded, load config.limits io (run (step config) (initial seed) calls).files =
        ((run (step config) (initial seed) calls).files, .ok loaded) ∧
      loaded.contents = (run (step config) (initial seed) calls).contents := by
  have durable : config.durability ≠ .none := by simp [journal]
  cases calls with
  | nil => exact ⟨{}, rfl, rfl⟩
  | cons first rest =>
      obtain ⟨-, kept⟩ := run_kept durable along
      obtain ⟨base, entries, intact⟩ := kept.intact
      exact intact.load along.1.small readable

/-- A state that loads back from a store holds valid records. -/
theorem sound_recordsValid {loaded : PersistedState} (sound : loaded.Sound config.limits)
    (same : loaded.contents = state.contents) : RecordsValid config state := by
  refine recordsValid_iff.mpr fun id record found => ?_
  have held : loaded.contents.routes[id]? = some record := by
    rw [same]
    exact found
  exact (sound.routes record (lookup_index_some held).1).valid

/-- The part of the condition that is about requests and states, where every file
operation succeeds. -/
theorem along_keepsReadable {calls : List Call} (small : config.limits.maxPersistBytes < 2 ^ 32)
    (succeeds : ∀ call ∈ calls, ∀ index, call.env.io index = {})
    (along : Along (step config) (fun state call => state.createsUnused config call = true ∧
      call.env.backend.id.isValid = true ∧ state.sparesReader config call.action) state calls) :
    Along (step config) (KeepsReadable config) state calls := by
  have whole : ∀ earlier (call : Call) rest, calls = earlier ++ call :: rest →
      ∀ index, call.env.io index = {} := fun earlier call rest parts => succeeds call (by rw [parts]; simp)
  have both : Along (step config) (fun state call => (state.createsUnused config call = true ∧
      call.env.backend.id.isValid = true ∧ state.sparesReader config call.action) ∧
      ∀ index, call.env.io index = {}) state calls := along.and_each whole
  refine both.mono fun state call held => ?_
  obtain ⟨⟨unused, backend, spares⟩, whole⟩ := held
  refine ⟨⟨small, fun index => ?_, unused⟩, backend, spares⟩
  rw [whole index]
  exact ⟨nofun, rfl⟩

/-- A route is published, its path invalidated, the store compacted and the route retired. -/
theorem run_durable_compacted :
    ∃ loaded, load Scenario.journaled.limits {} (run (step Scenario.journaled) (initial 0)
        Scenario.stored).files = ((run (step Scenario.journaled) (initial 0) Scenario.stored).files,
          .ok loaded) ∧
      loaded.contents = (run (step Scenario.journaled) (initial 0) Scenario.stored).contents := by
  refine run_durable rfl (along_keepsReadable (by decide) ?_ (by decide +kernel)) rfl
  simp [Scenario.stored, Scenario.invalidated, Scenario.opening, Scenario.env]

/-- What a takeover journals is not read back. -/
theorem takeover_not_durable :
    ¬ ∃ loaded, (load Scenario.journaled.limits {} (run (step Scenario.journaled) (initial 0)
        Scenario.takenOver).files).2 = .ok loaded ∧
      loaded.contents = (run (step Scenario.journaled) (initial 0) Scenario.takenOver).contents := by
  rintro ⟨loaded, read, same⟩
  have invalid : ¬ RecordsValid Scenario.journaled
      (run (step Scenario.journaled) (initial 0) Scenario.takenOver) := by decide +kernel
  exact invalid (sound_recordsValid (load_sound (Prod.ext rfl read)) same)

/-! ## Snapshots -/

/-- Whether a call saves a snapshot: a compaction or an epoch advance that succeeds, and in
snapshot mode every call after which there is one. -/
def saves (config : RuntimeConfig) (state : Impl) (call : Call) : Prop :=
  match call.action with
  | .compact => (state.compact config call.env).2 = .ok ()
  | .advanceEpoch => ∃ epoch, (state.advanceEpoch config call.env).2 = .ok epoch
  | _ => config.durability = .snapshot ∧ (state.step config call).files.snapshot ≠ none

theorem compact_eq_ok {after : Impl} (compacted : state.compact config env = (after, .ok ())) :
    state.opened = true ∧ ∃ files, state.compactStore config (env.io 0) = (files, .ok ()) ∧
      after = { state with files := files } := by
  unfold compact at compacted
  split at compacted
  · simp at compacted
  · rename_i passed
    simp only [checkOpened, bind_eq_ok, exists_unit, ensure_eq_ok] at passed
    obtain ⟨rfl, saved⟩ := Prod.mk.inj compacted
    exact ⟨passed.1, _, Prod.ext rfl saved, rfl⟩

theorem advanceEpoch_eq_ok {after : Impl} {next : CoordinatorEpoch}
    (advanced : state.advanceEpoch config env = (after, .ok next)) :
    state.opened = true ∧ state.epoch.next = .ok next ∧
      ∃ files, compactStore config (env.io 0) { state with epoch := next } = (files, .ok ()) ∧
        after = { state with epoch := next, files := files } := by
  unfold advanceEpoch at advanced
  split at advanced
  · simp at advanced
  rename_i passed
  split at advanced
  · simp at advanced
  rename_i following found
  split at advanced
  · simp at advanced
  · rename_i files saved
    obtain ⟨rfl, same⟩ := Prod.mk.inj advanced
    obtain rfl := Except.ok.inj same
    simp only [checkOpened, ensure_eq_ok] at passed
    exact ⟨passed, found, files, saved, rfl⟩

/-- In every run that gives the store nothing its readers refuse, every snapshot saved
decodes to what memory holds. -/
theorem run_savesReadable (durable : config.durability ≠ .none) {calls : List Call}
    (along : Along (step config) (KeepsReadable config) (initial seed) (calls ++ [call]))
    (saving : saves config (run (step config) (initial seed) calls) call) :
    Saved config (run (step config) (initial seed) (calls ++ [call])) := by
  obtain ⟨earlier, keeps, -⟩ := along_append.mp along
  obtain ⟨indexed, kept⟩ := run_kept durable earlier
  obtain ⟨-, keptAfter⟩ := run_kept durable along
  rw [run_append, run_cons, run_nil] at keptAfter ⊢
  generalize run (step config) (initial seed) calls = state at keeps indexed kept keptAfter saving
  obtain ⟨base, entries, intact⟩ := kept.intact
  have spares := keeps.spares
  unfold saves at saving
  split at saving
  · rename_i compacts
    rw [compacts] at spares
    obtain ⟨opened, files, saved, made⟩ := compact_eq_ok (Prod.ext rfl saving)
    have stepped : state.step config call = { state with files := files } := by
      simp only [step, compacts, takes, opened, Bool.true_or, if_true, perform, made]
    rw [stepped]
    exact (intact_compactStore durable indexed kept.exact kept.readable intact.represents (keeps.clean 0)
      spares saved).saved keeps.small
  · rename_i advances
    rw [advances] at spares
    obtain ⟨next, succeeded⟩ := saving
    obtain ⟨opened, following, files, saved, made⟩ := advanceEpoch_eq_ok (Prod.ext rfl succeeded)
    have stepped : state.step config call = { state with epoch := next, files := files } := by
      simp only [step, advances, takes, opened, Bool.true_or, if_true, perform, made]
    have readable : (contents { state with epoch := next }).Readable config.limits :=
      { kept.readable with epoch := (CounterId.next_eq_ok following).2 }
    have advanced : Indexed { state with epoch := next } := indexed.congr rfl rfl rfl rfl
    have exact : KeysExact { state with epoch := next } := kept.exact.congr rfl rfl
    have represents : Represents config.limits { state with epoch := next }.files base entries :=
      intact.represents
    rw [stepped]
    exact (intact_compactStore durable advanced exact readable represents (keeps.clean 0) spares
      saved).saved keeps.small
  · obtain ⟨snapshot, present⟩ := saving
    obtain ⟨base, entries, after⟩ := keptAfter.intact
    obtain rfl := after.unjournaled snapshot
    cases base with
    | none => exact absurd after.represents.snapshot present
    | some saved => exact after.saved keeps.small

/-- A route is published, its path invalidated and the store compacted. -/
theorem run_savesReadable_compacted :
    saves Scenario.journaled (run (step Scenario.journaled) (initial 0) Scenario.invalidated)
        ⟨Scenario.env, .compact⟩ ∧
      Saved Scenario.journaled (run (step Scenario.journaled) (initial 0)
        (Scenario.invalidated ++ [⟨Scenario.env, .compact⟩])) := by
  have saving : saves Scenario.journaled (run (step Scenario.journaled) (initial 0) Scenario.invalidated)
      ⟨Scenario.env, .compact⟩ := by
    unfold saves
    decide +kernel
  refine ⟨saving, run_savesReadable (by decide) (along_keepsReadable (by decide) ?_ (by decide +kernel)) saving⟩
  simp [Scenario.invalidated, Scenario.opening, Scenario.env]

/-- After a takeover a compaction saves a snapshot that does not decode. -/
theorem compact_saves_unreadable :
    saves Scenario.journaled (run (step Scenario.journaled) (initial 0) Scenario.takenOver)
        ⟨Scenario.env, .compact⟩ ∧
      ¬ Saved Scenario.journaled (run (step Scenario.journaled) (initial 0)
        (Scenario.takenOver ++ [⟨Scenario.env, .compact⟩])) := by
  refine ⟨by unfold saves; decide +kernel, ?_⟩
  rintro ⟨image, loaded, -, decoded, same⟩
  have invalid : ¬ RecordsValid Scenario.journaled (run (step Scenario.journaled) (initial 0)
      (Scenario.takenOver ++ [⟨Scenario.env, .compact⟩])) := by decide +kernel
  exact invalid (sound_recordsValid (decodeSnapshot_canonical decoded).2.1.sound same)

end Impl

end RouteFabric
