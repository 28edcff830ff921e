import RouteFabric.Store.Trails
import RouteFabric.Safety.Storage

/-!
# What the store was given

A restart loads no record that was not written. `Written` says that every record in the
files is of a kind that the records of the coordinator had when they were written. It asks
less than `Stored` does: nothing about how replayed records replace each other, and nothing
about the removal of a journal. What every record held is, every record loaded is too.
-/

namespace RouteFabric

open OrderedMap Run

/-- The actions that journal what they change. -/
def Action.journals : Action → Bool
  | .advanceEpoch | .compact | .restart _ => false
  | action => !action.administers

namespace Impl

/-- A kind of record, at an epoch, that later epochs and evidence keep. -/
structure Lasting (kind : CoordinatorEpoch → RouteRecord → Prop) : Prop where
  later : ∀ epoch next record, kind epoch record → epoch.value ≤ next.value → kind next record
  evidence : ∀ epoch record after, kind epoch record → record.Evidence after → kind epoch after

/-- A call that appends nothing behind a part of a frame: where the journal ends inside one, no
append of the call writes a byte. -/
structure AppendsApart (config : RuntimeConfig) (state : Impl) (call : Call) : Prop where
  small : config.limits.maxPersistBytes < 2 ^ 32
  apart : state.files.torn = true → call.action.journals = true →
    ∀ index, ∃ why, (call.env.io index).append = some (0, why)

/-- Files whose records are all of a kind, whatever an append that failed left behind them. -/
def Holds (config : RuntimeConfig) (kind : CoordinatorEpoch → RouteRecord → Prop) (files : StoreFiles) :
    Prop :=
  ∃ base entries tail, Trails config.limits files base entries tail ∧
    (∀ stored ∈ base, ∀ record ∈ stored.routes, kind stored.epoch record) ∧
    ∀ entry ∈ entries, ∀ record ∈ entry.upserts, kind entry.epoch record

/-- The store, if there is one, holds records of a kind. -/
def Written (config : RuntimeConfig) (kind : CoordinatorEpoch → RouteRecord → Prop) (state : Impl) : Prop :=
  config.durability ≠ .none → Holds config kind state.files

variable {config : RuntimeConfig} {env : Env} {seed : Word} {origin state : Impl} {edit : Edit}
  {kind : CoordinatorEpoch → RouteRecord → Prop} {files : StoreFiles} {call : Call} {io : IoOutcome}

/-! ## Writes -/

theorem Holds.save {saved : PersistedState} (holds : Holds config kind state.files) (formed : saved.Formed)
    (kinds : ∀ record ∈ saved.routes, kind saved.epoch record)
    (succeeded : saveSnapshot config.limits io state.files saved = (files, .ok ())) :
    Holds config kind files := by
  obtain ⟨base, entries, tail, trails, -, journaled⟩ := holds
  have stored : ∀ stored ∈ some saved, ∀ record ∈ stored.routes, kind stored.epoch record := by
    intro stored member
    obtain rfl := Option.mem_some_iff.mp member
    exact kinds
  rcases trails.save formed succeeded with alone | beside
  · exact ⟨some saved, [], [], alone, stored, fun _ member => absurd member List.not_mem_nil⟩
  · exact ⟨some saved, entries, tail, beside, stored, journaled⟩

/-- An append that cannot take place leaves the files as they are. -/
theorem appendJournal_barred {limits : Limits} {entry : JournalEntry} {why : String}
    (barred : io.append = some (0, why)) :
    ((appendJournal limits io files entry).1.snapshot = files.snapshot ∧
        (appendJournal limits io files entry).1.journal.getD [] = files.journal.getD []) ∧
      ∃ failure, (appendJournal limits io files entry).2 = .error failure := by
  unfold appendJournal
  simp only [barred]
  split
  · exact ⟨⟨rfl, rfl⟩, _, rfl⟩
  · exact ⟨⟨rfl, by simp⟩, _, rfl⟩

/-- A write of records of the kind, on top of records of the kind, leaves such records,
whether it succeeds or not. -/
theorem Holds.persist (holds : Holds config kind state.files) (small : config.limits.maxPersistBytes < 2 ^ 32)
    (dated : Dated state)
    (held : ∀ (id : RouteId) record, state.routes[id]? = some record → kind state.epoch record)
    (added : ∀ record ∈ edit.upserts, kind state.epoch record)
    (apart : config.durability = .journal → state.files.torn = true → ∃ why, io.append = some (0, why)) :
    Holds config kind (state.persist config io edit).1 := by
  unfold Impl.persist
  split
  · exact holds
  · cases saved : saveSnapshot config.limits io state.files (state.mergedState edit) with
    | mk files result =>
        cases result with
        | error failure =>
            rw [saveSnapshot_error saved]
            exact holds
        | ok _ =>
            refine holds.save (mergedState_formed dated) (fun record member => ?_) saved
            rcases mem_foldl_edit mem_upsert member with new | old
            · exact added record new
            · obtain ⟨id, found⟩ := (mem_values _ _).mp old
              exact held id record found
  · rename_i journals
    have formed : (state.journalEntry edit).Formed := journalEntry_formed dated
    obtain ⟨base, entries, tail, trails, stored, journaled⟩ := holds
    cases untorn : state.files.torn with
    | true =>
        obtain ⟨why, barred⟩ := apart journals untorn
        obtain ⟨⟨snapshot, journal⟩, -⟩ :=
          @appendJournal_barred state.files io config.limits (state.journalEntry edit) why barred
        exact ⟨base, entries, tail, ⟨snapshot.trans trails.snapshot, journal.trans trails.journal,
          trails.baseFramed, trails.entriesFramed, trails.torn⟩, stored, journaled⟩
    | false =>
        obtain rfl := (trails.untorn small).mp untorn
        rcases @Trails.append config.limits io state.files base entries _ small trails
            formed with whole | ⟨-, tail, part⟩
        · refine ⟨base, _, [], whole, stored, ?_⟩
          intro entry member
          rcases List.mem_append.mp member with old | new
          · exact journaled entry old
          · obtain rfl := List.mem_singleton.mp new
            exact added
        · exact ⟨base, entries, tail, part, stored, journaled⟩

/-- A write that succeeds leaves whole frames. -/
theorem Holds.persist_untorn (holds : Holds config kind state.files)
    (small : config.limits.maxPersistBytes < 2 ^ 32) (dated : Dated state)
    (journals : config.durability = .journal)
    (apart : state.files.torn = true → ∃ why, io.append = some (0, why))
    (written : state.persist config io edit = (files, .ok ())) : files.torn = false := by
  have formed : (state.journalEntry edit).Formed := journalEntry_formed dated
  obtain ⟨base, entries, tail, trails, -, -⟩ := holds
  simp only [Impl.persist, journals] at written
  cases untorn : state.files.torn with
  | true =>
      obtain ⟨why, barred⟩ := apart untorn
      obtain ⟨-, failure, failed⟩ :=
        @appendJournal_barred state.files io config.limits (state.journalEntry edit) why barred
      rw [written] at failed
      cases failed
  | false =>
      obtain rfl := (trails.untorn small).mp untorn
      have appended := @Trails.append config.limits io state.files base entries _ small trails
        formed
      rw [written] at appended
      rcases appended with whole | ⟨⟨failure, failed⟩, -⟩
      · exact (whole.untorn small).mpr rfl
      · cases failed

theorem Holds.compactStore (holds : Holds config kind state.files) (dated : Dated state)
    (held : ∀ (id : RouteId) record, state.routes[id]? = some record → kind state.epoch record)
    (succeeded : state.compactStore config io = (files, .ok ())) : Holds config kind files := by
  unfold Impl.compactStore at succeeded
  split at succeeded
  · obtain ⟨rfl, -⟩ := Prod.mk.inj succeeded
    exact holds
  · refine holds.save (collectState_formed dated) (fun record member => ?_) succeeded
    obtain ⟨id, found⟩ := (mem_values _ _).mp member
    exact held id record found

/-! ## Restarts -/

theorem kind_replay (lasting : Lasting kind) {state : PersistedState} {entry : JournalEntry}
    (held : ∀ record ∈ state.routes, kind state.epoch record)
    (added : ∀ record ∈ entry.upserts, kind entry.epoch record) :
    ∀ record ∈ (state.replay entry).routes, kind (state.replay entry).epoch record := by
  intro record member
  have value := laterCounter_value state.epoch entry.epoch
  rcases PersistedState.mem_replay_routes member with new | old
  · exact lasting.later _ _ record (added record new) (by simp only [PersistedState.replay]; omega)
  · exact lasting.later _ _ record (held record old) (by simp only [PersistedState.replay]; omega)

theorem kind_replays (lasting : Lasting kind) {state : PersistedState} {entries : List JournalEntry}
    (held : ∀ record ∈ state.routes, kind state.epoch record)
    (added : ∀ entry ∈ entries, ∀ record ∈ entry.upserts, kind entry.epoch record) :
    ∀ record ∈ (entries.foldl PersistedState.replay state).routes,
      kind (entries.foldl PersistedState.replay state).epoch record := by
  induction entries generalizing state with
  | nil => exact held
  | cons entry rest ih =>
      exact ih (kind_replay lasting held (added entry List.mem_cons_self))
        fun other member => added other (List.mem_cons_of_mem _ member)

/-- A restart loads records of the kind, and leaves files that hold such records. -/
theorem Loads.written {after : StoreFiles} {loaded : PersistedState} (lasting : Lasting kind)
    (small : config.durability ≠ .none → config.limits.maxPersistBytes < 2 ^ 32)
    (written : Written config kind state) (loads : Loads config env state.files after loaded) :
    (∀ record ∈ loaded.routes, kind loaded.epoch record) ∧
      (config.durability ≠ .none → Holds config kind after ∧ after.torn = false) := by
  by_cases durable : config.durability = .none
  · refine ⟨?_, fun durable' => absurd durable durable'⟩
    cases loads with
    | nothing memory => simp
    | stored durable' read => exact absurd durable durable'
  · obtain ⟨base, entries, tail, trails, stored, journaled⟩ := written durable
    cases loads with
    | nothing memory => exact absurd memory durable
    | stored durable' read =>
    obtain ⟨kept, dropped, rfl, rfl, after⟩ := trails.load (small durable) read
    have journaled : ∀ entry ∈ kept, ∀ record ∈ entry.upserts, kind entry.epoch record :=
      fun entry member => journaled entry (List.mem_append_left _ member)
    refine ⟨kind_replays lasting ?_ journaled, fun _ =>
      ⟨⟨base, kept, [], after, stored, journaled⟩, (after.untorn (small durable)).mpr rfl⟩⟩
    cases base with
    | none => simp
    | some saved => exact stored saved rfl

/-! ## Steps and runs -/

theorem Legal.journals {before : Impl} {action : Action} (legal : Legal config env origin action before edit) :
    action.journals = true := by
  cases legal <;> rfl

/-- The files that an edit is written to are whole, or nothing is appended to them. -/
theorem Unbroken.apart (unbroken : Unbroken config call.env origin files)
    (appends : AppendsApart config origin call) (changes : call.action.journals = true)
    (journals : config.durability = .journal) (dated : Dated origin) (holds : Holds config kind origin.files)
    (index : Nat) (torn : files.torn = true) : ∃ why, (call.env.io index).append = some (0, why) := by
  cases unbroken with
  | first => exact appends.apart torn changes index
  | second written =>
      have whole := holds.persist_untorn appends.small dated journals
        (fun torn => appends.apart torn changes 0) written
      rw [whole] at torn
      cases torn

theorem Written.move {before after : Impl} (lasting : Lasting kind)
    (appends : config.durability ≠ .none → AppendsApart config origin call)
    (dated : Dated origin) (heldDated : Dated before) (writtenOrigin : Written config kind origin)
    (kinds : ∀ (id : RouteId) record, before.routes[id]? = some record → kind before.epoch record)
    (edits : ∀ edit, Legal config call.env origin call.action before edit → ∀ record ∈ edit.upserts,
      kind before.epoch record)
    (written : Written config kind before) (move : Move config call.env origin call.action before after) :
    Written config kind after := by
  intro durable
  have appends := appends durable
  cases move with
  | draw ids => exact written durable
  | mutate unbroken ids index legal =>
      rename_i edit
      have drawn : Holds config kind { before with ids := ids }.files := written durable
      have persisted := @Holds.persist config { before with ids := ids } edit kind (call.env.io index) drawn
        appends.small (heldDated.congr rfl rfl) kinds (edits edit legal) fun journals =>
          unbroken.apart appends legal.journals journals dated (writtenOrigin durable) index
      rcases acknowledge_cases config (call.env.io index) { before with ids := ids } edit with
        ⟨files, succeeded, applied⟩ | ⟨files, failure, failed, refused⟩
      · rw [applied, applyEdit_files]
        rw [succeeded] at persisted
        exact persisted
      · rw [refused]
        rw [failed] at persisted
        exact persisted
  | administer administers =>
      have administered : Administered origin (origin.perform config call.env call.action) :=
        perform_administered administers
      rw [administered.files]
      exact written durable
  | save compacts =>
      cases saved : origin.compactStore config (call.env.io 0) with
      | mk files result =>
          cases result with
          | error failure =>
              rw [compactStore_error saved]
              exact written durable
          | ok _ => exact (written durable).compactStore dated kinds saved
  | advance advances following saved =>
      rename_i next files
      have grows := (CounterId.next_eq_ok following).1
      have holds : Holds config kind { origin with epoch := next }.files := written durable
      refine holds.compactStore (dated.advance following) (fun id record found => ?_) saved
      exact lasting.later _ _ record (kinds id record found) (by simp only; omega)

/-- Every record that recovery makes is of the kind. -/
theorem recovery_kinds {after : StoreFiles} {loaded : PersistedState} (lasting : Lasting kind)
    (loads : Loads config env files after loaded) (seed : Word)
    (kinds : ∀ record ∈ loaded.routes, kind loaded.epoch record) :
    (∀ (id : RouteId) record, (recovery config env seed after loaded).1.routes[id]? = some record →
      kind (recovery config env seed after loaded).1.epoch record) ∧
    ∀ record ∈ (recovery config env seed after loaded).2.upserts,
      kind (recovery config env seed after loaded).1.epoch record := by
  have recovered : Recovered _ _ _ := loads.recovered seed
  have epoch : (recovery config env seed after loaded).1.epoch = loaded.epoch := by
    rw [recovered.frame.epoch, populate_epoch]
  rw [epoch]
  constructor
  · intro id record found
    obtain ⟨earlier, held, evidence⟩ := recovered.evidence id record found
    rw [populate_routes] at held
    exact lasting.evidence _ earlier record (kinds earlier (lookup_index_some held).1) evidence
  · intro record member
    obtain ⟨earlier, held, evidence⟩ := recovered.upserts record member
    rw [populate_routes] at held
    exact lasting.evidence _ earlier record (kinds earlier (lookup_index_some held).1) evidence

theorem Written.restart {after : Impl} (lasting : Lasting kind)
    (small : config.durability ≠ .none → config.limits.maxPersistBytes < 2 ^ 32)
    (written : Written config kind state) (restarts : Restarts config env seed state after) :
    Written config kind after := by
  intro durable
  -- The files were cut when they were loaded, so that recovery may append to them.
  have recovers : ∀ {files loaded}, Loads config env state.files files loaded →
      Holds config kind (persist config (env.io 1) (recovery config env seed files loaded).1
        (recovery config env seed files loaded).2).1 := by
    intro files loaded loads
    obtain ⟨kinds, holds⟩ := loads.written lasting small written
    obtain ⟨holds, untorn⟩ := holds durable
    obtain ⟨held, added⟩ := recovery_kinds lasting loads seed kinds
    have same : (recovery config env seed files loaded).1.files = files := recovery_files files loaded
    rw [← same] at holds untorn
    exact holds.persist (small durable) loads.dated held added
      fun _ torn => absurd (untorn.symm.trans torn) (by simp)
  cases restarts with
  | refused => exact written durable
  | unsaved loads failed =>
      have holds := recovers loads
      rw [failed] at holds
      exact holds
  | opened checked loads saved =>
      rcases saved with ⟨-, -, rfl⟩ | succeeded
      · exact ((loads.written lasting small written).2 durable).1
      · have holds := recovers loads
        rw [succeeded] at holds
        exact holds

/-- The rule for invariants of records that survive restarts. -/
theorem run_written (lasting : Lasting kind) {motive : Impl → Prop} {allowed : Impl → Call → Prop}
    {calls : List Call} (along : Along (step config) allowed (initial seed) calls)
    (appends : ∀ state call, allowed state call → config.durability ≠ .none → AppendsApart config state call)
    (of_motive : ∀ state, motive state → ∀ (id : RouteId) record, state.routes[id]? = some record →
      kind state.epoch record)
    (edits : ∀ origin env action before edit, Indexed origin → motive origin →
      Legal config env origin action before edit → ∀ record ∈ edit.upserts, kind before.epoch record)
    (initially : motive (initial seed))
    (closes : ∀ state fenced barred files, motive state → motive
      { state with
        opened := false, registrations := ∅, fencedBoots := fenced, administrativeFences := barred,
        files := files })
    (moves : ∀ state call, Indexed state → allowed state call → motive state →
      ∀ before after, motive before → Move config call.env state call.action before after → motive after)
    (recovers : ∀ env seed files after loaded stored fenced barred, Loads config env files after loaded →
      (∀ record ∈ loaded.routes, kind loaded.epoch record) → motive
        { (recovery config env seed after loaded).1 with
          files := stored, opened := true, fencedBoots := fenced, administrativeFences := barred }) :
    Indexed (run (step config) (initial seed) calls) ∧ motive (run (step config) (initial seed) calls) := by
  have held : Indexed (run (step config) (initial seed) calls) ∧
      motive (run (step config) (initial seed) calls) ∧
      Dated (run (step config) (initial seed) calls) ∧
      Written config kind (run (step config) (initial seed) calls) := by
    refine run_preserves (motive := fun state => motive state ∧ Dated state ∧
      Written config kind state) along ?_ ?_
    · exact ⟨initially, initial_dated seed, fun _ =>
        ⟨none, [], [], ⟨rfl, rfl, by simp, by simp, torn_nil⟩, by simp, by simp⟩⟩
    · rintro state call indexed allows ⟨holds, dated, written⟩
      have apart := appends state call allows
      refine step_preserves (motive := fun state => motive state ∧ Dated state ∧
        Written config kind state) indexed ⟨holds, dated, written⟩ ?_ ?_
      · rintro takes before after same heldIndexed ⟨held, heldDated, heldWritten⟩ move
        exact ⟨moves state call indexed allows holds before after held move, dated.move heldDated move,
          Written.move lasting apart dated heldDated written (of_motive _ held)
            (fun edit legal => edits state call.env call.action before edit indexed holds legal)
            heldWritten move⟩
      · intro restartSeed after action restarts
        have small := fun durable => (apart durable).small
        refine ⟨?_, dated.restart restarts, written.restart lasting small restarts⟩
        cases restarts with
        | refused => exact closes state _ _ state.files holds
        | unsaved loads failed => exact closes state _ _ _ holds
        | opened checked loads saved =>
            exact recovers call.env restartSeed _ _ _ _ _ _ loads (loads.written lasting small written).1
  exact ⟨held.1, held.2.1⟩

end Impl

end RouteFabric
