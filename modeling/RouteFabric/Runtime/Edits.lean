import RouteFabric.Runtime.Operations

/-!
# What an edit does to the state

The effect of a mutation batch on each map, the fields it leaves alone, and `Indexed`,
the agreement between the maps and the identities of what they hold. Every edit keeps
that agreement, whatever records it installs.
-/

namespace RouteFabric

open OrderedMap

namespace Impl

/-- Two states that differ at most in their records, indexes, revocations, attempts and
files. -/
structure Frame (before after : Impl) : Prop where
  epoch : after.epoch = before.epoch
  policyGeneration : after.policyGeneration = before.policyGeneration
  opened : after.opened = before.opened
  registrations : after.registrations = before.registrations
  administrativeFences : after.administrativeFences = before.administrativeFences
  fencedBoots : after.fencedBoots = before.fencedBoots
  ids : after.ids = before.ids

theorem Frame.refl (state : Impl) : Frame state state := ⟨rfl, rfl, rfl, rfl, rfl, rfl, rfl⟩

theorem Frame.trans {first second third : Impl} (before : Frame first second)
    (after : Frame second third) : Frame first third :=
  ⟨after.epoch.trans before.epoch, after.policyGeneration.trans before.policyGeneration,
    after.opened.trans before.opened, after.registrations.trans before.registrations,
    after.administrativeFences.trans before.administrativeFences,
    after.fencedBoots.trans before.fencedBoots, after.ids.trans before.ids⟩

/-- The indexes other than that of the keys, as one value. -/
def secondary (state : Impl) : Map PathId (FinSet RouteId) × Map PublisherId (FinSet RouteId) ×
    Map RouteLifecycle (FinSet RouteId) × Map RoutingNamespace Nat :=
  (state.pathIndex, state.publisherIndex, state.lifecycleIndex, state.namespaceCounts)

/-! ## Frames of the primitives -/

section Primitives

variable {state : Impl}

theorem commit_frame (record : RouteRecord) : Frame state (state.commit record) := by
  unfold commit
  split <;> exact ⟨rfl, rfl, rfl, rfl, rfl, rfl, rfl⟩

theorem settleAttempt_frame (attempt : ProgrammingAttemptRecord) :
    Frame state (state.settleAttempt attempt) := by
  unfold settleAttempt
  split <;> exact ⟨rfl, rfl, rfl, rfl, rfl, rfl, rfl⟩

/-- A sequence of steps of one kind leaves alone what each of them leaves alone. -/
theorem foldl_frame {α : Type} (edit : Impl → α → Impl)
    (frame : ∀ state item, Frame state (edit state item)) (items : List α) : Frame state (items.foldl edit state) := by
  induction items generalizing state with
  | nil => exact .refl state
  | cons item rest ih => exact (frame state item).trans ih

theorem applyEdit_frame (edit : Edit) : Frame state (state.applyEdit edit) :=
  ((foldl_frame commit (fun _ record => commit_frame record) edit.upserts).trans
    (foldl_frame revoke (fun _ _ => ⟨rfl, rfl, rfl, rfl, rfl, rfl, rfl⟩) edit.revoked)).trans
      (foldl_frame settleAttempt (fun _ attempt => settleAttempt_frame attempt) edit.attempts)

/-- An edit is applied when its write succeeded, and otherwise only the files change. -/
theorem acknowledge_cases (config : RuntimeConfig) (io : IoOutcome) (state : Impl) (edit : Edit) :
    (∃ files, state.persist config io edit = (files, .ok ()) ∧
      state.acknowledge config io edit = (applyEdit { state with files := files } edit, .ok ())) ∨
    ∃ files failure, state.persist config io edit = (files, .error failure) ∧
      state.acknowledge config io edit = ({ state with files := files }, .error failure) := by
  unfold acknowledge
  split
  · rename_i files written
    exact .inl ⟨files, written, rfl⟩
  · rename_i files failure failed
    exact .inr ⟨files, failure, failed, rfl⟩

theorem files_frame (files : StoreFiles) : Frame state { state with files := files } :=
  ⟨rfl, rfl, rfl, rfl, rfl, rfl, rfl⟩

theorem acknowledge_frame (config : RuntimeConfig) (io : IoOutcome) (edit : Edit) :
    Frame state (state.acknowledge config io edit).1 := by
  rcases acknowledge_cases config io state edit with ⟨files, -, applied⟩ | ⟨files, failure, -, failed⟩
  · rw [applied]
    exact (files_frame files).trans (applyEdit_frame edit)
  · rw [failed]
    exact files_frame files

/-! ## Effects on the maps -/

/-- A value that every step of a sequence leaves alone is left alone. -/
theorem foldl_project {α β : Type} (project : Impl → β) (edit : Impl → α → Impl)
    (keeps : ∀ state item, project (edit state item) = project state) (items : List α) :
    project (items.foldl edit state) = project state := by
  induction items generalizing state with
  | nil => rfl
  | cons item rest ih => rw [List.foldl_cons, ih, keeps]

/-- A map that every step of a sequence inserts its item into. -/
theorem foldl_insert {α κ : Type} [Ord κ] [Std.TransOrd κ] (project : Impl → Map κ α)
    (edit : Impl → α → Impl) (keyOf : α → κ)
    (inserts : ∀ state item, project (edit state item) = (project state).insert (keyOf item) item)
    (items : List α) :
    project (items.foldl edit state) =
      items.foldl (fun map item => map.insert (keyOf item) item) (project state) := by
  induction items generalizing state with
  | nil => rfl
  | cons item rest ih => rw [List.foldl_cons, ih, inserts, List.foldl_cons]

@[simp] theorem commit_routes (record : RouteRecord) :
    (state.commit record).routes = state.routes.insert record.id record := by
  unfold commit
  split <;> rfl

@[simp] theorem commit_revocations (record : RouteRecord) :
    (state.commit record).revocations = state.revocations := by
  unfold commit
  split <;> rfl

@[simp] theorem commit_attempts (record : RouteRecord) :
    (state.commit record).attempts = state.attempts := by
  unfold commit
  split <;> rfl

@[simp] theorem commit_outstandingProgramming (record : RouteRecord) :
    (state.commit record).outstandingProgramming = state.outstandingProgramming := by
  unfold commit
  split <;> rfl

@[simp] theorem commit_files (record : RouteRecord) : (state.commit record).files = state.files := by
  unfold commit
  split <;> rfl

@[simp] theorem settleAttempt_attempts (attempt : ProgrammingAttemptRecord) :
    (state.settleAttempt attempt).attempts = state.attempts.insert attempt.attempt attempt := by
  unfold settleAttempt
  split <;> rfl

@[simp] theorem settleAttempt_routes (attempt : ProgrammingAttemptRecord) :
    (state.settleAttempt attempt).routes = state.routes := by
  unfold settleAttempt
  split <;> rfl

@[simp] theorem settleAttempt_revocations (attempt : ProgrammingAttemptRecord) :
    (state.settleAttempt attempt).revocations = state.revocations := by
  unfold settleAttempt
  split <;> rfl

@[simp] theorem settleAttempt_keyIndex (attempt : ProgrammingAttemptRecord) :
    (state.settleAttempt attempt).keyIndex = state.keyIndex := by
  unfold settleAttempt
  split <;> rfl

@[simp] theorem settleAttempt_files (attempt : ProgrammingAttemptRecord) :
    (state.settleAttempt attempt).files = state.files := by
  unfold settleAttempt
  split <;> rfl

theorem applyEdit_routes (edit : Edit) :
    (state.applyEdit edit).routes =
      edit.upserts.foldl (fun map record => map.insert record.id record) state.routes := by
  rw [applyEdit, foldl_project routes settleAttempt (fun _ _ => settleAttempt_routes _),
    foldl_project routes revoke (fun _ _ => rfl),
    foldl_insert routes commit (·.id) (fun _ record => commit_routes record)]

theorem applyEdit_revocations (edit : Edit) :
    (state.applyEdit edit).revocations =
      edit.revoked.foldl (fun map item => map.insert item.route item) state.revocations := by
  rw [applyEdit, foldl_project revocations settleAttempt (fun _ _ => settleAttempt_revocations _),
    foldl_insert revocations revoke (·.route) (fun _ _ => rfl),
    foldl_project revocations commit (fun _ _ => commit_revocations _)]

theorem applyEdit_attempts (edit : Edit) :
    (state.applyEdit edit).attempts =
      edit.attempts.foldl (fun map item => map.insert item.attempt item) state.attempts := by
  rw [applyEdit, foldl_insert attempts settleAttempt (·.attempt) (fun _ attempt => settleAttempt_attempts attempt),
    foldl_project attempts revoke (fun _ _ => rfl),
    foldl_project attempts commit (fun _ _ => commit_attempts _)]

theorem applyEdit_keyIndex (edit : Edit) :
    (state.applyEdit edit).keyIndex = (edit.upserts.foldl commit state).keyIndex := by
  rw [applyEdit, foldl_project keyIndex settleAttempt (fun _ _ => settleAttempt_keyIndex _),
    foldl_project keyIndex revoke (fun _ _ => rfl)]

theorem applyEdit_files (edit : Edit) : (state.applyEdit edit).files = state.files := by
  rw [applyEdit, foldl_project files settleAttempt (fun _ _ => settleAttempt_files _),
    foldl_project files revoke (fun _ _ => rfl),
    foldl_project files commit (fun _ _ => commit_files _)]

end Primitives

/-- What an edit makes of the contents depends on the contents alone. -/
theorem applyEdit_contents_congr {before other : Impl} (same : before.contents = other.contents)
    (edit : Edit) : (before.applyEdit edit).contents = (other.applyEdit edit).contents := by
  obtain ⟨epoch, policyGeneration, routes, revocations, attempts⟩ := Contents.mk.inj same
  simp only [contents, applyEdit_routes, applyEdit_revocations, applyEdit_attempts,
    (applyEdit_frame edit).epoch, (applyEdit_frame edit).policyGeneration, epoch, policyGeneration,
    routes, revocations, attempts]

/-- A record found after an edit was installed by it, or was there and kept. -/
theorem lookup_applyEdit {state : Impl} {edit : Edit} {id : RouteId} {record : RouteRecord}
    (found : (state.applyEdit edit).routes[id]? = some record) :
    (record ∈ edit.upserts ∧ record.id = id) ∨
      (∀ other ∈ edit.upserts, other.id ≠ id) ∧ state.routes[id]? = some record := by
  rw [applyEdit_routes] at found
  exact lookup_foldl_insert_some found

/-- The record of a route after an edit is the one of before or the one installed. -/
theorem lookup_applyEdit_of_held (state : Impl) (edit : Edit) {id : RouteId} {record : RouteRecord}
    (held : state.routes[id]? = some record) :
    ∃ after, (state.applyEdit edit).routes[id]? = some after ∧
      (after = record ∨ after ∈ edit.upserts ∧ after.id = id) := by
  have present : id ∈ (state.applyEdit edit).routes := by
    rw [applyEdit_routes, mem_foldl_insert]
    exact .inr ((mem_iff_lookup _ _).mpr ⟨record, held⟩)
  obtain ⟨after, found⟩ := (mem_iff_lookup _ _).mp present
  rcases lookup_applyEdit found with installed | ⟨-, kept⟩
  · exact ⟨after, found, .inr installed⟩
  · exact ⟨after, found, .inl (Option.some.inj (kept.symm.trans held))⟩

/-- What the records of a state and those of an edit have in common, the records after it
have too, whether or not the write succeeded. -/
theorem acknowledge_records {state : Impl} {edit : Edit} {holds : RouteRecord → Prop}
    (config : RuntimeConfig) (io : IoOutcome)
    (before : ∀ (id : RouteId) record, state.routes[id]? = some record → holds record)
    (added : ∀ record ∈ edit.upserts, holds record) (id : RouteId) (record : RouteRecord)
    (found : (state.acknowledge config io edit).1.routes[id]? = some record) : holds record := by
  rcases acknowledge_cases config io state edit with ⟨files, -, applied⟩ | ⟨files, failure, -, failed⟩
  · rw [applied] at found
    rcases lookup_applyEdit found with ⟨member, -⟩ | ⟨-, kept⟩
    · exact added record member
    · exact before id record kept
  · rw [failed] at found
    exact before id record found

/-! ## Agreement of maps and identities -/

/-- Everything a map holds is held under its own identity, and the key index names live
records of the key. -/
structure Indexed (state : Impl) : Prop where
  routes : ∀ (id : RouteId) record, state.routes[id]? = some record → record.id = id
  identified : ∀ (id : RouteId) record, state.routes[id]? = some record → id.isValid = true
  revocations : ∀ (id : RouteId) revocation, state.revocations[id]? = some revocation →
    revocation.route = id
  attempts : ∀ (id : ProgrammingAttemptId) attempt, state.attempts[id]? = some attempt →
    attempt.attempt = id
  keys : ∀ (key : RouteKey) (id : RouteId), state.keyIndex[key]? = some id →
    ∃ record, state.routes[id]? = some record ∧ record.key = key ∧ record.lifecycle ≠ .superseded

namespace Indexed

variable {state : Impl}

/-- The key index after a commit: the record's key names it unless it is superseded, and
no other key names it. -/
theorem lookup_commit (indexed : Indexed state) (record : RouteRecord) (key : RouteKey) :
    (state.commit record).keyIndex[key]? =
      if record.lifecycle ≠ .superseded ∧ record.key = key then some record.id
      else if state.keyIndex[key]? = some record.id then none else state.keyIndex[key]? := by
  have erased : ∀ index : Map RouteKey RouteId,
      (if record.lifecycle = .superseded then index else index.insert record.key record.id)[key]? =
        if record.lifecycle ≠ .superseded ∧ record.key = key then some record.id else index[key]? := by
    intro index
    by_cases lost : record.lifecycle = .superseded <;> simp [lost]
  unfold commit
  cases held : state.routes[record.id]? with
  | none =>
      have unnamed : state.keyIndex[key]? ≠ some record.id := by
        intro named
        obtain ⟨_, present, _⟩ := indexed.keys key record.id named
        rw [held] at present
        cases present
      simp only [indexInsert]
      rw [erased, if_neg unnamed]
  | some existing =>
      have same := indexed.routes record.id existing held
      simp only [indexInsert, indexErase]
      rw [erased]
      split
      · rfl
      -- A key that names the identity is the key of the record that is replaced.
      have owner : state.keyIndex[key]? = some record.id → existing.key = key := by
        intro named
        obtain ⟨found, present, sameKey, _⟩ := indexed.keys key record.id named
        rw [held, Option.some.injEq] at present
        rwa [present]
      by_cases named : state.keyIndex[key]? = some record.id
      · have sameKey := owner named
        rw [if_pos named, sameKey, same, if_pos named, lookup_erase, if_pos rfl]
      · rw [if_neg named]
        split
        · rename_i indexedHere
          rw [lookup_erase, if_neg]
          rintro rfl
          exact named (same ▸ indexedHere)
        · rfl

theorem commit (indexed : Indexed state) {record : RouteRecord} (valid : record.id.isValid = true) :
    Indexed (state.commit record) where
  routes := by
    intro id found present
    rw [commit_routes, lookup_insert] at present
    split at present
    · rename_i same
      exact Option.some.inj present ▸ same
    · exact indexed.routes id found present
  identified := by
    intro id found present
    rw [commit_routes, lookup_insert] at present
    split at present
    · rename_i same
      exact same ▸ valid
    · exact indexed.identified id found present
  revocations := by
    rw [commit_revocations]
    exact indexed.revocations
  attempts := by
    rw [commit_attempts]
    exact indexed.attempts
  keys := by
    intro key id named
    rw [indexed.lookup_commit] at named
    rw [commit_routes]
    split at named
    · rename_i live
      obtain rfl := Option.some.inj named
      exact ⟨record, lookup_insert_self .., live.2, live.1⟩
    · split at named
      · cases named
      · rename_i kept
        obtain ⟨found, present, sameKey, live⟩ := indexed.keys key id named
        refine ⟨found, ?_, sameKey, live⟩
        have other : record.id ≠ id := by
          rintro rfl
          exact kept named
        rw [lookup_insert_of_ne _ _ other]
        exact present

theorem commits (indexed : Indexed state) {records : List RouteRecord}
    (valid : ∀ record ∈ records, record.id.isValid = true) :
    Indexed (records.foldl Impl.commit state) := by
  induction records generalizing state with
  | nil => exact indexed
  | cons record rest ih =>
      exact ih (indexed.commit (valid record List.mem_cons_self))
        fun other member => valid other (List.mem_cons_of_mem _ member)

theorem applyEdit (indexed : Indexed state) (edit : Edit)
    (valid : ∀ record ∈ edit.upserts, record.id.isValid = true) : Indexed (state.applyEdit edit) where
  routes := by
    intro id record found
    rcases lookup_applyEdit found with ⟨-, same⟩ | ⟨-, kept⟩
    · exact same
    · exact indexed.routes id record kept
  identified := by
    intro id record found
    rcases lookup_applyEdit found with ⟨member, same⟩ | ⟨-, kept⟩
    · exact same ▸ valid record member
    · exact indexed.identified id record kept
  revocations := by
    intro id revocation found
    rw [applyEdit_revocations] at found
    rcases lookup_foldl_insert_some found with ⟨-, same⟩ | ⟨-, kept⟩
    · exact same
    · exact indexed.revocations id revocation kept
  attempts := by
    intro id attempt found
    rw [applyEdit_attempts] at found
    rcases lookup_foldl_insert_some found with ⟨-, same⟩ | ⟨-, kept⟩
    · exact same
    · exact indexed.attempts id attempt kept
  keys := by
    intro key id named
    rw [applyEdit_keyIndex] at named
    obtain ⟨record, present, rest⟩ := (indexed.commits valid).keys key id named
    rw [foldl_insert Impl.routes Impl.commit (·.id) (fun _ record => commit_routes record)] at present
    exact ⟨record, by rw [applyEdit_routes]; exact present, rest⟩

/-- A key leads to the live record that the index names. -/
theorem lookupKey (indexed : Indexed state) {key : RouteKey} {record : RouteRecord}
    (found : state.lookupKey key = some record) :
    state.keyIndex[key]? = some record.id ∧ state.routes[record.id]? = some record ∧
      record.key = key ∧ record.lifecycle ≠ .superseded ∧ record.id.isValid = true := by
  unfold Impl.lookupKey at found
  obtain ⟨id, named, present⟩ := Option.bind_eq_some_iff.mp found
  obtain ⟨other, otherPresent, sameKey, live⟩ := indexed.keys key id named
  obtain rfl := Option.some.inj (present.symm.trans otherPresent)
  have same := indexed.routes id record present
  subst same
  exact ⟨named, present, sameKey, live, indexed.identified _ _ present⟩

/-- A key leads to no record exactly when the index does not name it. -/
theorem lookupKey_eq_none (indexed : Indexed state) {key : RouteKey} :
    state.lookupKey key = none ↔ state.keyIndex[key]? = none := by
  unfold Impl.lookupKey
  cases named : state.keyIndex[key]? with
  | none => simp
  | some id =>
      obtain ⟨record, present, -⟩ := indexed.keys key id named
      simp [present]

end Indexed

/-- Fields outside the maps do not matter to the agreement. -/
theorem Indexed.congr {before after : Impl} (indexed : Indexed before)
    (routes : after.routes = before.routes) (revocations : after.revocations = before.revocations)
    (attempts : after.attempts = before.attempts) (keyIndex : after.keyIndex = before.keyIndex) :
    Indexed after := by
  constructor
  · rw [routes]
    exact indexed.routes
  · rw [routes]
    exact indexed.identified
  · rw [revocations]
    exact indexed.revocations
  · rw [attempts]
    exact indexed.attempts
  · rw [keyIndex, routes]
    exact indexed.keys

theorem Indexed.acknowledge {state : Impl} (indexed : Indexed state) {edit : Edit}
    (valid : ∀ record ∈ edit.upserts, record.id.isValid = true) (config : RuntimeConfig) (io : IoOutcome) :
    Indexed (state.acknowledge config io edit).1 := by
  rcases acknowledge_cases config io state edit with ⟨files, -, applied⟩ | ⟨files, failure, -, failed⟩
  · rw [applied]
    have written : Indexed { state with files := files } := indexed.congr rfl rfl rfl rfl
    exact written.applyEdit edit valid
  · rw [failed]
    exact indexed.congr rfl rfl rfl rfl

end Impl

end RouteFabric
