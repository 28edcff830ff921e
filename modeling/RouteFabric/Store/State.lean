import RouteFabric.Record.Codec

/-!
# Durable state and journal replay

The durable state of a coordinator is a list of records, of revocations and of
programming attempts with an epoch. A journal entry is one durable mutation batch, and
replaying it upserts its items into the lists. What the lists stand for is `Contents`:
three maps and the two counters, which is also what the runtime holds in memory.
-/

namespace RouteFabric

open ByteReader OrderedMap

/-- Complete durable state of one coordinator. -/
structure PersistedState where
  epoch : CoordinatorEpoch := .one
  policyGeneration : PolicyGeneration := .one
  routes : List RouteRecord := []
  revocations : List RevocationRecord := []
  attempts : List ProgrammingAttemptRecord := []
deriving DecidableEq

/-- One durable mutation batch. -/
structure JournalEntry where
  epoch : CoordinatorEpoch
  policyGeneration : PolicyGeneration
  upserts : List RouteRecord
  revocations : List RevocationRecord
  attempts : List ProgrammingAttemptRecord
deriving DecidableEq

/-- Digests sorted as byte arrays. -/
def sortDigests (digests : List Digest128) : List Digest128 :=
  digests.mergeSort fun left right => decide (left.toNat ≤ right.toNat)

/-- The digest stored with a snapshot: sorted record digests, the revoked identities with
their generations in list order, and the attempt count capped at 255. -/
def PersistedState.digest (state : PersistedState) : Digest128 :=
  let domain := asciiBytes "routefabric.persisted-state.v1"
  let image :=
    (sortDigests (state.routes.map RouteRecord.semanticDigest)).flatMap bytes128 ++
      (state.revocations.flatMap fun revocation => revocation.route.write ++ revocation.generation.write) ++
      [UInt8.ofNat (min state.attempts.length 255)]
  digestOfPair (mix64 (fnvUpdate (fnvUpdate fnvBasis domain) image))
    (mix64 (fnvUpdate (fnvUpdate fnvBasisAlt domain) image))

/-! ## Replay -/

/-- The later of two counters. -/
def laterCounter {tag : CounterTag} (current candidate : CounterId tag) : CounterId tag :=
  if current.value < candidate.value then candidate else current

/-- A record of an older generation never replaces a newer one. -/
def upsertRoute (routes : List RouteRecord) (record : RouteRecord) : List RouteRecord :=
  upsert (fun candidate => decide (candidate.id = record.id))
    (fun existing => decide (existing.generation.value ≤ record.generation.value)) record routes

def upsertRevocation (revocations : List RevocationRecord) (revocation : RevocationRecord) :
    List RevocationRecord :=
  upsert (fun candidate => decide (candidate.route = revocation.route)) (fun _ => true) revocation
    revocations

def upsertAttempt (attempts : List ProgrammingAttemptRecord) (attempt : ProgrammingAttemptRecord) :
    List ProgrammingAttemptRecord :=
  upsert (fun candidate => decide (candidate.attempt = attempt.attempt)) (fun _ => true) attempt
    attempts

/-- Replays one journal entry. -/
def PersistedState.replay (state : PersistedState) (entry : JournalEntry) : PersistedState where
  epoch := laterCounter state.epoch entry.epoch
  policyGeneration := laterCounter state.policyGeneration entry.policyGeneration
  routes := entry.upserts.foldl upsertRoute state.routes
  revocations := entry.revocations.foldl upsertRevocation state.revocations
  attempts := entry.attempts.foldl upsertAttempt state.attempts

theorem laterCounter_value {tag : CounterTag} (current candidate : CounterId tag) :
    (laterCounter current candidate).value = max current.value candidate.value := by
  unfold laterCounter
  split <;> omega

namespace PersistedState

variable {state : PersistedState} {entry : JournalEntry}

/-- A record of a replayed state was there or was replayed. -/
theorem mem_replay_routes {record : RouteRecord} (member : record ∈ (state.replay entry).routes) :
    record ∈ entry.upserts ∨ record ∈ state.routes :=
  mem_foldl_edit mem_upsert member

theorem mem_replay_revocations {revocation : RevocationRecord}
    (member : revocation ∈ (state.replay entry).revocations) :
    revocation ∈ entry.revocations ∨ revocation ∈ state.revocations :=
  mem_foldl_edit mem_upsert member

theorem mem_replay_attempts {attempt : ProgrammingAttemptRecord}
    (member : attempt ∈ (state.replay entry).attempts) :
    attempt ∈ entry.attempts ∨ attempt ∈ state.attempts :=
  mem_foldl_edit mem_upsert member

end PersistedState

/-! ## Contents -/

/-- What durable state stands for: the maps by identity and the two counters. -/
structure Contents where
  epoch : CoordinatorEpoch := .one
  policyGeneration : PolicyGeneration := .one
  routes : Map RouteId RouteRecord := ∅
  revocations : Map RouteId RevocationRecord := ∅
  attempts : Map ProgrammingAttemptId ProgrammingAttemptRecord := ∅

def PersistedState.contents (state : PersistedState) : Contents where
  epoch := state.epoch
  policyGeneration := state.policyGeneration
  routes := index (·.id) state.routes
  revocations := index (·.route) state.revocations
  attempts := index (·.attempt) state.attempts

/-- No identity occurs twice. -/
structure PersistedState.Unique (state : PersistedState) : Prop where
  routes : (state.routes.map (·.id)).Nodup
  revocations : (state.revocations.map (·.route)).Nodup
  attempts : (state.attempts.map (·.attempt)).Nodup

theorem unique_empty : (({} : PersistedState)).Unique := ⟨List.nodup_nil, List.nodup_nil, List.nodup_nil⟩

/-- The upsert of one record, on contents. -/
def insertRoute (routes : Map RouteId RouteRecord) (record : RouteRecord) : Map RouteId RouteRecord :=
  match routes[record.id]? with
  | none => routes.insert record.id record
  | some existing =>
      if existing.generation.value ≤ record.generation.value then routes.insert record.id record
      else routes

/-- The replay of one entry, on contents. -/
def Contents.apply (contents : Contents) (entry : JournalEntry) : Contents where
  epoch := laterCounter contents.epoch entry.epoch
  policyGeneration := laterCounter contents.policyGeneration entry.policyGeneration
  routes := entry.upserts.foldl insertRoute contents.routes
  revocations := entry.revocations.foldl (fun map item => map.insert item.route item) contents.revocations
  attempts := entry.attempts.foldl (fun map item => map.insert item.attempt item) contents.attempts

theorem index_upsertRoute {routes : List RouteRecord} (record : RouteRecord)
    (unique : (routes.map (·.id)).Nodup) :
    index (·.id) (upsertRoute routes record) = insertRoute (index (·.id) routes) record := by
  apply Std.ExtTreeMap.ext_getElem?
  intro key
  rw [upsertRoute, lookup_index_upsert unique, insertRoute]
  by_cases same : record.id = key
  · subst same
    cases found : (index (·.id) routes)[record.id]? with
    | none => simp
    | some existing =>
        by_cases newer : existing.generation.value ≤ record.generation.value <;> simp [found, newer]
  · rw [if_neg same]
    split
    · simp [same]
    · split <;> simp [same]

/-- Records that replay takes in: none is older than the one it replaces. -/
structure Admitted (routes : Map RouteId RouteRecord) (upserts : List RouteRecord) : Prop where
  held : ∀ record ∈ upserts, ∀ existing, routes[record.id]? = some existing →
    existing.generation.value ≤ record.generation.value
  ordered : upserts.Pairwise fun earlier later =>
    earlier.id = later.id → earlier.generation.value ≤ later.generation.value

/-- Replaying admitted records installs them all. -/
theorem Admitted.foldl_insertRoute {routes : Map RouteId RouteRecord} {upserts : List RouteRecord}
    (admitted : Admitted routes upserts) :
    upserts.foldl insertRoute routes =
      upserts.foldl (fun map record => map.insert record.id record) routes := by
  induction upserts generalizing routes with
  | nil => rfl
  | cons record rest ih =>
      have first : insertRoute routes record = routes.insert record.id record := by
        unfold insertRoute
        split
        · rfl
        · rename_i existing found
          rw [if_pos (admitted.held record List.mem_cons_self existing found)]
      obtain ⟨after, ordered⟩ := List.pairwise_cons.mp admitted.ordered
      rw [List.foldl_cons, List.foldl_cons, first]
      refine ih ⟨?_, ordered⟩
      intro other member existing found
      rw [lookup_insert] at found
      split at found
      · rename_i same
        obtain rfl := Option.some.inj found
        exact after other member same
      · exact admitted.held other (List.mem_cons_of_mem _ member) existing found

/-- Replaying on the lists replays on what they stand for, and repeats no identity. -/
theorem PersistedState.Unique.replay {state : PersistedState} (unique : state.Unique)
    (entry : JournalEntry) :
    (state.replay entry).Unique ∧ (state.replay entry).contents = state.contents.apply entry := by
  have routes := index_foldl upsertRoute insertRoute
    (fun _ nodup => nodup_map_upsert nodup) index_upsertRoute entry.upserts unique.routes
  have revocations := index_foldl upsertRevocation (fun map item => map.insert item.route item)
    (fun _ nodup => nodup_map_upsert nodup)
    (fun item nodup => index_upsert_replacing nodup item) entry.revocations unique.revocations
  have attempts := index_foldl upsertAttempt (fun map item => map.insert item.attempt item)
    (fun _ nodup => nodup_map_upsert nodup)
    (fun item nodup => index_upsert_replacing nodup item) entry.attempts unique.attempts
  refine ⟨⟨routes.1, revocations.1, attempts.1⟩, ?_⟩
  simp only [PersistedState.contents, Contents.apply, PersistedState.replay, routes.2,
    revocations.2, attempts.2]

/-- Replaying a journal repeats no identity. -/
theorem PersistedState.Unique.replays {state : PersistedState} (unique : state.Unique)
    (entries : List JournalEntry) : (entries.foldl PersistedState.replay state).Unique := by
  induction entries generalizing state with
  | nil => exact unique
  | cons entry rest ih => exact ih (unique.replay entry).1

end RouteFabric
