import RouteFabric.Std.Upsert
import RouteFabric.Store.Canonical

/-!
# A stale journal

Saving a snapshot replaces the snapshot file and then removes the journal. When the
process ends between the two, or the removal fails, the next load replays the whole old
journal onto a state that has it already, and then whatever was appended since. Replay
absorbs the repetition, so nothing is lost and nothing comes back.
-/

namespace RouteFabric

open OrderedMap

attribute [ext] PersistedState

/-! ## Replay of a journal, list by list -/

theorem upsertRevocation_eq : upsertRevocation = place (·.route) (fun _ => 0) := by
  funext revocations revocation
  simp [upsertRevocation, place]

theorem upsertAttempt_eq : upsertAttempt = place (·.attempt) (fun _ => 0) := by
  funext attempts attempt
  simp [upsertAttempt, place]

theorem foldl_replay_routes (entries : List JournalEntry) (state : PersistedState) :
    (entries.foldl PersistedState.replay state).routes =
      (entries.flatMap (·.upserts)).foldl (place (·.id) (·.generation.value)) state.routes := by
  induction entries generalizing state with
  | nil => rfl
  | cons entry rest ih =>
      rw [List.foldl_cons, ih, List.flatMap_cons, List.foldl_append]
      rfl

theorem foldl_replay_revocations (entries : List JournalEntry) (state : PersistedState) :
    (entries.foldl PersistedState.replay state).revocations =
      (entries.flatMap (·.revocations)).foldl (place (·.route) fun _ => 0) state.revocations := by
  induction entries generalizing state with
  | nil => rfl
  | cons entry rest ih =>
      rw [List.foldl_cons, ih, List.flatMap_cons, List.foldl_append, ← upsertRevocation_eq]
      rfl

theorem foldl_replay_attempts (entries : List JournalEntry) (state : PersistedState) :
    (entries.foldl PersistedState.replay state).attempts =
      (entries.flatMap (·.attempts)).foldl (place (·.attempt) fun _ => 0) state.attempts := by
  induction entries generalizing state with
  | nil => rfl
  | cons entry rest ih =>
      rw [List.foldl_cons, ih, List.flatMap_cons, List.foldl_append, ← upsertAttempt_eq]
      rfl

/-! ## The counters -/

/-- A counter that no entry exceeds is left alone by all of them. -/
theorem foldl_laterCounter {tag : CounterTag} {counters : List (CounterId tag)} {current : CounterId tag}
    (bounded : ∀ counter ∈ counters, counter.value ≤ current.value) :
    counters.foldl laterCounter current = current := by
  induction counters with
  | nil => rfl
  | cons counter rest ih =>
      have below := bounded counter List.mem_cons_self
      rw [List.foldl_cons, laterCounter, if_neg (by omega)]
      exact ih fun other member => bounded other (List.mem_cons_of_mem _ member)

theorem le_foldl_laterCounter {tag : CounterTag} (counters : List (CounterId tag)) (current : CounterId tag) :
    current.value ≤ (counters.foldl laterCounter current).value ∧
      ∀ counter ∈ counters, counter.value ≤ (counters.foldl laterCounter current).value := by
  induction counters generalizing current with
  | nil => exact ⟨Nat.le_refl _, fun _ member => absurd member List.not_mem_nil⟩
  | cons counter rest ih =>
      obtain ⟨start, others⟩ := ih (laterCounter current counter)
      rw [laterCounter_value] at start
      refine ⟨(Nat.le_max_left _ _).trans start, fun other member => ?_⟩
      rcases List.mem_cons.mp member with rfl | inRest
      · exact (Nat.le_max_right _ _).trans start
      · exact others other inRest

theorem foldl_replay_epoch (entries : List JournalEntry) (state : PersistedState) :
    (entries.foldl PersistedState.replay state).epoch = (entries.map (·.epoch)).foldl laterCounter state.epoch := by
  induction entries generalizing state with
  | nil => rfl
  | cons entry rest ih =>
      rw [List.foldl_cons, ih]
      rfl

theorem foldl_replay_policyGeneration (entries : List JournalEntry) (state : PersistedState) :
    (entries.foldl PersistedState.replay state).policyGeneration =
      (entries.map (·.policyGeneration)).foldl laterCounter state.policyGeneration := by
  induction entries generalizing state with
  | nil => rfl
  | cons entry rest ih =>
      rw [List.foldl_cons, ih]
      rfl

/-! ## Absorption -/

/-- A state that stands for what a journal led to, in whatever order its lists are and
with its epoch raised or not, absorbs the journal. -/
theorem replay_compacted {state compacted : PersistedState} {stale : List JournalEntry}
    (unique : state.Unique) (compactedUnique : compacted.Unique)
    (raised : (stale.foldl PersistedState.replay state).epoch.value ≤ compacted.epoch.value)
    (same : compacted.contents =
      { (stale.foldl PersistedState.replay state).contents with epoch := compacted.epoch }) :
    stale.foldl PersistedState.replay compacted = compacted := by
  obtain ⟨-, epochs⟩ := le_foldl_laterCounter (stale.map (·.epoch)) state.epoch
  obtain ⟨-, policies⟩ := le_foldl_laterCounter (stale.map (·.policyGeneration)) state.policyGeneration
  rw [← foldl_replay_epoch] at epochs
  rw [← foldl_replay_policyGeneration] at policies
  have policy := congrArg Contents.policyGeneration same
  have routes := congrArg Contents.routes same
  have revocations := congrArg Contents.revocations same
  have attempts := congrArg Contents.attempts same
  simp only [PersistedState.contents, foldl_replay_routes, foldl_replay_revocations,
    foldl_replay_attempts] at policy routes revocations attempts
  apply PersistedState.ext
  · rw [foldl_replay_epoch]
    exact foldl_laterCounter fun counter member => (epochs counter member).trans raised
  · rw [foldl_replay_policyGeneration]
    exact foldl_laterCounter fun counter member => policy ▸ policies counter member
  · rw [foldl_replay_routes]
    exact foldl_place_absorbed unique.routes compactedUnique.routes routes
  · rw [foldl_replay_revocations]
    exact foldl_place_absorbed unique.revocations compactedUnique.revocations revocations
  · rw [foldl_replay_attempts]
    exact foldl_place_absorbed unique.attempts compactedUnique.attempts attempts

/-- A stale journal is absorbed. Replayed again onto what it led to it changes nothing;
and onto every compacted state with the same contents, in whatever order, its epoch raised
or not, the stale journal and what was appended after it are replayed as if the stale one
were gone. -/
theorem replay_absorbs (state : PersistedState) (unique : state.Unique) (stale : List JournalEntry) :
    stale.foldl PersistedState.replay (stale.foldl PersistedState.replay state) =
        stale.foldl PersistedState.replay state ∧
      ∀ compacted : PersistedState, compacted.Unique →
        (stale.foldl PersistedState.replay state).epoch.value ≤ compacted.epoch.value →
        compacted.contents =
          { (stale.foldl PersistedState.replay state).contents with epoch := compacted.epoch } →
        stale.foldl PersistedState.replay compacted = compacted ∧
          ∀ following : List JournalEntry,
            (stale ++ following).foldl PersistedState.replay compacted =
              following.foldl PersistedState.replay compacted := by
  refine ⟨replay_compacted unique (unique.replays stale) (Nat.le_refl _) rfl, ?_⟩
  intro compacted compactedUnique raised same
  have absorbed := replay_compacted unique compactedUnique raised same
  refine ⟨absorbed, fun following => ?_⟩
  rw [List.foldl_append, absorbed]

/-- The entry of a later generation of the stored route. -/
def Stored.entry : JournalEntry :=
  { epoch := .one, policyGeneration := .one,
    upserts := [{ Stored.record with generation := .fromValue 2 }], revocations := [], attempts := [] }

/-- The epoch of what the journal led to may be raised before it is saved. -/
theorem replay_absorbs_advanced :
    [Stored.entry].foldl PersistedState.replay
        { [Stored.entry].foldl PersistedState.replay Stored.state with epoch := .fromValue 2 } =
      { [Stored.entry].foldl PersistedState.replay Stored.state with epoch := .fromValue 2 } := by
  have unique : Stored.state.Unique := ⟨List.nodup_singleton _, List.nodup_singleton _, List.nodup_singleton _⟩
  have reached := unique.replays [Stored.entry]
  exact ((replay_absorbs Stored.state unique [Stored.entry]).2
    { [Stored.entry].foldl PersistedState.replay Stored.state with epoch := .fromValue 2 }
    ⟨reached.routes, reached.revocations, reached.attempts⟩ (by decide) rfl).1

end RouteFabric
