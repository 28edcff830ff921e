import RouteFabric.Safety.Revocation

/-!
# Work that is said to be in flight

A withdrawal of a route that is `Withdrawing`, and a replayed publication of one that is
`Installing`, are answered from the lifecycle alone: work is in progress. That is true
while an unresolved attempt serves the record and its completion would be taken in. Every
operation keeps it so but the advance of the epoch, which makes the attempts of every
waiting route stale and leaves the routes waiting.
-/

namespace RouteFabric

open OrderedMap Run

/-! ## Attempts that serve a record -/

/-- An unresolved attempt for the generations of a record and for what the record waits
for. -/
structure ProgrammingAttemptRecord.Serves (attempt : ProgrammingAttemptRecord) (record : RouteRecord) :
    Prop where
  pending : attempt.resolved = false
  route : attempt.route = record.id
  programmed : attempt.programmingGeneration = record.programmingGeneration
  desired : attempt.desiredGeneration = record.generation
  operation : attempt.operation = .withdraw ↔ record.lifecycle = .withdrawing

/-- Every route that waits for an outcome has an attempt that serves it. -/
def Contents.Attended (contents : Contents) : Prop :=
  ∀ (id : RouteId) record, contents.routes[id]? = some record →
    record.lifecycle.hasOutstandingProgramming = true →
    ∃ attempt : ProgrammingAttemptRecord, contents.attempts[attempt.attempt]? = some attempt ∧
      attempt.Serves record

/-- An attempt opened with a record serves it. -/
theorem RouteRecord.attemptFor_serves {record : RouteRecord} {operation : ProgrammingOperation}
    (kind : record.lifecycle = if operation = .withdraw then .withdrawing else .installing)
    (attempt : ProgrammingAttemptId) (epoch : CoordinatorEpoch) :
    (record.attemptFor attempt operation epoch).Serves record := by
  refine ⟨rfl, rfl, rfl, rfl, ?_⟩
  change operation = .withdraw ↔ _
  rw [kind]
  split <;> simp [*]

/-- Evidence that leaves a record waiting leaves it served. -/
theorem ProgrammingAttemptRecord.Serves.evidence {attempt : ProgrammingAttemptRecord}
    {record updated : RouteRecord} (serves : attempt.Serves record) (evidence : record.Evidence updated)
    (lifecycle : updated.lifecycle = record.lifecycle) : attempt.Serves updated :=
  ⟨serves.pending, serves.route.trans evidence.id.symm,
    serves.programmed.trans evidence.programmingGeneration.symm,
    serves.desired.trans evidence.generation.symm, lifecycle ▸ serves.operation⟩

/-- Every outcome of the operation that a record waits for has a transition. -/
theorem next_of_serves {attempt : ProgrammingAttemptRecord} {record : RouteRecord}
    (waits : record.lifecycle.hasOutstandingProgramming = true) (serves : attempt.Serves record)
    (outcome : ProgrammingOutcome) :
    nextLifecycle record.lifecycle (completionEvent attempt.operation outcome) ≠ none := by
  have withdraws : ∀ outcome, nextLifecycle .withdrawing (withdrawEvent outcome) ≠ none := by
    intro outcome
    cases outcome <;> decide
  have installs : ∀ outcome, nextLifecycle .installing (installEvent outcome) ≠ none := by
    intro outcome
    cases outcome <;> decide
  simp only [RouteLifecycle.hasOutstandingProgramming, decide_eq_true_eq] at waits
  unfold completionEvent
  split
  · rename_i withdraw
    rw [serves.operation.mp withdraw]
    exact withdraws outcome
  · rename_i install
    rcases waits with installing | withdrawing
    · rw [installing]
      exact installs outcome
    · exact absurd (serves.operation.mpr withdrawing) install

/-- One route published, and the epoch advanced while its attempt is outstanding. -/
def Scenario.advanced : List Call :=
  published ++ [⟨env, .advanceEpoch⟩, ⟨env, .register operator boot override⟩]

namespace Impl

variable {config : RuntimeConfig} {env : Env} {seed : Word} {origin state after : Impl} {call : Call}
  {edit : Edit}

/-! ## The invariant -/

/-- Every waiting route is served under the current epoch, and none is revoked. -/
def Attentive (state : Impl) : Prop :=
  ∀ (id : RouteId) record, state.routes[id]? = some record →
    record.lifecycle.hasOutstandingProgramming = true →
    state.revocations[id]? = none ∧
      ∃ attempt : ProgrammingAttemptRecord, state.attempts[attempt.attempt]? = some attempt ∧
        attempt.Serves record ∧ attempt.epoch = state.epoch

theorem Attentive.attended (attentive : Attentive state) : state.contents.Attended := by
  intro id record found waits
  obtain ⟨-, attempt, known, serves, -⟩ := attentive id record found waits
  exact ⟨attempt, known, serves⟩

theorem Attentive.congr (attentive : Attentive state) (same : after.contents = state.contents) :
    Attentive after := by
  have routes : after.routes = state.routes := congrArg Contents.routes same
  have revocations : after.revocations = state.revocations := congrArg Contents.revocations same
  have attempts : after.attempts = state.attempts := congrArg Contents.attempts same
  have epoch : after.epoch = state.epoch := congrArg Contents.epoch same
  unfold Attentive
  rw [routes, revocations, attempts, epoch]
  exact attentive

/-- An attempt that serves a waiting route is not overtaken. -/
theorem overtaken_of_serves {attempt : ProgrammingAttemptRecord} {record : RouteRecord}
    (waits : record.lifecycle.hasOutstandingProgramming = true) (serves : attempt.Serves record)
    (epoch : attempt.epoch = state.epoch) (unrevoked : state.revocations[record.id]? = none) :
    state.overtaken attempt record = false := by
  have standing : record.lifecycle ≠ .retired ∧ record.lifecycle ≠ .superseded := by
    constructor <;> intro same <;> rw [same] at waits <;> cases waits
  simp [overtaken, serves.programmed, serves.desired, epoch, standing.1, standing.2, unrevoked]

/-- Whether the identity that a call draws for an attempt is that of no unresolved one. -/
def drawsUnpending (state : Impl) (call : Call) : Bool :=
  match state.drawsAttempt call with
  | some id => state.attempts[id]?.all (·.resolved)
  | none => true

/-- A record that an edit leaves waiting is dispatched by it, or waited before. -/
theorem Legal.waiting (indexed : Indexed origin)
    (legal : Legal config env origin call.action state edit) {updated : RouteRecord}
    (member : updated ∈ edit.upserts) (waits : updated.lifecycle.hasOutstandingProgramming = true) :
    (∃ attempt, edit.attempts = [attempt] ∧ attempt.Serves updated ∧ attempt.epoch = state.epoch) ∨
      edit.attempts = [] ∧ ∃ record, state.routes[updated.id]? = some record ∧
        record.Evidence updated ∧ updated.lifecycle = record.lifecycle := by
  have dispatched : ∀ {operation : ProgrammingOperation} {attempt : ProgrammingAttemptRecord},
      Dispatched config state updated operation attempt →
      updated.lifecycle = (if operation = .withdraw then .withdrawing else .installing) →
      attempt.Serves updated ∧ attempt.epoch = state.epoch := by
    intro operation attempt dispatched lifecycle
    rw [dispatched.waits]
    exact ⟨RouteRecord.attemptFor_serves lifecycle _ _, rfl⟩
  generalize call.action = action at legal
  cases legal with
  | takeover taken =>
      obtain rfl := List.mem_singleton.mp member
      obtain ⟨generation, authorityGeneration, -, rfl⟩ := taken.made
      cases waits
  | create created =>
      obtain rfl := List.mem_singleton.mp member
      obtain ⟨programmingGeneration, -, made⟩ := created.made
      exact .inl ⟨_, rfl, dispatched created.dispatched (by rw [made]; rfl)⟩
  | replace replaced =>
      obtain rfl := List.mem_singleton.mp member
      obtain ⟨generation, authorityGeneration, programmingGeneration, -, -, made⟩ := replaced.made
      exact .inl ⟨_, rfl, dispatched replaced.dispatched (by rw [made]; rfl)⟩
  | withdraw withdrawn =>
      obtain rfl := List.mem_singleton.mp member
      obtain ⟨generation, authorityGeneration, programmingGeneration, -, -, made⟩ := withdrawn.made
      exact .inl ⟨_, rfl, dispatched withdrawn.dispatched (by rw [made]; rfl)⟩
  | revalidate revalidated =>
      obtain rfl := List.mem_singleton.mp member
      obtain ⟨generation, authorityGeneration, programmingGeneration, -, -, made⟩ := revalidated.made
      refine .inl ⟨_, rfl, dispatched revalidated.dispatched ?_⟩
      rw [made]
      split <;> rfl
  | retire retired =>
      obtain rfl := List.mem_singleton.mp member
      obtain ⟨generation, authorityGeneration, -, rfl⟩ := retired.closing.made
      cases waits
  | revoke revoked =>
      obtain rfl := List.mem_singleton.mp member
      obtain ⟨generation, authorityGeneration, -, rfl⟩ := revoked.closing.made
      cases waits
  | invalidate unique invalidated =>
      obtain ⟨record, change⟩ := invalidated updated member
      obtain ⟨generation, authorityGeneration, -, rfl⟩ := change.made
      cases waits
  | resolve awaited => cases member
  | complete completed =>
      rename_i result attempt record updated
      obtain rfl := List.mem_singleton.mp member
      obtain ⟨lifecycle, allowed, rfl⟩ := completed.made
      have target := (next_completionEvent allowed).2
      have settled := completionTarget_settled attempt.operation result.outcome
      rw [← target] at settled
      change lifecycle.hasOutstandingProgramming = true at waits
      rw [settled] at waits
      cases waits
  | observe observed =>
      obtain rfl := List.mem_singleton.mp member
      obtain rfl := observed.made
      refine .inr ⟨rfl, _, ?_, RouteRecord.observed_evidence _ _ _, rfl⟩
      have found := observed.found
      rw [← indexed.routes _ _ found] at found
      exact found

/-- An edit that writes an attempt a waiting route is served by installs that route. -/
theorem Legal.spares (indexed : Indexed origin) (heldIndexed : Indexed state)
    (unpending : origin.drawsUnpending call = true) (attentive : Attentive state)
    (legal : Legal config env origin call.action state edit) {id : RouteId} {record : RouteRecord}
    (found : state.routes[id]? = some record) (untouched : ∀ other ∈ edit.upserts, other.id ≠ id)
    (waits : record.lifecycle.hasOutstandingProgramming = true) {attempt : ProgrammingAttemptRecord}
    (known : state.attempts[attempt.attempt]? = some attempt) (serves : attempt.Serves record)
    (epoch : attempt.epoch = state.epoch) :
    ∀ written ∈ edit.attempts, written.attempt ≠ attempt.attempt := by
  intro written member same
  have own : record.id = id := heldIndexed.routes _ _ found
  have pending := serves.pending
  -- A new attempt is recorded under an identity that no unresolved attempt has.
  have opens : state.attempts = origin.attempts → written.resolved = false → False := by
    intro attempts outstanding
    have draws := legal.drawn member outstanding
    simp only [drawsUnpending, draws, same, ← attempts, known, Option.all_some] at unpending
    rw [pending] at unpending
    cases unpending
  generalize call.action = action at legal
  cases legal with
  | takeover | retire | revoke | invalidate | observe => cases member
  | create created =>
      obtain rfl := List.mem_singleton.mp member
      exact opens created.attempts (by rw [created.dispatched.waits]; rfl)
  | replace replaced =>
      obtain rfl := List.mem_singleton.mp member
      exact opens rfl (by rw [replaced.dispatched.waits]; rfl)
  | withdraw withdrawn =>
      obtain rfl := List.mem_singleton.mp member
      exact opens rfl (by rw [withdrawn.dispatched.waits]; rfl)
  | revalidate revalidated =>
      obtain rfl := List.mem_singleton.mp member
      exact opens rfl (by rw [revalidated.dispatched.waits]; rfl)
  | resolve awaited idle =>
      rename_i result resolving target
      obtain rfl := List.mem_singleton.mp member
      have name : resolving.attempt = result.attempt := indexed.attempts _ _ awaited.known
      have same : resolving.attempt = attempt.attempt := same
      obtain rfl : resolving = attempt := by
        have found := awaited.known
        rw [← name, same] at found
        exact Option.some.inj (found.symm.trans known)
      obtain rfl : target = record := by
        have held := awaited.found
        rw [serves.route, own] at held
        exact Option.some.inj (held.symm.trans found)
      -- The attempt is current and its outcome has a transition.
      rcases idle with passed | refused
      · have unrevoked := (attentive id _ found waits).1
        rw [← own] at unrevoked
        rw [overtaken_of_serves waits serves epoch unrevoked] at passed
        cases passed
      · exact next_of_serves waits serves _ refused
  | complete completed =>
      rename_i result resolving target updated
      obtain rfl := List.mem_singleton.mp member
      have name : resolving.attempt = result.attempt := indexed.attempts _ _ completed.awaited.known
      have same : resolving.attempt = attempt.attempt := same
      obtain rfl : resolving = attempt := by
        have found := completed.awaited.known
        rw [← name, same] at found
        exact Option.some.inj (found.symm.trans known)
      apply untouched updated List.mem_cons_self
      rw [completed.evidence.id, indexed.routes _ _ completed.awaited.found, serves.route, own]

/-- An edit revokes no route that it leaves waiting. -/
theorem Legal.waiting_unrevoked (legal : Legal config env origin call.action state edit) {id : RouteId}
    {record : RouteRecord} (found : (state.applyEdit edit).routes[id]? = some record)
    (waits : record.lifecycle.hasOutstandingProgramming = true) (unrevoked : state.revocations[id]? = none) :
    (state.applyEdit edit).revocations[id]? = none := by
  rw [applyEdit_revocations, lookup_foldl_insert_of_ne, unrevoked]
  rintro revocation member rfl
  obtain ⟨closed, held, lifecycle⟩ := legal.bars member
  obtain rfl := Option.some.inj (found.symm.trans held)
  rw [lifecycle] at waits
  cases waits

theorem Legal.attentive (indexed : Indexed origin) (heldIndexed : Indexed state)
    (unpending : origin.drawsUnpending call = true) (spares : origin.sparesRevoked config call = true)
    (attentive : Attentive state) (legal : Legal config env origin call.action state edit) :
    Attentive (state.applyEdit edit) := by
  intro id record found waits
  have frame : Frame state (state.applyEdit edit) := applyEdit_frame edit
  rw [frame.epoch]
  rcases lookup_applyEdit found with ⟨member, rfl⟩ | ⟨untouched, kept⟩
  · have unrevoked : state.revocations[record.id]? = none := by
      rcases legal.unrevoked indexed spares member with unrevoked | ⟨earlier, held, evidence⟩
      · exact unrevoked
      · have same := evidence.waits waits
        exact (attentive _ earlier held (same ▸ waits)).1
    refine ⟨legal.waiting_unrevoked found waits unrevoked, ?_⟩
    rw [applyEdit_attempts]
    rcases legal.waiting indexed member waits with
      ⟨attempt, only, serves, epoch⟩ | ⟨nothing, earlier, held, evidence, same⟩
    · rw [only]
      exact ⟨attempt, lookup_insert_self _ _ _, serves, epoch⟩
    · obtain ⟨-, attempt, known, serves, epoch⟩ := attentive _ earlier held (same ▸ waits)
      rw [nothing]
      exact ⟨attempt, known, serves.evidence evidence same, epoch⟩
  · obtain ⟨unrevoked, attempt, known, serves, epoch⟩ := attentive id record kept waits
    have spared := legal.spares indexed heldIndexed unpending attentive kept untouched waits known serves epoch
    refine ⟨legal.waiting_unrevoked found waits unrevoked, attempt, ?_, serves, epoch⟩
    rw [applyEdit_attempts, lookup_foldl_insert_of_ne spared]
    exact known

/-! ## Recovery -/

/-- After recovery no route waits: the attempt that served it was resolved with it. -/
theorem recovery_settled {files stored : StoreFiles} {loaded : PersistedState}
    (loads : Loads config env files stored loaded) (attended : loaded.contents.Attended) {id : RouteId}
    {record : RouteRecord} (found : (recovery config env seed stored loaded).1.routes[id]? = some record) :
    record.lifecycle.hasOutstandingProgramming = false := by
  have indexed : Indexed ((fresh seed stored).populate loaded) := loads.indexed
  have served : ∀ attempt ∈ values ((fresh seed stored).populate loaded).attempts,
      attempt.resolved = false → ∀ record,
        (recovery config env seed stored loaded).1.routes[attempt.route]? = some record →
        awaits record attempt = false := by
    refine (recover_indexed_induction config env.backend.id indexed (motive := fun done current _ =>
      ∀ attempt ∈ done, attempt.resolved = false → ∀ record,
        current.routes[attempt.route]? = some record → awaits record attempt = false) ?_ ?_ ?_ ?_).2
    · exact fun _ member => absurd member List.not_mem_nil
    · intro done current edit attempt known resolved other member pending
      rcases List.mem_append.mp member with earlier | last
      · exact known other earlier pending
      · obtain rfl := List.mem_singleton.mp last
        rw [resolved] at pending
        cases pending
    · intro done current edit attempt _ _ _ settled known other member pending
      rcases List.mem_append.mp member with earlier | last
      · exact known other earlier pending
      · obtain rfl := List.mem_singleton.mp last
        exact settled
    · intro done current edit attempt waiting held _ _ waitingFound awaited known other member pending
        record found
      obtain ⟨-, -, lifecycle⟩ :=
        RouteRecord.recovered_lifecycle awaited config.historyLimit env.backend.id
      have own : (waiting.recovered config.historyLimit env.backend.id attempt).id = attempt.route := by
        rw [(RouteRecord.recovered_evidence awaited config.historyLimit env.backend.id).id]
        exact held.routes _ _ waitingFound
      rw [resolveAttempt_routes, commit_routes, lookup_insert] at found
      split at found
      · obtain rfl := Option.some.inj found
        simp [awaits, lifecycle, RouteLifecycle.hasOutstandingProgramming]
      · rename_i elsewhere
        rcases List.mem_append.mp member with earlier | last
        · exact known other earlier pending record found
        · obtain rfl := List.mem_singleton.mp last
          exact absurd own elsewhere
  by_contra waits
  rw [Bool.not_eq_false] at waits
  have recovered : Recovered _ _ _ := loads.recovered seed
  obtain ⟨earlier, held, evidence⟩ := recovered.evidence id record found
  have same := evidence.waits waits
  have own : earlier.id = id := indexed.routes _ _ held
  rw [populate_routes] at held
  obtain ⟨attempt, known, serves⟩ := attended id earlier held (same ▸ waits)
  have settled := served attempt ((mem_values _ _).mpr ⟨attempt.attempt, by
    rw [populate_attempts]; exact known⟩) serves.pending record (by rw [serves.route, own]; exact found)
  simp [awaits, waits, serves.programmed, evidence.programmingGeneration] at settled

/-! ## Runs -/

/-- Whether an advance of the epoch, when it succeeds, finds no route waiting. -/
def advancesSettled (config : RuntimeConfig) (state : Impl) (call : Call) : Bool :=
  match call.action with
  | .advanceEpoch => !(state.advanceEpoch config call.env).2.isOk ||
      (values state.routes).all fun record => !record.lifecycle.hasOutstandingProgramming
  | _ => true

/-- A call that leaves no waiting route behind: the epoch does not advance past one, no
unresolved attempt is overwritten, nothing is created under a revoked identity, and the
store keeps in step with memory. -/
structure KeepsAttentive (config : RuntimeConfig) (state : Impl) (call : Call) : Prop where
  settled : state.advancesSettled config call = true
  unpending : state.drawsUnpending call = true
  unrevoked : state.sparesRevoked config call = true
  store : config.durability ≠ .none → KeepsStore config state call

theorem Attentive.move {before : Impl} (indexed : Indexed origin) (keeps : KeepsAttentive config origin call)
    (attentive : Attentive origin) (takes : origin.takes call.action = true) (heldIndexed : Indexed before)
    (held : Attentive before) (move : Move config call.env origin call.action before after) :
    Attentive after := by
  have settled := keeps.settled
  have unpending := keeps.unpending
  have unrevoked := keeps.unrevoked
  cases move with
  | draw ids => exact held.congr rfl
  | mutate unbroken ids index legal =>
      rename_i edit
      rcases acknowledge_cases config (call.env.io index) { before with ids := ids } edit with
        ⟨files, -, applied⟩ | ⟨files, failure, -, failed⟩
      · rw [applied]
        exact (legal.attentive indexed heldIndexed unpending unrevoked held).congr
          (applyEdit_contents_congr (by rfl) edit)
      · rw [failed]
        exact held.congr rfl
  | administer administers =>
      have administered : Administered origin (origin.perform config call.env call.action) :=
        perform_administered administers
      exact attentive.congr administered.contents
  | save compacts => exact attentive.congr rfl
  | advance advances following saved =>
      -- The advance succeeded, so no route was waiting.
      have succeeds : (origin.advanceEpoch config call.env).2.isOk = true := by
        have opened := opened_of_takes takes (by rw [advances]; rfl)
        have checked : origin.checkOpened = .ok () := by simp [checkOpened, opened]
        unfold advanceEpoch
        simp only [checked, following]
        rw [saved]
        rfl
      simp only [advancesSettled, advances, succeeds, Bool.not_true, Bool.false_or, List.all_eq_true,
        Bool.not_eq_true'] at settled
      intro id record found waits
      rw [settled record ((mem_values _ _).mpr ⟨id, found⟩)] at waits
      cases waits

theorem run_attentive {calls : List Call}
    (along : Along (step config) (KeepsAttentive config) (initial seed) calls) :
    Indexed (run (step config) (initial seed) calls) ∧ Attentive (run (step config) (initial seed) calls) := by
  have initially : Attentive (initial seed) := by
    intro id record found
    simp [initial, fresh] at found
  have held := run_stored Contents.Attended (motive := Attentive) along
    (fun _ _ keeps durable => keeps.store durable) (fun _ attentive => attentive.attended) initially
    (fun _ _ _ _ attentive => attentive.congr rfl)
    (fun _ _ indexed keeps attentive takes _ _ heldIndexed held move =>
      attentive.move indexed keeps takes heldIndexed held move) (by
    intro state call seed files loaded stored _ _ _ _ _ _ loads attended id record found waits
    rw [recovery_settled loads attended found] at waits
    cases waits)
  exact ⟨held.1, held.2.1⟩

/-! ## Answers -/

/-- What a completion that is taken in writes: the record with the outcome, and the attempt
as resolved. -/
def completionEdit (config : RuntimeConfig) (backend : BackendId) (attempt : ProgrammingAttemptRecord)
    (record : RouteRecord) (result : ProgrammingResult) (lifecycle : RouteLifecycle) : Edit :=
  { upserts := [record.completed config.historyLimit backend attempt result lifecycle],
    attempts := [{ attempt with resolved := true }] }

/-- There is an unresolved attempt of one of the given kinds for the programming generation
of a route, and its completion is applied. Only when the store refuses the very edit of that
completion is it turned down instead, and even then it is not stale. -/
def InFlight (config : RuntimeConfig) (state : Impl) (route : RouteId)
    (kinds : ProgrammingOperation → Prop) : Prop :=
  ∃ (record : RouteRecord) (attempt : ProgrammingAttemptRecord), state.routes[route]? = some record ∧
    state.attempts[attempt.attempt]? = some attempt ∧ attempt.resolved = false ∧
    attempt.route = route ∧ attempt.programmingGeneration = record.programmingGeneration ∧
    kinds attempt.operation ∧
    ∀ io backend (result : ProgrammingResult), result.attempt = attempt.attempt →
      ∃ lifecycle,
        nextLifecycle record.lifecycle (completionEvent attempt.operation result.outcome) = some lifecycle ∧
        ((state.applyCompletion config io backend result).2 = .applied ∨
          (state.applyCompletion config io backend result).2 = .lifecycleRejected ∧
            ∃ files failure,
              state.persist config io (completionEdit config backend attempt record result lifecycle) =
                (files, .error failure))

theorem applyCompletion_of_serves {record : RouteRecord} {attempt : ProgrammingAttemptRecord}
    {io : IoOutcome} {backend : BackendId} {result : ProgrammingResult}
    (found : state.routes[attempt.route]? = some record)
    (waits : record.lifecycle.hasOutstandingProgramming = true)
    (known : state.attempts[attempt.attempt]? = some attempt) (serves : attempt.Serves record)
    (current : state.overtaken attempt record = false) (names : result.attempt = attempt.attempt) :
    ∃ lifecycle,
      nextLifecycle record.lifecycle (completionEvent attempt.operation result.outcome) = some lifecycle ∧
      ((state.applyCompletion config io backend result).2 = .applied ∨
        (state.applyCompletion config io backend result).2 = .lifecycleRejected ∧
          ∃ files failure,
            state.persist config io (completionEdit config backend attempt record result lifecycle) =
              (files, .error failure)) := by
  have allowed := next_of_serves waits serves result.outcome
  cases next : nextLifecycle record.lifecycle (completionEvent attempt.operation result.outcome) with
  | none => exact absurd next allowed
  | some lifecycle =>
      refine ⟨lifecycle, rfl, ?_⟩
      simp only [applyCompletion, names, known, serves.pending, found, current, next, Bool.false_eq_true,
        if_false]
      rcases acknowledge_cases config io state (completionEdit config backend attempt record result lifecycle)
        with ⟨files, -, applied⟩ | ⟨files, failure, refused, failed⟩
      · simp only [completionEdit] at applied
        rw [applied]
        exact .inl rfl
      · have turned := failed
        simp only [completionEdit] at turned
        rw [turned]
        exact .inr ⟨rfl, files, failure, refused⟩

/-- Every waiting route of an attentive state is in flight, for what it waits for. -/
theorem Attentive.inFlight (attentive : Attentive state) (indexed : Indexed state) {route : RouteId}
    {record : RouteRecord} (found : state.routes[route]? = some record)
    (waits : record.lifecycle.hasOutstandingProgramming = true) :
    InFlight config state route fun operation => operation = .withdraw ↔ record.lifecycle = .withdrawing := by
  obtain ⟨unrevoked, attempt, known, serves, epoch⟩ := attentive route record found waits
  have own : record.id = route := indexed.routes _ _ found
  have named : attempt.route = route := serves.route.trans own
  refine ⟨record, attempt, found, known, serves.pending, named, serves.programmed, serves.operation, ?_⟩
  intro io backend result names
  have current := overtaken_of_serves waits serves epoch (own.symm ▸ unrevoked)
  exact applyCompletion_of_serves (named.symm ▸ found) waits known serves current names

/-- In every run whose calls keep routes attended, a withdrawal that is answered to be in
flight is, and so is an installation whose publication is replayed. -/
theorem run_answers_inFlight {calls : List Call}
    (along : Along (step config) (KeepsAttentive config) (initial seed) calls) :
    (∀ request outcome, ((run (step config) (initial seed) calls).withdrawRoute config env request).2 =
        .ok outcome → outcome.withdrawalInFlight = true →
      InFlight config (run (step config) (initial seed) calls) request.route (· = .withdraw)) ∧
    ∀ request result, ((run (step config) (initial seed) calls).publishRoute config env request).2 =
        .ok result → result.idempotent = true → result.lifecycle = .installing →
      InFlight config (run (step config) (initial seed) calls) result.route
        fun operation => operation = .install ∨ operation = .replace := by
  obtain ⟨indexed, attentive⟩ := run_attentive along
  generalize run (step config) (initial seed) calls = state at indexed attentive ⊢
  constructor
  · intro request outcome answered inFlight
    unfold withdrawRoute at answered
    split at answered
    · cases answered
    · rename_i after answer locked
      obtain rfl := Except.ok.inj answered
      obtain ⟨record, target, -, withdrawing⟩ := withdrawLocked_replays locked
      have lifecycle := withdrawing inFlight
      have found := (withdrawTarget_eq_ok target).1.found
      have waits : record.lifecycle.hasOutstandingProgramming = true := by rw [lifecycle]; rfl
      obtain ⟨held, attempt, heldFound, known, pending, route, programmed, kind, taken⟩ :=
        attentive.inFlight indexed found waits
      exact ⟨held, attempt, heldFound, known, pending, route, programmed, kind.mpr lifecycle, taken⟩
    · obtain ⟨record, -, rfl⟩ := reportDispatch_eq_ok answered
      cases inFlight
  · intro request result answered idempotent installing
    unfold publishRoute at answered
    split at answered
    · cases answered
    · rename_i after answer locked
      obtain rfl := Except.ok.inj answered
      obtain ⟨-, -, registration, record, -, found, -, rfl⟩ := publishLocked_replays indexed locked
      have lifecycle : record.lifecycle = .installing := installing
      obtain ⟨-, present, -⟩ := indexed.lookupKey found
      have waits : record.lifecycle.hasOutstandingProgramming = true := by rw [lifecycle]; rfl
      obtain ⟨held, attempt, heldFound, known, pending, route, programmed, kind, taken⟩ :=
        attentive.inFlight indexed present waits
      refine ⟨held, attempt, heldFound, known, pending, route, programmed, ?_, taken⟩
      cases operation : attempt.operation with
      | install => exact .inl rfl
      | replace => exact .inr rfl
      | withdraw =>
          rw [kind.mp operation] at lifecycle
          cases lifecycle
    · obtain ⟨record, -, rfl⟩ := reportDispatch_eq_ok answered
      cases idempotent

/-- A publication replayed while its first attempt is outstanding. -/
theorem run_answers_inFlight_published :
    ∃ result, ((run (step Scenario.config) (initial 0) Scenario.published).publishRoute Scenario.config
        Scenario.env (Scenario.publication 1)).2 = .ok result ∧ result.lifecycle = .installing ∧
      InFlight Scenario.config (run (step Scenario.config) (initial 0) Scenario.published) result.route
        fun operation => operation = .install ∨ operation = .replace := by
  have checks : Along (step Scenario.config) (fun state call =>
      state.advancesSettled Scenario.config call = true ∧ state.drawsUnpending call = true ∧
        state.sparesRevoked Scenario.config call = true) (initial 0) Scenario.published := by
    decide +kernel
  have along : Along (step Scenario.config) (KeepsAttentive Scenario.config) (initial 0)
      Scenario.published :=
    checks.mono fun _ _ passed => ⟨passed.1, passed.2.1, passed.2.2, fun durable => absurd rfl durable⟩
  have replays : ((run (step Scenario.config) (initial 0) Scenario.published).publishRoute
      Scenario.config Scenario.env (Scenario.publication 1)).2.map
        (fun result => (result.idempotent, result.lifecycle)) = .ok (true, .installing) := by
    decide +kernel
  obtain ⟨result, answered, same⟩ := map_eq_ok.mp replays
  obtain ⟨idempotent, installing⟩ := Prod.mk.inj same
  exact ⟨result, answered, installing, (run_answers_inFlight along).2 _ result answered idempotent installing⟩

/-- The completion of an overtaken attempt is not applied. -/
theorem applyCompletion_overtaken {io : IoOutcome} {backend : BackendId} {result : ProgrammingResult}
    {attempt : ProgrammingAttemptRecord} {record : RouteRecord}
    (known : state.attempts[result.attempt]? = some attempt)
    (found : state.routes[attempt.route]? = some record) (overtaken : state.overtaken attempt record = true) :
    (state.applyCompletion config io backend result).2 ≠ .applied := by
  unfold applyCompletion
  simp only [known, found, overtaken, if_true]
  split
  · exact nofun
  · split <;> exact nofun

theorem overtaken_of_epoch {attempt : ProgrammingAttemptRecord} {record : RouteRecord}
    (older : attempt.epoch ≠ state.epoch) : state.overtaken attempt record = true := by
  simp [overtaken, older]

/-- After an advance of the epoch the same publication is answered as before, and the only
attempt of its route is stale. -/
theorem advanced_epoch_strands :
    ∃ result, ((run (step Scenario.config) (initial 0) Scenario.advanced).publishRoute Scenario.config
        Scenario.env (Scenario.publication 1)).2 = .ok result ∧ result.idempotent = true ∧
      result.lifecycle = .installing ∧
      ¬ InFlight Scenario.config (run (step Scenario.config) (initial 0) Scenario.advanced) result.route
        fun operation => operation = .install ∨ operation = .replace := by
  have replays : ((run (step Scenario.config) (initial 0) Scenario.advanced).publishRoute
      Scenario.config Scenario.env (Scenario.publication 1)).2.map
        (fun result => (result.idempotent, result.lifecycle)) = .ok (true, .installing) := by
    decide +kernel
  obtain ⟨result, answered, same⟩ := map_eq_ok.mp replays
  obtain ⟨idempotent, installing⟩ := Prod.mk.inj same
  refine ⟨result, answered, idempotent, installing, ?_⟩
  rintro ⟨record, attempt, found, known, -, route, -, -, taken⟩
  have stale : ∀ attempt ∈ values (run (step Scenario.config) (initial 0) Scenario.advanced).attempts,
      attempt.epoch ≠ (run (step Scenario.config) (initial 0) Scenario.advanced).epoch := by
    decide +kernel
  have older := stale attempt ((mem_values _ _).mpr ⟨_, known⟩)
  obtain ⟨lifecycle, -, answer⟩ := taken {} {} { outcome := .applied, attempt := attempt.attempt } rfl
  rcases answer with applied | ⟨-, files, failure, refused⟩
  · exact applyCompletion_overtaken known (route ▸ found) (overtaken_of_epoch older) applied
  · simp [persist, Scenario.config] at refused

end Impl

end RouteFabric
