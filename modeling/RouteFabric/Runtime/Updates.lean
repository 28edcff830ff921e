import RouteFabric.Runtime.Moves

/-!
# How an edit changes a record

Every record that an edit installs is a new one or an update of the record held under
its identity. An update changes the intent of the route and advances its generation and
authority generation by one (`Reissued`), or it only takes evidence in and keeps every
counter (`Evidence`).
-/

namespace RouteFabric

open OrderedMap

/-- The actions that only take evidence in. -/
def Action.reports : Action → Bool
  | .complete .. | .reconcile .. => true
  | _ => false

/-! ## Outcomes -/

/-- The state that the outcome of an installation leads to. -/
def installTarget : ProgrammingOutcome → RouteLifecycle
  | .applied | .idempotent => .installed
  | .notSupported | .rejected | .permanentFailure => .failed
  | .retryableFailure | .ambiguous | .backendUnavailable => .revalidationRequired

/-- The state that the outcome of a withdrawal leads to. -/
def withdrawTarget : ProgrammingOutcome → RouteLifecycle
  | .applied | .idempotent => .withdrawn
  | _ => .revalidationRequired

theorem next_installEvent {source target : RouteLifecycle} {outcome : ProgrammingOutcome}
    (allowed : nextLifecycle source (installEvent outcome) = some target) :
    source = .installing ∧ target = installTarget outcome := by
  have rows : ∀ row ∈ transitionTable, row.event = installEvent outcome →
      row.source = .installing ∧ row.target = installTarget outcome := by
    cases outcome <;> decide
  exact rows _ (next_mem allowed) rfl

theorem next_withdrawEvent {source target : RouteLifecycle} {outcome : ProgrammingOutcome}
    (allowed : nextLifecycle source (withdrawEvent outcome) = some target) :
    source = .withdrawing ∧ target = withdrawTarget outcome := by
  have rows : ∀ row ∈ transitionTable, row.event = withdrawEvent outcome →
      row.source = .withdrawing ∧ row.target = withdrawTarget outcome := by
    cases outcome <;> decide
  exact rows _ (next_mem allowed) rfl

/-- The outcome of an attempt is taken in only while the route waits for one, and leads
to a settled state. -/
theorem next_completionEvent {source target : RouteLifecycle} {operation : ProgrammingOperation}
    {outcome : ProgrammingOutcome}
    (allowed : nextLifecycle source (completionEvent operation outcome) = some target) :
    source.hasOutstandingProgramming = true ∧
      target = if operation = .withdraw then withdrawTarget outcome else installTarget outcome := by
  unfold completionEvent at allowed
  split at allowed
  · obtain ⟨rfl, rfl⟩ := next_withdrawEvent allowed
    exact ⟨rfl, by simp [*]⟩
  · obtain ⟨rfl, rfl⟩ := next_installEvent allowed
    exact ⟨rfl, by simp [*]⟩

theorem completionTarget_open (operation : ProgrammingOperation) (outcome : ProgrammingOutcome) :
    (if operation = .withdraw then withdrawTarget outcome else installTarget outcome) ≠ .superseded ∧
    (if operation = .withdraw then withdrawTarget outcome else installTarget outcome) ≠ .retired := by
  cases outcome <;> split <;> simp [withdrawTarget, installTarget]

theorem completionTarget_settled (operation : ProgrammingOperation) (outcome : ProgrammingOutcome) :
    (if operation = .withdraw then withdrawTarget outcome
      else installTarget outcome).hasOutstandingProgramming = false := by
  cases outcome <;> split <;> rfl

/-- Only an applied installation leads to the installed state. -/
theorem completionTarget_installed {operation : ProgrammingOperation} {outcome : ProgrammingOutcome}
    (installed : (if operation = .withdraw then withdrawTarget outcome else installTarget outcome) =
      .installed) :
    completionClassification operation outcome = .applied ∨
      completionClassification operation outcome = .idempotentAlreadyApplied := by
  unfold completionClassification
  split at installed
  · cases outcome <;> cases installed
  · rename_i installs
    rw [if_neg installs]
    cases outcome <;> simp_all [installTarget, installClassification]

namespace RouteRecord

/-- An installed record carries an applied outcome for its own generations. -/
def Supported (record : RouteRecord) : Prop :=
  record.lifecycle = .installed → record.applied.reportsApplied = true ∧
    record.applied.programmedGeneration = record.generation ∧
    record.applied.programmedAuthorityGeneration = record.authorityGeneration

/-- An update that takes evidence in: intent and counters are those of before. -/
structure Evidence (before after : RouteRecord) : Prop where
  id : after.id = before.id
  key : after.key = before.key
  generation : after.generation = before.generation
  authorityGeneration : after.authorityGeneration = before.authorityGeneration
  programmingGeneration : after.programmingGeneration = before.programmingGeneration
  invalidationWatermark : after.invalidationWatermark = before.invalidationWatermark
  binding : after.binding = before.binding
  provenance : after.provenance = before.provenance
  superseded : after.lifecycle = .superseded ↔ before.lifecycle = .superseded
  retired : after.lifecycle = .retired ↔ before.lifecycle = .retired
  waits : after.lifecycle.hasOutstandingProgramming = true → after.lifecycle = before.lifecycle
  supported : before.Supported → after.Supported

/-- An update that changes the intent of a route. -/
structure Reissued (before after : RouteRecord) : Prop where
  id : after.id = before.id
  key : after.key = before.key
  advanced : before.Advanced after.generation after.authorityGeneration
  programmed : after.programmingGeneration = before.programmingGeneration ∧
      after.lifecycle.hasOutstandingProgramming = false ∨
    before.Programmed after.programmingGeneration
  watermark : after.invalidationWatermark = before.invalidationWatermark ∨
    after.invalidationWatermark = after.authorityGeneration
  uninstalled : after.lifecycle ≠ .installed

theorem Evidence.refl (record : RouteRecord) : record.Evidence record :=
  ⟨rfl, rfl, rfl, rfl, rfl, rfl, rfl, rfl, Iff.rfl, Iff.rfl, fun _ => rfl, fun supported => supported⟩

theorem Evidence.trans {first second third : RouteRecord} (before : first.Evidence second)
    (after : second.Evidence third) : first.Evidence third :=
  ⟨after.id.trans before.id, after.key.trans before.key, after.generation.trans before.generation,
    after.authorityGeneration.trans before.authorityGeneration,
    after.programmingGeneration.trans before.programmingGeneration,
    after.invalidationWatermark.trans before.invalidationWatermark,
    after.binding.trans before.binding, after.provenance.trans before.provenance,
    after.superseded.trans before.superseded, after.retired.trans before.retired, fun waiting =>
      (after.waits waiting).trans (before.waits (after.waits waiting ▸ waiting)),
    fun supported => after.supported (before.supported supported)⟩

theorem observed_evidence (record : RouteRecord) (backend : BackendId) (query : BackendQueryResult) :
    record.Evidence (record.observed backend query) :=
  ⟨rfl, rfl, rfl, rfl, rfl, rfl, rfl, rfl, Iff.rfl, Iff.rfl, fun _ => rfl, fun supported => supported⟩

theorem completed_evidence {record : RouteRecord} {lifecycle : RouteLifecycle}
    {attempt : ProgrammingAttemptRecord} {result : ProgrammingResult}
    (allowed : nextLifecycle record.lifecycle (completionEvent attempt.operation result.outcome) =
      some lifecycle) (current : attempt.desiredGeneration = record.generation) (historyLimit : Nat)
    (backend : BackendId) :
    record.Evidence (record.completed historyLimit backend attempt result lifecycle) := by
  obtain ⟨waiting, rfl⟩ := next_completionEvent allowed
  obtain ⟨unsuperseded, unretired⟩ := completionTarget_open attempt.operation result.outcome
  refine ⟨rfl, rfl, rfl, rfl, rfl, rfl, rfl, rfl, ?_, ?_, fun waits => ?_, fun _ installed => ?_⟩
  · refine iff_of_false unsuperseded fun lost => ?_
    rw [lost] at waiting
    cases waiting
  · refine iff_of_false unretired fun closed => ?_
    rw [closed] at waiting
    cases waiting
  · exact absurd (completionTarget_settled attempt.operation result.outcome)
      (by simpa [RouteRecord.completed, RouteRecord.pushHistory] using waits)
  · exact ⟨decide_eq_true (completionTarget_installed installed), current, rfl⟩

/-- Recovery touches only routes with an attempt outstanding and leads to one state. -/
theorem recovered_lifecycle {record : RouteRecord} {attempt : ProgrammingAttemptRecord}
    (awaits : Impl.awaits record attempt = true) (historyLimit : Nat) (backend : BackendId) :
    record.lifecycle ≠ .superseded ∧ record.lifecycle ≠ .retired ∧
      (record.recovered historyLimit backend attempt).lifecycle = .revalidationRequired := by
  have waiting : record.lifecycle.hasOutstandingProgramming = true := by
    simp only [Impl.awaits, Bool.and_eq_true] at awaits
    exact awaits.1
  have cases : record.lifecycle ≠ .superseded ∧ record.lifecycle ≠ .retired ∧
      (nextLifecycle record.lifecycle (recoveryEvent attempt.operation)).getD .revalidationRequired =
        .revalidationRequired := by
    revert waiting
    unfold recoveryEvent
    cases record.lifecycle <;> split <;> decide
  exact cases

theorem recovered_evidence {record : RouteRecord} {attempt : ProgrammingAttemptRecord}
    (awaits : Impl.awaits record attempt = true) (historyLimit : Nat) (backend : BackendId) :
    record.Evidence (record.recovered historyLimit backend attempt) := by
  obtain ⟨unsuperseded, unretired, lifecycle⟩ := recovered_lifecycle awaits historyLimit backend
  refine ⟨rfl, rfl, rfl, rfl, rfl, rfl, rfl, rfl, ?_, ?_, fun waits => ?_, fun _ installed => ?_⟩
  · exact iff_of_false (by simp [lifecycle]) unsuperseded
  · exact iff_of_false (by simp [lifecycle]) unretired
  · rw [lifecycle] at waits
    cases waits
  · rw [lifecycle] at installed
    cases installed

end RouteRecord

namespace Impl

variable {config : RuntimeConfig} {env : Env} {origin state : Impl} {action : Action} {edit : Edit}
  {request : PublishRequest} {record updated : RouteRecord} {attempt : ProgrammingAttemptRecord}

/-! ## Changes of intent -/

theorem Takeover.reissued (taken : Takeover config origin request record updated) :
    record.Reissued updated := by
  obtain ⟨generation, authorityGeneration, counters, rfl⟩ := taken.made
  exact ⟨rfl, rfl, counters, .inl ⟨rfl, rfl⟩, .inl rfl, nofun⟩

theorem Replacement.reissued (replaced : Replacement config env origin request record updated attempt) :
    record.Reissued updated := by
  obtain ⟨_, _, programmingGeneration, counters, programmed, rfl⟩ := replaced.made
  exact ⟨rfl, rfl, counters, .inr programmed, .inl rfl, nofun⟩

theorem Withdrawal.reissued {request : WithdrawRequest}
    (withdrawn : Withdrawal config env origin request record updated attempt) :
    record.Reissued updated := by
  obtain ⟨_, _, programmingGeneration, counters, programmed, rfl⟩ := withdrawn.made
  exact ⟨rfl, rfl, counters, .inr programmed, .inl rfl, nofun⟩

theorem Revalidation.reissued {request : MutationRequest}
    (revalidated : Revalidation config env origin request record updated attempt) :
    record.Reissued updated := by
  obtain ⟨_, _, programmingGeneration, counters, programmed, rfl⟩ := revalidated.made
  exact ⟨rfl, rfl, counters, .inr programmed, .inl rfl, nofun⟩

theorem Closing.reissued {request : MutationRequest} {cause : RetirementCause} {event : RouteEvent}
    (closing : Closing config origin request record updated cause event) : record.Reissued updated := by
  obtain ⟨generation, authorityGeneration, counters, rfl⟩ := closing.made
  exact ⟨rfl, rfl, counters, .inl ⟨rfl, rfl⟩, .inl rfl, nofun⟩

theorem Invalidation.reissued {generation : PathAuthorityGeneration} {authorization : PathAuthorization}
    (invalidated : Invalidation config origin generation authorization record updated) :
    record.Reissued updated := by
  obtain ⟨next, nextAuthority, counters, rfl⟩ := invalidated.made
  exact ⟨rfl, rfl, counters, .inl ⟨rfl, rfl⟩, .inr rfl, nofun⟩

theorem Completed.evidence {result : ProgrammingResult}
    (completed : Completed config env origin result attempt record updated) :
    record.Evidence updated := by
  obtain ⟨lifecycle, allowed, rfl⟩ := completed.made
  have current := completed.current
  simp only [overtaken, ne_eq, decide_eq_false_iff_not, not_or, not_not] at current
  exact RouteRecord.completed_evidence allowed current.2.1 config.historyLimit env.backend.id

/-! ## Every edit -/

/-- An upsert of a legal edit creates a route or updates the one held. -/
theorem Legal.updates (indexed : Indexed origin) (legal : Legal config env origin action state edit)
    (member : updated ∈ edit.upserts) :
    (∃ request attempt, action = .publish request ∧
      Creation config env origin state request updated attempt) ∨
    ∃ record, state = origin ∧ state.routes[updated.id]? = some record ∧
      (action.reports = false ∧ record.Reissued updated ∨
        action.reports = true ∧ record.Evidence updated) := by
  cases legal with
  | takeover taken =>
      obtain rfl := List.mem_singleton.mp member
      obtain ⟨-, found, -⟩ := indexed.lookupKey taken.found
      exact .inr ⟨_, rfl, taken.reissued.id ▸ found, .inl ⟨rfl, taken.reissued⟩⟩
  | create created =>
      obtain rfl := List.mem_singleton.mp member
      exact .inl ⟨_, _, rfl, created⟩
  | replace replaced =>
      obtain rfl := List.mem_singleton.mp member
      obtain ⟨-, found, -⟩ := indexed.lookupKey replaced.found
      exact .inr ⟨_, rfl, replaced.reissued.id ▸ found, .inl ⟨rfl, replaced.reissued⟩⟩
  | withdraw withdrawn =>
      obtain rfl := List.mem_singleton.mp member
      have found := (withdrawTarget_eq_ok withdrawn.target).1.found
      rw [← indexed.routes _ _ found, ← withdrawn.reissued.id] at found
      exact .inr ⟨_, rfl, found, .inl ⟨rfl, withdrawn.reissued⟩⟩
  | revalidate revalidated =>
      obtain rfl := List.mem_singleton.mp member
      have found := (revalidateTarget_eq_ok revalidated.target).1.found
      rw [← indexed.routes _ _ found, ← revalidated.reissued.id] at found
      exact .inr ⟨_, rfl, found, .inl ⟨rfl, revalidated.reissued⟩⟩
  | retire retired =>
      obtain rfl := List.mem_singleton.mp member
      have found := (retireTarget_eq_ok retired.target).2.found
      rw [← indexed.routes _ _ found, ← retired.closing.reissued.id] at found
      exact .inr ⟨_, rfl, found, .inl ⟨rfl, retired.closing.reissued⟩⟩
  | revoke revoked =>
      obtain rfl := List.mem_singleton.mp member
      have found := (revokeTarget_eq_ok revoked.target).1
      rw [← indexed.routes _ _ found, ← revoked.closing.reissued.id] at found
      exact .inr ⟨_, rfl, found, .inl ⟨rfl, revoked.closing.reissued⟩⟩
  | invalidate unique invalidated =>
      obtain ⟨record, change⟩ := invalidated updated member
      exact .inr ⟨record, rfl, change.reissued.id ▸ change.found, .inl ⟨rfl, change.reissued⟩⟩
  | resolve awaited => cases member
  | complete completed =>
      obtain rfl := List.mem_singleton.mp member
      have found := completed.awaited.found
      rw [← indexed.routes _ _ found, ← completed.evidence.id] at found
      exact .inr ⟨_, rfl, found, .inr ⟨rfl, completed.evidence⟩⟩
  | observe observed =>
      obtain rfl := List.mem_singleton.mp member
      have evidence := observed.made ▸ RouteRecord.observed_evidence _ env.backend.id _
      have found := observed.found
      rw [← indexed.routes _ _ found, ← evidence.id] at found
      exact .inr ⟨_, rfl, found, .inr ⟨rfl, evidence⟩⟩

/-- No edit installs two records under one identity. -/
theorem Legal.unique (legal : Legal config env origin action state edit) :
    (edit.upserts.map (·.id)).Nodup := by
  cases legal with
  | invalidate unique invalidated => exact unique
  | resolve awaited => exact List.nodup_nil
  | _ => exact List.nodup_singleton _

/-- An edit books no attempt, books the new attempt of its only record, or resolves one
that is outstanding. -/
theorem Legal.books (indexed : Indexed origin) (legal : Legal config env origin action state edit) :
    edit.attempts = [] ∨
    (∃ updated operation attempt, edit.upserts = [updated] ∧ edit.attempts = [attempt] ∧
      state.attempts = origin.attempts ∧ Dispatched config state updated operation attempt) ∨
    ∃ attempt : ProgrammingAttemptRecord, edit.attempts = [{ attempt with resolved := true }] ∧
      state.attempts[attempt.attempt]? = some attempt ∧ attempt.resolved = false ∧
      attempt.route ∈ state.routes := by
  have resolves : ∀ {result attempt record}, origin.Awaited result attempt record →
      origin.attempts[attempt.attempt]? = some attempt ∧ attempt.resolved = false ∧
        attempt.route ∈ origin.routes := by
    intro result attempt record awaited
    have own := indexed.attempts _ _ awaited.known
    exact ⟨own ▸ awaited.known, awaited.pending, (mem_iff_lookup _ _).mpr ⟨record, awaited.found⟩⟩
  cases legal with
  | takeover | retire | revoke | invalidate | observe => exact .inl rfl
  | create created => exact .inr <| .inl ⟨_, _, _, rfl, rfl, created.attempts, created.dispatched⟩
  | replace replaced => exact .inr <| .inl ⟨_, _, _, rfl, rfl, rfl, replaced.dispatched⟩
  | withdraw withdrawn => exact .inr <| .inl ⟨_, _, _, rfl, rfl, rfl, withdrawn.dispatched⟩
  | revalidate revalidated => exact .inr <| .inl ⟨_, _, _, rfl, rfl, rfl, revalidated.dispatched⟩
  | resolve awaited => exact .inr <| .inr ⟨_, rfl, resolves awaited⟩
  | complete completed => exact .inr <| .inr ⟨_, rfl, resolves completed.awaited⟩

/-- Every record of an edit has a valid identity. -/
theorem Legal.identified (indexed : Indexed origin) (legal : Legal config env origin action state edit)
    (member : updated ∈ edit.upserts) : updated.id.isValid = true := by
  rcases legal.updates indexed member with ⟨request, attempt, -, created⟩ | ⟨record, rfl, found, -⟩
  · exact created.dispatched.valid.id
  · exact indexed.identified _ _ found

end Impl

end RouteFabric
