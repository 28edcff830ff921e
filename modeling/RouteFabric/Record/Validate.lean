import RouteFabric.Record.Types

/-!
# Structural validation of route records

`validateRouteRecord` is the check applied to records that enter the runtime.
`RouteRecord.Valid` lists what the check demands field by field, and
`validateRouteRecord_eq_ok` says that the two agree.
-/

namespace RouteFabric

/-- The history loop: `previous` is the generation of the entry before. -/
def validateHistory (generation : RouteGeneration) :
    Option RouteGeneration → List LineageEntry → Status
  | _, [] => .ok ()
  | previous, entry :: rest => do
      ensure (entry.generation.isValid = true ∧ entry.generation.value ≤ generation.value)
        .malformedEncoding "history entry references an impossible generation"
      ensure (¬ (entry.priorGeneration.isValid = true ∧
          entry.generation.value ≤ entry.priorGeneration.value))
        .malformedEncoding "history entry records a non-advancing prior generation"
      ensure (∀ before ∈ previous, before.value ≤ entry.generation.value)
        .malformedEncoding "history generations must not decrease"
      validateHistory generation (some entry.generation) rest

/-- A retired record carries a complete retirement, every other record none. -/
def validateRetirement (record : RouteRecord) : Status :=
  if record.lifecycle = .retired then do
    ensure (record.retirement.cause ≠ .none) .malformedEncoding
      "a retired route must carry a retirement cause"
    ensure (record.retirement.generation.isValid = true ∧ record.retirement.epoch.isValid = true ∧
        record.retirement.attempt.isValid = true) .malformedEncoding
      "a retired route must carry a complete retirement record"
  else
    ensure (record.retirement.cause = .none) .malformedEncoding
      "a non-retired route must not carry a retirement cause"

/-- Structural validation. The lifecycle check of the source has no counterpart: every
value of the enumeration is a known one. -/
def validateRouteRecord (record : RouteRecord) (limits : Limits) : Status := do
  ensure (record.id.isValid = true) .malformedEncoding "route record carries a zero RouteId"
  ensure (record.key.isValid = true) .malformedEncoding "route record carries an invalid route key"
  ensure (record.generation.isValid = true) .malformedEncoding "route generation must be at least 1"
  ensure (record.authorityGeneration.isValid = true) .malformedEncoding
    "route authority generation must be at least 1"
  ensure (record.invalidationWatermark.isValid = true) .malformedEncoding
    "invalidation watermark must be at least 1"
  ensure (record.programmingGeneration.isValid = true) .malformedEncoding
    "programming generation must be at least 1"
  ensure (record.binding.isValid = true) .malformedEncoding
    "route record carries an invalid desired binding"
  ensure (record.history.length ≤ limits.maxHistoryEntriesPerRoute) .limitExceeded
    "route history exceeds the configured bound"
  ensure (¬ (record.applied.programmedGeneration.isValid = true ∧
      record.generation.value < record.applied.programmedGeneration.value)) .malformedEncoding
    "applied state references a desired generation newer than the record"
  ensure (¬ (record.applied.programmingGeneration.isValid = true ∧
      record.programmingGeneration.value < record.applied.programmingGeneration.value))
    .malformedEncoding
    "applied state references a programming generation newer than the record watermark"
  ensure (record.applied.detail.length ≤ maxDiagnosticChars ∧
      record.observation.detail.length ≤ maxDiagnosticChars ∧
      record.supersession.reason.length ≤ maxDiagnosticChars ∧
      record.retirement.reason.length ≤ maxDiagnosticChars) .limitExceeded
    "diagnostic text exceeds the configured bound"
  ensure (¬ (record.observation.observedGeneration.isValid = true ∧
      record.generation.value < record.observation.observedGeneration.value)) .malformedEncoding
    "backend observation references a generation newer than the record"
  ensure (record.invalidationWatermark.value ≤ record.authorityGeneration.value) .malformedEncoding
    "invalidation watermark exceeds the authority generation"
  validateHistory record.generation none record.history
  validateRetirement record
  ensure (¬ (record.lifecycle = .superseded ∧ record.supersession.kind = .none)) .malformedEncoding
    "a superseded route must carry a supersession record"
  ensure (¬ (record.lifecycle = .installed ∧ record.applied.reportsApplied = false))
    .malformedEncoding "an installed route must carry an applied backend outcome"
  ensure (¬ (record.lifecycle = .withdrawn ∧ record.applied.reportsNotPresent = false))
    .malformedEncoding "a withdrawn route must carry a withdrawn backend outcome"
  ensure (record.lifecycle = .failed → record.applied.classification = .rejected ∨
      record.applied.classification = .notSupported ∨
      record.applied.classification = .permanentFailure) .malformedEncoding
    "a failed route must carry a definitive backend refusal"

/-! ## What the check demands -/

/-- One history entry of a record at `generation`. -/
structure LineageEntry.Valid (entry : LineageEntry) (generation : RouteGeneration) : Prop where
  positive : 1 ≤ entry.generation.value
  bounded : entry.generation.value ≤ generation.value
  advancing : entry.priorGeneration.value < entry.generation.value

/-- Everything structural validation demands of a record. -/
structure RouteRecord.Valid (record : RouteRecord) (limits : Limits) : Prop where
  id : record.id.isValid = true
  key : record.key.isValid = true
  generation : 1 ≤ record.generation.value
  authorityGeneration : 1 ≤ record.authorityGeneration.value
  invalidationWatermark : 1 ≤ record.invalidationWatermark.value
  programmingGeneration : 1 ≤ record.programmingGeneration.value
  binding : record.binding.isValid = true
  historyBound : record.history.length ≤ limits.maxHistoryEntriesPerRoute
  programmed : record.applied.programmedGeneration.value ≤ record.generation.value
  dispatched : record.applied.programmingGeneration.value ≤ record.programmingGeneration.value
  appliedDetail : record.applied.detail.length ≤ maxDiagnosticChars
  observationDetail : record.observation.detail.length ≤ maxDiagnosticChars
  supersessionReason : record.supersession.reason.length ≤ maxDiagnosticChars
  retirementReason : record.retirement.reason.length ≤ maxDiagnosticChars
  observed : record.observation.observedGeneration.value ≤ record.generation.value
  watermark : record.invalidationWatermark.value ≤ record.authorityGeneration.value
  entries : ∀ entry ∈ record.history, entry.Valid record.generation
  ordered : record.history.Pairwise fun earlier later =>
    earlier.generation.value ≤ later.generation.value
  retired : record.lifecycle = .retired → record.retirement.cause ≠ .none ∧
    1 ≤ record.retirement.generation.value ∧ 1 ≤ record.retirement.epoch.value ∧
    record.retirement.attempt.isValid = true
  unretired : record.lifecycle ≠ .retired → record.retirement.cause = .none
  superseded : record.lifecycle = .superseded → record.supersession.kind ≠ .none
  installed : record.lifecycle = .installed → record.applied.reportsApplied = true
  withdrawn : record.lifecycle = .withdrawn → record.applied.reportsNotPresent = true
  failed : record.lifecycle = .failed → record.applied.classification = .rejected ∨
    record.applied.classification = .notSupported ∨
    record.applied.classification = .permanentFailure

/-- The history loop accepts valid entries in non-decreasing order of generation. -/
theorem validateHistory_eq_ok {generation : RouteGeneration} {history : List LineageEntry}
    {previous : Option RouteGeneration} :
    validateHistory generation previous history = .ok () ↔
      (∀ entry ∈ history, entry.Valid generation) ∧
      (history.Pairwise fun earlier later => earlier.generation.value ≤ later.generation.value) ∧
      ∀ before ∈ previous, ∀ entry ∈ history, before.value ≤ entry.generation.value := by
  induction history generalizing previous with
  | nil => simp [validateHistory]
  | cons entry rest ih =>
      simp only [validateHistory, bind_eq_ok, ensure_eq_ok, exists_unit, ih,
        CounterId.isValid_iff, List.mem_cons, forall_eq_or_imp, List.pairwise_cons]
      constructor
      · rintro ⟨range, prior, before, valid, ordered, following⟩
        refine ⟨⟨⟨range.1, range.2, by omega⟩, valid⟩, ⟨following _ rfl, ordered⟩, ?_⟩
        intro first member
        exact ⟨before first member, fun later inRest =>
          (before first member).trans (following _ rfl later inRest)⟩
      · rintro ⟨⟨own, valid⟩, ⟨following, ordered⟩, before⟩
        have advancing := own.advancing
        refine ⟨⟨own.positive, own.bounded⟩, by omega, fun first member => (before first member).1,
          valid, ordered, ?_⟩
        intro first member
        obtain rfl := Option.mem_some_iff.mp member
        exact following

theorem validateRetirement_eq_ok {record : RouteRecord} :
    validateRetirement record = .ok () ↔
      (record.lifecycle = .retired → record.retirement.cause ≠ .none ∧
        1 ≤ record.retirement.generation.value ∧ 1 ≤ record.retirement.epoch.value ∧
        record.retirement.attempt.isValid = true) ∧
      (record.lifecycle ≠ .retired → record.retirement.cause = .none) := by
  unfold validateRetirement
  split <;> simp [*]

/-- Validation succeeds exactly on the records that meet every demand. -/
theorem validateRouteRecord_eq_ok {record : RouteRecord} {limits : Limits} :
    validateRouteRecord record limits = .ok () ↔ record.Valid limits := by
  simp only [validateRouteRecord, bind_eq_ok, ensure_eq_ok, exists_unit, validateRetirement_eq_ok,
    validateHistory_eq_ok, CounterId.isValid_iff]
  constructor
  · rintro ⟨id, key, generation, authority, watermark, programming, binding, bound, programmed,
      dispatched, ⟨detail, observed, supersession, retirement⟩, observation, ordering, ⟨entries,
      ordered, -⟩, ⟨retired, unretired⟩, superseded, installed, withdrawn, failed⟩
    exact ⟨id, key, generation, authority, watermark, programming, binding, bound, by omega,
      by omega, detail, observed, supersession, retirement, by omega, ordering, entries, ordered,
      retired, unretired, fun lost none => superseded ⟨lost, none⟩,
      fun holds => by simpa using fun unreported => installed ⟨holds, unreported⟩,
      fun holds => by simpa using fun unreported => withdrawn ⟨holds, unreported⟩, failed⟩
  · intro valid
    have programmed := valid.programmed
    have dispatched := valid.dispatched
    have observed := valid.observed
    exact ⟨valid.id, valid.key, valid.generation, valid.authorityGeneration,
      valid.invalidationWatermark, valid.programmingGeneration, valid.binding, valid.historyBound,
      by omega, by omega, ⟨valid.appliedDetail, valid.observationDetail, valid.supersessionReason,
        valid.retirementReason⟩, by omega, valid.watermark, ⟨valid.entries, valid.ordered, by simp⟩,
      ⟨valid.retired, valid.unretired⟩, fun both => valid.superseded both.1 both.2,
      fun both => by simp [valid.installed both.1] at both,
      fun both => by simp [valid.withdrawn both.1] at both, valid.failed⟩

end RouteFabric
