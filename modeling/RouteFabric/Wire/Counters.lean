import RouteFabric.Store.Canonical
import RouteFabric.Wire.Fields

/-!
# Counters in storage and on the wire

The storage readers and the wire readers have an optional-counter reader each, and only the one
of the wire has the upper bound of the checked range. `counters_checked_iff` says which stored
records get past the missing bound: those with an optional counter at the one word above it.
-/

namespace RouteFabric

open ByteReader

/-- The one machine word above the checked range of counters. -/
def exhaustedWord : Nat := 18446744073709551615

/-- An optional counter that an increment can produce, or an absent one. -/
def CheckedOptional (value : Nat) : Prop := value = 0 ∨ (1 ≤ value ∧ value ≤ CounterId.maxValue)

/-- A required counter that an increment can produce. -/
def CheckedRequired (value : Nat) : Prop := 1 ≤ value ∧ value ≤ CounterId.maxValue

theorem checkedOptional_iff {tag : CounterTag} (counter : CounterId tag) :
    CheckedOptional counter.value ↔ counter.value ≠ exhaustedWord := by
  have small := counter.inWord
  unfold CheckedOptional CounterId.maxValue exhaustedWord
  omega

/-! ## The counters of a record -/

namespace RouteRecord

def requiredCounters (record : RouteRecord) : List Nat :=
  [record.generation.value, record.authorityGeneration.value, record.invalidationWatermark.value,
    record.programmingGeneration.value, record.binding.nextHop.entityGeneration.value,
    record.binding.policyGeneration.value, record.provenance.epoch.value,
    record.provenance.sourceGeneration.value, record.provenance.policyGeneration.value,
    record.provenance.pathAuthorityGeneration.value] ++
  record.history.flatMap fun entry => [entry.generation.value, entry.epoch.value]

def optionalCounters (record : RouteRecord) : List Nat :=
  [record.binding.pathAuthorityGeneration.value, record.applied.programmingGeneration.value,
    record.applied.programmedGeneration.value, record.applied.programmedAuthorityGeneration.value,
    record.observation.observedGeneration.value, record.supersession.priorGeneration.value,
    record.supersession.successorGeneration.value, record.supersession.epoch.value,
    record.retirement.epoch.value, record.retirement.generation.value] ++
  record.history.flatMap fun entry =>
    [entry.priorGeneration.value, entry.pathAuthorityGeneration.value]

/-- Every counter of the record is in the checked range, or absent where it is optional. -/
structure CountersChecked (record : RouteRecord) : Prop where
  required : ∀ value ∈ record.requiredCounters, CheckedRequired value
  optional : ∀ value ∈ record.optionalCounters, CheckedOptional value

/-- The required counters of a storable record are in the checked range. -/
theorem Storable.required {record : RouteRecord} {limits : Limits}
    (storable : record.Storable limits) :
    ∀ value ∈ record.requiredCounters, CheckedRequired value := by
  intro value member
  simp only [requiredCounters, List.mem_append, List.mem_cons, List.not_mem_nil, or_false,
    List.mem_flatMap] at member
  rcases member with (rfl | rfl | rfl | rfl | rfl | rfl | rfl | rfl | rfl | rfl) |
    ⟨entry, inHistory, rfl | rfl⟩
  · exact storable.generation
  · exact storable.authorityGeneration
  · exact storable.invalidationWatermark
  · exact storable.programmingGeneration
  · exact storable.binding.entityGeneration
  · exact storable.binding.policyGeneration
  · exact storable.provenance.epoch
  · exact storable.provenance.sourceGeneration
  · exact storable.provenance.policyGeneration
  · exact storable.provenance.pathAuthorityGeneration
  · exact (storable.history entry inHistory).generation
  · exact (storable.history entry inHistory).epoch

theorem optionalCounters_lt (record : RouteRecord) :
    ∀ value ∈ record.optionalCounters, value ≤ exhaustedWord := by
  have word : ∀ {tag : CounterTag} (counter : CounterId tag), counter.value ≤ exhaustedWord :=
    fun counter => Nat.le_of_lt_succ counter.inWord
  intro value member
  simp only [optionalCounters, List.mem_append, List.mem_cons, List.not_mem_nil, or_false,
    List.mem_flatMap] at member
  rcases member with (rfl | rfl | rfl | rfl | rfl | rfl | rfl | rfl | rfl | rfl) |
    ⟨entry, -, rfl | rfl⟩ <;> exact word _

/-- Of a storable record, only the exhausted word keeps a counter out of the checked range. -/
theorem countersChecked_iff {record : RouteRecord} {limits : Limits}
    (storable : record.Storable limits) :
    record.CountersChecked ↔ exhaustedWord ∉ record.optionalCounters := by
  constructor
  · intro checked member
    rcases checked.optional _ member with zero | ⟨-, bounded⟩
    · exact absurd zero (by decide)
    · exact absurd bounded (by decide)
  · intro absent
    refine ⟨storable.required, fun value member => ?_⟩
    have word := optionalCounters_lt record value member
    have other : value ≠ exhaustedWord := fun same => absent (same ▸ member)
    unfold CheckedOptional CounterId.maxValue
    unfold exhaustedWord at word other
    omega

end RouteRecord

/-- The bytes start with the encoding of a storable record that has an optional counter at the
word above the checked range. -/
def StoresExhausted (limits : Limits) (bytes : Bytes) : Prop :=
  ∃ record rest, RouteRecord.Storable record limits ∧ record.Measured ∧
    exhaustedWord ∈ record.optionalCounters ∧ bytes = record.write ++ rest

/-- The optional counters of the wire are those of storage without the exhausted word. -/
theorem CounterId.readOptionalCounter_iff {tag : CounterTag} {bytes rest : Bytes}
    {counter : CounterId tag} :
    readOptionalCounter bytes = .ok (counter, rest) ↔
      readOptional bytes = .ok (counter, rest) ∧ counter.value ≠ exhaustedWord := by
  rw [← checkedOptional_iff]
  constructor
  · intro accepted
    obtain ⟨used, rfl, rfl, -⟩ := canonical_optionalCounter _ _ _ accepted
    refine ⟨(reads_optional counter).accept trivial rest, ?_⟩
    by_contra unchecked
    have above : ¬ counter.value ≤ maxValue := by
      unfold CheckedOptional at unchecked
      omega
    obtain ⟨why, refused⟩ := (reads_optionalCounter counter).refuse above rest
    rw [refused] at accepted
    cases accepted
  · rintro ⟨accepted, checked⟩
    obtain ⟨used, rfl, rfl, -⟩ := canonical_optional _ _ _ accepted
    refine (reads_optionalCounter counter).accept ?_ rest
    rcases checked with zero | ⟨-, bounded⟩
    · rw [zero]
      exact Nat.zero_le _
    · exact bounded

theorem RouteRecord.countersChecked_of_read_iff (limits : Limits) (bytes : Bytes) :
    (∀ record rest, RouteRecord.read limits bytes = .ok (record, rest) → record.CountersChecked) ↔
      ¬ StoresExhausted limits bytes := by
  constructor
  · rintro checked ⟨record, rest, storable, measured, exhausted, rfl⟩
    have accepted := (RouteRecord.reads measured limits).accept storable rest
    exact (countersChecked_iff storable).mp (checked record rest accepted) exhausted
  · intro plain record rest accepted
    obtain ⟨used, rfl, rfl, storable, token, history⟩ := RouteRecord.canonical limits _ _ _ accepted
    refine (countersChecked_iff storable).mpr fun exhausted => plain ?_
    exact ⟨record, rest, storable, storable.measured token history, exhausted, rfl⟩

/-- Every counter of a decoded revocation or attempt is in the checked range, and every counter
of a decoded record is exactly where the bytes do not store the exhausted word for an optional
one; on that word, and on no other, the optional counters of storage and of the wire differ. -/
theorem counters_checked_iff (limits : Limits) :
    (∀ bytes, (∀ record rest, RouteRecord.read limits bytes = .ok (record, rest) →
      record.CountersChecked) ↔ ¬ StoresExhausted limits bytes) ∧
    (∀ bytes record rest, RevocationRecord.read limits bytes = .ok (record, rest) →
      CheckedRequired record.generation.value ∧ CheckedRequired record.epoch.value) ∧
    (∀ bytes record rest, ProgrammingAttemptRecord.read bytes = .ok (record, rest) →
      CheckedRequired record.desiredGeneration.value ∧
        CheckedRequired record.programmingGeneration.value ∧ CheckedRequired record.epoch.value) ∧
    ∀ (tag : CounterTag) (bytes : Bytes) (counter : CounterId tag) (rest : Bytes),
      CounterId.readOptionalCounter bytes = .ok (counter, rest) ↔
        CounterId.readOptional bytes = .ok (counter, rest) ∧ counter.value ≠ exhaustedWord := by
  refine ⟨RouteRecord.countersChecked_of_read_iff limits, ?_, ?_, ?_⟩
  · intro bytes record rest accepted
    obtain ⟨-, -, -, storable⟩ := RevocationRecord.canonical limits _ _ _ accepted
    exact ⟨storable.generation, storable.epoch⟩
  · intro bytes record rest accepted
    obtain ⟨-, -, -, storable⟩ := ProgrammingAttemptRecord.canonical _ _ _ accepted
    exact ⟨storable.desiredGeneration, storable.programmingGeneration, storable.epoch⟩
  · exact fun tag bytes counter rest => CounterId.readOptionalCounter_iff

/-- The stored route with an exhausted optional counter. -/
def Stored.exhausted : RouteRecord :=
  { Stored.record with
    applied := { Stored.record.applied with programmedAuthorityGeneration := .fromValue exhaustedWord } }

/-- The record reader accepts a counter that no increment produces, and the counters of the record
are not all in the checked range. -/
theorem counters_checked_exhausted :
    RouteRecord.read Stored.limits Stored.exhausted.write = .ok (Stored.exhausted, []) ∧
      ¬ Stored.exhausted.CountersChecked ∧
      ∀ rest, CounterId.readOptionalCounter
        (Stored.exhausted.applied.programmedAuthorityGeneration.writeOptional) ≠
          .ok (Stored.exhausted.applied.programmedAuthorityGeneration, rest) := by
  refine ⟨by decide +kernel, fun checked => ?_, fun rest accepted => ?_⟩
  · rcases checked.optional exhaustedWord (by decide) with zero | ⟨-, bounded⟩
    · exact absurd zero (by decide)
    · exact absurd bounded (by decide)
  · exact (CounterId.readOptionalCounter_iff.mp accepted).2 (by decide)

end RouteFabric
