import RouteFabric.Runtime.Snapshots
import RouteFabric.Store.Canonical

/-!
# What the digests see of diagnostic texts

Semantic digests are meant to leave out free text and the identities of programming attempts.
The details of the applied and of the observed state are left out. The reasons of a
supersession and of a retirement are not: the hashed content reuses the storage writers of
these two parts, and they write the reason.
-/

namespace RouteFabric

open ByteReader

namespace RouteRecord

/-- The record without its free texts and without the identities of programming attempts. -/
def undiagnosed (record : RouteRecord) : RouteRecord :=
  { record with
    applied := { record.applied with detail := [], attempt := {} }
    observation := { record.observation with detail := [], attempt := {} }
    supersession := { record.supersession with reason := [] }
    retirement := { record.retirement with reason := [] } }

/-- The same reasons were given for the supersession and for the retirement. -/
def SameReasons (first second : RouteRecord) : Prop :=
  first.supersession.reason = second.supersession.reason ∧
    first.retirement.reason = second.retirement.reason

/-- The hashed content before the reason of the supersession. -/
def imageFront (record : RouteRecord) : Bytes :=
  [record.id.write, record.key.write, record.generation.write, record.authorityGeneration.write,
    record.invalidationWatermark.write, record.programmingGeneration.write,
    [Enumerated.code record.lifecycle], record.binding.write,
    [Enumerated.code record.applied.classification],
    record.applied.programmingGeneration.writeOptional,
    record.applied.programmedGeneration.writeOptional,
    record.applied.programmedAuthorityGeneration.writeOptional, record.applied.backend.write,
    [Enumerated.code record.observation.classification],
    record.observation.observedGeneration.writeOptional, record.observation.backend.write,
    record.provenance.write, [Enumerated.code record.supersession.kind],
    record.supersession.priorGeneration.writeOptional,
    record.supersession.successorGeneration.writeOptional,
    record.supersession.successorLineage.write].flatten

/-- The hashed content between the two reasons. -/
def imageMiddle (record : RouteRecord) : Bytes :=
  record.supersession.epoch.writeOptional ++ [Enumerated.code record.retirement.cause]

/-- The hashed content after the reason of the retirement. -/
def imageBack (record : RouteRecord) : Bytes :=
  [record.retirement.epoch.writeOptional, record.retirement.generation.writeOptional,
    record.retirement.attempt.write, writeList LineageEntry.write record.history].flatten

theorem semanticImage_eq (record : RouteRecord) :
    record.semanticImage = record.imageFront ++ (writeString record.supersession.reason ++
      (record.imageMiddle ++ (writeString record.retirement.reason ++ record.imageBack))) := by
  simp [semanticImage, SupersessionRecord.write, RetirementRecord.write, imageFront, imageMiddle,
    imageBack]

/-- Around the two reasons, nothing that is hashed is a diagnostic. -/
theorem image_undiagnosed {first second : RouteRecord} (agree : first.undiagnosed = second.undiagnosed) :
    first.imageFront = second.imageFront ∧ first.imageMiddle = second.imageMiddle ∧
      first.imageBack = second.imageBack := by
  have front : ∀ record : RouteRecord, record.undiagnosed.imageFront = record.imageFront := fun _ => rfl
  have middle : ∀ record : RouteRecord, record.undiagnosed.imageMiddle = record.imageMiddle := fun _ => rfl
  have back : ∀ record : RouteRecord, record.undiagnosed.imageBack = record.imageBack := fun _ => rfl
  rw [← front first, ← middle first, ← back first, agree]
  exact ⟨front second, middle second, back second⟩

/-- Length-prefixed texts that begin the same bytes are equal, and so is what follows them. -/
theorem writeString_inj {first second rest rest' : Bytes} (short : first.length < 2 ^ 32)
    (short' : second.length < 2 ^ 32)
    (same : writeString first ++ rest = writeString second ++ rest') : first = second ∧ rest = rest' := by
  rw [writeString, writeString, List.append_assoc, List.append_assoc] at same
  obtain ⟨prefixes, texts⟩ := List.append_inj same
    ((length_leBytes _ _).trans (length_leBytes _ _).symm)
  have lengths : first.length = second.length := by
    have values := congrArg leValue prefixes
    rwa [leValue_leBytes_of_lt short, leValue_leBytes_of_lt short'] at values
  exact List.append_inj texts lengths

/-- Records that differ in diagnostics only are hashed from the same content exactly when they
give the same reasons. -/
theorem semanticImage_inj {first second : RouteRecord} (agree : first.undiagnosed = second.undiagnosed)
    (short : ∀ record ∈ [first, second], record.supersession.reason.length < 2 ^ 32 ∧
      record.retirement.reason.length < 2 ^ 32) :
    first.semanticImage = second.semanticImage ↔ first.SameReasons second := by
  obtain ⟨front, middle, back⟩ := image_undiagnosed agree
  rw [semanticImage_eq first, semanticImage_eq second, front, middle, back]
  have shortFirst := short first (by simp)
  have shortSecond := short second (by simp)
  constructor
  · intro same
    obtain ⟨supersession, rest⟩ := writeString_inj shortFirst.1 shortSecond.1
      (List.append_cancel_left same)
    obtain ⟨retirement, -⟩ := writeString_inj shortFirst.2 shortSecond.2 (List.append_cancel_left rest)
    exact ⟨supersession, retirement⟩
  · rintro ⟨supersession, retirement⟩
    rw [supersession, retirement]

theorem semanticDigest_congr {first second : RouteRecord} (agree : first.undiagnosed = second.undiagnosed)
    (reasons : first.SameReasons second) : first.semanticDigest = second.semanticDigest := by
  have images : first.semanticImage = second.semanticImage := by
    obtain ⟨front, middle, back⟩ := image_undiagnosed agree
    rw [semanticImage_eq first, semanticImage_eq second, front, middle, back, reasons.1, reasons.2]
  unfold semanticDigest
  rw [images]

end RouteRecord

/-! ## Digests of many records -/

/-- What a snapshot set is digested from. -/
def RouteSnapshot.summary (snapshot : RouteSnapshot) : RouteId × Digest128 × RouteCurrentness :=
  (snapshot.record.id, snapshot.record.semanticDigest, snapshot.currentness)

/-- Sorting looks at the summaries only. -/
theorem sortSnapshots_summary {first second : List RouteSnapshot}
    (same : first.map RouteSnapshot.summary = second.map RouteSnapshot.summary) :
    (sortSnapshots first).map RouteSnapshot.summary = (sortSnapshots second).map RouteSnapshot.summary := by
  have sorted : ∀ snapshots : List RouteSnapshot, (sortSnapshots snapshots).map RouteSnapshot.summary =
      (snapshots.map RouteSnapshot.summary).mergeSort
        fun left right => decide (left.1.bits.toNat ≤ right.1.bits.toNat) := by
    intro snapshots
    apply List.map_mergeSort
    intros
    rfl
  rw [sorted, sorted, same]

theorem digestSnapshotSet_congr {first second : List RouteSnapshot}
    (same : first.map RouteSnapshot.summary = second.map RouteSnapshot.summary) :
    digestSnapshotSet first = digestSnapshotSet second := by
  have image : ∀ snapshots : List RouteSnapshot, (sortSnapshots snapshots).flatMap (fun snapshot =>
        bytes128 snapshot.record.semanticDigest ++ [Enumerated.code snapshot.currentness]) =
      ((sortSnapshots snapshots).map RouteSnapshot.summary).flatMap fun summary =>
        bytes128 summary.2.1 ++ [Enumerated.code summary.2.2] := by
    intro snapshots
    rw [List.flatMap_map]
    rfl
  simp only [digestSnapshotSet, image, sortSnapshots_summary same]

/-- Records that are the same for a digest: the same identity and the same semantic digest. -/
theorem makeSnapshotSet_congr {before after : List RouteRecord}
    (same : before.map (fun record => (record.id, record.semanticDigest)) =
      after.map (fun record => (record.id, record.semanticDigest)))
    (currentness : List RouteCurrentness) (epoch : CoordinatorEpoch) :
    (makeSnapshotSet before currentness epoch).digest = (makeSnapshotSet after currentness epoch).digest ∧
      (makeSnapshotSet before currentness epoch).id = (makeSnapshotSet after currentness epoch).id := by
  have summaries : (List.zipWith makeSnapshot before currentness).map RouteSnapshot.summary =
      (List.zipWith makeSnapshot after currentness).map RouteSnapshot.summary := by
    have zipped : ∀ records : List RouteRecord,
        (List.zipWith makeSnapshot records currentness).map RouteSnapshot.summary =
          List.zipWith (fun content state => (content.1, content.2, state))
            (records.map fun record => (record.id, record.semanticDigest)) currentness := by
      intro records
      rw [List.map_zipWith, List.zipWith_map_left]
      rfl
    rw [zipped, zipped, same]
  have sorted := sortSnapshots_summary summaries
  have digests := digestSnapshotSet_congr sorted
  have lengths : (sortSnapshots (List.zipWith makeSnapshot before currentness)).length =
      (sortSnapshots (List.zipWith makeSnapshot after currentness)).length := by
    simpa using congrArg List.length sorted
  refine ⟨digests, ?_⟩
  simp only [makeSnapshotSet, digests, lengths]

/-- Records that agree, pair by pair, in all but their diagnostics and give the same reasons. -/
def AgreeWithReasons (before after : List RouteRecord) : Prop :=
  List.Forall₂ (fun first second => first.undiagnosed = second.undiagnosed ∧ first.SameReasons second)
    before after

theorem AgreeWithReasons.contents {before after : List RouteRecord} (agree : AgreeWithReasons before after) :
    before.map (fun record => (record.id, record.semanticDigest)) =
      after.map (fun record => (record.id, record.semanticDigest)) := by
  induction agree with
  | nil => rfl
  | @cons first second _ _ pair _ ih =>
      have ids : first.undiagnosed.id = second.undiagnosed.id := congrArg RouteRecord.id pair.1
      rw [List.map_cons, List.map_cons, ih, RouteRecord.semanticDigest_congr pair.1 pair.2,
        show first.id = second.id from ids]

/-- Records that differ in diagnostics only have the same digest when the reasons of their
supersession and of their retirement are the same; what is hashed differs as soon as one of the
reasons does. With the same reasons, no digest of many records sees a diagnostic either. -/
theorem digests_ignore_diagnostics (first second : RouteRecord) (before after : List RouteRecord)
    (agree : first.undiagnosed = second.undiagnosed) (together : AgreeWithReasons before after) :
    ((first.SameReasons second → first.semanticDigest = second.semanticDigest) ∧
      ((∀ record ∈ [first, second], record.supersession.reason.length < 2 ^ 32 ∧
          record.retirement.reason.length < 2 ^ 32) →
        (first.semanticImage = second.semanticImage ↔ first.SameReasons second))) ∧
    (∀ epoch, stateDigest before epoch = stateDigest after epoch) ∧
    (∀ currentness epoch,
      (makeSnapshotSet before currentness epoch).digest = (makeSnapshotSet after currentness epoch).digest ∧
      (makeSnapshotSet before currentness epoch).id = (makeSnapshotSet after currentness epoch).id) ∧
    (∀ persisted : PersistedState,
      { persisted with routes := before }.digest = { persisted with routes := after }.digest) := by
  have contents := together.contents
  have digests : before.map RouteRecord.semanticDigest = after.map RouteRecord.semanticDigest := by
    simpa [Function.comp_def] using congrArg (List.map Prod.snd) contents
  refine ⟨⟨RouteRecord.semanticDigest_congr agree, RouteRecord.semanticImage_inj agree⟩,
    fun epoch => ?_, makeSnapshotSet_congr contents, fun persisted => ?_⟩
  · simp only [stateDigest, digests]
  · simp only [PersistedState.digest, digests]

namespace Stored

/-- The stored record, retired for a reason and with a detail of its last programming. -/
def retiredFor (reason detail : Bytes) : RouteRecord :=
  { record with
    applied := { record.applied with detail }
    retirement := { record.retirement with cause := .administrative, reason } }

end Stored

/-- A different detail leaves the digests as they are. -/
theorem digests_ignore_detail :
    (Stored.retiredFor [1] [2]).semanticDigest = (Stored.retiredFor [1] [3]).semanticDigest ∧
      stateDigest [Stored.retiredFor [1] [2]] .one = stateDigest [Stored.retiredFor [1] [3]] .one := by
  obtain ⟨⟨alone, -⟩, digest, -⟩ := digests_ignore_diagnostics (Stored.retiredFor [1] [2])
    (Stored.retiredFor [1] [3]) [Stored.retiredFor [1] [2]] [Stored.retiredFor [1] [3]] rfl
    (.cons ⟨rfl, rfl, rfl⟩ .nil)
  exact ⟨alone ⟨rfl, rfl⟩, digest .one⟩

/-- A different reason of the retirement changes the digest. -/
theorem digest_sees_reason :
    (Stored.retiredFor [] []).undiagnosed = (Stored.retiredFor [1] []).undiagnosed ∧
      (Stored.retiredFor [] []).semanticDigest ≠ (Stored.retiredFor [1] []).semanticDigest :=
  ⟨rfl, by decide +kernel⟩

end RouteFabric
