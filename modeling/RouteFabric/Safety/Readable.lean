import RouteFabric.Safety.Completions
import RouteFabric.Safety.Validity
import RouteFabric.Safety.KeyIndex

/-!
# What the store reads back

The writers accept whatever the runtime holds and the readers refuse part of it. The
contents that are read back whole are `Readable`, and the edits whose journal entries are
read back are `Carried`. Every edit is, unless it takes a lineage over, comes from a
request with values that only the reader refuses, or names an invalid backend.
-/

namespace RouteFabric

open OrderedMap Run

/-! ## Records -/

/-- A publication whose values are within the bounds of the reader. -/
def PublishRequest.Storable (request : PublishRequest) (limits : Limits) : Prop :=
  request.key.destination.token.length ≤ limits.maxDestinationChars ∧
    request.binding.nextHop.entityGeneration.Storable ∧ request.binding.policyGeneration.Storable ∧
    request.policyGeneration.Storable ∧ (RouteRecord.provenancePathGeneration request.binding).Storable

instance (request : PublishRequest) (limits : Limits) : Decidable (request.Storable limits) := by
  unfold PublishRequest.Storable
  infer_instance

/-- A publication whose binding the store can carry. -/
def Scenario.carried (lineage : Nat) : PublishRequest :=
  { publication lineage with binding := { binding with nextHop := { entityGeneration := .one } } }

namespace RouteRecord

variable {record updated draft : RouteRecord} {limits : Limits}

/-- A live record that is read back, and whose path generation provenance can carry. -/
structure Carried (record : RouteRecord) (limits : Limits) : Prop where
  storable : record.Storable limits
  path : (provenancePathGeneration record.binding).Storable
  live : record.lifecycle ≠ .superseded

/-- The history entries of a record after one more was appended. -/
theorem storable_pushHistory {historyLimit : Nat} {event : RouteEvent} {prior : RouteGeneration}
    (history : ∀ entry ∈ draft.history, entry.Storable) (generation : draft.generation.Storable)
    (publisher : draft.provenance.publisher.isValid = true) (epoch : draft.provenance.epoch.Storable) :
    ∀ entry ∈ (draft.pushHistory historyLimit event prior).history, entry.Storable := by
  intro entry member
  rcases List.mem_append.mp (List.mem_of_mem_drop member) with old | new
  · exact history entry old
  · obtain rfl := List.mem_singleton.mp new
    exact ⟨generation, publisher, epoch⟩

/-- New evidence with a valid backend is read back. -/
theorem Storable.evidence (storable : record.Storable limits) (evidence : record.Evidence updated)
    (valid : updated.Valid limits) (applied : updated.applied.backend.isValid = true)
    (observation : updated.observation.backend.isValid = true)
    (history : ∀ entry ∈ updated.history, entry.Storable) : updated.Storable limits := by
  refine ⟨?_, ?_, ?_, ?_, ?_, ?_, ⟨applied, valid.appliedDetail⟩,
    ⟨observation, valid.observationDetail⟩, ?_, history, valid⟩
  · rw [evidence.key]
    exact storable.key
  · rw [evidence.generation]
    exact storable.generation
  · rw [evidence.authorityGeneration]
    exact storable.authorityGeneration
  · rw [evidence.invalidationWatermark]
    exact storable.invalidationWatermark
  · rw [evidence.programmingGeneration]
    exact storable.programmingGeneration
  · rw [evidence.binding]
    exact storable.binding
  · rw [evidence.provenance]
    exact storable.provenance

theorem Carried.evidence (carried : record.Carried limits) (evidence : record.Evidence updated)
    (updatedStorable : updated.Storable limits) : updated.Carried limits := by
  obtain ⟨-, path, live⟩ := carried
  refine ⟨updatedStorable, ?_, ?_⟩
  · rw [evidence.binding]
    exact path
  · exact fun lost => live (evidence.superseded.mp lost)

/-- The record of a reclaimed route is read back. -/
theorem Storable.recovered (storable : record.Storable limits) {historyLimit : Nat}
    (bound : historyLimit ≤ limits.maxHistoryEntriesPerRoute) {attempt : ProgrammingAttemptRecord}
    (awaited : Impl.awaits record attempt = true)
    (earlier : attempt.desiredGeneration.value ≤ record.generation.value) {backend : BackendId}
    (named : backend.isValid = true) : (record.recovered historyLimit backend attempt).Storable limits :=
  storable.evidence (recovered_evidence awaited historyLimit backend)
    (storable.valid.recovered bound awaited earlier backend) named storable.observation.backend
    (storable_pushHistory storable.history storable.generation storable.provenance.publisher
      storable.provenance.epoch)

/-- A change of intent that keeps the binding. -/
theorem Carried.reissued (carried : record.Carried limits) (reissued : record.Reissued updated)
    (valid : updated.Valid limits) (live : updated.lifecycle ≠ .superseded)
    (binding : updated.binding = record.binding) (provenance : updated.provenance.Storable)
    (applied : updated.applied.backend.isValid = true)
    (observation : updated.observation.backend.isValid = true)
    (history : ∀ entry ∈ updated.history, entry.Storable) : updated.Carried limits := by
  obtain ⟨storable, path, -⟩ := carried
  refine ⟨⟨?_, reissued.advanced.storable, reissued.advanced.storableAuthority, ?_, ?_, ?_,
    ⟨applied, valid.appliedDetail⟩, ⟨observation, valid.observationDetail⟩, provenance, history,
    valid⟩, ?_, live⟩
  · rw [reissued.key]
    exact storable.key
  · rcases reissued.watermark with same | raised
    · rw [same]
      exact storable.invalidationWatermark
    · rw [raised]
      exact reissued.advanced.storableAuthority
  · rcases reissued.programmed with ⟨same, -⟩ | programmed
    · rw [same]
      exact storable.programmingGeneration
    · exact programmed.storable
  · rw [binding]
    exact storable.binding
  · rw [binding]
    exact path

/-- The published record of a storable request. -/
theorem carried_installing {historyLimit : Nat} {epoch : CoordinatorEpoch} {backend : BackendId}
    {request : PublishRequest} {prior : Option RouteGeneration}
    {programmingGeneration : ProgrammingGeneration} {attempt : ProgrammingAttemptId}
    (storable : request.Storable limits) (key : draft.key = request.key)
    (generation : draft.generation.Storable) (authorityGeneration : draft.authorityGeneration.Storable)
    (watermark : draft.invalidationWatermark.Storable) (programming : programmingGeneration.Storable)
    (history : ∀ entry ∈ draft.history, entry.Storable)
    (named : request.publisher.isValid = true ∧ request.workerBoot.isValid = true ∧
      request.attempt.isValid = true)
    (current : epoch.Storable) (answers : backend.isValid = true)
    (valid : (draft.installing historyLimit epoch backend request prior .installing
      programmingGeneration attempt).Valid limits) :
    (draft.installing historyLimit epoch backend request prior .installing programmingGeneration
      attempt).Carried limits := by
  obtain ⟨token, entity, bindingPolicy, policy, path⟩ := storable
  obtain ⟨publisher, workerBoot, mutation⟩ := named
  have provenance : (draft.installing historyLimit epoch backend request prior .installing
      programmingGeneration attempt).provenance.Storable :=
    ⟨publisher, workerBoot, current, generation, mutation, policy, path⟩
  refine ⟨⟨?_, generation, authorityGeneration, watermark, programming,
    ⟨entity, bindingPolicy, valid.binding⟩, ⟨answers, valid.appliedDetail⟩,
    ⟨answers, valid.observationDetail⟩, provenance, ?_, valid⟩, path, nofun⟩
  · have same : (draft.installing historyLimit epoch backend request prior .installing
        programmingGeneration attempt).key = draft.key := rfl
    rw [same, key]
    exact token
  · exact storable_pushHistory history generation publisher current

end RouteRecord

/-! ## Contents -/

/-- Contents that are read back whole from a snapshot and a journal. -/
structure Contents.Readable (contents : Contents) (limits : Limits) : Prop where
  epoch : contents.epoch.Storable
  policyGeneration : contents.policyGeneration.Storable
  routes : ∀ (id : RouteId) record, contents.routes[id]? = some record → record.Carried limits
  revocations : ∀ (id : RouteId) revocation, contents.revocations[id]? = some revocation →
    revocation.Storable limits
  revoked : ∀ id, id ∈ contents.revocations → id ∈ contents.routes
  attempts : ∀ (id : ProgrammingAttemptId) attempt, contents.attempts[id]? = some attempt →
    attempt.Storable
  count : contents.routes.size ≤ limits.maxRoutes

/-- Edits whose journal entries are read back. -/
structure Edit.Carried (edit : Edit) (limits : Limits) : Prop where
  upserts : ∀ record ∈ edit.upserts, record.Carried limits
  upsertCount : edit.upserts.length ≤ limits.maxRoutes
  revoked : ∀ revocation ∈ edit.revoked, revocation.Storable limits
  revokedCount : edit.revoked.length ≤ limits.maxRoutes
  attempts : ∀ attempt ∈ edit.attempts, attempt.Storable
  attemptCount : edit.attempts.length ≤ limits.maxOutstandingProgramming

namespace Impl

variable {config : RuntimeConfig} {limits : Limits} {env : Env} {seed : Word} {origin state : Impl}
  {call : Call} {edit : Edit}

theorem readable_dated (readable : state.contents.Readable limits) : Dated state :=
  ⟨readable.epoch.1, readable.policyGeneration.1⟩

/-- The entry of a carried edit is read back. -/
theorem journalEntry_storable (readable : state.contents.Readable limits) (carried : edit.Carried limits) :
    (state.journalEntry edit).Storable limits :=
  ⟨readable.epoch, readable.policyGeneration, carried.upsertCount,
    fun record member => (carried.upserts record member).storable, carried.revokedCount,
    carried.revoked, carried.attemptCount, carried.attempts⟩

/-- A snapshot of readable contents is read back when no key occurs twice and the reader
takes all its attempts. -/
theorem snapshot_storable {saved : PersistedState} (unique : saved.Unique)
    (readable : saved.contents.Readable limits) (live : saved.contents.LiveUnique)
    (room : saved.contents.attempts.size ≤ limits.maxOutstandingProgramming) : saved.Storable limits := by
  have routes : ∀ record ∈ saved.routes, saved.contents.routes[record.id]? = some record :=
    fun record member => lookup_index_of_mem unique.routes member
  have revocations : ∀ revocation ∈ saved.revocations,
      saved.contents.revocations[revocation.route]? = some revocation :=
    fun revocation member => lookup_index_of_mem unique.revocations member
  have attempts : ∀ attempt ∈ saved.attempts, saved.contents.attempts[attempt.attempt]? = some attempt :=
    fun attempt member => lookup_index_of_mem unique.attempts member
  have routeCount : saved.contents.routes.size = saved.routes.length := size_index unique.routes
  have revocationCount : saved.contents.revocations.size = saved.revocations.length :=
    size_index unique.revocations
  have attemptCount : saved.contents.attempts.size = saved.attempts.length := size_index unique.attempts
  have count := readable.count
  have revoked := size_le_size readable.revoked
  refine ⟨readable.epoch, readable.policyGeneration, ⟨?_, ?_, ?_, ?_, ?_, ?_⟩, unique, ?_⟩
  · exact routeCount ▸ count
  · exact fun record member => (readable.routes _ record (routes record member)).storable
  · exact revocationCount ▸ revoked.trans count
  · exact fun revocation member => readable.revocations _ revocation (revocations revocation member)
  · exact attemptCount ▸ room
  · exact fun attempt member => readable.attempts _ attempt (attempts attempt member)
  · refine (List.Nodup.of_map _ unique.routes).map_on ?_
    intro record member sibling other sameKey
    have same : record.id = sibling.id := live _ _ record sibling (routes record member)
      (routes sibling other) sameKey (readable.routes _ record (routes record member)).live
      (readable.routes _ sibling (routes sibling other)).live
    have found := routes sibling other
    rw [← same, routes record member] at found
    exact Option.some.inj found

/-! ## The condition -/

/-- Whether an action gives the store nothing that its readers would refuse: it takes no
lineage over, publishes storable values, and saves no snapshot with more attempts than a
reader takes. -/
def sparesReader (config : RuntimeConfig) (state : Impl) : Action → Prop
  | .publish request =>
      state.takesOver config request = false ∧
        ((state.publishAuthority request).isOk = true → request.Storable config.limits) ∧
        (config.durability = .snapshot →
          state.attempts.size < config.limits.maxOutstandingProgramming)
  | .withdraw _ | .revalidate _ =>
      config.durability = .snapshot → state.attempts.size < config.limits.maxOutstandingProgramming
  | .invalidate _ generation _ => generation.Storable
  | .compact | .advanceEpoch => state.attempts.size ≤ config.limits.maxOutstandingProgramming
  | _ => True

instance (config : RuntimeConfig) (state : Impl) (action : Action) :
    Decidable (state.sparesReader config action) := by
  cases action <;> unfold sparesReader <;> infer_instance

/-- A call during which the store keeps in step with memory and stays readable. -/
structure KeepsReadable (config : RuntimeConfig) (state : Impl) (call : Call) : Prop
    extends KeepsStore config state call where
  backend : call.env.backend.id.isValid = true
  spares : state.sparesReader config call.action

/-! ## Edits -/

theorem Closing.carried {request : MutationRequest} {record updated : RouteRecord}
    {cause : RetirementCause} {event : RouteEvent}
    (closing : Closing config origin request record updated cause event)
    (carried : record.Carried config.limits) : updated.Carried config.limits := by
  have reissued := closing.reissued
  have valid := closing.valid
  obtain ⟨generation, authorityGeneration, advanced, rfl⟩ := closing.made
  exact carried.reissued reissued valid nofun rfl carried.storable.provenance
    carried.storable.applied.backend carried.storable.observation.backend
    (RouteRecord.storable_pushHistory carried.storable.history advanced.storable
      carried.storable.provenance.publisher carried.storable.provenance.epoch)

/-- The records of an edit are read back. -/
theorem Legal.carried_upserts (indexed : Indexed origin) (readable : origin.contents.Readable config.limits)
    (keeps : KeepsReadable config origin call)
    (bound : config.historyLimit ≤ config.limits.maxHistoryEntriesPerRoute)
    (legal : Legal config call.env origin call.action state edit) :
    ∀ updated ∈ edit.upserts, updated.Carried config.limits := by
  intro updated member
  have held : ∀ (id : RouteId) record, origin.routes[id]? = some record →
      record.Carried config.limits := readable.routes
  have valid : updated.Valid config.limits := by
    refine legal.valid (fun id record found => (held id record found).storable.valid) bound ?_ updated member
    intro request action
    have spares := keeps.spares
    rw [action] at spares
    exact spares.1
  have backend := keeps.backend
  have spares := keeps.spares
  generalize call.action = action at legal spares
  cases legal with
  | takeover taken =>
      have refused := spares.1
      rw [taken.takesOver] at refused
      cases refused
  | create created =>
      obtain rfl := List.mem_singleton.mp member
      obtain ⟨registration, authorized⟩ := created.authority
      have storable := spares.2.1 (by rw [authorized]; rfl)
      obtain ⟨programmingGeneration, programmed, rfl⟩ := created.made
      have current : state.epoch.Storable := by
        rw [created.frame.epoch]
        exact readable.epoch
      exact RouteRecord.carried_installing storable rfl CounterId.storable_one CounterId.storable_one
        CounterId.storable_one programmed.storable (fun _ member => absurd member List.not_mem_nil)
        (publishAuthority_eq_ok.mp authorized).1 current backend valid
  | replace replaced =>
      obtain rfl := List.mem_singleton.mp member
      obtain ⟨registration, authorized, -⟩ := replaced.authority
      have storable := spares.2.1 (by rw [authorized]; rfl)
      obtain ⟨-, found, sameKey, -⟩ := indexed.lookupKey replaced.found
      have carried := (held _ _ found).storable
      obtain ⟨generation, authorityGeneration, programmingGeneration, advanced, programmed, rfl⟩ :=
        replaced.made
      exact RouteRecord.carried_installing storable sameKey advanced.storable advanced.storableAuthority
        carried.invalidationWatermark programmed.storable carried.history
        (publishAuthority_eq_ok.mp authorized).1 readable.epoch backend valid
  | withdraw withdrawn =>
      obtain rfl := List.mem_singleton.mp member
      have carried := held _ _ (withdrawTarget_eq_ok withdrawn.target).1.found
      have reissued := withdrawn.reissued
      obtain ⟨generation, authorityGeneration, programmingGeneration, advanced, -, rfl⟩ := withdrawn.made
      exact carried.reissued reissued valid nofun rfl carried.storable.provenance backend backend
        (RouteRecord.storable_pushHistory carried.storable.history advanced.storable
          carried.storable.provenance.publisher carried.storable.provenance.epoch)
  | revalidate revalidated =>
      obtain rfl := List.mem_singleton.mp member
      have carried := held _ _ (revalidateTarget_eq_ok revalidated.target).1.found
      obtain ⟨publisher, workerBoot, mutation⟩ := revalidateTarget_named revalidated.target
      have reissued := revalidated.reissued
      obtain ⟨generation, authorityGeneration, programmingGeneration, advanced, -, rfl⟩ :=
        revalidated.made
      exact carried.reissued reissued valid nofun rfl
        ⟨publisher, workerBoot, readable.epoch, advanced.storable, mutation,
          carried.storable.binding.policyGeneration, carried.path⟩ backend backend
        (RouteRecord.storable_pushHistory carried.storable.history advanced.storable publisher
          readable.epoch)
  | retire retired =>
      obtain rfl := List.mem_singleton.mp member
      exact retired.closing.carried (held _ _ (retireTarget_eq_ok retired.target).2.found)
  | revoke revoked =>
      obtain rfl := List.mem_singleton.mp member
      exact revoked.closing.carried (held _ _ (revokeTarget_eq_ok revoked.target).1)
  | invalidate unique invalidated =>
      obtain ⟨record, change⟩ := invalidated updated member
      have carried := held _ _ change.found
      have reissued := change.reissued
      obtain ⟨next, nextAuthority, advanced, rfl⟩ := change.made
      have provenance := carried.storable.provenance
      exact carried.reissued reissued valid nofun rfl { provenance with pathAuthorityGeneration := spares }
        carried.storable.applied.backend carried.storable.observation.backend
        (RouteRecord.storable_pushHistory carried.storable.history advanced.storable
          provenance.publisher provenance.epoch)
  | resolve awaited => cases member
  | complete completed =>
      obtain rfl := List.mem_singleton.mp member
      have carried := held _ _ completed.awaited.found
      have evidence := completed.evidence
      obtain ⟨lifecycle, -, rfl⟩ := completed.made
      refine carried.evidence evidence (carried.storable.evidence evidence valid ?_
        carried.storable.observation.backend
        (RouteRecord.storable_pushHistory carried.storable.history carried.storable.generation
          carried.storable.provenance.publisher carried.storable.provenance.epoch))
      simp only [RouteRecord.completed, RouteRecord.pushHistory]
      split
      · assumption
      · exact backend
  | observe observed =>
      obtain rfl := List.mem_singleton.mp member
      have carried := held _ _ observed.found
      obtain rfl := observed.made
      refine carried.evidence (RouteRecord.observed_evidence _ _ _)
        (carried.storable.evidence (RouteRecord.observed_evidence _ _ _) valid
          carried.storable.applied.backend ?_ carried.storable.history)
      simp only [RouteRecord.observed]
      split
      · assumption
      · exact backend

/-- The attempts of an edit are read back. -/
theorem Legal.storable_attempts (indexed : Indexed origin) (unused : origin.createsUnused config call = true)
    (held : state.contents.Readable config.limits)
    (carried : ∀ updated ∈ edit.upserts, updated.Carried config.limits)
    (legal : Legal config call.env origin call.action state edit) (attempt : ProgrammingAttemptRecord)
    (member : attempt ∈ edit.attempts) : attempt.Storable := by
  rcases legal.settles indexed unused member with ⟨updated, only, opens⟩ | ⟨known, found, -, rfl⟩
  · have storable := (carried updated (only ▸ List.mem_cons_self)).storable
    have drawn : attempt.attempt.isValid = true := by
      have draws := legal.drawn member (by rw [opens.waits]; rfl)
      simp only [drawsAttempt, Option.ite_none_right_eq_some, Option.some.injEq] at draws
      rw [← draws.2]
      exact generateId_isValid _
    rw [opens.waits]
    exact ⟨drawn, storable.valid.id, storable.generation, storable.programmingGeneration, held.epoch⟩
  · have storable := held.attempts _ known found
    exact ⟨storable.attempt, storable.route, storable.desiredGeneration, storable.programmingGeneration,
      storable.epoch⟩

/-- The revocations of an edit are read back, and their routes are installed by it. -/
theorem Legal.storable_revoked (readable : origin.contents.Readable config.limits)
    (carried : ∀ updated ∈ edit.upserts, updated.Carried config.limits)
    (legal : Legal config call.env origin call.action state edit) :
    edit.revoked.length ≤ 1 ∧ ∀ revocation ∈ edit.revoked, revocation.Storable config.limits ∧
      ∃ updated ∈ edit.upserts, updated.id = revocation.route := by
  generalize call.action = action at legal
  cases legal with
  | revoke revoked =>
      rename_i request record updated
      refine ⟨Nat.le_refl 1, ?_⟩
      intro revocation member
      obtain rfl := List.mem_singleton.mp member
      have storable := (carried updated List.mem_cons_self).storable
      have named : request.attempt.isValid = true := by
        obtain ⟨generation, authorityGeneration, -, rfl⟩ := revoked.closing.made
        exact (storable.valid.retired rfl).2.2.2
      exact ⟨⟨storable.valid.id, ⟨storable.valid.key, storable.key⟩, storable.generation, readable.epoch,
        named, length_bounded_le _⟩, updated, List.mem_cons_self, rfl⟩
  | _ => exact ⟨Nat.zero_le 1, fun _ member => absurd member List.not_mem_nil⟩

/-- The limits of a runtime that opened admit one of each. -/
theorem checkConfig_positive (checked : checkConfig config = .ok ()) :
    1 ≤ config.limits.maxRoutes ∧ 1 ≤ config.limits.maxOutstandingProgramming := by
  simp only [checkConfig, Limits.validate, Limits.requirePositive, bind_eq_ok, exists_unit,
    ensure_eq_ok] at checked
  exact ⟨checked.1.1, checked.1.2.2.2.2.2.1⟩

/-- A publication installs one record at a time. -/
theorem Legal.published (legal : Legal config call.env origin call.action state edit)
    {request : PublishRequest} (publishes : call.action = .publish request) :
    ∃ updated, edit.upserts = [updated] := by
  rw [publishes] at legal
  cases legal <;> exact ⟨_, rfl⟩

/-- What an edit installs is within the capacity of the coordinator. -/
theorem Legal.count (indexed : Indexed origin) (count : state.routes.size ≤ config.limits.maxRoutes)
    (legal : Legal config call.env origin call.action state edit) :
    (state.applyEdit edit).routes.size ≤ config.limits.maxRoutes := by
  by_cases contained : ∀ updated ∈ edit.upserts, updated.id ∈ state.routes
  · refine Nat.le_trans (size_le_size fun id member => ?_) count
    rw [applyEdit_routes, mem_foldl_insert] at member
    rcases member with ⟨updated, member, rfl⟩ | present
    · exact contained updated member
    · exact present
  · push Not at contained
    obtain ⟨updated, member, absent⟩ := contained
    rcases legal.updates indexed member with ⟨request, attempt, publishes, created⟩ |
      ⟨record, -, found, -⟩
    · obtain ⟨only, single⟩ := legal.published publishes
      rw [applyEdit_routes, single, List.foldl_cons, List.foldl_nil]
      have capacity := created.capacity
      have grown := @Std.ExtTreeMap.size_insert_le _ _ _ state.routes _ only.id only
      omega
    · exact absurd ((mem_iff_lookup _ _).mpr ⟨record, found⟩) absent

/-- An edit of a runtime that spares the reader is read back. -/
theorem Legal.carried (indexed : Indexed origin) (readable : origin.contents.Readable config.limits)
    (keeps : KeepsReadable config origin call) (checked : checkConfig config = .ok ())
    (held : state.contents.Readable config.limits)
    (legal : Legal config call.env origin call.action state edit) : edit.Carried config.limits := by
  obtain ⟨positive, positiveAttempts⟩ := checkConfig_positive checked
  have upserts := legal.carried_upserts indexed readable keeps (checkConfig_historyLimit checked)
  obtain ⟨revokedCount, revoked⟩ := legal.storable_revoked readable upserts
  refine ⟨upserts, ?_, fun revocation member => (revoked revocation member).1,
    revokedCount.trans positive, legal.storable_attempts indexed keeps.unused held upserts, ?_⟩
  · -- The records are found under distinct identities after the edit.
    have present : ∀ id ∈ edit.upserts.map (·.id), id ∈ (state.applyEdit edit).routes := by
      intro id member
      obtain ⟨updated, inUpserts, same⟩ := List.mem_map.mp member
      rw [applyEdit_routes, mem_foldl_insert]
      exact .inl ⟨updated, inUpserts, same⟩
    have length := length_le_size legal.unique present
    rw [List.length_map] at length
    exact length.trans (legal.count indexed held.count)
  · have single : edit.attempts.length ≤ 1 := by
      generalize call.action = action at legal
      cases legal <;> simp
    omega

/-- Readable contents stay readable. -/
theorem readable_applyEdit (readable : state.contents.Readable limits) (carried : edit.Carried limits)
    (count : (state.applyEdit edit).routes.size ≤ limits.maxRoutes)
    (known : ∀ revocation ∈ edit.revoked, ∃ updated ∈ edit.upserts, updated.id = revocation.route) :
    (state.applyEdit edit).contents.Readable limits where
  epoch := by
    change (state.applyEdit edit).epoch.Storable
    rw [(applyEdit_frame edit).epoch]
    exact readable.epoch
  policyGeneration := by
    change (state.applyEdit edit).policyGeneration.Storable
    rw [(applyEdit_frame edit).policyGeneration]
    exact readable.policyGeneration
  routes := by
    intro id record found
    rcases lookup_applyEdit found with ⟨member, -⟩ | ⟨-, kept⟩
    · exact carried.upserts record member
    · exact readable.routes id record kept
  revocations := by
    intro id revocation found
    change (state.applyEdit edit).revocations[id]? = some revocation at found
    rw [applyEdit_revocations] at found
    rcases lookup_foldl_insert_some found with ⟨member, -⟩ | ⟨-, kept⟩
    · exact carried.revoked revocation member
    · exact readable.revocations id revocation kept
  revoked := by
    intro id member
    change id ∈ (state.applyEdit edit).revocations at member
    change id ∈ (state.applyEdit edit).routes
    rw [applyEdit_revocations, mem_foldl_insert] at member
    rw [applyEdit_routes, mem_foldl_insert]
    rcases member with ⟨revocation, inRevoked, rfl⟩ | present
    · exact .inl (known revocation inRevoked)
    · exact .inr (readable.revoked id present)
  attempts := by
    intro id attempt found
    change (state.applyEdit edit).attempts[id]? = some attempt at found
    rw [applyEdit_attempts] at found
    rcases lookup_foldl_insert_some found with ⟨member, -⟩ | ⟨-, kept⟩
    · exact carried.attempts attempt member
    · exact readable.attempts id attempt kept
  count := count

/-! ## Outstanding attempts -/

/-- The attempts on record that wait for an outcome. -/
def outstandingIds (attempts : Map ProgrammingAttemptId ProgrammingAttemptRecord) :
    Finset ProgrammingAttemptId :=
  (keySet attempts).filter fun id => (attempts[id]?.all (·.resolved)) = false

theorem mem_outstandingIds {attempts : Map ProgrammingAttemptId ProgrammingAttemptRecord}
    {id : ProgrammingAttemptId} :
    id ∈ outstandingIds attempts ↔ ∃ attempt, attempts[id]? = some attempt ∧ attempt.resolved = false := by
  rw [outstandingIds, Finset.mem_filter, mem_keySet, mem_iff_lookup]
  constructor
  · rintro ⟨⟨attempt, found⟩, waits⟩
    exact ⟨attempt, found, by simpa [found] using waits⟩
  · rintro ⟨attempt, found, waits⟩
    exact ⟨⟨attempt, found⟩, by simp [found, waits]⟩

/-- The counter of outstanding attempts is a bound on their number, within the limit. -/
structure Rationed (state : Impl) (limits : Limits) : Prop where
  counted : (outstandingIds state.attempts).card ≤ state.outstandingProgramming
  limited : state.outstandingProgramming ≤ limits.maxOutstandingProgramming

theorem Rationed.congr {after : Impl} (rationed : state.Rationed limits)
    (attempts : after.attempts = state.attempts)
    (outstanding : after.outstandingProgramming = state.outstandingProgramming) :
    after.Rationed limits := by
  constructor
  · rw [attempts, outstanding]
    exact rationed.counted
  · rw [outstanding]
    exact rationed.limited

theorem Rationed.recordAttempt (rationed : state.Rationed limits) {attempt : ProgrammingAttemptRecord}
    (waits : attempt.resolved = false)
    (room : state.outstandingProgramming < limits.maxOutstandingProgramming) :
    (state.recordAttempt attempt).Rationed limits := by
  have grown : outstandingIds (state.recordAttempt attempt).attempts ⊆
      insert attempt.attempt (outstandingIds state.attempts) := by
    intro id member
    obtain ⟨found, lookup, unresolved⟩ := mem_outstandingIds.mp member
    simp only [Impl.recordAttempt, lookup_insert] at lookup
    rw [Finset.mem_insert]
    split at lookup
    · rename_i same
      exact .inl same.symm
    · exact .inr (mem_outstandingIds.mpr ⟨found, lookup, unresolved⟩)
  have size := (Finset.card_le_card grown).trans (Finset.card_insert_le _ _)
  have counted := rationed.counted
  have next : (state.recordAttempt attempt).outstandingProgramming = state.outstandingProgramming + 1 := by
    simp [Impl.recordAttempt, waits]
  constructor <;> omega

theorem Rationed.resolveAttempt (rationed : state.Rationed limits) {attempt : ProgrammingAttemptRecord}
    (resolved : attempt.resolved = true) : (state.resolveAttempt attempt).Rationed limits := by
  have shrunk : outstandingIds (state.resolveAttempt attempt).attempts ⊆
      (outstandingIds state.attempts).erase attempt.attempt := by
    intro id member
    obtain ⟨found, lookup, unresolved⟩ := mem_outstandingIds.mp member
    simp only [Impl.resolveAttempt, lookup_insert] at lookup
    split at lookup
    · obtain rfl := Option.some.inj lookup
      rw [resolved] at unresolved
      cases unresolved
    · rename_i different
      exact Finset.mem_erase.mpr ⟨fun same => different same.symm,
        mem_outstandingIds.mpr ⟨found, lookup, unresolved⟩⟩
  have size := Finset.card_le_card shrunk
  have kept := Finset.card_erase_le (s := outstandingIds state.attempts) (a := attempt.attempt)
  have counted := rationed.counted
  have limited := rationed.limited
  by_cases waits : attempt.attempt ∈ outstandingIds state.attempts
  · obtain ⟨known, found, unresolved⟩ := mem_outstandingIds.mp waits
    have next : (state.resolveAttempt attempt).outstandingProgramming = state.outstandingProgramming - 1 := by
      simp [Impl.resolveAttempt, found, unresolved]
    rw [Finset.card_erase_of_mem waits] at size
    constructor <;> omega
  · have next : (state.resolveAttempt attempt).outstandingProgramming = state.outstandingProgramming := by
      simp only [Impl.resolveAttempt]
      split
      · rename_i known found
        split
        · rfl
        · rename_i unresolved
          exact absurd (mem_outstandingIds.mpr ⟨known, found, Bool.eq_false_iff.mpr unresolved⟩) waits
      · rfl
    constructor <;> omega

/-- Every edit keeps the count. -/
theorem Legal.rationed {held : Impl} (indexed : Indexed origin)
    (legal : Legal config call.env origin call.action state edit)
    (same : held.outstandingProgramming = state.outstandingProgramming)
    (rationed : held.Rationed config.limits) : (held.applyEdit edit).Rationed config.limits := by
  have attempts : (edit.revoked.foldl Impl.revoke (edit.upserts.foldl Impl.commit held)).attempts =
      held.attempts := by
    rw [foldl_project Impl.attempts Impl.revoke (fun _ _ => rfl),
      foldl_project Impl.attempts Impl.commit (fun _ _ => commit_attempts _)]
  have outstanding : (edit.revoked.foldl Impl.revoke (edit.upserts.foldl Impl.commit
      held)).outstandingProgramming = held.outstandingProgramming := by
    rw [foldl_project Impl.outstandingProgramming Impl.revoke (fun _ _ => rfl),
      foldl_project Impl.outstandingProgramming Impl.commit (fun _ _ => commit_outstandingProgramming _)]
  have installed := rationed.congr attempts outstanding
  rcases legal.books indexed with none | ⟨updated, operation, attempt, -, only, -, dispatched⟩ |
    ⟨attempt, only, -⟩
  · rw [applyEdit, none]
    exact installed
  · have waits : attempt.resolved = false := by
      rw [dispatched.waits]
      rfl
    rw [applyEdit, only, List.foldl_cons, List.foldl_nil, settleAttempt, if_neg (by simp [waits])]
    exact installed.recordAttempt waits (by rw [outstanding, same]; exact dispatched.room)
  · rw [applyEdit, only, List.foldl_cons, List.foldl_nil, settleAttempt, if_pos rfl]
    exact installed.resolveAttempt rfl

/-! ## Recovery -/

section Recovery

variable {files after : StoreFiles} {loaded : PersistedState}

/-- The records after recovery are read back. -/
theorem recovery_routes (loads : Loads config env files after loaded) (checked : checkConfig config = .ok ())
    (backend : env.backend.id.isValid = true) (readable : loaded.contents.Readable config.limits)
    (accounted : loaded.contents.Accounted) (id : RouteId) (record : RouteRecord)
    (found : (recovery config env seed after loaded).1.routes[id]? = some record) :
    record.Carried config.limits := by
  have bound := checkConfig_historyLimit checked
  have held : ∀ (id : RouteId) record,
      (recovery config env seed after loaded).1.routes[id]? = some record → record.Carried config.limits ∧
        ∃ earlier, loaded.contents.routes[id]? = some earlier ∧ record.generation = earlier.generation := by
    refine (recover_indexed_induction config env.backend.id loads.indexed
      (motive := fun _ current _ => ∀ (id : RouteId) record, current.routes[id]? = some record →
        record.Carried config.limits ∧
          ∃ earlier, loaded.contents.routes[id]? = some earlier ∧ record.generation = earlier.generation)
      ?_ ?_ ?_ ?_).2
    · intro id record found
      rw [populate_routes] at found
      exact ⟨readable.routes id record found, record, found, rfl⟩
    · exact fun _ _ _ _ known _ => known
    · exact fun _ _ _ _ _ _ _ _ known => known
    · intro _ current _ attempt waiting indexed inAttempts _ waitingFound awaited known id record found
      rw [resolveAttempt_routes, commit_routes, lookup_insert] at found
      split at found
      · rename_i same
        obtain rfl := Option.some.inj found
        obtain ⟨carried, earlier, earlierFound, generation⟩ := known attempt.route waiting waitingFound
        obtain ⟨key, attemptFound⟩ := (mem_values _ _).mp inAttempts
        rw [populate_attempts] at attemptFound
        obtain ⟨route, routeFound, agrees⟩ := accounted.agrees key attempt attemptFound
        obtain rfl := Option.some.inj (earlierFound.symm.trans routeFound)
        have evidence := RouteRecord.recovered_evidence awaited config.historyLimit env.backend.id
        have storable := carried.storable.recovered bound awaited
          (by rw [generation]; exact agrees.desired) backend
        refine ⟨carried.evidence evidence storable, earlier, ?_, evidence.generation.trans generation⟩
        rw [← same, evidence.id, indexed.routes _ _ waitingFound]
        exact earlierFound
      · exact known id record found
  exact (held id record found).1

/-- Recovery writes each route and each attempt at most once. -/
theorem recovery_distinct (loads : Loads config env files after loaded) (seed : Word) :
    ((recovery config env seed after loaded).2.upserts.map (·.id)).Nodup ∧
      ((recovery config env seed after loaded).2.attempts.map (·.attempt)).Nodup := by
  have indexed : Indexed ((fresh seed after).populate loaded) := loads.indexed
  have held := (recover_indexed_induction config env.backend.id indexed
    (motive := fun done current edit => (edit.upserts.map (·.id)).Nodup ∧
      (∀ record ∈ edit.upserts, ∀ held, current.routes[record.id]? = some held →
        held.lifecycle = .revalidationRequired) ∧
      (edit.attempts.map (·.attempt)).Sublist (done.map (·.attempt))) ?_ ?_ ?_ ?_).2
  · exact ⟨held.1, held.2.2.nodup (nodup_map_values indexed.attempts)⟩
  · exact ⟨List.nodup_nil, fun _ member => absurd member List.not_mem_nil, .refl _⟩
  · rintro done current edit attempt ⟨unique, settled, sublist⟩ -
    rw [List.map_append]
    exact ⟨unique, settled, sublist.trans (List.sublist_append_left _ _)⟩
  · rintro done current edit attempt - - - - ⟨unique, settled, sublist⟩
    rw [List.map_append, List.map_append]
    exact ⟨unique, settled, sublist.append (.refl _)⟩
  · rintro done current edit attempt record held - - found awaited ⟨unique, settled, sublist⟩
    obtain ⟨-, -, lifecycle⟩ := RouteRecord.recovered_lifecycle awaited config.historyLimit env.backend.id
    have same : (record.recovered config.historyLimit env.backend.id attempt).id = attempt.route := by
      rw [(RouteRecord.recovered_evidence awaited config.historyLimit env.backend.id).id]
      exact held.routes _ _ found
    rw [List.map_append, List.map_append, List.map_append]
    refine ⟨?_, ?_, sublist.append (.refl _)⟩
    · -- A route that was reclaimed waits for nothing any more.
      refine List.nodup_append.mpr ⟨unique, List.nodup_singleton _, ?_⟩
      rintro id member other isLast rfl
      obtain ⟨earlier, inUpserts, earlierId⟩ := List.mem_map.mp member
      have own : earlier.id = attempt.route := by
        rw [earlierId, ← same]
        exact List.mem_singleton.mp isLast
      have reclaimed := settled earlier inUpserts record (own ▸ found)
      simp [awaits, reclaimed, RouteLifecycle.hasOutstandingProgramming] at awaited
    · intro other member kept lookup
      rw [resolveAttempt_routes, commit_routes, lookup_insert] at lookup
      split at lookup
      · obtain rfl := Option.some.inj lookup
        exact lifecycle
      · rename_i different
        rcases List.mem_append.mp member with old | new
        · exact settled other old kept lookup
        · exact absurd (by rw [List.mem_singleton.mp new]) different

/-- Recovery resolves no more attempts than were outstanding. -/
theorem recovery_resolved_length (loads : Loads config env files after loaded) (seed : Word) :
    (recovery config env seed after loaded).2.attempts.length ≤
      (outstandingIds loaded.contents.attempts).card := by
  have recovered : Recovered _ _ _ := loads.recovered seed
  have contained : ((recovery config env seed after loaded).2.attempts.map (·.attempt)).toFinset ⊆
      outstandingIds loaded.contents.attempts := by
    intro id member
    obtain ⟨attempt, inAttempts, rfl⟩ := List.mem_map.mp (List.mem_toFinset.mp member)
    obtain ⟨known, held, waits, -⟩ := recovered.resolves attempt inAttempts
    rw [populate_attempts] at held
    exact mem_outstandingIds.mpr ⟨known, held, waits⟩
  have size := Finset.card_le_card contained
  rwa [List.toFinset_card_of_nodup (recovery_distinct loads seed).2, List.length_map] at size

/-- Recovery keeps readable contents readable. -/
theorem recovery_readable (loads : Loads config env files after loaded)
    (checked : checkConfig config = .ok ()) (backend : env.backend.id.isValid = true)
    (readable : loaded.contents.Readable config.limits) (accounted : loaded.contents.Accounted) :
    (recovery config env seed after loaded).1.contents.Readable config.limits := by
  have recovered : Recovered _ _ _ := loads.recovered seed
  have revocations : (recovery config env seed after loaded).1.revocations = loaded.contents.revocations := by
    rw [recovered.revocations, populate_revocations]
    rfl
  refine ⟨?_, ?_, recovery_routes loads checked backend readable accounted, ?_, ?_, ?_, ?_⟩
  · change (recovery config env seed after loaded).1.epoch.Storable
    rw [recovered.frame.epoch, populate_epoch]
    exact readable.epoch
  · change (recovery config env seed after loaded).1.policyGeneration.Storable
    rw [recovered.frame.policyGeneration, populate_policyGeneration]
    exact readable.policyGeneration
  · intro id revocation found
    change (recovery config env seed after loaded).1.revocations[id]? = some revocation at found
    rw [revocations] at found
    exact readable.revocations id revocation found
  · intro id member
    change id ∈ (recovery config env seed after loaded).1.revocations at member
    rw [revocations] at member
    apply recovered.present
    rw [populate_routes]
    exact readable.revoked id member
  · intro id attempt found
    obtain ⟨known, held, continues⟩ := recovery_continues loads found
    have storable := readable.attempts id known held
    rcases continues with rfl | ⟨-, rfl⟩
    · exact storable
    · exact ⟨storable.attempt, storable.route, storable.desiredGeneration,
        storable.programmingGeneration, storable.epoch⟩
  · refine Nat.le_trans (size_le_size fun id member => ?_) readable.count
    obtain ⟨record, found⟩ := (mem_iff_lookup _ _).mp member
    obtain ⟨earlier, earlierFound, -⟩ := recovered.evidence id record found
    rw [populate_routes] at earlierFound
    exact (mem_iff_lookup _ _).mpr ⟨earlier, earlierFound⟩

/-- What recovery writes is read back. -/
theorem recovery_carried (loads : Loads config env files after loaded)
    (checked : checkConfig config = .ok ()) (backend : env.backend.id.isValid = true)
    (readable : loaded.contents.Readable config.limits) (accounted : loaded.contents.Accounted)
    (rationed : (outstandingIds loaded.contents.attempts).card ≤ config.limits.maxOutstandingProgramming) :
    (recovery config env seed after loaded).2.Carried config.limits := by
  have recovered : Recovered _ _ _ := loads.recovered seed
  obtain ⟨uniqueRoutes, uniqueAttempts⟩ := recovery_distinct loads seed
  have settled : (recovery config env seed after loaded).1.contents.Readable config.limits :=
    recovery_readable loads checked backend readable accounted
  have installed : ∀ record ∈ (recovery config env seed after loaded).2.upserts,
      (recovery config env seed after loaded).1.routes[record.id]? = some record := by
    intro record member
    rw [recovered.routes]
    exact lookup_foldl_insert_of_mem uniqueRoutes member
  have recorded : ∀ attempt ∈ (recovery config env seed after loaded).2.attempts,
      (recovery config env seed after loaded).1.attempts[attempt.attempt]? = some attempt := by
    intro attempt member
    rw [recovered.attempts]
    exact lookup_foldl_insert_of_mem uniqueAttempts member
  have none : (recovery config env seed after loaded).2.revoked = [] := recovered.unrevoked
  refine ⟨fun record member => settled.routes _ record (installed record member), ?_, ?_, ?_,
    fun attempt member => settled.attempts _ attempt (recorded attempt member), ?_⟩
  · have present : ∀ id ∈ (recovery config env seed after loaded).2.upserts.map (·.id),
        id ∈ (recovery config env seed after loaded).1.routes := by
      intro id member
      obtain ⟨record, inUpserts, rfl⟩ := List.mem_map.mp member
      exact (mem_iff_lookup _ _).mpr ⟨record, installed record inUpserts⟩
    have length := length_le_size uniqueRoutes present
    rw [List.length_map] at length
    exact length.trans settled.count
  · rw [none]
    exact fun _ member => absurd member List.not_mem_nil
  · rw [none]
    exact Nat.zero_le _
  · exact (recovery_resolved_length loads seed).trans rationed

/-- The outstanding attempts of a loaded state, by identity and in the list. -/
theorem outstandingIds_card (unique : loaded.Unique) :
    (outstandingIds loaded.contents.attempts).card = (loaded.attempts.filter (·.resolved = false)).length := by
  have distinct : ((loaded.attempts.filter (·.resolved = false)).map (·.attempt)).Nodup :=
    unique.attempts.sublist (List.filter_sublist.map _)
  have same : ((loaded.attempts.filter (·.resolved = false)).map (·.attempt)).toFinset =
      outstandingIds loaded.contents.attempts := by
    ext id
    rw [List.mem_toFinset, List.mem_map, mem_outstandingIds]
    constructor
    · rintro ⟨attempt, member, rfl⟩
      obtain ⟨inAttempts, waits⟩ := List.mem_filter.mp member
      exact ⟨attempt, lookup_index_of_mem unique.attempts inAttempts, by simpa using waits⟩
    · rintro ⟨attempt, found, waits⟩
      obtain ⟨inAttempts, own⟩ := lookup_index_some found
      exact ⟨attempt, List.mem_filter.mpr ⟨inAttempts, by simpa using waits⟩, own⟩
  rw [← same, List.toFinset_card_of_nodup distinct, List.length_map]

/-- A loaded state counts its outstanding attempts. -/
theorem populate_outstanding (unique : loaded.Unique) :
    ((fresh seed after).populate loaded).outstandingProgramming =
      (outstandingIds loaded.contents.attempts).card := by
  rw [outstandingIds_card unique]
  simp only [populate]
  rw [foldl_project Impl.outstandingProgramming indexInsert (fun _ _ => rfl)]
  exact Nat.zero_add _

theorem populate_rationed (unique : loaded.Unique)
    (rationed : (outstandingIds loaded.contents.attempts).card ≤ limits.maxOutstandingProgramming) :
    ((fresh seed after).populate loaded).Rationed limits := by
  have counted : ((fresh seed after).populate loaded).outstandingProgramming = _ :=
    populate_outstanding unique
  constructor
  · rw [populate_attempts, counted]
    exact Nat.le_refl _
  · rw [counted]
    exact rationed

/-- Recovery keeps the count. -/
theorem recovery_rationed (unique : loaded.Unique)
    (rationed : (outstandingIds loaded.contents.attempts).card ≤ config.limits.maxOutstandingProgramming) :
    (recovery config env seed after loaded).1.Rationed config.limits := by
  refine recover_induction config env.backend.id
    (motive := fun _ current _ => current.Rationed config.limits) (populate_rationed unique rationed) ?_ ?_ ?_
  · exact fun _ _ _ _ held _ => held
  · exact fun _ _ _ _ _ _ _ held => held.resolveAttempt rfl
  · intro _ current _ attempt record _ _ _ _ held
    exact (held.congr (commit_attempts _) (commit_outstandingProgramming _)).resolveAttempt rfl

end Recovery

end Impl

end RouteFabric
