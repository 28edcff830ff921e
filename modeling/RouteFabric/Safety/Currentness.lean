import RouteFabric.Safety.Written

/-!
# Soundness of currentness

A route that is reported current is installed at its own generations, not revoked, held
under a live registration of the current epoch, and not contradicted by the path authority
or by the backend. Currentness looks at some of this only. That the registration is of the
current epoch and not fenced, and that an installed record was applied at the generations
it has, are invariants of the coordinator (`Attested`).
-/

namespace RouteFabric

open OrderedMap Run

namespace Impl

variable {config : RuntimeConfig} {env : Env} {seed : Word} {origin state : Impl} {action : Action}
  {edit : Edit} {record : RouteRecord}

/-! ## What is checked -/

/-- What a report that a record is current stands for. -/
structure Warranted (env : Env) (state : Impl) (record : RouteRecord) : Prop where
  installed : record.lifecycle = .installed
  applied : record.applied.classification = .applied ∨
    record.applied.classification = .idempotentAlreadyApplied
  programmed : record.applied.programmedGeneration = record.generation
  programmedAuthority : record.applied.programmedAuthorityGeneration = record.authorityGeneration
  unrevoked : state.revocations[record.id]? = none
  authorized : ∃ registration,
    state.authorize record.provenance.publisher record.provenance.workerBoot = .ok registration
  path : record.binding.kind = .authorizedPath →
    (env.query record.binding.path).state = .usable ∧
      (env.query record.binding.path).generation = record.binding.pathAuthorityGeneration
  unmissed : record.observation.classification ≠ .missing
  undiverged : record.observation.classification ≠ .diverged

/-- What currentness looks at. -/
structure Checked (env : Env) (state : Impl) (record : RouteRecord) : Prop where
  unrevoked : state.revocations[record.id]? = none
  installed : record.lifecycle = .installed
  epoch : record.provenance.epoch = state.epoch
  registered : ∃ registration, state.registrations[record.provenance.publisher]? = some registration ∧
    registration.workerBoot = record.provenance.workerBoot
  unfenced : ¬ record.provenance.workerBoot ∈ state.fencedBoots
  path : record.binding.kind = .authorizedPath →
    (env.query record.binding.path).state = .usable ∧
      (env.query record.binding.path).generation = record.binding.pathAuthorityGeneration
  unmissed : record.observation.classification ≠ .missing
  undiverged : record.observation.classification ≠ .diverged

theorem currentnessOf_current (current : state.currentnessOf env record = .current) :
    Checked env state record := by
  unfold currentnessOf at current
  split at current
  · cases current
  rename_i unrevoked
  rw [Bool.not_eq_true, Option.isSome_eq_false_iff, Option.isNone_iff_eq_none] at unrevoked
  split at current <;> try cases current
  split at current
  · cases current
  rename_i epoch
  split at current
  · cases current
  rename_i registration registered
  split at current
  · cases current
  rename_i boot
  split at current
  · cases current
  rename_i unfenced
  split at current
  · cases current
  rename_i usable
  split at current
  · cases current
  rename_i generation
  split at current
  · cases current
  split at current
  · cases current
  rename_i undiverged
  split at current
  · cases current
  rename_i unmissed
  split at current
  · rename_i installed
    exact ⟨unrevoked, installed, not_not.mp epoch, ⟨registration, registered, not_not.mp boot⟩, unfenced,
      fun bound => ⟨not_not.mp fun rejected => usable ⟨bound, rejected⟩,
        not_not.mp fun stale => generation ⟨bound, stale⟩⟩, unmissed, undiverged⟩
  · cases current

/-! ## What is invariant -/

/-- Records are supported and dated, registrations are not ahead of the epoch nor behind
the records of their publisher, and no registered publisher is barred. -/
structure Attested (state : Impl) : Prop where
  supported : ∀ (id : RouteId) record, state.routes[id]? = some record → record.Supported
  dated : ∀ (id : RouteId) record, state.routes[id]? = some record →
    record.provenance.epoch.value ≤ state.epoch.value
  registered : ∀ (publisher : PublisherId) registration,
    state.registrations[publisher]? = some registration →
    registration.epoch.value ≤ state.epoch.value ∧ state.administrativeFences[publisher]? = none
  renewed : ∀ (id : RouteId) record registration, state.routes[id]? = some record →
    state.registrations[record.provenance.publisher]? = some registration →
    record.provenance.epoch.value ≤ registration.epoch.value

/-- A record reported current is warranted. -/
theorem Attested.warranted (attested : Attested state) {id : RouteId} (found : state.routes[id]? = some record)
    (current : state.currentnessOf env record = .current) : Warranted env state record := by
  have checked := currentnessOf_current current
  obtain ⟨applied, programmed, programmedAuthority⟩ := attested.supported id record found checked.installed
  obtain ⟨registration, registered, boot⟩ := checked.registered
  obtain ⟨notAhead, unbarred⟩ := attested.registered _ registration registered
  have notBehind := attested.renewed id record registration found registered
  rw [checked.epoch] at notBehind
  have sameEpoch : registration.epoch = state.epoch := CounterId.ext (Nat.le_antisymm notAhead notBehind)
  exact ⟨checked.installed, by simpa [AppliedState.reportsApplied] using applied, programmed,
    programmedAuthority, checked.unrevoked,
    ⟨registration, authorize_eq_ok.mpr ⟨unbarred, registered, boot, sameEpoch, checked.unfenced⟩⟩,
    checked.path, checked.unmissed, checked.undiverged⟩

/-! ## Registrations -/

theorem fencePublisher_registrations (fenced publisher : PublisherId) (reason : FencingReason) :
    (state.fencePublisher fenced reason).registrations[publisher]? =
      if fenced = publisher then none else state.registrations[publisher]? := by
  unfold fencePublisher
  cases held : state.registrations[fenced]? with
  | none =>
      have same : state.registrations[publisher]? =
          if fenced = publisher then none else state.registrations[publisher]? := by
        split
        · rename_i same
          rw [← same, held]
        · rfl
      by_cases barred : reason = .administrative
      · simpa only [if_pos barred] using same
      · simpa only [if_neg barred] using same
  | some registration =>
      by_cases barred : reason = .administrative
      · simp only [if_pos barred, lookup_erase]
      · simp only [if_neg barred, lookup_erase]

theorem fencePublisher_fences (fenced publisher : PublisherId) (reason : FencingReason) :
    (state.fencePublisher fenced reason).administrativeFences[publisher]? =
      if reason = .administrative ∧ fenced = publisher then some reason
      else state.administrativeFences[publisher]? := by
  unfold fencePublisher
  by_cases barred : reason = .administrative
  · cases state.registrations[fenced]? with
    | none => simp only [barred, if_true, true_and, lookup_insert]
    | some registration => simp only [barred, if_true, true_and, lookup_insert]
  · cases state.registrations[fenced]? with
    | none => simp only [barred, if_false, false_and]
    | some registration => simp only [barred, if_false, false_and]

theorem barPublisher_registrations {reason : FencingReason} {publishers : List PublisherId}
    {publisher : PublisherId} {registration : PublisherRegistration}
    (found : (publishers.foldl (barPublisher reason) state).registrations[publisher]? = some registration) :
    state.registrations[publisher]? = some registration ∧
      (publishers.foldl (barPublisher reason) state).administrativeFences[publisher]? =
        state.administrativeFences[publisher]? := by
  induction publishers generalizing state with
  | nil => exact ⟨found, rfl⟩
  | cons barred rest ih =>
      obtain ⟨held, fences⟩ := ih found
      simp only [barPublisher, lookup_erase] at held
      split at held
      · cases held
      · rename_i different
        refine ⟨held, fences.trans ?_⟩
        simp only [barPublisher]
        exact lookup_insert_of_ne _ _ different

/-- A registration found after an administrative action was there before, or was made by
it, and its publisher is not barred. -/
theorem perform_registrations (administers : action.administers = true) {publisher : PublisherId}
    {registration : PublisherRegistration}
    (found : (state.perform config env action).registrations[publisher]? = some registration) :
    (state.registrations[publisher]? = some registration ∧
        (state.administrativeFences[publisher]? = none →
          (state.perform config env action).administrativeFences[publisher]? = none)) ∨
      registration.epoch = state.epoch ∧
        (state.perform config env action).administrativeFences[publisher]? = none := by
  revert found
  cases action with
  | register registering workerBoot scope =>
      simp only [perform, registerPublisher]
      split
      · exact fun found => .inl ⟨found, fun unbarred => unbarred⟩
      split
      · exact fun found => .inl ⟨found, fun unbarred => unbarred⟩
      rename_i unbarred
      split
      · exact fun found => .inl ⟨found, fun unbarred => unbarred⟩
      · intro found
        rw [lookup_insert] at found
        split at found
        · rename_i same
          rw [← Option.some.inj found, ← same]
          exact .inr ⟨rfl, unbarred⟩
        · exact .inl ⟨found, fun unbarred => unbarred⟩
  | fencePublisher fenced reason =>
      intro found
      simp only [perform, fencePublisher_registrations] at found
      split at found
      · cases found
      · rename_i different
        refine .inl ⟨found, fun unbarred => ?_⟩
        simp only [perform, fencePublisher_fences]
        rw [if_neg fun both => different both.2]
        exact unbarred
  | fenceWorkerBoot workerBoot reason =>
      simp only [perform, fenceWorkerBoot]
      split
      · exact fun found => .inl ⟨found, fun unbarred => unbarred⟩
      split
      · intro found
        obtain ⟨held, fences⟩ := barPublisher_registrations found
        exact .inl ⟨held, fences.trans⟩
      · exact fun found => .inl ⟨found, fun unbarred => unbarred⟩
  | clearFence cleared =>
      refine fun found => .inl ⟨found, fun unbarred => ?_⟩
      simp only [perform, clearAdministrativeFence, lookup_erase]
      split
      · rfl
      · exact unbarred
  | _ => cases administers

/-! ## Provenance -/

/-- The provenance of a record that an edit installs is that of the record it replaces, or
it names a publisher registered at the current epoch. -/
inductive Attributed (origin : Impl) (updated : RouteRecord) : Prop
  | kept {earlier : RouteRecord} (found : origin.routes[updated.id]? = some earlier)
      (publisher : updated.provenance.publisher = earlier.provenance.publisher)
      (epoch : updated.provenance.epoch = earlier.provenance.epoch) : Attributed origin updated
  | authorized {workerBoot registration}
      (authorized : origin.authorize updated.provenance.publisher workerBoot = .ok registration)
      (epoch : updated.provenance.epoch = origin.epoch) : Attributed origin updated

theorem Legal.attributed (indexed : Indexed origin) (legal : Legal config env origin action state edit)
    (updated : RouteRecord) (member : updated ∈ edit.upserts) : Attributed origin updated := by
  -- Where an update keeps the provenance, the record it replaces is the one held.
  have keeps : ∀ {record : RouteRecord}, origin.routes[record.id]? = some record → updated.id = record.id →
      updated.provenance.publisher = record.provenance.publisher →
      updated.provenance.epoch = record.provenance.epoch → Attributed origin updated :=
    fun found same publisher epoch => .kept (same ▸ found) publisher epoch
  have own : ∀ {route : RouteId} {record : RouteRecord}, origin.routes[route]? = some record →
      origin.routes[record.id]? = some record :=
    fun found => (indexed.routes _ _ found) ▸ found
  cases legal with
  | takeover taken =>
      obtain rfl := List.mem_singleton.mp member
      obtain ⟨-, found, -⟩ := indexed.lookupKey taken.found
      obtain ⟨_, _, -, made⟩ := taken.made
      exact keeps found taken.reissued.id (by rw [made]; rfl) (by rw [made]; rfl)
  | create created =>
      obtain rfl := List.mem_singleton.mp member
      obtain ⟨registration, authority⟩ := created.authority
      obtain ⟨-, -, -, -, -, -, authorized, -⟩ := publishAuthority_eq_ok.mp authority
      obtain ⟨_, -, rfl⟩ := created.made
      exact .authorized authorized created.frame.epoch
  | replace replaced =>
      obtain rfl := List.mem_singleton.mp member
      obtain ⟨registration, authority, -⟩ := replaced.authority
      obtain ⟨-, -, -, -, -, -, authorized, -⟩ := publishAuthority_eq_ok.mp authority
      obtain ⟨_, _, _, -, -, rfl⟩ := replaced.made
      exact .authorized authorized rfl
  | withdraw withdrawn =>
      obtain rfl := List.mem_singleton.mp member
      have found := (withdrawTarget_eq_ok withdrawn.target).1.found
      obtain ⟨_, _, _, -, -, made⟩ := withdrawn.made
      exact keeps (own found) withdrawn.reissued.id (by rw [made]; rfl) (by rw [made]; rfl)
  | revalidate revalidated =>
      obtain rfl := List.mem_singleton.mp member
      obtain ⟨registration, authorized, -⟩ := (revalidateTarget_eq_ok revalidated.target).1.authorized
      obtain ⟨_, _, _, -, -, rfl⟩ := revalidated.made
      exact .authorized authorized rfl
  | retire retired =>
      obtain rfl := List.mem_singleton.mp member
      have found := (retireTarget_eq_ok retired.target).2.found
      obtain ⟨_, _, -, made⟩ := retired.closing.made
      exact keeps (own found) retired.closing.reissued.id (by rw [made]; rfl) (by rw [made]; rfl)
  | revoke revoked =>
      obtain rfl := List.mem_singleton.mp member
      have found := (revokeTarget_eq_ok revoked.target).1
      obtain ⟨_, _, -, made⟩ := revoked.closing.made
      exact keeps (own found) revoked.closing.reissued.id (by rw [made]; rfl) (by rw [made]; rfl)
  | invalidate unique invalidated =>
      obtain ⟨record, change⟩ := invalidated updated member
      obtain ⟨_, _, -, made⟩ := change.made
      exact keeps change.found change.reissued.id (by rw [made]; rfl) (by rw [made]; rfl)
  | resolve awaited => cases member
  | complete completed =>
      obtain rfl := List.mem_singleton.mp member
      have evidence := completed.evidence
      exact keeps (own completed.awaited.found) evidence.id (by rw [evidence.provenance])
        (by rw [evidence.provenance])
  | observe observed =>
      obtain rfl := List.mem_singleton.mp member
      have evidence := observed.made ▸ RouteRecord.observed_evidence _ env.backend.id _
      exact keeps (own observed.found) evidence.id (by rw [evidence.provenance])
        (by rw [evidence.provenance])

theorem Legal.supported (indexed : Indexed origin) (attested : Attested origin)
    (legal : Legal config env origin action state edit) (updated : RouteRecord)
    (member : updated ∈ edit.upserts) : updated.Supported := by
  rcases legal.updates indexed member with ⟨request, attempt, -, created⟩ |
    ⟨record, rfl, found, ⟨-, reissued⟩ | ⟨-, evidence⟩⟩
  · obtain ⟨_, -, rfl⟩ := created.made
    exact nofun
  · exact fun installed => absurd installed reissued.uninstalled
  · exact evidence.supported (attested.supported _ record found)

/-! ## Preservation -/

/-- The invariant survives edits that it allows. -/
theorem Attested.applyEdit (held : Attested state)
    (supported : ∀ record ∈ edit.upserts, record.Supported)
    (dated : ∀ record ∈ edit.upserts, record.provenance.epoch.value ≤ state.epoch.value)
    (renewed : ∀ record ∈ edit.upserts, ∀ registration,
      state.registrations[record.provenance.publisher]? = some registration →
      record.provenance.epoch.value ≤ registration.epoch.value) : Attested (state.applyEdit edit) where
  supported := by
    intro id record found
    rcases lookup_applyEdit found with ⟨member, -⟩ | ⟨-, kept⟩
    · exact supported record member
    · exact held.supported id record kept
  dated := by
    intro id record found
    rw [(applyEdit_frame edit).epoch]
    rcases lookup_applyEdit found with ⟨member, -⟩ | ⟨-, kept⟩
    · exact dated record member
    · exact held.dated id record kept
  registered := by
    rw [(applyEdit_frame edit).epoch, (applyEdit_frame edit).registrations,
      (applyEdit_frame edit).administrativeFences]
    exact held.registered
  renewed := by
    intro id record registration found registered
    rw [(applyEdit_frame edit).registrations] at registered
    rcases lookup_applyEdit found with ⟨member, -⟩ | ⟨-, kept⟩
    · exact renewed record member registration registered
    · exact held.renewed id record registration kept registered

/-- An edit is made in a state with the epoch and the registrations of its call. -/
theorem Legal.frame (legal : Legal config env origin action state edit) : Frame origin state := by
  cases legal with
  | create created => exact created.frame
  | _ => exact .refl origin

theorem Legal.dated (indexed : Indexed origin) (attested : Attested origin)
    (legal : Legal config env origin action state edit) (updated : RouteRecord)
    (member : updated ∈ edit.upserts) :
    updated.provenance.epoch.value ≤ state.epoch.value ∧ ∀ registration,
      state.registrations[updated.provenance.publisher]? = some registration →
      updated.provenance.epoch.value ≤ registration.epoch.value := by
  rw [legal.frame.epoch, legal.frame.registrations]
  cases legal.attributed indexed updated member with
  | kept found publisher epoch =>
      rw [publisher, epoch]
      exact ⟨attested.dated _ _ found, fun registration => attested.renewed _ _ registration found⟩
  | authorized authorized epoch =>
      obtain ⟨-, registered, -, current, -⟩ := authorize_eq_ok.mp authorized
      rw [epoch]
      refine ⟨Nat.le_refl _, fun registration found => ?_⟩
      obtain rfl := Option.some.inj (registered.symm.trans found)
      rw [current]

theorem Attested.congr {after : Impl} (held : Attested state) (routes : after.routes = state.routes)
    (epoch : after.epoch = state.epoch) (registrations : after.registrations = state.registrations)
    (fences : after.administrativeFences = state.administrativeFences) : Attested after := by
  constructor
  · rw [routes]
    exact held.supported
  · rw [routes, epoch]
    exact held.dated
  · rw [registrations, epoch, fences]
    exact held.registered
  · rw [routes, registrations]
    exact held.renewed

theorem Attested.administered (held : Attested state) (administers : action.administers = true) :
    Attested (state.perform config env action) := by
  have administered : Administered state (state.perform config env action) :=
    perform_administered administers
  have epoch : (state.perform config env action).epoch = state.epoch :=
    congrArg Contents.epoch administered.contents
  constructor
  · rw [administered.routes]
    exact held.supported
  · rw [administered.routes, epoch]
    exact held.dated
  · intro publisher registration found
    rw [epoch]
    rcases perform_registrations administers found with ⟨kept, unbarred⟩ | ⟨current, unbarred⟩
    · obtain ⟨notAhead, open_⟩ := held.registered publisher registration kept
      exact ⟨notAhead, unbarred open_⟩
    · exact ⟨by rw [current], unbarred⟩
  · intro id record registration found registered
    rw [administered.routes] at found
    rcases perform_registrations administers registered with ⟨kept, -⟩ | ⟨current, -⟩
    · exact held.renewed id record registration found kept
    · rw [current]
      exact held.dated id record found

theorem Attested.move {before after : Impl} (indexed : Indexed origin) (attested : Attested origin)
    (held : Attested before) (move : Move config env origin action before after) : Attested after := by
  cases move with
  | draw ids => exact held.congr rfl rfl rfl rfl
  | mutate unbroken ids index legal =>
      rename_i edit
      have drawn : Attested { before with ids := ids } := held.congr rfl rfl rfl rfl
      rcases acknowledge_cases config (env.io index) { before with ids := ids } edit with
        ⟨files, -, applied⟩ | ⟨files, failure, -, failed⟩
      · rw [applied]
        have written : Attested { before with ids := ids, files := files } := held.congr rfl rfl rfl rfl
        exact written.applyEdit (legal.supported indexed attested)
          (fun record member => (legal.dated indexed attested record member).1)
          fun record member => (legal.dated indexed attested record member).2
      · rw [failed]
        exact drawn.congr rfl rfl rfl rfl
  | administer administers => exact attested.administered administers
  | save compacts => exact attested.congr rfl rfl rfl rfl
  | advance advances following saved =>
      have next := (CounterId.next_eq_ok following).1
      refine ⟨attested.supported, fun id record found => ?_, fun publisher registration found => ?_,
        attested.renewed⟩
      · have bound := attested.dated id record found
        simp only
        omega
      · obtain ⟨notAhead, unbarred⟩ := attested.registered publisher registration found
        refine ⟨?_, unbarred⟩
        simp only
        omega

/-! ## Restarts -/

/-- The records that the store keeps: supported, and not ahead of the epoch. -/
def Sustained (epoch : CoordinatorEpoch) (record : RouteRecord) : Prop :=
  record.Supported ∧ record.provenance.epoch.value ≤ epoch.value

theorem sustained_lasting : Lasting Sustained where
  later := fun _ _ _ held grows => ⟨held.1, held.2.trans grows⟩
  evidence := fun _ _ _ held evidence => ⟨evidence.supported held.1, by rw [evidence.provenance]; exact held.2⟩

/-- After a restart nobody is registered. -/
theorem recovery_registrations {files after : StoreFiles} {loaded : PersistedState}
    (loads : Loads config env files after loaded) :
    (recovery config env seed after loaded).1.registrations = ∅ := by
  have recovered : Recovered _ _ _ := loads.recovered seed
  rw [recovered.frame.registrations, (populate_frame loaded).registrations]
  rfl

theorem recovery_attested {files after stored : StoreFiles} {loaded : PersistedState}
    {fenced : FinSet WorkerBootId} {barred : Map PublisherId FencingReason}
    (loads : Loads config env files after loaded)
    (kinds : ∀ record ∈ loaded.routes, Sustained loaded.epoch record) :
    Attested { (recovery config env seed after loaded).1 with
      files := stored, opened := true, fencedBoots := fenced, administrativeFences := barred } := by
  obtain ⟨held, -⟩ := recovery_kinds sustained_lasting loads seed kinds
  have nobody : (recovery config env seed after loaded).1.registrations = ∅ := recovery_registrations loads
  refine ⟨fun id record found => (held id record found).1, fun id record found => (held id record found).2,
    ?_, ?_⟩
  · intro publisher registration found
    simp [nobody] at found
  · intro id record registration found registered
    simp [nobody] at registered

/-- A state in which nobody is registered attests as much as its records do. -/
theorem Attested.unregistered {after : Impl} (held : Attested state) (routes : after.routes = state.routes)
    (epoch : after.epoch = state.epoch) (nobody : after.registrations = ∅) : Attested after := by
  constructor
  · rw [routes]
    exact held.supported
  · rw [routes, epoch]
    exact held.dated
  · simp [nobody]
  · simp [nobody]

end Impl

end RouteFabric
