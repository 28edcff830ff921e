import RouteFabric.Safety.Currentness
import RouteFabric.Safety.Generations

/-!
# Fencing

A worker boot that was fenced acts no more while the process lives, whoever registers it
again, and an advance of the epoch silences every publisher until it registers anew. That
holds of boots fenced before the runtime was opened too: `Open` keeps its fences.
Fenced boots are only ever added to (`fencedBoots_of_step`), and a registration never gets
the epoch of a later one (`Enrolled`, `Lapsed`).
-/

namespace RouteFabric

open OrderedMap Run

namespace Impl

variable {config : RuntimeConfig} {env : Env} {seed : Word} {origin state : Impl} {action : Action}
  {call : Call} {boot : WorkerBootId} {publisher : PublisherId} {mutation : Mutation}

/-! ## Fencing and registering -/

/-- Whether a call fences a worker boot: it registers another one in its place, removes its
registration, or names it. -/
def fences (config : RuntimeConfig) (state : Impl) (call : Call) (boot : WorkerBootId) : Bool :=
  match call.action with
  | .register publisher workerBoot scope =>
      state.opened && (state.registerPublisher config publisher workerBoot scope).2.isOk &&
        boot ≠ workerBoot && state.registrations[publisher]?.any (·.workerBoot = boot)
  | .fencePublisher publisher _ => state.registrations[publisher]?.any (·.workerBoot = boot)
  | .fenceWorkerBoot workerBoot _ => workerBoot.isValid && workerBoot = boot
  | _ => false

/-- Whether a call registers a publisher. -/
def registers (config : RuntimeConfig) (state : Impl) (call : Call) (publisher : PublisherId) : Bool :=
  state.opened && match call.action with
  | .register registering workerBoot scope =>
      registering = publisher && (state.registerPublisher config registering workerBoot scope).2.isOk
  | _ => false

/-! ## Mutations act under a registration -/

theorem reported_authorized {generation : RouteGeneration}
    (answered : state.reported config env mutation = .ok generation) :
    ∃ registration, state.authorize mutation.publisher mutation.workerBoot = .ok registration := by
  cases mutation with
  | publish request =>
      cases authority : state.publishAuthority request with
      | error failure => simp [reported, publishRoute, publishLocked, authority, Except.map] at answered
      | ok registration =>
          obtain ⟨-, -, -, -, -, -, authorized, -⟩ := publishAuthority_eq_ok.mp authority
          exact ⟨registration, authorized⟩
  | withdraw request =>
      cases target : state.withdrawTarget request with
      | error failure => simp [reported, withdrawRoute, withdrawLocked, target, Except.map] at answered
      | ok record =>
          obtain ⟨registration, authorized, -⟩ := (withdrawTarget_eq_ok target).1.authorized
          exact ⟨registration, authorized⟩
  | revalidate request =>
      cases target : state.revalidateTarget env request with
      | error failure => simp [reported, revalidateRoute, revalidateLocked, target, Except.map] at answered
      | ok record =>
          obtain ⟨registration, authorized, -⟩ := (revalidateTarget_eq_ok target).1.authorized
          exact ⟨registration, authorized⟩
  | retire request =>
      cases target : state.retireTarget request with
      | error failure => simp [reported, retireRoute, target, Except.map] at answered
      | ok record =>
          obtain ⟨registration, authorized, -⟩ := (retireTarget_eq_ok target).2.authorized
          exact ⟨registration, authorized⟩
  | revoke request =>
      cases target : state.revokeTarget request with
      | error failure => simp [reported, revokeRoute, target, Except.map] at answered
      | ok record =>
          obtain ⟨registration, authorized, -⟩ := (revokeTarget_eq_ok target).2
          exact ⟨registration, authorized⟩

/-! ## Fenced boots -/

/-- The boots fenced once a publisher is registered with a boot. -/
def supplanted (state : Impl) (publisher : PublisherId) (workerBoot : WorkerBootId) :
    FinSet WorkerBootId :=
  match state.registrations[publisher]? with
  | some previous =>
      if previous.workerBoot = workerBoot then state.fencedBoots
      else state.fencedBoots.insert previous.workerBoot
  | none => state.fencedBoots

/-- A registration fails and changes nothing, or is made at the current epoch. -/
theorem registerPublisher_cases (config : RuntimeConfig) (state : Impl) (publisher : PublisherId)
    (workerBoot : WorkerBootId) (scope : PublisherScope) :
    (∃ failure, state.registerPublisher config publisher workerBoot scope = (state, .error failure)) ∨
      ∃ registration, state.registerPublisher config publisher workerBoot scope =
        ({ state with
            fencedBoots := state.supplanted publisher workerBoot
            registrations := state.registrations.insert publisher registration }, .ok registration) := by
  unfold registerPublisher
  split
  · exact .inl ⟨_, rfl⟩
  split
  · exact .inl ⟨_, rfl⟩
  simp only
  split
  · exact .inl ⟨_, rfl⟩
  · exact .inr ⟨_, rfl⟩

theorem mem_supplanted_of_fenced (publisher : PublisherId) (workerBoot : WorkerBootId)
    (fenced : boot ∈ state.fencedBoots) : boot ∈ state.supplanted publisher workerBoot := by
  unfold supplanted
  split
  · split
    · exact fenced
    · simp [fenced]
  · exact fenced

theorem barPublisher_fencedBoots (reason : FencingReason) (publishers : List PublisherId) :
    (publishers.foldl (barPublisher reason) state).fencedBoots = state.fencedBoots :=
  foldl_project fencedBoots (barPublisher reason) (fun _ _ => rfl) publishers

theorem fencePublisher_fencedBoots (fenced : PublisherId) (reason : FencingReason) :
    boot ∈ (state.fencePublisher fenced reason).fencedBoots ↔
      state.registrations[fenced]?.any (·.workerBoot = boot) = true ∨ boot ∈ state.fencedBoots := by
  cases held : state.registrations[fenced]? with
  | none =>
      have same : (state.fencePublisher fenced reason).fencedBoots = state.fencedBoots := by
        simp only [fencePublisher, held]
        split <;> rfl
      simp [same]
  | some registration =>
      have grown : (state.fencePublisher fenced reason).fencedBoots =
          state.fencedBoots.insert registration.workerBoot := by
        simp only [fencePublisher, held]
        split <;> rfl
      simp [grown]

/-- What an administrative action adds to the fenced boots, and that it takes none away. -/
theorem perform_fencedBoots (administers : action.administers = true)
    (fenced : boot ∈ state.fencedBoots) : boot ∈ (state.perform config env action).fencedBoots := by
  cases action with
  | register registering workerBoot scope =>
      simp only [perform]
      rcases registerPublisher_cases config state registering workerBoot scope with
        ⟨failure, refused⟩ | ⟨registration, registered⟩
      · rw [refused]
        exact fenced
      · rw [registered]
        exact mem_supplanted_of_fenced registering workerBoot fenced
  | fencePublisher publisher reason => exact (fencePublisher_fencedBoots publisher reason).mpr (.inr fenced)
  | fenceWorkerBoot workerBoot reason =>
      simp only [perform, fenceWorkerBoot]
      split
      · exact fenced
      split
      · rw [barPublisher_fencedBoots]
        simp [fenced]
      · simp [fenced]
  | clearFence publisher => exact fenced
  | _ => cases administers

theorem Move.fencedBoots {before after : Impl} (move : Move config env origin action before after)
    (fenced : boot ∈ before.fencedBoots) : boot ∈ after.fencedBoots := by
  cases move with
  | draw ids => exact fenced
  | mutate unbroken ids index legal =>
      rename_i edit
      have frame : Frame { before with ids := ids } _ := acknowledge_frame config (env.io index) edit
      rw [frame.fencedBoots]
      exact fenced
  | administer administers => exact perform_fencedBoots administers fenced
  | save compacts => exact fenced
  | advance advances following saved => exact fenced

/-- `Open` keeps the fences made before it. -/
theorem restart_fencedBoots (config : RuntimeConfig) (env : Env) (seed : Word) (state : Impl) :
    (state.restart config env seed).fencedBoots = state.closed.fencedBoots := by
  rw [restart_eq]
  obtain ⟨after, result⟩ := (fresh seed state.files).openRuntime config env
  cases result <;> rfl

/-- Whether a call leaves the process alive: it does not restart a runtime that is open. -/
def survives (state : Impl) (call : Call) : Bool := !(state.opened && call.action.restarts)

/-- While the process lives, a fenced boot stays fenced. -/
theorem fencedBoots_of_step (indexed : Indexed state) (lives : state.survives call = true)
    (fenced : boot ∈ state.fencedBoots) : boot ∈ (state.step config call).fencedBoots := by
  cases restarts : call.action.restarts with
  | false =>
      refine step_preserves (motive := fun current => boot ∈ current.fencedBoots) indexed fenced
        (fun _ _ _ _ _ held move => move.fencedBoots held) ?_
      intro restartSeed after restarted
      rw [restarted] at restarts
      cases restarts
  | true =>
      have shut : state.opened = false := by simpa [survives, restarts] using lives
      unfold step
      split
      · rw [restart_fencedBoots, closed, shut]
        exact fenced
      · rename_i other
        cases named : call.action <;> simp_all [Action.restarts]

/-- What a call fences is fenced after it. -/
theorem fencedBoots_of_fences (fences : state.fences config call boot = true) :
    boot ∈ (state.step config call).fencedBoots := by
  unfold Impl.fences at fences
  unfold step
  cases named : call.action with
  | register registering workerBoot scope =>
      simp only [named, Bool.and_eq_true, decide_eq_true_eq] at fences
      obtain ⟨⟨⟨opened, succeeds⟩, replaced⟩, holds⟩ := fences
      simp only [takes, opened, Bool.true_or, if_true, perform]
      rcases registerPublisher_cases config state registering workerBoot scope with
        ⟨failure, refused⟩ | ⟨registration, registered⟩
      · simp [refused, Except.isOk, Except.toBool] at succeeds
      · rw [registered]
        cases existing : state.registrations[registering]? with
        | none => simp [existing] at holds
        | some previous =>
            have same : previous.workerBoot = boot := by simpa [existing] using holds
            simp [supplanted, existing, same, replaced]
  | fencePublisher fenced reason =>
      simp only [named] at fences
      simp only [takes, Action.unguarded, Bool.or_true, if_true, perform]
      exact (fencePublisher_fencedBoots fenced reason).mpr (.inl fences)
  | fenceWorkerBoot workerBoot reason =>
      simp only [named, Bool.and_eq_true, decide_eq_true_eq] at fences
      obtain ⟨valid, rfl⟩ := fences
      simp only [takes, Action.unguarded, Bool.or_true, if_true, perform, fenceWorkerBoot, valid,
        Bool.true_eq_false, if_false]
      split
      · rw [barPublisher_fencedBoots]
        simp
      · simp
  | _ => simp [named] at fences

/-! ## Registrations and epochs -/

/-- No registration is of an epoch to come. -/
def Enrolled (state : Impl) : Prop :=
  ∀ (publisher : PublisherId) registration, state.registrations[publisher]? = some registration →
    registration.epoch.value ≤ state.epoch.value

/-- The registration of a publisher, if there is one, is of an epoch that is over. -/
def Lapsed (publisher : PublisherId) (state : Impl) : Prop :=
  ∀ registration, state.registrations[publisher]? = some registration →
    registration.epoch.value < state.epoch.value

theorem Enrolled.move {before after : Impl} (move : Move config env origin action before after)
    (enrolled : Enrolled before) : Enrolled after := by
  intro publisher registration found
  cases move with
  | draw ids => exact enrolled publisher registration found
  | mutate unbroken ids index legal =>
      rename_i edit
      have frame : Frame { before with ids := ids } _ := acknowledge_frame config (env.io index) edit
      rw [frame.registrations] at found
      rw [frame.epoch]
      exact enrolled publisher registration found
  | administer administers =>
      have epoch : (origin.perform config env action).epoch = origin.epoch :=
        congrArg Contents.epoch (perform_administered administers).contents
      rw [epoch]
      rcases perform_registrations administers found with ⟨kept, -⟩ | ⟨current, -⟩
      · exact enrolled publisher registration kept
      · rw [current]
  | save compacts => exact enrolled publisher registration found
  | advance advances following saved =>
      have next := (CounterId.next_eq_ok following).1
      have bound := enrolled publisher registration found
      simp only
      omega

/-- After a restart nobody is registered. -/
theorem Restarts.registrations {after : Impl} (restarts : Restarts config env seed state after) :
    after.registrations = ∅ := by
  cases restarts with
  | refused => rfl
  | unsaved loads failed => rfl
  | opened checked loads saved => exact recovery_registrations loads

theorem run_enrolled (calls : List Call) : Enrolled (run (step config) (initial seed) calls) := by
  have always : Along (step config) (fun _ _ => True) (initial seed) calls :=
    along_of_forall (fun _ _ => trivial) _ _
  refine (run_preserves always (by simp [Enrolled, initial, fresh]) ?_).2
  intro state call indexed _ enrolled
  refine step_preserves indexed enrolled (fun _ _ _ _ _ held move => held.move move) ?_
  intro restartSeed after _ restarts publisher registration found
  simp [restarts.registrations] at found

/-- A publisher that an action does not register is registered after it only as before. -/
theorem perform_unregistered (takes : state.takes action = true) (administers : action.administers = true)
    (unregistered : state.registers config ⟨env, action⟩ publisher = false)
    {registration : PublisherRegistration}
    (found : (state.perform config env action).registrations[publisher]? = some registration) :
    state.registrations[publisher]? = some registration := by
  cases action with
  | register registering workerBoot scope =>
      simp only [registers, opened_of_takes takes rfl, Bool.true_and] at unregistered
      simp only [perform] at found
      rcases registerPublisher_cases config state registering workerBoot scope with
        ⟨failure, refused⟩ | ⟨made, registered⟩
      · rwa [refused] at found
      · have other : registering ≠ publisher := by
          simpa [registered, Except.isOk, Except.toBool] using unregistered
        rw [registered] at found
        rwa [lookup_insert_of_ne _ _ other] at found
  | fencePublisher fenced reason =>
      simp only [perform, fencePublisher_registrations] at found
      split at found
      · cases found
      · exact found
  | fenceWorkerBoot workerBoot reason =>
      revert found
      simp only [perform, fenceWorkerBoot]
      split
      · exact id
      split
      · exact fun found => (barPublisher_registrations found).1
      · exact id
  | clearFence cleared => exact found
  | _ => cases administers

theorem Lapsed.move {before after : Impl} (takes : origin.takes action = true)
    (unregistered : origin.registers config ⟨env, action⟩ publisher = false)
    (move : Move config env origin action before after) (lapsed : Lapsed publisher before) :
    Lapsed publisher after := by
  intro registration found
  cases move with
  | draw ids => exact lapsed registration found
  | mutate unbroken ids index legal =>
      rename_i edit
      have frame : Frame { before with ids := ids } _ := acknowledge_frame config (env.io index) edit
      rw [frame.registrations] at found
      rw [frame.epoch]
      exact lapsed registration found
  | administer administers =>
      have epoch : (origin.perform config env action).epoch = origin.epoch :=
        congrArg Contents.epoch (perform_administered administers).contents
      rw [epoch]
      exact lapsed registration (perform_unregistered takes administers unregistered found)
  | save compacts => exact lapsed registration found
  | advance advances following saved =>
      have next := (CounterId.next_eq_ok following).1
      have bound := lapsed registration found
      simp only
      omega

theorem Lapsed.step (indexed : Indexed state) (lapsed : Lapsed publisher state)
    (unregistered : state.registers config call publisher = false) :
    Lapsed publisher (state.step config call) := by
  refine step_preserves indexed lapsed
    (fun takes _ _ _ _ held move => held.move takes unregistered move) ?_
  intro restartSeed after _ restarts registration found
  simp [restarts.registrations] at found

/-- An advance of the epoch leaves every registration behind. -/
theorem advanceEpoch_lapsed (enrolled : Enrolled state) {next : CoordinatorEpoch}
    (advances : call.action = .advanceEpoch)
    (advanced : (state.advanceEpoch config call.env).2 = .ok next) :
    Lapsed publisher (state.step config call) := by
  simp only [Impl.step, advances]
  intro registration
  revert advanced
  simp only [perform]
  unfold advanceEpoch
  split
  · simp
  rename_i opened
  simp only [checkOpened, ensure_eq_ok] at opened
  simp only [takes, opened, Bool.true_or, if_true]
  split
  · simp
  rename_i following
  have value := (CounterId.next_eq_ok following).1
  split
  · simp
  · intro _ found
    have bound := enrolled publisher registration found
    simp only
    omega

/-! ## Runs -/

/-- A worker boot that can do nothing: no mutation that names it succeeds and no record
of it is current. -/
structure Inert (config : RuntimeConfig) (boot : WorkerBootId) (state : Impl) : Prop where
  refused : ∀ (env : Env) (mutation : Mutation) generation, mutation.workerBoot = boot →
    state.reported config env mutation ≠ .ok generation
  outdated : ∀ (env : Env) (id : RouteId) record, state.routes[id]? = some record →
    record.provenance.workerBoot = boot → state.currentnessOf env record ≠ .current

theorem inert_of_fenced (fenced : boot ∈ state.fencedBoots) : Inert config boot state where
  refused := by
    rintro env mutation generation rfl answered
    obtain ⟨registration, authorized⟩ := reported_authorized answered
    obtain ⟨-, -, -, -, live⟩ := authorize_eq_ok.mp authorized
    exact live fenced
  outdated := by
    rintro env id record - rfl current
    exact (currentnessOf_current current).unfenced fenced

theorem Lapsed.refused (lapsed : Lapsed publisher state) (env : Env) (generation : RouteGeneration)
    (named : mutation.publisher = publisher) : state.reported config env mutation ≠ .ok generation := by
  intro answered
  obtain ⟨registration, authorized⟩ := reported_authorized answered
  obtain ⟨-, registered, -, current, -⟩ := authorize_eq_ok.mp authorized
  have earlier := lapsed registration (named ▸ registered)
  rw [current] at earlier
  exact Nat.lt_irrefl _ earlier

/-- A call that fences a boot leaves it inert for the rest of the process, and after an
advance of the epoch a publisher can mutate nothing until it registers again, in this
process or a later one. -/
theorem run_fenced (calls : List Call) (call : Call) (rest : List Call) :
    (∀ boot, (run (step config) (initial seed) calls).fences config call boot = true →
      Along (step config) (fun state later => state.survives later = true)
        (run (step config) (initial seed) (calls ++ [call])) rest →
      Inert config boot (run (step config) (initial seed) (calls ++ call :: rest))) ∧
    ∀ publisher next, call.action = .advanceEpoch →
      ((run (step config) (initial seed) calls).advanceEpoch config call.env).2 = .ok next →
      Along (step config) (fun state later => state.registers config later publisher = false)
        (run (step config) (initial seed) (calls ++ [call])) rest →
      ∀ env mutation generation, Mutation.publisher mutation = publisher →
        (run (step config) (initial seed) (calls ++ call :: rest)).reported config env mutation ≠
          .ok generation := by
  have indexed : Indexed (run (step config) (initial seed) (calls ++ [call])) := run_indexed _
  have following : run (step config) (initial seed) (calls ++ call :: rest) =
      run (step config) (run (step config) (initial seed) (calls ++ [call])) rest := by
    rw [← run_append, List.append_assoc, List.singleton_append]
  rw [following]
  refine ⟨fun boot fences lives => ?_, fun publisher next advances advanced along env mutation generation named => ?_⟩
  · refine inert_of_fenced (lives.invariant (motive := fun state => Indexed state ∧ boot ∈ state.fencedBoots)
      (fun state later held lives => ⟨held.1.step later, fencedBoots_of_step held.1 lives held.2⟩)
      ⟨indexed, ?_⟩).2
    rw [run_append]
    exact fencedBoots_of_fences fences
  · have lapsed := along.invariant (motive := fun state => Indexed state ∧ Lapsed publisher state)
      (fun state later held unregistered => ⟨held.1.step later, held.2.step held.1 unregistered⟩)
      ⟨indexed, by rw [run_append]; exact advanceEpoch_lapsed (run_enrolled calls) advances advanced⟩
    exact lapsed.2.refused env generation named

/-- A boot that was fenced before the runtime was opened and registered after, and a
publisher whose epoch is over while another one registers. -/
theorem run_fenced_registered :
    Inert Scenario.config Scenario.boot (run (step Scenario.config) (initial 0) ([] ++
      ⟨Scenario.env, .fenceWorkerBoot Scenario.boot .administrative⟩ :: (Scenario.published ++
        [⟨Scenario.env, .clearFence Scenario.operator⟩]))) ∧
    ∀ env mutation generation, Mutation.publisher mutation = Scenario.operator →
      (run (step Scenario.config) (initial 0) (Scenario.published ++ ⟨Scenario.env, .advanceEpoch⟩ ::
        [⟨Scenario.env, .register Scenario.outsider ⟨2⟩ Scenario.unscoped⟩])).reported Scenario.config
          env mutation ≠ .ok generation :=
  ⟨(run_fenced [] _ _).1 Scenario.boot (by decide +kernel) (by decide +kernel),
    (run_fenced Scenario.published ⟨Scenario.env, .advanceEpoch⟩ _).2 Scenario.operator ⟨2, by decide⟩ rfl
      (by decide +kernel) (by decide +kernel)⟩

end Impl

end RouteFabric
