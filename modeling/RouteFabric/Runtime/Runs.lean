import RouteFabric.Runtime.Recovery

/-!
# Runs of the coordinator

One rule for invariants of runs: what every legal move and every restart preserves, every
step preserves. `Indexed` is the first invariant proved with it and is available to all
the others. The public operations are runs of the machine.
-/

namespace RouteFabric

open OrderedMap Run

namespace Impl

variable {config : RuntimeConfig} {env : Env} {seed : Word} {state : Impl} {call : Call}

/-! ## Restarts -/

/-- What `Open` takes over from the store, and the files after it was read. -/
inductive Loads (config : RuntimeConfig) (env : Env) (files : StoreFiles) :
    StoreFiles → PersistedState → Prop
  | nothing (memory : config.durability = .none) : Loads config env files files {}
  | stored {after loaded} (durable : config.durability ≠ .none)
      (read : load config.limits (env.io 0) files = (after, .ok loaded)) :
      Loads config env files after loaded

/-- The recovery of a loaded state. -/
def recovery (config : RuntimeConfig) (env : Env) (seed : Word) (files : StoreFiles)
    (loaded : PersistedState) : Impl × Edit :=
  ((fresh seed files).populate loaded).recover config env.backend.id

/-- The outcomes of a restart. The fences are those made before, or none. -/
inductive Restarts (config : RuntimeConfig) (env : Env) (seed : Word) (before : Impl) : Impl → Prop
  | refused {fenced barred} :
      Restarts config env seed before
        { before with
          opened := false, registrations := ∅, fencedBoots := fenced, administrativeFences := barred }
  | unsaved {fenced barred files loaded stored failure} (loads : Loads config env before.files files loaded)
      (failed : persist config (env.io 1) (recovery config env seed files loaded).1
        (recovery config env seed files loaded).2 = (stored, .error failure)) :
      Restarts config env seed before
        { before with
          opened := false, registrations := ∅, fencedBoots := fenced, administrativeFences := barred,
          files := stored }
  | opened {fenced barred files loaded stored} (checked : checkConfig config = .ok ())
      (loads : Loads config env before.files files loaded)
      (saved : (recovery config env seed files loaded).2.upserts = [] ∧
          (recovery config env seed files loaded).2.attempts = [] ∧ stored = files ∨
        persist config (env.io 1) (recovery config env seed files loaded).1
          (recovery config env seed files loaded).2 = (stored, .ok ())) :
      Restarts config env seed before
        { (recovery config env seed files loaded).1 with
          files := stored, opened := true, fencedBoots := fenced, administrativeFences := barred }

theorem populate_nothing (files : StoreFiles) : (fresh seed files).populate {} = fresh seed files := by
  have none : values (∅ : Map RouteId RouteRecord) = [] := by decide
  simp [populate, fresh, none]

/-- A store that does not load is left as it is. -/
theorem load_error {limits : Limits} {io : IoOutcome} {files after : StoreFiles} {failure : Error}
    (failed : load limits io files = (after, .error failure)) : after = files := by
  unfold load at failed
  split at failed
  · exact (Prod.mk.inj failed).1.symm
  split at failed
  · simp at failed
  split at failed
  · exact (Prod.mk.inj failed).1.symm
  simp only at failed
  split at failed
  · simp at failed
  split at failed
  · exact (Prod.mk.inj failed).1.symm
  · simp at failed

theorem recovery_files (files : StoreFiles) (loaded : PersistedState) :
    (recovery config env seed files loaded).1.files = files :=
  recover_induction config env.backend.id (motive := fun _ current _ => current.files = files)
    (populate_files loaded) (fun _ _ _ _ same _ => same) (fun _ _ _ _ _ _ _ same => same)
    (fun _ _ _ _ _ _ _ _ _ same => (commit_files _).trans same)

/-- Opening a store that loads. -/
theorem openRuntime_eq {files after : StoreFiles} {loaded : PersistedState} (checked : checkConfig config = .ok ())
    (durable : config.durability ≠ .none) (loads : load config.limits (env.io 0) files = (after, .ok loaded)) :
    (fresh seed files).openRuntime config env = finishOpen config env ((fresh seed after).populate loaded) := by
  have read : load config.limits (env.io 0) (fresh seed files).files = (after, .ok loaded) := loads
  unfold openRuntime
  rw [if_neg (by simp [fresh]), checked]
  simp only [durable, if_false, read]
  rfl

/-! `Open` neither looks at the fences nor changes them. -/

section

variable (fenced : FinSet WorkerBootId) (barred : Map PublisherId FencingReason)

theorem indexInsert_fencedAs (state : Impl) (record : RouteRecord) :
    (state.fencedAs fenced barred).indexInsert record = (state.indexInsert record).fencedAs fenced barred := by
  rfl

theorem populate_fencedAs (state : Impl) (loaded : PersistedState) :
    (state.fencedAs fenced barred).populate loaded = (state.populate loaded).fencedAs fenced barred := by
  have inserts : ∀ (records : List RouteRecord) (filled : Impl),
      records.foldl indexInsert (filled.fencedAs fenced barred) =
        (records.foldl indexInsert filled).fencedAs fenced barred :=
    fun _ _ => List.foldl_hom (fencedAs fenced barred) (indexInsert_fencedAs fenced barred)
  exact inserts _
    { state with
      epoch := loaded.epoch
      policyGeneration := loaded.policyGeneration
      routes := loaded.routes.foldl (fun map record => map.insert record.id record) state.routes
      revocations := loaded.revocations.foldl (fun map item => map.insert item.route item) state.revocations
      attempts := loaded.attempts.foldl (fun map item => map.insert item.attempt item) state.attempts
      outstandingProgramming :=
        state.outstandingProgramming + (loaded.attempts.filter (·.resolved = false)).length }

theorem commit_fencedAs (state : Impl) (record : RouteRecord) :
    (state.fencedAs fenced barred).commit record = (state.commit record).fencedAs fenced barred := by
  unfold commit
  simp only [fencedAs]
  split <;> rfl

theorem resolveAttempt_fencedAs (state : Impl) (attempt : ProgrammingAttemptRecord) :
    (state.fencedAs fenced barred).resolveAttempt attempt =
      (state.resolveAttempt attempt).fencedAs fenced barred := by
  rfl

theorem recoverAttempt_fencedAs (config : RuntimeConfig) (backend : BackendId) (progress : Impl × Edit)
    (attempt : ProgrammingAttemptRecord) :
    recoverAttempt config backend (progress.1.fencedAs fenced barred, progress.2) attempt =
      ((recoverAttempt config backend progress attempt).1.fencedAs fenced barred,
        (recoverAttempt config backend progress attempt).2) := by
  have routes : (progress.1.fencedAs fenced barred).routes = progress.1.routes := rfl
  unfold recoverAttempt
  simp only [routes]
  split
  · rfl
  split
  · split
    · simp only [commit_fencedAs, resolveAttempt_fencedAs]
    · rfl
  · rfl

theorem recover_fencedAs (config : RuntimeConfig) (backend : BackendId) (state : Impl) :
    (state.fencedAs fenced barred).recover config backend =
      ((state.recover config backend).1.fencedAs fenced barred, (state.recover config backend).2) := by
  have resolves : ∀ (attempts : List ProgrammingAttemptRecord) (progress : Impl × Edit),
      attempts.foldl (recoverAttempt config backend) (progress.1.fencedAs fenced barred, progress.2) =
        ((attempts.foldl (recoverAttempt config backend) progress).1.fencedAs fenced barred,
          (attempts.foldl (recoverAttempt config backend) progress).2) :=
    fun _ _ => List.foldl_hom
      (fun progress : Impl × Edit => (progress.1.fencedAs fenced barred, progress.2))
      (recoverAttempt_fencedAs fenced barred config backend)
  exact resolves _ (state, {})

theorem finishOpen_fencedAs (config : RuntimeConfig) (env : Env) (state : Impl) :
    (state.fencedAs fenced barred).finishOpen config env =
      ((state.finishOpen config env).1.fencedAs fenced barred, (state.finishOpen config env).2) := by
  have persists : ∀ (state : Impl) edit,
      (state.fencedAs fenced barred).persist config (env.io 1) edit = state.persist config (env.io 1) edit :=
    fun _ _ => rfl
  unfold finishOpen
  simp only [recover_fencedAs, persists]
  split
  · rfl
  · split <;> rfl

theorem openRuntime_fencedAs (config : RuntimeConfig) (env : Env) (state : Impl) :
    (state.fencedAs fenced barred).openRuntime config env =
      ((state.openRuntime config env).1.fencedAs fenced barred, (state.openRuntime config env).2) := by
  have opened : (state.fencedAs fenced barred).opened = state.opened := rfl
  have files : (state.fencedAs fenced barred).files = state.files := rfl
  unfold openRuntime
  simp only [opened, files]
  split
  · rfl
  split
  · rfl
  split
  · exact finishOpen_fencedAs fenced barred config env state
  · split
    · rfl
    · rename_i files loaded read
      have populated := populate_fencedAs fenced barred { state with files := files } loaded
      exact (congrArg (finishOpen config env) populated).trans (finishOpen_fencedAs fenced barred config env _)

end

theorem restart_eq (config : RuntimeConfig) (env : Env) (seed : Word) (state : Impl) :
    state.restart config env seed = state.closed.afterOpen
      (((fresh seed state.files).openRuntime config env).1.fencedAs state.closed.fencedBoots
        state.closed.administrativeFences, ((fresh seed state.files).openRuntime config env).2) := by
  rw [restart, openRuntime_fencedAs]

theorem finishOpen_restarts {files : StoreFiles} {loaded : PersistedState} {fenced : FinSet WorkerBootId}
    {barred : Map PublisherId FencingReason}
    (checked : checkConfig config = .ok ()) (loads : Loads config env state.files files loaded) :
    Restarts config env seed state
      (state.closed.afterOpen
        ((finishOpen config env ((fresh seed files).populate loaded)).1.fencedAs fenced barred,
          (finishOpen config env ((fresh seed files).populate loaded)).2)) := by
  unfold finishOpen
  simp only
  split
  · rename_i nothing
    have same : { (recovery config env seed files loaded).1 with
          opened := true, fencedBoots := fenced, administrativeFences := barred } =
        { (recovery config env seed files loaded).1 with
          files := files, opened := true, fencedBoots := fenced, administrativeFences := barred } :=
      congrArg (fun kept => { (recovery config env seed files loaded).1 with
        files := kept, opened := true, fencedBoots := fenced, administrativeFences := barred })
        (recovery_files files loaded)
    have reached : Restarts config env seed state
        { (recovery config env seed files loaded).1 with
          files := files, opened := true, fencedBoots := fenced, administrativeFences := barred } :=
      .opened checked loads (.inl ⟨nothing.1, nothing.2, rfl⟩)
    rw [← same] at reached
    exact reached
  · split
    · rename_i failed
      exact .unsaved loads failed
    · rename_i saved
      exact .opened checked loads (.inr saved)

theorem restart_restarts (config : RuntimeConfig) (env : Env) (seed : Word) (state : Impl) :
    Restarts config env seed state (state.restart config env seed) := by
  rw [restart_eq]
  unfold openRuntime
  split
  · rename_i opened
    cases opened
  split
  · exact .refused
  rename_i checked
  split
  · rename_i memory
    have loads : Loads config env state.files state.files {} := .nothing memory
    have finished : ∀ fenced barred, Restarts config env seed state (state.closed.afterOpen
        ((finishOpen config env ((fresh seed state.files).populate {})).1.fencedAs fenced barred,
          (finishOpen config env ((fresh seed state.files).populate {})).2)) :=
      fun fenced barred => finishOpen_restarts checked loads
    rw [populate_nothing] at finished
    exact finished _ _
  · rename_i durable
    split
    · rename_i failed
      rw [load_error failed]
      exact .refused
    · rename_i read
      exact finishOpen_restarts checked (.stored durable read)

/-! ## The invariant rule -/

/-- Registration and fencing leave everything but registrations and fences alone. -/
structure Administered (before after : Impl) : Prop where
  contents : after.contents = before.contents
  keyIndex : after.keyIndex = before.keyIndex
  secondary : after.secondary = before.secondary
  opened : after.opened = before.opened
  outstandingProgramming : after.outstandingProgramming = before.outstandingProgramming
  ids : after.ids = before.ids
  files : after.files = before.files

theorem Administered.routes {after : Impl} (administered : Administered state after) :
    after.routes = state.routes :=
  congrArg Contents.routes administered.contents

theorem barPublisher_administered (reason : FencingReason) (publishers : List PublisherId) :
    Administered state (publishers.foldl (barPublisher reason) state) := by
  induction publishers generalizing state with
  | nil => exact ⟨rfl, rfl, rfl, rfl, rfl, rfl, rfl⟩
  | cons publisher rest ih =>
      obtain ⟨contents, keyIndex, secondary, opened, outstanding, ids, files⟩ :=
        @ih (state.barPublisher reason publisher)
      exact ⟨contents, keyIndex, secondary, opened, outstanding, ids, files⟩

theorem perform_administered {action : Action} (administers : action.administers = true) :
    Administered state (state.perform config env action) := by
  cases action with
  | register publisher workerBoot scope =>
      simp only [perform, registerPublisher]
      split
      · exact ⟨rfl, rfl, rfl, rfl, rfl, rfl, rfl⟩
      split
      · exact ⟨rfl, rfl, rfl, rfl, rfl, rfl, rfl⟩
      split <;> exact ⟨rfl, rfl, rfl, rfl, rfl, rfl, rfl⟩
  | fencePublisher publisher reason =>
      simp only [perform, fencePublisher]
      split <;> split <;> exact ⟨rfl, rfl, rfl, rfl, rfl, rfl, rfl⟩
  | fenceWorkerBoot workerBoot reason =>
      simp only [perform, fenceWorkerBoot]
      split
      · exact ⟨rfl, rfl, rfl, rfl, rfl, rfl, rfl⟩
      split
      · obtain ⟨contents, keyIndex, secondary, opened, outstanding, ids, files⟩ :=
          @barPublisher_administered
            { state with fencedBoots := state.fencedBoots.insert workerBoot } reason
            ((state.registrations.toList.filter (·.2.workerBoot = workerBoot)).map (·.1))
        exact ⟨contents, keyIndex, secondary, opened, outstanding, ids, files⟩
      · exact ⟨rfl, rfl, rfl, rfl, rfl, rfl, rfl⟩
  | clearFence publisher => exact ⟨rfl, rfl, rfl, rfl, rfl, rfl, rfl⟩
  | _ => cases administers

theorem Administered.indexed {after : Impl} (administered : Administered state after)
    (indexed : Indexed state) : Indexed after :=
  indexed.congr administered.routes
    (congrArg Contents.revocations administered.contents)
    (congrArg Contents.attempts administered.contents) administered.keyIndex

theorem Indexed.move {origin before after : Impl} {action : Action} (indexed : Indexed origin)
    (held : Indexed before) (move : Move config env origin action before after) : Indexed after := by
  cases move with
  | draw ids => exact held.congr rfl rfl rfl rfl
  | mutate unbroken ids index legal =>
      have drawn : Indexed { before with ids := ids } := held.congr rfl rfl rfl rfl
      exact drawn.acknowledge (fun _ member => legal.identified indexed member) config _
  | administer administers => exact (perform_administered administers).indexed indexed
  | save compacts => exact indexed.congr rfl rfl rfl rfl
  | advance advances following saved => exact indexed.congr rfl rfl rfl rfl

theorem Moves.indexed {origin after : Impl} {action : Action} (indexed : Indexed origin)
    (moves : Moves config env origin action origin after) : Indexed after :=
  moves_invariant moves (fun _ _ held move => indexed.move held move) indexed

theorem Loads.sound {files after : StoreFiles} {loaded : PersistedState}
    (loads : Loads config env files after loaded) : loaded.Sound config.limits := by
  cases loads with
  | nothing memory => exact sound_empty config.limits
  | stored durable read => exact load_sound read

theorem Loads.unique {files after : StoreFiles} {loaded : PersistedState}
    (loads : Loads config env files after loaded) : loaded.Unique := by
  cases loads with
  | nothing memory => exact unique_empty
  | stored durable read => exact load_unique read

theorem Loads.indexed {files after : StoreFiles} {loaded : PersistedState}
    (loads : Loads config env files after loaded) :
    Indexed ((fresh seed after).populate loaded) :=
  populate_indexed fun record member => (loads.sound.routes record member).valid.id

theorem Loads.recovered {files after : StoreFiles} {loaded : PersistedState}
    (loads : Loads config env files after loaded) (seed : Word) :
    Recovered ((fresh seed after).populate loaded) (recovery config env seed after loaded).1
      (recovery config env seed after loaded).2 :=
  recover_recovered loads.indexed

theorem recovery_indexed {files after : StoreFiles} {loaded : PersistedState}
    (loads : Loads config env files after loaded) :
    Indexed (recovery config env seed after loaded).1 :=
  (recover_indexed_induction config env.backend.id loads.indexed (motive := fun _ _ _ => True) trivial
    (fun _ _ _ _ _ _ => trivial) (fun _ _ _ _ _ _ _ _ _ => trivial)
    fun _ _ _ _ _ _ _ _ _ _ _ => trivial).1

theorem Indexed.restart (indexed : Indexed state) {after : Impl}
    (restarts : Restarts config env seed state after) : Indexed after := by
  cases restarts with
  | refused => exact indexed.congr rfl rfl rfl rfl
  | unsaved loads failed => exact indexed.congr rfl rfl rfl rfl
  | opened checked loads saved => exact (recovery_indexed loads).congr rfl rfl rfl rfl

theorem Move.opened {origin before after : Impl} {action : Action}
    (move : Move config env origin action before after) (held : before.opened = origin.opened) :
    after.opened = origin.opened := by
  cases move with
  | draw ids => exact held
  | mutate unbroken ids index legal =>
      rename_i edit
      have frame : Frame { before with ids := ids } _ := acknowledge_frame config (env.io index) edit
      exact frame.opened.trans held
  | administer administers => exact (perform_administered administers).opened
  | save compacts => rfl
  | advance advances following saved => rfl

theorem opened_of_takes {action : Action} (takes : state.takes action = true)
    (guarded : action.unguarded = false) : state.opened = true := by
  simpa [Impl.takes, guarded] using takes

/-- Only a runtime that is open makes edits. -/
theorem Legal.opened {origin before : Impl} {action : Action} {edit : Edit}
    (legal : Legal config env origin action before edit) (takes : origin.takes action = true) :
    origin.opened = true :=
  opened_of_takes takes (by cases legal <;> rfl)

/-- A runtime that is not open keeps all but its fences until it is opened. -/
theorem step_closed (shut : state.opened = false) (continues : ∀ seed, call.action ≠ .restart seed) :
    Administered state (state.step config call) := by
  unfold step
  split
  · rename_i restarts
    exact absurd restarts (continues _)
  · split
    · rename_i taken
      refine perform_administered ?_
      rw [Impl.takes, shut, Bool.false_or] at taken
      revert taken
      cases call.action <;> simp [Action.unguarded, Action.administers]
    · exact ⟨rfl, rfl, rfl, rfl, rfl, rfl, rfl⟩

/-- What the moves of actions that are taken and restarts preserve, every step preserves. -/
theorem step_preserves {motive : Impl → Prop} (indexed : Indexed state) (initially : motive state)
    (moves : state.takes call.action = true → ∀ before after, before.opened = state.opened → Indexed before →
      motive before → Move config call.env state call.action before after → motive after)
    (restarts : ∀ seed after, call.action = .restart seed →
      Restarts config call.env seed state after → motive after) :
    motive (state.step config call) := by
  unfold step
  split
  · rename_i seed action
    exact restarts seed _ action (restart_restarts config call.env seed state)
  · split
    · rename_i taken
      refine (moves_invariant (motive := fun current => (current.opened = state.opened ∧ Indexed current) ∧
        motive current) (perform_moves indexed) ?_ ⟨⟨rfl, indexed⟩, initially⟩).2
      rintro before after ⟨⟨same, held⟩, holding⟩ move
      exact ⟨⟨move.opened same, indexed.move held move⟩, moves taken before after same held holding move⟩
    · exact initially

theorem Indexed.step (indexed : Indexed state) (call : Call) : Indexed (state.step config call) :=
  step_preserves indexed indexed (fun _ _ _ _ held _ move => indexed.move held move)
    fun _ _ _ restarts => indexed.restart restarts

theorem initial_indexed (seed : Word) : Indexed (initial seed) := by
  constructor <;> intros <;> simp_all [initial, fresh]

/-- The rule for runs: an invariant of the initial state that allowed steps preserve. -/
theorem run_preserves {motive : Impl → Prop} {allowed : Impl → Call → Prop} {calls : List Call}
    (along : Along (step config) allowed (initial seed) calls) (initially : motive (initial seed))
    (preserved : ∀ state call, Indexed state → allowed state call → motive state →
      motive (state.step config call)) :
    Indexed (run (step config) (initial seed) calls) ∧ motive (run (step config) (initial seed) calls) :=
  along.invariant (motive := fun state => Indexed state ∧ motive state)
    (fun state call held allows => ⟨held.1.step call, preserved state call held.1 allows held.2⟩)
    ⟨initial_indexed seed, initially⟩

theorem run_indexed (calls : List Call) : Indexed (run (step config) (initial seed) calls) :=
  have always : Along (step config) (fun _ _ => True) (initial seed) calls :=
    along_of_forall (fun _ _ => trivial) _ _
  (run_preserves (motive := fun _ => True) always trivial fun _ _ _ _ _ => trivial).1

/-- Only a configuration that was checked opens. -/
theorem run_checked (calls : List Call) :
    (run (step config) (initial seed) calls).opened = true → checkConfig config = .ok () := by
  have always : Along (step config) (fun _ _ => True) (initial seed) calls :=
    along_of_forall (fun _ _ => trivial) _ _
  refine (run_preserves (motive := fun state => state.opened = true → checkConfig config = .ok ())
    always nofun ?_).2
  intro state call indexed _ checked
  refine step_preserves (motive := fun state => state.opened = true → checkConfig config = .ok ())
    indexed checked (fun _ _ _ same _ _ move opened => checked ((move.opened same).symm.trans opened)) ?_
  intro restartSeed after _ restarts
  cases restarts with
  | refused => exact nofun
  | unsaved loads failed => exact nofun
  | opened checked loads saved => exact fun _ => checked

/-! ## Invariants of all records -/

/-- A property of records is kept by a move when the edits of the move have it. -/
theorem Move.records {origin before after : Impl} {action : Action} {holds : RouteRecord → Prop}
    (move : Move config env origin action before after)
    (held : ∀ (id : RouteId) record, before.routes[id]? = some record → holds record)
    (edits : ∀ edit, Legal config env origin action before edit → ∀ record ∈ edit.upserts, holds record)
    (id : RouteId) (record : RouteRecord) (found : after.routes[id]? = some record) : holds record := by
  cases move with
  | draw ids => exact held id record found
  | mutate unbroken ids index legal =>
      have drawn : ∀ (id : RouteId) record, { before with ids := ids }.routes[id]? = some record →
          holds record := held
      exact acknowledge_records config _ drawn (edits _ legal) id record found
  | administer administers =>
      rw [(perform_administered administers).routes] at found
      exact held id record found
  | save compacts => exact held id record found
  | advance advances following saved => exact held id record found

end Impl

/-! ## A coordinator to evaluate

One fabric, one operator with the administrative override, and one key with a path
binding, kept in memory. -/

namespace Scenario

open Impl

def config : RuntimeConfig := { fabric := ⟨asciiBytes "fabric"⟩ }

def operator : PublisherId := ⟨asciiBytes "operator"⟩

def boot : WorkerBootId := ⟨1⟩

def override : PublisherScope :=
  { fabric := config.fabric, wildcardNamespaces := true, wildcardDestinations := true,
    wildcardRouteClasses := true, administrativeOverride := true }

/-- The backend defers every request and the path authority usually agrees. -/
def env : Env :=
  { backend := { id := ⟨asciiBytes "backend"⟩ }, query := fun _ => ⟨.one, .usable⟩ }

def destination (token : String) (valid : isValidTokenText (asciiBytes token) (asciiBytes token).length = true) :
    Destination :=
  { kind := .logicalDestination, valid := true, token := asciiBytes token,
    wellFormed := fun _ => ⟨rfl, valid, rfl⟩ }

def key : RouteKey :=
  { fabric := config.fabric, routingNamespace := ⟨asciiBytes "default"⟩,
    destination := destination "web" (by decide), routeClass := .logical }

def binding : RouteBinding :=
  { kind := .authorizedPath, path := ⟨7⟩, pathAuthorityGeneration := .one, policyGeneration := .one }

def publication (lineage : Nat) : PublishRequest :=
  { publisher := operator, workerBoot := boot, attempt := ⟨1⟩, key := key, binding := binding,
    policyGeneration := .one, lineage := ⟨BitVec.ofNat 128 lineage⟩ }

def mutation (route : Nat) : MutationRequest :=
  { publisher := operator, workerBoot := boot, attempt := ⟨1⟩, route := ⟨BitVec.ofNat 128 route⟩ }

/-- The backend applies every request at once. -/
def answering : Env :=
  { env with
    backend :=
      { id := ⟨asciiBytes "backend"⟩
        installRoute := fun request => { immediate := { outcome := .applied, attempt := request.attempt } }
        replaceRoute := fun request => { immediate := { outcome := .applied, attempt := request.attempt } }
        withdrawRoute := fun request =>
          { immediate := { outcome := .applied, attempt := request.attempt } } } }

/-- A second key, and a second operator whose scope covers no key. -/
def otherKey : RouteKey := { key with destination := destination "api" (by decide) }

def outsider : PublisherId := ⟨asciiBytes "outsider"⟩

def unscoped : PublisherScope := { fabric := config.fabric, administrativeOverride := true }

def opening : List Call := [⟨env, .restart 1⟩, ⟨env, .register operator boot override⟩]

/-- One published route. -/
def published : List Call := opening ++ [⟨env, .publish (publication 1)⟩]

/-- The outcome of the attempt that the first publication records. -/
def firstReport : ProgrammingResult :=
  { outcome := .applied, attempt := (generateId (run (step config) (initial 0) opening).ids).1 }

end Scenario

end RouteFabric
