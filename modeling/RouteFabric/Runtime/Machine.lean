import RouteFabric.Std.Run
import RouteFabric.Runtime.Edits

/-!
# The coordinator as a machine

A run is a list of calls. An action is what the runtime does under one hold of its lock,
so that calls of several threads interleave freely: a publication takes `publish` and,
when the backend answers inline, a later `complete`.

`restart` ends the process at any moment and opens a new runtime on the files it left.
When that fails the state keeps the maps of the process that ended, as the record of what
was acknowledged, and until a restart succeeds nothing takes place but fencing: boots and
publishers can be fenced before the runtime is open, and opening it keeps their fences.
-/

namespace RouteFabric

open OrderedMap

inductive Action where
  | register (publisher : PublisherId) (workerBoot : WorkerBootId) (scope : PublisherScope)
  | fencePublisher (publisher : PublisherId) (reason : FencingReason)
  | fenceWorkerBoot (workerBoot : WorkerBootId) (reason : FencingReason)
  | clearFence (publisher : PublisherId)
  | advanceEpoch
  | compact
  | publish (request : PublishRequest)
  | withdraw (request : WithdrawRequest)
  | revalidate (request : MutationRequest)
  | retire (request : MutationRequest)
  | revoke (request : MutationRequest)
  | complete (result : ProgrammingResult)
  | invalidate (path : PathId) (generation : PathAuthorityGeneration)
      (authorization : PathAuthorization)
  | reconcile (route : RouteId) (query : BackendQueryResult)
  | restart (seed : Word)

/-- Fencing, and clearing a fence, do not ask whether the runtime is open. -/
def Action.unguarded : Action → Bool
  | .fencePublisher .. | .fenceWorkerBoot .. | .clearFence _ => true
  | _ => false

/-- The actions that end the process. -/
def Action.restarts : Action → Bool
  | .restart _ => true
  | _ => false

/-- An action with what its collaborators do during it. -/
structure Call where
  env : Env
  action : Action

namespace Impl

/-- A process that has not been opened yet. -/
def fresh (seed : Word) (files : StoreFiles) : Impl := { ids := .ofSeed seed, files := files }

/-- The same runtime with other fences. -/
def fencedAs (fenced : FinSet WorkerBootId) (barred : Map PublisherId FencingReason) (state : Impl) : Impl :=
  { state with fencedBoots := fenced, administrativeFences := barred }

/-- Between two processes: nobody is registered, and the fences are those of the runtime that is to be
opened next, none if the last one was open. -/
def closed (state : Impl) : Impl :=
  { state with
    opened := false
    registrations := ∅
    fencedBoots := if state.opened then ∅ else state.fencedBoots
    administrativeFences := if state.opened then ∅ else state.administrativeFences }

/-- What is left when `Open` returns: the new runtime, or the files it leaves behind. -/
def afterOpen (state : Impl) : Impl × Status → Impl
  | (after, .ok ()) => after
  | (after, .error _) => { state with files := after.files }

def restart (config : RuntimeConfig) (env : Env) (seed : Word) (state : Impl) : Impl :=
  state.closed.afterOpen
    (((fresh seed state.files).fencedAs state.closed.fencedBoots state.closed.administrativeFences).openRuntime
      config env)

/-- One action of a runtime that takes it. -/
def perform (config : RuntimeConfig) (env : Env) (state : Impl) : Action → Impl
  | .register publisher workerBoot scope =>
      (state.registerPublisher config publisher workerBoot scope).1
  | .fencePublisher publisher reason => state.fencePublisher publisher reason
  | .fenceWorkerBoot workerBoot reason => (state.fenceWorkerBoot workerBoot reason).1
  | .clearFence publisher => state.clearAdministrativeFence publisher
  | .advanceEpoch => (state.advanceEpoch config env).1
  | .compact => (state.compact config env).1
  | .publish request => (state.publishLocked config env request).1
  | .withdraw request => (state.withdrawLocked config env request).1
  | .revalidate request => (state.revalidateLocked config env request).1
  | .retire request => (state.retireRoute config env request).1
  | .revoke request => (state.revokeRoute config env request).1
  | .complete result => (state.applyCompletion config (env.io 0) env.backend.id result).1
  | .invalidate path generation authorization =>
      (state.invalidatePath config (env.io 0) path generation authorization).1
  | .reconcile route query => (state.reconcileLocked config env route query).1
  | .restart _ => state

/-- Whether the runtime takes an action. -/
def takes (state : Impl) (action : Action) : Bool := state.opened || action.unguarded

def step (config : RuntimeConfig) (call : Call) (state : Impl) : Impl :=
  match call.action with
  | .restart seed => state.restart config call.env seed
  | action => if state.takes action then state.perform config call.env action else state

/-- Before the first `Open`, on an empty store. -/
def initial (seed : Word) : Impl := fresh seed {}

end Impl

end RouteFabric
