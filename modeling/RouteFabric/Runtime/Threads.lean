import RouteFabric.Runtime.Calls

/-!
# Calls of many threads

A mutation that programs the backend takes the lock three times: to commit its intent, to
read the record again for the request, and to take the outcome in. The backend is called
before the last of these with the lock released. A reconciliation reads the key, asks the
backend, and stores what it was told. Each of these is one turn here, and the turns of all
threads interleave freely. `ReconcileAll` reconciles one route after the other and takes
the turns of each.

The system remembers more than the code does: every dispatch of the process in the order
of its commits, with the record that was committed, and every request that the backend
received.
-/

namespace RouteFabric

open OrderedMap Run

/-- How far a dispatch has come. -/
inductive Stage where
  | committed
  | read (snapshot : RouteRecord)
  | sent (answer : ProgrammingDispatch)
  | finished

/-- Whether the record has not been read again yet. -/
def Stage.unread : Stage → Bool
  | .committed => true
  | _ => false

/-- Whether the backend has not been called yet. -/
def Stage.unsent : Stage → Bool
  | .committed | .read _ => true
  | .sent _ | .finished => false

/-- Whether the thread has not come to its end yet. -/
def Stage.pending : Stage → Bool
  | .finished => false
  | _ => true

/-- A committed intent with its record, on its way to the backend. -/
structure Dispatch where
  intent : Intent
  committed : RouteRecord
  stage : Stage := .committed

/-- How far a reconciliation has come. An answer knows how many intents had been committed
when the backend was asked. -/
inductive Inquiry where
  | looked (key : RouteKey)
  | answered (commits : Nat) (result : BackendQueryResult)
  | finished

def Inquiry.waits : Inquiry → Bool
  | .answered .. => true
  | _ => false

structure Reconciliation where
  route : RouteId
  stage : Inquiry

structure System where
  runtime : Impl
  /-- The dispatches of all threads, in the order of their commits. -/
  dispatches : List Dispatch := []
  /-- The mutating requests that the backend received, each with the place of its dispatch. -/
  received : List (Nat × RouteProgrammingRequest) := []
  reconciliations : List Reconciliation := []

inductive Turn where
  | call (call : Call)
  | read (index : Nat)
  | send (env : Env) (index : Nat)
  | finish (env : Env) (index : Nat)
  | look (route : RouteId)
  | ask (env : Env) (index : Nat)
  | store (env : Env) (index : Nat)

/-- The actions whose locked part may commit an intent. -/
def Action.programs : Action → Bool
  | .publish _ | .withdraw _ | .revalidate _ => true
  | _ => false

/-- The intent that the locked part of a mutation commits. -/
def Impl.intentOf (config : RuntimeConfig) (call : Call) (state : Impl) : Option Intent :=
  match call.action with
  | .publish request =>
      match (state.publishLocked config call.env request).2 with
      | .ok (.inr intent) => some intent
      | _ => none
  | .withdraw request =>
      match (state.withdrawLocked config call.env request).2 with
      | .ok (.inr intent) => some intent
      | _ => none
  | .revalidate request => (state.revalidateLocked config call.env request).2.toOption
  | _ => none

namespace System

/-- No dispatch is pending. -/
def quiet (system : System) : Bool := system.dispatches.all (!·.stage.pending)

def start (seed : Word) : System := { runtime := .initial seed }

/-- The dispatch that a call leaves behind. -/
def committed (config : RuntimeConfig) (call : Call) (system : System) : Option Dispatch := do
  let intent ← system.runtime.intentOf config call
  let record ← (system.runtime.step config call).routes[intent.route]?
  pure { intent := intent, committed := record }

/-- One locked section of the runtime. A restart ends the threads of the process; an
observation is stored by `store` alone. -/
def call (config : RuntimeConfig) (call : Call) (system : System) : System :=
  match call.action with
  | .reconcile .. => system
  | .restart _ =>
      { system with
        runtime := system.runtime.step config call
        dispatches := system.dispatches.map fun dispatch => { dispatch with stage := .finished }
        reconciliations := [] }
  | _ =>
      { system with
        runtime := system.runtime.step config call
        dispatches := system.dispatches ++ (system.committed config call).toList }

/-- The dispatches with one of them moved on. -/
def moved (system : System) (index : Nat) (dispatch : Dispatch) (stage : Stage) : List Dispatch :=
  system.dispatches.set index { dispatch with stage := stage }

/-- The second critical section of a dispatch. -/
def read (index : Nat) (dispatch : Dispatch) (system : System) : System :=
  match system.runtime.routes[dispatch.intent.route]? with
  | none => { system with dispatches := system.moved index dispatch .finished }
  | some record => { system with dispatches := system.moved index dispatch (.read record) }

/-- The backend call. The epoch of the request is the one of this moment. -/
def send (env : Env) (index : Nat) (dispatch : Dispatch) (snapshot : RouteRecord) (system : System) :
    System :=
  let request := system.runtime.makeProgrammingRequest snapshot dispatch.intent
  { system with
    dispatches := system.moved index dispatch (.sent (Impl.dispatch env.backend request))
    received := system.received ++ [(index, request)] }

/-- The third critical section of a dispatch. -/
def finish (config : RuntimeConfig) (env : Env) (index : Nat) (dispatch : Dispatch)
    (answer : ProgrammingDispatch) (system : System) : System :=
  if answer.deferred then { system with dispatches := system.moved index dispatch .finished }
  else
    { system with
      runtime := system.runtime.step config ⟨env, .complete answer.immediate⟩
      dispatches := system.moved index dispatch .finished }

/-- The first critical section of a reconciliation. -/
def look (route : RouteId) (system : System) : System :=
  match system.runtime.routes[route]? with
  | none => system
  | some record =>
      { system with reconciliations := system.reconciliations ++ [⟨route, .looked record.key⟩] }

/-- The query of a reconciliation. -/
def ask (env : Env) (index : Nat) (route : RouteId) (key : RouteKey) (system : System) : System :=
  { system with
    reconciliations := system.reconciliations.set index
      ⟨route, .answered system.dispatches.length (env.backend.queryRoute key)⟩ }

/-- The last critical section of a reconciliation. -/
def store (config : RuntimeConfig) (env : Env) (index : Nat) (route : RouteId)
    (result : BackendQueryResult) (system : System) : System :=
  { system with
    runtime := system.runtime.step config ⟨env, .reconcile route result⟩
    reconciliations := system.reconciliations.set index ⟨route, .finished⟩ }

def turn (config : RuntimeConfig) (turn : Turn) (system : System) : System :=
  match turn with
  | .call call => system.call config call
  | .read index =>
      match system.dispatches[index]? with
      | some ⟨intent, committed, .committed⟩ => system.read index ⟨intent, committed, .committed⟩
      | _ => system
  | .send env index =>
      match system.dispatches[index]? with
      | some ⟨intent, committed, .read snapshot⟩ =>
          system.send env index ⟨intent, committed, .read snapshot⟩ snapshot
      | _ => system
  | .finish env index =>
      match system.dispatches[index]? with
      | some ⟨intent, committed, .sent answer⟩ =>
          system.finish config env index ⟨intent, committed, .sent answer⟩ answer
      | _ => system
  | .look route => system.look route
  | .ask env index =>
      match system.reconciliations[index]? with
      | some ⟨route, .looked key⟩ => system.ask env index route key
      | _ => system
  | .store env index =>
      match system.reconciliations[index]? with
      | some ⟨route, .answered _ result⟩ => system.store config env index route result
      | _ => system

variable {config : RuntimeConfig} {seed : Word} {system after : System} {taken : Turn}

/-! ## What a turn does -/

/-- The turns that do something, with what they found. -/
inductive Taken (config : RuntimeConfig) (system : System) : Turn → System → Prop
  | idle (turn : Turn) : Taken config system turn system
  | called {call : Call} (continues : ∀ seed, call.action ≠ .restart seed)
      (mutates : ∀ route query, call.action ≠ .reconcile route query) :
      Taken config system (.call call)
        { system with
          runtime := system.runtime.step config call
          dispatches := system.dispatches ++ (system.committed config call).toList }
  | restarted {call : Call} {seed : Word} (restarts : call.action = .restart seed) :
      Taken config system (.call call)
        { system with
          runtime := system.runtime.step config call
          dispatches := system.dispatches.map fun dispatch => { dispatch with stage := .finished }
          reconciliations := [] }
  | missing {index dispatch} (found : system.dispatches[index]? = some dispatch)
      (stage : dispatch.stage = .committed)
      (absent : system.runtime.routes[dispatch.intent.route]? = none) :
      Taken config system (.read index) { system with dispatches := system.moved index dispatch .finished }
  | read {index dispatch record} (found : system.dispatches[index]? = some dispatch)
      (stage : dispatch.stage = .committed)
      (held : system.runtime.routes[dispatch.intent.route]? = some record) :
      Taken config system (.read index) { system with dispatches := system.moved index dispatch (.read record) }
  | sent {env index dispatch snapshot} (found : system.dispatches[index]? = some dispatch)
      (stage : dispatch.stage = .read snapshot) :
      Taken config system (.send env index) (system.send env index dispatch snapshot)
  | deferred {env index dispatch answer} (found : system.dispatches[index]? = some dispatch)
      (stage : dispatch.stage = .sent answer) :
      Taken config system (.finish env index) { system with dispatches := system.moved index dispatch .finished }
  | completed {env index dispatch answer} (found : system.dispatches[index]? = some dispatch)
      (stage : dispatch.stage = .sent answer) :
      Taken config system (.finish env index)
        { system with
          runtime := system.runtime.step config ⟨env, .complete answer.immediate⟩
          dispatches := system.moved index dispatch .finished }
  | looked {route record} (held : system.runtime.routes[route]? = some record) :
      Taken config system (.look route)
        { system with reconciliations := system.reconciliations ++ [⟨route, .looked record.key⟩] }
  | asked {env index route key} (found : system.reconciliations[index]? = some ⟨route, .looked key⟩) :
      Taken config system (.ask env index) (system.ask env index route key)
  | stored {env index route commits result}
      (found : system.reconciliations[index]? = some ⟨route, .answered commits result⟩) :
      Taken config system (.store env index) (system.store config env index route result)

theorem call_taken (config : RuntimeConfig) (call : Call) (system : System) :
    Taken config system (.call call) (system.call config call) := by
  unfold System.call
  split
  · exact .idle _
  · rename_i restarts
    exact .restarted restarts
  · rename_i mutates continues
    exact .called continues mutates

theorem turn_taken (config : RuntimeConfig) (taken : Turn) (system : System) :
    Taken config system taken (system.turn config taken) := by
  cases taken with
  | call call => exact call_taken config call system
  | read index =>
      simp only [turn]
      split
      · rename_i found
        unfold System.read
        split
        · rename_i absent
          exact .missing found rfl absent
        · rename_i held
          exact .read found rfl held
      · exact .idle _
  | send env index =>
      simp only [turn]
      split
      · rename_i found
        exact .sent found rfl
      · exact .idle _
  | finish env index =>
      simp only [turn]
      split
      · rename_i found
        unfold System.finish
        split
        · exact .deferred found rfl
        · exact .completed found rfl
      · exact .idle _
  | look route =>
      simp only [turn, System.look]
      split
      · exact .idle _
      · rename_i held
        exact .looked held
  | ask env index =>
      simp only [turn]
      split
      · rename_i found
        exact .asked found
      · exact .idle _
  | store env index =>
      simp only [turn]
      split
      · rename_i found
        exact .stored found
      · exact .idle _

/-- The dispatches after one of them moved on. -/
theorem getElem?_moved {index : Nat} {dispatch : Dispatch} (found : system.dispatches[index]? = some dispatch)
    (stage : Stage) (place : Nat) :
    (system.moved index dispatch stage)[place]? =
      if index = place then some { dispatch with stage := stage } else system.dispatches[place]? := by
  have within : index < system.dispatches.length := (List.getElem?_eq_some_iff.mp found).1
  rw [moved, List.getElem?_set, if_pos within]

/-- A turn is a step of the runtime, or leaves it alone. -/
theorem Taken.runtime (turned : Taken config system taken after) :
    after.runtime = system.runtime ∨ ∃ call, after.runtime = system.runtime.step config call := by
  cases turned with
  | called | restarted => exact .inr ⟨_, rfl⟩
  | completed => exact .inr ⟨⟨_, .complete _⟩, rfl⟩
  | stored => exact .inr ⟨⟨_, .reconcile _ _⟩, rfl⟩
  | _ => exact .inl rfl

/-- Threads do to the runtime what some run of it does, so that what holds in every run
holds whatever the threads do. -/
theorem run_runtime (config : RuntimeConfig) (seed : Word) (turns : List Turn) :
    ∃ calls, (run (turn config) (start seed) turns).runtime =
      run (Impl.step config) (Impl.initial seed) calls := by
  induction turns using List.reverseRecOn with
  | nil => exact ⟨[], rfl⟩
  | append_singleton turns last ih =>
      obtain ⟨calls, same⟩ := ih
      rw [run_append, run_cons, run_nil]
      rcases (turn_taken config last _).runtime with kept | ⟨call, stepped⟩
      · exact ⟨calls, kept.trans same⟩
      · exact ⟨calls ++ [call], by rw [stepped, same, run_append, run_cons, run_nil]⟩

theorem run_threads_indexed (turns : List Turn) :
    Impl.Indexed (run (turn config) (start seed) turns).runtime := by
  obtain ⟨calls, same⟩ := run_runtime config seed turns
  rw [same]
  exact Impl.run_indexed calls

/-- The rule for runs of threads: an invariant of the start that allowed turns preserve. -/
theorem run_threads {motive : System → Prop} {allowed : System → Turn → Prop} {turns : List Turn}
    (along : Along (turn config) allowed (start seed) turns) (initially : motive (start seed))
    (preserved : ∀ system taken after, Impl.Indexed system.runtime → allowed system taken → motive system →
      Taken config system taken after → motive after) :
    motive (run (turn config) (start seed) turns) := by
  refine (along.invariant (motive := fun system => Impl.Indexed system.runtime ∧ motive system) ?_
    ⟨Impl.initial_indexed seed, initially⟩).2
  rintro system taken ⟨indexed, held⟩ allows
  have turned := turn_taken config taken system
  refine ⟨?_, preserved system taken _ indexed allows held turned⟩
  rcases turned.runtime with kept | ⟨call, stepped⟩
  · rw [kept]
    exact indexed
  · rw [stepped]
    exact indexed.step call

end System

/-! ## Committed intents -/

namespace Impl

variable {config : RuntimeConfig} {state : Impl} {call : Call} {intent : Intent}

/-- Only an open runtime commits. -/
theorem Intends.opened {env : Env} {origin after : Impl} {action : Action} {updated : RouteRecord}
    (intends : Intends config env origin action after intent updated) : origin.opened = true := by
  obtain ⟨before, legal, -⟩ := intends.legal
  have outstanding : intent.attempt.resolved = false := congrArg ProgrammingAttemptRecord.resolved intends.waits
  generalize made : ({ upserts := [updated], attempts := [intent.attempt] } : Edit) = edit at legal
  cases legal with
  | create created =>
      obtain ⟨registration, authority⟩ := created.authority
      exact (publishAuthority_eq_ok.mp authority).2.2.2.2.2.1
  | replace replaced =>
      obtain ⟨registration, authority, -⟩ := replaced.authority
      exact (publishAuthority_eq_ok.mp authority).2.2.2.2.2.1
  | withdraw withdrawn =>
      have target := withdrawn.target
      simp only [withdrawTarget, bind_eq_ok, exists_unit, checkMutation_eq_ok] at target
      exact target.1.2.2.2.2.2
  | revalidate revalidated =>
      have target := revalidated.target
      simp only [revalidateTarget, bind_eq_ok, exists_unit, checkMutation_eq_ok] at target
      exact target.1.2.2.2.2.2
  | resolve awaited | complete completed =>
      have same := congrArg Edit.attempts made
      simp only [List.cons.injEq, and_true] at same
      rw [same] at outstanding
      cases outstanding
  | takeover | retire | revoke | invalidate | observe =>
      have same := congrArg Edit.attempts made
      cases same

/-- An intent was committed by the step that returned it. -/
theorem intentOf_intends (indexed : Indexed state) (committed : state.intentOf config call = some intent) :
    ∃ updated, Intends config call.env state call.action (state.step config call) intent updated := by
  unfold intentOf at committed
  have stepped : ∀ updated, Intends config call.env state call.action
      (state.perform config call.env call.action) intent updated → (∀ seed, call.action ≠ .restart seed) →
      ∃ updated, Intends config call.env state call.action (state.step config call) intent updated := by
    intro updated intends continues
    refine ⟨updated, ?_⟩
    unfold step
    split
    · rename_i restarts
      exact absurd restarts (continues _)
    · rw [if_pos (by rw [takes, intends.opened, Bool.true_or])]
      exact intends
  split at committed
  · rename_i request action
    split at committed
    · rename_i returned
      obtain rfl := Option.some.inj committed
      obtain ⟨updated, intends, -⟩ := publishLocked_intends indexed (Prod.ext rfl returned)
      exact stepped updated (by rw [action]; exact intends) (by simp [action])
    · cases committed
  · rename_i request action
    split at committed
    · rename_i returned
      obtain rfl := Option.some.inj committed
      obtain ⟨updated, intends⟩ := withdrawLocked_intends (Prod.ext rfl returned)
      exact stepped updated (by rw [action]; exact intends) (by simp [action])
    · cases committed
  · rename_i request action
    cases returned : (state.revalidateLocked config call.env request).2 with
    | error failure =>
        rw [returned] at committed
        cases committed
    | ok other =>
        rw [returned] at committed
        obtain rfl := Option.some.inj committed
        obtain ⟨updated, intends⟩ := revalidateLocked_intends (Prod.ext rfl returned)
        exact stepped updated (by rw [action]; exact intends) (by simp [action])
  · cases committed

end Impl

namespace System

variable {config : RuntimeConfig} {system : System} {call : Call} {dispatch : Dispatch}

theorem committed_intends (indexed : Impl.Indexed system.runtime)
    (made : system.committed config call = some dispatch) :
    Impl.Intends config call.env system.runtime call.action (system.runtime.step config call)
        dispatch.intent dispatch.committed ∧
      dispatch.stage = .committed ∧ system.runtime.intentOf config call = some dispatch.intent := by
  simp only [committed, Option.bind_eq_bind, Option.bind_eq_some_iff, Option.pure_def,
    Option.some.injEq] at made
  obtain ⟨intent, intended, record, found, rfl⟩ := made
  obtain ⟨updated, intends⟩ := Impl.intentOf_intends indexed intended
  obtain rfl := Option.some.inj (intends.found.symm.trans found)
  exact ⟨intends, rfl, intended⟩

theorem committed_of_intent (indexed : Impl.Indexed system.runtime) {intent : Intent}
    (intended : system.runtime.intentOf config call = some intent) :
    ∃ dispatch, system.committed config call = some dispatch ∧ dispatch.intent = intent := by
  obtain ⟨updated, intends⟩ := Impl.intentOf_intends indexed intended
  refine ⟨{ intent := intent, committed := updated }, ?_, rfl⟩
  simp [committed, intended, intends.found]

end System

namespace Scenario

/-- A whole dispatch of the backend that answers at once. -/
def dispatched (index : Nat) : List Turn := [.read index, .send answering index, .finish answering index]

def withdrawal (route : Nat) : WithdrawRequest :=
  { publisher := operator, workerBoot := boot, attempt := ⟨1⟩, route := ⟨BitVec.ofNat 128 route⟩ }

/-- A thread has published its route. -/
def committed : List Turn := published.map .call

end Scenario

end RouteFabric
