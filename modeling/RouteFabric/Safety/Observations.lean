import RouteFabric.Safety.Dispatches

/-!
# What an observation is about

A mutation resets the observation of its route, because what was seen before describes a
state that the dispatch supersedes. A reconciliation asks the backend without the lock and
then writes what it was told onto whatever the record is by then, so an answer from before
a commit can come after it.
-/

namespace RouteFabric

open OrderedMap Run

namespace Scenario

/-- The backend does not know the route. -/
def blind : Env :=
  { env with backend := { id := ⟨asciiBytes "backend"⟩, queryRoute := fun _ => { presence := .absent } } }

def asked : List Turn := committed ++ dispatched 0 ++ [.look ⟨1⟩, .ask blind 0]

/-- The route is withdrawn between the question and the writing down of its answer. -/
def belated : List Turn := asked ++ [.call ⟨env, .withdraw (withdrawal 1)⟩]

end Scenario

namespace Impl

variable {config : RuntimeConfig} {env : Env} {origin state after : Impl} {call : Call} {intent : Intent}

/-- A call that commits an intent passed the checks of a call that does. -/
theorem Intends.disturbs {updated : RouteRecord} (indexed : Indexed origin)
    (intends : Intends config call.env origin call.action after intent updated) :
    call.action.programs = true ∧ origin.disturbs config call intent.route = true := by
  obtain ⟨before, legal, -⟩ := intends.legal
  have outstanding : intent.attempt.resolved = false := congrArg ProgrammingAttemptRecord.resolved intends.waits
  rw [intends.route]
  unfold Impl.disturbs
  generalize made : ({ upserts := [updated], attempts := [intent.attempt] } : Edit) = edit at legal
  generalize call.action = action at legal
  cases legal with
  | create created =>
      obtain rfl := (List.cons.inj (congrArg Edit.upserts made)).1
      obtain ⟨programmingGeneration, -, declared⟩ := created.made
      have own : updated.id = createdId _ := congrArg RouteRecord.id declared
      refine ⟨rfl, ?_⟩
      simp [created.reaches, own]
  | replace replaced =>
      obtain rfl := (List.cons.inj (congrArg Edit.upserts made)).1
      obtain ⟨registration, authority, -⟩ := replaced.authority
      obtain ⟨named, -⟩ := indexed.lookupKey replaced.found
      refine ⟨rfl, ?_⟩
      simp [authority, Except.isOk, Except.toBool, replaced.reissued.id, named]
  | withdraw withdrawn =>
      obtain rfl := (List.cons.inj (congrArg Edit.upserts made)).1
      have found := (withdrawTarget_eq_ok withdrawn.target).1.found
      refine ⟨rfl, ?_⟩
      simp [withdrawn.target, Except.isOk, Except.toBool, withdrawn.reissued.id, indexed.routes _ _ found]
  | revalidate revalidated =>
      obtain rfl := (List.cons.inj (congrArg Edit.upserts made)).1
      have found := (revalidateTarget_eq_ok revalidated.target).1.found
      refine ⟨rfl, ?_⟩
      simp [revalidated.target, Except.isOk, Except.toBool, revalidated.reissued.id, indexed.routes _ _ found]
  | resolve awaited | complete completed =>
      rw [(List.cons.inj (congrArg Edit.attempts made)).1] at outstanding
      cases outstanding
  | takeover | retire | revoke | invalidate | observe => cases congrArg Edit.attempts made

end Impl

namespace System

variable {config : RuntimeConfig} {seed : Word} {system after : System} {taken : Turn}

/-- Whether a turn commits no intent for a route about which an answer waits to be stored. -/
def unanswered (config : RuntimeConfig) (system : System) : Turn → Bool
  | .call call => !call.action.programs || system.reconciliations.all fun reconciliation =>
      !(reconciliation.stage.waits && system.runtime.disturbs config call reconciliation.route)
  | _ => true

/-- Every intent for the route of an answer was committed when the backend was asked. -/
def Fresh (system : System) : Prop :=
  ∀ reconciliation ∈ system.reconciliations, ∀ commits result,
    reconciliation.stage = .answered commits result → ∀ place dispatch,
    system.dispatches[place]? = some dispatch → dispatch.intent.route = reconciliation.route → place < commits

/-- A dispatch that moves on keeps its place. -/
theorem Fresh.moves {index : Nat} {dispatch : Dispatch} (fresh : Fresh system)
    (found : system.dispatches[index]? = some dispatch) (stage : Stage) :
    Fresh { system with dispatches := system.moved index dispatch stage } := by
  intro reconciliation member commits result answered place other held sameRoute
  rw [getElem?_moved found] at held
  split at held
  · rename_i same
    obtain rfl := Option.some.inj held
    exact fresh reconciliation member commits result answered place dispatch (same ▸ found) sameRoute
  · exact fresh reconciliation member commits result answered place other held sameRoute

theorem Fresh.turn (indexed : Impl.Indexed system.runtime) (calm : system.unanswered config taken = true)
    (fresh : Fresh system) (turned : Taken config system taken after) : Fresh after := by
  cases turned with
  | idle => exact fresh
  | called continues mutates =>
      rename_i call
      intro reconciliation member commits result answered place dispatch held sameRoute
      cases made : system.committed config call with
      | none =>
          rw [made, Option.toList_none, List.append_nil] at held
          exact fresh reconciliation member commits result answered place dispatch held sameRoute
      | some committed =>
          obtain ⟨intends, -, -⟩ := committed_intends indexed made
          obtain ⟨programs, disturbs⟩ := intends.disturbs indexed
          rw [made, Option.toList_some] at held
          rcases Nat.lt_or_ge place system.dispatches.length with within | beyond
          · rw [List.getElem?_append_left within] at held
            exact fresh reconciliation member commits result answered place dispatch held sameRoute
          · rw [List.getElem?_append_right beyond] at held
            obtain rfl := List.mem_singleton.mp (List.mem_of_getElem? held)
            rw [sameRoute] at disturbs
            simp only [unanswered, programs, Bool.not_true, Bool.false_or, List.all_eq_true,
              Bool.not_eq_true'] at calm
            have spared := calm reconciliation member
            rw [answered, disturbs] at spared
            cases spared
  | restarted restarts => exact fun _ member => absurd member List.not_mem_nil
  | missing found | read found | deferred found | completed found | sent found => exact fresh.moves found _
  | looked held =>
      intro reconciliation member commits result answered
      rcases List.mem_append.mp member with old | new
      · exact fresh reconciliation old commits result answered
      · rw [List.mem_singleton.mp new] at answered
        cases answered
  | asked found =>
      intro reconciliation member commits result answered place dispatch held sameRoute
      rcases List.mem_or_eq_of_mem_set member with old | rfl
      · exact fresh reconciliation old commits result answered place dispatch held sameRoute
      · obtain ⟨rfl, -⟩ := Inquiry.answered.inj answered
        exact (List.getElem?_eq_some_iff.mp held).1
  | stored found =>
      intro reconciliation member commits result answered place dispatch held sameRoute
      rcases List.mem_or_eq_of_mem_set member with old | rfl
      · exact fresh reconciliation old commits result answered place dispatch held sameRoute
      · cases answered

/-- In every run that commits no intent for a route while an answer about it waits: when an
answer is stored, every intent for its route was committed before the backend was asked. -/
theorem run_fresh {turns : List Turn}
    (along : Along (turn config) (fun system taken => system.unanswered config taken = true)
      (start seed) turns) {index : Nat} {route : RouteId} {commits : Nat} {result : BackendQueryResult}
    (stores : (run (turn config) (start seed) turns).reconciliations[index]? =
      some ⟨route, .answered commits result⟩) {place : Nat} {dispatch : Dispatch}
    (found : (run (turn config) (start seed) turns).dispatches[place]? = some dispatch)
    (sameRoute : dispatch.intent.route = route) : place < commits := by
  have initially : Fresh (start seed) := fun _ member => absurd member List.not_mem_nil
  have fresh := run_threads along initially fun system taken after indexed calm fresh turned =>
    fresh.turn indexed calm turned
  exact fresh _ (List.mem_of_getElem? stores) commits result rfl place dispatch found sameRoute

/-- A route is published with its dispatch, and the backend asked about it. -/
theorem run_fresh_asked :
    (run (turn Scenario.config) (start 0) Scenario.asked).dispatches.length = 1 ∧
      ∀ commits result, (run (turn Scenario.config) (start 0) Scenario.asked).reconciliations[0]? =
          some ⟨⟨1⟩, .answered commits result⟩ →
        ∀ place dispatch, (run (turn Scenario.config) (start 0) Scenario.asked).dispatches[place]? =
          some dispatch → dispatch.intent.route = ⟨1⟩ → place < commits :=
  ⟨by decide +kernel, fun _ _ stores _ _ found sameRoute => run_fresh (by decide +kernel) stores found sameRoute⟩

/-- An answer from before a withdrawal is stored on the record of after it, which had been
reset, and decides what is known of it. -/
theorem belated_answer_stored :
    (run (turn Scenario.config) (start 0) Scenario.belated).reconciliations.any (fun reconciliation =>
        reconciliation.route = ⟨1⟩ && match reconciliation.stage with
          | .answered commits _ => commits = 1
          | _ => false) = true ∧
      ((run (turn Scenario.config) (start 0) Scenario.belated).dispatches[1]?).map (·.intent.route) =
        some ⟨1⟩ ∧
      ((run (turn Scenario.config) (start 0) Scenario.belated).runtime.routes[(⟨1⟩ : RouteId)]?).map
        (·.observation.classification) = some .unknown ∧
      ((run (turn Scenario.config) (start 0)
        (Scenario.belated ++ [.store Scenario.blind 0])).runtime.routes[(⟨1⟩ : RouteId)]?).map
        (·.observation.classification) = some .matched := by
  decide +kernel

end System

end RouteFabric
