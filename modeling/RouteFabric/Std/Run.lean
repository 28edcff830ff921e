import Mathlib.Logic.Relation

/-!
# Runs of a machine

A machine is a total step function. A run folds it over the actions taken; `Along`
says that every action of a run was taken in a state that allows it. The rules lift
what one step preserves to what a run preserves, and a step that is itself made of
smaller moves to what one move preserves.
-/

namespace Run

variable {State Action : Type} {step : Action → State → State} {allowed : State → Action → Prop}
  {motive : State → Prop}

/-- The state after the given actions, in order. -/
def run (step : Action → State → State) (state : State) (actions : List Action) : State :=
  actions.foldl (fun current action => step action current) state

/-- Every action is allowed in the state in which it is taken. -/
def Along (step : Action → State → State) (allowed : State → Action → Prop) :
    State → List Action → Prop
  | _, [] => True
  | state, action :: rest => allowed state action ∧ Along step allowed (step action state) rest

instance decidableAlong [∀ state action, Decidable (allowed state action)] :
    (state : State) → (actions : List Action) → Decidable (Along step allowed state actions)
  | _, [] => isTrue trivial
  | state, action :: rest =>
      have := decidableAlong (step action state) rest
      inferInstanceAs (Decidable (allowed state action ∧ Along step allowed (step action state) rest))

@[simp] theorem run_nil (state : State) : run step state [] = state := rfl

@[simp] theorem run_cons (state : State) (action : Action) (rest : List Action) :
    run step state (action :: rest) = run step (step action state) rest := rfl

theorem run_append (state : State) (first second : List Action) :
    run step state (first ++ second) = run step (run step state first) second :=
  List.foldl_append

/-- The last action of a run is a step of its own. -/
theorem run_snoc (step : Action → State → State) (state : State) (actions : List Action) (action : Action) :
    run step state (actions ++ [action]) = step action (run step state actions) :=
  run_append state actions [action]

theorem along_append {state : State} {first second : List Action} :
    Along step allowed state (first ++ second) ↔
      Along step allowed state first ∧ Along step allowed (run step state first) second := by
  induction first generalizing state with
  | nil => simp [Along]
  | cons action rest ih => simp [Along, ih, and_assoc]

/-- A condition that always holds, holds along every run. -/
theorem along_of_forall (always : ∀ state action, allowed state action) (state : State)
    (actions : List Action) : Along step allowed state actions := by
  induction actions generalizing state with
  | nil => trivial
  | cons action rest ih => exact ⟨always state action, ih _⟩

/-- A condition on the actions alone holds along a run when all of its actions meet it. -/
theorem along_of_mem {admits : Action → Prop} {actions : List Action}
    (each : ∀ action ∈ actions, admits action) (state : State) :
    Along step (fun _ action => admits action) state actions := by
  induction actions generalizing state with
  | nil => trivial
  | cons action rest ih =>
      exact ⟨each action List.mem_cons_self,
        ih (fun other member => each other (List.mem_cons_of_mem _ member)) _⟩

/-- A weaker condition holds along the same run. -/
theorem Along.mono {weaker : State → Action → Prop} {state : State} {actions : List Action}
    (along : Along step allowed state actions)
    (weakens : ∀ state action, allowed state action → weaker state action) :
    Along step weaker state actions := by
  induction actions generalizing state with
  | nil => trivial
  | cons action rest ih => exact ⟨weakens state action along.1, ih along.2⟩

/-- Two conditions hold along a run together when each does. -/
theorem Along.and {further : State → Action → Prop} {state : State} {actions : List Action}
    (along : Along step allowed state actions) (other : Along step further state actions) :
    Along step (fun state action => allowed state action ∧ further state action) state actions := by
  induction actions generalizing state with
  | nil => trivial
  | cons action rest ih => exact ⟨⟨along.1, other.1⟩, ih along.2 other.2⟩

/-- A further condition holds along a run when it holds at each of its steps. -/
theorem Along.and_each {further : State → Action → Prop} {state : State} {actions : List Action}
    (along : Along step allowed state actions)
    (each : ∀ earlier action rest, actions = earlier ++ action :: rest →
      further (run step state earlier) action) :
    Along step (fun state action => allowed state action ∧ further state action) state actions := by
  induction actions generalizing state with
  | nil => trivial
  | cons action rest ih =>
      refine ⟨⟨along.1, each [] action rest rfl⟩, ih along.2 fun earlier other last split => ?_⟩
      exact each (action :: earlier) other last (by rw [split]; rfl)

/-- What holds at first and is preserved by every allowed step holds after the run. -/
theorem Along.invariant {state : State} {actions : List Action}
    (along : Along step allowed state actions)
    (preserved : ∀ state action, motive state → allowed state action → motive (step action state))
    (initially : motive state) : motive (run step state actions) := by
  induction actions generalizing state with
  | nil => exact initially
  | cons action rest ih => exact ih along.2 (preserved state action initially along.1)

/-- A reflexive and transitive relation that every allowed step respects relates the ends
of the run. -/
theorem Along.relates {state : State} {actions : List Action}
    (along : Along step allowed state actions) (related : State → State → Prop)
    (reflexive : ∀ state, related state state)
    (transitive : ∀ first second third, related first second → related second third →
      related first third)
    (preserved : ∀ state action, motive state → allowed state action → motive (step action state))
    (respects : ∀ state action, motive state → allowed state action → related state (step action state))
    (initially : motive state) : related state (run step state actions) := by
  induction actions generalizing state with
  | nil => exact reflexive state
  | cons action rest ih =>
      exact transitive _ _ _ (respects state action initially along.1)
        (ih along.2 (preserved state action initially along.1))

/-- What every move preserves is preserved by any number of moves. -/
theorem moves_invariant {move : State → State → Prop} {first last : State}
    (moves : Relation.ReflTransGen move first last)
    (preserved : ∀ before after, motive before → move before after → motive after)
    (initially : motive first) : motive last := by
  induction moves with
  | refl => exact initially
  | tail _ moved ih => exact preserved _ _ ih moved

end Run
