/-!
# Computations that share a state

A thread works on a shared state in turns. In a turn it sees the state, may act on it, and what it does
next depends on what it saw; between two turns other threads have theirs. A resumption is such a thread
with a result. `Within` says what it may do in whatever states its turns find, and `Finishes` what it
comes to when nothing interrupts it.
-/

/-- What is left of a thread. The surroundings of each turn are given with it. -/
inductive Resumption (Env State Action α : Type) where
  | done (value : α)
  | turn (act : Env → State → Option Action) (next : Env → State → Resumption Env State Action α)

namespace Resumption

variable {Env State Action α β : Type}

/-- One resumption after the other. -/
def bind : Resumption Env State Action α → (α → Resumption Env State Action β) →
    Resumption Env State Action β
  | .done value, continues => continues value
  | .turn act next, continues => .turn act fun env state => (next env state).bind continues

def map (wrap : α → β) (task : Resumption Env State Action α) : Resumption Env State Action β :=
  task.bind fun value => .done (wrap value)

/-- A thread of one turn. -/
def single (act : Env → State → Option Action) (result : Env → State → α) :
    Resumption Env State Action α :=
  .turn act fun env state => .done (result env state)

/-! ## What a thread may do -/

/-- Whatever its turns find, the thread takes only actions that are admitted. -/
def Within (admits : Action → Prop) : Resumption Env State Action α → Prop
  | .done _ => True
  | .turn act next =>
      (∀ env state action, act env state = some action → admits action) ∧
        ∀ env state, (next env state).Within admits

variable {admits : Action → Prop}

/-- A turn that only looks. -/
theorem Within.silent {next : Env → State → Resumption Env State Action α}
    (later : ∀ env state, (next env state).Within admits) :
    (Resumption.turn (fun _ _ => none) next).Within admits :=
  ⟨fun _ _ _ acts => (Option.some_ne_none _ acts.symm).elim, later⟩

/-- A turn that always takes the same action. -/
theorem Within.acting {action : Action} {next : Env → State → Resumption Env State Action α}
    (admitted : admits action) (later : ∀ env state, (next env state).Within admits) :
    (Resumption.turn (fun _ _ => some action) next).Within admits :=
  ⟨fun _ _ _ acts => Option.some.inj acts ▸ admitted, later⟩

theorem Within.bind {task : Resumption Env State Action α} {continues : α → Resumption Env State Action β}
    (first : task.Within admits) (later : ∀ value, (continues value).Within admits) :
    (task.bind continues).Within admits := by
  induction task with
  | done value => exact later value
  | turn act next ih => exact ⟨first.1, fun env state => ih env state (first.2 env state)⟩

theorem Within.map {task : Resumption Env State Action α} (within : task.Within admits) (wrap : α → β) :
    (task.map wrap).Within admits :=
  within.bind fun _ => trivial

theorem Within.mono {other : Action → Prop} {task : Resumption Env State Action α}
    (within : task.Within admits) (weaker : ∀ action, admits action → other action) : task.Within other := by
  induction task with
  | done value => trivial
  | turn act next ih =>
      exact ⟨fun env state action acts => weaker action (within.1 env state action acts),
        fun env state => ih env state (within.2 env state)⟩

/-- Whatever its turns find, what the thread comes to has a property. -/
def Gives (holds : α → Prop) : Resumption Env State Action α → Prop
  | .done value => holds value
  | .turn _ next => ∀ env state, (next env state).Gives holds

theorem gives_map {holds : β → Prop} {wrap : α → β} (wrapped : ∀ value, holds (wrap value))
    (task : Resumption Env State Action α) : (task.map wrap).Gives holds := by
  induction task with
  | done value => exact wrapped value
  | turn act next ih => exact fun env state => ih env state

/-! ## A thread alone -/

variable {perform : Env → State → Action → State} {offered : Env → Prop}

/-- What a turn leaves of the state. -/
def acted (perform : Env → State → Action → State) (env : Env) (state : State) : Option Action → State
  | none => state
  | some action => perform env state action

/-- A thread that nothing interrupts comes to a result, in surroundings that are offered. -/
inductive Finishes (perform : Env → State → Action → State) (offered : Env → Prop) :
    Resumption Env State Action α → State → State → α → Prop
  | done (value : α) (state : State) : Finishes perform offered (.done value) state state value
  | turn {act : Env → State → Option Action} {next : Env → State → Resumption Env State Action α}
      {state after : State} {value : α} (env : Env) (offers : offered env)
      (rest : Finishes perform offered (next env state) (acted perform env state (act env state)) after value) :
      Finishes perform offered (.turn act next) state after value

theorem Finishes.bind {task : Resumption Env State Action α} {continues : α → Resumption Env State Action β}
    {state middle after : State} {value : α} {result : β}
    (first : Finishes perform offered task state middle value)
    (later : Finishes perform offered (continues value) middle after result) :
    Finishes perform offered (task.bind continues) state after result := by
  induction first with
  | done => exact later
  | turn env offers rest ih => exact .turn env offers (ih later)

theorem Finishes.map {task : Resumption Env State Action α} {state after : State} {value : α}
    (finishes : Finishes perform offered task state after value) (wrap : α → β) :
    Finishes perform offered (task.map wrap) state after (wrap value) :=
  finishes.bind (.done _ _)

end Resumption
