import Mathlib.Logic.Basic

/-!
# How a computation can fail

`FailsAs kind result` says that the result, if it is a failure, is a failure of the kind. A
sequence fails as its parts do, so what a long chain of checks can answer is put together from
what each check can answer.
-/

namespace Outcomes

variable {ε α β : Type} {kind other : ε → Prop} {result : Except ε α}

def FailsAs (kind : ε → Prop) (result : Except ε α) : Prop :=
  ∀ failure, result = .error failure → kind failure

namespace FailsAs

theorem ok (value : α) : FailsAs kind (.ok value : Except ε α) := by
  intro failure failed
  cases failed

theorem error {failure : ε} (holds : kind failure) : FailsAs kind (.error failure : Except ε α) := by
  intro same failed
  cases failed
  exact holds

theorem mono (fails : FailsAs kind result) (weakens : ∀ failure, kind failure → other failure) :
    FailsAs other result :=
  fun failure failed => weakens failure (fails failure failed)

/-- The second part is reached only with a value of the first. -/
theorem bind {next : α → Except ε β} (fails : FailsAs kind result)
    (continues : ∀ value, result = .ok value → FailsAs kind (next value)) :
    FailsAs kind (result >>= next) := by
  cases result with
  | error failure => exact .error (fails failure rfl)
  | ok value => exact continues value rfl

/-- A choice between two computations. -/
theorem ite {condition : Prop} [Decidable condition] {yes no : Except ε α}
    (holds : condition → FailsAs kind yes) (fails : ¬ condition → FailsAs kind no) :
    FailsAs kind (if condition then yes else no) := by
  by_cases chosen : condition
  · rw [if_pos chosen]
    exact holds chosen
  · rw [if_neg chosen]
    exact fails chosen

end FailsAs

end Outcomes
