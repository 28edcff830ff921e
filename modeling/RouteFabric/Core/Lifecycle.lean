import RouteFabric.Std.ByteReader
import RouteFabric.Core.Status

/-!
# The route lifecycle

The transition table is the single source of truth: an event that the table does not
list for a state is refused.
-/

namespace RouteFabric

open ByteReader

inductive RouteLifecycle where
  | declared
  | validating
  | ready
  | installing
  | installed
  | revalidationRequired
  | withdrawing
  | withdrawn
  | failed
  | superseded
  | retired
deriving DecidableEq

inductive RouteEvent where
  | beginValidation
  | validationAccepted
  | validationRejected
  | beginInstall
  | backendApplied
  | backendIdempotent
  | backendRejected
  | backendNotSupported
  | backendRetryableFailure
  | backendPermanentFailure
  | backendAmbiguous
  | backendUnavailable
  | requireRevalidation
  | beginWithdraw
  | withdrawApplied
  | withdrawFailed
  | supersede
  | retire
  | revoke
deriving DecidableEq

namespace RouteLifecycle

instance : Enumerated RouteLifecycle where
  values :=
    [declared, validating, ready, installing, installed, revalidationRequired, withdrawing,
      withdrawn, failed, superseded, retired]
  code
    | declared => 1
    | validating => 2
    | ready => 3
    | installing => 4
    | installed => 5
    | revalidationRequired => 6
    | withdrawing => 7
    | withdrawn => 8
    | failed => 9
    | superseded => 10
    | retired => 11
  decodes value := by cases value <;> decide

def text : RouteLifecycle → String
  | declared => "DECLARED"
  | validating => "VALIDATING"
  | ready => "READY"
  | installing => "INSTALLING"
  | installed => "INSTALLED"
  | revalidationRequired => "REVALIDATION_REQUIRED"
  | withdrawing => "WITHDRAWING"
  | withdrawn => "WITHDRAWN"
  | failed => "FAILED"
  | superseded => "SUPERSEDED"
  | retired => "RETIRED"

/-- A programming attempt is outstanding in this state. -/
def hasOutstandingProgramming (lifecycle : RouteLifecycle) : Bool :=
  lifecycle = installing ∨ lifecycle = withdrawing

instance : Ord RouteLifecycle := ⟨fun left right =>
  compare (Enumerated.code left).toNat (Enumerated.code right).toNat⟩

instance : Std.TransOrd RouteLifecycle :=
  OrderedMap.transOrd_of_key (fun lifecycle => (Enumerated.code lifecycle).toNat) fun _ _ => rfl

instance : Std.LawfulEqOrd RouteLifecycle :=
  OrderedMap.lawfulEqOrd_of_key (fun lifecycle => (Enumerated.code lifecycle).toNat)
    (fun _ _ => rfl) fun _ _ same => Enumerated.code_injective (UInt8.toNat_inj.mp same)

end RouteLifecycle

namespace RouteEvent

instance : Enumerated RouteEvent where
  values :=
    [beginValidation, validationAccepted, validationRejected, beginInstall, backendApplied,
      backendIdempotent, backendRejected, backendNotSupported, backendRetryableFailure,
      backendPermanentFailure, backendAmbiguous, backendUnavailable, requireRevalidation,
      beginWithdraw, withdrawApplied, withdrawFailed, supersede, retire, revoke]
  code
    | beginValidation => 1
    | validationAccepted => 2
    | validationRejected => 3
    | beginInstall => 4
    | backendApplied => 5
    | backendIdempotent => 6
    | backendRejected => 7
    | backendNotSupported => 8
    | backendRetryableFailure => 9
    | backendPermanentFailure => 10
    | backendAmbiguous => 11
    | backendUnavailable => 12
    | requireRevalidation => 13
    | beginWithdraw => 14
    | withdrawApplied => 15
    | withdrawFailed => 16
    | supersede => 17
    | retire => 18
    | revoke => 19
  decodes value := by cases value <;> decide

def text : RouteEvent → String
  | beginValidation => "BEGIN_VALIDATION"
  | validationAccepted => "VALIDATION_ACCEPTED"
  | validationRejected => "VALIDATION_REJECTED"
  | beginInstall => "BEGIN_INSTALL"
  | backendApplied => "BACKEND_APPLIED"
  | backendIdempotent => "BACKEND_IDEMPOTENT"
  | backendRejected => "BACKEND_REJECTED"
  | backendNotSupported => "BACKEND_NOT_SUPPORTED"
  | backendRetryableFailure => "BACKEND_RETRYABLE_FAILURE"
  | backendPermanentFailure => "BACKEND_PERMANENT_FAILURE"
  | backendAmbiguous => "BACKEND_AMBIGUOUS"
  | backendUnavailable => "BACKEND_UNAVAILABLE"
  | requireRevalidation => "REQUIRE_REVALIDATION"
  | beginWithdraw => "BEGIN_WITHDRAW"
  | withdrawApplied => "WITHDRAW_APPLIED"
  | withdrawFailed => "WITHDRAW_FAILED"
  | supersede => "SUPERSEDE"
  | retire => "RETIRE"
  | revoke => "REVOKE"

end RouteEvent

structure LifecycleTransition where
  source : RouteLifecycle
  event : RouteEvent
  target : RouteLifecycle

/-- The complete transition table. -/
def transitionTable : List LifecycleTransition := [
  ⟨.declared, .beginValidation, .validating⟩,
  ⟨.declared, .supersede, .superseded⟩,
  ⟨.declared, .retire, .retired⟩,
  ⟨.declared, .revoke, .retired⟩,
  ⟨.validating, .validationAccepted, .ready⟩,
  ⟨.validating, .validationRejected, .failed⟩,
  ⟨.validating, .requireRevalidation, .revalidationRequired⟩,
  ⟨.validating, .supersede, .superseded⟩,
  ⟨.validating, .retire, .retired⟩,
  ⟨.validating, .revoke, .retired⟩,
  ⟨.ready, .beginInstall, .installing⟩,
  ⟨.ready, .requireRevalidation, .revalidationRequired⟩,
  ⟨.ready, .beginWithdraw, .withdrawing⟩,
  ⟨.ready, .supersede, .superseded⟩,
  ⟨.ready, .retire, .retired⟩,
  ⟨.ready, .revoke, .retired⟩,
  ⟨.installing, .beginInstall, .installing⟩,
  ⟨.installing, .backendApplied, .installed⟩,
  ⟨.installing, .backendIdempotent, .installed⟩,
  ⟨.installing, .backendRejected, .failed⟩,
  ⟨.installing, .backendNotSupported, .failed⟩,
  ⟨.installing, .backendPermanentFailure, .failed⟩,
  ⟨.installing, .backendRetryableFailure, .revalidationRequired⟩,
  ⟨.installing, .backendAmbiguous, .revalidationRequired⟩,
  ⟨.installing, .backendUnavailable, .revalidationRequired⟩,
  ⟨.installing, .requireRevalidation, .revalidationRequired⟩,
  ⟨.installing, .beginWithdraw, .withdrawing⟩,
  ⟨.installing, .supersede, .superseded⟩,
  ⟨.installing, .retire, .retired⟩,
  ⟨.installing, .revoke, .retired⟩,
  ⟨.installed, .beginInstall, .installing⟩,
  ⟨.installed, .requireRevalidation, .revalidationRequired⟩,
  ⟨.installed, .beginWithdraw, .withdrawing⟩,
  ⟨.installed, .supersede, .superseded⟩,
  ⟨.installed, .retire, .retired⟩,
  ⟨.installed, .revoke, .retired⟩,
  ⟨.revalidationRequired, .beginInstall, .installing⟩,
  ⟨.revalidationRequired, .validationRejected, .failed⟩,
  ⟨.revalidationRequired, .requireRevalidation, .revalidationRequired⟩,
  ⟨.revalidationRequired, .beginWithdraw, .withdrawing⟩,
  ⟨.revalidationRequired, .supersede, .superseded⟩,
  ⟨.revalidationRequired, .retire, .retired⟩,
  ⟨.revalidationRequired, .revoke, .retired⟩,
  ⟨.withdrawing, .beginInstall, .installing⟩,
  ⟨.withdrawing, .withdrawApplied, .withdrawn⟩,
  ⟨.withdrawing, .withdrawFailed, .revalidationRequired⟩,
  ⟨.withdrawing, .requireRevalidation, .revalidationRequired⟩,
  ⟨.withdrawing, .supersede, .superseded⟩,
  ⟨.withdrawing, .retire, .retired⟩,
  ⟨.withdrawing, .revoke, .retired⟩,
  ⟨.withdrawn, .beginInstall, .installing⟩,
  ⟨.withdrawn, .requireRevalidation, .revalidationRequired⟩,
  ⟨.withdrawn, .supersede, .superseded⟩,
  ⟨.withdrawn, .retire, .retired⟩,
  ⟨.withdrawn, .revoke, .retired⟩,
  ⟨.failed, .beginInstall, .installing⟩,
  ⟨.failed, .requireRevalidation, .revalidationRequired⟩,
  ⟨.failed, .beginWithdraw, .withdrawing⟩,
  ⟨.failed, .supersede, .superseded⟩,
  ⟨.failed, .retire, .retired⟩,
  ⟨.failed, .revoke, .retired⟩,
  ⟨.superseded, .supersede, .superseded⟩,
  ⟨.superseded, .retire, .retired⟩,
  ⟨.superseded, .revoke, .retired⟩,
  ⟨.retired, .retire, .retired⟩,
  ⟨.retired, .revoke, .retired⟩,
  ⟨.retired, .supersede, .retired⟩,
  ⟨.retired, .requireRevalidation, .retired⟩]

/-- The destination state, when the table lists the event for the state. -/
def nextLifecycle (source : RouteLifecycle) (event : RouteEvent) : Option RouteLifecycle :=
  (transitionTable.find? fun row => row.source = source ∧ row.event = event).map (·.target)

/-- Applies an event, or refuses it. -/
def applyEvent (state : RouteLifecycle) (event : RouteEvent) : Expected RouteLifecycle :=
  match nextLifecycle state event with
  | some following => .ok following
  | none => makeError .lifecycleViolation
      ("event " ++ event.text ++ " is not allowed in lifecycle state " ++ state.text)

@[simp] theorem applyEvent_eq_ok {state following : RouteLifecycle} {event : RouteEvent} :
    applyEvent state event = .ok following ↔ nextLifecycle state event = some following := by
  unfold applyEvent
  split <;> simp_all

/-! ## What the table allows

Each event that the runtime raises leads to one state, or to one state unless the
route is already retired. -/

/-- Every step is a row of the table. -/
theorem next_mem {source target : RouteLifecycle} {event : RouteEvent}
    (allowed : nextLifecycle source event = some target) :
    ⟨source, event, target⟩ ∈ transitionTable := by
  obtain ⟨row, found, rfl⟩ := Option.map_eq_some_iff.mp allowed
  have matching := List.find?_some found
  simp only [decide_eq_true_eq] at matching
  obtain ⟨rfl, rfl⟩ := matching
  exact List.mem_of_find?_eq_some found

theorem next_beginInstall {source target : RouteLifecycle}
    (allowed : nextLifecycle source .beginInstall = some target) : target = .installing :=
  have rows : ∀ row ∈ transitionTable, row.event = .beginInstall → row.target = .installing := by decide
  rows _ (next_mem allowed) rfl

theorem next_beginWithdraw {source target : RouteLifecycle}
    (allowed : nextLifecycle source .beginWithdraw = some target) : target = .withdrawing :=
  have rows : ∀ row ∈ transitionTable, row.event = .beginWithdraw → row.target = .withdrawing := by
    decide
  rows _ (next_mem allowed) rfl

theorem next_retire {source target : RouteLifecycle}
    (allowed : nextLifecycle source .retire = some target) : target = .retired :=
  have rows : ∀ row ∈ transitionTable, row.event = .retire → row.target = .retired := by decide
  rows _ (next_mem allowed) rfl

theorem next_revoke {source target : RouteLifecycle}
    (allowed : nextLifecycle source .revoke = some target) : target = .retired :=
  have rows : ∀ row ∈ transitionTable, row.event = .revoke → row.target = .retired := by decide
  rows _ (next_mem allowed) rfl

end RouteFabric
