import RouteFabric.Std.OrderedMap

/-!
# Status values and configured bounds

Errors are values, not exceptions: an operation returns its result or an `Error`
carrying a stable code and a diagnostic text.
-/

namespace RouteFabric

/-- Stable status codes. -/
inductive StatusCode where
  | ok
  | invalidArgument
  | malformedEncoding
  | notFound
  | alreadyExists
  | conflict
  | staleEpoch
  | staleWorkerBoot
  | staleGeneration
  | unauthorized
  | scopeViolation
  | pathAuthorityRejected
  | pathAuthorityStale
  | lifecycleViolation
  | retired
  | revoked
  | backendUnavailable
  | backendFailure
  | ambiguousOutcome
  | limitExceeded
  | persistenceFailure
  | protocolViolation
  | integrityFailure
  | unsupported
  | reentrancyViolation
  | internal
  | notRegistered
  | fenced
  | shuttingDown
  | notOpen
deriving DecidableEq

/-- A status code with its diagnostic detail. -/
structure Error where
  code : StatusCode
  detail : String
deriving DecidableEq

/-- The result type of the public interface. -/
abbrev Expected (α : Type) := Except Error α

/-- The result of an operation that returns nothing else. -/
abbrev Status := Expected Unit

/-- An error result. -/
def makeError {α : Type} (code : StatusCode) (detail : String) : Expected α := .error ⟨code, detail⟩

/-- Continue when a check holds, and refuse with the given error otherwise. -/
def ensure (condition : Prop) [Decidable condition] (code : StatusCode) (detail : String) : Status :=
  if condition then .ok () else makeError code detail

@[simp] theorem ensure_eq_ok {condition : Prop} [Decidable condition] {code : StatusCode}
    {detail : String} {value : Unit} : ensure condition code detail = .ok value ↔ condition := by
  unfold ensure makeError
  split <;> simp_all

/-- A sequence succeeds exactly when both of its parts do. -/
@[simp] theorem bind_eq_ok {ε α β : Type} {first : Except ε α} {next : α → Except ε β} {value : β} :
    (first >>= next) = .ok value ↔ ∃ middle, first = .ok middle ∧ next middle = .ok value := by
  cases first with
  | error failure => simp [bind, Except.bind]
  | ok middle => simp [bind, Except.bind]

/-- A mapped result succeeds exactly when the result does. -/
theorem map_eq_ok {ε α β : Type} {result : Except ε α} {f : α → β} {value : β} :
    result.map f = .ok value ↔ ∃ middle, result = .ok middle ∧ f middle = value := by
  cases result with
  | error failure => simp [Except.map]
  | ok middle => simp [Except.map]

/-- The intermediate result of a check carries nothing. -/
@[simp] theorem exists_unit {holds : Unit → Prop} : (∃ value, holds value) ↔ holds () :=
  ⟨fun ⟨_, found⟩ => found, fun found => ⟨(), found⟩⟩

@[simp] theorem pure_eq_ok {ε α : Type} {value result : α} :
    (pure value : Except ε α) = .ok result ↔ value = result := by
  simp [pure, Except.pure]

@[simp] theorem makeError_ne_ok {α : Type} {code : StatusCode} {detail : String} {value : α} :
    ¬ makeError code detail = Except.ok value := by
  simp [makeError]

/-- Free-text diagnostic fields are bounded. -/
def maxDiagnosticChars : Nat := 256

/-- The configured bounds that route storage and the runtime consult. -/
structure Limits where
  maxRoutes : Nat := 1000000
  maxRoutingNamespaces : Nat := 4096
  maxFrameBytes : Nat := 1048576
  maxDestinationChars : Nat := 256
  maxHistoryEntriesPerRoute : Nat := 32
  maxOutstandingProgramming : Nat := 4096
  maxPublishers : Nat := 4096
  maxSessions : Nat := 128
  maxSnapshotRoutes : Nat := 1000000
  maxBatchMutations : Nat := 1024
  maxPublisherScopes : Nat := 16
  maxPersistBytes : Nat := 1073741824
deriving DecidableEq

/-- One of the bounds that must not be zero. -/
def Limits.requirePositive (bound : Nat) (name : String) : Status :=
  ensure (0 < bound) .invalidArgument (name ++ " must be greater than zero")

/-- Rejects incoherent configurations. -/
def Limits.validate (limits : Limits) : Status := do
  requirePositive limits.maxRoutes "max_routes"
  requirePositive limits.maxRoutingNamespaces "max_routing_namespaces"
  ensure (64 ≤ limits.maxFrameBytes) .invalidArgument "max_frame_bytes must be at least 64"
  requirePositive limits.maxDestinationChars "max_destination_chars"
  requirePositive limits.maxHistoryEntriesPerRoute "max_history_entries_per_route"
  requirePositive limits.maxOutstandingProgramming "max_outstanding_programming"
  requirePositive limits.maxPublishers "max_publishers"
  requirePositive limits.maxSessions "max_sessions"
  requirePositive limits.maxSnapshotRoutes "max_snapshot_routes"
  requirePositive limits.maxBatchMutations "max_batch_mutations"
  requirePositive limits.maxPublisherScopes "max_publisher_scopes"
  ensure (1024 ≤ limits.maxPersistBytes) .invalidArgument "max_persist_bytes must be at least 1024"

/-- The shipped bounds pass their own check. -/
example : ({} : Limits).validate = .ok () := by decide

end RouteFabric
