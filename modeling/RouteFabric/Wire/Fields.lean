import RouteFabric.Runtime.Operations
import RouteFabric.Runtime.Snapshots
import RouteFabric.Wire.Frame

/-!
# Fields of wire messages

Readers and writers that the messages share: statuses with their detail, optional counters,
the authority context of a request, publisher scopes, route snapshots and the counter block.
The writers accept whatever they are given; the readers check every bound, so an optional
counter is refused here that the record reader lets through.
-/

namespace RouteFabric

open ByteReader

/-! ## Enumerations of the wire -/

instance : Enumerated BackendPresence where
  values := [.unknown, .present, .absent, .unavailable]
  code
    | .unknown => 1
    | .present => 2
    | .absent => 3
    | .unavailable => 4
  decodes value := by cases value <;> decide

instance : Enumerated FencingReason where
  values := [.sessionClosed, .workerDeath, .administrative, .epochInvalidated]
  code
    | .sessionClosed => 1
    | .workerDeath => 2
    | .administrative => 3
    | .epochInvalidated => 4
  decodes value := by cases value <;> decide

instance : Enumerated ProgrammingOutcome where
  values := [.applied, .idempotent, .notSupported, .rejected, .retryableFailure, .permanentFailure,
    .ambiguous, .backendUnavailable]
  code
    | .applied => 1
    | .idempotent => 2
    | .notSupported => 3
    | .rejected => 4
    | .retryableFailure => 5
    | .permanentFailure => 6
    | .ambiguous => 7
    | .backendUnavailable => 8
  decodes value := by cases value <;> decide

instance : Enumerated CompletionDisposition where
  values := [.applied, .stale, .unknownAttempt, .routeMissing, .lifecycleRejected]
  code
    | .applied => 1
    | .stale => 2
    | .unknownAttempt => 3
    | .routeMissing => 4
    | .lifecycleRejected => 5
  decodes value := by cases value <;> decide

/-! ## Flags and digests -/

def writeBoolean (flag : Bool) : Bytes := [if flag then 1 else 0]

/-- A flag is zero or one. -/
def boolean : Reader Bool := choice ProgrammingAttemptRecord.boolean

theorem reads_boolean (flag : Bool) : Reads boolean (writeBoolean flag) True flag :=
  Reads.choice (by cases flag <;> decide)

theorem canonical_boolean : Canonical boolean writeBoolean fun _ => True :=
  ProgrammingAttemptRecord.canonical_boolean

/-- The sixteen bytes of a digest, whatever they are. -/
def readDigest : Reader Digest128 := do
  let bytes ← raw 16
  pure (value128 bytes)

theorem reads_digest (digest : Digest128) : Reads readDigest (bytes128 digest) True digest := by
  have bytes : Reads (raw 16) (bytes128 digest) True (bytes128 digest) := by
    simpa only [length_bytes128] using Reads.raw (bytes128 digest)
  have recovered : Reads (pure (value128 (bytes128 digest))) [] True digest := by
    rw [value128_bytes128]
    exact Reads.pure digest
  rw [← List.append_nil (bytes128 digest)]
  exact Reads.restate (by simp) (bytes.bind fun _ => recovered)

theorem canonical_digest : Canonical readDigest bytes128 fun _ => True := by
  refine Consumes.field (Canonical.raw 16) fun bytes length => Consumes.pure ⟨?_, trivial⟩
  rw [bytes128_value128 length, List.append_nil]
  rfl

/-! ## Optional counters -/

namespace CounterId

variable {tag : CounterTag}

/-- An optional counter on the wire has to be in the checked range when it is present. -/
def readOptionalCounter : Reader (CounterId tag) := do
  let present ← byte
  let value ← word 8
  if present = 0 then do
    require (value = 0)
    pure absent
  else do
    require (present = 1 ∧ value ≠ 0 ∧ value ≤ maxValue)
    pure (fromValue value)

/-- An optional counter is read back unless it holds the one word above the checked range. -/
theorem reads_optionalCounter (counter : CounterId tag) :
    Reads readOptionalCounter counter.writeOptional (counter.value ≤ maxValue) counter := by
  by_cases zero : counter.value = 0
  · have isAbsent : counter = absent := CounterId.ext zero
    have image : counter.writeOptional = [[0], leBytes 8 0].flatten := by
      simp [writeOptional, isValid, zero]
    have value : Reads (word 8) (leBytes 8 0) True 0 := Reads.word (by norm_num)
    have finish : Reads (do require ((0 : Nat) = 0); pure absent) [] (0 = 0 ∧ True) counter :=
      Reads.guard fun _ => isAbsent ▸ Reads.pure absent
    rw [image]
    exact Reads.restate (by simp [zero])
      (Reads.field (Reads.byte 0) fun _ => Reads.field value fun _ => finish)
  · have image : counter.writeOptional = [[1], counter.write].flatten := by
      simp [writeOptional, isValid, zero]
    have recovered : Reads (pure (fromValue counter.value)) [] True counter := by
      rw [fromValue_value]
      exact Reads.pure counter
    have finish : Reads (do
        require ((1 : UInt8) = 1 ∧ counter.value ≠ 0 ∧ counter.value ≤ maxValue)
        pure (fromValue counter.value))
        [] (((1 : UInt8) = 1 ∧ counter.value ≠ 0 ∧ counter.value ≤ maxValue) ∧ True) counter :=
      Reads.guard fun _ => recovered
    rw [image]
    exact Reads.restate (by simp [zero])
      (Reads.field (Reads.byte 1) fun _ => Reads.field (reads_word counter) fun _ => finish)

theorem canonical_optionalCounter :
    Canonical (readOptionalCounter : Reader (CounterId tag)) writeOptional (·.value ≤ maxValue) := by
  refine Consumes.field Canonical.byte fun present _ => Consumes.field (Canonical.word 8) fun value fits => ?_
  by_cases missing : present = 0
  · rw [if_pos missing]
    refine Consumes.guard fun zero => Consumes.pure ⟨?_, Nat.zero_le _⟩
    simp [writeOptional, absent, isValid, missing, zero]
  · rw [if_neg missing]
    refine Consumes.guard fun given => ?_
    have counted : (fromValue value : CounterId tag).value ≤ maxValue := by
      rw [value_fromValue fits]
      exact given.2.2
    refine Consumes.pure ⟨?_, counted⟩
    have valid : (fromValue value : CounterId tag).isValid = true := by
      simpa [isValid, value_fromValue fits] using given.2.1
    rw [writeOptional, if_pos valid, write, value_fromValue fits, given.1]
    simp

end CounterId

/-! ## Statuses -/

namespace StatusCode

/-- The status codes in the order of their numbers. -/
def all : List StatusCode :=
  [ok, invalidArgument, malformedEncoding, notFound, alreadyExists, conflict, staleEpoch,
    staleWorkerBoot, staleGeneration, unauthorized, scopeViolation, pathAuthorityRejected,
    pathAuthorityStale, lifecycleViolation, retired, revoked, backendUnavailable, backendFailure,
    ambiguousOutcome, limitExceeded, persistenceFailure, protocolViolation, integrityFailure,
    unsupported, reentrancyViolation, internal, notRegistered, fenced, shuttingDown, notOpen]

def code (status : StatusCode) : Nat := all.idxOf status

def ofCode (raw : Nat) : StatusCode := (all[raw]?).getD notOpen

/-- The highest number of a status. -/
def maxCode : Nat := code notOpen

theorem ofCode_code (status : StatusCode) : ofCode status.code = status := by
  cases status <;> decide

theorem code_le (status : StatusCode) : status.code ≤ maxCode := by
  cases status <;> decide

theorem code_ofCode : ∀ raw ≤ maxCode, (ofCode raw).code = raw := by decide

end StatusCode

/-- The outcome that every answer starts with. -/
structure WireStatus where
  status : StatusCode := .ok
  detail : Bytes := []
deriving DecidableEq

namespace WireStatus

def write (answer : WireStatus) : Bytes :=
  [leBytes 2 answer.status.code, writeString answer.detail].flatten

def read : Reader WireStatus := do
  let raw ← word 2
  require (raw ≤ StatusCode.maxCode)
  let detail ← string maxDiagnosticChars
  pure { status := .ofCode raw, detail }

/-- Any status is read back, but only with a detail of bounded length. -/
theorem reads {answer : WireStatus} (fits : answer.detail.length < 2 ^ 32) :
    Reads read answer.write (answer.detail.length ≤ maxDiagnosticChars) answer := by
  have bounded : answer.status.code ≤ StatusCode.maxCode := answer.status.code_le
  have raw : Reads (word 2) (leBytes 2 answer.status.code) True answer.status.code :=
    Reads.word (bounded.trans_lt (by decide))
  have recovered : Reads (pure { status := .ofCode answer.status.code, detail := answer.detail }) []
      True answer := by
    rw [StatusCode.ofCode_code]
    exact Reads.pure answer
  exact Reads.restate (by simp [bounded])
    (Reads.field raw fun _ => Reads.guard fun _ =>
      Reads.field (Reads.string fits maxDiagnosticChars) fun _ => recovered)

theorem canonical : Canonical read write fun _ => True := by
  refine Consumes.field (Canonical.word 2) fun raw _ => Consumes.guard fun bounded =>
    Consumes.field (Canonical.string maxDiagnosticChars) fun detail _ => Consumes.pure ⟨?_, trivial⟩
  simp only [write, StatusCode.code_ofCode raw bounded]
  rfl

end WireStatus

/-! ## The authority context -/

structure RequestContext where
  epoch : CoordinatorEpoch := .absent
  publisher : PublisherId := {}
  workerBoot : WorkerBootId := {}
  attempt : MutationAttemptId := {}
deriving DecidableEq

namespace RequestContext

def write (context : RequestContext) : Bytes :=
  [context.epoch.write, context.publisher.write, context.workerBoot.write,
    context.attempt.write].flatten

def read : Reader RequestContext := do
  let epoch ← CounterId.read
  let publisher ← TokenId.read
  let workerBoot ← FixedId.read
  let attempt ← FixedId.read
  pure { epoch, publisher, workerBoot, attempt }

structure Storable (context : RequestContext) : Prop where
  epoch : context.epoch.Storable
  publisher : context.publisher.isValid = true
  workerBoot : context.workerBoot.isValid = true
  attempt : context.attempt.isValid = true

theorem canonical : Canonical read write Storable :=
  Consumes.field CounterId.canonical fun _ epoch =>
    Consumes.field TokenId.canonical fun _ publisher =>
      Consumes.field FixedId.canonical fun _ boot =>
        Consumes.field FixedId.canonical fun _ attempt =>
          Consumes.pure ⟨rfl, epoch, publisher, boot, attempt⟩

end RequestContext

/-! ## Publisher scopes -/

namespace PublisherScope

def write (scope : PublisherScope) : Bytes :=
  [scope.fabric.write, writeList TokenId.write scope.namespaces,
    writeList Destination.write scope.destinations,
    writeList (fun item : RouteClass => [Enumerated.code item]) scope.routeClasses,
    writeBoolean scope.wildcardNamespaces, writeBoolean scope.wildcardDestinations,
    writeBoolean scope.wildcardRouteClasses, writeBoolean scope.administrativeOverride].flatten

def read (limits : Limits) : Reader PublisherScope := do
  let fabric ← TokenId.read
  let namespaces ← listOf "" "" limits.maxPublisherScopes TokenId.read
  let destinations ← listOf "" "" limits.maxPublisherScopes
    (Destination.read limits.maxDestinationChars)
  let routeClasses ← listOf "" "" limits.maxPublisherScopes enumerated
  let wildcardNamespaces ← boolean
  let wildcardDestinations ← boolean
  let wildcardRouteClasses ← boolean
  let administrativeOverride ← boolean
  pure { fabric, namespaces, destinations, routeClasses, wildcardNamespaces, wildcardDestinations,
         wildcardRouteClasses, administrativeOverride }

theorem canonical (limits : Limits) : Canonical (read limits) write fun _ => True :=
  Consumes.field TokenId.canonical fun _ _ =>
    Consumes.field (TokenId.canonical.listOf _ _ _) fun _ _ =>
      Consumes.field ((Destination.canonical _).listOf _ _ _) fun _ _ =>
        Consumes.field (Canonical.enumerated.listOf _ _ _) fun _ _ =>
          Consumes.field canonical_boolean fun _ _ =>
            Consumes.field canonical_boolean fun _ _ =>
              Consumes.field canonical_boolean fun _ _ =>
                Consumes.field canonical_boolean fun _ _ => Consumes.pure ⟨rfl, trivial⟩

end PublisherScope

/-! ## Route snapshots -/

namespace RouteSnapshot

/-- The value of a default-constructed snapshot. -/
def unset : RouteSnapshot := ⟨{}, 0, .notInstalled, {}⟩

def write (snapshot : RouteSnapshot) : Bytes :=
  [snapshot.id.write, bytes128 snapshot.digest, [Enumerated.code snapshot.currentness],
    snapshot.record.write].flatten

/-- The reader checks the record in full and its digest against the one that was sent. -/
def read (limits : Limits) : Reader RouteSnapshot := do
  let id ← because "malformed snapshot identity" FixedId.read
  let digest ← because "malformed snapshot digest" readDigest
  let currentness ← because "malformed currentness value" enumerated
  let record ← RouteRecord.read limits
  because "snapshot digest does not match the record content"
    (require (record.semanticDigest = digest))
  pure { id, digest, currentness, record }

/-- The snapshots whose own encoding is read back. -/
structure Storable (snapshot : RouteSnapshot) (limits : Limits) : Prop where
  id : snapshot.id.isValid = true
  record : snapshot.record.Storable limits
  digest : snapshot.record.semanticDigest = snapshot.digest

theorem reads {snapshot : RouteSnapshot} (measured : snapshot.record.Measured) (limits : Limits) :
    Reads (read limits) snapshot.write (snapshot.Storable limits) snapshot := by
  have finish : Reads (do
      because "snapshot digest does not match the record content"
        (require (snapshot.record.semanticDigest = snapshot.digest))
      pure snapshot) [] (snapshot.record.semanticDigest = snapshot.digest ∧ True) snapshot :=
    ((Reads.require _).because _).silent fun _ => Reads.pure snapshot
  refine Reads.restate ?_
    (Reads.field ((FixedId.reads snapshot.id).because _) fun _ =>
      Reads.field ((reads_digest snapshot.digest).because _) fun _ =>
        Reads.field ((Reads.enumerated snapshot.currentness).because _) fun _ =>
          Reads.field (RouteRecord.reads measured limits) fun _ => finish)
  constructor
  · rintro ⟨id, -, -, record, digest, -⟩
    exact ⟨id, record, digest⟩
  · rintro ⟨id, record, digest⟩
    exact ⟨id, trivial, trivial, record, digest, trivial⟩

theorem canonical (limits : Limits) : Canonical (read limits) write fun _ => True :=
  Consumes.field (FixedId.canonical.because _) fun _ _ =>
    Consumes.field (canonical_digest.because _) fun _ _ =>
      Consumes.field (Canonical.enumerated.because _) fun _ _ =>
        Consumes.field (RouteRecord.canonical limits) fun _ _ =>
          Consumes.field (Canonical.guard _ _) fun _ _ => Consumes.pure ⟨rfl, trivial⟩

end RouteSnapshot

end RouteFabric
