import RouteFabric.Wire.Messages

/-!
# What the peer can read

The writers take whatever they are given and the readers check it. For each payload format
`Acceptable` says which messages survive the way over the wire, and `reads` that those are decoded
to themselves and all others are refused. `decode_encode_iff` states it for all formats at once.

`Counted` is what a message must be for its writer to say all of it: a number is a machine word of its
field, as its type promises, and a message about the backend that includes no evidence has none, as every
message that the server builds.
-/

namespace RouteFabric

open ByteReader

/-! ## Shared fields -/

theorem WireStatus.length_detail {answer : WireStatus} {fields : List Bytes}
    (fits : (answer.write :: fields).flatten.length < 2 ^ 32) : answer.detail.length < 2 ^ 32 := by
  simp only [List.flatten_cons, List.length_append, WireStatus.write, List.flatten_nil,
    length_writeString] at fits
  omega

theorem reads_word8 {value : Nat} (counted : value < 2 ^ 64) : Reads (word 8) (leBytes 8 value) True value :=
  Reads.word (by norm_num at counted ⊢; exact counted)

theorem reads_version {version : Nat} (counted : version < 2 ^ 16) :
    Reads (word 2) (leBytes 2 version) True version :=
  Reads.word (by norm_num at counted ⊢; exact counted)

/-- An enumeration whose bytes are read first and looked up later. -/
theorem reads_code {α : Type} [Enumerated α] (value : α) :
    Reads byte [Enumerated.code value] True (Enumerated.code value) :=
  Reads.byte _

namespace RequestContext

theorem reads {context : RequestContext} (fits : context.publisher.value.length < 2 ^ 32) :
    Reads read context.write context.Storable context := by
  refine Reads.restate ?_
    (Reads.field (CounterId.reads context.epoch) fun _ =>
      Reads.field (TokenId.reads fits) fun _ =>
        Reads.field (FixedId.reads context.workerBoot) fun _ =>
          Reads.field (FixedId.reads context.attempt) fun _ => Reads.pure context)
  constructor
  · rintro ⟨epoch, publisher, workerBoot, attempt, -⟩
    exact ⟨epoch, publisher, workerBoot, attempt⟩
  · rintro ⟨epoch, publisher, workerBoot, attempt⟩
    exact ⟨epoch, publisher, workerBoot, attempt, trivial⟩

theorem length_publisher {context : RequestContext} {fields : List Bytes}
    (fits : (context.write :: fields).flatten.length < 2 ^ 32) :
    context.publisher.value.length < 2 ^ 32 := by
  simp only [List.flatten_cons, List.length_append, write, List.flatten_nil, TokenId.write,
    length_writeString] at fits
  omega

end RequestContext

/-! ## Session messages -/

def HelloRequest.Counted (message : HelloRequest) : Prop := message.wireVersion < 2 ^ 16

structure HelloRequest.Acceptable (message : HelloRequest) : Prop where
  wireVersion : message.wireVersion = wireProtocolVersion
  clientName : message.clientName.length ≤ maxClientNameChars

theorem HelloRequest.reads {message : HelloRequest} (fits : (codec.write message).length < 2 ^ 32)
    (counted : message.Counted) : Reads codec.read (codec.write message) message.Acceptable message := by
  have name : message.clientName.length < 2 ^ 32 := length_lt_of_field (by simp) fits
  refine Reads.restate ?_
    (Reads.plain ((reads_version counted).because _)
      (((Reads.require (message.wireVersion = wireProtocolVersion)).because _).silent fun _ =>
        ((Reads.string name maxClientNameChars).because _).last fun _ => Reads.pure message))
  constructor
  · rintro ⟨version, short, -⟩
    exact ⟨version, short⟩
  · rintro ⟨version, short⟩
    exact ⟨version, short, trivial⟩

def HelloResult.Counted (message : HelloResult) : Prop := message.wireVersion < 2 ^ 16

structure HelloResult.Acceptable (message : HelloResult) : Prop where
  detail : message.detail.length ≤ maxDiagnosticChars
  wireVersion : message.wireVersion = wireProtocolVersion
  epoch : message.epoch.Storable
  fabric : message.fabric.isValid = true
  backend : message.backend.isValid = true

theorem HelloResult.reads {message : HelloResult} (fits : (codec.write message).length < 2 ^ 32)
    (counted : message.Counted) : Reads codec.read (codec.write message) message.Acceptable message := by
  have fabric : message.fabric.value.length < 2 ^ 32 := length_lt_of_field (by simp [TokenId.write]) fits
  have backend : message.backend.value.length < 2 ^ 32 := length_lt_of_field (by simp [TokenId.write]) fits
  refine Reads.restate ?_
    (Reads.field ((WireStatus.reads (WireStatus.length_detail fits)).because _) fun _ =>
      Reads.plain ((reads_version counted).because _)
        (((Reads.require (message.wireVersion = wireProtocolVersion)).because _).silent fun _ =>
          Reads.field ((CounterId.reads message.epoch).because _) fun _ =>
            Reads.field ((TokenId.reads fabric).because _) fun _ =>
              Reads.field ((TokenId.reads backend).because _) fun _ =>
                Reads.plain ((reads_boolean message.backendReadOnly).because _) (Reads.pure message)))
  constructor
  · rintro ⟨detail, version, epoch, fabric, backend, -⟩
    exact ⟨detail, version, epoch, fabric, backend⟩
  · rintro ⟨detail, version, epoch, fabric, backend⟩
    exact ⟨detail, version, epoch, fabric, backend, trivial⟩

/-! ## Registrations -/

namespace PublisherScope

structure Acceptable (scope : PublisherScope) (limits : Limits) : Prop where
  fabric : scope.fabric.isValid = true
  namespaceBound : scope.namespaces.length ≤ limits.maxPublisherScopes
  namespaces : ∀ item ∈ scope.namespaces, item.isValid = true
  destinationBound : scope.destinations.length ≤ limits.maxPublisherScopes
  destinations : ∀ item ∈ scope.destinations,
    item.token.length ≤ limits.maxDestinationChars ∧ item.valid = true
  classBound : scope.routeClasses.length ≤ limits.maxPublisherScopes

theorem reads {scope : PublisherScope} (limits : Limits) (fits : scope.write.length < 2 ^ 32) :
    Reads (read limits) scope.write (scope.Acceptable limits) scope := by
  have fabric : scope.fabric.value.length < 2 ^ 32 := length_lt_of_field (by simp [TokenId.write]) fits
  -- A list takes up at least a byte for each of its items, and more than any one of them.
  have lists : (scope.namespaces.flatMap TokenId.write).length < 2 ^ 32 ∧
      (scope.destinations.flatMap Destination.write).length < 2 ^ 32 ∧
      (scope.routeClasses.flatMap fun item => [Enumerated.code item]).length < 2 ^ 32 := by
    simp only [write, List.flatten_cons, List.length_append, length_writeList] at fits
    omega
  have namespaceCount : scope.namespaces.length < 2 ^ 32 :=
    (length_le_flatMap (fun item => by simp [TokenId.write]; omega) _).trans_lt lists.1
  have destinationCount : scope.destinations.length < 2 ^ 32 :=
    (length_le_flatMap (fun item => by simp [Destination.write]) _).trans_lt lists.2.1
  have classCount : scope.routeClasses.length < 2 ^ 32 :=
    (length_le_flatMap (fun item => by simp) _).trans_lt lists.2.2
  have eachNamespace : ∀ item ∈ scope.namespaces,
      Reads TokenId.read item.write (item.isValid = true) item := by
    intro item member
    have whole := (length_write_le member).trans_lt lists.1
    exact TokenId.reads (by simp [TokenId.write] at whole; omega)
  have eachDestination : ∀ item ∈ scope.destinations,
      Reads (Destination.read limits.maxDestinationChars) item.write
        (item.token.length ≤ limits.maxDestinationChars ∧ item.valid = true) item := by
    intro item member
    have whole := (length_write_le member).trans_lt lists.2.1
    exact Destination.reads (by simp [Destination.write] at whole; omega) _
  have eachClass : ∀ item ∈ scope.routeClasses,
      Reads (enumerated : Reader RouteClass) [Enumerated.code item] True item :=
    fun item _ => Reads.enumerated item
  refine Reads.restate ?_
    (Reads.field (TokenId.reads fabric) fun _ =>
      Reads.field (Reads.listOf namespaceCount "" "" _ eachNamespace) fun _ =>
        Reads.field (Reads.listOf destinationCount "" "" _ eachDestination) fun _ =>
          Reads.field (Reads.listOf classCount "" "" _ eachClass) fun _ =>
            Reads.plain (reads_boolean scope.wildcardNamespaces)
              (Reads.plain (reads_boolean scope.wildcardDestinations)
                (Reads.plain (reads_boolean scope.wildcardRouteClasses)
                  (Reads.plain (reads_boolean scope.administrativeOverride) (Reads.pure scope)))))
  constructor
  · rintro ⟨fabric, ⟨namespaceBound, namespaces⟩, ⟨destinationBound, destinations⟩,
      ⟨classBound, -⟩, -⟩
    exact ⟨fabric, namespaceBound, namespaces, destinationBound, destinations, classBound⟩
  · rintro ⟨fabric, namespaceBound, namespaces, destinationBound, destinations, classBound⟩
    exact ⟨fabric, ⟨namespaceBound, namespaces⟩, ⟨destinationBound, destinations⟩,
      ⟨classBound, fun _ _ => trivial⟩, trivial⟩

end PublisherScope

structure RegisterPublisherRequest.Acceptable (message : RegisterPublisherRequest) (limits : Limits) :
    Prop where
  context : message.context.Storable
  scope : message.scope.Acceptable limits

theorem RegisterPublisherRequest.reads {message : RegisterPublisherRequest} (limits : Limits)
    (fits : ((codec limits).write message).length < 2 ^ 32) :
    Reads (codec limits).read ((codec limits).write message) (message.Acceptable limits) message := by
  have scope : message.scope.write.length < 2 ^ 32 := (length_le_flatten (by simp)).trans_lt fits
  refine Reads.restate ?_
    (Reads.field ((RequestContext.reads (RequestContext.length_publisher fits)).because _) fun _ =>
      Reads.field ((PublisherScope.reads limits scope).because _) fun _ => Reads.pure message)
  constructor
  · rintro ⟨context, scope, -⟩
    exact ⟨context, scope⟩
  · rintro ⟨context, scope⟩
    exact ⟨context, scope, trivial⟩

structure RegisterPublisherResult.Acceptable (message : RegisterPublisherResult) : Prop where
  detail : message.detail.length ≤ maxDiagnosticChars
  epoch : message.epoch.value ≤ CounterId.maxValue

theorem RegisterPublisherResult.reads {message : RegisterPublisherResult}
    (fits : (codec.write message).length < 2 ^ 32) :
    Reads codec.read (codec.write message) message.Acceptable message := by
  refine Reads.restate ?_
    (Reads.field ((WireStatus.reads (WireStatus.length_detail fits)).because _) fun _ =>
      Reads.field ((CounterId.reads_optionalCounter message.epoch).because _) fun _ => Reads.pure message)
  constructor
  · rintro ⟨detail, epoch, -⟩
    exact ⟨detail, epoch⟩
  · rintro ⟨detail, epoch⟩
    exact ⟨detail, epoch, trivial⟩

/-! ## Publications and mutations -/

structure PublishRouteRequest.Acceptable (message : PublishRouteRequest) (limits : Limits) : Prop where
  context : message.context.Storable
  key : message.key.Storable limits.maxDestinationChars
  binding : message.binding.Storable
  policyGeneration : message.policyGeneration.Storable
  expectedGeneration : message.expectedGeneration.value ≤ CounterId.maxValue
  reason : message.reason.length ≤ maxDiagnosticChars

theorem PublishRouteRequest.reads {message : PublishRouteRequest} (limits : Limits)
    (fits : ((codec limits).write message).length < 2 ^ 32) :
    Reads (codec limits).read ((codec limits).write message) (message.Acceptable limits) message := by
  have key : message.key.write.length < 2 ^ 32 := (length_le_flatten (by simp)).trans_lt fits
  have reason : message.reason.length < 2 ^ 32 := length_lt_of_field (by simp) fits
  refine Reads.restate ?_
    (Reads.field ((RequestContext.reads (RequestContext.length_publisher fits)).because _) fun _ =>
      Reads.field ((RouteKey.reads (RouteKey.measured_of_length key) _).because _) fun _ =>
        Reads.field ((RouteBinding.reads message.binding).because _) fun _ =>
          Reads.field ((CounterId.reads message.policyGeneration).because _) fun _ =>
            Reads.field ((CounterId.reads_optionalCounter message.expectedGeneration).because _) fun _ =>
              Reads.plain ((FixedId.reads_optional message.lineage).because _)
                (((Reads.string reason maxDiagnosticChars).because _).last fun _ => Reads.pure message))
  constructor
  · rintro ⟨context, key, binding, policy, expected, reason, -⟩
    exact ⟨context, key, binding, policy, expected, reason⟩
  · rintro ⟨context, key, binding, policy, expected, reason⟩
    exact ⟨context, key, binding, policy, expected, reason, trivial⟩

structure PublishRouteResult.Acceptable (message : PublishRouteResult) : Prop where
  detail : message.detail.length ≤ maxDiagnosticChars
  generation : message.generation.value ≤ CounterId.maxValue
  authorityGeneration : message.authorityGeneration.value ≤ CounterId.maxValue

theorem PublishRouteResult.reads {message : PublishRouteResult}
    (fits : (codec.write message).length < 2 ^ 32) :
    Reads codec.read (codec.write message) message.Acceptable message := by
  refine Reads.restate ?_
    (Reads.field ((WireStatus.reads (WireStatus.length_detail fits)).because _) fun _ =>
      Reads.plain ((FixedId.reads_optional message.route).because _)
        (Reads.field ((CounterId.reads_optionalCounter message.generation).because _) fun _ =>
          Reads.field ((CounterId.reads_optionalCounter message.authorityGeneration).because _) fun _ =>
            Reads.plain ((reads_code message.lifecycle).because _)
              (Reads.plain ((reads_code message.applied).because _)
                (Reads.plain ((reads_code message.currentness).because _)
                  (((Reads.known message.lifecycle).because _).silent fun _ =>
                    ((Reads.known message.applied).because _).silent fun _ =>
                      ((Reads.known message.currentness).because _).silent fun _ =>
                        Reads.plain ((reads_boolean message.idempotent).because _)
                          (Reads.plain ((reads_boolean message.replaced).because _)
                            (Reads.pure message)))))))
  constructor
  · rintro ⟨detail, generation, authorityGeneration, -⟩
    exact ⟨detail, generation, authorityGeneration⟩
  · rintro ⟨detail, generation, authorityGeneration⟩
    exact ⟨detail, generation, authorityGeneration, trivial, trivial, trivial, trivial⟩

structure RouteMutationRequest.Acceptable (message : RouteMutationRequest) : Prop where
  context : message.context.Storable
  expectedGeneration : message.expectedGeneration.value ≤ CounterId.maxValue
  reason : message.reason.length ≤ maxDiagnosticChars

theorem RouteMutationRequest.reads {message : RouteMutationRequest}
    (fits : (codec.write message).length < 2 ^ 32) :
    Reads codec.read (codec.write message) message.Acceptable message := by
  have reason : message.reason.length < 2 ^ 32 := length_lt_of_field (by simp) fits
  refine Reads.restate ?_
    (Reads.field ((RequestContext.reads (RequestContext.length_publisher fits)).because _) fun _ =>
      Reads.plain ((FixedId.reads_optional message.route).because _)
        (Reads.field ((CounterId.reads_optionalCounter message.expectedGeneration).because _) fun _ =>
          ((Reads.string reason maxDiagnosticChars).because _).last fun _ => Reads.pure message))
  constructor
  · rintro ⟨context, expected, reason, -⟩
    exact ⟨context, expected, reason⟩
  · rintro ⟨context, expected, reason⟩
    exact ⟨context, expected, reason, trivial⟩

structure RouteMutationResult.Acceptable (message : RouteMutationResult) : Prop where
  detail : message.detail.length ≤ maxDiagnosticChars
  generation : message.generation.value ≤ CounterId.maxValue

theorem RouteMutationResult.reads {message : RouteMutationResult}
    (fits : (codec.write message).length < 2 ^ 32) :
    Reads codec.read (codec.write message) message.Acceptable message := by
  refine Reads.restate ?_
    (Reads.field ((WireStatus.reads (WireStatus.length_detail fits)).because _) fun _ =>
      Reads.plain ((FixedId.reads_optional message.route).because _)
        (Reads.field ((CounterId.reads_optionalCounter message.generation).because _) fun _ =>
          Reads.plain ((reads_code message.lifecycle).because _)
            (Reads.plain ((reads_code message.applied).because _)
              (((Reads.known message.lifecycle).because _).silent fun _ =>
                ((Reads.known message.applied).because _).silent fun _ =>
                  Reads.plain ((reads_boolean message.alreadyWithdrawn).because _)
                    (Reads.plain ((reads_boolean message.withdrawalInFlight).because _)
                      (Reads.pure message))))))
  constructor
  · rintro ⟨detail, generation, -⟩
    exact ⟨detail, generation⟩
  · rintro ⟨detail, generation⟩
    exact ⟨detail, generation, trivial, trivial, trivial⟩

/-! ### Answers of any length

A detail that is too long for its answer is refused, whatever became of its length prefix. -/

theorem WireStatus.canonical_short :
    Canonical read write fun answer => answer.detail.length ≤ maxDiagnosticChars := by
  refine Consumes.field (Canonical.word 2) fun raw _ => Consumes.guard fun bounded =>
    Consumes.field (Canonical.string maxDiagnosticChars) fun detail short => Consumes.pure ⟨?_, short.1⟩
  simp only [write, StatusCode.code_ofCode raw bounded]
  rfl

theorem decode_short {α : Type} {codec : Codec α} (status : α → WireStatus) {payload : Bytes}
    {message : α}
    (short : Consumes codec.read fun _ message => (status message).detail.length ≤ maxDiagnosticChars)
    (decoded : codec.decode payload = .ok message) :
    (status message).detail.length ≤ maxDiagnosticChars := by
  obtain ⟨image, -, holds⟩ := short payload message [] (Codec.decode_eq_ok.mp decoded)
  exact holds

theorem RegisterPublisherResult.decode_encode (message : RegisterPublisherResult) :
    codec.decode (codec.encode message) = .ok message ↔ message.Acceptable := by
  have reads (short : message.detail.length ≤ maxDiagnosticChars) :
      Reads codec.read (codec.write message) message.Acceptable message := by
    unfold maxDiagnosticChars at short
    refine RegisterPublisherResult.reads ?_
    simp only [codec, WireStatus.write, List.flatten_cons, List.flatten_nil, List.length_append,
      length_leBytes, length_writeString, CounterId.length_writeOptional, List.length_nil]
    omega
  constructor
  · intro decoded
    have short : message.detail.length ≤ maxDiagnosticChars :=
      decode_short RegisterPublisherResult.toWireStatus
        (Consumes.field (WireStatus.canonical_short.because _) fun _ short =>
          Consumes.field (CounterId.canonical_optionalCounter.because _) fun _ _ => Consumes.pure short)
        decoded
    exact (Codec.decode_encode (reads short)).mp decoded
  · intro acceptable
    exact (Codec.decode_encode (reads acceptable.detail)).mpr acceptable

theorem PublishRouteResult.decode_encode (message : PublishRouteResult) :
    codec.decode (codec.encode message) = .ok message ↔ message.Acceptable := by
  have reads (short : message.detail.length ≤ maxDiagnosticChars) :
      Reads codec.read (codec.write message) message.Acceptable message := by
    unfold maxDiagnosticChars at short
    refine PublishRouteResult.reads ?_
    simp only [codec, WireStatus.write, writeBoolean, List.flatten_cons, List.flatten_nil, List.length_append,
      length_leBytes, length_writeString, FixedId.length_write, CounterId.length_writeOptional,
      List.length_singleton, List.length_nil]
    omega
  constructor
  · intro decoded
    have short : message.detail.length ≤ maxDiagnosticChars := by
      refine decode_short PublishRouteResult.toWireStatus ?_ decoded
      refine Consumes.field (WireStatus.canonical_short.because _) fun _ short => ?_
      refine Consumes.field (FixedId.canonical_optional.because _) fun _ _ =>
        Consumes.field (CounterId.canonical_optionalCounter.because _) fun _ _ =>
          Consumes.field (CounterId.canonical_optionalCounter.because _) fun _ _ => ?_
      iterate 3 refine Consumes.field (Canonical.byte.because _) fun _ _ => ?_
      iterate 3 refine Consumes.field ((Canonical.known _).because _) fun _ _ => ?_
      exact Consumes.field (canonical_boolean.because _) fun _ _ =>
        Consumes.field (canonical_boolean.because _) fun _ _ => Consumes.pure short
    exact (Codec.decode_encode (reads short)).mp decoded
  · intro acceptable
    exact (Codec.decode_encode (reads acceptable.detail)).mpr acceptable

theorem RouteMutationResult.decode_encode (message : RouteMutationResult) :
    codec.decode (codec.encode message) = .ok message ↔ message.Acceptable := by
  have reads (short : message.detail.length ≤ maxDiagnosticChars) :
      Reads codec.read (codec.write message) message.Acceptable message := by
    unfold maxDiagnosticChars at short
    refine RouteMutationResult.reads ?_
    simp only [codec, WireStatus.write, writeBoolean, List.flatten_cons, List.flatten_nil, List.length_append,
      length_leBytes, length_writeString, FixedId.length_write, CounterId.length_writeOptional,
      List.length_singleton, List.length_nil]
    omega
  constructor
  · intro decoded
    have short : message.detail.length ≤ maxDiagnosticChars := by
      refine decode_short RouteMutationResult.toWireStatus ?_ decoded
      refine Consumes.field (WireStatus.canonical_short.because _) fun _ short => ?_
      refine Consumes.field (FixedId.canonical_optional.because _) fun _ _ =>
        Consumes.field (CounterId.canonical_optionalCounter.because _) fun _ _ => ?_
      iterate 2 refine Consumes.field (Canonical.byte.because _) fun _ _ => ?_
      iterate 2 refine Consumes.field ((Canonical.known _).because _) fun _ _ => ?_
      exact Consumes.field (canonical_boolean.because _) fun _ _ =>
        Consumes.field (canonical_boolean.because _) fun _ _ => Consumes.pure short
    exact (Codec.decode_encode (reads short)).mp decoded
  · intro acceptable
    exact (Codec.decode_encode (reads acceptable.detail)).mpr acceptable

/-! ## Queries and snapshots -/

structure QueryRouteRequest.Acceptable (message : QueryRouteRequest) (limits : Limits) : Prop where
  key : message.key.Storable limits.maxDestinationChars

theorem QueryRouteRequest.reads {message : QueryRouteRequest} (limits : Limits)
    (fits : ((codec limits).write message).length < 2 ^ 32) :
    Reads (codec limits).read ((codec limits).write message) (message.Acceptable limits) message := by
  have key : message.key.write.length < 2 ^ 32 := (length_le_flatten (by simp)).trans_lt fits
  refine Reads.restate ?_
    (Reads.plain ((reads_boolean message.byKey).because _)
      (Reads.field ((RouteKey.reads (RouteKey.measured_of_length key) _).because _) fun _ =>
        Reads.plain ((FixedId.reads_optional message.route).because _) (Reads.pure message)))
  exact ⟨fun accepted => ⟨accepted.1⟩, fun acceptable => ⟨acceptable.key, trivial⟩⟩

/-- A snapshot whose image fits its length prefixes. -/
theorem RouteSnapshot.reads_of_length {snapshot : RouteSnapshot} (limits : Limits)
    (fits : snapshot.write.length < 2 ^ 32) :
    Reads (read limits) snapshot.write (snapshot.Storable limits) snapshot := by
  have record : snapshot.record.write.length < 2 ^ 32 := (length_le_flatten (by simp)).trans_lt fits
  exact RouteSnapshot.reads (RouteRecord.measured_of_length record) limits

structure QueryRouteResult.Acceptable (message : QueryRouteResult) (limits : Limits) : Prop where
  detail : message.detail.length ≤ maxDiagnosticChars
  snapshot : message.snapshot.Storable limits

theorem QueryRouteResult.reads {message : QueryRouteResult} (limits : Limits)
    (fits : ((codec limits).write message).length < 2 ^ 32) :
    Reads (codec limits).read ((codec limits).write message) (message.Acceptable limits) message := by
  have snapshot : message.snapshot.write.length < 2 ^ 32 := (length_le_flatten (by simp)).trans_lt fits
  refine Reads.restate ?_
    (Reads.field ((WireStatus.reads (WireStatus.length_detail fits)).because _) fun _ =>
      Reads.plain ((reads_boolean message.found).because _)
        (Reads.field (RouteSnapshot.reads_of_length limits snapshot) fun _ => Reads.pure message))
  constructor
  · rintro ⟨detail, snapshot, -⟩
    exact ⟨detail, snapshot⟩
  · rintro ⟨detail, snapshot⟩
    exact ⟨detail, snapshot, trivial⟩

structure SnapshotRequest.Acceptable (message : SnapshotRequest) : Prop where
  epoch : message.epoch.value ≤ CounterId.maxValue

theorem SnapshotRequest.reads (message : SnapshotRequest) :
    Reads codec.read (codec.write message) message.Acceptable message := by
  refine Reads.restate ?_
    (Reads.field ((CounterId.reads_optionalCounter message.epoch).because _) fun _ => Reads.pure message)
  exact ⟨fun accepted => ⟨accepted.1⟩, fun acceptable => ⟨acceptable.epoch, trivial⟩⟩

structure SnapshotResponse.Acceptable (message : SnapshotResponse) (limits : Limits) : Prop where
  detail : message.detail.length ≤ maxDiagnosticChars
  epoch : message.epoch.Storable
  snapshotId : message.snapshotId.isValid = true
  bound : message.routes.length ≤ limits.maxSnapshotRoutes
  routes : ∀ snapshot ∈ message.routes, snapshot.Storable limits

theorem SnapshotResponse.reads {message : SnapshotResponse} (limits : Limits)
    (fits : ((codec limits).write message).length < 2 ^ 32) :
    Reads (codec limits).read ((codec limits).write message) (message.Acceptable limits) message := by
  have images : (message.routes.flatMap RouteSnapshot.write).length < 2 ^ 32 := by
    have whole : (writeList RouteSnapshot.write message.routes).length < 2 ^ 32 :=
      (length_le_flatten (by simp)).trans_lt fits
    rw [length_writeList] at whole
    omega
  have count : message.routes.length < 2 ^ 32 :=
    (length_le_flatMap (fun snapshot => by simp [RouteSnapshot.write]; omega) _).trans_lt images
  have each : ∀ snapshot ∈ message.routes,
      Reads (RouteSnapshot.read limits) snapshot.write (snapshot.Storable limits) snapshot :=
    fun snapshot member =>
      RouteSnapshot.reads_of_length limits ((length_write_le member).trans_lt images)
  refine Reads.restate ?_
    (Reads.field ((WireStatus.reads (WireStatus.length_detail fits)).because _) fun _ =>
      Reads.field ((CounterId.reads message.epoch).because _) fun _ =>
        Reads.field ((FixedId.reads message.snapshotId).because _) fun _ =>
          Reads.plain ((reads_digest message.digest).because _)
            ((Reads.listOf count _ _ _ each).last fun _ => Reads.pure message))
  constructor
  · rintro ⟨detail, epoch, snapshotId, ⟨bound, routes⟩, -⟩
    exact ⟨detail, epoch, snapshotId, bound, routes⟩
  · rintro ⟨detail, epoch, snapshotId, bound, routes⟩
    exact ⟨detail, epoch, snapshotId, ⟨bound, routes⟩, trivial⟩

/-! ## Backend state, fences and errors -/

theorem BackendCapabilities.reads (capabilities : BackendCapabilities) :
    Reads read capabilities.write True capabilities :=
  Reads.plain (reads_boolean capabilities.install)
    (Reads.plain (reads_boolean capabilities.replace)
      (Reads.plain (reads_boolean capabilities.withdraw)
        (Reads.plain (reads_boolean capabilities.query)
          (Reads.plain (reads_boolean capabilities.readOnly) (Reads.pure capabilities)))))

namespace BackendStateMessage

/-- A message without evidence leaves the fields of the evidence unset: they are not sent. -/
def Counted (message : BackendStateMessage) : Prop :=
  message.evidenceIncluded = false →
    message.key = {} ∧ message.presence = .unknown ∧ message.evidence = []

structure Acceptable (message : BackendStateMessage) (limits : Limits) : Prop where
  detail : message.detail.length ≤ maxDiagnosticChars
  backend : message.backend.isValid = true
  key : message.evidenceIncluded = true → message.key.Storable limits.maxDestinationChars
  evidence : message.evidenceIncluded = true → message.evidence.length ≤ maxDiagnosticChars

theorem reads {message : BackendStateMessage} (limits : Limits)
    (fits : ((codec limits).write message).length < 2 ^ 32) (counted : message.Counted) :
    Reads (codec limits).read ((codec limits).write message) (message.Acceptable limits) message := by
  have backend : message.backend.value.length < 2 ^ 32 := length_lt_of_field (by simp [TokenId.write]) fits
  obtain ⟨status, backendId, capabilities, evidenceIncluded, key, presence, evidence⟩ := message
  cases evidenceIncluded with
  | false =>
      obtain ⟨rfl, rfl, rfl⟩ := counted rfl
      refine Reads.restate ?_
        (Reads.field ((WireStatus.reads (WireStatus.length_detail fits)).because _) fun _ =>
          Reads.field ((TokenId.reads backend).because _) fun _ =>
            Reads.plain ((BackendCapabilities.reads capabilities).because _)
              (Reads.plain ((reads_boolean false).because _) (Reads.pure _)))
      constructor
      · rintro ⟨detail, valid, -⟩
        exact ⟨detail, valid, fun included => (Bool.false_ne_true included).elim,
          fun included => (Bool.false_ne_true included).elim⟩
      · rintro ⟨detail, valid, -, -⟩
        exact ⟨detail, valid, trivial⟩
  | true =>
      have sent : [key.write, [Enumerated.code presence], writeString evidence].flatten.length < 2 ^ 32 :=
        (length_le_flatten (by simp)).trans_lt fits
      have keyed : key.write.length < 2 ^ 32 := (length_le_flatten (by simp)).trans_lt sent
      have text : evidence.length < 2 ^ 32 := length_lt_of_field (by simp) sent
      have rest : Reads (do
          let key ← because "malformed backend state route key" (RouteKey.read limits.maxDestinationChars)
          let presence ← because "malformed backend presence" byte
          let presence ← because "unknown backend presence value" (known presence)
          let evidence ← because "malformed backend evidence text" (string maxDiagnosticChars)
          pure { toWireStatus := status, backend := backendId, capabilities, evidenceIncluded := true,
                 key, presence, evidence })
          [key.write, [Enumerated.code presence], writeString evidence].flatten _
          ({ toWireStatus := status, backend := backendId, capabilities, evidenceIncluded := true,
             key, presence, evidence } : BackendStateMessage) :=
        Reads.field ((RouteKey.reads (RouteKey.measured_of_length keyed) _).because _) fun _ =>
          Reads.plain ((reads_code presence).because _)
            (((Reads.known presence).because _).silent fun _ =>
              ((Reads.string text maxDiagnosticChars).because _).last fun _ => Reads.pure _)
      refine Reads.restate ?_
        (Reads.field ((WireStatus.reads (WireStatus.length_detail fits)).because _) fun _ =>
          Reads.field ((TokenId.reads backend).because _) fun _ =>
            Reads.plain ((BackendCapabilities.reads capabilities).because _)
              (Reads.plain ((reads_boolean true).because _)
                (by simpa only [List.flatten_cons, List.flatten_nil, List.append_nil, if_true] using rest)))
      constructor
      · rintro ⟨detail, valid, keyed, -, short, -⟩
        exact ⟨detail, valid, fun _ => keyed, fun _ => short⟩
      · rintro ⟨detail, valid, keyed, short⟩
        exact ⟨detail, valid, keyed rfl, trivial, short rfl, trivial⟩

end BackendStateMessage

structure FenceNotice.Acceptable (message : FenceNotice) : Prop where
  publisher : message.publisher.isValid = true
  workerBoot : message.workerBoot.isValid = true
  epoch : message.epoch.Storable

theorem FenceNotice.reads {message : FenceNotice} (fits : (codec.write message).length < 2 ^ 32) :
    Reads codec.read (codec.write message) message.Acceptable message := by
  have publisher : message.publisher.value.length < 2 ^ 32 :=
    length_lt_of_field (by simp [TokenId.write]) fits
  refine Reads.restate ?_
    (Reads.field ((TokenId.reads publisher).because _) fun _ =>
      Reads.field ((FixedId.reads message.workerBoot).because _) fun _ =>
        Reads.plain ((reads_code message.reason).because _)
          (((Reads.known message.reason).because _).silent fun _ =>
            Reads.field ((CounterId.reads message.epoch).because _) fun _ => Reads.pure message))
  constructor
  · rintro ⟨publisher, workerBoot, -, epoch, -⟩
    exact ⟨publisher, workerBoot, epoch⟩
  · rintro ⟨publisher, workerBoot, epoch⟩
    exact ⟨publisher, workerBoot, trivial, epoch, trivial⟩

structure ErrorMessage.Acceptable (message : ErrorMessage) : Prop where
  detail : message.detail.length ≤ maxDiagnosticChars

theorem ErrorMessage.reads {message : ErrorMessage} (fits : (codec.write message).length < 2 ^ 32) :
    Reads codec.read (codec.write message) message.Acceptable message := by
  refine Reads.restate ?_
    (Reads.field ((WireStatus.reads (WireStatus.length_detail fits)).because _) fun _ => Reads.pure message)
  exact ⟨fun accepted => ⟨accepted.1⟩, fun acceptable => ⟨acceptable.detail, trivial⟩⟩

/-! ## Reconciliation, epochs and completions -/

structure ReconcileRequest.Acceptable (message : ReconcileRequest) : Prop where
  context : message.context.Storable

theorem ReconcileRequest.reads {message : ReconcileRequest} (fits : (codec.write message).length < 2 ^ 32) :
    Reads codec.read (codec.write message) message.Acceptable message := by
  refine Reads.restate ?_
    (Reads.field ((RequestContext.reads (RequestContext.length_publisher fits)).because _) fun _ =>
      Reads.plain ((reads_boolean message.all).because _)
        (Reads.plain ((FixedId.reads_optional message.route).because _) (Reads.pure message)))
  exact ⟨fun accepted => ⟨accepted.1⟩, fun acceptable => ⟨acceptable.context, trivial⟩⟩

structure ReconciliationSummary.Counted (summary : ReconciliationSummary) : Prop where
  checked : summary.checked < 2 ^ 64
  matched : summary.matched < 2 ^ 64
  missing : summary.missing < 2 ^ 64
  diverged : summary.diverged < 2 ^ 64
  extra : summary.extra < 2 ^ 64
  unavailable : summary.unavailable < 2 ^ 64

theorem ReconciliationSummary.reads {summary : ReconciliationSummary} (counted : summary.Counted) :
    Reads read summary.write True summary :=
  Reads.plain (reads_word8 counted.checked)
    (Reads.plain (reads_word8 counted.matched)
      (Reads.plain (reads_word8 counted.missing)
        (Reads.plain (reads_word8 counted.diverged)
          (Reads.plain (reads_word8 counted.extra)
            (Reads.plain (reads_word8 counted.unavailable) (Reads.pure summary))))))

def ReconcileResult.Counted (message : ReconcileResult) : Prop := message.summary.Counted

structure ReconcileResult.Acceptable (message : ReconcileResult) : Prop where
  detail : message.detail.length ≤ maxDiagnosticChars

theorem ReconcileResult.reads {message : ReconcileResult} (fits : (codec.write message).length < 2 ^ 32)
    (counted : message.Counted) : Reads codec.read (codec.write message) message.Acceptable message := by
  refine Reads.restate ?_
    (Reads.field ((WireStatus.reads (WireStatus.length_detail fits)).because _) fun _ =>
      Reads.plain ((reads_code message.classification).because _)
        (((Reads.known message.classification).because _).silent fun _ =>
          Reads.plain ((ReconciliationSummary.reads counted).because _) (Reads.pure message)))
  exact ⟨fun accepted => ⟨accepted.1⟩, fun acceptable => ⟨acceptable.detail, trivial, trivial⟩⟩

structure EpochResult.Acceptable (message : EpochResult) : Prop where
  detail : message.detail.length ≤ maxDiagnosticChars
  epoch : message.epoch.value ≤ CounterId.maxValue

theorem EpochResult.reads {message : EpochResult} (fits : (codec.write message).length < 2 ^ 32) :
    Reads codec.read (codec.write message) message.Acceptable message := by
  refine Reads.restate ?_
    (Reads.field ((WireStatus.reads (WireStatus.length_detail fits)).because _) fun _ =>
      Reads.field ((CounterId.reads_optionalCounter message.epoch).because _) fun _ => Reads.pure message)
  constructor
  · rintro ⟨detail, epoch, -⟩
    exact ⟨detail, epoch⟩
  · rintro ⟨detail, epoch⟩
    exact ⟨detail, epoch, trivial⟩

structure ApplyCompletionRequest.Acceptable (message : ApplyCompletionRequest) : Prop where
  context : message.context.Storable
  attempt : message.completion.attempt.isValid = true
  detail : message.completion.detail.length ≤ maxDiagnosticChars

theorem ApplyCompletionRequest.reads {message : ApplyCompletionRequest}
    (fits : (codec.write message).length < 2 ^ 32) :
    Reads codec.read (codec.write message) message.Acceptable message := by
  have detail : message.completion.detail.length < 2 ^ 32 := length_lt_of_field (by simp) fits
  refine Reads.restate ?_
    (Reads.field ((RequestContext.reads (RequestContext.length_publisher fits)).because _) fun _ =>
      Reads.field ((FixedId.reads message.completion.attempt).because _) fun _ =>
        Reads.plain ((reads_code message.completion.outcome).because _)
          (((Reads.known message.completion.outcome).because _).silent fun _ =>
            ((Reads.string detail maxDiagnosticChars).because _).last fun _ => Reads.pure message))
  constructor
  · rintro ⟨context, attempt, -, detail, -⟩
    exact ⟨context, attempt, detail⟩
  · rintro ⟨context, attempt, detail⟩
    exact ⟨context, attempt, trivial, detail, trivial⟩

structure ApplyCompletionResult.Acceptable (message : ApplyCompletionResult) : Prop where
  detail : message.detail.length ≤ maxDiagnosticChars

theorem ApplyCompletionResult.reads {message : ApplyCompletionResult}
    (fits : (codec.write message).length < 2 ^ 32) :
    Reads codec.read (codec.write message) message.Acceptable message := by
  refine Reads.restate ?_
    (Reads.field ((WireStatus.reads (WireStatus.length_detail fits)).because _) fun _ =>
      Reads.plain ((reads_code message.disposition).because _)
        (((Reads.known message.disposition).because _).silent fun _ => Reads.pure message))
  exact ⟨fun accepted => ⟨accepted.1⟩, fun acceptable => ⟨acceptable.detail, trivial, trivial⟩⟩

/-! ## Statistics -/

/-- The numbers of a counter block, in the order of the wire. -/
def RouteCounters.numbers (counters : RouteCounters) : List Nat :=
  [counters.publications, counters.replacements, counters.idempotentPublications, counters.withdrawals,
    counters.revalidations, counters.retirements, counters.revocations, counters.supersessions,
    counters.programmingDispatches, counters.programmingDeferred, counters.programmingApplied,
    counters.programmingAmbiguous, counters.programmingLifecycleRejected,
    counters.staleCompletionsRejected, counters.staleAuthorityRejections, counters.scopeViolations,
    counters.pathAuthorityRejections, counters.conflicts, counters.reconciliations]

def RouteCounters.Counted (counters : RouteCounters) : Prop :=
  ∀ number ∈ counters.numbers, number < 2 ^ 64

theorem RouteCounters.reads {counters : RouteCounters} (counted : counters.Counted) :
    Reads read counters.write True counters := by
  have word : ∀ number ∈ counters.numbers, Reads (word 8) (leBytes 8 number) True number :=
    fun number member => reads_word8 (counted number member)
  simp only [numbers, List.forall_mem_cons] at word
  obtain ⟨publications, replacements, idempotent, withdrawals, revalidations, retirements, revocations,
    supersessions, dispatches, deferred, applied, ambiguous, rejected, stale, authority, scope, path,
    conflicts, reconciliations, -⟩ := word
  unfold read
  refine Reads.plain publications (Reads.plain replacements (Reads.plain idempotent
    (Reads.plain withdrawals (Reads.plain revalidations (Reads.plain retirements
      (Reads.plain revocations (Reads.plain supersessions (Reads.plain dispatches
        (Reads.plain deferred (Reads.plain applied (Reads.plain ambiguous (Reads.plain rejected
          (Reads.plain stale (Reads.plain authority (Reads.plain scope (Reads.plain path
            (Reads.plain conflicts (Reads.plain reconciliations ?_))))))))))))))))))
  exact Reads.pure counters

/-- The numbers of a statistics message but for its counter block. -/
def StatisticsResult.numbers (message : StatisticsResult) : List Nat :=
  [message.routeCount, message.installedCount, message.currentCount, message.revalidationRequiredCount,
    message.withdrawnCount, message.retiredCount, message.failedCount, message.supersededCount,
    message.publisherCount, message.pathDependencyCount, message.outstandingProgrammingCount,
    message.revocationCount, message.routingNamespaceCount]

structure StatisticsResult.Counted (message : StatisticsResult) : Prop where
  numbers : ∀ number ∈ message.numbers, number < 2 ^ 64
  counters : message.counters.Counted

structure StatisticsResult.Acceptable (message : StatisticsResult) : Prop where
  detail : message.detail.length ≤ maxDiagnosticChars
  epoch : message.epoch.Storable

theorem StatisticsResult.reads {message : StatisticsResult} (fits : (codec.write message).length < 2 ^ 32)
    (counted : message.Counted) : Reads codec.read (codec.write message) message.Acceptable message := by
  have word : ∀ number ∈ message.numbers, Reads (because "malformed statistics counters" (word 8))
      (leBytes 8 number) True number :=
    fun number member => (reads_word8 (counted.numbers number member)).because _
  simp only [numbers, List.forall_mem_cons] at word
  obtain ⟨routes, installed, current, revalidation, withdrawn, retired, failed, superseded, publishers,
    paths, outstanding, revocations, namespaces, -⟩ := word
  refine Reads.restate ?_
    (Reads.field ((WireStatus.reads (WireStatus.length_detail fits)).because _) fun _ =>
      Reads.field ((CounterId.reads message.epoch).because _) fun _ =>
        Reads.plain ((reads_digest message.stateDigest).because _)
          (Reads.plain routes (Reads.plain installed (Reads.plain current (Reads.plain revalidation
            (Reads.plain withdrawn (Reads.plain retired (Reads.plain failed (Reads.plain superseded
              (Reads.plain publishers (Reads.plain paths (Reads.plain outstanding
                (Reads.plain revocations (Reads.plain namespaces
                  (Reads.plain ((RouteCounters.reads counted.counters).because _)
                    (Reads.pure message))))))))))))))))
  constructor
  · rintro ⟨detail, epoch, -⟩
    exact ⟨detail, epoch⟩
  · rintro ⟨detail, epoch⟩
    exact ⟨detail, epoch, trivial⟩

/-! ## Explanations -/

/-- The texts of an explanation, in the order of the wire. -/
def RouteExplanation.texts (explanation : RouteExplanation) : List Bytes :=
  [explanation.authorityReason, explanation.currentnessReason, explanation.lifecycleReason,
    explanation.pathAuthorityReason, explanation.backendReason, explanation.reconciliationReason,
    explanation.supersessionReason, explanation.retirementReason]

structure RouteExplanation.Acceptable (explanation : RouteExplanation) (limits : Limits) : Prop where
  snapshot : explanation.snapshot.Storable limits
  texts : ∀ text ∈ explanation.texts, text.length ≤ maxReasonChars

theorem RouteExplanation.reads {explanation : RouteExplanation} (limits : Limits)
    (fits : explanation.write.length < 2 ^ 32) :
    Reads (read limits) explanation.write (explanation.Acceptable limits) explanation := by
  have snapshot : explanation.snapshot.write.length < 2 ^ 32 := (length_le_flatten (by simp)).trans_lt fits
  have text : ∀ text ∈ explanation.texts,
      Reads (because "malformed explanation text" (string maxReasonChars)) (writeString text)
        (text.length ≤ maxReasonChars) text := by
    intro text member
    have field : writeString text ∈ [explanation.snapshot.write, writeBoolean explanation.authoritative,
        writeString explanation.authorityReason, writeString explanation.currentnessReason,
        writeString explanation.lifecycleReason, writeString explanation.pathAuthorityReason,
        writeString explanation.backendReason, writeString explanation.reconciliationReason,
        writeString explanation.supersessionReason, writeString explanation.retirementReason] :=
      List.mem_cons_of_mem _ (List.mem_cons_of_mem _ (List.mem_map_of_mem member))
    exact (Reads.string (length_lt_of_field field fits) _).because _
  simp only [texts, List.forall_mem_cons] at text
  obtain ⟨authority, currentness, lifecycle, path, backend, reconciliation, supersession, retirement,
    -⟩ := text
  refine Reads.restate ?_
    (Reads.field (RouteSnapshot.reads_of_length limits snapshot) fun _ =>
      Reads.plain ((reads_boolean explanation.authoritative).because _)
        (Reads.field authority fun _ => Reads.field currentness fun _ => Reads.field lifecycle fun _ =>
          Reads.field path fun _ => Reads.field backend fun _ => Reads.field reconciliation fun _ =>
            Reads.field supersession fun _ => Reads.field retirement fun _ => Reads.pure explanation))
  constructor
  · rintro ⟨snapshot, texts⟩
    exact ⟨snapshot, by simpa [RouteExplanation.texts] using texts⟩
  · rintro ⟨snapshot, texts⟩
    exact ⟨snapshot, by simpa [RouteExplanation.texts] using texts⟩

structure ExplainRouteResult.Acceptable (message : ExplainRouteResult) (limits : Limits) : Prop where
  detail : message.detail.length ≤ maxDiagnosticChars
  explanation : message.explanation.Acceptable limits

theorem ExplainRouteResult.reads {message : ExplainRouteResult} (limits : Limits)
    (fits : ((codec limits).write message).length < 2 ^ 32) :
    Reads (codec limits).read ((codec limits).write message) (message.Acceptable limits) message := by
  have explanation : message.explanation.write.length < 2 ^ 32 :=
    (length_le_flatten (by simp)).trans_lt fits
  refine Reads.restate ?_
    (Reads.field ((WireStatus.reads (WireStatus.length_detail fits)).because _) fun _ =>
      Reads.plain ((reads_boolean message.found).because _)
        (Reads.field (RouteExplanation.reads limits explanation) fun _ => Reads.pure message))
  constructor
  · rintro ⟨detail, explanation, -⟩
    exact ⟨detail, explanation⟩
  · rintro ⟨detail, explanation⟩
    exact ⟨detail, explanation, trivial⟩

/-! ## All message types -/

namespace MessageType

/-- What the types of the source promise of a message. -/
def Counted : (type : MessageType) → type.Message → Prop
  | helloRequest, message => HelloRequest.Counted message
  | helloResult, message => HelloResult.Counted message
  | backendStateMessage, message => BackendStateMessage.Counted message
  | reconcileResult, message => ReconcileResult.Counted message
  | statisticsResult, message => StatisticsResult.Counted message
  | _, _ => True

/-- The messages that the reader of a type accepts. -/
def Acceptable (limits : Limits) : (type : MessageType) → type.Message → Prop
  | helloRequest, message => HelloRequest.Acceptable message
  | helloResult, message => HelloResult.Acceptable message
  | registerPublisherRequest, message => RegisterPublisherRequest.Acceptable message limits
  | registerPublisherResult, message => RegisterPublisherResult.Acceptable message
  | publishRouteRequest, message => PublishRouteRequest.Acceptable message limits
  | publishRouteResult, message => PublishRouteResult.Acceptable message
  | routeMutationRequest, message => RouteMutationRequest.Acceptable message
  | routeMutationResult, message => RouteMutationResult.Acceptable message
  | queryRouteRequest, message => QueryRouteRequest.Acceptable message limits
  | queryRouteResult, message => QueryRouteResult.Acceptable message limits
  | snapshotRequest, message => SnapshotRequest.Acceptable message
  | snapshotResponse, message => SnapshotResponse.Acceptable message limits
  | backendStateMessage, message => BackendStateMessage.Acceptable message limits
  | fenceNotice, message => FenceNotice.Acceptable message
  | errorMessage, message => ErrorMessage.Acceptable message
  | reconcileRequest, message => ReconcileRequest.Acceptable message
  | reconcileResult, message => ReconcileResult.Acceptable message
  | epochResult, message => EpochResult.Acceptable message
  | statisticsResult, message => StatisticsResult.Acceptable message
  | applyCompletionRequest, message => ApplyCompletionRequest.Acceptable message
  | applyCompletionResult, message => ApplyCompletionResult.Acceptable message
  | explainRouteResult, message => ExplainRouteResult.Acceptable message limits

theorem reads (type : MessageType) (limits : Limits) {message : type.Message}
    (fits : ((type.codec limits).write message).length < 2 ^ 32) (counted : type.Counted message) :
    Reads (type.codec limits).read ((type.codec limits).write message) (type.Acceptable limits message)
      message := by
  cases type with
  | helloRequest => exact HelloRequest.reads fits counted
  | helloResult => exact HelloResult.reads fits counted
  | registerPublisherRequest => exact RegisterPublisherRequest.reads limits fits
  | registerPublisherResult => exact RegisterPublisherResult.reads fits
  | publishRouteRequest => exact PublishRouteRequest.reads limits fits
  | publishRouteResult => exact PublishRouteResult.reads fits
  | routeMutationRequest => exact RouteMutationRequest.reads fits
  | routeMutationResult => exact RouteMutationResult.reads fits
  | queryRouteRequest => exact QueryRouteRequest.reads limits fits
  | queryRouteResult => exact QueryRouteResult.reads limits fits
  | snapshotRequest => exact SnapshotRequest.reads message
  | snapshotResponse => exact SnapshotResponse.reads limits fits
  | backendStateMessage => exact BackendStateMessage.reads limits fits counted
  | fenceNotice => exact FenceNotice.reads fits
  | errorMessage => exact ErrorMessage.reads fits
  | reconcileRequest => exact ReconcileRequest.reads fits
  | reconcileResult => exact ReconcileResult.reads fits counted
  | epochResult => exact EpochResult.reads fits
  | statisticsResult => exact StatisticsResult.reads fits counted
  | applyCompletionRequest => exact ApplyCompletionRequest.reads fits
  | applyCompletionResult => exact ApplyCompletionResult.reads fits
  | explainRouteResult => exact ExplainRouteResult.reads limits fits

end MessageType

/-- A message survives the way over the wire exactly when its reader accepts it; the encoding of any
other message is refused, and never taken for a different one. -/
theorem decode_encode_iff (type : MessageType) (limits : Limits) (message : type.Message)
    (fits : ((type.codec limits).encode message).length < 2 ^ 32) (counted : type.Counted message) :
    ((type.codec limits).decode ((type.codec limits).encode message) = .ok message ↔
        type.Acceptable limits message) ∧
      ∀ other, (type.codec limits).decode ((type.codec limits).encode message) = .ok other →
        other = message := by
  have reads := type.reads limits fits counted
  refine ⟨Codec.decode_encode reads, fun other decoded => ?_⟩
  by_cases acceptable : type.Acceptable limits message
  · rw [(Codec.decode_encode reads).mpr acceptable] at decoded
    exact (Except.ok.inj decoded).symm
  · obtain ⟨why, refused⟩ := Codec.decode_encode_error reads acceptable
    rw [refused] at decoded
    cases decoded

/-- The answer to a first publication is decoded to itself. -/
theorem decode_encode_published : (MessageType.codec {} .publishRouteResult).decode
    ((MessageType.codec {} .publishRouteResult).encode
      { route := ⟨7⟩, generation := .one, authorityGeneration := .one, lifecycle := .ready,
        applied := .pending, currentness := .current }) =
      .ok { route := ⟨7⟩, generation := .one, authorityGeneration := .one, lifecycle := .ready,
            applied := .pending, currentness := .current } :=
  (decode_encode_iff .publishRouteResult {} _ (by decide) trivial).1.mpr
    ⟨by decide, by decide, by decide⟩

end RouteFabric
