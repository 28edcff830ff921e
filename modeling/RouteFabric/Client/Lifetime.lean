import RouteFabric.Client.Queries

/-!
# The lifetime of a client

A client makes its calls one after the other. Whatever the peer answers, they leave its identity and its
bounds alone, and the epoch that a handshake or a registration teaches it is one that it can send
(`run_kept`). A client that is not connected asks nothing.
-/

namespace RouteFabric

open ByteReader Run

/-! ## Calls -/

/-- What is called on a client. -/
inductive ClientCall where
  | nextAttempt
  | hello (clientName : Bytes)
  | register (scope : PublisherScope)
  | change (change : Change)
  | complete (completion : Impl.ProgrammingCompletion)
  | reconcile (all : Bool) (route : RouteId)
  | query (query : Query)
  | statistics
  | epoch
  | backendState
  | backendStateFor (key : RouteKey)

/-- What a call leaves behind. -/
def Called.left {World α : Type} (called : Called World α) : Client × World := (called.client, called.world)

/-- One call of a client. -/
def ClientCall.perform {World : Type} (peer : Peer World) (call : ClientCall) (held : Client × World) :
    Client × World :=
  match call with
  | .nextAttempt => (held.1.nextAttempt.1, held.2)
  | .hello clientName => (held.1.hello peer held.2 clientName).left
  | .register scope => (held.1.registerPublisher peer held.2 scope).left
  | .change asked => (held.1.ask peer held.2 asked).left
  | .complete completion => (held.1.applyCompletion peer held.2 completion).left
  | .reconcile all route => (held.1.reconcile peer held.2 all route).left
  | .query asked => (held.1.query peer held.2 asked).left
  | .statistics => (held.1.statistics peer held.2).left
  | .epoch => (held.1.epoch peer held.2).left
  | .backendState => (held.1.backendState peer held.2).left
  | .backendStateFor key => (held.1.backendStateFor peer held.2 key).left

/-! ## What the peer can teach a client -/

/-- The epoch in the answer to a handshake is in the range that is read back. -/
theorem HelloResult.decode_epoch {payload : Bytes} {result : HelloResult}
    (decoded : HelloResult.codec.decode payload = .ok result) :
    result.epoch.value ≤ CounterId.maxValue := by
  have reads : Consumes HelloResult.codec.read fun _ result => result.epoch.value ≤ CounterId.maxValue :=
    Consumes.field (WireStatus.canonical.because _) fun _ _ =>
      Consumes.field ((Canonical.word 2).because _) fun _ _ =>
        Consumes.field (Canonical.guard _ _) fun _ _ =>
          Consumes.field (CounterId.canonical.because _) fun _ epoch =>
            Consumes.field (TokenId.canonical.because _) fun _ _ =>
              Consumes.field (TokenId.canonical.because _) fun _ _ =>
                Consumes.field (canonical_boolean.because _) fun _ _ => Consumes.pure epoch.2
  obtain ⟨-, -, bounded⟩ := reads _ _ _ (Codec.decode_eq_ok.mp decoded)
  exact bounded

/-- So is the one in the answer to a registration. -/
theorem RegisterPublisherResult.decode_epoch {payload : Bytes} {result : RegisterPublisherResult}
    (decoded : RegisterPublisherResult.codec.decode payload = .ok result) :
    result.epoch.value ≤ CounterId.maxValue := by
  have reads : Consumes RegisterPublisherResult.codec.read
      fun _ result => result.epoch.value ≤ CounterId.maxValue :=
    Consumes.field (WireStatus.canonical.because _) fun _ _ =>
      Consumes.field (CounterId.canonical_optionalCounter.because _) fun _ epoch => Consumes.pure epoch
  obtain ⟨-, -, bounded⟩ := reads _ _ _ (Codec.decode_eq_ok.mp decoded)
  exact bounded

namespace Client

/-- What calls leave alone of a client, and that its epoch stays one that it can send. -/
structure Kept (before after : Client) : Prop where
  limits : after.limits = before.limits
  connected : after.connected = before.connected
  publisher : after.context.publisher = before.context.publisher
  workerBoot : after.context.workerBoot = before.context.workerBoot
  counted : before.context.epoch.value ≤ CounterId.maxValue → after.context.epoch.value ≤ CounterId.maxValue

theorem Kept.refl (client : Client) : Kept client client := ⟨rfl, rfl, rfl, rfl, fun counted => counted⟩

theorem Kept.trans {first second third : Client} (earlier : Kept first second) (later : Kept second third) :
    Kept first third where
  limits := later.limits.trans earlier.limits
  connected := later.connected.trans earlier.connected
  publisher := later.publisher.trans earlier.publisher
  workerBoot := later.workerBoot.trans earlier.workerBoot
  counted := later.counted ∘ earlier.counted

/-- A call keeps the client, and asks nothing for a client that is not connected. -/
structure Steady {World α : Type} (client : Client) (world : World) (called : Called World α) : Prop where
  kept : Kept client called.client
  apart : client.connected = false → called.world = world ∧ ∃ failure, called.result = .error failure

variable {World α β : Type} {peer : Peer World} {client : Client} {world : World}

/-- An exchange changes what was read, and nothing else of the client. -/
theorem exchange_client {id expected : MessageId} {payload : Bytes} {codec : Codec α} :
    ∃ unread, (exchange peer id expected payload codec client world).client = { client with unread } := by
  unfold exchange
  split
  · exact ⟨client.unread, rfl⟩
  split
  · exact ⟨client.unread, rfl⟩
  · exact ⟨_, rfl⟩

theorem exchange_steady {id expected : MessageId} {payload : Bytes} {codec : Codec α} :
    Steady client world (exchange peer id expected payload codec client world) := by
  constructor
  · obtain ⟨unread, kept⟩ := @exchange_client World α peer client world id expected payload codec
    rw [kept]
    exact ⟨rfl, rfl, rfl, rfl, fun counted => counted⟩
  · intro apart
    have failed : client.sendFrame id payload = makeError .notFound "the client is not connected" := by
      simp only [sendFrame, apart, ensure, Bool.false_eq_true, if_false]
      rfl
    rw [exchange, failed]
    exact ⟨rfl, _, rfl⟩

theorem Steady.guarded {checks : Status} {call : Client → World → Called World α}
    (steady : Steady client world (call client world)) :
    Steady client world (guarded checks call client world) := by
  cases checks with
  | error failure => exact ⟨.refl client, fun _ => ⟨rfl, failure, rfl⟩⟩
  | ok passed => exact steady

theorem Steady.andThen {called : Called World α} {next : α → Expected β} (steady : Steady client world called) :
    Steady client world (called.andThen next) := by
  refine ⟨steady.kept, fun apart => ?_⟩
  obtain ⟨unmoved, failure, failed⟩ := steady.apart apart
  refine ⟨unmoved, failure, ?_⟩
  rw [Called.andThen, failed]
  rfl

/-- What an exchange returns was decoded. -/
theorem exchange_decoded {id expected : MessageId} {payload : Bytes} {codec : Codec α} {answer : α}
    (answered : (exchange peer id expected payload codec client world).result = .ok answer) :
    ∃ received, codec.decode received = .ok answer := by
  unfold exchange at answered
  split at answered
  · cases answered
  split at answered
  · cases answered
  · simp only [readAnswer, bind_eq_ok] at answered
    obtain ⟨frame, -, read⟩ := answered
    split at read
    · rename_i message decoded
      obtain rfl := Except.ok.inj read
      exact ⟨frame.payload, decoded⟩
    · cases read

/-- A call that succeeded was made by a client that is connected. -/
theorem Steady.connected {called : Called World α} (steady : Steady client world called) {answer : α}
    (answered : called.result = .ok answer) : client.connected ≠ false := by
  intro apart
  obtain ⟨-, failure, failed⟩ := steady.apart apart
  cases answered.symm.trans failed

/-- The client takes the epoch over from an answer that it read. -/
theorem Steady.learn {called : Called World α} (steady : Steady client world called) {answer : α}
    (answered : called.result = .ok answer) {epoch : CoordinatorEpoch} (counted : epoch.value ≤ CounterId.maxValue)
    (backend : BackendId) :
    Steady client world { called with
      client := { called.client with context := { called.client.context with epoch }, backend } } :=
  ⟨⟨steady.kept.limits, steady.kept.connected, steady.kept.publisher, steady.kept.workerBoot,
    fun _ => counted⟩, fun apart => absurd apart (steady.connected answered)⟩

theorem hello_steady (clientName : Bytes) : Steady client world (client.hello peer world clientName) := by
  unfold hello
  simp only
  split
  · exact exchange_steady
  · rename_i result answered
    split
    · obtain ⟨received, decoded⟩ := exchange_decoded answered
      exact exchange_steady.learn answered (HelloResult.decode_epoch decoded) result.backend
    · exact exchange_steady

theorem registerPublisher_steady (scope : PublisherScope) :
    Steady client world (client.registerPublisher peer world scope) := by
  unfold registerPublisher
  simp only
  split
  · exact exchange_steady.guarded
  · rename_i result answered
    split
    · have passed := answered
      unfold guarded at passed
      split at passed
      · cases passed
      obtain ⟨received, decoded⟩ := exchange_decoded passed
      exact exchange_steady.guarded.learn answered (RegisterPublisherResult.decode_epoch decoded) _
    · exact exchange_steady.guarded

theorem ask_steady (asked : Change) : Steady client world (client.ask peer world asked) := by
  cases asked with
  | publish => exact exchange_steady.guarded.andThen
  | withdraw | revalidate | retire | revoke => exact exchange_steady.guarded.andThen

theorem query_steady (asked : Query) : Steady client world (client.query peer world asked) := by
  cases asked with
  | routeByKey | routeById => exact exchange_steady.andThen.andThen
  | explanationByKey | explanationById => exact exchange_steady.andThen.andThen
  | snapshot => exact exchange_steady.guarded.andThen.andThen

end Client

/-! ## Runs -/

open Client

/-- What one call leaves of a client, and of the peer of a client that is not connected. -/
theorem ClientCall.perform_kept {World : Type} (peer : Peer World) (call : ClientCall)
    (held : Client × World) :
    Kept held.1 (call.perform peer held).1 ∧
      (held.1.connected = false → (call.perform peer held).2 = held.2) := by
  have steady {α : Type} {called : Called World α} (steady : Steady held.1 held.2 called) :
      Kept held.1 called.left.1 ∧ (held.1.connected = false → called.left.2 = held.2) :=
    ⟨steady.kept, fun apart => (steady.apart apart).1⟩
  cases call with
  | nextAttempt => exact ⟨⟨rfl, rfl, rfl, rfl, fun counted => counted⟩, fun _ => rfl⟩
  | hello clientName => exact steady (hello_steady clientName)
  | register scope => exact steady (registerPublisher_steady scope)
  | change asked => exact steady (ask_steady asked)
  | complete completion => exact steady exchange_steady.guarded.andThen
  | reconcile all route => exact steady exchange_steady.guarded.andThen
  | query asked => exact steady (query_steady asked)
  | statistics => exact steady exchange_steady.andThen
  | epoch => exact steady exchange_steady.andThen
  | backendState => exact steady exchange_steady.guarded.andThen
  | backendStateFor key => exact steady exchange_steady.guarded.andThen

/-- Whatever is called on a client, in whatever order, and whatever its peer answers, the client keeps its
identity and an epoch that it can send; a client that is not connected never reaches its peer. -/
theorem run_kept {World : Type} (peer : Peer World) (calls : List ClientCall) (client : Client)
    (world : World) :
    Kept client (run (ClientCall.perform peer) (client, world) calls).1 ∧
      (client.connected = false → (run (ClientCall.perform peer) (client, world) calls).2 = world) := by
  induction calls generalizing client world with
  | nil => exact ⟨.refl client, fun _ => rfl⟩
  | cons call rest ih =>
      obtain ⟨first, unasked⟩ := call.perform_kept peer (client, world)
      obtain ⟨later, quiet⟩ := ih (call.perform peer (client, world)).1 (call.perform peer (client, world)).2
      refine ⟨first.trans later, fun apart => ?_⟩
      exact (quiet (first.connected.trans apart)).trans (unasked apart)

/-- The attempt of a client is valid from the first time on that it was asked for. -/
theorem Client.nextAttempt_valid (client : Client) :
    client.nextAttempt.1.context.attempt.isValid = true ∧
      client.nextAttempt.1.context.attempt = client.nextAttempt.2 :=
  ⟨generateId_isValid client.ids, rfl⟩

end RouteFabric
