import RouteFabric.Client.Queries

/-!
# Explanations over a session

The texts of an explanation are bounded by what a readable record holds, well below what the readers
take: whoever can read the snapshot of a route can read its explanation (`explain_acceptable_iff`). What
is left to decide whether the explanation arrives is the frame bound of the client, and an explanation
is longer than the snapshot by a bounded number of bytes (`explanation_agrees_iff`).
-/

namespace RouteFabric

open ByteReader OrderedMap Run Impl

/-! ## Lengths of texts -/

/-- A text in parts is no longer than its parts can be. -/
theorem length_flatten_le {parts : List Bytes} {bounds : List Nat}
    (short : List.Forall₂ (fun part bound => part.length ≤ bound) parts bounds) :
    parts.flatten.length ≤ bounds.sum := by
  induction short with
  | nil => exact le_refl _
  | cons part _ ih =>
      rw [List.flatten_cons, List.length_append, List.sum_cons]
      exact Nat.add_le_add part ih

theorem FixedId.length_render {tag : FixedTag} (id : FixedId tag) : id.render.length ≤ 32 := by
  have pairs : ∀ bytes : Bytes, (bytes.flatMap fun byte =>
      asciiBytes (String.ofList [Nat.digitChar (byte.toNat / 16), Nat.digitChar (byte.toNat % 16)])).length =
        2 * bytes.length := by
    intro bytes
    induction bytes with
    | nil => rfl
    | cons byte rest ih =>
        rw [List.flatMap_cons, List.length_append, ih, List.length_cons, length_asciiBytes,
          String.length_ofList]
        simp only [List.length_cons, List.length_nil]
        omega
  rw [FixedId.render, pairs, id.length_write]

theorem CounterId.length_renderBytes {tag : CounterTag} (counter : CounterId tag) :
    counter.renderBytes.length ≤ 20 := by
  rw [CounterId.renderBytes, length_asciiBytes]
  exact counter.length_render

theorem length_orNone {given : Bool} {rendering : Bytes} {bound : Nat} (short : rendering.length ≤ bound)
    (positive : 4 ≤ bound) : (orNone given rendering).length ≤ bound := by
  unfold orNone
  split
  · exact short
  · exact le_trans (by decide) positive

theorem RouteCurrentness.length_text (currentness : RouteCurrentness) : currentness.text.length ≤ 32 := by
  cases currentness <;> decide

theorem AppliedClassification.length_text (classification : AppliedClassification) :
    classification.text.length ≤ 32 := by
  cases classification <;> decide

theorem ObservationClass.length_text (classification : ObservationClass) :
    classification.text.length ≤ 32 := by
  cases classification <;> decide

theorem SupersessionKind.length_text (kind : SupersessionKind) : kind.text.length ≤ 32 := by
  cases kind <;> decide

theorem RetirementCause.length_text (cause : RetirementCause) : cause.text.length ≤ 32 := by
  cases cause <;> decide

/-! ## The texts of an explanation -/

section

variable {state : Impl} {record : RouteRecord} {env : Env} {limits : Limits}

theorem length_authorityReason (storable : record.Storable limits) (currentness : RouteCurrentness) :
    (state.authorityReason record currentness).length ≤ RouteExplanation.maxReasonChars := by
  have publisher : record.provenance.publisher.value.length ≤ 64 :=
    TokenId.length_le_of_isValid storable.provenance.publisher
  have lifecycle := record.lifecycle.length_text
  have current := currentness.length_text
  have id := record.id.length_render
  have boot := record.provenance.workerBoot.length_render
  have epoch := record.provenance.epoch.length_renderBytes
  refine (@length_flatten_le _ [16, 32, 16, 32, 16, 32, 16, 32, 16, 64, 16, 32, 16, 20, 128] ?_).trans
    (by decide)
  refine .cons (by decide) <| .cons id <| .cons (by decide) <| .cons ?_ <| .cons (by decide) <| .cons ?_ <|
    .cons (by decide) <| .cons ?_ <| .cons (by decide) <| .cons publisher <| .cons (by decide) <|
    .cons boot <| .cons (by decide) <| .cons epoch <| .cons ?_ .nil
  · split <;> decide
  · rw [length_asciiBytes]
    omega
  · rw [length_asciiBytes]
    exact current
  · cases state.registrations[record.provenance.publisher]? with
    | none => decide
    | some registration =>
        have registered := registration.epoch.length_renderBytes
        have booted := registration.workerBoot.length_render
        refine (@length_flatten_le _ [32, 20, 32, 32] ?_).trans (by decide)
        exact .cons (by decide) <| .cons registered <| .cons (by decide) <| .cons booted .nil

theorem length_currentnessReason (currentness : RouteCurrentness) :
    (state.currentnessReason record currentness).length ≤ RouteExplanation.maxReasonChars := by
  cases currentness with
  | staleEpoch =>
      have epoch := record.provenance.epoch.length_renderBytes
      have now := state.epoch.length_renderBytes
      refine (@length_flatten_le _ [64, 20, 64, 20] ?_).trans (by decide)
      exact .cons (by decide) <| .cons epoch <| .cons (by decide) <| .cons now .nil
  | _ =>
      simp only [currentnessReason, length_asciiBytes]
      exact length_spelled rfl (by decide)

theorem length_lifecycleReason (storable : record.Storable limits)
    (word : limits.maxHistoryEntriesPerRoute < 2 ^ 64) :
    (lifecycleReason record).length ≤ RouteExplanation.maxReasonChars := by
  have lifecycle := record.lifecycle.length_text
  have generation := record.generation.length_renderBytes
  have authority := record.authorityGeneration.length_renderBytes
  have watermark := record.invalidationWatermark.length_renderBytes
  have small : record.history.length < 10 ^ 20 := by
    have bounded := storable.valid.historyBound
    omega
  have history : (asciiBytes (toString record.history.length)).length ≤ 20 := by
    rw [length_asciiBytes]
    exact length_toString_lt small (by decide)
  refine (@length_flatten_le _ [32, 32, 32, 20, 32, 20, 32, 20, 32, 20, 64] ?_).trans (by decide)
  refine .cons (by decide) <| .cons ?_ <| .cons (by decide) <| .cons generation <| .cons (by decide) <|
    .cons authority <| .cons (by decide) <| .cons watermark <| .cons (by decide) <| .cons history <|
    .cons ?_ .nil
  · rw [length_asciiBytes]
    omega
  · cases record.history.getLast? with
    | none => decide
    | some last =>
        have event := last.event.length_text
        have label : (asciiBytes " last-event=").length ≤ 32 := by decide
        simp only [List.length_append, length_asciiBytes] at label ⊢
        omega

theorem length_pathAuthorityReason :
    (pathAuthorityReason env record).length ≤ RouteExplanation.maxReasonChars := by
  unfold pathAuthorityReason
  split
  · have path := record.binding.path.length_render
    have bound := record.binding.pathAuthorityGeneration.length_renderBytes
    have current := (env.query record.binding.path).generation.length_renderBytes
    have answered := (env.query record.binding.path).state.length_text
    refine (@length_flatten_le _ [32, 32, 32, 20, 32, 20, 32, 32] ?_).trans (by decide)
    refine .cons (by decide) <| .cons path <| .cons (by decide) <| .cons bound <| .cons (by decide) <|
      .cons current <| .cons (by decide) <| .cons ?_ .nil
    rw [length_asciiBytes]
    omega
  · decide

theorem length_backendReason (storable : record.Storable limits) :
    (backendReason record).length ≤ RouteExplanation.maxReasonChars := by
  have backend : record.applied.backend.value.length ≤ 64 :=
    TokenId.length_le_of_isValid storable.applied.backend
  have applied := record.applied.classification.length_text
  have attempt := record.applied.attempt.length_render
  have programmed := record.applied.programmedGeneration.length_renderBytes
  have programming := record.programmingGeneration.length_renderBytes
  have detail : record.applied.detail.length ≤ 256 := storable.applied.detail
  refine (@length_flatten_le _ [32, 64, 32, 32, 32, 32, 32, 20, 32, 20, 32, 256] ?_).trans (by decide)
  refine .cons (by decide) <| .cons backend <| .cons (by decide) <| .cons ?_ <| .cons (by decide) <|
    .cons (length_orNone attempt (by decide)) <| .cons (by decide) <|
    .cons (length_orNone programmed (by decide)) <| .cons (by decide) <| .cons programming <|
    .cons (by decide) <| .cons (length_orNone detail (by decide)) .nil
  rw [length_asciiBytes]
  exact applied

theorem length_reconciliationReason (storable : record.Storable limits) :
    (reconciliationReason record).length ≤ RouteExplanation.maxReasonChars := by
  have backend : record.observation.backend.value.length ≤ 64 :=
    TokenId.length_le_of_isValid storable.observation.backend
  have observed := record.observation.classification.length_text
  have detail : record.observation.detail.length ≤ 256 := storable.observation.detail
  refine (@length_flatten_le _ [32, 32, 32, 64, 32, 256, 32, 32] ?_).trans (by decide)
  refine .cons (by decide) <| .cons ?_ <| .cons (by decide) <| .cons backend <| .cons (by decide) <|
    .cons (length_orNone detail (by decide)) <| .cons (by decide) <| .cons ?_ .nil
  · rw [length_asciiBytes]
    exact observed
  · split <;> decide

theorem length_supersessionReason (storable : record.Storable limits) :
    (supersessionReason record).length ≤ RouteExplanation.maxReasonChars := by
  unfold supersessionReason
  split
  · decide
  · have kind := record.supersession.kind.length_text
    have prior := record.supersession.priorGeneration.length_renderBytes
    have successor := record.supersession.successorGeneration.length_renderBytes
    have lineage := record.supersession.successorLineage.length_render
    have reason : record.supersession.reason.length ≤ 256 := storable.valid.supersessionReason
    refine (@length_flatten_le _ [32, 32, 32, 20, 32, 20, 32, 32, 32, 256] ?_).trans (by decide)
    refine .cons (by decide) <| .cons ?_ <| .cons (by decide) <|
      .cons (length_orNone prior (by decide)) <| .cons (by decide) <|
      .cons (length_orNone successor (by decide)) <| .cons (by decide) <|
      .cons (length_orNone lineage (by decide)) <| .cons (by decide) <| .cons reason .nil
    rw [length_asciiBytes]
    exact kind

theorem length_retirementReason (storable : record.Storable limits) :
    (state.retirementReason record).length ≤ RouteExplanation.maxReasonChars := by
  unfold retirementReason
  split
  · decide
  · have cause := record.retirement.cause.length_text
    have generation := record.retirement.generation.length_renderBytes
    have epoch := record.retirement.epoch.length_renderBytes
    have reason : record.retirement.reason.length ≤ 256 := storable.valid.retirementReason
    refine (@length_flatten_le _ [32, 32, 32, 20, 32, 20, 32, 256, 32, 32] ?_).trans (by decide)
    refine .cons (by decide) <| .cons ?_ <| .cons (by decide) <|
      .cons (length_orNone generation (by decide)) <| .cons (by decide) <|
      .cons (length_orNone epoch (by decide)) <| .cons (by decide) <| .cons reason <|
      .cons (by decide) <| .cons (length_orNone (by decide) (by decide)) .nil
    rw [length_asciiBytes]
    exact cause

/-- Whoever reads the snapshot of a route reads its explanation. -/
theorem explain_acceptable_iff (word : limits.maxHistoryEntriesPerRoute < 2 ^ 64) :
    (state.explain env record).Acceptable limits ↔
      (makeSnapshot record (state.currentnessOf env record)).Storable limits := by
  constructor
  · intro acceptable
    exact acceptable.snapshot
  · intro snapshot
    have storable : record.Storable limits := snapshot.record
    refine ⟨snapshot, ?_⟩
    simp only [RouteExplanation.texts, explain, List.forall_mem_cons, List.not_mem_nil, false_implies,
      implies_true, and_true]
    exact ⟨length_authorityReason storable _, length_currentnessReason _,
      length_lifecycleReason storable word, length_pathAuthorityReason, length_backendReason storable,
      length_reconciliationReason storable, length_supersessionReason storable,
      length_retirementReason storable⟩

/-- An explanation by key is found where the route is, with the snapshot of the route in it. -/
theorem explainRoute_acceptable_iff (word : limits.maxHistoryEntriesPerRoute < 2 ^ 64) (key : RouteKey) :
    (∃ explanation, state.explainRoute env key = .ok explanation ∧ explanation.Acceptable limits) ↔
      ∃ snapshot, state.queryRoute env key = .ok snapshot ∧ snapshot.Storable limits := by
  unfold explainRoute queryRoute
  cases state.keyIndex[key]? with
  | none => simp [makeError]
  | some route =>
      cases held : state.routes[route]? with
      | none => simp [held, makeError]
      | some record => simp [held, explain_acceptable_iff word]

end

/-! ## The two queries of a route -/

theorem queryRoute_of_explainRoute {env : Env} {state : Impl} {key : RouteKey}
    {explanation : RouteExplanation} (explained : state.explainRoute env key = .ok explanation) :
    state.queryRoute env key = .ok explanation.snapshot := by
  unfold explainRoute at explained
  unfold queryRoute
  cases indexed : state.keyIndex[key]? with
  | none => simp [indexed, makeError] at explained
  | some route =>
      cases held : state.routes[route]? with
      | none => simp [indexed, held, makeError] at explained
      | some record =>
          simp only [indexed, held, Except.ok.injEq] at explained
          simp only [held, ← explained]
          rfl

/-- The bytes that an explanation has beyond the snapshot in it, at most: a flag and eight texts. -/
def explanationBytes : Nat := 1 + 8 * (4 + RouteExplanation.maxReasonChars)

/-- An explanation that was found is longer than its snapshot, by no more than its texts may be. -/
theorem length_explainAnswer {limits : Limits} {explanation : RouteExplanation}
    (texts : ∀ text ∈ explanation.texts, text.length ≤ RouteExplanation.maxReasonChars) :
    ((QueryRouteResult.codec limits).encode (queryAnswer (.ok explanation.snapshot))).length ≤
        ((ExplainRouteResult.codec limits).encode (explainAnswer (.ok explanation))).length ∧
      ((ExplainRouteResult.codec limits).encode (explainAnswer (.ok explanation))).length ≤
        ((QueryRouteResult.codec limits).encode (queryAnswer (.ok explanation.snapshot))).length +
          explanationBytes := by
  have flag : (writeBoolean explanation.authoritative).length = 1 := rfl
  simp only [RouteExplanation.texts, List.forall_mem_cons, List.not_mem_nil, false_implies, implies_true,
    and_true] at texts
  obtain ⟨authority, currentness, lifecycle, path, backend, reconciliation, supersession, retirement⟩ := texts
  simp only [Codec.encode, QueryRouteResult.codec, ExplainRouteResult.codec, queryAnswer, explainAnswer,
    RouteExplanation.write, List.length_flatten, List.map_cons, List.map_nil, List.sum_cons, List.sum_nil,
    length_writeString, flag, explanationBytes]
  omega

section

variable {config : ServerConfig} {env : ServerEnv} {session : Session} {state : Impl} {context : RequestContext}
  {key : RouteKey}

theorem handle_routeByKey (short : ((Query.routeByKey key).frame context).payload.length < 2 ^ 32)
    (storable : key.Storable config.limits.maxDestinationChars) :
    (handle config env session state ((Query.routeByKey key).frame context)).reply.payload =
      (QueryRouteResult.codec config.limits).encode (queryAnswer (state.queryRoute env.toEnv key)) := by
  have decoded : (QueryRouteRequest.codec config.limits).decode
      ((QueryRouteRequest.codec {}).encode { key }) = .ok { key } :=
    QueryRouteRequest.decode_relayed short storable
  simp only [handle, Query.frame, withRequest, Query.selector, decoded, handleQuery, reply, if_true]

theorem handle_explanationByKey (short : ((Query.explanationByKey key).frame context).payload.length < 2 ^ 32)
    (storable : key.Storable config.limits.maxDestinationChars) :
    (handle config env session state ((Query.explanationByKey key).frame context)).reply.payload =
      (ExplainRouteResult.codec config.limits).encode (explainAnswer (state.explainRoute env.toEnv key)) := by
  have decoded : (QueryRouteRequest.codec config.limits).decode
      ((QueryRouteRequest.codec {}).encode { key }) = .ok { key } :=
    QueryRouteRequest.decode_relayed short storable
  simp only [handle, Query.frame, withRequest, Query.selector, decoded, handleExplain, reply, if_true]

/-- Where the query for an explanation can be answered, so can the one for the route, and the replies are
of nearly the same length. -/
theorem replies_of_answerable {client : Client}
    (short : ((Query.routeByKey key).frame context).payload.length < 2 ^ 32)
    (shortAsWell : ((Query.explanationByKey key).frame context).payload.length < 2 ^ 32)
    (answerable : (Query.explanationByKey key).Answerable config env.toEnv client state) :
    (handle config env session state ((Query.routeByKey key).frame context)).reply.payload.length ≤
        (handle config env session state ((Query.explanationByKey key).frame context)).reply.payload.length ∧
      (handle config env session state ((Query.explanationByKey key).frame context)).reply.payload.length ≤
        (handle config env session state ((Query.routeByKey key).frame context)).reply.payload.length +
          explanationBytes := by
  obtain ⟨storable, explanation, explained, acceptable⟩ := answerable
  rw [handle_routeByKey short storable, handle_explanationByKey shortAsWell storable, explained,
    queryRoute_of_explainRoute explained]
  exact length_explainAnswer acceptable.texts

end

theorem answerable_explanation_iff {config : ServerConfig} {env : Env} {client : Client} {state : Impl}
    (word : client.limits.maxHistoryEntriesPerRoute < 2 ^ 64) (key : RouteKey) :
    (Query.explanationByKey key).Answerable config env client state ↔
      (Query.routeByKey key).Answerable config env client state :=
  and_congr_right fun _ => explainRoute_acceptable_iff word key

/-- After any calls, the explanation of a route agrees with the direct call exactly when the route itself
does and the explanation fits into a frame of the client; it is longer than the route by no more than its
eight texts and a flag. -/
theorem explanation_agrees_iff {config : ServerConfig} {seed : Word} (env : ServerEnv) (calls : List Call)
    (cut : Segmentation) (closed : String) (client : Client) (loop : SessionLoop Conversation)
    (key : RouteKey)
    (explains : Linked config env client loop ((Query.explanationByKey key).frame client.context))
    (queries : Linked config env client loop ((Query.routeByKey key).frame client.context))
    (reached : loop.world.state = run (step config.runtime) (initial seed) calls)
    (counted : client.context.epoch.value ≤ CounterId.maxValue)
    (word : client.limits.maxHistoryEntriesPerRoute < 2 ^ 64) :
    (Agrees ((Query.explanationByKey key).direct config.runtime.limits env.toEnv loop.world.state)
        (client.query (sessionPeer config env cut closed) loop (.explanationByKey key)).result ↔
      Agrees ((Query.routeByKey key).direct config.runtime.limits env.toEnv loop.world.state)
          (client.query (sessionPeer config env cut closed) loop (.routeByKey key)).result ∧
        Returns config env client loop ((Query.explanationByKey key).frame client.context)) ∧
    (Agrees ((Query.routeByKey key).direct config.runtime.limits env.toEnv loop.world.state)
        (client.query (sessionPeer config env cut closed) loop (.routeByKey key)).result →
      (handle config env loop.world.session loop.world.state
          ((Query.explanationByKey key).frame client.context)).reply.payload.length ≤
        (handle config env loop.world.session loop.world.state
          ((Query.routeByKey key).frame client.context)).reply.payload.length + explanationBytes) := by
  have epoch : loop.world.state.epoch.Storable := by
    rw [reached]
    exact (run_steady calls).epoch
  have replies := @replies_of_answerable config env loop.world.session loop.world.state client.context key
    client queries.takes.prefixed explains.takes.prefixed
  rw [query_answer_iff _ explains counted epoch, query_answer_iff _ queries counted epoch,
    answerable_explanation_iff word]
  rw [answerable_explanation_iff word] at replies
  refine ⟨⟨?_, ?_⟩, ?_⟩
  · rintro ⟨answerable, returns⟩
    exact ⟨⟨answerable, (replies answerable).1.trans returns⟩, returns⟩
  · rintro ⟨⟨answerable, -⟩, returns⟩
    exact ⟨answerable, returns⟩
  · rintro ⟨answerable, -⟩
    exact (replies answerable).2

/-- The explanation of the published route fits and agrees, as the route does. -/
theorem explanation_agrees_iff_watching :
    (Agrees ((Query.explanationByKey Scenario.key).direct Scenario.server.runtime.limits
        Scenario.serverEnv.toEnv Scenario.watching.world.state)
        (Scenario.client.query (sessionPeer Scenario.server Scenario.serverEnv Scenario.trickle "closed")
          Scenario.watching (.explanationByKey Scenario.key)).result ↔
      Agrees ((Query.routeByKey Scenario.key).direct Scenario.server.runtime.limits
        Scenario.serverEnv.toEnv Scenario.watching.world.state)
        (Scenario.client.query (sessionPeer Scenario.server Scenario.serverEnv Scenario.trickle "closed")
          Scenario.watching (.routeByKey Scenario.key)).result ∧
      Returns Scenario.server Scenario.serverEnv Scenario.client Scenario.watching
        ((Query.explanationByKey Scenario.key).frame Scenario.client.context)) ∧
    Returns Scenario.server Scenario.serverEnv Scenario.client Scenario.watching
      ((Query.explanationByKey Scenario.key).frame Scenario.client.context) := by
  have explains : Linked Scenario.server Scenario.serverEnv Scenario.client Scenario.watching
      ((Query.explanationByKey Scenario.key).frame Scenario.client.context) := by
    refine ⟨rfl, rfl, ⟨rfl, rfl, rfl⟩, rfl, .of_small ?_ (by decide), .of_small ?_ (by decide), by decide,
      ?_⟩ <;> decide +kernel
  have counted : Scenario.client.context.epoch.value ≤ CounterId.maxValue := by decide +kernel
  refine ⟨(explanation_agrees_iff Scenario.serverEnv Scenario.offered Scenario.trickle "closed"
    Scenario.client Scenario.watching Scenario.key explains Scenario.watching_linked
    Scenario.watching_reached counted (by decide)).1, ?_⟩
  unfold Returns
  decide +kernel

end RouteFabric
