import RouteFabric.Store.Damage
import RouteFabric.Safety.Currentness
import RouteFabric.Safety.Durability

/-!
# Warranted reports

In a run that appends nothing behind a torn frame, every record that is reported current is
warranted (`run_warranted`). Without that condition an entry can be forged: what follows a
torn frame in the journal may complete it to the frame of another entry, since diagnostic
texts are stored byte for byte (`writeFrame_completed`, `JournalEntry.frame_parts`). In
`torn_append_forges` a backend does so, and a record comes back from the store with a
provenance that nobody gave it.
-/

namespace RouteFabric

open ByteReader OrderedMap Run

/-! ## What completes a torn frame -/

/-- A part of a frame with the rest of another payload of the same length behind it, and the
trailer of that payload, is the frame of that payload. -/
theorem writeFrame_completed {magic cut : Nat} {written payload : Bytes}
    (same : written.length = payload.length) (within : cut ≤ written.length)
    (start : written.take cut = payload.take cut) (rest : Bytes) :
    (writeFrame magic written).take (persistFrameHeaderBytes + cut) ++
        (payload.drop cut ++ (frameTrailer payload ++ rest)) = writeFrame magic payload ++ rest := by
  have front : (writeFrame magic written).take (persistFrameHeaderBytes + cut) =
      framePreamble magic written.length ++ written.take cut := by
    rw [writeFrame_eq, persistFrameHeaderBytes, List.take_append, length_framePreamble,
      List.take_of_length_le (by rw [length_framePreamble]; omega), Nat.add_sub_cancel_left,
      List.take_append_of_le_length within]
  calc (writeFrame magic written).take (persistFrameHeaderBytes + cut) ++
        (payload.drop cut ++ (frameTrailer payload ++ rest))
      = framePreamble magic payload.length ++
          ((payload.take cut ++ payload.drop cut) ++ (frameTrailer payload ++ rest)) := by
        rw [front, same, start]
        simp only [List.append_assoc]
    _ = writeFrame magic payload ++ rest := by
        rw [List.take_append_drop, writeFrame_eq]
        simp only [List.append_assoc]

/-- The fields of a record before the diagnostic text of its applied state. -/
def RouteRecord.writeBefore (record : RouteRecord) : Bytes :=
  [[recordEncodingTag], record.id.write, record.key.write, record.generation.write,
    record.authorityGeneration.write, record.invalidationWatermark.write,
    record.programmingGeneration.write, [Enumerated.code record.lifecycle], record.binding.write,
    [Enumerated.code record.applied.classification], record.applied.attempt.write,
    record.applied.programmingGeneration.writeOptional, record.applied.programmedGeneration.writeOptional,
    record.applied.programmedAuthorityGeneration.writeOptional, record.applied.backend.write].flatten

/-- The fields after it. -/
def RouteRecord.writeAfter (record : RouteRecord) : Bytes :=
  [record.observation.write, record.provenance.write, record.supersession.write, record.retirement.write,
    writeList LineageEntry.write record.history].flatten

theorem RouteRecord.write_parts (record : RouteRecord) :
    record.write = record.writeBefore ++ (writeString record.applied.detail ++ record.writeAfter) := by
  simp [RouteRecord.write, AppliedState.write, writeBefore, writeAfter]

/-- The frame of an entry with one record, up to the diagnostic text of its applied state. -/
def JournalEntry.frameBefore (entry : JournalEntry) (record : RouteRecord) : Bytes :=
  [framePreamble journalEntryMagic entry.payload.length, writeHeaderCounter entry.epoch,
    writeHeaderCounter entry.policyGeneration, leBytes 4 1, record.writeBefore,
    leBytes 4 record.applied.detail.length].flatten

/-- The frame from the end of that text on. -/
def JournalEntry.frameAfter (entry : JournalEntry) (record : RouteRecord) : Bytes :=
  [record.writeAfter, writeList RevocationRecord.write entry.revocations,
    writeList ProgrammingAttemptRecord.write entry.attempts, frameTrailer entry.payload].flatten

/-- The text stands in the frame as it is. -/
theorem JournalEntry.frame_parts {entry : JournalEntry} {record : RouteRecord}
    (single : entry.upserts = [record]) :
    writeFrame journalEntryMagic entry.payload =
      entry.frameBefore record ++ (record.applied.detail ++ entry.frameAfter record) := by
  have payload : entry.payload =
      [writeHeaderCounter entry.epoch, writeHeaderCounter entry.policyGeneration, leBytes 4 1,
        record.writeBefore, leBytes 4 record.applied.detail.length, record.applied.detail, record.writeAfter,
        writeList RevocationRecord.write entry.revocations,
        writeList ProgrammingAttemptRecord.write entry.attempts].flatten := by
    simp [JournalEntry.payload, writeStateBody, JournalEntry.body, single, writeList, RouteRecord.write_parts,
      writeString]
  rw [writeFrame_eq]
  simp only [frameBefore, frameAfter, List.flatten_cons, List.flatten_nil, List.append_nil, List.append_assoc]
  nth_rewrite 2 [payload]
  simp only [List.flatten_cons, List.flatten_nil, List.append_nil, List.append_assoc]

/-- Where the journal magic does not stand, the scan stops. -/
theorem nextFrame_unmarked {limits : Limits} {remaining : Bytes}
    (unmarked : wordAt remaining 0 8 ≠ journalEntryMagic) : nextFrame limits remaining = none := by
  unfold nextFrame
  by_cases short : remaining.length < persistFrameHeaderBytes + persistFrameTrailerBytes
  · rw [if_pos short]
  · rw [if_neg short, if_pos unmarked]

theorem wordAt_append {image : Bytes} (long : 8 ≤ image.length) (rest : Bytes) :
    wordAt (image ++ rest) 0 8 = wordAt image 0 8 := by
  rw [wordAt, wordAt, List.drop_zero, List.drop_zero, List.take_append_of_le_length long]

theorem StoreHolds.load_eq {limits : Limits} {io : IoOutcome} {files : StoreFiles} {base : PersistedState}
    {entries : List JournalEntry} {tail : Bytes} (holds : StoreHolds limits files base entries tail)
    (readable : io.read = none) (writable : io.truncate = none) :
    RouteFabric.load limits io files =
      ((RouteFabric.load limits io files).1, .ok (entries.foldl PersistedState.replay base)) := by
  obtain ⟨after, loads, -⟩ := holds.load readable writable
  rw [loads]

namespace Impl

variable {config : RuntimeConfig} {env : Env} {state : Impl} {record : RouteRecord}

/-! ## Writes to the files -/

/-- The files with bytes behind the journal. -/
def trailed (files : StoreFiles) (bytes : Bytes) : StoreFiles :=
  { files with journal := some (files.journal.getD [] ++ bytes) }

@[simp] theorem trailed_snapshot (files : StoreFiles) (bytes : Bytes) :
    (trailed files bytes).snapshot = files.snapshot := rfl

@[simp] theorem trailed_journal (files : StoreFiles) (bytes : Bytes) :
    (trailed files bytes).journal.getD [] = files.journal.getD [] ++ bytes := rfl

theorem reconcile_short {route : RouteId} {query : BackendQueryResult} {written : Nat} {why : String}
    (opened : state.opened = true) (journal : config.durability = .journal)
    (found : state.routes[route]? = some record)
    (valid : validateRouteRecord (record.observed env.backend.id query) config.limits = .ok ())
    (bounded : (state.journalEntry { upserts := [record.observed env.backend.id query] }).payload.length ≤
      config.limits.maxPersistBytes)
    (short : (env.io 0).append = some (written, why)) :
    state.step config ⟨env, .reconcile route query⟩ =
      { state with
        files := trailed state.files
          ((writeFrame journalEntryMagic
            (state.journalEntry { upserts := [record.observed env.backend.id query] }).payload).take written) } := by
  simp only [step, takes, opened, Bool.true_or, if_true, perform, reconcileLocked, found, valid, acknowledge,
    persist, journal, appendJournal_fails bounded short, trailed, makeError]

theorem completed_detail {historyLimit : Nat} {backend : BackendId} {attempt : ProgrammingAttemptRecord}
    {result : ProgrammingResult} {lifecycle : RouteLifecycle}
    (short : result.detail.length ≤ maxDiagnosticChars) :
    (record.completed historyLimit backend attempt result lifecycle).applied.detail = result.detail :=
  List.take_of_length_le short

/-- What a completion appends. -/
def completionEntry (config : RuntimeConfig) (env : Env) (state : Impl) (record : RouteRecord)
    (attempt : ProgrammingAttemptRecord) (result : ProgrammingResult) (lifecycle : RouteLifecycle) :
    JournalEntry :=
  state.journalEntry
    { upserts := [record.completed config.historyLimit env.backend.id attempt result lifecycle],
      attempts := [{ attempt with resolved := true }] }

theorem complete_files {attempt : ProgrammingAttemptRecord} {result : ProgrammingResult}
    {lifecycle : RouteLifecycle} (opened : state.opened = true) (journal : config.durability = .journal)
    (waits : state.attempts[result.attempt]? = some attempt) (unresolved : attempt.resolved = false)
    (found : state.routes[attempt.route]? = some record) (current : state.overtaken attempt record = false)
    (next : nextLifecycle record.lifecycle (completionEvent attempt.operation result.outcome) = some lifecycle)
    (bounded : (completionEntry config env state record attempt result lifecycle).payload.length ≤
      config.limits.maxPersistBytes)
    (writable : (env.io 0).append = none) :
    (state.step config ⟨env, .complete result⟩).files =
      trailed state.files (writeFrame journalEntryMagic
        (completionEntry config env state record attempt result lifecycle).payload) := by
  have image : encodeJournalEntry (completionEntry config env state record attempt result lifecycle)
      config.limits = writeFrame journalEntryMagic
        (completionEntry config env state record attempt result lifecycle).payload :=
    if_neg (Nat.not_lt.mpr bounded)
  have written : appendJournal config.limits (env.io 0) state.files
      (completionEntry config env state record attempt result lifecycle) =
        (trailed state.files (writeFrame journalEntryMagic
          (completionEntry config env state record attempt result lifecycle).payload), .ok ()) := by
    simp only [appendJournal, image, if_neg (writeFrame_ne_nil _ _), writable, trailed]
  have stored : (state.acknowledge config (env.io 0)
      { upserts := [record.completed config.historyLimit env.backend.id attempt result lifecycle],
        attempts := [{ attempt with resolved := true }] }).1.files =
          trailed state.files (writeFrame journalEntryMagic
            (completionEntry config env state record attempt result lifecycle).payload) := by
    unfold completionEntry at written ⊢
    simp only [acknowledge, persist, journal, written, applyEdit_files]
  simp only [step, takes, opened, Bool.true_or, if_true, perform, applyCompletion, waits, unresolved, found,
    current, next, Bool.false_eq_true, if_false]
  rw [← stored]
  rcases state.acknowledge config (env.io 0) _ with ⟨after, failure | acknowledged⟩ <;> rfl

theorem compact_files (opened : state.opened = true) (durable : config.durability ≠ .none)
    (bounded : state.collectState.payload.length ≤ config.limits.maxPersistBytes) (clean : env.io 0 = {}) :
    (state.step config ⟨env, .compact⟩).files =
      ⟨some (writeFrame persistenceMagic state.collectState.payload), none⟩ := by
  have image : encodeSnapshot state.collectState config.limits =
      writeFrame persistenceMagic state.collectState.payload := if_neg (Nat.not_lt.mpr bounded)
  have passed : (do
      state.checkOpened
      ensure (config.durability ≠ .none) .unsupported "the runtime has no store configured" : Status) =
        .ok () := by
    simp only [bind_eq_ok, exists_unit, checkOpened, ensure_eq_ok]
    exact ⟨opened, durable⟩
  simp only [step, takes, opened, Bool.true_or, if_true, perform, compact, passed, compactStore, durable,
    if_false, saveSnapshot, image, if_neg (writeFrame_ne_nil _ _), clean]

end Impl

/-! ## Calls that forge an entry -/

namespace Scenario

open Impl

/-- A coordinator with a journal, whose names are short. -/
def terse : RuntimeConfig := { fabric := ⟨asciiBytes "f"⟩, durability := .journal, historyLimit := 1 }

def worker : PublisherId := ⟨asciiBytes "p"⟩

def terseEnv : Env := { backend := { id := ⟨asciiBytes "b"⟩ }, query := fun _ => ⟨.one, .usable⟩ }

def terseScope : PublisherScope := { override with fabric := terse.fabric }

def tersely (lineage : Nat) (destination : Destination) : PublishRequest :=
  { publisher := worker, workerBoot := boot, attempt := ⟨1⟩,
    key :=
      { fabric := terse.fabric, routingNamespace := ⟨asciiBytes "n"⟩, destination, routeClass := .logical },
    binding := { binding with nextHop := { entityGeneration := .one } }, policyGeneration := .one,
    lineage := ⟨BitVec.ofNat 128 lineage⟩ }

def enrolled : List Call :=
  [⟨terseEnv, .restart 1⟩, ⟨terseEnv, .register worker boot terseScope⟩]

def firstAttempt : ProgrammingAttemptId := (generateId (run (step terse) (initial 0) enrolled).ids).1

def firstInstalled : List Call :=
  enrolled ++ [⟨terseEnv, .publish (tersely 1 (destination "a" (by decide)))⟩,
    ⟨terseEnv, .complete { outcome := .applied, attempt := firstAttempt }⟩]

/-- What the backend says of the first route, and where the file system stops. -/
def longQuery : BackendQueryResult := { presence := .present, detail := List.replicate 248 0 }

def stopping : Env := { terseEnv with io := fun _ => { append := some (283, "disk full") } }

/-- Nothing can be appended any more. -/
def exhausted : Env := { terseEnv with io := fun _ => { append := some (0, "disk full") } }

/-- An append stops inside its frame, the next one writes nothing, and a compaction removes the
torn journal. -/
def halted : List Call :=
  firstInstalled ++ [⟨stopping, .reconcile ⟨1⟩ longQuery⟩, ⟨exhausted, .reconcile ⟨1⟩ longQuery⟩,
    ⟨terseEnv, .compact⟩, ⟨terseEnv, .reconcile ⟨1⟩ longQuery⟩]

/-- The first route is installed, the second one is requested. -/
def bothRequested : List Call :=
  firstInstalled ++ [⟨terseEnv, .publish (tersely 2 (destination "c" (by decide)))⟩]

def gathered : Impl := run (step terse) (initial 0) bothRequested

def compacted : Impl := run (step terse) (initial 0) (bothRequested ++ [⟨terseEnv, .compact⟩])

def firstRoute : RouteRecord := compacted.routes[(⟨1⟩ : RouteId)]?.get (by decide +kernel)

def secondRoute : RouteRecord := compacted.routes[(⟨2⟩ : RouteId)]?.get (by decide +kernel)

def secondAttempt : ProgrammingAttemptRecord :=
  compacted.attempts[secondRoute.applied.attempt]?.get (by decide +kernel)

def stopped : Impl := compacted.step terse ⟨stopping, .reconcile ⟨1⟩ longQuery⟩

/-- The entry whose frame is torn. -/
def tornEntry : JournalEntry :=
  compacted.journalEntry { upserts := [firstRoute.observed terseEnv.backend.id longQuery] }

def report (detail : Bytes) : ProgrammingResult :=
  { outcome := .applied, attempt := secondAttempt.attempt, detail }

def reportedRoute (detail : Bytes) : RouteRecord :=
  secondRoute.completed terse.historyLimit terseEnv.backend.id secondAttempt (report detail) .installed

def reportEntry (detail : Bytes) : JournalEntry :=
  completionEntry terse terseEnv stopped secondRoute secondAttempt (report detail) .installed

/-- The frame of a report before its text, which has 239 bytes. -/
def disguise : Bytes :=
  (reportEntry (List.replicate 239 0)).frameBefore (reportedRoute (List.replicate 239 0))

/-- The first route as nobody wrote it: it names the epoch that follows. -/
def forgedRoute : RouteRecord :=
  let observed := firstRoute.observed terseEnv.backend.id longQuery
  { observed with
    observation := { observed.observation with detail := disguise }
    provenance := { observed.provenance with epoch := .fromValue 2 } }

def forgedEntry : JournalEntry := { tornEntry with upserts := [forgedRoute] }

/-- The text that completes the torn frame. -/
def forgery : Bytes := forgedEntry.payload.drop 515 ++ frameTrailer forgedEntry.payload

def forged : List Call :=
  bothRequested ++ [⟨terseEnv, .compact⟩] ++ [⟨stopping, .reconcile ⟨1⟩ longQuery⟩] ++
    [⟨terseEnv, .complete (report forgery)⟩]

/-- A restart reads the forged entry, the publisher registers again, and the epoch advances. -/
def misled : List Call :=
  forged ++ [⟨terseEnv, .restart 2⟩] ++
    [⟨terseEnv, .register worker boot terseScope⟩, ⟨terseEnv, .advanceEpoch⟩]

end Scenario

namespace Impl

variable {config : RuntimeConfig} {seed : Word}

/-! ## Runs -/

/-- A run keeps its appends apart, if they do not differ within a call and none of them
writes behind a torn frame. -/
theorem along_apart {calls : List Call} {state : Impl} (small : config.limits.maxPersistBytes < 2 ^ 32)
    (even : ∀ call ∈ calls, ∀ index, call.env.io index = call.env.io 0)
    (along : Along (step config) (fun state call => state.files.torn = true → call.action.journals = true →
      (call.env.io 0).append.map (·.1) = some 0) state calls) :
    Along (step config) (fun state call => config.durability ≠ .none → AppendsApart config state call)
      state calls := by
  have each : ∀ earlier (call : Call) rest, calls = earlier ++ call :: rest →
      ∀ index, call.env.io index = call.env.io 0 :=
    fun earlier call rest parts => even call (by rw [parts]; simp)
  have both : Along (step config) (fun state call => (state.files.torn = true → call.action.journals = true →
      (call.env.io 0).append.map (·.1) = some 0) ∧ ∀ index, call.env.io index = call.env.io 0) state calls :=
    along.and_each each
  refine both.mono ?_
  rintro state call ⟨apart, even⟩ -
  refine ⟨small, fun torn journals index => ?_⟩
  obtain ⟨⟨written, why⟩, found, nothing⟩ := Option.map_eq_some_iff.mp (apart torn journals)
  exact ⟨why, by rw [even index, found, ← nothing]⟩

/-- In every state of a run, a record that is reported current is warranted, as long as
nothing is appended behind a part of a frame that a failed append left in the journal. -/
theorem run_warranted {calls : List Call}
    (along : Along (step config) (fun state call => config.durability ≠ .none → AppendsApart config state call)
      (initial seed) calls)
    (env : Env) (id : RouteId) (record : RouteRecord)
    (found : (run (step config) (initial seed) calls).routes[id]? = some record)
    (current : (run (step config) (initial seed) calls).currentnessOf env record = .current) :
    Warranted env (run (step config) (initial seed) calls) record := by
  obtain ⟨-, attested⟩ := run_written (motive := Attested) sustained_lasting along
    (fun _ _ appends => appends)
    (fun state held id record found => ⟨held.supported id record found, held.dated id record found⟩)
    (fun origin env action before edit indexed held legal record member =>
      ⟨legal.supported indexed held record member, (legal.dated indexed held record member).1⟩)
    ⟨by simp [initial, fresh], by simp [initial, fresh], by simp [initial, fresh], by simp [initial, fresh]⟩
    (fun state fenced barred files held => held.unregistered rfl rfl rfl)
    (fun state call indexed _ held before after heldBefore move => held.move indexed heldBefore move)
    (fun env seed files after loaded stored fenced barred loads kinds => recovery_attested loads kinds)
  exact attested.warranted found current

/-- An installed route stays current, and warranted, through a full disk and a compaction. -/
theorem run_warranted_installed :
    ∃ record, (run (step Scenario.terse) (initial 0) Scenario.halted).routes[(⟨1⟩ : RouteId)]? = some record ∧
      Warranted Scenario.terseEnv (run (step Scenario.terse) (initial 0) Scenario.halted) record := by
  have meets : Along (step Scenario.terse) (fun state call => state.files.torn = true →
        call.action.journals = true → (call.env.io 0).append.map (·.1) = some 0) (initial 0) Scenario.halted ∧
      ((run (step Scenario.terse) (initial 0) Scenario.halted).routes[(⟨1⟩ : RouteId)]?.map
        ((run (step Scenario.terse) (initial 0) Scenario.halted).currentnessOf Scenario.terseEnv)) =
          some .current := by decide +kernel
  obtain ⟨record, found, reported⟩ := Option.map_eq_some_iff.mp meets.2
  have apart : Along (step Scenario.terse) _ (initial 0) Scenario.halted :=
    along_apart (by decide) (by simp [Scenario.halted, Scenario.firstInstalled, Scenario.enrolled,
      Scenario.terseEnv, Scenario.stopping, Scenario.exhausted]) meets.1
  exact ⟨record, found, run_warranted apart Scenario.terseEnv ⟨1⟩ record found reported⟩

/-! ## A forged entry -/

/-- What the calls of the forged run find, and what their bytes come to. -/
theorem forged_meets :
    -- The compaction, after calls that keep the store readable.
    (Along (step Scenario.terse) (fun state call => state.createsUnused Scenario.terse call = true ∧
        call.env.backend.id.isValid = true ∧ state.sparesReader Scenario.terse call.action) (initial 0)
        (Scenario.bothRequested ++ [⟨Scenario.terseEnv, .compact⟩]) ∧
      Scenario.gathered.opened = true ∧
      Scenario.gathered.collectState.payload.length ≤ Scenario.terse.limits.maxPersistBytes ∧
      1 ≤ Scenario.gathered.collectState.epoch.value ∧
      1 ≤ Scenario.gathered.collectState.policyGeneration.value) ∧
    -- The reconciliation: an open runtime, and a record that it can write.
    (Scenario.compacted.opened = true ∧
      validateRouteRecord (Scenario.firstRoute.observed Scenario.terseEnv.backend.id Scenario.longQuery)
        Scenario.terse.limits = .ok () ∧
      Scenario.tornEntry.payload.length ≤ Scenario.terse.limits.maxPersistBytes) ∧
    -- The report: an attempt that waits for it, and that nothing has overtaken.
    (Scenario.stopped.opened = true ∧
      Scenario.stopped.attempts[(Scenario.report Scenario.forgery).attempt]? = some Scenario.secondAttempt ∧
      Scenario.secondAttempt.resolved = false ∧
      Scenario.stopped.routes[Scenario.secondAttempt.route]? = some Scenario.secondRoute ∧
      Scenario.stopped.overtaken Scenario.secondAttempt Scenario.secondRoute = false ∧
      nextLifecycle Scenario.secondRoute.lifecycle
        (completionEvent Scenario.secondAttempt.operation (Scenario.report Scenario.forgery).outcome) =
          some .installed ∧
      (Scenario.reportEntry Scenario.forgery).payload.length ≤ Scenario.terse.limits.maxPersistBytes) ∧
    -- The frame of the report: its text, what comes before it and what comes after it.
    ((Scenario.report Scenario.forgery).detail.length ≤ maxDiagnosticChars ∧
      (Scenario.reportEntry Scenario.forgery).frameBefore (Scenario.reportedRoute Scenario.forgery) =
        Scenario.disguise ∧
      8 ≤ (Scenario.reportedRoute Scenario.forgery).writeAfter.length ∧
      wordAt (Scenario.reportedRoute Scenario.forgery).writeAfter 0 8 ≠ journalEntryMagic) ∧
    -- The forged entry: it is read, it begins as the torn one does, and goes on with the report.
    (Scenario.forgedEntry.payload.length ≤ Scenario.terse.limits.maxPersistBytes ∧
      (readJournalPayload Scenario.terse.limits Scenario.forgedEntry.payload).isOk = true ∧
      1 ≤ Scenario.forgedEntry.epoch.value ∧ 1 ≤ Scenario.forgedEntry.policyGeneration.value ∧
      Scenario.tornEntry.payload.length = Scenario.forgedEntry.payload.length ∧
      267 ≤ Scenario.tornEntry.payload.length ∧
      Scenario.tornEntry.payload.take 267 = Scenario.forgedEntry.payload.take 267 ∧
      (Scenario.forgedEntry.payload.drop 267).take 248 = Scenario.disguise) := by
  decide +kernel

/-- The compaction leaves the snapshot alone. -/
theorem compacted_files : Scenario.compacted.files =
    ⟨some (writeFrame persistenceMagic Scenario.gathered.collectState.payload), none⟩ := by
  obtain ⟨⟨-, opened, bounded, -⟩, -⟩ := forged_meets
  have last : Scenario.compacted = Scenario.gathered.step Scenario.terse ⟨Scenario.terseEnv, .compact⟩ :=
    run_snoc _ _ _ _
  rw [last]
  exact compact_files opened (by decide) bounded rfl

theorem compacted_snapshot {io : IoOutcome} (readable : io.read = none) :
    loadSnapshot Scenario.terse.limits io Scenario.compacted.files.snapshot =
      .ok Scenario.gathered.collectState := by
  obtain ⟨⟨keeps, -, bounded, epoch, policyGeneration⟩, -⟩ := forged_meets
  have small : Scenario.terse.limits.maxPersistBytes < 2 ^ 32 := by decide
  -- A run in which every call succeeds leaves a store that loads.
  have along : Along (step Scenario.terse) (KeepsReadable Scenario.terse) (initial 0)
      (Scenario.bothRequested ++ [⟨Scenario.terseEnv, .compact⟩]) := by
    refine along_keepsReadable small ?_ keeps
    simp [Scenario.bothRequested, Scenario.firstInstalled, Scenario.enrolled, Scenario.terseEnv]
  obtain ⟨loaded, loads, -⟩ := run_durable rfl along readable
  have files : (run (step Scenario.terse) (initial 0)
    (Scenario.bothRequested ++ [⟨Scenario.terseEnv, .compact⟩])).files = _ := compacted_files
  rw [files] at loads
  have framed : ∀ state ∈ some Scenario.gathered.collectState, state.Framed Scenario.terse.limits := by
    intro state member
    obtain rfl := Option.mem_some_iff.mp member
    exact ⟨⟨epoch, policyGeneration⟩, bounded⟩
  have read := loadSnapshot_framed small framed io
  rw [Option.map_some] at read
  rw [compacted_files]
  rcases read with ⟨failure, failed⟩ | ⟨-, read⟩
  · unfold load at loads
    simp [failed] at loads
  · exact read

/-- The reconciliation stops inside its frame. -/
theorem stopped_files : Scenario.stopped.files =
    trailed Scenario.compacted.files
      ((writeFrame journalEntryMagic Scenario.tornEntry.payload).take 283) := by
  obtain ⟨-, ⟨opened, valid, bounded⟩, -⟩ := forged_meets
  have found : Scenario.compacted.routes[(⟨1⟩ : RouteId)]? = some Scenario.firstRoute :=
    (Option.some_get _).symm
  have stopped : Scenario.stopped = _ := @reconcile_short Scenario.terse Scenario.stopping
    Scenario.compacted Scenario.firstRoute ⟨1⟩ Scenario.longQuery 283 "disk full" opened rfl found valid
    bounded rfl
  rw [stopped]
  rfl

/-- The report on the other route is written whole. -/
theorem forged_files : (run (step Scenario.terse) (initial 0) Scenario.forged).files =
    trailed Scenario.stopped.files
      (writeFrame journalEntryMagic (Scenario.reportEntry Scenario.forgery).payload) := by
  obtain ⟨-, -, ⟨opened, waits, unresolved, found, current, next, bounded⟩, -⟩ := forged_meets
  have last : run (step Scenario.terse) (initial 0) Scenario.forged =
      Scenario.stopped.step Scenario.terse
        ⟨Scenario.terseEnv, .complete (Scenario.report Scenario.forgery)⟩ :=
    (run_snoc _ _ _ _).trans (congrArg (step Scenario.terse _) (run_snoc _ _ _ _))
  rw [last]
  exact @complete_files Scenario.terse Scenario.terseEnv Scenario.stopped Scenario.secondRoute
    Scenario.secondAttempt (Scenario.report Scenario.forgery) .installed opened rfl waits unresolved found
    current next bounded rfl

/-- From the middle of the text on, the forged entry is the report up to its own text, and
that text. -/
theorem reported_frame : ∃ rest,
    writeFrame journalEntryMagic (Scenario.reportEntry Scenario.forgery).payload =
      Scenario.forgedEntry.payload.drop 267 ++ (frameTrailer Scenario.forgedEntry.payload ++ rest) ∧
    nextFrame Scenario.terse.limits rest = none := by
  obtain ⟨-, -, -, ⟨short, disguised, long, unmarked⟩, -, -, -, -, -, -, -, middle⟩ := forged_meets
  have text : (Scenario.reportedRoute Scenario.forgery).applied.detail = Scenario.forgery :=
    @completed_detail Scenario.secondRoute Scenario.terse.historyLimit Scenario.terseEnv.backend.id
      Scenario.secondAttempt (Scenario.report Scenario.forgery) .installed short
  have parts := @JournalEntry.frame_parts (Scenario.reportEntry Scenario.forgery)
    (Scenario.reportedRoute Scenario.forgery) rfl
  rw [text, disguised] at parts
  have parted : Scenario.forgedEntry.payload.drop 267 =
      Scenario.disguise ++ Scenario.forgedEntry.payload.drop 515 := by
    have whole := List.take_append_drop 248 (Scenario.forgedEntry.payload.drop 267)
    rw [List.drop_drop, middle] at whole
    exact whole.symm
  refine ⟨(Scenario.reportEntry Scenario.forgery).frameAfter (Scenario.reportedRoute Scenario.forgery),
    parts.trans ?_, nextFrame_unmarked ?_⟩
  · rw [parted, Scenario.forgery]
    simp only [List.append_assoc]
  · rw [JournalEntry.frameAfter, List.flatten_cons, wordAt_append long]
    exact unmarked

theorem forgedEntry_recorded : Scenario.forgedEntry.Recorded Scenario.terse.limits := by
  obtain ⟨-, -, -, -, bounded, accepted, epoch, policyGeneration, -⟩ := forged_meets
  have small : Scenario.terse.limits.maxPersistBytes < 2 ^ 32 := by decide
  have fits : Scenario.forgedEntry.payload.length < 2 ^ 32 := Nat.lt_of_le_of_lt bounded small
  have reads := reads_journalPayload ⟨epoch, policyGeneration⟩ (JournalEntry.measured fits) Scenario.terse.limits
  refine ⟨?_, bounded, fits⟩
  -- A payload that is not storable is refused.
  by_contra unstorable
  obtain ⟨why, refused⟩ := reads.refuse unstorable []
  rw [List.append_nil] at refused
  rw [refused] at accepted
  cases accepted

/-- The journal of the forged run: one entry, and bytes at which no frame starts. -/
theorem forged_holds : ∃ rest, StoreHolds Scenario.terse.limits
    (run (step Scenario.terse) (initial 0) Scenario.forged).files Scenario.gathered.collectState
    [Scenario.forgedEntry] rest := by
  obtain ⟨rest, reported, unmarked⟩ := reported_frame
  obtain ⟨-, -, -, -, -, -, -, -, same, within, start, -⟩ := forged_meets
  refine ⟨rest, ?_, ?_, ?_, unmarked⟩
  · rw [forged_files, trailed_snapshot, stopped_files, trailed_snapshot]
    exact fun io readable => compacted_snapshot readable
  · have completed := @writeFrame_completed journalEntryMagic 267 Scenario.tornEntry.payload
      Scenario.forgedEntry.payload same within start rest
    have image : journalImage [Scenario.forgedEntry] =
        writeFrame journalEntryMagic Scenario.forgedEntry.payload := List.append_nil _
    rw [forged_files, trailed_journal, stopped_files, trailed_journal, compacted_files, Option.getD_none,
      List.nil_append, image, ← completed, reported]
    rfl
  · intro entry member
    obtain rfl := List.mem_singleton.mp member
    exact forgedEntry_recorded

/-- The route is reported current, although its publisher is registered for an earlier epoch. -/
theorem torn_append_forges :
    ∃ record, (run (step Scenario.terse) (initial 0) Scenario.misled).routes[(⟨1⟩ : RouteId)]? = some record ∧
      (run (step Scenario.terse) (initial 0) Scenario.misled).currentnessOf Scenario.terseEnv record =
        .current ∧
      ¬ Warranted Scenario.terseEnv (run (step Scenario.terse) (initial 0) Scenario.misled) record := by
  obtain ⟨rest, holds⟩ := forged_holds
  have loads := @StoreHolds.load_eq Scenario.terse.limits (Scenario.terseEnv.io 0) _ _ _ rest holds rfl rfl
  have opens : run (step Scenario.terse) (initial 0)
      (Scenario.forged ++ [⟨Scenario.terseEnv, .restart 2⟩]) = _ :=
    (run_snoc _ _ _ _).trans (restart_eq _ _ _ _)
  rw [openRuntime_eq (by decide) (by decide) loads] at opens
  have misled : run (step Scenario.terse) (initial 0) Scenario.misled = _ := run_append _ _ _
  rw [opens] at misled
  have reported : ((run (step Scenario.terse) (initial 0) Scenario.misled).routes[(⟨1⟩ : RouteId)]?.map
      fun record => ((run (step Scenario.terse) (initial 0) Scenario.misled).currentnessOf
          Scenario.terseEnv record,
        ((run (step Scenario.terse) (initial 0) Scenario.misled).authorize
          record.provenance.publisher record.provenance.workerBoot).isOk)) = some (.current, false) := by
    rw [misled]
    decide +kernel
  obtain ⟨record, found, answers⟩ := Option.map_eq_some_iff.mp reported
  obtain ⟨current, unauthorized⟩ := Prod.mk.inj answers
  refine ⟨record, found, current, fun warranted => ?_⟩
  obtain ⟨registration, authorized⟩ := warranted.authorized
  rw [authorized] at unauthorized
  cases unauthorized

end Impl

end RouteFabric
