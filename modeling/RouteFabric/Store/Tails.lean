import RouteFabric.Store.Trails

/-!
# Torn tails

A process can end while it appends a frame, and an append can fail after a part of the
frame reached the file. Loading cuts such a tail off: the scan stops at every strict prefix
of a frame, wherever the cut is. A tail that the store leaves in place is another matter: an
entry appended behind it is not found again.

`RouteStore` adds to the files what the store counts of its journal.
-/

namespace RouteFabric

open ByteReader

variable {limits : Limits} {io : IoOutcome} {entries : List JournalEntry} {tail : Bytes}

/-! ## The store with its counts -/

/-- The files of a store and the number of entries and bytes of its journal. -/
structure RouteStore where
  files : StoreFiles
  journalEntries : Nat := 0
  journalBytes : Nat := 0

/-- The number of frames that the scan of a journal takes. -/
def countFrames (limits : Limits) : Nat → Bytes → Nat
  | 0, _ => 0
  | fuel + 1, remaining =>
      match nextFrame limits remaining with
      | none => 0
      | some (_, rest) => countFrames limits fuel rest + 1

namespace RouteStore

/-- Reads the snapshot and replays the journal, and counts what it replays. -/
def load (limits : Limits) (io : IoOutcome) (store : RouteStore) : RouteStore × Expected PersistedState :=
  match loadSnapshot limits io store.files.snapshot with
  | .error failure => (store, .error failure)
  | .ok base =>
      match store.files.journal with
      | none => ({ files := store.files }, .ok base)
      | some journal =>
          match io.read with
          | some why =>
              ({ files := store.files },
                makeError .persistenceFailure ("cannot read store journal: " ++ why))
          | none =>
              let scanned := replayJournal limits journal.length base journal
              let validBytes := journal.length - scanned.2.length
              let counted : RouteStore :=
                { files := store.files
                  journalEntries := countFrames limits journal.length journal
                  journalBytes := validBytes }
              if scanned.2 = [] then (counted, .ok scanned.1)
              else match io.truncate with
                | some why =>
                    (counted, makeError .persistenceFailure
                      ("cannot truncate torn journal tail: " ++ why))
                | none =>
                    ({ counted with files := { store.files with journal := some (journal.take validBytes) } },
                      .ok scanned.1)

/-- Appends one journal entry, and counts it when it was flushed. -/
def appendJournal (limits : Limits) (io : IoOutcome) (store : RouteStore) (entry : JournalEntry) :
    RouteStore × Status :=
  match RouteFabric.appendJournal limits io store.files entry with
  | (files, .error failure) => ({ store with files := files }, .error failure)
  | (files, .ok ()) =>
      ({ files := files
         journalEntries := store.journalEntries + 1
         journalBytes := store.journalBytes + (encodeJournalEntry entry limits).length }, .ok ())

/-- The counts aside, loading a store is loading its files. -/
theorem load_files (limits : Limits) (io : IoOutcome) (store : RouteStore) :
    ((store.load limits io).1.files, (store.load limits io).2) = RouteFabric.load limits io store.files := by
  unfold load RouteFabric.load
  cases loadSnapshot limits io store.files.snapshot with
  | error failure => rfl
  | ok base =>
      cases store.files.journal with
      | none => rfl
      | some journal =>
          cases io.read with
          | some why => rfl
          | none =>
              by_cases complete : (replayJournal limits journal.length base journal).2 = []
              · simp only [complete, if_true]
              · simp only [complete, if_false]
                cases io.truncate <;> rfl

end RouteStore

/-! ## Torn frames -/

theorem countFrames_recorded (recorded : ∀ entry ∈ entries, entry.Recorded limits)
    (stops : nextFrame limits tail = none) {fuel : Nat}
    (enough : (journalImage entries ++ tail).length ≤ fuel) :
    countFrames limits fuel (journalImage entries ++ tail) = entries.length := by
  induction entries generalizing fuel with
  | nil =>
      cases fuel with
      | zero => rfl
      | succ fuel =>
          have image : journalImage [] ++ tail = tail := rfl
          rw [image, countFrames, stops]
          rfl
  | cons entry rest ih =>
      have image : journalImage (entry :: rest) ++ tail =
          writeFrame journalEntryMagic entry.payload ++ (journalImage rest ++ tail) :=
        List.append_assoc _ _ _
      have size := length_writeFrame journalEntryMagic entry.payload
      rw [image, List.length_append] at enough
      obtain ⟨fuel, rfl⟩ : ∃ less, fuel = less + 1 := ⟨fuel - 1, by omega⟩
      rw [image, countFrames, (recorded entry List.mem_cons_self).nextFrame]
      simp only [List.length_cons]
      rw [ih (fun other member => recorded other (List.mem_cons_of_mem _ member)) (by omega)]

/-- What loading a store gives whose journal holds the given entries. -/
theorem StoreHolds.load_counted {store : RouteStore} {base : PersistedState}
    (holds : StoreHolds limits store.files base entries tail) (readable : io.read = none)
    (writable : io.truncate = none) :
    ∃ after : RouteStore, store.load limits io = (after, .ok (entries.foldl PersistedState.replay base)) ∧
      after.files.snapshot = store.files.snapshot ∧ after.files.journal.getD [] = journalImage entries ∧
      after.journalEntries = entries.length ∧ after.journalBytes = (journalImage entries).length := by
  have snapshot := holds.snapshot io readable
  have journal := holds.journal
  unfold RouteStore.load
  simp only [snapshot]
  split
  · rename_i absent
    rw [absent, Option.getD_none] at journal
    obtain ⟨image, -⟩ := List.append_eq_nil_iff.mp journal.symm
    obtain rfl := journalImage_eq_nil.mp image
    exact ⟨_, rfl, rfl, by rw [absent]; rfl, rfl, rfl⟩
  · rename_i image present
    rw [present, Option.getD_some] at journal
    subst journal
    have scanned := replayJournal_recorded holds.recorded holds.stops (le_refl _) base
    have counted := countFrames_recorded holds.recorded holds.stops (le_refl _)
    simp only [readable, scanned, counted]
    simp only [List.length_append, Nat.add_sub_cancel, List.take_left]
    split
    · rename_i complete
      refine ⟨_, rfl, rfl, ?_, rfl, rfl⟩
      rw [present, complete, List.append_nil]
      rfl
    · simp only [writable]
      exact ⟨_, rfl, rfl, rfl, rfl, rfl⟩

/-- A snapshot file that decodes, or none. -/
def Snapshotted (limits : Limits) (snapshot : Option Bytes) (base : PersistedState) : Prop :=
  match snapshot with
  | none => base = {}
  | some image => decodeSnapshot image limits = .ok base

theorem Snapshotted.loads {snapshot : Option Bytes} {base : PersistedState}
    (accepted : Snapshotted limits snapshot base) (readable : io.read = none) :
    loadSnapshot limits io snapshot = .ok base := by
  cases snapshot with
  | none => exact congrArg Except.ok accepted.symm
  | some image =>
      have decoded : decodeSnapshot image limits = .ok base := accepted
      simp [loadSnapshot, readable, decoded]

/-- An entry with the stored route, its revocation and its attempt. -/
def Stored.journaled : JournalEntry :=
  { epoch := .one, policyGeneration := .one, upserts := Stored.state.routes,
    revocations := Stored.state.revocations, attempts := Stored.state.attempts }

theorem Stored.journaled_recorded : Stored.journaled.Recorded Stored.limits := by
  have short : Stored.journaled.payload.length ≤ 1024 := by decide +kernel
  have fits : Stored.journaled.payload.length < 2 ^ 32 := short.trans_lt (by decide)
  exact ⟨⟨CounterId.storable_one, CounterId.storable_one,
    Stored.accepted.storable (JournalEntry.measured fits)⟩, short.trans (by decide), fits⟩

theorem Stored.journaled_decodes :
    decodeJournalEntry (writeFrame journalEntryMagic Stored.journaled.payload) Stored.limits =
      .ok Stored.journaled :=
  (decodeJournalEntry_encode Stored.journaled_recorded.storable.formed Stored.journaled_recorded.bounded
    Stored.journaled_recorded.fits).1 Stored.journaled_recorded.storable

def Stored.frame : Bytes := writeFrame journalEntryMagic Stored.journaled.payload

/-- The last append was cut inside the payload. -/
def Stored.torn : RouteStore := { files := { journal := some (Stored.frame ++ Stored.frame.take 20) } }

/-- One call of the store: the entry and what the file system does with it. -/
structure Append where
  entry : JournalEntry
  io : IoOutcome

/-- The calls in order: the store they leave and the entries that were acknowledged. -/
def appendAll (limits : Limits) : RouteStore → List Append → RouteStore × List JournalEntry
  | store, [] => (store, [])
  | store, call :: rest =>
      match store.appendJournal limits call.io call.entry with
      | (after, .ok ()) =>
          ((appendAll limits after rest).1, call.entry :: (appendAll limits after rest).2)
      | (after, .error _) => appendAll limits after rest

/-- The bytes of a call that reach the file. -/
def Append.reached (limits : Limits) (call : Append) : Bytes :=
  match call.io.append with
  | none => encodeJournalEntry call.entry limits
  | some (written, _) => (encodeJournalEntry call.entry limits).take written

/-- Whether the image that a call writes, if it writes one, decodes to its entry. -/
def Append.Decodes (limits : Limits) (call : Append) : Prop :=
  encodeJournalEntry call.entry limits ≠ [] →
    decodeJournalEntry (encodeJournalEntry call.entry limits) limits = .ok call.entry

/-- Calls that leave no torn frame in the middle of the journal: what a failed call leaves
behind is less than its frame, and nothing is written after it. -/
def Untorn (limits : Limits) (calls : List Append) : Prop :=
  ∀ earlier call later, calls = earlier ++ call :: later → call.io.append ≠ none →
    call.reached limits ≠ [] →
    (call.reached limits).length < (encodeJournalEntry call.entry limits).length ∧
      ∀ other ∈ later, other.reached limits = []

theorem Untorn.rest {call : Append} {rest : List Append} (untorn : Untorn limits (call :: rest)) :
    Untorn limits rest := by
  intro earlier other later split
  exact untorn (call :: earlier) other later (by rw [split]; rfl)

/-- What one call does: it is acknowledged and its frame is in the journal, or it is not
and what reached the file is. -/
theorem RouteStore.appendJournal_cases (limits : Limits) (store : RouteStore) (call : Append) :
    (call.io.append = none ∧ encodeJournalEntry call.entry limits ≠ [] ∧ ∃ after,
        store.appendJournal limits call.io call.entry = (after, .ok ()) ∧
          RouteFabric.appendJournal limits call.io store.files call.entry = (after.files, .ok ())) ∨
      (call.io.append ≠ none ∨ encodeJournalEntry call.entry limits = []) ∧ ∃ after failure,
        store.appendJournal limits call.io call.entry = (after, .error failure) ∧
          after.files.snapshot = store.files.snapshot ∧
          after.files.journal.getD [] = store.files.journal.getD [] ++ call.reached limits := by
  unfold RouteStore.appendJournal RouteFabric.appendJournal Append.reached
  by_cases refused : encodeJournalEntry call.entry limits = []
  · right
    simp only [refused, if_true, makeError, List.take_nil]
    refine ⟨.inr trivial, _, _, rfl, rfl, ?_⟩
    split <;> simp
  · cases failed : call.io.append with
    | none =>
        left
        simp only [refused, if_false]
        exact ⟨trivial, refused, _, rfl, rfl⟩
    | some torn =>
        obtain ⟨written, why⟩ := torn
        right
        simp only [refused, if_false, makeError]
        exact ⟨.inl (by simp), _, _, rfl, rfl, rfl⟩

/-- Calls that write nothing leave the files alone and acknowledge nothing. -/
theorem appendAll_unwritten {calls : List Append} (unwritten : ∀ call ∈ calls, call.reached limits = [])
    (store : RouteStore) :
    (appendAll limits store calls).2 = [] ∧
      (appendAll limits store calls).1.files.snapshot = store.files.snapshot ∧
      (appendAll limits store calls).1.files.journal.getD [] = store.files.journal.getD [] := by
  induction calls generalizing store with
  | nil => exact ⟨rfl, rfl, rfl⟩
  | cons call rest ih =>
      have nothing := unwritten call List.mem_cons_self
      unfold appendAll
      rcases store.appendJournal_cases limits call with
        ⟨whole, written, -⟩ | ⟨-, after, failure, failed, snapshot, journal⟩
      · simp only [Append.reached, whole] at nothing
        exact absurd nothing written
      · rw [failed]
        obtain ⟨none, sameSnapshot, sameJournal⟩ :=
          ih (fun other member => unwritten other (List.mem_cons_of_mem _ member)) after
        rw [nothing, List.append_nil] at journal
        exact ⟨none, sameSnapshot.trans snapshot, sameJournal.trans journal⟩

/-- After calls that leave no torn frame in the middle, a load replays what the store held
and exactly the entries that were acknowledged, in order. -/
theorem appendAll_holds {calls : List Append} {store : RouteStore} {base : PersistedState}
    (untorn : Untorn limits calls) (decodes : ∀ call ∈ calls, call.Decodes limits)
    (holds : StoreHolds limits store.files base entries []) :
    ∃ tail, StoreHolds limits (appendAll limits store calls).1.files base
      (entries ++ (appendAll limits store calls).2) tail := by
  induction calls generalizing store entries with
  | nil => exact ⟨[], by simpa [appendAll] using holds⟩
  | cons call rest ih =>
      have each : ∀ other ∈ rest, other.Decodes limits := fun other member =>
        decodes other (List.mem_cons_of_mem _ member)
      unfold appendAll
      rcases store.appendJournal_cases limits call with
        ⟨-, image, after, acknowledged, written⟩ | ⟨cause, after, failure, failed, snapshot, journal⟩
      · rw [acknowledged]
        obtain ⟨bounded, snapshot, journal⟩ := appendJournal_ok written
        have frame : encodeJournalEntry call.entry limits = writeFrame journalEntryMagic call.entry.payload :=
          if_neg (Nat.not_lt.mpr bounded)
        have decoded := decodes call List.mem_cons_self image
        obtain ⟨-, recorded⟩ := decodeJournalEntry_recorded decoded
        have longer : StoreHolds limits after.files base (entries ++ [call.entry]) [] := by
          refine ⟨fun io readable => snapshot ▸ holds.snapshot io readable, ?_, ?_, nextFrame_nil⟩
          · rw [journal, holds.journal, journalImage_append]
            simp [journalImage]
          · intro entry member
            rcases List.mem_append.mp member with old | new
            · exact holds.recorded entry old
            · exact List.mem_singleton.mp new ▸ recorded
        obtain ⟨tail, reached⟩ := ih untorn.rest each longer
        rw [List.append_assoc] at reached
        exact ⟨tail, reached⟩
      · rw [failed]
        have kept : ∀ io : IoOutcome, io.read = none → loadSnapshot limits io after.files.snapshot = .ok base :=
          fun io readable => snapshot ▸ holds.snapshot io readable
        rw [holds.journal, List.append_nil] at journal
        by_cases nothing : call.reached limits = []
        · refine ih untorn.rest each ⟨kept, ?_, holds.recorded, nextFrame_nil⟩
          rw [journal, nothing]
        · -- A part of the frame is in the file, and nothing is written behind it.
          have broke : call.io.append ≠ none := by
            rcases cause with broke | refused
            · exact broke
            · exact absurd (by unfold Append.reached; split <;> simp [refused]) nothing
          obtain ⟨strict, unwritten⟩ := untorn [] call rest rfl broke nothing
          obtain ⟨none, sameSnapshot, sameJournal⟩ := appendAll_unwritten unwritten after
          have image : encodeJournalEntry call.entry limits ≠ [] := by
            intro empty
            rw [empty] at strict
            exact absurd strict (Nat.not_lt_zero _)
          obtain ⟨frame, recorded⟩ := decodeJournalEntry_recorded (decodes call List.mem_cons_self image)
          have cut : call.reached limits <+: encodeJournalEntry call.entry limits := by
            unfold Append.reached
            split
            · exact List.prefix_refl _
            · exact List.take_prefix _ _
          rw [frame] at cut strict
          rw [none, List.append_nil]
          exact ⟨call.reached limits, fun io readable => sameSnapshot ▸ kept io readable,
            sameJournal.trans journal, holds.recorded, nextFrame_torn recorded.fits cut strict⟩

/-- A load after the calls replays exactly the entries that were acknowledged, in order,
when no call left a torn frame in the middle of the journal. -/
theorem load_appendAll (limits : Limits) (io : IoOutcome) (store : RouteStore) (base : PersistedState)
    (entries : List JournalEntry) (calls : List Append) (readable : io.read = none)
    (writable : io.truncate = none) (holds : StoreHolds limits store.files base entries [])
    (decodes : ∀ call ∈ calls, call.Decodes limits) (untorn : Untorn limits calls) :
    ∃ after : RouteStore, (appendAll limits store calls).1.load limits io =
      (after, .ok ((entries ++ (appendAll limits store calls).2).foldl PersistedState.replay base)) := by
  obtain ⟨tail, reached⟩ := appendAll_holds untorn decodes holds
  obtain ⟨after, loads, -⟩ := reached.load_counted readable writable
  exact ⟨after, loads⟩

/-- An empty store. -/
theorem storeHolds_empty (limits : Limits) : StoreHolds limits {} {} [] [] :=
  ⟨fun _ _ => rfl, rfl, fun _ member => absurd member List.not_mem_nil, nextFrame_nil⟩

theorem Stored.encode_journaled : encodeJournalEntry Stored.journaled Stored.limits = Stored.frame :=
  if_neg (Nat.not_lt.mpr Stored.journaled_recorded.bounded)

/-- An append that is cut after its first byte. -/
def Stored.cut : Append := ⟨Stored.journaled, { append := some (1, "short write") }⟩

def Stored.whole : Append := ⟨Stored.journaled, {}⟩

theorem Stored.reached_cut : Stored.cut.reached Stored.limits = [0x52] := by
  rw [Append.reached]
  simp only [Stored.cut, Stored.encode_journaled]
  rfl

/-- The last append is cut. -/
theorem load_appendAll_cutLast :
    ∃ after : RouteStore,
      (appendAll Stored.limits { files := {} } [Stored.whole, Stored.cut]).1.load Stored.limits {} =
        (after, .ok (({} : PersistedState).replay Stored.journaled)) := by
  have size : Stored.frame.length = _ := length_writeFrame journalEntryMagic Stored.journaled.payload
  have decodes : ∀ call ∈ [Stored.whole, Stored.cut], call.Decodes Stored.limits := by
    have journaled : ∀ call : Append, call.entry = Stored.journaled → call.Decodes Stored.limits := by
      intro call same _
      rw [same, Stored.encode_journaled]
      exact Stored.journaled_decodes
    intro call member
    simp only [List.mem_cons, List.not_mem_nil, or_false] at member
    rcases member with rfl | rfl
    · exact journaled _ rfl
    · exact journaled _ rfl
  have untorn : Untorn Stored.limits [Stored.whole, Stored.cut] := by
    intro earlier call later split failed _
    match earlier with
    | [] =>
        obtain ⟨rfl, -⟩ := List.cons_eq_cons.mp split
        exact absurd rfl failed
    | [first] =>
        obtain ⟨rfl, rfl⟩ := List.cons_eq_cons.mp (List.cons_eq_cons.mp split).2
        refine ⟨?_, fun _ member => absurd member List.not_mem_nil⟩
        have whole : encodeJournalEntry Stored.cut.entry Stored.limits = Stored.frame := Stored.encode_journaled
        rw [Stored.reached_cut, whole, List.length_singleton]
        omega
    | first :: second :: rest =>
        have length := congrArg List.length split
        simp only [List.length_cons, List.length_append, List.length_nil] at length
        omega
  obtain ⟨after, loads⟩ := load_appendAll Stored.limits {} { files := {} } {} [] [Stored.whole, Stored.cut] rfl
    rfl (storeHolds_empty _) decodes untorn
  have acknowledged : (appendAll Stored.limits { files := {} } [Stored.whole, Stored.cut]).2 =
      [Stored.journaled] := by decide +kernel
  rw [acknowledged] at loads
  exact ⟨after, loads⟩

/-- The first of two appends is cut: the second is acknowledged, and lost at the next load. -/
theorem torn_append_loses :
    (appendAll Stored.limits { files := {} } [Stored.cut, Stored.whole]).2 = [Stored.journaled] ∧
      (∃ after : RouteStore,
        (appendAll Stored.limits { files := {} } [Stored.cut, Stored.whole]).1.load Stored.limits {} =
          (after, .ok {})) ∧
      ({} : PersistedState) ≠ ({} : PersistedState).replay Stored.journaled := by
  have acknowledged : (appendAll Stored.limits { files := {} } [Stored.cut, Stored.whole]).2 =
      [Stored.journaled] := by decide +kernel
  have left : (appendAll Stored.limits { files := {} } [Stored.cut, Stored.whole]).1.files =
      { journal := some (0x52 :: Stored.frame) } := by
    have nonempty : Stored.frame ≠ [] := by decide +kernel
    have cut : Stored.frame.take 1 = [0x52] := by decide +kernel
    simp only [appendAll, RouteStore.appendJournal, appendJournal, Stored.cut, Stored.whole,
      Stored.encode_journaled, nonempty, if_false, makeError, cut]
    rfl
  have stops : nextFrame Stored.limits (0x52 :: Stored.frame) = none := by
    have differs : wordAt (0x52 :: Stored.frame) 0 8 ≠ journalEntryMagic := by decide +kernel
    unfold nextFrame
    rw [if_pos differs, ite_self]
  have holds : StoreHolds Stored.limits
      (appendAll Stored.limits { files := {} } [Stored.cut, Stored.whole]).1.files {} [] (0x52 :: Stored.frame) := by
    rw [left]
    exact ⟨fun _ _ => rfl, rfl, fun _ member => absurd member List.not_mem_nil, stops⟩
  obtain ⟨after, loads, -⟩ := @StoreHolds.load_counted Stored.limits {} _ _ _ _ holds rfl rfl
  exact ⟨acknowledged, ⟨after, loads⟩, by decide +kernel⟩

end RouteFabric
