import RouteFabric.Store.Canonical

/-!
# The store on disk

A store is a snapshot file and a journal file. Saving replaces the snapshot atomically
and removes the journal; appending extends the journal by one frame. Loading decodes the
snapshot and replays the frames of the journal up to the first one that does not decode,
where it cuts the file. What each file operation does is an input of the model.

`Represents` describes files that were written through these operations, and
`Represents.load` says what loading them gives: nothing, or the snapshot with a prefix
of the entries replayed, all of them when every entry decodes.
-/

namespace RouteFabric

open ByteReader

/-- The two files of a store; `none` when the file does not exist. -/
structure StoreFiles where
  snapshot : Option Bytes := none
  journal : Option Bytes := none
deriving DecidableEq

/-- What the file system does with the operations of one store call. A failure carries
its reason. -/
structure IoOutcome where
  /-- A failed append leaves a prefix of the image behind. -/
  append : Option (Nat × String) := none
  replace : Option String := none
  /-- Whether removing the journal file succeeds; the store ignores a failure. -/
  remove : Bool := true
  read : Option String := none
  truncate : Option String := none

/-- A file system on which an append that fails leaves nothing behind, and on which the
journal is removed when it should be. -/
structure IoOutcome.Clean (io : IoOutcome) : Prop where
  append : ∀ written why, io.append = some (written, why) → written = 0
  remove : io.remove = true

/-! ## Writing -/

/-- Atomically replaces the snapshot and clears the journal. -/
def saveSnapshot (limits : Limits) (io : IoOutcome) (files : StoreFiles) (state : PersistedState) :
    StoreFiles × Status :=
  let image := encodeSnapshot state limits
  if image = [] then
    (files, makeError .limitExceeded "encoded snapshot exceeds the configured bound")
  else match io.replace with
    | some why => (files, makeError .persistenceFailure ("cannot write store snapshot: " ++ why))
    | none => (⟨some image, if io.remove then none else files.journal⟩, .ok ())

/-- Appends one journal entry and flushes it. -/
def appendJournal (limits : Limits) (io : IoOutcome) (files : StoreFiles) (entry : JournalEntry) :
    StoreFiles × Status :=
  let image := encodeJournalEntry entry limits
  if image = [] then
    (files, makeError .limitExceeded "encoded journal entry exceeds the configured bound")
  else match io.append with
    | some (written, why) =>
        ({ files with journal := some (files.journal.getD [] ++ image.take written) },
          makeError .persistenceFailure ("cannot append store journal: " ++ why))
    | none => ({ files with journal := some (files.journal.getD [] ++ image) }, .ok ())

/-! ## Loading -/

/-- One round of the journal scan: the next entry and what follows it, unless the scan
stops here. -/
def nextFrame (limits : Limits) (remaining : Bytes) : Option (JournalEntry × Bytes) :=
  if remaining.length < persistFrameHeaderBytes + persistFrameTrailerBytes then none
  else if wordAt remaining 0 8 ≠ journalEntryMagic then none
  else
    let payloadLength := wordAt remaining 12 4
    let frameSize := persistFrameHeaderBytes + payloadLength + persistFrameTrailerBytes
    if limits.maxPersistBytes < payloadLength then none
    else if remaining.length < frameSize then none
    else match decodeJournalEntry (remaining.take frameSize) limits with
      | .error _ => none
      | .ok entry => some (entry, remaining.drop frameSize)

/-- The journal scan from a given state: the state after the entries that decode, and the
bytes from the first one that does not. -/
def replayJournal (limits : Limits) : Nat → PersistedState → Bytes → PersistedState × Bytes
  | 0, state, remaining => (state, remaining)
  | fuel + 1, state, remaining =>
      match nextFrame limits remaining with
      | none => (state, remaining)
      | some (entry, rest) => replayJournal limits fuel (state.replay entry) rest

def loadSnapshot (limits : Limits) (io : IoOutcome) : Option Bytes → Expected PersistedState
  | none => .ok {}
  | some image =>
      match io.read with
      | some why => makeError .persistenceFailure ("cannot read store snapshot: " ++ why)
      | none =>
          match decodeSnapshot image limits with
          | .error why => makeError .persistenceFailure ("corrupt store snapshot: " ++ why)
          | .ok state => .ok state

/-- Reads the snapshot and replays the journal; a tail that does not decode is cut off. -/
def load (limits : Limits) (io : IoOutcome) (files : StoreFiles) : StoreFiles × Expected PersistedState :=
  match loadSnapshot limits io files.snapshot with
  | .error failure => (files, .error failure)
  | .ok base =>
      match files.journal with
      | none => (files, .ok base)
      | some journal =>
          match io.read with
          | some why =>
              (files, makeError .persistenceFailure ("cannot read store journal: " ++ why))
          | none =>
              let scanned := replayJournal limits journal.length base journal
              if scanned.2 = [] then (files, .ok scanned.1)
              else match io.truncate with
                | some why =>
                    (files, makeError .persistenceFailure
                      ("cannot truncate torn journal tail: " ++ why))
                | none =>
                    ({ files with journal := some (journal.take (journal.length - scanned.2.length)) },
                      .ok scanned.1)

/-- Every round of the scan consumes a frame, so the scan of a journal never runs out of
rounds: it stops where no frame decodes. -/
theorem nextFrame_shorter {limits : Limits} {remaining rest : Bytes} {entry : JournalEntry}
    (found : nextFrame limits remaining = some (entry, rest)) : rest.length < remaining.length := by
  unfold nextFrame at found
  split at found
  · simp at found
  split at found
  · simp at found
  simp only at found
  split at found
  · simp at found
  split at found
  · simp at found
  rename_i long _ _ _
  split at found
  · simp at found
  · simp only [Option.some.injEq, Prod.mk.injEq] at found
    rw [← found.2, List.length_drop]
    simp only [persistFrameHeaderBytes, persistFrameTrailerBytes] at long ⊢
    omega

theorem replayJournal_stops {limits : Limits} {fuel : Nat} {state : PersistedState}
    {remaining : Bytes} (enough : remaining.length ≤ fuel) :
    nextFrame limits (replayJournal limits fuel state remaining).2 = none := by
  induction fuel generalizing state remaining with
  | zero =>
      have empty : remaining = [] := List.length_eq_zero_iff.mp (Nat.le_zero.mp enough)
      simp [replayJournal, empty, nextFrame, persistFrameHeaderBytes, persistFrameTrailerBytes]
  | succ fuel ih =>
      unfold replayJournal
      split
      · assumption
      · rename_i entry rest found
        exact ih (by have := nextFrame_shorter found; omega)

/-! ## What loading returns -/

theorem storable_laterCounter {tag : CounterTag} {current candidate : CounterId tag}
    (storable : current.Storable) (candidateStorable : candidate.Storable) :
    (laterCounter current candidate).Storable := by
  unfold laterCounter
  split
  · exact candidateStorable
  · exact storable

theorem PersistedState.Sound.replay {state : PersistedState} {entry : JournalEntry} {limits : Limits}
    (sound : state.Sound limits) (storable : entry.Storable limits) : (state.replay entry).Sound limits where
  epoch := storable_laterCounter sound.epoch storable.epoch
  policyGeneration := storable_laterCounter sound.policyGeneration storable.policyGeneration
  routes := by
    intro record member
    rcases PersistedState.mem_replay_routes member with added | kept
    · exact storable.body.routes record added
    · exact sound.routes record kept
  revocations := by
    intro revocation member
    rcases PersistedState.mem_replay_revocations member with added | kept
    · exact storable.body.revocations revocation added
    · exact sound.revocations revocation kept
  attempts := by
    intro attempt member
    rcases PersistedState.mem_replay_attempts member with added | kept
    · exact storable.body.attempts attempt added
    · exact sound.attempts attempt kept

/-- Every round takes a whole frame off the journal. -/
theorem nextFrame_recorded {limits : Limits} {remaining rest : Bytes} {entry : JournalEntry}
    (found : nextFrame limits remaining = some (entry, rest)) :
    remaining = writeFrame journalEntryMagic entry.payload ++ rest ∧ entry.Recorded limits := by
  unfold nextFrame at found
  split at found
  · cases found
  split at found
  · cases found
  simp only at found
  split at found
  · cases found
  split at found
  · cases found
  split at found
  · cases found
  · rename_i decoded
    obtain ⟨rfl, rfl⟩ := Prod.mk.inj (Option.some.inj found)
    obtain ⟨frame, recorded⟩ := decodeJournalEntry_recorded decoded
    refine ⟨?_, recorded⟩
    rw [← frame, List.take_append_drop]

theorem replayJournal_preserves {limits : Limits} {motive : PersistedState → Prop}
    (replays : ∀ state entry, motive state → entry.Recorded limits → motive (state.replay entry))
    {fuel : Nat} {state : PersistedState} {remaining : Bytes} (initially : motive state) :
    motive (replayJournal limits fuel state remaining).1 := by
  induction fuel generalizing state remaining with
  | zero => exact initially
  | succ fuel ih =>
      unfold replayJournal
      split
      · exact initially
      · rename_i entry rest found
        exact ih (replays _ _ initially (nextFrame_recorded found).2)

/-- The rule for what loading returns: what the empty state and every decoded snapshot
have, and what a decoded entry keeps when it is replayed. -/
theorem load_preserves {limits : Limits} {motive : PersistedState → Prop} (empty : motive {})
    (snapshots : ∀ state : PersistedState, state.Storable limits → state.payload.length < 2 ^ 32 →
      motive state)
    (replays : ∀ state entry, motive state → entry.Recorded limits → motive (state.replay entry))
    {io : IoOutcome} {files after : StoreFiles} {loaded : PersistedState}
    (succeeded : load limits io files = (after, .ok loaded)) : motive loaded := by
  have base : ∀ state, loadSnapshot limits io files.snapshot = .ok state → motive state := by
    intro state found
    unfold loadSnapshot at found
    split at found
    · obtain rfl := Except.ok.inj found
      exact empty
    · split at found
      · simp at found
      · split at found
        · simp at found
        · obtain rfl := Except.ok.inj found
          obtain ⟨-, storable, fits⟩ := decodeSnapshot_canonical ‹_›
          exact snapshots _ storable fits
  unfold load at succeeded
  split at succeeded
  · simp at succeeded
  rename_i state found
  split at succeeded
  · obtain ⟨-, same⟩ := Prod.mk.inj succeeded
    obtain rfl := Except.ok.inj same
    exact base _ found
  split at succeeded
  · simp at succeeded
  simp only at succeeded
  split at succeeded
  · obtain ⟨-, same⟩ := Prod.mk.inj succeeded
    obtain rfl := Except.ok.inj same
    exact replayJournal_preserves replays (base _ found)
  split at succeeded
  · simp at succeeded
  · obtain ⟨-, same⟩ := Prod.mk.inj succeeded
    obtain rfl := Except.ok.inj same
    exact replayJournal_preserves replays (base _ found)

/-- A store that loads gives what its readers accept, whatever bytes its files hold. -/
theorem load_sound {limits : Limits} {io : IoOutcome} {files after : StoreFiles} {loaded : PersistedState}
    (succeeded : load limits io files = (after, .ok loaded)) : loaded.Sound limits :=
  load_preserves (sound_empty limits) (fun _ storable _ => storable.sound)
    (fun _ _ sound recorded => sound.replay recorded.storable) succeeded

/-- No identity occurs twice in what a store gives back. -/
theorem load_unique {limits : Limits} {io : IoOutcome} {files after : StoreFiles} {loaded : PersistedState}
    (succeeded : load limits io files = (after, .ok loaded)) : loaded.Unique :=
  load_preserves unique_empty (fun _ storable _ => storable.unique)
    (fun _ entry unique _ => (unique.replay entry).1) succeeded

/-! ## Files written by the store -/

/-- The journal that holds the given entries. -/
def journalImage (entries : List JournalEntry) : Bytes :=
  entries.flatMap fun entry => writeFrame journalEntryMagic entry.payload

theorem journalImage_append (first second : List JournalEntry) :
    journalImage (first ++ second) = journalImage first ++ journalImage second :=
  List.flatMap_append

/-- Only the empty list of entries has an empty image. -/
theorem journalImage_eq_nil {entries : List JournalEntry} : journalImage entries = [] ↔ entries = [] := by
  constructor
  · intro empty
    cases entries with
    | nil => rfl
    | cons entry rest =>
        have length := congrArg List.length empty
        simp only [journalImage, List.flatMap_cons, List.length_append, length_writeFrame,
          List.length_nil] at length
        omega
  · rintro rfl
    rfl

/-- Entries that fit a frame under the given limits. -/
structure JournalEntry.Framed (entry : JournalEntry) (limits : Limits) : Prop where
  formed : entry.Formed
  bounded : entry.payload.length ≤ limits.maxPersistBytes

structure PersistedState.Framed (state : PersistedState) (limits : Limits) : Prop where
  formed : state.Formed
  bounded : state.payload.length ≤ limits.maxPersistBytes

/-- Files that hold an optional snapshot and a list of journal entries. -/
structure Represents (limits : Limits) (files : StoreFiles) (base : Option PersistedState)
    (entries : List JournalEntry) : Prop where
  snapshot : files.snapshot = base.map fun state => writeFrame persistenceMagic state.payload
  journal : files.journal.getD [] = journalImage entries
  baseFramed : ∀ state ∈ base, state.Framed limits
  entriesFramed : ∀ entry ∈ entries, entry.Framed limits

/-- What loading written files gives: the entries kept and dropped, and the files after. -/
structure Loaded (limits : Limits) (io : IoOutcome) (files : StoreFiles) (base : Option PersistedState)
    (entries kept dropped : List JournalEntry) (after : StoreFiles) : Prop where
  parts : entries = kept ++ dropped
  keptStorable : ∀ entry ∈ kept, entry.Storable limits
  stopped : ∀ entry ∈ dropped.head?, ¬ entry.Storable limits
  baseStorable : ∀ state ∈ base, state.Storable limits
  represents : Represents limits after base kept
  untouched : dropped = [] → after = files
  result : load limits io files = (after, .ok (kept.foldl PersistedState.replay (base.getD {})))

theorem appendJournal_ok {limits : Limits} {io : IoOutcome} {files after : StoreFiles} {entry : JournalEntry}
    (written : appendJournal limits io files entry = (after, .ok ())) :
    entry.payload.length ≤ limits.maxPersistBytes ∧ after.snapshot = files.snapshot ∧
      after.journal.getD [] = files.journal.getD [] ++ writeFrame journalEntryMagic entry.payload := by
  by_cases exceeds : limits.maxPersistBytes < entry.payload.length
  · simp [appendJournal, encodeJournalEntry, exceeds] at written
  have image : encodeJournalEntry entry limits = writeFrame journalEntryMagic entry.payload := if_neg exceeds
  unfold appendJournal at written
  rw [image] at written
  simp only at written
  split at written
  · simp at written
  split at written
  · simp at written
  obtain ⟨rfl, -⟩ := Prod.mk.inj written
  exact ⟨Nat.le_of_not_lt exceeds, rfl, rfl⟩

theorem appendJournal_succeeds {limits : Limits} {io : IoOutcome} {entry : JournalEntry}
    (bounded : entry.payload.length ≤ limits.maxPersistBytes) (writable : io.append = none)
    (files : StoreFiles) : ∃ after, appendJournal limits io files entry = (after, .ok ()) := by
  have image : encodeJournalEntry entry limits = writeFrame journalEntryMagic entry.payload :=
    if_neg (Nat.not_lt.mpr bounded)
  have nonempty : writeFrame journalEntryMagic entry.payload ≠ [] := by
    intro empty
    have length := length_writeFrame journalEntryMagic entry.payload
    rw [empty, List.length_nil] at length
    omega
  refine ⟨{ files with journal := some (files.journal.getD [] ++
    writeFrame journalEntryMagic entry.payload) }, ?_⟩
  simp only [appendJournal, image, nonempty, if_false, writable]

/-- An appended entry becomes the last one of the journal. -/
theorem Represents.append {limits : Limits} {io : IoOutcome} {files after : StoreFiles}
    {base : Option PersistedState} {entries : List JournalEntry} {entry : JournalEntry}
    (represents : Represents limits files base entries) (formed : entry.Formed)
    (written : appendJournal limits io files entry = (after, .ok ())) :
    Represents limits after base (entries ++ [entry]) := by
  obtain ⟨snapshot, journal, baseFramed, entriesFramed⟩ := represents
  obtain ⟨bounded, sameSnapshot, appended⟩ := appendJournal_ok written
  refine ⟨sameSnapshot.trans snapshot, ?_, baseFramed, ?_⟩
  · rw [appended, journal, journalImage_append]
    simp [journalImage]
  · intro other member
    rcases List.mem_append.mp member with old | new
    · exact entriesFramed other old
    · exact List.mem_singleton.mp new ▸ ⟨formed, bounded⟩

/-- A failed append that leaves nothing behind leaves the entries as they were. -/
theorem Represents.append_failed {limits : Limits} {io : IoOutcome} {files after : StoreFiles}
    {base : Option PersistedState} {entries : List JournalEntry} {entry : JournalEntry} {failure : Error}
    (represents : Represents limits files base entries)
    (nothing : ∀ written why, io.append = some (written, why) → written = 0)
    (failed : appendJournal limits io files entry = (after, .error failure)) :
    Represents limits after base entries := by
  unfold appendJournal at failed
  simp only at failed
  split at failed
  · obtain ⟨rfl, -⟩ := Prod.mk.inj failed
    exact represents
  split at failed
  · rename_i written why short
    obtain ⟨rfl, -⟩ := Prod.mk.inj failed
    obtain rfl := nothing written why short
    exact ⟨represents.snapshot, by simpa using represents.journal, represents.baseFramed,
      represents.entriesFramed⟩
  · simp at failed

/-- A saved snapshot replaces the one before, and the journal is empty when it was removed. -/
theorem Represents.save {limits : Limits} {io : IoOutcome} {files after : StoreFiles}
    {base : Option PersistedState} {entries : List JournalEntry} {state : PersistedState}
    (represents : Represents limits files base entries) (formed : state.Formed)
    (saved : saveSnapshot limits io files state = (after, .ok ())) :
    Represents limits after (some state) (if io.remove then [] else entries) := by
  by_cases exceeds : limits.maxPersistBytes < state.payload.length
  · simp [saveSnapshot, encodeSnapshot, exceeds] at saved
  have image : encodeSnapshot state limits = writeFrame persistenceMagic state.payload := if_neg exceeds
  unfold saveSnapshot at saved
  rw [image] at saved
  simp only at saved
  split at saved
  · simp at saved
  split at saved
  · simp at saved
  obtain ⟨rfl, -⟩ := Prod.mk.inj saved
  refine ⟨rfl, ?_, ?_, ?_⟩
  · cases io.remove with
    | true => rfl
    | false => exact represents.journal
  · intro other member
    obtain rfl := Option.mem_some_iff.mp member
    exact ⟨formed, Nat.le_of_not_lt exceeds⟩
  · intro entry member
    split at member
    · cases member
    · exact represents.entriesFramed entry member

theorem saveSnapshot_error {limits : Limits} {io : IoOutcome} {files after : StoreFiles}
    {state : PersistedState} {failure : Error}
    (failed : saveSnapshot limits io files state = (after, .error failure)) : after = files := by
  unfold saveSnapshot at failed
  simp only at failed
  split at failed
  · exact (Prod.mk.inj failed).1.symm
  split at failed
  · exact (Prod.mk.inj failed).1.symm
  · simp at failed

/-- At a written frame the scan takes the entry exactly when it is storable. -/
theorem nextFrame_writeFrame {limits : Limits} {entry : JournalEntry} (framed : entry.Framed limits)
    (fits : entry.payload.length < 2 ^ 32) (rest : Bytes) :
    (entry.Storable limits →
      nextFrame limits (writeFrame journalEntryMagic entry.payload ++ rest) = some (entry, rest)) ∧
    (¬ entry.Storable limits →
      nextFrame limits (writeFrame journalEntryMagic entry.payload ++ rest) = none) := by
  have layout := writeFrame_layout journalEntryMagic (by decide) fits rest
  have size := length_writeFrame journalEntryMagic entry.payload
  have frameSize : persistFrameHeaderBytes + entry.payload.length + persistFrameTrailerBytes =
      (writeFrame journalEntryMagic entry.payload).length := by
    simp only [persistFrameHeaderBytes, persistFrameTrailerBytes]
    omega
  have round : nextFrame limits (writeFrame journalEntryMagic entry.payload ++ rest) =
      match decodeJournalEntry (writeFrame journalEntryMagic entry.payload) limits with
      | .error _ => none
      | .ok entry => some (entry, rest) := by
    unfold nextFrame
    rw [if_neg (by
        rw [List.length_append]
        simp only [persistFrameHeaderBytes, persistFrameTrailerBytes]
        omega),
      if_neg (by rw [layout.leading]; exact fun differs => differs rfl)]
    simp only [layout.length, frameSize, List.take_left, List.drop_left]
    rw [if_neg (by have := framed.bounded; omega), if_neg (by rw [List.length_append]; omega)]
  obtain ⟨accepts, refuses⟩ := decodeJournalEntry_encode framed.formed framed.bounded fits
  constructor
  · intro storable
    rw [round, accepts storable]
  · intro refused
    obtain ⟨why, failed⟩ := refuses refused
    rw [round, failed]

theorem JournalEntry.Recorded.nextFrame {limits : Limits} {entry : JournalEntry}
    (recorded : entry.Recorded limits) (rest : Bytes) :
    nextFrame limits (writeFrame journalEntryMagic entry.payload ++ rest) = some (entry, rest) :=
  (nextFrame_writeFrame ⟨recorded.storable.formed, recorded.bounded⟩ recorded.fits rest).1 recorded.storable

section Scan

variable {limits : Limits} (small : limits.maxPersistBytes < 2 ^ 32)

include small

/-- The scan of a written journal replays the entries before the first one that is not
storable. -/
theorem replayJournal_journalImage {entries : List JournalEntry}
    (framed : ∀ entry ∈ entries, entry.Framed limits) {fuel : Nat}
    (enough : (journalImage entries).length ≤ fuel) (state : PersistedState) :
    ∃ kept dropped, entries = kept ++ dropped ∧ (∀ entry ∈ kept, entry.Storable limits) ∧
      (∀ entry ∈ dropped.head?, ¬ entry.Storable limits) ∧
      replayJournal limits fuel state (journalImage entries) =
        (kept.foldl PersistedState.replay state, journalImage dropped) := by
  induction entries generalizing fuel state with
  | nil =>
      refine ⟨[], [], rfl, by simp, by simp, ?_⟩
      cases fuel with
      | zero => rfl
      | succ fuel =>
          simp [replayJournal, journalImage, nextFrame, persistFrameHeaderBytes,
            persistFrameTrailerBytes]
  | cons entry rest ih =>
      have image : journalImage (entry :: rest) =
          writeFrame journalEntryMagic entry.payload ++ journalImage rest := rfl
      have size := length_writeFrame journalEntryMagic entry.payload
      rw [image, List.length_append] at enough
      obtain ⟨fuel, rfl⟩ : ∃ less, fuel = less + 1 := ⟨fuel - 1, by omega⟩
      have bounded := (framed entry List.mem_cons_self).bounded
      obtain ⟨accepts, refuses⟩ := nextFrame_writeFrame (framed entry List.mem_cons_self)
        (bounded.trans_lt small) (journalImage rest)
      by_cases storable : entry.Storable limits
      · obtain ⟨kept, dropped, split, keeps, drops, scanned⟩ :=
          ih (fun other member => framed other (List.mem_cons_of_mem _ member))
            (show (journalImage rest).length ≤ fuel by omega) (state.replay entry)
        refine ⟨entry :: kept, dropped, by rw [split]; rfl, ?_, drops, ?_⟩
        · intro other member
          rcases List.mem_cons.mp member with rfl | inKept
          · exact storable
          · exact keeps other inKept
        · rw [image, replayJournal, accepts storable]
          exact scanned
      · refine ⟨[], entry :: rest, rfl, by simp, by simpa using storable, ?_⟩
        rw [image, replayJournal, refuses storable]
        rfl

/-- Loading a written snapshot fails, or gives the state it holds, which is storable. -/
theorem loadSnapshot_framed {base : Option PersistedState}
    (framed : ∀ state ∈ base, state.Framed limits) (io : IoOutcome) :
    (∃ failure, loadSnapshot limits io
      (base.map fun state => writeFrame persistenceMagic state.payload) = .error failure) ∨
    (∀ state ∈ base, state.Storable limits) ∧
      loadSnapshot limits io (base.map fun state => writeFrame persistenceMagic state.payload) =
        .ok (base.getD {}) := by
  cases base with
  | none => exact .inr ⟨by simp, rfl⟩
  | some state =>
      simp only [Option.map_some, loadSnapshot]
      split
      · exact .inl ⟨_, rfl⟩
      · have framed := framed state rfl
        obtain ⟨accepts, refuses⟩ := decodeSnapshot_encode framed.formed framed.bounded
          (framed.bounded.trans_lt small)
        by_cases storable : state.Storable limits
        · rw [accepts storable]
          exact .inr ⟨by simpa using storable, rfl⟩
        · obtain ⟨why, failed⟩ := refuses storable
          rw [failed]
          exact .inl ⟨_, rfl⟩

/-- Loading written files fails, or gives the snapshot with the entries before the first
one that is not storable; the files afterwards hold exactly these. -/
theorem Represents.load {files : StoreFiles} {base : Option PersistedState}
    {entries : List JournalEntry} (represents : Represents limits files base entries) (io : IoOutcome) :
    (∃ failure, load limits io files = (files, .error failure)) ∨
      ∃ kept dropped after, Loaded limits io files base entries kept dropped after := by
  obtain ⟨snapshot, journal, baseFramed, entriesFramed⟩ := represents
  rcases loadSnapshot_framed small baseFramed io with ⟨failure, failed⟩ | ⟨storable, loaded⟩
  · rw [← snapshot] at failed
    exact .inl ⟨failure, by simp [RouteFabric.load, failed]⟩
  rw [← snapshot] at loaded
  cases present : files.journal with
  | none =>
      right
      rw [present] at journal
      obtain rfl := journalImage_eq_nil.mp journal.symm
      refine ⟨[], [], files, rfl, by simp, by simp, storable, ⟨snapshot, ?_, baseFramed, by simp⟩,
        fun _ => rfl, ?_⟩
      · rw [present]
        rfl
      · simp [RouteFabric.load, loaded, present]
  | some image =>
      rw [present, Option.getD_some] at journal
      subst journal
      cases readable : io.read with
      | some why => exact .inl ⟨_, by simp [RouteFabric.load, loaded, present, readable]; rfl⟩
      | none =>
          obtain ⟨kept, dropped, split, keeps, drops, scanned⟩ :=
            replayJournal_journalImage small entriesFramed (le_refl _) (base.getD {})
          have keptFramed : ∀ entry ∈ kept, entry.Framed limits := fun entry member =>
            entriesFramed entry (split ▸ List.mem_append_left _ member)
          by_cases complete : dropped = []
          · right
            subst complete
            refine ⟨kept, [], files, split, keeps, drops, storable,
              ⟨snapshot, ?_, baseFramed, keptFramed⟩, fun _ => rfl, ?_⟩
            · rw [present, Option.getD_some, split, List.append_nil]
            · have tail : journalImage [] = [] := rfl
              simp [RouteFabric.load, loaded, present, readable, scanned, tail]
          · have tail : journalImage dropped ≠ [] := fun empty => complete (journalImage_eq_nil.mp empty)
            cases truncated : io.truncate with
            | some why =>
                exact .inl ⟨_, by
                  simp [RouteFabric.load, loaded, present, readable, scanned, tail, truncated]
                  rfl⟩
            | none =>
                right
                have cut : (journalImage entries).take
                    ((journalImage entries).length - (journalImage dropped).length) =
                      journalImage kept := by
                  rw [split, journalImage_append, List.length_append, Nat.add_sub_cancel, List.take_left]
                refine ⟨kept, dropped, { files with journal := some (journalImage kept) }, split, keeps,
                  drops, storable, ⟨snapshot, rfl, baseFramed, keptFramed⟩,
                  fun empty => absurd empty complete, ?_⟩
                simp [RouteFabric.load, loaded, present, readable, scanned, tail, truncated, cut]

/-- Readable files whose snapshot and entries are all storable load whole, and stay as
they are. -/
theorem Represents.load_storable {files : StoreFiles} {base : Option PersistedState}
    {entries : List JournalEntry} (represents : Represents limits files base entries)
    (baseStorable : ∀ state ∈ base, state.Storable limits)
    (entriesStorable : ∀ entry ∈ entries, entry.Storable limits) {io : IoOutcome} (readable : io.read = none) :
    RouteFabric.load limits io files = (files, .ok (entries.foldl PersistedState.replay (base.getD {}))) := by
  have snapshot : loadSnapshot limits io files.snapshot = .ok (base.getD {}) := by
    rw [represents.snapshot]
    cases base with
    | none => rfl
    | some state =>
        have framed := represents.baseFramed state rfl
        have accepts := (decodeSnapshot_encode framed.formed framed.bounded
          (framed.bounded.trans_lt small)).1 (baseStorable state rfl)
        simp [loadSnapshot, readable, accepts]
  have journal := represents.journal
  cases present : files.journal with
  | none =>
      rw [present] at journal
      obtain rfl := journalImage_eq_nil.mp journal.symm
      simp [RouteFabric.load, snapshot, present]
  | some image =>
      rw [present, Option.getD_some] at journal
      subst journal
      obtain ⟨kept, dropped, split, -, stopped, scanned⟩ :=
        replayJournal_journalImage small represents.entriesFramed (le_refl _) (base.getD {})
      have whole : dropped = [] := by
        cases dropped with
        | nil => rfl
        | cons first rest =>
            have member : first ∈ entries := split ▸ List.mem_append_right _ List.mem_cons_self
            exact absurd (entriesStorable first member) (stopped first rfl)
      subst whole
      rw [List.append_nil] at split
      subst split
      have tail : journalImage [] = [] := rfl
      simp [RouteFabric.load, snapshot, present, readable, scanned, tail]

end Scan

end RouteFabric
