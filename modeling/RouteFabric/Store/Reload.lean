import RouteFabric.Store.Files

/-!
# Loading what was loaded before

`Represents` speaks of files that the store wrote. A store may be opened on files of any
origin: whatever bytes they hold, a load that succeeds leaves a snapshot that decodes and
a journal of whole frames. `StoreHolds` describes such files, with the bytes that follow the
last frame; loading them again gives the same state and cuts these bytes off.

An entry appended to such a journal is the last one of the next load, unless its payload
is too long for the length word of a frame. The next load then finds no frame there.
-/

namespace RouteFabric

open ByteReader

variable {limits : Limits} {io : IoOutcome} {files after : StoreFiles} {base loaded : PersistedState}
  {entries : List JournalEntry} {entry : JournalEntry} {tail : Bytes}

/-! ## The scan -/

/-- What a scan took from the journal, and what it left. -/
theorem replayJournal_image {fuel : Nat} {state : PersistedState} {remaining : Bytes}
    (enough : remaining.length ≤ fuel) :
    ∃ entries rest, remaining = journalImage entries ++ rest ∧
      (∀ entry ∈ entries, entry.Recorded limits) ∧ nextFrame limits rest = none ∧
      replayJournal limits fuel state remaining = (entries.foldl PersistedState.replay state, rest) := by
  have stops := @replayJournal_stops limits fuel state remaining enough
  induction fuel generalizing state remaining with
  | zero => exact ⟨[], remaining, rfl, by simp, stops, rfl⟩
  | succ fuel ih =>
      unfold replayJournal at stops ⊢
      split at stops
      · exact ⟨[], remaining, rfl, by simp, stops, rfl⟩
      · rename_i entry rest found
        obtain ⟨frame, recorded⟩ := nextFrame_recorded found
        have shorter := nextFrame_shorter found
        obtain ⟨entries, tail, image, each, stopped, scanned⟩ :=
          @ih (state.replay entry) rest (by omega) stops
        refine ⟨entry :: entries, tail, ?_, ?_, stopped, scanned⟩
        · rw [frame, image, ← List.append_assoc]
          rfl
        · intro other member
          rcases List.mem_cons.mp member with rfl | inRest
          · exact recorded
          · exact each other inRest

/-- The scan replays the frames of a journal and stops where no frame follows. -/
theorem replayJournal_recorded (recorded : ∀ entry ∈ entries, entry.Recorded limits)
    (stops : nextFrame limits tail = none) {fuel : Nat}
    (enough : (journalImage entries ++ tail).length ≤ fuel) (state : PersistedState) :
    replayJournal limits fuel state (journalImage entries ++ tail) =
      (entries.foldl PersistedState.replay state, tail) := by
  induction entries generalizing fuel state with
  | nil =>
      cases fuel with
      | zero => rfl
      | succ fuel =>
          have image : journalImage [] ++ tail = tail := rfl
          rw [image, replayJournal, stops]
          rfl
  | cons entry rest ih =>
      have image : journalImage (entry :: rest) ++ tail =
          writeFrame journalEntryMagic entry.payload ++ (journalImage rest ++ tail) :=
        List.append_assoc _ _ _
      have size := length_writeFrame journalEntryMagic entry.payload
      rw [image, List.length_append] at enough
      obtain ⟨fuel, rfl⟩ : ∃ less, fuel = less + 1 := ⟨fuel - 1, by omega⟩
      rw [image, replayJournal, (recorded entry List.mem_cons_self).nextFrame]
      exact ih (fun other member => recorded other (List.mem_cons_of_mem _ member)) (by omega) _

theorem nextFrame_nil : nextFrame limits [] = none := by
  simp [nextFrame, persistFrameHeaderBytes, persistFrameTrailerBytes]

/-! ## Files that load -/

/-- Files whose snapshot loads and whose journal holds the given entries, followed by
bytes at which no frame starts. -/
structure StoreHolds (limits : Limits) (files : StoreFiles) (base : PersistedState)
    (entries : List JournalEntry) (tail : Bytes) : Prop where
  snapshot : ∀ io : IoOutcome, io.read = none → loadSnapshot limits io files.snapshot = .ok base
  journal : files.journal.getD [] = journalImage entries ++ tail
  recorded : ∀ entry ∈ entries, entry.Recorded limits
  stops : nextFrame limits tail = none

/-- Whether a snapshot loads depends on the file only. -/
theorem loadSnapshot_again {snapshot : Option Bytes} (succeeded : loadSnapshot limits io snapshot = .ok base)
    (again : IoOutcome) (readable : again.read = none) : loadSnapshot limits again snapshot = .ok base := by
  unfold loadSnapshot at succeeded ⊢
  split at succeeded
  · exact succeeded
  · split at succeeded
    · simp at succeeded
    · simp only [readable]
      exact succeeded

/-- A store that loads leaves files that hold what it gave. -/
theorem load_holds (succeeded : load limits io files = (after, .ok loaded)) :
    ∃ base entries, StoreHolds limits after base entries [] ∧ loaded = entries.foldl PersistedState.replay base := by
  unfold load at succeeded
  split at succeeded
  · simp at succeeded
  rename_i base snapshot
  have again := fun io readable => loadSnapshot_again snapshot io readable
  split at succeeded
  · rename_i absent
    obtain ⟨rfl, same⟩ := Prod.mk.inj succeeded
    obtain rfl := Except.ok.inj same
    exact ⟨base, [], ⟨again, by rw [absent]; rfl, by simp, nextFrame_nil⟩, rfl⟩
  rename_i journal present
  split at succeeded
  · simp at succeeded
  obtain ⟨entries, rest, image, recorded, -, scanned⟩ :=
    @replayJournal_image limits journal.length base journal (le_refl _)
  simp only [scanned] at succeeded
  split at succeeded
  · rename_i complete
    obtain ⟨rfl, same⟩ := Prod.mk.inj succeeded
    obtain rfl := Except.ok.inj same
    refine ⟨base, entries, ⟨again, ?_, recorded, nextFrame_nil⟩, rfl⟩
    rw [present, Option.getD_some, image, complete]
  split at succeeded
  · simp at succeeded
  · obtain ⟨rfl, same⟩ := Prod.mk.inj succeeded
    obtain rfl := Except.ok.inj same
    refine ⟨base, entries, ⟨again, ?_, recorded, nextFrame_nil⟩, rfl⟩
    rw [Option.getD_some, image, List.length_append, Nat.add_sub_cancel, List.take_left, List.append_nil]

/-- Loading such files gives the snapshot with the entries replayed. -/
theorem StoreHolds.load (holds : StoreHolds limits files base entries tail) (readable : io.read = none)
    (writable : io.truncate = none) :
    ∃ after, RouteFabric.load limits io files = (after, .ok (entries.foldl PersistedState.replay base)) ∧
      StoreHolds limits after base entries [] := by
  have snapshot := holds.snapshot io readable
  have journal := holds.journal
  unfold RouteFabric.load
  simp only [snapshot]
  split
  · rename_i absent
    rw [absent, Option.getD_none] at journal
    obtain ⟨image, empty⟩ := List.append_eq_nil_iff.mp journal.symm
    obtain rfl := journalImage_eq_nil.mp image
    obtain rfl := empty
    exact ⟨files, rfl, holds⟩
  · rename_i image present
    rw [present, Option.getD_some] at journal
    subst journal
    simp only [readable, replayJournal_recorded holds.recorded holds.stops (le_refl _)]
    split
    · rename_i complete
      obtain rfl := complete
      exact ⟨files, rfl, holds⟩
    · simp only [writable, List.length_append, Nat.add_sub_cancel, List.take_left]
      refine ⟨_, rfl, holds.snapshot, ?_, holds.recorded, nextFrame_nil⟩
      rw [Option.getD_some, List.append_nil]

/-- A load of such files that succeeds gives nothing else, whatever the file system does, and
leaves the frames it took. -/
theorem StoreHolds.load_cut (holds : StoreHolds limits files base entries tail)
    (succeeded : RouteFabric.load limits io files = (after, .ok loaded)) :
    loaded = entries.foldl PersistedState.replay base ∧ after.snapshot = files.snapshot ∧
      after.journal.getD [] = journalImage entries := by
  unfold RouteFabric.load at succeeded
  split at succeeded
  · simp at succeeded
  rename_i read snapshot
  have again := loadSnapshot_again snapshot {} rfl
  rw [holds.snapshot {} rfl] at again
  obtain rfl := Except.ok.inj again
  have journal := holds.journal
  split at succeeded
  · rename_i absent
    obtain ⟨rfl, loads⟩ := Prod.mk.inj succeeded
    rw [absent, Option.getD_none] at journal
    obtain ⟨image, -⟩ := List.append_eq_nil_iff.mp journal.symm
    obtain rfl := journalImage_eq_nil.mp image
    exact ⟨(Except.ok.inj loads).symm, rfl, by rw [absent]; rfl⟩
  · rename_i image present
    rw [present, Option.getD_some] at journal
    subst journal
    split at succeeded
    · simp at succeeded
    simp only [replayJournal_recorded holds.recorded holds.stops (le_refl _)] at succeeded
    split at succeeded
    · rename_i complete
      obtain ⟨rfl, loads⟩ := Prod.mk.inj succeeded
      exact ⟨(Except.ok.inj loads).symm, rfl, by rw [present, complete, List.append_nil]; rfl⟩
    split at succeeded
    · simp at succeeded
    · obtain ⟨rfl, loads⟩ := Prod.mk.inj succeeded
      refine ⟨(Except.ok.inj loads).symm, rfl, ?_⟩
      rw [Option.getD_some, List.length_append, Nat.add_sub_cancel, List.take_left]

/-- Bytes written after the last frame add entries at most. -/
theorem StoreHolds.extended (holds : StoreHolds limits files base entries []) {added : Bytes}
    (snapshot : after.snapshot = files.snapshot)
    (journal : after.journal.getD [] = files.journal.getD [] ++ added) :
    ∃ more rest, StoreHolds limits after base (entries ++ more) rest := by
  obtain ⟨more, rest, image, recorded, stops, -⟩ :=
    @replayJournal_image limits added.length {} added (le_refl _)
  refine ⟨more, rest, ?_, ?_, ?_, stops⟩
  · rw [snapshot]
    exact holds.snapshot
  · rw [journal, holds.journal, List.append_nil, image, journalImage_append, List.append_assoc]
  · intro entry member
    rcases List.mem_append.mp member with old | new
    · exact holds.recorded entry old
    · exact recorded entry new

/-- The encoding of a record that was read is shorter than a frame can be. -/
theorem load_short (succeeded : load limits io files = (after, .ok loaded)) :
    ∀ record ∈ loaded.routes, record.write.length < 2 ^ 32 := by
  have short : ∀ (body : StateBody) {payload : Nat}, (writeStateBody body).length ≤ payload → payload < 2 ^ 32 →
      ∀ record ∈ body.routes, record.write.length < 2 ^ 32 := by
    intro body payload within fits record member
    have length := @length_write_le _ RouteRecord.write _ _ member
    simp only [writeStateBody, List.flatten_cons, List.length_append, length_writeList] at within
    omega
  refine load_preserves (motive := fun state => ∀ record ∈ state.routes, record.write.length < 2 ^ 32)
    (by simp) ?_ ?_ succeeded
  · intro state _ fits
    refine short state.body ?_ fits
    simp only [PersistedState.payload, List.flatten_cons, List.length_append]
    omega
  · intro state entry held recorded record member
    rcases PersistedState.mem_replay_routes member with added | kept
    · refine short entry.body ?_ recorded.fits record added
      simp only [JournalEntry.payload, List.flatten_cons, List.length_append]
      omega
    · exact held record kept

/-! ## Appending -/

/-- No frame starts with the payload of a longer one: a reader of the longer payload would
stop where the shorter one ends. -/
theorem nextFrame_oversized (storable : entry.Storable limits) (measured : entry.body.Measured)
    (oversized : 2 ^ 32 ≤ entry.payload.length) :
    nextFrame limits (writeFrame journalEntryMagic entry.payload) = none := by
  cases found : nextFrame limits (writeFrame journalEntryMagic entry.payload) with
  | none => rfl
  | some taken =>
      obtain ⟨other, rest⟩ := taken
      obtain ⟨frame, recorded⟩ := nextFrame_recorded found
      have fits := recorded.fits
      -- Both frames have a header of 16 bytes, so their payloads start at the same byte.
      have bodies := congrArg (List.drop 16) frame
      have layout : ∀ payload rest : Bytes, (writeFrame journalEntryMagic payload ++ rest).drop 16 =
          payload ++ (leBytes 4 (crc32c payload).toNat ++ (leBytes 8 (fnv1a64 payload).toNat ++ rest)) := by
        intro payload rest
        have header : (leBytes 8 journalEntryMagic ++ leBytes 4 persistenceFormatVersion ++
            leBytes 4 payload.length).length = 16 := by simp
        rw [← header]
        simpa [writeFrame] using @List.drop_left _ (leBytes 8 journalEntryMagic ++
          leBytes 4 persistenceFormatVersion ++ leBytes 4 payload.length)
      rw [layout, ← List.append_nil (writeFrame journalEntryMagic entry.payload), layout] at bodies
      obtain ⟨more, whole⟩ : ∃ more, entry.payload = other.payload ++ more :=
        (List.prefix_of_prefix_length_le ⟨_, bodies.symm⟩ ⟨_, rfl⟩ (by omega)).imp fun _ same => same.symm
      have short := (reads_journalPayload recorded.storable.formed (JournalEntry.measured fits) limits).accept
        recorded.storable more
      have long := (reads_journalPayload storable.formed measured limits).accept storable []
      rw [List.append_nil, whole, short] at long
      obtain ⟨-, rfl⟩ := Prod.mk.inj (Except.ok.inj long)
      rw [whole, List.append_nil] at oversized
      omega

/-- An append that fails leaves a part of the frame at most. -/
theorem appendJournal_error {failure : Error}
    (failed : appendJournal limits io files entry = (after, .error failure)) :
    after.snapshot = files.snapshot ∧ ∃ added, after.journal.getD [] = files.journal.getD [] ++ added := by
  unfold appendJournal at failed
  simp only at failed
  split at failed
  · obtain ⟨rfl, -⟩ := Prod.mk.inj failed
    exact ⟨rfl, [], (List.append_nil _).symm⟩
  split at failed
  · obtain ⟨rfl, -⟩ := Prod.mk.inj failed
    exact ⟨rfl, _, rfl⟩
  · simp at failed

/-- An append that writes a part of the frame of an entry within the bound. -/
theorem appendJournal_fails {written : Nat} {why : String}
    (bounded : entry.payload.length ≤ limits.maxPersistBytes) (short : io.append = some (written, why))
    (files : StoreFiles) :
    appendJournal limits io files entry =
      ({ files with journal := some (files.journal.getD [] ++
          (writeFrame journalEntryMagic entry.payload).take written) },
        makeError .persistenceFailure ("cannot append store journal: " ++ why)) := by
  have image : encodeJournalEntry entry limits = writeFrame journalEntryMagic entry.payload :=
    if_neg (Nat.not_lt.mpr bounded)
  have nonempty : writeFrame journalEntryMagic entry.payload ≠ [] := by
    intro empty
    have length := length_writeFrame journalEntryMagic entry.payload
    rw [empty, List.length_nil] at length
    omega
  simp only [appendJournal, image, nonempty, if_false, short]

/-- A storable entry that was appended is the last entry of the journal, or no frame starts
where it was written. -/
theorem StoreHolds.append (holds : StoreHolds limits files base entries []) (storable : entry.Storable limits)
    (measured : entry.body.Measured) (written : appendJournal limits io files entry = (after, .ok ())) :
    StoreHolds limits after base (entries ++ [entry]) [] ∨
      StoreHolds limits after base entries (writeFrame journalEntryMagic entry.payload) := by
  obtain ⟨bounded, snapshot, journal⟩ := appendJournal_ok written
  have kept : ∀ io : IoOutcome, io.read = none → loadSnapshot limits io after.snapshot = .ok base := by
    rw [snapshot]
    exact holds.snapshot
  rw [holds.journal, List.append_nil] at journal
  by_cases fits : entry.payload.length < 2 ^ 32
  · left
    refine ⟨kept, ?_, ?_, nextFrame_nil⟩
    · rw [journal, journalImage_append, List.append_nil]
      simp [journalImage]
    · intro other member
      rcases List.mem_append.mp member with old | new
      · exact holds.recorded other old
      · exact List.mem_singleton.mp new ▸ ⟨storable, bounded, fits⟩
  · exact .inr ⟨kept, journal, holds.recorded,
      nextFrame_oversized storable measured (Nat.le_of_not_lt fits)⟩

end RouteFabric
