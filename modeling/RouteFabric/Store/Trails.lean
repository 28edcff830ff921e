import RouteFabric.Store.Reload

/-!
# Journals that end inside a frame

An append that fails can leave a part of its frame, and nothing removes it before the next
load. `Trails` describes files that the store wrote, with such a part behind the last whole
frame; a load takes a prefix of the entries and cuts the part off. Whether there is one
can be seen from the lengths that the frames announce (`StoreFiles.torn`).
-/

namespace RouteFabric

open ByteReader

variable {limits : Limits} {io : IoOutcome} {files after : StoreFiles} {base : Option PersistedState}
  {entries : List JournalEntry} {entry : JournalEntry} {payload tail : Bytes}

/-! ## Strict prefixes of a frame -/

/-- A strict prefix of a frame is too short for a frame, or for the frame it announces. -/
theorem short_of_torn (fits : payload.length < 2 ^ 32) (torn : tail <+: writeFrame journalEntryMagic payload)
    (strict : tail.length < (writeFrame journalEntryMagic payload).length) :
    tail.length < persistFrameHeaderBytes + persistFrameTrailerBytes ∨
      tail.length < persistFrameHeaderBytes + wordAt tail 12 4 + persistFrameTrailerBytes := by
  obtain ⟨rest, whole⟩ := torn
  have size := length_writeFrame journalEntryMagic payload
  simp only [persistFrameHeaderBytes, persistFrameTrailerBytes]
  by_cases long : tail.length < 16 + 12
  · exact .inl long
  right
  have word : wordAt tail 12 4 = payload.length := by
    have layout := writeFrame_layout journalEntryMagic (by decide) fits []
    have length := layout.length
    rw [List.append_nil, ← whole, wordAt, List.drop_append_of_le_length (by omega),
      List.take_append_of_le_length (by rw [List.length_drop]; omega)] at length
    exact length
  omega

/-- No entry is found at a strict prefix of a frame, wherever the cut is. -/
theorem nextFrame_torn (fits : payload.length < 2 ^ 32) (torn : tail <+: writeFrame journalEntryMagic payload)
    (strict : tail.length < (writeFrame journalEntryMagic payload).length) :
    nextFrame limits tail = none := by
  unfold nextFrame
  rcases short_of_torn fits torn strict with short | short
  · rw [if_pos short]
  · split
    · rfl
    split
    · rfl
    simp only
    split <;> rfl

/-- What is left of a frame whose append stopped before its end. -/
def Torn (tail : Bytes) : Prop :=
  ∃ payload : Bytes, payload.length < 2 ^ 32 ∧ tail <+: writeFrame journalEntryMagic payload ∧
    tail.length < (writeFrame journalEntryMagic payload).length

theorem torn_nil : Torn [] := by
  refine ⟨[], by simp, List.nil_prefix, ?_⟩
  have size := length_writeFrame journalEntryMagic []
  rw [size, List.length_nil]
  omega

/-! ## The end of a journal -/

/-- What follows the last whole frame of a journal, by the lengths that its frames announce. -/
def lastFrame : Nat → Bytes → Bytes
  | 0, remaining => remaining
  | fuel + 1, remaining =>
      let frameSize := persistFrameHeaderBytes + wordAt remaining 12 4 + persistFrameTrailerBytes
      if remaining.length < persistFrameHeaderBytes + persistFrameTrailerBytes ∨ remaining.length < frameSize then
        remaining
      else lastFrame fuel (remaining.drop frameSize)

/-- Whether the journal ends inside a frame. -/
def StoreFiles.torn (files : StoreFiles) : Bool :=
  lastFrame (files.journal.getD []).length (files.journal.getD []) ≠ []

theorem lastFrame_journalImage (fits : ∀ entry ∈ entries, entry.payload.length < 2 ^ 32) (torn : Torn tail)
    {fuel : Nat} (enough : (journalImage entries ++ tail).length ≤ fuel) :
    lastFrame fuel (journalImage entries ++ tail) = tail := by
  induction entries generalizing fuel with
  | nil =>
      obtain ⟨payload, payloadFits, cut, strict⟩ := torn
      have image : journalImage [] ++ tail = tail := rfl
      rw [image]
      cases fuel with
      | zero => rfl
      | succ fuel => exact if_pos (short_of_torn payloadFits cut strict)
  | cons entry rest ih =>
      have image : journalImage (entry :: rest) ++ tail =
          writeFrame journalEntryMagic entry.payload ++ (journalImage rest ++ tail) :=
        List.append_assoc _ _ _
      have size := length_writeFrame journalEntryMagic entry.payload
      have layout := writeFrame_layout journalEntryMagic (by decide) (fits entry List.mem_cons_self)
        (journalImage rest ++ tail)
      have whole : persistFrameHeaderBytes + entry.payload.length + persistFrameTrailerBytes =
          (writeFrame journalEntryMagic entry.payload).length := by
        simp only [persistFrameHeaderBytes, persistFrameTrailerBytes]
        omega
      rw [image, List.length_append] at enough
      obtain ⟨fuel, rfl⟩ : ∃ less, fuel = less + 1 := ⟨fuel - 1, by omega⟩
      rw [image, lastFrame]
      simp only [layout.length, whole]
      rw [if_neg, List.drop_left]
      · exact ih (fun other member => fits other (List.mem_cons_of_mem _ member)) (by omega)
      · rw [List.length_append]
        simp only [persistFrameHeaderBytes, persistFrameTrailerBytes]
        omega

/-! ## Files with a torn end -/

/-- Files that hold an optional snapshot and journal entries, and what a failed append left. -/
structure Trails (limits : Limits) (files : StoreFiles) (base : Option PersistedState)
    (entries : List JournalEntry) (tail : Bytes) : Prop where
  snapshot : files.snapshot = base.map fun state => writeFrame persistenceMagic state.payload
  journal : files.journal.getD [] = journalImage entries ++ tail
  baseFramed : ∀ state ∈ base, state.Framed limits
  entriesFramed : ∀ entry ∈ entries, entry.Framed limits
  torn : Torn tail

section

variable (small : limits.maxPersistBytes < 2 ^ 32)

include small

theorem Trails.untorn (trails : Trails limits files base entries tail) : files.torn = false ↔ tail = [] := by
  have last := lastFrame_journalImage
    (fun entry member => (trails.entriesFramed entry member).bounded.trans_lt small) trails.torn (le_refl _)
  rw [StoreFiles.torn, trails.journal, last]
  simp

/-- What an append leaves of a journal that ends with a frame: one more entry when all of
its frame was written, and otherwise a part of it. -/
theorem Trails.append (trails : Trails limits files base entries []) (formed : entry.Formed) :
    Trails limits (appendJournal limits io files entry).1 base (entries ++ [entry]) [] ∨
      (∃ failure, (appendJournal limits io files entry).2 = .error failure) ∧
        ∃ tail, Trails limits (appendJournal limits io files entry).1 base entries tail := by
  by_cases exceeds : limits.maxPersistBytes < entry.payload.length
  · refine .inr ⟨?_, [], ?_⟩ <;> simp only [appendJournal, encodeJournalEntry, if_pos exceeds]
    · exact ⟨_, rfl⟩
    · exact trails
  have image : encodeJournalEntry entry limits = writeFrame journalEntryMagic entry.payload := if_neg exceeds
  have framed : entry.Framed limits := ⟨formed, Nat.le_of_not_lt exceeds⟩
  have size := length_writeFrame journalEntryMagic entry.payload
  have nonempty : writeFrame journalEntryMagic entry.payload ≠ [] := by
    intro empty
    rw [empty, List.length_nil] at size
    omega
  have journal := trails.journal
  rw [List.append_nil] at journal
  have longer : journalImage (entries ++ [entry]) ++ [] =
      journalImage entries ++ writeFrame journalEntryMagic entry.payload := by
    rw [journalImage_append, List.append_nil]
    simp [journalImage]
  have entriesFramed : ∀ other ∈ entries ++ [entry], other.Framed limits := by
    intro other member
    rcases List.mem_append.mp member with old | new
    · exact trails.entriesFramed other old
    · exact List.mem_singleton.mp new ▸ framed
  unfold appendJournal
  simp only [image, if_neg nonempty]
  split
  · rename_i written why cut
    by_cases whole : (writeFrame journalEntryMagic entry.payload).length ≤ written
    · rw [List.take_of_length_le whole]
      exact .inl ⟨trails.snapshot, by rw [Option.getD_some, journal, longer], trails.baseFramed, entriesFramed,
        torn_nil⟩
    · refine .inr ⟨⟨_, rfl⟩, (writeFrame journalEntryMagic entry.payload).take written, trails.snapshot, ?_,
        trails.baseFramed, trails.entriesFramed, entry.payload, framed.bounded.trans_lt small,
        List.take_prefix _ _, ?_⟩
      · rw [Option.getD_some, journal]
      · rw [List.length_take]
        omega
  · exact .inl ⟨trails.snapshot, by rw [Option.getD_some, journal, longer], trails.baseFramed, entriesFramed,
      torn_nil⟩

/-- Entries up to the first one that is not storable. -/
theorem storable_prefix (framed : ∀ entry ∈ entries, entry.Framed limits)
    (stops : nextFrame limits tail = none) :
    ∃ kept dropped, entries = kept ++ dropped ∧ (∀ entry ∈ kept, entry.Recorded limits) ∧
      nextFrame limits (journalImage dropped ++ tail) = none := by
  induction entries with
  | nil => exact ⟨[], [], rfl, fun _ member => absurd member List.not_mem_nil, stops⟩
  | cons entry rest ih =>
      have first := framed entry List.mem_cons_self
      have fits := first.bounded.trans_lt small
      by_cases storable : entry.Storable limits
      · obtain ⟨kept, dropped, rfl, recorded, stopped⟩ :=
          ih fun other member => framed other (List.mem_cons_of_mem _ member)
        refine ⟨entry :: kept, dropped, rfl, fun other member => ?_, stopped⟩
        rcases List.mem_cons.mp member with rfl | inKept
        · exact ⟨storable, first.bounded, fits⟩
        · exact recorded other inKept
      · refine ⟨[], entry :: rest, rfl, fun _ member => absurd member List.not_mem_nil, ?_⟩
        have image : journalImage (entry :: rest) ++ tail =
            writeFrame journalEntryMagic entry.payload ++ (journalImage rest ++ tail) :=
          List.append_assoc _ _ _
        rw [image]
        exact (nextFrame_writeFrame first fits _).2 storable

/-- A load takes the snapshot and a prefix of the entries, and leaves whole frames. -/
theorem Trails.load {loaded : PersistedState} (trails : Trails limits files base entries tail)
    (succeeded : load limits io files = (after, .ok loaded)) :
    ∃ kept dropped, entries = kept ++ dropped ∧ loaded = kept.foldl PersistedState.replay (base.getD {}) ∧
      Trails limits after base kept [] := by
  obtain ⟨payload, payloadFits, cut, strict⟩ := trails.torn
  obtain ⟨kept, dropped, rfl, recorded, stops⟩ :=
    storable_prefix small trails.entriesFramed (nextFrame_torn payloadFits cut strict)
  have snapshot : ∀ io : IoOutcome, io.read = none → loadSnapshot limits io files.snapshot = .ok (base.getD {}) := by
    rcases loadSnapshot_framed small trails.baseFramed io with ⟨failure, failed⟩ | ⟨-, read⟩
    · rw [← trails.snapshot] at failed
      unfold RouteFabric.load at succeeded
      rw [failed] at succeeded
      simp at succeeded
    · rw [← trails.snapshot] at read
      exact fun again readable => loadSnapshot_again read again readable
  have holds : StoreHolds limits files (base.getD {}) kept (journalImage dropped ++ tail) := by
    refine ⟨snapshot, ?_, recorded, stops⟩
    rw [trails.journal, journalImage_append, List.append_assoc]
  obtain ⟨loads, sameSnapshot, journal⟩ := holds.load_cut succeeded
  refine ⟨kept, dropped, rfl, loads, sameSnapshot.trans trails.snapshot, ?_, trails.baseFramed,
    fun entry member => trails.entriesFramed entry (List.mem_append_left _ member), torn_nil⟩
  rw [journal, List.append_nil]

end

/-- A saved snapshot replaces the one before; the journal is removed, or left as it is. -/
theorem Trails.save {state : PersistedState} (trails : Trails limits files base entries tail)
    (formed : state.Formed) (saved : saveSnapshot limits io files state = (after, .ok ())) :
    Trails limits after (some state) [] [] ∨ Trails limits after (some state) entries tail := by
  by_cases exceeds : limits.maxPersistBytes < state.payload.length
  · simp [saveSnapshot, encodeSnapshot, exceeds] at saved
  have image : encodeSnapshot state limits = writeFrame persistenceMagic state.payload := if_neg exceeds
  have framed : ∀ other ∈ some state, other.Framed limits := by
    intro other member
    obtain rfl := Option.mem_some_iff.mp member
    exact ⟨formed, Nat.le_of_not_lt exceeds⟩
  unfold saveSnapshot at saved
  rw [image] at saved
  simp only at saved
  split at saved
  · simp at saved
  split at saved
  · simp at saved
  obtain ⟨rfl, -⟩ := Prod.mk.inj saved
  cases io.remove with
  | true => exact .inl ⟨rfl, rfl, framed, fun _ member => absurd member List.not_mem_nil, torn_nil⟩
  | false => exact .inr ⟨rfl, trails.journal, framed, trails.entriesFramed, trails.torn⟩

end RouteFabric
