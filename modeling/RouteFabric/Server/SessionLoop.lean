import RouteFabric.Std.Run
import RouteFabric.Wire.Frame

/-!
# The session loop

A session buffers what it receives and hands each complete frame to `handle`. Received bytes
are refused as a whole when they would take the buffer over the bound of one frame of the
largest size, as far as a 64-bit size can express it. The bound counts bytes of the next frame that arrived in the same piece as the
end of the previous one, so it depends on how the stream was cut whether a session survives:
`sessionLoop_delivers_iff` states the exact condition.

The handler is a parameter: it maps the state of the rest of the process to the next one and
answers whether the session goes on.
-/

namespace RouteFabric

open ByteReader

/-- What the wait for input and the receive that follows it bring. -/
inductive Reception where
  | chunk (bytes : Bytes)
  | wouldBlock
  | closed
deriving DecidableEq

/-- The counters that the loop itself moves. -/
structure LoopCounters where
  framesReceived : Nat := 0
  malformedFrames : Nat := 0
  integrityFailures : Nat := 0
  oversizedFrames : Nat := 0
deriving DecidableEq

/-- A session between two receives: its buffer, the frames handed to the handler and the errors
sent to the peer so far, and whether the loop was left. -/
structure SessionLoop (World : Type) where
  buffer : Bytes := []
  world : World
  handed : List DecodedFrame := []
  errors : List (StatusCode × String) := []
  counters : LoopCounters := {}
  ended : Bool := false

variable {World : Type}

namespace SessionLoop

/-- Send an error and leave the loop. -/
def refuse (session : SessionLoop World) (counters : LoopCounters) (code : StatusCode)
    (why : String) : SessionLoop World :=
  { session with counters, errors := session.errors ++ [(code, why)], ended := true }

/-- Take a frame off the buffer and hand it over; the handler says whether to go on. -/
def hand (handle : World → DecodedFrame → World × Bool) (session : SessionLoop World)
    (frame : DecodedFrame) (rest : Bytes) : SessionLoop World :=
  { session with
    buffer := rest
    world := (handle session.world frame).1
    handed := session.handed ++ [frame]
    counters := { session.counters with framesReceived := session.counters.framesReceived + 1 }
    ended := !(handle session.world frame).2 }

section

variable (limits : Limits) (handle : World → DecodedFrame → World × Bool)

/-- What the loop does with its buffer before it waits; nothing when no frame is complete. -/
def consume (session : SessionLoop World) : Option (SessionLoop World) :=
  if session.buffer.length < frameHeaderBytes then none
  else
    match frameHeaderStatus session.buffer limits with
    | .error ⟨.oversizedPayload, why⟩ =>
        some (session.refuse { session.counters with
          oversizedFrames := session.counters.oversizedFrames + 1 } .limitExceeded why)
    | .error ⟨_, why⟩ =>
        some (session.refuse { session.counters with
          malformedFrames := session.counters.malformedFrames + 1 } .protocolViolation why)
    | .ok total =>
        if session.buffer.length < total then none
        else
          match decodeFrame (session.buffer.take total) limits with
          | .error ⟨.integrityFailure, why⟩ =>
              some (session.refuse { session.counters with
                integrityFailures := session.counters.integrityFailures + 1 } .integrityFailure why)
          | .error ⟨_, why⟩ =>
              some (session.refuse { session.counters with
                malformedFrames := session.counters.malformedFrames + 1 } .integrityFailure why)
          | .ok frame =>
              some (session.hand handle frame (session.buffer.drop total))

/-- Consuming leaves the loop or shortens the buffer by a frame at least. -/
theorem consume_decreases {session next : SessionLoop World}
    (consumed : session.consume limits handle = some next) :
    next.ended = true ∨ next.buffer.length < session.buffer.length := by
  unfold consume at consumed
  split at consumed
  · cases consumed
  · rename_i long
    split at consumed
    · cases consumed
      exact .inl rfl
    · cases consumed
      exact .inl rfl
    · rename_i total header
      split at consumed
      · cases consumed
      · split at consumed
        · cases consumed
          exact .inl rfl
        · cases consumed
          exact .inl rfl
        · cases consumed
          right
          have positive : frameHeaderBytes ≤ total := by
            simp only [frameHeaderStatus, bind_eq_ok, exists_unit, demand_eq_ok, pure_eq_ok] at header
            omega
          change (session.buffer.drop total).length < session.buffer.length
          rw [List.length_drop]
          unfold frameHeaderBytes at positive long
          omega

/-- The loop up to its next wait. -/
def drain (session : SessionLoop World) : SessionLoop World :=
  if session.ended then session
  else
    match _consumed : session.consume limits handle with
    | none => session
    | some next => drain next
termination_by if session.ended then 0 else session.buffer.length + 1
decreasing_by
  rename_i going
  obtain left | shorter := consume_decreases limits handle _consumed
  · simp [left, going]
  · rw [if_neg going]
    split
    · exact Nat.succ_pos _
    · exact Nat.succ_lt_succ shorter

/-- The bound on what may be buffered; the sum wraps around as a 64-bit size does. -/
def bufferBound : Nat := (limits.maxFrameBytes + frameHeaderBytes) % 2 ^ 64

/-- The receive, and what is refused of it. -/
def receive (reception : Reception) (session : SessionLoop World) : SessionLoop World :=
  if session.ended then session
  else
    match reception with
    | .closed => { session with ended := true }
    | .wouldBlock => session
    | .chunk bytes =>
        if bufferBound limits < session.buffer.length + bytes.length then
          session.refuse { session.counters with
            oversizedFrames := session.counters.oversizedFrames + 1 } .limitExceeded
            "the peer sent more bytes than the configured frame bound"
        else { session with buffer := session.buffer ++ bytes }

/-- One receive and what follows it. -/
def advance (reception : Reception) (session : SessionLoop World) : SessionLoop World :=
  drain limits handle (receive limits reception session)

end

end SessionLoop

/-- The loop over what is received, from the empty buffer. -/
def sessionLoop (limits : Limits) (handle : World → DecodedFrame → World × Bool) (world : World)
    (receptions : List Reception) : SessionLoop World :=
  Run.run (SessionLoop.advance limits handle) (SessionLoop.drain limits handle { world }) receptions

/-! ## Frames in a stream -/

/-- How many bytes stand after the last frame boundary once `arrived` bytes of the stream have
arrived. -/
def pending : List Bytes → Nat → Nat
  | [], arrived => arrived
  | frame :: rest, arrived =>
      if frame.length ≤ arrived then pending rest (arrived - frame.length) else arrived

theorem pending_append (done rest : List Bytes) (arrived : Nat) :
    pending (done ++ rest) (done.flatten.length + arrived) = pending rest arrived := by
  induction done with
  | nil => simp
  | cons frame done ih =>
      rw [List.cons_append, pending, List.flatten_cons, List.length_append, if_pos (by omega),
        show frame.length + done.flatten.length + arrived - frame.length =
          done.flatten.length + arrived by omega, ih]

/-- Every frame of a stream once it is whole, none pending. -/
theorem pending_whole (frames : List Bytes) : pending frames frames.flatten.length = 0 := by
  have whole := pending_append frames [] 0
  rwa [List.append_nil, Nat.add_zero] at whole

/-- The handler goes on with each of the frames, one after the other. -/
def Accepts (handle : World → DecodedFrame → World × Bool) : World → List DecodedFrame → Prop
  | _, [] => True
  | world, frame :: rest => (handle world frame).2 = true ∧ Accepts handle (handle world frame).1 rest

namespace SessionLoop

variable {limits : Limits} {handle : World → DecodedFrame → World × Bool}

theorem drain_of_ended {session : SessionLoop World} (ended : session.ended = true) :
    drain limits handle session = session := by
  rw [drain, if_pos ended]

theorem drain_of_none {session : SessionLoop World} (nothing : session.consume limits handle = none) :
    drain limits handle session = session := by
  rw [drain]
  split
  · rfl
  · split
    · rfl
    · rename_i consumed
      rw [nothing] at consumed
      cases consumed

theorem drain_of_some {session next : SessionLoop World} (going : session.ended = false)
    (consumed : session.consume limits handle = some next) :
    drain limits handle session = drain limits handle next := by
  rw [drain, if_neg (by rw [going]; decide)]
  split
  · rename_i nothing
    rw [nothing] at consumed
    cases consumed
  · rename_i other
    rw [consumed] at other
    cases other
    rfl

/-- The header of a frame that has begun to arrive is read as that of the whole frame. -/
theorem frameHeaderStatus_arrived {frame : Bytes} (formed : FrameFormed frame limits) {buffer : Bytes}
    (header : frameHeaderBytes ≤ buffer.length) (same : buffer.take 12 = frame.take 12) :
    frameHeaderStatus buffer limits = .ok frame.length := by
  have words : ∀ offset count, offset + count ≤ 12 → wordAt buffer offset count = wordAt frame offset count := by
    intro offset count within
    have slice := congrArg (fun bytes => (bytes.drop offset).take count) same
    simp only [List.drop_take, List.take_take, Nat.min_eq_left (show count ≤ 12 - offset by omega)] at slice
    exact congrArg leValue slice
  simp only [frameHeaderStatus, bind_eq_ok, exists_unit, demand_eq_ok, pure_eq_ok,
    words 0 4 (by omega), words 4 2 (by omega), words 6 2 (by omega), words 8 4 (by omega)]
  exact ⟨header, formed.magic, formed.version, formed.identified, formed.bounded, formed.length.symm⟩

/-- A frame that stands whole at the front of the buffer is handed over. -/
theorem consume_whole {session : SessionLoop World} {frame rest : Bytes}
    (formed : FrameFormed frame limits) (front : session.buffer = frame ++ rest) :
    session.consume limits handle = some (session.hand handle (frameOf frame) rest) := by
  have header := formed.header
  have long : frameHeaderBytes ≤ session.buffer.length := by
    rw [front, List.length_append]
    omega
  have status : frameHeaderStatus session.buffer limits = .ok frame.length := by
    apply frameHeaderStatus_arrived formed long
    rw [front, List.take_append_of_le_length]
    exact le_trans (by decide) header
  have whole : ¬ session.buffer.length < frame.length := by
    rw [front, List.length_append]
    omega
  have decoded : decodeFrame (session.buffer.take frame.length) limits = .ok (frameOf frame) := by
    rw [front, List.take_left]
    exact decodeFrame_eq_ok.mpr ⟨formed, rfl⟩
  have remains : session.buffer.drop frame.length = rest := by
    rw [front, List.drop_left]
  simp only [consume, if_neg (Nat.not_lt.mpr long), status, if_neg whole, decoded, remains]

/-- A frame that has not arrived whole is waited for. -/
theorem consume_part {session : SessionLoop World} {frame : Bytes}
    (formed : FrameFormed frame limits) (part : session.buffer <+: frame)
    (short : session.buffer.length < frame.length) : session.consume limits handle = none := by
  unfold consume
  split
  · rfl
  · rename_i long
    have header : frameHeaderBytes ≤ session.buffer.length := Nat.le_of_not_lt long
    have status : frameHeaderStatus session.buffer limits = .ok frame.length := by
      apply frameHeaderStatus_arrived formed header
      obtain ⟨rest, rfl⟩ := part
      rw [List.take_append_of_le_length]
      exact le_trans (by decide) header
    simp only [status, if_pos short]

/-- The session goes on, and its buffer and the bytes still to come are the remaining frames. -/
structure Midstream (handle : World → DecodedFrame → World × Bool) (session : SessionLoop World)
    (remaining : List Bytes) (coming : Bytes) : Prop where
  going : session.ended = false
  stream : session.buffer ++ coming = remaining.flatten
  accepted : Accepts handle session.world (remaining.map frameOf)

/-- The loop hands over the frames that have arrived whole and stops inside the next one. -/
theorem drain_midstream {session : SessionLoop World} {remaining : List Bytes} {coming : Bytes}
    (formed : ∀ frame ∈ remaining, FrameFormed frame limits)
    (midstream : Midstream handle session remaining coming) :
    ∃ done rest, remaining = done ++ rest ∧
      Midstream handle (drain limits handle session) rest coming ∧
      (drain limits handle session).handed = session.handed ++ done.map frameOf ∧
      session.buffer.length = done.flatten.length + (drain limits handle session).buffer.length ∧
      pending rest (drain limits handle session).buffer.length =
        (drain limits handle session).buffer.length := by
  induction remaining generalizing session with
  | nil =>
      have empty : session.buffer = [] := (List.append_eq_nil_iff.mp midstream.stream).1
      have nothing : session.consume limits handle = none := by
        rw [consume, if_pos (by rw [empty]; decide)]
      rw [drain_of_none nothing]
      exact ⟨[], [], rfl, midstream, by simp, by simp, rfl⟩
  | cons frame remaining ih =>
      have frameFormed := formed frame List.mem_cons_self
      have stream := midstream.stream
      rw [List.flatten_cons] at stream
      by_cases whole : frame.length ≤ session.buffer.length
      · obtain ⟨rest, front⟩ : frame <+: session.buffer :=
          List.prefix_of_prefix_length_le (List.prefix_append frame remaining.flatten)
            (stream ▸ List.prefix_append session.buffer coming) whole
        have consumed := @consume_whole _ limits handle session frame rest frameFormed front.symm
        have following : rest ++ coming = remaining.flatten := by
          rw [← front, List.append_assoc] at stream
          exact List.append_cancel_left stream
        have going : (session.hand handle (frameOf frame) rest).ended = false := by
          simp [hand, midstream.accepted.1]
        obtain ⟨done, left, split, further, handed, length, drained⟩ :=
          ih (fun other member => formed other (List.mem_cons_of_mem _ member))
            ⟨going, following, midstream.accepted.2⟩
        rw [drain_of_some midstream.going consumed]
        refine ⟨frame :: done, left, by rw [split]; rfl, further, ?_, ?_, drained⟩
        · rw [handed]
          simp [hand]
        · change rest.length = _ at length
          rw [← front, List.length_append, length, List.flatten_cons, List.length_append]
          omega
      · have part : session.buffer <+: frame :=
          List.prefix_of_prefix_length_le (stream ▸ List.prefix_append session.buffer coming)
            (List.prefix_append frame remaining.flatten) (by omega)
        rw [drain_of_none (consume_part frameFormed part (by omega))]
        exact ⟨[], frame :: remaining, rfl, midstream, by simp, by simp, by rw [pending, if_neg whole]⟩

/-- A session that was left stays left. -/
theorem run_ended {session : SessionLoop World} (ended : session.ended = true)
    (receptions : List Reception) :
    Run.run (advance limits handle) session receptions = session := by
  induction receptions with
  | nil => rfl
  | cons reception rest ih =>
      have stays : advance limits handle reception session = session := by
        have kept : receive limits reception session = session := by simp [receive, ended]
        rw [advance, kept, drain_of_ended ended]
      rw [Run.run_cons, stays, ih]

end SessionLoop

/-- Whenever a piece arrives, it and what is buffered of an unfinished frame stay within the
bound of one frame. -/
def WithinBound (limits : Limits) (frames chunks : List Bytes) (buffered : Nat) : Prop :=
  ∀ before chunk after, chunks = before ++ chunk :: after →
    pending frames (buffered + before.flatten.length) + chunk.length ≤ SessionLoop.bufferBound limits

namespace SessionLoop

variable {limits : Limits} {handle : World → DecodedFrame → World × Bool}

theorem withinBound_cons {frames done rest : List Bytes} {chunk : Bytes} {chunks : List Bytes}
    {buffered left : Nat} (split : frames = done ++ rest)
    (drained : pending frames buffered = buffered)
    (length : buffered + chunk.length = done.flatten.length + left) :
    WithinBound limits frames (chunk :: chunks) buffered ↔
      buffered + chunk.length ≤ bufferBound limits ∧ WithinBound limits rest chunks left := by
  have later : ∀ count, pending frames (buffered + (chunk.length + count)) = pending rest (left + count) := by
    intro count
    rw [← Nat.add_assoc, length, split, Nat.add_assoc, pending_append]
  constructor
  · intro within
    refine ⟨?_, ?_⟩
    · have first := within [] chunk chunks rfl
      rw [List.flatten_nil, List.length_nil, Nat.add_zero, drained] at first
      exact first
    · intro before other after cut
      have next := within (chunk :: before) other after (by rw [cut]; rfl)
      rw [List.flatten_cons, List.length_append, later] at next
      exact next
  · rintro ⟨first, others⟩ before other after cut
    cases before with
    | nil =>
        obtain ⟨rfl, rfl⟩ := List.cons.inj cut
        rw [List.flatten_nil, List.length_nil, Nat.add_zero, drained]
        exact first
    | cons head before =>
        obtain ⟨rfl, remaining⟩ := List.cons.inj cut
        rw [List.flatten_cons, List.length_append, later]
        exact others before other after remaining

/-- From any point of the stream, the rest of it is handed over exactly when every piece stays
within the bound. -/
theorem run_midstream {session : SessionLoop World} {remaining chunks : List Bytes}
    (formed : ∀ frame ∈ remaining, FrameFormed frame limits)
    (midstream : Midstream handle session remaining chunks.flatten)
    (drained : pending remaining session.buffer.length = session.buffer.length) :
    ((Run.run (advance limits handle) session (chunks.map .chunk)).ended = false ∧
      (Run.run (advance limits handle) session (chunks.map .chunk)).handed =
        session.handed ++ remaining.map frameOf) ↔
      WithinBound limits remaining chunks session.buffer.length := by
  induction chunks generalizing session remaining with
  | nil =>
      -- The whole stream is buffered and no frame of it is left over.
      have stream : session.buffer = remaining.flatten := by
        have whole := midstream.stream
        rwa [List.flatten_nil, List.append_nil] at whole
      have none : remaining.flatten.length = 0 := by
        rw [← pending_whole remaining, ← stream, drained]
      have finished : remaining = [] := by
        cases remaining with
        | nil => rfl
        | cons frame rest =>
            have header := (formed frame List.mem_cons_self).header
            rw [List.flatten_cons, List.length_append] at none
            unfold frameHeaderBytes at header
            omega
      rw [finished]
      constructor
      · rintro - before chunk after cut
        simp at cut
      · intro
        exact ⟨midstream.going, by simp⟩
  | cons chunk chunks ih =>
      rw [List.map_cons, Run.run_cons]
      by_cases room : session.buffer.length + chunk.length ≤ bufferBound limits
      · have received : receive limits (.chunk chunk) session =
            { session with buffer := session.buffer ++ chunk } := by
          simp [receive, midstream.going, Nat.not_lt.mpr room]
        have arrived : Midstream handle (receive limits (.chunk chunk) session) remaining
            chunks.flatten := by
          rw [received]
          refine ⟨midstream.going, ?_, midstream.accepted⟩
          have stream := midstream.stream
          rw [List.flatten_cons, ← List.append_assoc] at stream
          exact stream
        obtain ⟨done, rest, split, further, handed, length, stopped⟩ := drain_midstream formed arrived
        have later := ih (fun frame member => formed frame (by rw [split]; simp [member])) further stopped
        have bytes : session.buffer.length + chunk.length = done.flatten.length +
            (drain limits handle (receive limits (.chunk chunk) session)).buffer.length := by
          rw [← length, received, List.length_append]
        rw [withinBound_cons split drained bytes, ← later, and_iff_right room]
        have all : session.handed ++ remaining.map frameOf =
            (drain limits handle (receive limits (.chunk chunk) session)).handed ++ rest.map frameOf := by
          rw [handed, split, received, List.map_append, List.append_assoc]
        rw [all]
        rfl
      · have ended : (receive limits (.chunk chunk) session).ended = true := by
          simp [receive, midstream.going, Nat.lt_of_not_le room, refuse]
        have stopped : advance limits handle (.chunk chunk) session =
            receive limits (.chunk chunk) session := drain_of_ended ended
        rw [stopped, run_ended ended]
        constructor
        · rintro ⟨going, -⟩
          rw [ended] at going
          cases going
        · intro within
          have first := within [] chunk chunks rfl
          rw [List.flatten_nil, List.length_nil, Nat.add_zero, drained] at first
          exact absurd first room

end SessionLoop

/-- Frames that decode are formed, and decode to what they hold. -/
theorem formed_of_decoded {limits : Limits} {frames : List Bytes} {decoded : List DecodedFrame}
    (valid : List.Forall₂ (fun frame content => decodeFrame frame limits = .ok content) frames decoded) :
    (∀ frame ∈ frames, FrameFormed frame limits) ∧ decoded = frames.map frameOf := by
  induction valid with
  | nil => exact ⟨by simp, rfl⟩
  | cons decodes _ ih =>
      obtain ⟨formed, rfl⟩ := decodeFrame_eq_ok.mp decodes
      exact ⟨List.forall_mem_cons.mpr ⟨formed, ih.1⟩, by rw [ih.2, List.map_cons]⟩

theorem SessionLoop.drain_start (limits : Limits) (handle : World → DecodedFrame → World × Bool)
    (world : World) : drain limits handle { world } = { world } := by
  apply drain_of_none
  rw [consume, if_pos (show ([] : Bytes).length < frameHeaderBytes by decide)]

/-- A session hands over a stream of valid frames, in order and without being left, exactly when
every piece that arrives stays within the bound together with what is buffered before it. -/
theorem sessionLoop_delivers_iff (limits : Limits) (handle : World → DecodedFrame → World × Bool)
    (world : World) (frames chunks : List Bytes) (decoded : List DecodedFrame)
    (valid : List.Forall₂ (fun frame content => decodeFrame frame limits = .ok content) frames decoded)
    (accepted : Accepts handle world decoded) (cut : chunks.flatten = frames.flatten) :
    ((sessionLoop limits handle world (chunks.map .chunk)).ended = false ∧
      (sessionLoop limits handle world (chunks.map .chunk)).handed = decoded) ↔
      WithinBound limits frames chunks 0 := by
  obtain ⟨formed, contents⟩ := formed_of_decoded valid
  have midstream : SessionLoop.Midstream handle { world } frames chunks.flatten :=
    ⟨rfl, cut, contents ▸ accepted⟩
  have drained : pending frames 0 = 0 := by
    cases frames with
    | nil => rfl
    | cons frame rest =>
        have header := (formed frame List.mem_cons_self).header
        rw [pending, if_neg]
        unfold frameHeaderBytes at header
        omega
  have delivers := SessionLoop.run_midstream formed midstream drained
  rw [sessionLoop, SessionLoop.drain_start, contents]
  simpa using delivers

namespace Streamed

/-- A handler that goes on with every frame. -/
def obliging (world : Unit) (_ : DecodedFrame) : Unit × Bool := (world, true)

/-- A frame with a payload of the largest size under the smallest bound. -/
def frame : Bytes := encodeFrame .hello (List.replicate 64 0)

def tight : Limits := { maxFrameBytes := 64 }

def content : DecodedFrame := ⟨.hello, wireProtocolVersion, List.replicate 64 0⟩

theorem decodes : decodeFrame frame tight = .ok content :=
  decodeFrame_eq_ok.mpr ⟨encodeFrame_formed .hello (by decide) (by decide),
    (frameOf_encodeFrame .hello _).symm⟩

theorem length_frame : frame.length = 80 := by
  rw [frame, length_encodeFrame, List.length_replicate]
  rfl

end Streamed

/-- Two frames that arrive one by one are handed over. -/
theorem sessionLoop_delivers_apart :
    (sessionLoop Streamed.tight Streamed.obliging () ([Streamed.frame, Streamed.frame].map .chunk)).ended = false ∧
      (sessionLoop Streamed.tight Streamed.obliging ()
        ([Streamed.frame, Streamed.frame].map .chunk)).handed = [Streamed.content, Streamed.content] := by
  refine (sessionLoop_delivers_iff Streamed.tight Streamed.obliging () [Streamed.frame, Streamed.frame]
    [Streamed.frame, Streamed.frame] [Streamed.content, Streamed.content]
    (.cons Streamed.decodes (.cons Streamed.decodes .nil)) ⟨rfl, rfl, trivial⟩ rfl).mpr ?_
  have drained : ∀ rest, pending (Streamed.frame :: rest) 0 = 0 := by
    intro rest
    rw [pending, if_neg (by rw [Streamed.length_frame]; omega)]
  have arrives : 0 + Streamed.frame.length = [Streamed.frame].flatten.length + 0 := by simp
  have fits : 0 + Streamed.frame.length ≤ SessionLoop.bufferBound Streamed.tight := by
    rw [Streamed.length_frame]
    decide
  rw [SessionLoop.withinBound_cons (List.singleton_append).symm (drained _) arrives,
    SessionLoop.withinBound_cons (List.append_nil _).symm (drained _) arrives]
  refine ⟨fits, fits, ?_⟩
  intro before chunk after cut
  simp at cut

/-- The same two frames in one piece are refused: the piece is longer than one frame may be. -/
theorem sessionLoop_refuses_together :
    List.Forall₂ (fun frame content => decodeFrame frame Streamed.tight = .ok content)
        [Streamed.frame, Streamed.frame] [Streamed.content, Streamed.content] ∧
      Accepts Streamed.obliging () [Streamed.content, Streamed.content] ∧
      (Streamed.frame ++ Streamed.frame).length ≤ 4096 ∧
      (sessionLoop Streamed.tight Streamed.obliging ()
        [.chunk (Streamed.frame ++ Streamed.frame)]).ended = true ∧
      (sessionLoop Streamed.tight Streamed.obliging ()
        [.chunk (Streamed.frame ++ Streamed.frame)]).handed = [] := by
  have length : (Streamed.frame ++ Streamed.frame).length = 160 := by
    rw [List.length_append, Streamed.length_frame]
  have refused : SessionLoop.receive Streamed.tight (.chunk (Streamed.frame ++ Streamed.frame)) { world := () } =
      SessionLoop.refuse { world := () } { oversizedFrames := 1 } .limitExceeded
        "the peer sent more bytes than the configured frame bound" := by
    simp only [SessionLoop.receive, length]
    rfl
  have ended : SessionLoop.advance Streamed.tight Streamed.obliging
      (.chunk (Streamed.frame ++ Streamed.frame)) { world := () } =
      SessionLoop.refuse { world := () } { oversizedFrames := 1 } .limitExceeded
        "the peer sent more bytes than the configured frame bound" := by
    rw [SessionLoop.advance, refused]
    exact SessionLoop.drain_of_ended rfl
  refine ⟨.cons Streamed.decodes (.cons Streamed.decodes .nil), ⟨rfl, rfl, trivial⟩, by omega, ?_, ?_⟩ <;>
    rw [sessionLoop, SessionLoop.drain_start, Run.run_cons, ended] <;> rfl

end RouteFabric
