import RouteFabric.Client.Calls
import RouteFabric.Server.SessionLoop
import RouteFabric.Server.Sessions
import RouteFabric.Wire.Acceptance

/-!
# A client on a session

The peer of a client is a session of the server: the bytes of a frame reach its loop in pieces, and
what the session sends goes back. `exchange_session` says what one exchange over such a link comes
to: the frame is handled once, and the client reads the reply.
-/

namespace RouteFabric

open ByteReader Run

/-! ## One frame in pieces -/

namespace SessionLoop

variable {World : Type} {limits : Limits} {handle : World → DecodedFrame → World × Bool}

theorem drain_unbuffered {session : SessionLoop World} (unbuffered : session.buffer = []) :
    drain limits handle session = session := by
  by_cases ended : session.ended = true
  · exact drain_of_ended ended
  · apply drain_of_none
    rw [consume, unbuffered, if_pos (by decide)]

/-- Pieces without bytes change nothing. -/
theorem run_empty {session : SessionLoop World} (unbuffered : session.buffer = []) {pieces : List Bytes}
    (empty : pieces.flatten = []) : run (advance limits handle) session (pieces.map .chunk) = session := by
  induction pieces with
  | nil => rfl
  | cons piece rest ih =>
      rw [List.flatten_cons, List.append_eq_nil_iff] at empty
      obtain ⟨rfl, later⟩ := empty
      have unchanged : advance limits handle (.chunk []) session = session := by
        have received : receive limits (.chunk []) session = session := by
          obtain ⟨buffer, world, handed, errors, counters, ended⟩ := session
          obtain rfl : buffer = [] := unbuffered
          cases ended <;> simp [receive]
        rw [advance, received, drain_unbuffered unbuffered]
      rw [List.map_cons, run_cons, unchanged]
      exact ih later

/-- A frame that arrives in any pieces is handed over once. -/
theorem run_frame {session : SessionLoop World} {frame : Bytes} {pieces : List Bytes}
    (formed : FrameFormed frame limits) (room : limits.maxFrameBytes + frameHeaderBytes < 2 ^ 64)
    (going : session.ended = false) (cut : session.buffer ++ pieces.flatten = frame) (short : session.buffer.length < frame.length) :
    run (advance limits handle) session (pieces.map .chunk) = session.hand handle (frameOf frame) [] := by
  induction pieces generalizing session with
  | nil =>
      rw [List.flatten_nil, List.append_nil] at cut
      rw [cut] at short
      exact absurd short (lt_irrefl _)
  | cons piece rest ih =>
      rw [List.flatten_cons, ← List.append_assoc] at cut
      have length := congrArg List.length cut
      rw [List.length_append, List.length_append] at length
      have bound : session.buffer.length + piece.length ≤ bufferBound limits := by
        have whole := formed.length
        have bounded := formed.bounded
        rw [bufferBound, Nat.mod_eq_of_lt room]
        omega
      have received : receive limits (.chunk piece) session =
          { session with buffer := session.buffer ++ piece } := by
        simp [receive, going, Nat.not_lt.mpr bound]
      rw [List.map_cons, run_cons, advance, received]
      by_cases whole : session.buffer.length + piece.length < frame.length
      · -- The frame is still incomplete, and the loop waits.
        have part : session.buffer ++ piece <+: frame := ⟨_, cut⟩
        have waits : consume limits handle { session with buffer := session.buffer ++ piece } = none :=
          consume_part formed part (by simpa using whole)
        rw [drain_of_none waits]
        exact ih going cut (by simpa using whole)
      · -- The last bytes have arrived, and nothing comes after them.
        have nothing : rest.flatten = [] := by
          apply List.eq_nil_of_length_eq_zero
          omega
        rw [nothing, List.append_nil] at cut
        have front : session.buffer ++ piece = frame ++ [] := by rw [cut, List.append_nil]
        have hands : consume limits handle { session with buffer := session.buffer ++ piece } =
            some (session.hand handle (frameOf frame) []) := consume_whole formed front
        have handed : drain limits handle { session with buffer := session.buffer ++ piece } =
            session.hand handle (frameOf frame) [] := by
          rw [drain_of_some (by exact going) hands]
          exact drain_unbuffered rfl
        rw [handed]
        exact run_empty rfl nothing

end SessionLoop

/-! ## The link -/

/-- How the bytes of a frame are cut into the pieces that arrive. -/
structure Segmentation where
  pieces : Bytes → List Bytes
  whole : ∀ image, (pieces image).flatten = image

def Reply.image (reply : Reply) : Bytes := encodeFrame reply.id reply.payload

/-- What a session sent after it had sent what is in `before`: replies, and at most one error, after
which it is over. -/
def sentSince (before after : SessionLoop Conversation) : Bytes :=
  (after.world.replies.drop before.world.replies.length).flatMap Reply.image ++
    (after.errors.drop before.errors.length).flatMap fun refusal =>
      (errorReply refusal.1 refusal.2).image

/-- A session of the server as the peer of a client. -/
def sessionPeer (config : ServerConfig) (env : ServerEnv) (cut : Segmentation) (closed : String) :
    Peer (SessionLoop Conversation) where
  send image loop :=
    if loop.ended then (loop, .error closed)
    else
      let after := run (SessionLoop.advance config.limits (attend config env)) loop
        ((cut.pieces image).map .chunk)
      (after, .ok (sentSince loop after))
  ended _ := closed

/-- The session waits for the next frame. -/
structure Waiting (loop : SessionLoop Conversation) : Prop where
  going : loop.ended = false
  buffer : loop.buffer = []
  goesOn : loop.world.goesOn = true

/-- A payload that fits into a frame of the given bound. -/
structure Fits (limits : Limits) (payload : Bytes) : Prop where
  within : payload.length ≤ limits.maxFrameBytes
  prefixed : payload.length < 2 ^ 32

/-- Where frames are small, only the bound counts. -/
theorem Fits.of_small {limits : Limits} {payload : Bytes} (within : payload.length ≤ limits.maxFrameBytes)
    (small : limits.maxFrameBytes < 2 ^ 32) : Fits limits payload :=
  ⟨within, within.trans_lt small⟩

/-- What one exchange takes: both ends are ready, the request fits them, the bound on the buffer of the
session does not wrap around, and the reply has a length that a frame can express. -/
structure Linked (config : ServerConfig) (env : ServerEnv) (client : Client) (loop : SessionLoop Conversation)
    (frame : DecodedFrame) : Prop where
  connected : client.connected = true
  unread : client.unread = []
  waiting : Waiting loop
  version : frame.wireVersion = wireProtocolVersion
  sends : Fits client.limits frame.payload
  takes : Fits config.limits frame.payload
  room : config.limits.maxFrameBytes + frameHeaderBytes < 2 ^ 64
  answers : (handle config env loop.world.session loop.world.state frame).reply.payload.length < 2 ^ 32

/-- The reply to a frame is not too long for the client. -/
def Returns (config : ServerConfig) (env : ServerEnv) (client : Client) (loop : SessionLoop Conversation)
    (frame : DecodedFrame) : Prop :=
  (handle config env loop.world.session loop.world.state frame).reply.payload.length ≤
    client.limits.maxFrameBytes

namespace Client

variable {config : ServerConfig} {env : ServerEnv} {client : Client}

/-- A frame that arrived whole is read, whatever comes after it. -/
theorem receiveFrame_image {limits : Limits} {ended : String} {id : MessageId} {payload : Bytes}
    (fits : Fits limits payload) :
    receiveFrame limits ended (encodeFrame id payload) =
      (.ok ⟨id, wireProtocolVersion, payload⟩, []) := by
  have formed : FrameFormed (encodeFrame id payload) limits :=
    encodeFrame_formed id fits.within fits.prefixed
  have status : frameHeaderStatus ((encodeFrame id payload).take frameHeaderBytes) limits =
      .ok (encodeFrame id payload).length := by
    apply SessionLoop.frameHeaderStatus_arrived formed
    · rw [List.length_take, Nat.min_eq_left formed.header]
    · rw [List.take_take]
      rfl
  have decoded : decodeFrame ((encodeFrame id payload).take (encodeFrame id payload).length) limits =
      .ok ⟨id, wireProtocolVersion, payload⟩ := by
    rw [List.take_length, decodeFrame_eq_ok]
    exact ⟨formed, (frameOf_encodeFrame id payload).symm⟩
  rw [receiveFrame, if_neg (Nat.not_lt.mpr formed.header), status]
  simp only
  rw [if_neg (lt_irrefl _), decoded]
  simp only
  rw [List.drop_length]

/-- The header of a frame that is too long is refused before the rest is read. -/
theorem receiveFrame_oversized {limits : Limits} {ended : String} {id : MessageId} {payload : Bytes}
    (large : limits.maxFrameBytes < payload.length) (prefixed : payload.length < 2 ^ 32) :
    (receiveFrame limits ended (encodeFrame id payload)).1 =
      makeError .protocolViolation "frame payload exceeds the configured bound" := by
  have header : frameHeaderBytes ≤ (encodeFrame id payload).length := by
    rw [length_encodeFrame]
    exact Nat.le_add_right _ _
  have fields := encodeFrame_fields id payload
  have words : ∀ offset count, offset + count ≤ frameHeaderBytes →
      wordAt ((encodeFrame id payload).take frameHeaderBytes) offset count =
        wordAt (encodeFrame id payload) offset count := by
    intro offset count within
    rw [wordAt, wordAt, List.drop_take, List.take_take, Nat.min_eq_left (by omega)]
  have refused : frameHeaderStatus ((encodeFrame id payload).take frameHeaderBytes) limits =
      .error ⟨.oversizedPayload, "frame payload exceeds the configured bound"⟩ := by
    have known : isMessageIdValue (wordAt (encodeFrame id payload) 6 2) = true := by
      rw [fields.identifier]
      exact id.isMessageIdValue_code
    have exceeds : ¬ wordAt (encodeFrame id payload) 8 4 ≤ limits.maxFrameBytes := by
      rw [fields.length, Nat.mod_eq_of_lt prefixed]
      exact Nat.not_le.mpr large
    have taken : frameHeaderBytes ≤ ((encodeFrame id payload).take frameHeaderBytes).length := by
      rw [List.length_take, Nat.min_eq_left header]
    simp only [frameHeaderStatus, words 0 4 (by decide), words 4 2 (by decide), words 6 2 (by decide),
      words 8 4 (by decide), fields.magic, fields.version, known, demand, taken, exceeds, if_true, if_false]
    rfl
  rw [receiveFrame, if_neg (Nat.not_lt.mpr header), refused]

/-- What a session does with one frame, and what it sends. -/
theorem sessionPeer_send {cut : Segmentation} {closed : String} {loop : SessionLoop Conversation}
    (waiting : Waiting loop) {id : MessageId} {payload : Bytes} (fits : Fits config.limits payload)
    (room : config.limits.maxFrameBytes + frameHeaderBytes < 2 ^ 64) :
    (sessionPeer config env cut closed).send (encodeFrame id payload) loop =
      (loop.hand (attend config env) ⟨id, wireProtocolVersion, payload⟩ [],
        .ok (handle config env loop.world.session loop.world.state
          ⟨id, wireProtocolVersion, payload⟩).reply.image) := by
  have formed : FrameFormed (encodeFrame id payload) config.limits :=
    encodeFrame_formed id fits.within fits.prefixed
  have arrives : run (SessionLoop.advance config.limits (attend config env)) loop
      ((cut.pieces (encodeFrame id payload)).map .chunk) =
        loop.hand (attend config env) ⟨id, wireProtocolVersion, payload⟩ [] := by
    rw [SessionLoop.run_frame formed room waiting.going, frameOf_encodeFrame]
    · rw [waiting.buffer, List.nil_append, cut.whole]
    · rw [waiting.buffer]
      exact Nat.lt_of_lt_of_le (by decide) formed.header
  have sent : sentSince loop (loop.hand (attend config env) ⟨id, wireProtocolVersion, payload⟩ []) =
      (handle config env loop.world.session loop.world.state
        ⟨id, wireProtocolVersion, payload⟩).reply.image := by
    simp [sentSince, SessionLoop.hand, attend, converse, waiting.goesOn]
  simp only [sessionPeer, waiting.going, Bool.false_eq_true, if_false, arrives, sent]

/-- One exchange over a session: the frame is handled once, and the client reads from the reply. -/
theorem exchange_session {α : Type} {cut : Segmentation} {closed : String}
    {loop : SessionLoop Conversation} {frame : DecodedFrame} {expected : MessageId} {codec : Codec α}
    (linked : Linked config env client loop frame) :
    exchange (sessionPeer config env cut closed) frame.id expected frame.payload codec client loop =
      let received := receiveFrame client.limits closed
        (handle config env loop.world.session loop.world.state frame).reply.image
      ⟨{ client with unread := received.2 }, loop.hand (attend config env) frame [],
        readAnswer codec expected received.1⟩ := by
  obtain ⟨connected, unread, waiting, version, sends, takes, room, -⟩ := linked
  obtain ⟨id, wireVersion, payload⟩ := frame
  obtain rfl : wireVersion = wireProtocolVersion := version
  have ready : client.sendFrame id payload = .ok (encodeFrame id payload) := by
    rw [sendFrame, ensure, if_pos connected, ensure, if_pos sends.within]
    rfl
  rw [exchange, ready]
  simp only [sessionPeer_send waiting takes room, unread, List.nil_append]
  rfl

/-- The answer to an exchange is read from the reply when it is not too long. -/
theorem exchange_returned {α : Type} {cut : Segmentation} {closed : String}
    {loop : SessionLoop Conversation} {frame : DecodedFrame} {expected : MessageId} {codec : Codec α}
    (linked : Linked config env client loop frame) (returns : Returns config env client loop frame) :
    (exchange (sessionPeer config env cut closed) frame.id expected frame.payload codec client loop).result =
      readAnswer codec expected
        (.ok ⟨(handle config env loop.world.session loop.world.state frame).reply.id, wireProtocolVersion,
          (handle config env loop.world.session loop.world.state frame).reply.payload⟩) := by
  simp only [exchange_session linked, Reply.image, receiveFrame_image ⟨returns, linked.answers⟩]

/-- A reply that is too long violates the protocol. -/
theorem exchange_oversized {α : Type} {cut : Segmentation} {closed : String}
    {loop : SessionLoop Conversation} {frame : DecodedFrame} {expected : MessageId} {codec : Codec α}
    (linked : Linked config env client loop frame) (large : ¬ Returns config env client loop frame) :
    (exchange (sessionPeer config env cut closed) frame.id expected frame.payload codec client loop).result =
      makeError .protocolViolation "frame payload exceeds the configured bound" := by
  simp only [exchange_session linked, Reply.image,
    receiveFrame_oversized (Nat.lt_of_not_le large) linked.answers]
  rfl

/-- What was expected is read. -/
theorem readAnswer_expected {α : Type} {codec : Codec α} {expected : MessageId} {version : Nat}
    {payload : Bytes} {message : α} (ordinary : expected ≠ .error) :
    readAnswer codec expected (.ok ⟨expected, version, payload⟩) = .ok message ↔
      codec.decode payload = .ok message := by
  cases decoded : codec.decode payload with
  | error why =>
      simp [readAnswer, expectFrame, ordinary, decoded, makeError, bind, Except.bind, pure, Except.pure]
  | ok answer => simp [readAnswer, expectFrame, ordinary, decoded, bind, Except.bind, pure, Except.pure]

/-- A payload that does not decode is a violation of the protocol. -/
theorem readAnswer_malformed {α : Type} {codec : Codec α} {expected : MessageId} {version : Nat}
    {payload : Bytes} {why : String} (ordinary : expected ≠ .error)
    (malformed : codec.decode payload = .error why) :
    readAnswer codec expected (.ok ⟨expected, version, payload⟩) =
      .error ⟨.protocolViolation, why⟩ := by
  simp [readAnswer, expectFrame, ordinary, malformed, makeError, bind, Except.bind, pure, Except.pure]

/-- What a session answers to a request that it cannot read. -/
theorem readAnswer_refused {α : Type} {codec : Codec α} {expected : MessageId} {version : Nat} {why : String}
    (short : (errorReply .protocolViolation why).payload.length < 2 ^ 32) :
    ∃ failure, readAnswer codec expected
        (.ok ⟨.error, version, (errorReply .protocolViolation why).payload⟩) = .error failure ∧
      failure.code = .protocolViolation := by
  have read := Codec.decode_encode (ErrorMessage.reads short)
  by_cases fits : (asciiBytes why).length ≤ maxDiagnosticChars
  · have decoded := read.mpr ⟨fits⟩
    simp only [errorReply, reply] at decoded ⊢
    simp [readAnswer, expectFrame, decoded, makeError, bind, Except.bind]
  · obtain ⟨malformed, failed⟩ := Codec.decode_encode_error (ErrorMessage.reads short)
      fun acceptable => fits acceptable.detail
    simp only [errorReply, reply] at failed ⊢
    simp [readAnswer, expectFrame, failed, makeError, bind, Except.bind]

/-- A frame that the session cannot read is answered with a violation of the protocol. -/
theorem exchange_refused {α : Type} {cut : Segmentation} {closed why : String}
    {loop : SessionLoop Conversation} {frame : DecodedFrame} {expected : MessageId} {codec : Codec α}
    (linked : Linked config env client loop frame)
    (refused : (handle config env loop.world.session loop.world.state frame).reply =
      errorReply .protocolViolation why) :
    ∃ failure, (exchange (sessionPeer config env cut closed) frame.id expected frame.payload codec client
        loop).result = .error failure ∧ failure.code = .protocolViolation := by
  by_cases returns : Returns config env client loop frame
  · have short := linked.answers
    rw [exchange_returned linked returns]
    simp only [refused] at short ⊢
    exact readAnswer_refused short
  · exact ⟨_, exchange_oversized linked returns, rfl⟩

/-- An answer that the client expects is decoded, or it violates the protocol. -/
theorem exchange_answered {α : Type} {cut : Segmentation} {closed : String}
    {loop : SessionLoop Conversation} {frame : DecodedFrame} {expected : MessageId} {codec : Codec α}
    {payload : Bytes} (linked : Linked config env client loop frame) (ordinary : expected ≠ .error)
    (answered : (handle config env loop.world.session loop.world.state frame).reply = ⟨expected, payload⟩) :
    (∀ message, Returns config env client loop frame → codec.decode payload = .ok message →
        (exchange (sessionPeer config env cut closed) frame.id expected frame.payload codec client
          loop).result = .ok message) ∧
      (¬ Returns config env client loop frame ∨ (∃ why, codec.decode payload = .error why) →
        ∃ failure, (exchange (sessionPeer config env cut closed) frame.id expected frame.payload codec client
            loop).result = .error failure ∧ failure.code = .protocolViolation) := by
  constructor
  · intro message returns decoded
    rw [exchange_returned linked returns, answered]
    exact (readAnswer_expected ordinary).mpr decoded
  · intro lost
    by_cases returns : Returns config env client loop frame
    · obtain ⟨why, malformed⟩ := lost.resolve_left (not_not.mpr returns)
      rw [exchange_returned linked returns, answered]
      exact ⟨_, readAnswer_malformed ordinary malformed, rfl⟩
    · exact ⟨_, exchange_oversized linked returns, rfl⟩

end Client

end RouteFabric
