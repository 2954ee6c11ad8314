import RobotBus.Proofs.Transport.Pipeline

/-!
# Delivery in order

What the reader of a pipeline hands to its node are the messages that found a place in the queue and
have a form on the wire: each once, in the order in which they were sent, with keepalives in between
and with nothing left out (`delivery_in_order`). The invariant `Flow` follows the messages on their
way: some were written, some are taken, some wait in the queue. The bytes in the receive buffer, on
the wire and in the outbox are together those of the written messages that are not yet dispatched,
wherever the stream was cut.
-/

namespace RobotBus.Transport

open Wire (Frame Bases Encoded Decoded)

/-! ## Messages with keepalives -/

/-- The second list has the messages of the first one in their order. There may be keepalives in
between, if the writer `beats`. -/
inductive Interspersed (beats : Bool) : List Frame → List Frame → Prop
  | nil : Interspersed beats [] []
  | message {frame : Frame} {messages stream : List Frame} :
    Interspersed beats messages stream → Interspersed beats (frame :: messages) (frame :: stream)
  | beat {messages stream : List Frame} : beats = true →
    Interspersed beats messages stream → Interspersed beats messages (Frame.keepalive :: stream)

namespace Interspersed

variable {beats : Bool} {messages stream : List Frame}

theorem refl (messages : List Frame) : Interspersed beats messages messages := by
  induction messages with
  | nil => exact .nil
  | cons frame messages ih => exact .message ih

theorem append {messages' stream' : List Frame} (h : Interspersed beats messages stream)
    (h' : Interspersed beats messages' stream') :
    Interspersed beats (messages ++ messages') (stream ++ stream') := by
  induction h with
  | nil => exact h'
  | message _ ih => exact .message ih
  | beat hBeats _ ih => exact .beat hBeats ih

theorem concat (h : Interspersed beats messages stream) (frame : Frame) :
    Interspersed beats (messages ++ [frame]) (stream ++ [frame]) :=
  h.append (.refl [frame])

theorem insert {front back : List Frame} (h : Interspersed beats messages (front ++ back))
    (hBeats : beats = true) : Interspersed beats messages (front ++ Frame.keepalive :: back) := by
  induction front generalizing messages with
  | nil => exact .beat hBeats h
  | cons frame front ih =>
    cases h with
    | message h => exact .message (ih h)
    | beat _ h => exact .beat hBeats (ih h)

theorem filter_isEncodable (h : Interspersed beats messages stream) :
    Interspersed beats (messages.filter Frame.isEncodable) (stream.filter Frame.isEncodable) := by
  induction h with
  | nil => exact .nil
  | @message frame _ _ _ ih =>
    rw [List.filter_cons, List.filter_cons]
    split
    · exact .message ih
    · exact ih
  | beat hBeats _ ih =>
    rw [List.filter_cons, if_pos Frame.isEncodable_keepalive]
    exact .beat hBeats ih

end Interspersed

/-! ## The writer -/

theorem SendQueue.toList_offer (queue : SendQueue) (frame : Frame) :
    (queue.offer frame).1.frames.toList =
      if queue.admits then queue.frames.toList ++ [frame] else queue.frames.toList := by
  rw [offer, admits]
  by_cases hClosed : queue.closed = true
  · rw [if_pos hClosed, hClosed]
    rfl
  · rw [if_neg hClosed, Bool.eq_false_iff.2 hClosed]
    by_cases hSpace : queue.frames.size < queue.capacity
    · simp only [if_pos hSpace, Fifo.toList_push, Bool.not_false, Bool.true_and, decide_eq_true_eq]
    · simp only [if_neg hSpace, Bool.not_false, Bool.true_and, decide_eq_true_eq]

/-- Taking a message changes nothing else. -/
theorem SendQueue.of_take? {queue rest : SendQueue} {frame : Frame}
    (h : queue.take? = some (frame, rest)) :
    ∃ frames, rest = { queue with frames } ∧ queue.frames.toList = frame :: frames.toList := by
  rw [take?, Option.map_eq_some_iff] at h
  obtain ⟨⟨taken, frames⟩, hPop, hRest⟩ := h
  cases hRest
  exact ⟨frames, rfl, Fifo.toList_of_pop? hPop⟩

theorem SendQueue.toList_of_take? {queue rest : SendQueue} {frame : Frame}
    (h : queue.take? = some (frame, rest)) :
    queue.frames.toList = frame :: rest.frames.toList := by
  obtain ⟨frames, rfl, hFrames⟩ := of_take? h
  exact hFrames

theorem Batch.bytes_append (batch : Batch) (frame : Frame) :
    (batch.append frame).bytes = match frame.encode batch.bases.next with
      | .ok bytes => batch.bytes ++ bytes
      | .error _ => batch.bytes := by
  simp only [append, Bases.take, Frame.append_eq]
  cases frame.encode batch.bases.next with
  | ok bytes => rfl
  | error cause => rfl

theorem Batch.encoded_append (batch : Batch) (frame : Frame) :
    ∃ bytes, (batch.append frame).bytes = batch.bytes ++ bytes ∧
      Encoded ([frame].filter Frame.isEncodable) bytes := by
  rw [bytes_append]
  by_cases hEncodable : frame.isEncodable = true
  · obtain ⟨bytes, hEncode⟩ : ∃ bytes, frame.encode batch.bases.next = .ok bytes :=
      Frame.encode_isOk_iff.2 hEncodable
    rw [hEncode, List.filter_cons, if_pos hEncodable, List.filter_nil]
    exact ⟨bytes, rfl, .singleton hEncode⟩
  · rw [List.filter_cons, if_neg hEncodable, List.filter_nil]
    refine ⟨[], ?_, .nil⟩
    cases hEncode : frame.encode batch.bases.next with
    | ok bytes => exact absurd (Frame.encode_isOk_iff.1 ⟨bytes, hEncode⟩) hEncodable
    | error cause => exact (List.append_nil _).symm

/-- A batch has the bytes of the frames that can be encoded. -/
theorem Batch.encoded_appendAll (batch : Batch) (frames : List Frame) :
    ∃ bytes, (batch.appendAll frames).bytes = batch.bytes ++ bytes ∧
      Encoded (frames.filter Frame.isEncodable) bytes := by
  induction frames generalizing batch with
  | nil => exact ⟨[], (List.append_nil _).symm, .nil⟩
  | cons frame frames ih =>
    obtain ⟨first, hFirst, hFrame⟩ := batch.encoded_append frame
    obtain ⟨more, hMore, hFrames⟩ := ih (batch.append frame)
    refine ⟨first ++ more, ?_, ?_⟩
    · rw [← List.append_assoc, ← hFirst]
      exact hMore
    · rw [← List.singleton_append, List.filter_append]
      exact hFrame.append hFrames

theorem Writer.encoded_load (writer : Writer) (frames : List Frame) :
    Encoded (frames.filter Frame.isEncodable) (writer.load frames).1.outbox := by
  obtain ⟨bytes, hBytes, hFrames⟩ := Batch.encoded_appendAll { bases := writer.bases } frames
  rw [List.nil_append] at hBytes
  rw [← hBytes] at hFrames
  exact hFrames

/-- A writer for which a keepalive is due sends keepalives. -/
theorem Writer.ticks_of_isDue {writer : Writer} {now : Moment} (h : writer.isDue now = true) :
    writer.ticker.isSome :=
  Option.isSome_of_any h

theorem Writer.isIdle_iff {writer : Writer} : writer.isIdle = true ↔ writer.outbox = [] :=
  List.isEmpty_iff

/-! ## The reader -/

theorem deliveries_append (effects effects' : List Effect) :
    deliveries (effects ++ effects') = deliveries effects ++ deliveries effects' :=
  List.filterMap_append

theorem deliveries_notes (notices : List Notice) : deliveries (notices.map .note) = [] := by
  rw [deliveries, List.filterMap_map, List.filterMap_eq_nil_iff]
  intro notice _
  rfl

/-- A connection of an endpoint that waits only for the end of a frame. -/
structure Endpoint.Serves (far : Endpoint) (reader : Connection) : Prop where
  node_eq : reader.node = far.node
  name_eq : reader.name = far.name
  ends_eq : reader.ends = far.ends
  config_eq : reader.config = far.config
  incomplete : reader.deadline?.isSome → ∃ missing,
    (Frame.decoder far.config.maxPayloadLength).decode reader.buffer = .incomplete missing

namespace Endpoint.Serves

variable {far : Endpoint} {reader : Connection}

theorem connect (far : Endpoint) (leftover : Bytes) (now : Moment) :
    far.Serves (far.connect leftover now) :=
  ⟨rfl, rfl, rfl, rfl, nofun⟩

/-- A reader that does not wait. -/
theorem of_running {next : Connection} (h : far.Serves reader)
    (hSame : next.node = reader.node ∧ next.name = reader.name ∧ next.ends = reader.ends ∧
      next.config = reader.config) (hRunning : next.deadline? = none) : far.Serves next where
  node_eq := hSame.1.trans h.node_eq
  name_eq := hSame.2.1.trans h.name_eq
  ends_eq := hSame.2.2.1.trans h.ends_eq
  config_eq := hSame.2.2.2.trans h.config_eq
  incomplete hWaits := by
    rw [hRunning] at hWaits
    cases hWaits

theorem deliveries_dispatch (h : far.Serves reader) (frame : Frame) (rest : Bytes)
    (now : Moment) : deliveries (reader.dispatch frame rest now).2 = [far.delivery frame] := by
  rw [Connection.dispatch, deliveries_append, deliveries_notes, List.nil_append, h.node_eq,
    h.ends_eq, Connection.inbound, h.name_eq]
  rfl

/-- A reader goes on by itself: it takes the frame at the front of its buffer and hands it on, or it
leaves the buffer as it is. -/
theorem proceed (h : far.Serves reader) (now : Moment) (stopped : Bool) :
    far.Serves (reader.proceed now stopped).1 ∧
      ((reader.proceed now stopped).1.buffer = reader.buffer ∧
          deliveries (reader.proceed now stopped).2 = [] ∨
        ∃ frame, (Frame.decoder far.config.maxPayloadLength).decode reader.buffer =
            .item frame (reader.proceed now stopped).1.buffer ∧
          deliveries (reader.proceed now stopped).2 = [far.delivery frame]) := by
  rw [Connection.proceed]
  cases hStage : reader.stage with
  | opening =>
    cases stopped with
    | true => exact ⟨h.of_running ⟨rfl, rfl, rfl, rfl⟩ rfl, .inl ⟨rfl, rfl⟩⟩
    | false =>
      simp only [Bool.false_eq_true, if_false, Connection.register]
      split
      · refine ⟨h.of_running ⟨rfl, rfl, rfl, rfl⟩ rfl, .inl ⟨rfl, ?_⟩⟩
        cases reader.announces with
        | true => rfl
        | false => rfl
      · exact ⟨h.of_running ⟨rfl, rfl, rfl, rfl⟩ rfl, .inl ⟨rfl, rfl⟩⟩
  | reading =>
    cases stopped with
    | true => exact ⟨h.of_running ⟨rfl, rfl, rfl, rfl⟩ rfl, .inl ⟨rfl, rfl⟩⟩
    | false =>
      simp only [Bool.false_eq_true, if_false, Connection.read, h.config_eq]
      split
      · rename_i frame rest hItem
        exact ⟨h.of_running ⟨rfl, rfl, rfl, rfl⟩ rfl,
          .inr ⟨frame, hItem, h.deliveries_dispatch frame rest now⟩⟩
      · exact ⟨h.of_running ⟨rfl, rfl, rfl, rfl⟩ rfl, .inl ⟨rfl, rfl⟩⟩
      · rename_i missing hIncomplete
        refine ⟨⟨h.node_eq, h.name_eq, h.ends_eq, rfl, fun _ => ⟨missing, hIncomplete⟩⟩, ?_⟩
        exact .inl ⟨rfl, rfl⟩
  | dispatched frame since =>
    refine ⟨h.of_running ⟨rfl, rfl, rfl, rfl⟩ rfl, .inl ⟨rfl, ?_⟩⟩
    simp only [Connection.slowness]
    split <;> rfl
  | waiting pollEnd => exact ⟨h, .inl ⟨rfl, rfl⟩⟩
  | ended state => exact ⟨h, .inl ⟨rfl, rfl⟩⟩

/-- A waiting reader adds what it receives to its buffer. -/
theorem receive_bytes (h : far.Serves reader) (hWaits : reader.deadline?.isSome) (now : Moment)
    (bytes : Bytes) :
    far.Serves (reader.receive now (.received bytes)).1 ∧
      (reader.receive now (.received bytes)).1.buffer = reader.buffer ++ bytes ∧
      deliveries (reader.receive now (.received bytes)).2 = [] := by
  rw [Connection.receive]
  rw [Connection.deadline?] at hWaits
  split at hWaits
  · exact ⟨h.of_running ⟨rfl, rfl, rfl, rfl⟩ rfl, rfl, rfl⟩
  · cases hWaits

/-- No other input leads to a message or changes the buffer. -/
theorem receive (h : far.Serves reader) (now : Moment) {input : Input}
    (hInput : ∀ bytes, input ≠ .received bytes) :
    far.Serves (reader.receive now input).1 ∧
      (reader.receive now input).1.buffer = reader.buffer ∧
      deliveries (reader.receive now input).2 = [] := by
  rw [Connection.receive]
  cases hStage : reader.stage with
  | opening | reading | dispatched frame since | ended state => exact ⟨h, rfl, rfl⟩
  | waiting pollEnd =>
    have hEnds : ∀ state notice, far.Serves (reader.finish state notice).1 ∧
        (reader.finish state notice).1.buffer = reader.buffer ∧
        deliveries (reader.finish state notice).2 = [] :=
      fun state notice => ⟨h.of_running ⟨rfl, rfl, rfl, rfl⟩ rfl, rfl, rfl⟩
    cases input with
    | stop => exact hEnds _ _
    | connected => exact ⟨h, rfl, rfl⟩
    | refused cause => exact ⟨h, rfl, rfl⟩
    | received bytes => exact absurd rfl (hInput bytes)
    | endOfStream => exact hEnds _ _
    | broken cause regular =>
      cases regular with
      | true => exact hEnds _ _
      | false => exact hEnds _ _
    | time =>
      simp only
      split
      · split
        · exact hEnds _ _
        · exact ⟨h.of_running ⟨rfl, rfl, rfl, rfl⟩ rfl, rfl, rfl⟩
      · exact ⟨h, rfl, rfl⟩

end Endpoint.Serves

/-! ## The invariant -/

/-- A stream of messages with keepalives in between, all of which the reader takes. -/
structure Ordered (limit : Nat) (beats : Bool) (messages stream : List Frame) : Prop where
  interspersed : Interspersed beats messages stream
  fits : ∀ frame ∈ stream, frame.payload.length ≤ limit
  room : beats = true → 2 ≤ limit

namespace Ordered

variable {limit : Nat} {beats : Bool} {messages : List Frame}

theorem concat {stream : List Frame} (h : Ordered limit beats messages stream) {frame : Frame}
    (hPayload : frame.payload.length ≤ limit) :
    Ordered limit beats (messages ++ [frame]) (stream ++ [frame]) where
  interspersed := h.interspersed.concat frame
  fits := by
    intro other hOther
    rcases List.mem_append.1 hOther with hOld | hNew
    · exact h.fits other hOld
    · rw [List.mem_singleton.1 hNew]
      exact hPayload
  room := h.room

theorem insert {front back : List Frame} (h : Ordered limit beats messages (front ++ back))
    (hBeats : beats = true) : Ordered limit beats messages (front ++ Frame.keepalive :: back) where
  interspersed := h.interspersed.insert hBeats
  fits := by
    intro frame hFrame
    rw [List.mem_append, List.mem_cons] at hFrame
    rcases hFrame with hFront | rfl | hBack
    · exact h.fits frame (List.mem_append_left _ hFront)
    · exact h.room hBeats
    · exact h.fits frame (List.mem_append_right _ hBack)
  room := h.room

end Ordered

namespace Pipeline

/-- All frames in the order in which the writer gets at them: `written` ones, taken ones, and those
in the queue. -/
def stream (p : Pipeline) (written : List Frame) : List Frame :=
  written ++ p.taken ++ p.queue.frames.toList

/-- The receive buffer. -/
def received (p : Pipeline) : Bytes :=
  p.reader.elim [] (·.buffer)

theorem received_of_reader {p : Pipeline} {reader : Connection} (h : p.reader = some reader) :
    p.received = reader.buffer := by
  rw [received, h]
  rfl

/-- A pipeline whose writer has written some frames. Those of them that have a form on the wire are
`dispatched` or `pending`, and the bytes on their way are those of the pending ones. -/
structure Flow (far : Endpoint) (beats : Bool) (p : Pipeline)
    (written dispatched pending : List Frame) : Prop where
  ordered : Ordered far.config.maxPayloadLength beats p.accepted (p.stream written)
  ticks : p.writer.ticker.isSome → beats = true
  split : dispatched ++ pending = written.filter Frame.isEncodable
  encoded : Encoded pending (p.received ++ p.wire ++ p.writer.outbox)
  delivered : deliveries p.effects = dispatched.map far.delivery
  serves : ∀ reader, p.reader = some reader → far.Serves reader

namespace Flow

variable {far : Endpoint} {beats : Bool} {p : Pipeline} {written dispatched pending : List Frame}

theorem pending_fits (h : Flow far beats p written dispatched pending) :
    ∀ frame ∈ pending, frame.payload.length ≤ far.config.maxPayloadLength := by
  intro frame hPending
  have hWritten : frame ∈ written.filter Frame.isEncodable := by
    rw [← h.split]
    exact List.mem_append_right _ hPending
  refine h.ordered.fits frame ?_
  rw [stream, List.append_assoc]
  exact List.mem_append_left _ (List.mem_filter.1 hWritten).1

/-! ### The moves of the writer -/

theorem send (h : Flow far beats p written dispatched pending) {message : Frame}
    (hPayload : message.payload.length ≤ far.config.maxPayloadLength) :
    Flow far beats (p.step far (.send message)) written dispatched pending := by
  refine { ordered := ?_, ticks := h.ticks, split := h.split, encoded := h.encoded,
           delivered := h.delivered, serves := h.serves }
  simp only [stream, step, SendQueue.toList_offer]
  split
  · rw [← List.append_assoc]
    exact h.ordered.concat hPayload
  · exact h.ordered

theorem take (h : Flow far beats p written dispatched pending) :
    Flow far beats (p.step far .take) written dispatched pending := by
  rw [step]
  split
  · rename_i frame queue _ hTake
    have hStream : { p with queue, taken := p.taken ++ [frame] }.stream written =
        p.stream written := by
      simp only [stream, SendQueue.toList_of_take? hTake, List.append_assoc, List.singleton_append]
    exact { ordered := hStream ▸ h.ordered, ticks := h.ticks, split := h.split,
            encoded := h.encoded, delivered := h.delivered, serves := h.serves }
  · exact h

theorem beat (h : Flow far beats p written dispatched pending) (now : Moment) :
    Flow far beats (p.step far (.beat now)) written dispatched pending := by
  rw [step]
  split
  · rename_i hBegins
    obtain ⟨_, hTaken, hDue⟩ := hBegins
    have hBeats := h.ticks (Writer.ticks_of_isDue hDue)
    have hOrdered := h.ordered
    rw [stream, hTaken, List.append_nil] at hOrdered
    refine { ordered := ?_, ticks := fun _ => hBeats, split := h.split, encoded := h.encoded,
             delivered := h.delivered, serves := h.serves }
    rw [stream, List.append_assoc]
    exact hOrdered.insert hBeats
  · exact h

theorem load (h : Flow far beats p written dispatched pending) :
    ∃ written pending, Flow far beats (p.step far .load) written dispatched pending := by
  rw [step]
  split
  · rename_i hReady
    have hIdle : p.writer.outbox = [] := Writer.isIdle_iff.1 hReady.1
    have hStream : { p with writer := (p.writer.load p.taken).1, taken := [] }.stream
        (written ++ p.taken) = p.stream written := by
      simp only [stream, List.append_nil]
    have hEncoded := h.encoded
    rw [hIdle, List.append_nil] at hEncoded
    refine ⟨written ++ p.taken, pending ++ p.taken.filter Frame.isEncodable,
      { ordered := hStream ▸ h.ordered, ticks := h.ticks, split := ?_,
        encoded := hEncoded.append (p.writer.encoded_load p.taken),
        delivered := h.delivered, serves := h.serves }⟩
    rw [← List.append_assoc, h.split, List.filter_append]
  · exact ⟨written, pending, h⟩

theorem flush (h : Flow far beats p written dispatched pending) (count : Nat) :
    Flow far beats (p.step far (.flush count)) written dispatched pending where
  ordered := h.ordered
  ticks := h.ticks
  split := h.split
  encoded := by
    have hBytes : p.received ++ (p.wire ++ p.writer.outbox.take count) ++
        p.writer.outbox.drop count = p.received ++ p.wire ++ p.writer.outbox := by
      simp only [List.append_assoc, List.take_append_drop]
    exact hBytes ▸ h.encoded
  delivered := h.delivered
  serves := h.serves

/-! ### The moves of the reader -/

theorem attach (h : Flow far beats p written dispatched pending) (count : Nat) (now : Moment) :
    Flow far beats (p.step far (.attach count now)) written dispatched pending := by
  rw [step]
  split
  · rename_i hNobody
    refine { ordered := h.ordered, ticks := h.ticks, split := h.split,
             encoded := ?_, delivered := h.delivered, serves := ?_ }
    · have hBytes : p.wire.take count ++ p.wire.drop count ++ p.writer.outbox =
          p.received ++ p.wire ++ p.writer.outbox := by
        rw [List.take_append_drop, received, hNobody]
        rfl
      exact hBytes ▸ h.encoded
    · rintro reader hReader
      cases hReader
      exact .connect far (p.wire.take count) now
  · exact h

/-- The reader does something that leads to no message. Together with what is left on the wire, its
buffer is the same as before. -/
theorem act (h : Flow far beats p written dispatched pending) {reader : Connection}
    (hReader : p.reader = some reader) {wire : Bytes} {done : Connection × List Effect}
    (hServes : far.Serves done.1) (hBytes : done.1.buffer ++ wire = reader.buffer ++ p.wire)
    (hDeliveries : deliveries done.2 = []) :
    Flow far beats ({ p with wire }.act done) written dispatched pending where
  ordered := h.ordered
  ticks := h.ticks
  split := h.split
  encoded := by
    have hEncoded := h.encoded
    rw [received_of_reader hReader, ← hBytes] at hEncoded
    exact hEncoded
  delivered := by
    rw [Pipeline.act, deliveries_append, hDeliveries, List.append_nil]
    exact h.delivered
  serves := by
    rintro next hNext
    cases hNext
    exact hServes

theorem arrive (h : Flow far beats p written dispatched pending) (count : Nat) (now : Moment) :
    Flow far beats (p.step far (.arrive count now)) written dispatched pending := by
  rw [step]
  split
  · rename_i reader hReader
    split
    · rename_i hWaits
      obtain ⟨hServes, hBuffer, hDeliveries⟩ :=
        (h.serves reader hReader).receive_bytes hWaits now (p.wire.take count)
      refine h.act hReader hServes ?_ hDeliveries
      rw [hBuffer, List.append_assoc, List.take_append_drop]
    · exact h
  · exact h

theorem input (h : Flow far beats p written dispatched pending) (now : Moment) (input : Input) :
    Flow far beats (p.step far (.input now input)) written dispatched pending := by
  rw [step.eq_def]
  simp only
  split
  · exact h
  · rename_i reader hReader hOther
    obtain ⟨hServes, hBuffer, hDeliveries⟩ := (h.serves reader hReader).receive now hOther
    exact h.act hReader hServes (by rw [hBuffer]) hDeliveries
  · exact h

theorem proceed (h : Flow far beats p written dispatched pending) (now : Moment) (stopped : Bool) :
    ∃ dispatched pending,
      Flow far beats (p.step far (.proceed now stopped)) written dispatched pending := by
  rw [step]
  split
  · rename_i reader hReader
    obtain ⟨hServes, hReads⟩ := (h.serves reader hReader).proceed now stopped
    rcases hReads with ⟨hBuffer, hDeliveries⟩ | ⟨frame, hItem, hDeliveries⟩
    · exact ⟨dispatched, pending, h.act hReader hServes (by rw [hBuffer]) hDeliveries⟩
    · -- the frame at the front of the buffer is the first one that is pending
      have hEncoded := h.encoded
      rw [received_of_reader hReader, List.append_assoc] at hEncoded
      have hFront := hEncoded.decode_front h.pending_fits
      rw [hItem] at hFront
      obtain ⟨rest, rfl, hRest⟩ := hFront
      refine ⟨dispatched ++ [frame], rest,
        { ordered := h.ordered, ticks := h.ticks, split := ?_,
          encoded := ?_, delivered := ?_, serves := ?_ }⟩
      · rw [← h.split, List.append_assoc, List.singleton_append]
      · rw [List.append_assoc]
        exact hRest
      · rw [Pipeline.act, deliveries_append, hDeliveries, h.delivered, List.map_append]
        rfl
      · rintro next hNext
        cases hNext
        exact hServes
  · exact ⟨dispatched, pending, h⟩

theorem step (h : Flow far beats p written dispatched pending) {event : Event}
    (hPayload : ∀ message, event = .send message →
      message.payload.length ≤ far.config.maxPayloadLength) :
    ∃ written dispatched pending, Flow far beats (p.step far event) written dispatched pending := by
  cases event with
  | send message => exact ⟨_, _, _, h.send (hPayload message rfl)⟩
  | take => exact ⟨_, _, _, h.take⟩
  | beat now => exact ⟨_, _, _, h.beat now⟩
  | load =>
    obtain ⟨written, pending, hLoaded⟩ := h.load
    exact ⟨written, dispatched, pending, hLoaded⟩
  | flush count => exact ⟨_, _, _, h.flush count⟩
  | attach count now => exact ⟨_, _, _, h.attach count now⟩
  | arrive count now => exact ⟨_, _, _, h.arrive count now⟩
  | proceed now stopped => exact ⟨written, h.proceed now stopped⟩
  | input now input => exact ⟨_, _, _, h.input now input⟩

theorem run (h : Flow far beats p written dispatched pending) {events : List Event}
    (hPayloads : ∀ message, .send message ∈ events →
      message.payload.length ≤ far.config.maxPayloadLength) :
    ∃ written dispatched pending, Flow far beats (p.run far events) written dispatched pending := by
  induction events generalizing p written dispatched pending with
  | nil => exact ⟨written, dispatched, pending, h⟩
  | cons event events ih =>
    have hPayload : ∀ message, event = .send message →
        message.payload.length ≤ far.config.maxPayloadLength :=
      fun message hSend => hPayloads message (hSend ▸ List.mem_cons_self)
    obtain ⟨_, _, _, hStep⟩ := h.step hPayload
    exact ih hStep fun message hSend => hPayloads message (List.mem_cons_of_mem event hSend)

theorem start {near : Config} {link : String} {bases : Bases} {now : Moment}
    (hBeats : near.keepaliveInterval.isSome → 2 ≤ far.config.maxPayloadLength) :
    Flow far near.keepaliveInterval.isSome (.start near link bases now) [] [] [] where
  ordered := ⟨.nil, nofun, hBeats⟩
  ticks hTicks := by simpa [Pipeline.start, Writer.start] using hTicks
  split := rfl
  encoded := .nil
  delivered := rfl
  serves := nofun

/-- A reader never finds a fault. -/
theorem ne_malformed (h : Flow far beats p written dispatched pending) (cause : Wire.Malformed) :
    (Frame.decoder far.config.maxPayloadLength).decode p.received ≠ .malformed cause := by
  intro hFault
  have hEncoded := h.encoded
  rw [List.append_assoc] at hEncoded
  have hFront := hEncoded.decode_front h.pending_fits
  rw [hFault] at hFront
  exact hFront

/-- When nothing is on its way, nothing is pending. -/
theorem pending_eq_nil (h : Flow far beats p written dispatched pending)
    (hQuiet : p.isQuiet = true) : pending = [] ∧ p.stream written = written := by
  simp only [isQuiet, Bool.and_eq_true, List.isEmpty_iff, Option.any_eq_true] at hQuiet
  obtain ⟨⟨⟨⟨hQueue, hTaken⟩, hOutbox⟩, hWire⟩, reader, hReader, hWaits⟩ := hQuiet
  obtain ⟨missing, hIncomplete⟩ := (h.serves reader hReader).incomplete hWaits
  have hEncoded := h.encoded
  rw [hWire, hOutbox, List.append_nil, received_of_reader hReader] at hEncoded
  have hFront := hEncoded.decode_front h.pending_fits
  rw [hIncomplete] at hFront
  refine ⟨hFront rfl, ?_⟩
  have hEmpty : p.queue.frames.toList = [] := by
    apply List.eq_nil_of_length_eq_zero
    rw [Fifo.length_toList]
    exact eq_of_beq hQueue
  rw [stream, hTaken, hEmpty, List.append_nil, List.append_nil]

end Flow

/-- **Messages are delivered in order, each once, and none that was sent before is left out.**
However the moves of a pipeline follow each other, and if no message is too long for the reader, the
reader has handed to its node the front of a stream: of the messages that found a place in the queue
and have a form on the wire, with keepalives in between. It never finds a fault in what it receives,
and when nothing is on its way it has handed over the whole stream. -/
theorem delivery_in_order (near : Config) (link : String) (bases : Bases) (began : Moment)
    (far : Endpoint) (events : List Event)
    (hPayloads : ∀ message, .send message ∈ events →
      message.payload.length ≤ far.config.maxPayloadLength)
    (hBeats : near.keepaliveInterval.isSome → 2 ≤ far.config.maxPayloadLength) :
    let p := (start near link bases began).run far events
    ∃ stream, Interspersed near.keepaliveInterval.isSome
        (p.accepted.filter Frame.isEncodable) stream ∧
      (∃ front, front <+: stream ∧ deliveries p.effects = front.map far.delivery) ∧
      (∀ reader cause, p.reader = some reader →
        (Frame.decoder reader.config.maxPayloadLength).decode reader.buffer ≠ .malformed cause) ∧
      (p.isQuiet → deliveries p.effects = stream.map far.delivery) := by
  intro p
  obtain ⟨written, dispatched, pending, hFlow⟩ : ∃ written dispatched pending,
      Flow far near.keepaliveInterval.isSome p written dispatched pending :=
    (Flow.start hBeats).run hPayloads
  refine ⟨(p.stream written).filter Frame.isEncodable,
    hFlow.ordered.interspersed.filter_isEncodable, ⟨dispatched, ?_, hFlow.delivered⟩, ?_, ?_⟩
  · rw [stream, List.append_assoc, List.filter_append, ← hFlow.split, List.append_assoc]
    exact List.prefix_append _ _
  · intro reader cause hReader
    have hFault := hFlow.ne_malformed cause
    rw [received_of_reader hReader] at hFault
    rw [(hFlow.serves reader hReader).config_eq]
    exact hFault
  · intro hQuiet
    obtain ⟨rfl, hStream⟩ := hFlow.pending_eq_nil hQuiet
    rw [hStream, ← hFlow.split, List.append_nil]
    exact hFlow.delivered

theorem delivery_of_one_message :
    let message : Frame := ⟨some "lamp", none, [1, 2, 3]⟩
    let far : Endpoint := ⟨0, "desk", 0, {}, true⟩
    let events : List Event :=
      [.send message, .take, .load, .flush 5, .attach 3 0, .proceed 0 false, .proceed 0 false,
        .flush 100, .arrive 100 0, .proceed 0 false, .proceed 0 false, .proceed 0 false]
    ∃ stream, Interspersed true [message] stream ∧
      deliveries ((start {} "hub" ⟨0⟩ 0).run far events).effects = stream.map far.delivery := by
  intro message far events
  have hPayloads : ∀ sent, .send sent ∈ events →
      sent.payload.length ≤ far.config.maxPayloadLength := by
    intro sent hSent
    have hOnly : sent = message := by
      simpa [events] using hSent
    rw [hOnly]
    decide
  have hAccepted : ((start {} "hub" ⟨0⟩ 0).run far events).accepted.filter Frame.isEncodable =
      [message] := by
    decide +kernel
  obtain ⟨stream, hStream, _, _, hAll⟩ :=
    delivery_in_order {} "hub" ⟨0⟩ 0 far events hPayloads (fun _ => by decide)
  exact ⟨stream, hAccepted ▸ hStream, hAll (by decide +kernel)⟩

end Pipeline

end RobotBus.Transport
