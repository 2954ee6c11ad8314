import RobotBus.Proofs.Transport.Delivery
import RobotBus.Proofs.Wire.Limit

/-!
# Messages that are too long for the peer

A writer leaves out what has no form on the wire, but does not know how long a payload may be for
the peer. So a message that is too long for the peer travels like any other, and ends the connection
when the reader comes to it: `refused_only_if_too_long` says that this is the only fault that a
reader can find in what a writer has written, and that all frames in front of it are handed over.

The invariant `Course` knows nothing about the payloads: it keeps all bytes that the reader was ever
given, and the reader has drained them as far as it got.
-/

namespace RobotBus.Transport

open Wire (Frame Bases Encoded)

namespace Pipeline

/-- A pipeline whose writer has written some frames, and whose reader was given the bytes `heard`
and has dispatched some frames of them. -/
structure Course (far : Endpoint) (beats : Bool) (p : Pipeline) (written : List Frame)
    (heard : Bytes) (dispatched : List Frame) : Prop where
  interspersed : Interspersed beats p.accepted (p.stream written)
  ticks : p.writer.ticker.isSome → beats = true
  encoded : Encoded (written.filter Frame.isEncodable) (heard ++ p.wire ++ p.writer.outbox)
  drained : (Frame.decoder far.config.maxPayloadLength).drain heard =
    { (Frame.decoder far.config.maxPayloadLength).drain p.received with
      items := dispatched ++ ((Frame.decoder far.config.maxPayloadLength).drain p.received).items }
  delivered : deliveries p.effects = dispatched.map far.delivery
  serves : ∀ reader, p.reader = some reader → far.Serves reader

namespace Course

variable {far : Endpoint} {beats : Bool} {p : Pipeline} {written : List Frame} {heard : Bytes}
  {dispatched : List Frame}

/-! ### The moves of the writer -/

theorem send (h : Course far beats p written heard dispatched) (message : Frame) :
    Course far beats (p.step far (.send message)) written heard dispatched := by
  refine { interspersed := ?_, ticks := h.ticks, encoded := h.encoded, drained := h.drained,
           delivered := h.delivered, serves := h.serves }
  simp only [stream, step, SendQueue.toList_offer]
  split
  · rw [← List.append_assoc]
    exact h.interspersed.concat message
  · exact h.interspersed

theorem take (h : Course far beats p written heard dispatched) :
    Course far beats (p.step far .take) written heard dispatched := by
  rw [step]
  split
  · rename_i frame queue _ hTake
    have hStream : { p with queue, taken := p.taken ++ [frame] }.stream written =
        p.stream written := by
      simp only [stream, SendQueue.toList_of_take? hTake, List.append_assoc, List.singleton_append]
    exact { interspersed := hStream ▸ h.interspersed, ticks := h.ticks, encoded := h.encoded,
            drained := h.drained, delivered := h.delivered, serves := h.serves }
  · exact h

theorem beat (h : Course far beats p written heard dispatched) (now : Moment) :
    Course far beats (p.step far (.beat now)) written heard dispatched := by
  rw [step]
  split
  · rename_i hBegins
    obtain ⟨_, hTaken, hDue⟩ := hBegins
    have hBeats := h.ticks (Writer.ticks_of_isDue hDue)
    have hStream := h.interspersed
    rw [stream, hTaken, List.append_nil] at hStream
    refine { interspersed := ?_, ticks := fun _ => hBeats, encoded := h.encoded,
             drained := h.drained, delivered := h.delivered, serves := h.serves }
    rw [stream, List.append_assoc]
    exact hStream.insert hBeats
  · exact h

theorem load (h : Course far beats p written heard dispatched) :
    ∃ written, Course far beats (p.step far .load) written heard dispatched := by
  rw [step]
  split
  · rename_i hReady
    have hIdle : p.writer.outbox = [] := Writer.isIdle_iff.1 hReady.1
    have hStream : { p with writer := (p.writer.load p.taken).1, taken := [] }.stream
        (written ++ p.taken) = p.stream written := by
      simp only [stream, List.append_nil]
    have hEncoded := h.encoded
    rw [hIdle, List.append_nil] at hEncoded
    refine ⟨written ++ p.taken,
      { interspersed := hStream ▸ h.interspersed, ticks := h.ticks, encoded := ?_,
        drained := h.drained, delivered := h.delivered, serves := h.serves }⟩
    rw [List.filter_append]
    exact hEncoded.append (p.writer.encoded_load p.taken)
  · exact ⟨written, h⟩

theorem flush (h : Course far beats p written heard dispatched) (count : Nat) :
    Course far beats (p.step far (.flush count)) written heard dispatched where
  interspersed := h.interspersed
  ticks := h.ticks
  encoded := by
    have hBytes : heard ++ (p.wire ++ p.writer.outbox.take count) ++ p.writer.outbox.drop count =
        heard ++ p.wire ++ p.writer.outbox := by
      simp only [List.append_assoc, List.take_append_drop]
    exact hBytes ▸ h.encoded
  drained := h.drained
  delivered := h.delivered
  serves := h.serves

/-! ### The moves of the reader -/

/-- Bytes behind those that were heard are drained as if they came behind the receive buffer. -/
theorem drained_append (h : Course far beats p written heard dispatched) (bytes : Bytes) :
    (Frame.decoder far.config.maxPayloadLength).drain (heard ++ bytes) =
      { (Frame.decoder far.config.maxPayloadLength).drain (p.received ++ bytes) with
        items := dispatched ++ ((Frame.decoder far.config.maxPayloadLength).drain
          (p.received ++ bytes)).items } := by
  rw [Wire.Decoder.drain_append, h.drained, Wire.Decoder.drain_append _ p.received,
    List.append_assoc]

/-- The reader takes the next bytes off the wire. -/
theorem hear (h : Course far beats p written heard dispatched) {reader : Connection}
    (effects : List Effect) (count : Nat) (hServes : far.Serves reader)
    (hBuffer : reader.buffer = p.received ++ p.wire.take count)
    (hDeliveries : deliveries effects = []) :
    Course far beats
      { p with wire := p.wire.drop count, reader := some reader, effects := p.effects ++ effects }
      written (heard ++ p.wire.take count) dispatched where
  interspersed := h.interspersed
  ticks := h.ticks
  encoded := by
    have hBytes : heard ++ p.wire.take count ++ p.wire.drop count ++ p.writer.outbox =
        heard ++ p.wire ++ p.writer.outbox := by
      rw [List.append_assoc heard, List.take_append_drop]
    exact hBytes ▸ h.encoded
  drained := by
    rw [received_of_reader rfl, hBuffer]
    exact h.drained_append _
  delivered := by
    rw [deliveries_append, hDeliveries, List.append_nil]
    exact h.delivered
  serves := by
    rintro next hNext
    cases hNext
    exact hServes

/-- The reader does something that leads to no message and leaves its buffer as it is. -/
theorem act (h : Course far beats p written heard dispatched) {reader : Connection}
    (hReader : p.reader = some reader) {done : Connection × List Effect}
    (hServes : far.Serves done.1) (hBuffer : done.1.buffer = reader.buffer)
    (hDeliveries : deliveries done.2 = []) :
    Course far beats (p.act done) written heard dispatched where
  interspersed := h.interspersed
  ticks := h.ticks
  encoded := h.encoded
  drained := by
    have hDrained := h.drained
    rw [received_of_reader hReader, ← hBuffer] at hDrained
    exact hDrained
  delivered := by
    rw [Pipeline.act, deliveries_append, hDeliveries, List.append_nil]
    exact h.delivered
  serves := by
    rintro next hNext
    cases hNext
    exact hServes

theorem attach (h : Course far beats p written heard dispatched) (count : Nat) (now : Moment) :
    ∃ heard, Course far beats (p.step far (.attach count now)) written heard dispatched := by
  rw [step]
  split
  · rename_i hNobody
    have hBuffer : (far.connect (p.wire.take count) now).buffer =
        p.received ++ p.wire.take count := by
      rw [received, hNobody]
      rfl
    have hHeard := h.hear [] count (.connect far _ now) hBuffer rfl
    rw [List.append_nil] at hHeard
    exact ⟨_, hHeard⟩
  · exact ⟨heard, h⟩

theorem arrive (h : Course far beats p written heard dispatched) (count : Nat) (now : Moment) :
    ∃ heard, Course far beats (p.step far (.arrive count now)) written heard dispatched := by
  rw [step]
  split
  · rename_i reader hReader
    split
    · rename_i hWaits
      obtain ⟨hServes, hBuffer, hDeliveries⟩ :=
        (h.serves reader hReader).receive_bytes hWaits now (p.wire.take count)
      rw [← received_of_reader hReader] at hBuffer
      exact ⟨_, h.hear _ count hServes hBuffer hDeliveries⟩
    · exact ⟨heard, h⟩
  · exact ⟨heard, h⟩

theorem input (h : Course far beats p written heard dispatched) (now : Moment) (input : Input) :
    Course far beats (p.step far (.input now input)) written heard dispatched := by
  rw [step.eq_def]
  simp only
  split
  · exact h
  · rename_i reader hReader hOther
    obtain ⟨hServes, hBuffer, hDeliveries⟩ := (h.serves reader hReader).receive now hOther
    exact h.act hReader hServes hBuffer hDeliveries
  · exact h

/-- A frame that is dispatched was the first one that draining the buffer leads to. -/
theorem proceed (h : Course far beats p written heard dispatched) (now : Moment)
    (stopped : Bool) :
    ∃ dispatched, Course far beats (p.step far (.proceed now stopped)) written heard
      dispatched := by
  rw [step]
  split
  · rename_i reader hReader
    obtain ⟨hServes, hReads⟩ := (h.serves reader hReader).proceed now stopped
    rcases hReads with ⟨hBuffer, hDeliveries⟩ | ⟨frame, hItem, hDeliveries⟩
    · exact ⟨dispatched, h.act hReader hServes hBuffer hDeliveries⟩
    · have hDrained := h.drained
      rw [received_of_reader hReader, Wire.Decoder.drain_of_item hItem] at hDrained
      refine ⟨dispatched ++ [frame],
        { interspersed := h.interspersed, ticks := h.ticks, encoded := h.encoded,
          drained := ?_, delivered := ?_, serves := ?_ }⟩
      · rw [hDrained, List.append_assoc]
        rfl
      · rw [Pipeline.act, deliveries_append, hDeliveries, h.delivered, List.map_append]
        rfl
      · rintro next hNext
        cases hNext
        exact hServes
  · exact ⟨dispatched, h⟩

theorem step (h : Course far beats p written heard dispatched) (event : Event) :
    ∃ written heard dispatched,
      Course far beats (p.step far event) written heard dispatched := by
  cases event with
  | send message => exact ⟨_, _, _, h.send message⟩
  | take => exact ⟨_, _, _, h.take⟩
  | beat now => exact ⟨_, _, _, h.beat now⟩
  | load =>
    obtain ⟨written, hLoaded⟩ := h.load
    exact ⟨written, heard, dispatched, hLoaded⟩
  | flush count => exact ⟨_, _, _, h.flush count⟩
  | attach count now =>
    obtain ⟨heard, hAttached⟩ := h.attach count now
    exact ⟨written, heard, dispatched, hAttached⟩
  | arrive count now =>
    obtain ⟨heard, hArrived⟩ := h.arrive count now
    exact ⟨written, heard, dispatched, hArrived⟩
  | proceed now stopped =>
    obtain ⟨dispatched, hProceeded⟩ := h.proceed now stopped
    exact ⟨written, heard, dispatched, hProceeded⟩
  | input now input => exact ⟨_, _, _, h.input now input⟩

theorem run (h : Course far beats p written heard dispatched) (events : List Event) :
    ∃ written heard dispatched,
      Course far beats (p.run far events) written heard dispatched := by
  induction events generalizing p written heard dispatched with
  | nil => exact ⟨written, heard, dispatched, h⟩
  | cons event events ih =>
    obtain ⟨_, _, _, hStep⟩ := h.step event
    exact ih hStep

theorem start (near : Config) (link : String) (bases : Bases) (now : Moment) (far : Endpoint) :
    Course far near.keepaliveInterval.isSome (.start near link bases now) [] [] [] where
  interspersed := .nil
  ticks hTicks := by simpa [Pipeline.start, Writer.start] using hTicks
  encoded := .nil
  drained := rfl
  delivered := rfl
  serves := nofun

/-- What a reader has dispatched, and what it can still find, of the frames that were written. -/
theorem dispatched_cases (h : Course far beats p written heard dispatched) :
    ∃ left, written.filter Frame.isEncodable = dispatched ++ left ∧
      (∀ frame ∈ dispatched, frame.payload.length ≤ far.config.maxPayloadLength) ∧
      (∀ cause, (Frame.decoder far.config.maxPayloadLength).decode p.received =
          .malformed cause → ∃ frame rest, left = frame :: rest ∧
        far.config.maxPayloadLength < frame.payload.length ∧
        cause = .badPayloadLength frame.payload.length) ∧
      (p.isQuiet = true → left = [] ∧ p.stream written = written) := by
  have hEncoded := h.encoded
  rw [List.append_assoc] at hEncoded
  obtain ⟨left, hSplit, hFits, hStops⟩ :=
    hEncoded.drain_cases far.config.maxPayloadLength
  rw [h.drained] at hSplit hFits hStops
  simp only [List.append_assoc] at hSplit
  refine ⟨_, hSplit, fun frame hFrame => hFits frame (List.mem_append_left _ hFrame), ?_, ?_⟩
  · intro cause hFault
    rw [Wire.Decoder.drain_of_malformed hFault] at hStops ⊢
    exact hStops
  · intro hQuiet
    simp only [isQuiet, Bool.and_eq_true, List.isEmpty_iff, Option.any_eq_true] at hQuiet
    obtain ⟨⟨⟨⟨hQueue, hTaken⟩, hOutbox⟩, hWire⟩, reader, hReader, hWaits⟩ := hQuiet
    obtain ⟨missing, hIncomplete⟩ := (h.serves reader hReader).incomplete hWaits
    rw [hWire, hOutbox] at hStops
    rw [received_of_reader hReader, Wire.Decoder.drain_of_incomplete hIncomplete] at hStops ⊢
    refine ⟨hStops rfl, ?_⟩
    have hEmpty : p.queue.frames.toList = [] := by
      apply List.eq_nil_of_length_eq_zero
      rw [Fifo.length_toList]
      exact eq_of_beq hQueue
    rw [stream, hTaken, hEmpty, List.append_nil, List.append_nil]

end Course

/-- **A reader refuses what is too long for it, and nothing else.** A frame on the wire is taken by
the far end exactly if its payload is within the limit there. The writer puts all frames on the wire
that have a form on it, in order, also those that are too long; the reader hands over the ones in
front of the first that is too long, and finds no fault but that one. If it has found none when
nothing is on its way, then it has handed over all of them. -/
theorem refused_only_if_too_long (near : Config) (link : String) (bases : Bases) (began : Moment)
    (far : Endpoint) (events : List Event) :
    let p := (start near link bases began).run far events
    let limit := far.config.maxPayloadLength
    (∀ (frame : Frame) base bytes rest, frame.encode base = .ok bytes →
      (Frame.decoder limit).decode (bytes ++ rest) =
        if frame.payload.length ≤ limit then .item frame rest
        else .malformed (.badPayloadLength frame.payload.length)) ∧
    ∃ written heard dispatched left,
      Interspersed near.keepaliveInterval.isSome p.accepted (p.stream written) ∧
      Encoded (written.filter Frame.isEncodable) (heard ++ p.wire ++ p.writer.outbox) ∧
      written.filter Frame.isEncodable = dispatched ++ left ∧
      deliveries p.effects = dispatched.map far.delivery ∧
      (∀ frame ∈ dispatched, frame.payload.length ≤ limit) ∧
      (∀ reader cause, p.reader = some reader →
        (Frame.decoder reader.config.maxPayloadLength).decode reader.buffer = .malformed cause →
        ∃ frame rest, left = frame :: rest ∧ limit < frame.payload.length ∧
          cause = .badPayloadLength frame.payload.length) ∧
      (p.isQuiet = true → left = [] ∧ p.stream written = written) := by
  intro p limit
  refine ⟨fun frame base bytes rest hEncode => Frame.decode_encoded limit hEncode rest, ?_⟩
  obtain ⟨written, heard, dispatched, hCourse⟩ : ∃ written heard dispatched,
      Course far near.keepaliveInterval.isSome p written heard dispatched :=
    (Course.start near link bases began far).run events
  obtain ⟨left, hSplit, hFits, hFault, hQuiet⟩ := hCourse.dispatched_cases
  refine ⟨written, heard, dispatched, left, hCourse.interspersed, hCourse.encoded, hSplit,
    hCourse.delivered, hFits, ?_, hQuiet⟩
  intro reader cause hReader hMalformed
  rw [(hCourse.serves reader hReader).config_eq] at hMalformed
  rw [received_of_reader hReader] at hFault
  exact hFault cause hMalformed

/-- The same limit at both ends does not keep a reader from faults: a message of three bytes is sent
to a reader that takes two. -/
theorem writer_ignores_limit :
    ¬∀ (config : Config) (link : String) (bases : Bases) (began : Moment) (far : Endpoint)
      (events : List Event), config.check = .ok () → far.config = config →
      ∀ reader cause, ((start config link bases began).run far events).reader = some reader →
        (Frame.decoder config.maxPayloadLength).decode reader.buffer ≠ .malformed cause := by
  intro h
  let config : Config := { maxPayloadLength := 2 }
  let far : Endpoint := ⟨0, "desk", 0, config, true⟩
  let message : Frame := ⟨some "lamp", none, [1, 2, 3]⟩
  let events : List Event :=
    [.send message, .take, .load, .flush 100, .attach 100 0, .proceed 0 false, .proceed 0 false]
  obtain ⟨bytes, hEncode⟩ : ∃ bytes, message.encode 0 = .ok bytes :=
    Frame.encode_isOk_iff.2 (by decide +kernel)
  have hReader : ∃ reader, ((start config "hub" ⟨0⟩ 0).run far events).reader = some reader ∧
      reader.stage = .ended .failed ∧ (message.encode 0).toOption = some reader.buffer :=
    ⟨_, rfl, by decide +kernel, by decide +kernel⟩
  obtain ⟨reader, hReader, _, hBuffer⟩ := hReader
  rw [hEncode] at hBuffer
  have hFault := Frame.decode_encoded 2 hEncode []
  rw [List.append_nil, if_neg (by decide), Option.some.inj hBuffer] at hFault
  exact h config "hub" ⟨0⟩ 0 far events rfl rfl reader _ hReader hFault

end Pipeline

end RobotBus.Transport
