import RobotBus.Proofs.Transport.Batches

/-!
# Bounded buffering

A peer that does not read stops the writer: the socket takes no more bytes, the batch stays where it
is, and the queue fills up. How much is held back then depends on how the writer empties the queue.
If nothing is sent while it does so, what it takes is at most the queue, for a batch that begins with
a keepalive just as for one that begins with a message. So at most two queues are held back: the
batch, and the queue that filled up again behind it (`buffering_is_bounded`).

A `Turn` is what happens without interruption. The turns of the writer are moves of a pipeline in
close succession (`turns_eq_run`), so all that holds of pipelines holds here as well.
-/

namespace RobotBus.Transport

open Wire (Frame Bases encodings)

/-- A batch of messages. There may be a keepalive in front, if the writer `beats`. -/
def IsBatch (beats : Bool) (messages batch : List Frame) : Prop :=
  batch = messages ∨ (beats = true ∧ batch = Frame.keepalive :: messages)

namespace IsBatch

variable {beats : Bool} {messages batch : List Frame}

theorem interspersed (h : IsBatch beats messages batch) : Interspersed beats messages batch := by
  rcases h with rfl | ⟨hBeats, rfl⟩
  · exact .refl batch
  · exact .beat hBeats (.refl messages)

end IsBatch

theorem Writer.carried_load (writer : Writer) (frames : List Frame) :
    (writer.load frames).1.carried =
      if (writer.load frames).1.outbox = [] then [] else frames := by
  simp only [load, List.isEmpty_iff]

namespace Pipeline

/-! ## Turns -/

/-- What happens at a writer that takes all that waits in the queue at once. -/
inductive Turn
  | send (message : Frame)
  /-- The writer begins a batch with what waits in the queue. -/
  | collect
  /-- The writer begins a batch with a keepalive. -/
  | beat (now : Moment)
  /-- The socket takes bytes of the writer. -/
  | flush (count : Nat)
deriving DecidableEq, Repr

/-- One turn. Nobody reads what the socket has taken. -/
def turn (far : Endpoint) (p : Pipeline) : Turn → Pipeline
  | .send message => p.step far (.send message)
  | .collect =>
    if p.writer.isIdle ∧ ¬p.queue.frames.isEmpty then
      { p with
        writer := (p.writer.takeQueued p.queue).1
        queue := (p.writer.takeQueued p.queue).2.1 }
    else
      p
  | .beat now =>
    if p.writer.isIdle ∧ p.writer.isDue now then
      { p with
        writer := (p.writer.beat p.queue now).1
        queue := (p.writer.beat p.queue now).2.1 }
    else
      p
  | .flush count => p.step far (.flush count)

def turns (far : Endpoint) (p : Pipeline) (turns : List Turn) : Pipeline :=
  turns.foldl (turn far) p

theorem turn_eq_run (far : Endpoint) {p : Pipeline} (hTaken : p.taken = []) (next : Turn) :
    (p.turn far next).taken = [] ∧ ∃ events, p.turn far next = p.run far events := by
  cases next with
  | send message => exact ⟨hTaken, [.send message], rfl⟩
  | collect =>
    rw [turn]
    split
    · rename_i hReady
      refine ⟨hTaken, List.replicate p.queue.frames.toList.length .take ++ [.load], ?_⟩
      rw [run_takeQueued far hReady.1 hTaken, hTaken]
    · exact ⟨hTaken, [], rfl⟩
  | beat now =>
    rw [turn]
    split
    · rename_i hReady
      refine ⟨hTaken,
        .beat now :: (List.replicate p.queue.frames.toList.length .take ++ [.load]), ?_⟩
      rw [run_beat far hReady.1 hTaken hReady.2, hTaken]
    · exact ⟨hTaken, [], rfl⟩
  | flush count => exact ⟨hTaken, [.flush count], rfl⟩

/-- Turns are moves that follow each other in a certain way. -/
theorem turns_eq_run (far : Endpoint) {p : Pipeline} (hTaken : p.taken = []) (turns : List Turn) :
    ∃ events, p.turns far turns = p.run far events := by
  induction turns generalizing p with
  | nil => exact ⟨[], rfl⟩
  | cons next turns ih =>
    obtain ⟨hNext, events, hTurn⟩ := turn_eq_run far hTaken next
    obtain ⟨events', hTurns⟩ := ih hNext
    refine ⟨events ++ events', ?_⟩
    rw [run_append, ← hTurn]
    exact hTurns

/-! ## What is held back -/

/-- A pipeline that has handed messages to the socket, as part of a `stream`, and has begun a
`batch` behind them. The socket has taken a `part` of the batch. The messages that are `held` in the
batch and those in the queue are still to come. A batch stays the last one until the next begins,
also when the socket has all of it. -/
structure Buffered (bases : Bases) (n : Nat) (beats : Bool) (p : Pipeline)
    (handed held stream batch : List Frame) (part : Bytes) : Prop where
  capacity_eq : p.queue.capacity = n
  waiting_le : p.queue.frames.toList.length ≤ n
  held_le : held.length ≤ n
  accepted_eq : p.accepted = handed ++ (held ++ p.queue.frames.toList)
  isBatch : IsBatch beats held batch
  carried_eq : p.writer.carried = if p.writer.outbox = [] then [] else batch
  ticks : p.writer.ticker.isSome → beats = true
  interspersed : Interspersed beats handed stream
  wire_eq : p.wire = (encodings bases stream).flatten ++ part
  rest : part ++ p.writer.outbox = (encodings (bases.skip stream.length) batch).flatten
  bases_eq : p.writer.bases = bases.skip (stream.length + batch.length)

namespace Buffered

variable {bases : Bases} {n : Nat} {beats : Bool} {p : Pipeline}
  {handed held stream batch : List Frame} {part : Bytes}

theorem start (near : Config) (link : String) (bases : Bases) (began : Moment) :
    Buffered bases near.sendQueueLength near.keepaliveInterval.isSome
      (start near link bases began) [] [] [] [] [] where
  capacity_eq := rfl
  waiting_le := Nat.zero_le _
  held_le := Nat.zero_le _
  accepted_eq := rfl
  isBatch := .inl rfl
  carried_eq := rfl
  ticks hTicks := by simpa [Pipeline.start, Writer.start] using hTicks
  interspersed := .nil
  wire_eq := rfl
  rest := rfl
  bases_eq := (Bases.skip_zero bases).symm

theorem send (h : Buffered bases n beats p handed held stream batch part) (far : Endpoint)
    (message : Frame) :
    Buffered bases n beats (p.step far (.send message)) handed held stream batch part := by
  have hQueue := p.queue.toList_offer message
  refine { capacity_eq := ?_, waiting_le := ?_, held_le := h.held_le, accepted_eq := ?_,
           isBatch := h.isBatch, carried_eq := h.carried_eq, ticks := h.ticks,
           interspersed := h.interspersed, wire_eq := h.wire_eq, rest := h.rest,
           bases_eq := h.bases_eq }
  · rw [← h.capacity_eq]
    show (p.queue.offer message).1.capacity = p.queue.capacity
    rw [SendQueue.offer]
    split
    · rfl
    · split <;> rfl
  · show (p.queue.offer message).1.frames.toList.length ≤ n
    rw [hQueue]
    split
    · rename_i hAdmits
      rw [SendQueue.admits, Bool.and_eq_true, decide_eq_true_eq, h.capacity_eq,
        ← Fifo.length_toList] at hAdmits
      rw [List.length_append]
      exact hAdmits.2
    · exact h.waiting_le
  · show (if p.queue.admits then p.accepted ++ [message] else p.accepted) =
      handed ++ (held ++ (p.queue.offer message).1.frames.toList)
    rw [hQueue, h.accepted_eq]
    split
    · simp only [List.append_assoc]
    · rfl

/-- When the socket has taken its last byte, nothing of the batch is held back. -/
theorem done (h : Buffered bases n beats p handed held stream batch part)
    (hDone : p.writer.outbox = []) :
    Buffered bases n beats p (handed ++ held) [] (stream ++ batch) [] [] where
  capacity_eq := h.capacity_eq
  waiting_le := h.waiting_le
  held_le := Nat.zero_le n
  accepted_eq := by
    rw [List.append_assoc]
    exact h.accepted_eq
  isBatch := .inl rfl
  carried_eq := by rw [h.carried_eq, if_pos hDone, if_pos hDone]
  ticks := h.ticks
  interspersed := h.interspersed.append h.isBatch.interspersed
  wire_eq := by
    have hRest := h.rest
    rw [hDone, List.append_nil] at hRest
    rw [Wire.encodings_append, List.flatten_append, ← hRest, List.append_nil]
    exact h.wire_eq
  rest := by
    rw [hDone]
    rfl
  bases_eq := by
    rw [List.length_append]
    exact h.bases_eq

/-- The writer begins the next batch. -/
theorem load (h : Buffered bases n beats p handed held stream batch part)
    (hIdle : p.writer.isIdle = true) {writer : Writer} (hBases : writer.bases = p.writer.bases)
    (hTicks : writer.ticker.isSome → beats = true) {next : List Frame}
    (hNext : IsBatch beats p.queue.frames.toList next) :
    Buffered bases n beats { p with writer := (writer.load next).1, queue := p.queue.drained }
      (handed ++ held) p.queue.frames.toList (stream ++ batch) next [] := by
  have hDone := h.done (Writer.isIdle_iff.1 hIdle)
  have hStart : writer.bases = bases.skip (stream ++ batch).length :=
    hBases.trans hDone.bases_eq
  obtain ⟨hOutbox, hBehind⟩ := writer.outbox_load next
  rw [hStart] at hOutbox hBehind
  refine { capacity_eq := h.capacity_eq, waiting_le := Nat.zero_le n, held_le := h.waiting_le,
           accepted_eq := ?_, isBatch := hNext, carried_eq := writer.carried_load next,
           ticks := hTicks, interspersed := hDone.interspersed, wire_eq := hDone.wire_eq,
           rest := hOutbox, bases_eq := ?_ }
  · rw [SendQueue.drained, Fifo.toList_empty, List.append_nil]
    exact hDone.accepted_eq
  · rw [← Bases.skip_skip]
    exact hBehind

theorem flush (h : Buffered bases n beats p handed held stream batch part) (far : Endpoint)
    (count : Nat) :
    Buffered bases n beats (p.step far (.flush count)) handed held stream batch
      (part ++ p.writer.outbox.take count) where
  capacity_eq := h.capacity_eq
  waiting_le := h.waiting_le
  held_le := h.held_le
  accepted_eq := h.accepted_eq
  isBatch := h.isBatch
  carried_eq := by
    show (if (p.writer.outbox.drop count).isEmpty then [] else p.writer.carried) =
      if p.writer.outbox.drop count = [] then [] else batch
    by_cases hDone : p.writer.outbox.drop count = []
    · simp [hDone]
    · -- bytes are left, so the batch was carried before and still is
      have hBusy : p.writer.outbox ≠ [] := by
        intro hIdle
        rw [hIdle, List.drop_nil] at hDone
        exact hDone rfl
      rw [h.carried_eq, if_neg hBusy, if_neg hDone, if_neg (mt List.isEmpty_iff.1 hDone)]
  ticks := h.ticks
  interspersed := h.interspersed
  wire_eq := by
    show p.wire ++ p.writer.outbox.take count = _
    rw [h.wire_eq, List.append_assoc]
  rest := by
    show part ++ p.writer.outbox.take count ++ p.writer.outbox.drop count = _
    rw [List.append_assoc, List.take_append_drop]
    exact h.rest
  bases_eq := h.bases_eq

theorem turn (h : Buffered bases n beats p handed held stream batch part) (far : Endpoint)
    (next : Turn) :
    ∃ handed held stream batch part,
      Buffered bases n beats (p.turn far next) handed held stream batch part := by
  cases next with
  | send message => exact ⟨_, _, _, _, _, h.send far message⟩
  | collect =>
    rw [Pipeline.turn]
    split
    · rename_i hReady
      exact ⟨_, _, _, _, _, h.load hReady.1 rfl h.ticks (.inl rfl)⟩
    · exact ⟨_, _, _, _, _, h⟩
  | beat now =>
    rw [Pipeline.turn]
    split
    · rename_i hReady
      have hBeats := h.ticks (Writer.ticks_of_isDue hReady.2)
      let ticking : Writer :=
        { p.writer with ticker := p.writer.ticker.map (Ticker.advance · now) }
      have hBases : ticking.bases = p.writer.bases := rfl
      exact ⟨_, _, _, _, _, h.load hReady.1 hBases (fun _ => hBeats) (.inr ⟨hBeats, rfl⟩)⟩
    · exact ⟨_, _, _, _, _, h⟩
  | flush count => exact ⟨_, _, _, _, _, h.flush far count⟩

theorem turns (h : Buffered bases n beats p handed held stream batch part) (far : Endpoint)
    (turns : List Turn) :
    ∃ handed held stream batch part,
      Buffered bases n beats (p.turns far turns) handed held stream batch part := by
  induction turns generalizing p handed held stream batch part with
  | nil => exact ⟨_, _, _, _, _, h⟩
  | cons next turns ih =>
    obtain ⟨_, _, _, _, _, hNext⟩ := h.turn far next
    exact ih hNext

/-- So what is held back is what the writer carries. -/
theorem carried (h : Buffered bases n beats p handed held stream batch part) :
    ∃ handed held stream part,
      Buffered bases n beats p handed held stream p.writer.carried part := by
  have hCarried := h.carried_eq
  by_cases hDone : p.writer.outbox = []
  · rw [if_pos hDone] at hCarried
    rw [hCarried]
    exact ⟨_, _, _, _, h.done hDone⟩
  · rw [if_neg hDone] at hCarried
    rw [hCarried]
    exact ⟨_, _, _, _, h⟩

end Buffered

/-- **What a peer that does not read can hold back is bounded.** However turns follow each other and
however long the socket takes no bytes, the messages that found a place in a queue of capacity `n`
are those that were handed to the socket with all their bytes and at most `2 * n` others: what is
held in one batch, which is at most `n` messages with at most one keepalive, and what waits in the
queue. What the socket has taken are the bytes of what was handed to it, as far as it has a form on
the wire, with keepalives in between, and a part of the batch. -/
theorem buffering_is_bounded (near : Config) (link : String) (bases : Bases) (began : Moment)
    (far : Endpoint) (turns : List Turn) :
    let p := (start near link bases began).turns far turns
    let waiting := p.queue.frames.toList
    ∃ handed held stream part,
      p.accepted = handed ++ (held ++ waiting) ∧
      (held ++ waiting).length ≤ 2 * near.sendQueueLength ∧
      held.length ≤ near.sendQueueLength ∧
      IsBatch near.keepaliveInterval.isSome held p.writer.carried ∧
      Interspersed near.keepaliveInterval.isSome handed stream ∧
      p.wire = (encodings bases stream).flatten ++ part ∧
      part ++ p.writer.outbox =
        (encodings (bases.skip stream.length) p.writer.carried).flatten := by
  intro p waiting
  obtain ⟨_, _, _, _, _, hTurns⟩ := (Buffered.start near link bases began).turns far turns
  obtain ⟨handed, held, stream, part, h⟩ := hTurns.carried
  refine ⟨handed, held, stream, part, h.accepted_eq, ?_, h.held_le, h.isBatch, h.interspersed,
    h.wire_eq, h.rest⟩
  have hHeld := h.held_le
  have hWaiting : waiting.length ≤ near.sendQueueLength := h.waiting_le
  rw [List.length_append]
  omega

/-- A queue for two messages, with a keepalive due at once. Four messages find a place while the
socket takes no more than a part of the first batch, and a fifth does not. -/
example :
    let message (number : UInt8) : Frame := ⟨some "arm", none, [number]⟩
    let p := (start { sendQueueLength := 2 } "robot" ⟨0⟩ 0).turns ⟨0, "hub", 0, {}, true⟩
      [.send (message 1), .send (message 2), .beat 0, .flush 3, .send (message 3),
        .send (message 4), .send (message 5), .collect]
    p.writer.carried = [Frame.keepalive, message 1, message 2] ∧
      p.queue.frames.toList = [message 3, message 4] ∧ p.wire.length = 3 := by
  decide +kernel

end Pipeline

end RobotBus.Transport
