import RobotBus.Proofs.Wire.Stream
import RobotBus.Transport.Connection
import RobotBus.Transport.Writer

/-!
# Pipelines

One direction of a connection: a send queue, the writer that empties it into a socket, the bytes on
their way, and the connection at the far end that reads them. Each of the parts moves by itself. The
writer takes one message after the other and begins a batch when the queue has no more, so messages
can be sent in between; the socket takes any number of bytes at a time, and any number of them
arrive together. `step` is one move, and a move that is not possible changes nothing.

`run_takeQueued` and `run_beat` say that a writer which takes the whole queue at once makes some of
these moves.
-/

namespace RobotBus.Transport

open Wire (Frame Bases)

/-- Whether an offered message finds a place in the queue. -/
def SendQueue.admits (queue : SendQueue) : Bool :=
  !queue.closed && queue.frames.size < queue.capacity

theorem SendQueue.take?_of_toList {queue : SendQueue} {frame : Frame} {rest : List Frame}
    (h : queue.frames.toList = frame :: rest) :
    ∃ frames, queue.take? = some (frame, { queue with frames }) ∧ frames.toList = rest := by
  cases hPop : queue.frames.pop? with
  | none =>
    rw [Fifo.pop?_eq_none_iff.1 hPop] at h
    cases h
  | some popped =>
    obtain ⟨first, frames⟩ := popped
    rw [Fifo.toList_of_pop? hPop, List.cons.injEq] at h
    obtain ⟨rfl, hRest⟩ := h
    refine ⟨frames, ?_, hRest⟩
    rw [take?, hPop]
    rfl

/-- Where a connection is registered, and how. -/
structure Endpoint where
  node : NodeId
  name : String
  fresh : LinkId
  config : Config
  announces : Bool
deriving DecidableEq, Repr

namespace Endpoint

def ends (far : Endpoint) : Ends :=
  .ofFresh far.fresh far.config.traceFrames

/-- The connection of an endpoint. `leftover` was received behind the header of the peer. -/
def connect (far : Endpoint) (leftover : Bytes) (now : Moment) : Connection :=
  .start far.node far.name far.fresh far.config far.announces leftover now

/-- What a frame comes to at an endpoint: its message, with a source that leads back. -/
def delivery (far : Endpoint) (frame : Frame) : Operation :=
  .transmit far.node ⟨frame.target, some (Path.through far.name frame.source), frame.payload⟩
    (some far.ends.link)

end Endpoint

/-- Messages that are handed to a node on behalf of a link. -/
def deliveries (effects : List Effect) : List Operation :=
  effects.filterMap fun
    | .perform (.transmit node message (some link)) => some (.transmit node message (some link))
    | _ => none

structure Pipeline where
  queue : SendQueue
  writer : Writer
  /-- What the writer has taken for its next batch. -/
  taken : List Frame := []
  /-- What the socket has taken of the writer and not yet handed to the reader. -/
  wire : Bytes := []
  reader : Option Connection := none
  /-- All messages that found a place in the queue, in the order in which they were sent. -/
  accepted : List Frame := []
  /-- All effects of the reader. -/
  effects : List Effect := []
deriving DecidableEq, Repr

namespace Pipeline

inductive Event
  | send (message : Frame)
  /-- The writer takes the oldest message. -/
  | take
  /-- The writer begins a batch with a keepalive. -/
  | beat (now : Moment)
  /-- The writer finds the queue empty and writes what it has taken. -/
  | load
  /-- The socket takes bytes of the writer. -/
  | flush (count : Nat)
  /-- The handshake of the reader is over. The first bytes came behind the header. -/
  | attach (count : Nat) (now : Moment)
  /-- The reader receives the next bytes. -/
  | arrive (count : Nat) (now : Moment)
  | proceed (now : Moment) (stopped : Bool)
  /-- The reader takes an input other than bytes. -/
  | input (now : Moment) (input : Input)
deriving DecidableEq, Repr

/-- A writer with an empty queue, and a reader that has not begun. -/
def start (near : Config) (link : String) (bases : Bases) (now : Moment) : Pipeline where
  queue := { link, capacity := near.sendQueueLength }
  writer := .start link near.traceFrames near.keepaliveInterval bases now

/-- The reader has done something. -/
def act (p : Pipeline) (done : Connection × List Effect) : Pipeline :=
  { p with reader := some done.1, effects := p.effects ++ done.2 }

def step (far : Endpoint) (p : Pipeline) : Event → Pipeline
  | .send message =>
    { p with
      queue := (p.queue.offer message).1
      accepted := if p.queue.admits then p.accepted ++ [message] else p.accepted }
  | .take =>
    match p.writer.isIdle, p.queue.take? with
    | true, some (frame, queue) => { p with queue, taken := p.taken ++ [frame] }
    | _, _ => p
  | .beat now =>
    if p.writer.isIdle ∧ p.taken = [] ∧ p.writer.isDue now then
      { p with
        writer := { p.writer with ticker := p.writer.ticker.map (Ticker.advance · now) }
        taken := [Frame.keepalive] }
    else
      p
  | .load =>
    if p.writer.isIdle ∧ p.queue.frames.isEmpty then
      { p with writer := (p.writer.load p.taken).1, taken := [] }
    else
      p
  | .flush count =>
    { p with
      wire := p.wire ++ p.writer.outbox.take count
      writer := p.writer.flush count }
  | .attach count now =>
    match p.reader with
    | none =>
      { p with wire := p.wire.drop count, reader := some (far.connect (p.wire.take count) now) }
    | some _ => p
  | .arrive count now =>
    match p.reader with
    | some reader =>
      if reader.deadline?.isSome then
        { p with wire := p.wire.drop count }.act
          (reader.receive now (.received (p.wire.take count)))
      else
        p
    | none => p
  | .proceed now stopped =>
    match p.reader with
    | some reader => p.act (reader.proceed now stopped)
    | none => p
  | .input now input =>
    match p.reader, input with
    | some _, .received _ => p
    | some reader, input => p.act (reader.receive now input)
    | none, _ => p

def run (far : Endpoint) (p : Pipeline) (events : List Event) : Pipeline :=
  events.foldl (step far) p

theorem run_append (far : Endpoint) (p : Pipeline) (events events' : List Event) :
    p.run far (events ++ events') = (p.run far events).run far events' :=
  List.foldl_append

/-- Nothing is on its way, and the reader waits for more. -/
def isQuiet (p : Pipeline) : Bool :=
  p.queue.frames.isEmpty && p.taken.isEmpty && p.writer.outbox.isEmpty && p.wire.isEmpty &&
    p.reader.any fun reader => reader.deadline?.isSome

/-! ## Batches as moves -/

variable (far : Endpoint) {p : Pipeline}

theorem step_take {frame : Frame} {rest : List Frame} (hIdle : p.writer.isIdle = true)
    (h : p.queue.frames.toList = frame :: rest) :
    ∃ queue, queue.frames.toList = rest ∧ queue.drained = p.queue.drained ∧
      p.step far .take = { p with queue, taken := p.taken ++ [frame] } := by
  obtain ⟨frames, hTake, hRest⟩ := SendQueue.take?_of_toList h
  refine ⟨{ p.queue with frames }, hRest, rfl, ?_⟩
  rw [step, hTake, hIdle]

/-- A writer that takes as often as it can has the whole queue. -/
theorem run_take (hIdle : p.writer.isIdle = true) :
    p.run far (List.replicate p.queue.frames.toList.length .take) =
      { p with queue := p.queue.drained, taken := p.taken ++ p.queue.frames.toList } := by
  generalize hFrames : p.queue.frames.toList = frames
  induction frames generalizing p with
  | nil =>
    have hQueue : p.queue.drained = p.queue := by
      rw [SendQueue.drained, ← Fifo.eq_empty hFrames]
    rw [hQueue, List.append_nil]
    rfl
  | cons frame rest ih =>
    obtain ⟨queue, hRest, hDrained, hStep⟩ := step_take far hIdle hFrames
    have hMore := ih (p := { p with queue, taken := p.taken ++ [frame] }) hIdle hRest
    change (p.step far .take).run far (List.replicate rest.length .take) = _
    rw [hStep, hMore, hDrained, List.append_assoc]
    rfl

theorem run_batch (hIdle : p.writer.isIdle = true) :
    p.run far (List.replicate p.queue.frames.toList.length .take ++ [.load]) =
      { p with
        writer := (p.writer.load (p.taken ++ p.queue.frames.toList)).1
        queue := p.queue.drained
        taken := [] } := by
  rw [run_append, run_take far hIdle]
  change step far _ .load = _
  rw [step, if_pos ⟨hIdle, rfl⟩]

/-- Taking all that waits in the queue at once is one way to move. -/
theorem run_takeQueued (hIdle : p.writer.isIdle = true) (hTaken : p.taken = []) :
    p.run far (List.replicate p.queue.frames.toList.length .take ++ [.load]) =
      { p with
        writer := (p.writer.takeQueued p.queue).1
        queue := (p.writer.takeQueued p.queue).2.1
        taken := [] } := by
  rw [run_batch far hIdle, hTaken]
  rfl

/-- So is a keepalive with all that waits in the queue behind it. -/
theorem run_beat {now : Moment} (hIdle : p.writer.isIdle = true) (hTaken : p.taken = [])
    (hDue : p.writer.isDue now = true) :
    p.run far (.beat now :: (List.replicate p.queue.frames.toList.length .take ++ [.load])) =
      { p with
        writer := (p.writer.beat p.queue now).1
        queue := (p.writer.beat p.queue now).2.1
        taken := [] } := by
  have hBeat : p.step far (.beat now) =
      { p with
        writer := { p.writer with ticker := p.writer.ticker.map (Ticker.advance · now) }
        taken := [Frame.keepalive] } := by
    rw [step, if_pos ⟨hIdle, hTaken, hDue⟩]
  change (p.step far (.beat now)).run far _ = _
  rw [hBeat]
  exact run_batch far hIdle

end Pipeline

end RobotBus.Transport
