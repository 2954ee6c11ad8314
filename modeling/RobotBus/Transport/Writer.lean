import RobotBus.Timer
import RobotBus.Transport.SendQueue

/-!
# Writers

A writer sends the messages of a queue over a connection. It writes everything that waits in one
batch, and a keepalive in front of it when one is due. Frames are numbered by consecutive checksum
bases. A message that can not be encoded is left out, but uses up its base.
-/

namespace RobotBus.Transport

open Wire (Frame Bases)

/-! ## Batches -/

structure Batch where
  bytes : Bytes := []
  bases : Bases
  notices : List Notice := []
deriving DecidableEq, Repr

namespace Batch

def append (batch : Batch) (frame : Frame) : Batch :=
  let (base, bases) := batch.bases.take
  match frame.append base batch.bytes with
  | (bytes, none) => { batch with bytes, bases }
  | (bytes, some cause) =>
    { bytes, bases, notices := batch.notices ++ [.frameDropped frame.target cause.message] }

def appendAll (batch : Batch) (frames : List Frame) : Batch :=
  frames.foldl append batch

end Batch

/-! ## Keepalives -/

/-- The timer of the own keepalives. -/
structure Ticker where
  interval : Duration
  next : Moment
deriving DecidableEq, Repr

namespace Ticker

/-- The first keepalive is due at once. -/
def start (interval : Duration) (now : Moment) : Ticker :=
  ⟨interval, now⟩

/-- A tick that is late by more than this shifts all later ones. -/
def tolerance : Duration := Duration.milliseconds 5

def advance (ticker : Ticker) (now : Moment) : Ticker :=
  { ticker with
    next := (if ticker.next + tolerance < now then now else ticker.next) + ticker.interval }

end Ticker

/-! ## Writing -/

/-- A writer, with the frames of its last batch and what the socket has not taken of their bytes. -/
structure Writer where
  link : String
  traced : Bool
  bases : Bases
  ticker : Option Ticker
  carried : List Frame := []
  outbox : Bytes := []
deriving DecidableEq, Repr

namespace Writer

def start (link : String) (traced : Bool) (interval : Option Duration) (bases : Bases)
    (now : Moment) : Writer :=
  { link, traced, bases, ticker := interval.map (Ticker.start · now) }

/-- Whether a keepalive is due. -/
def isDue (writer : Writer) (now : Moment) : Bool :=
  writer.ticker.any fun ticker => Timer.isDue ticker.next now

/-- Starts to write a batch. A batch without bytes is done at once. -/
def load (writer : Writer) (frames : List Frame) : Writer × List Notice :=
  let batch := Batch.appendAll { bases := writer.bases } frames
  ({ writer with
      bases := batch.bases
      carried := if batch.bytes.isEmpty then [] else frames
      outbox := batch.bytes },
    batch.notices)

/-- Takes all that waits in the queue. -/
def takeQueued (writer : Writer) (queue : SendQueue) : Writer × SendQueue × List Notice :=
  let (writer, notices) := writer.load queue.frames.toList
  (writer, queue.drained, notices)

/-- Writes a keepalive, and takes all that waits in the queue behind it. -/
def beat (writer : Writer) (queue : SendQueue) (now : Moment) :
    Writer × SendQueue × List Notice :=
  let ticking := { writer with ticker := writer.ticker.map (Ticker.advance · now) }
  let (writer, notices) := ticking.load (Frame.keepalive :: queue.frames.toList)
  (writer, queue.drained,
    if writer.traced then .keepaliveSent writer.link :: notices else notices)

/-- The socket takes bytes. A batch is done when all its bytes were taken. -/
def flush (writer : Writer) (count : Nat) : Writer :=
  let outbox := writer.outbox.drop count
  { writer with outbox, carried := if outbox.isEmpty then [] else writer.carried }

/-- A batch is begun only after the one before is done. -/
def isIdle (writer : Writer) : Bool :=
  writer.outbox.isEmpty

end Writer

end RobotBus.Transport
