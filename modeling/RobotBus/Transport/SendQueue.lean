import RobotBus.Fifo
import RobotBus.Notice
import RobotBus.Routing.Link
import RobotBus.Wire.Frame

/-!
# Send queues

The messages that wait to be written to a connection. A queue holds a bounded number of them; what
is offered while it is full is dropped. A full queue is logged once until it accepts again.
-/

namespace RobotBus.Transport

open Wire (Frame)

structure SendQueue where
  link : String
  capacity : Nat
  frames : Fifo Frame := .empty
  overflowing : Bool := false
  closed : Bool := false
deriving DecidableEq, Repr

/-- Why there is no queue of some capacity. -/
inductive CapacityFault
  | zero
  | tooLarge
deriving DecidableEq, Repr

/-- The most messages that a queue can be made for. -/
def SendQueue.largestCapacity : Nat := 2305843009213693951

def CapacityFault.message : CapacityFault → String
  | zero => "mpsc bounded channel requires buffer > 0"
  | tooLarge =>
    s!"a semaphore may not have more than MAX_PERMITS permits ({SendQueue.largestCapacity})"

namespace SendQueue

def create (link : String) (capacity : Nat) : Except CapacityFault SendQueue :=
  if capacity = 0 then .error .zero
  else if largestCapacity < capacity then .error .tooLarge
  else .ok { link, capacity }

/-- Offers a message to the queue. A closed queue asks for the removal of its link. -/
def offer (queue : SendQueue) (frame : Frame) : SendQueue × List Notice × Verdict :=
  if queue.closed then
    (queue, [], .remove)
  else if queue.frames.size < queue.capacity then
    ({ queue with frames := queue.frames.push frame, overflowing := false },
      if queue.overflowing then [.queueAccepts queue.link] else [], .keep)
  else
    ({ queue with overflowing := true },
      if queue.overflowing then [] else [.queueFull queue.link frame.target], .keep)

/-- The oldest message, and the queue without it. -/
def take? (queue : SendQueue) : Option (Frame × SendQueue) :=
  queue.frames.pop?.map fun (frame, frames) => (frame, { queue with frames })

/-- The queue after all its messages were taken. -/
def drained (queue : SendQueue) : SendQueue :=
  { queue with frames := .empty }

/-- Nobody takes messages any more, and those that wait are lost. -/
def close (queue : SendQueue) : SendQueue :=
  { queue with frames := .empty, closed := true }

end SendQueue

end RobotBus.Transport
