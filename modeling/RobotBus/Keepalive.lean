import RobotBus.Duration

/-!
# Keepalive monitor

Whether the peer of a connection still lives. A peer that never sent a keepalive is never taken for
dead. After its first keepalive it has to send some frame within each timeout.
-/

namespace RobotBus.Keepalive

structure Monitor where
  timeout : Duration
  expecting : Bool
  lastReceived : Moment
deriving DecidableEq, Repr

namespace Monitor

def start (timeout : Duration) (now : Moment) : Monitor :=
  ⟨timeout, false, now⟩

/-- Whether a received frame is the first keepalive of the peer. -/
def isFirst (monitor : Monitor) (keepalive : Bool) : Bool :=
  keepalive && !monitor.expecting

/-- The monitor after a frame that is a keepalive or not. -/
def receive (monitor : Monitor) (keepalive : Bool) (now : Moment) : Monitor :=
  { monitor with expecting := monitor.expecting || keepalive, lastReceived := now }

def isExpired (monitor : Monitor) (now : Moment) : Bool :=
  monitor.expecting && monitor.timeout ≤ now - monitor.lastReceived

end Monitor

end RobotBus.Keepalive
