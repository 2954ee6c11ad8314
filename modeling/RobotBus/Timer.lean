import RobotBus.Duration

/-!
# Timers

Timers go off at whole milliseconds. A timer whose deadline lies between two of them goes off at the
later one.
-/

namespace RobotBus.Timer

def resolution : Duration := Duration.milliseconds 1

/-- The number of whole milliseconds up to a moment. -/
def tick (now : Moment) : Nat :=
  now / resolution

/-- The tick at which a timer goes off. -/
def firingTick (deadline : Moment) : Nat :=
  (deadline + (resolution - 1)) / resolution

def isDue (deadline now : Moment) : Bool :=
  firingTick deadline ≤ tick now

/-- No timer goes off early. -/
theorem le_of_isDue {deadline now : Nat} (h : isDue deadline now = true) : deadline ≤ now := by
  have h := of_decide_eq_true h
  simp only [firingTick, tick, resolution, Duration.milliseconds] at h
  omega

end RobotBus.Timer
