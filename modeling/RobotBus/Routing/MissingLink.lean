import RobotBus.Duration
import RobotBus.Path
import RobotBus.Payload

/-!
# Missing links

Decides whether a message to a missing link is reported. Only the last reported name is remembered,
so a report is suppressed exactly if that name comes again within the interval.
-/

namespace RobotBus

structure MissingLinkReporter where
  interval : Duration := Duration.milliseconds 1000
  last : Option (String × Moment) := none
deriving DecidableEq, Repr

namespace MissingLinkReporter

/-- Negative acknowledgements and probes are never reported. -/
def isExempt (target : String) (payload : Bytes) : Bool :=
  Payload.isNegativeAck payload || Path.isProbe target

def suppresses (reporter : MissingLinkReporter) (name : String) (now : Moment) : Bool :=
  match reporter.last with
  | some (lastName, reportedAt) => lastName == name && now - reportedAt < reporter.interval
  | none => false

/-- Whether a message to the missing link `name` is reported now, and the reporter after that. -/
def report (reporter : MissingLinkReporter) (target name : String) (payload : Bytes)
    (now : Moment) : Bool × MissingLinkReporter :=
  if isExempt target payload || reporter.suppresses name now then (false, reporter)
  else (true, { reporter with last := some (name, now) })

end MissingLinkReporter

end RobotBus
