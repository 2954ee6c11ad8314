import RobotBus.Duration
import RobotBus.Text.Quoted

/-!
# Errors

The failures that code using the bus can see. Routing failures are not among them: a message
without a reachable target is logged and answered, but never reported to the sender.
-/

namespace RobotBus

inductive BusError
  | duplicateName (name : String)
  | invalidLinkName (name : String)
  | protocol (text : String)
  | timeout (target : String) (after : Duration)
  | nodeDropped
  | noRuntime (text : String)
  | transport (text : String)
deriving DecidableEq, Repr

def BusError.message : BusError → String
  | duplicateName name => "link name already used: " ++ name
  | invalidLinkName name => "invalid link name: " ++ Text.quote name
  | protocol text => "protocol error: " ++ text
  | timeout target after =>
    "remote procedure call to " ++ target ++ " timed out after " ++ after.render
  | nodeDropped => "the node was dropped"
  | noRuntime text => "no tokio runtime available: " ++ text
  | transport text => "transport error: " ++ text

end RobotBus
