import RobotBus.Message
import RobotBus.Notice
import RobotBus.Path
import RobotBus.Routing.Link

/-!
# Procedures

A procedure is a link that answers invocations. Each invocation is a run of its own, which replies
to the source of the invocation when it ends with a result. Runs that fail do not reply.
-/

namespace RobotBus.Calls

/-- How a run of a procedure ends. -/
inductive Response
  | result (bytes : Bytes)
  | failure (text : String)
  | breakdown
deriving DecidableEq, Repr

structure Procedure where
  node : NodeId
  name : String
  delay : Option Duration
  respond : Bytes → Response

structure Run where
  procedure : Procedure
  replyTo : String
  arguments : Bytes

namespace Procedure

/-- What a message to a procedure leads to: a run, or none. -/
def receive (procedure : Procedure) (message : Message) : List Notice × Option Run :=
  if message.target = some Path.everyone then
    ([], none)
  else if Payload.tag? message.payload = some .invoke then
    match message.source with
    | none => ([.invocationWithoutSource procedure.name], none)
    | some source => ([], some ⟨procedure, source, message.payload.drop 1⟩)
  else
    ([.notAnInvocation procedure.name message.source], none)

end Procedure

namespace Run

/-- Thirty years of 365 days. No run sleeps longer. -/
def longestPause : Duration := Duration.seconds (30 * 365 * 24 * 60 * 60)

/-- How long a run sleeps before it answers. -/
def pause (run : Run) : Duration :=
  min (run.procedure.delay.getD 0) longestPause

def opening (run : Run) : Notice :=
  .procedureInvoked run.procedure.name run.replyTo

/-- The end of a run: what it tells, and the reply that it sends. -/
def conclude (run : Run) : List Notice × Option Message :=
  match run.procedure.respond run.arguments with
  | .result bytes => ([], some ⟨some run.replyTo, some run.procedure.name, Payload.reply bytes⟩)
  | .failure text => ([.procedureFailed run.procedure.name run.replyTo text], none)
  | .breakdown => ([], none)

end Run

end RobotBus.Calls
