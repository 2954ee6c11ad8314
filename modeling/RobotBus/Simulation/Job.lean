import RobotBus.Calls.Manager
import RobotBus.Calls.Procedure
import RobotBus.Simulation.Socket
import RobotBus.Transport.Server
import RobotBus.Transport.Writer

/-!
# Background jobs

What goes on besides the steps of a session: calls that wait, procedures that run, transports,
writers and servers. Each has a state of its own, and a place where it waits.
-/

namespace RobotBus.Simulation

open Transport (Client Accepted Connection Server State)

abbrev ManagerId := Nat

abbrev FlagId := Nat

abbrev HubId := Nat

inductive Job
  | call (number : Nat)
  | run (number : Nat)
  | agent (number : Nat)
  | writer (queue : LinkId)
  | server (number : Nat)
deriving DecidableEq, Repr, Ord

/-- Whether a job holds nodes or managers. -/
def Job.isHolder : Job → Bool
  | call _ | agent _ | server _ => true
  | run _ | writer _ => false

/-! ## Calls and procedures -/

inductive CallStage
  | queued (target : String) (arguments : Bytes) (timeout : Option Duration)
  | waiting (call : Nat)
  | ended (outcome : Option Calls.Outcome)

structure CallTask where
  manager : ManagerId
  stage : CallStage
  /-- An aborted call ends without an outcome when it gets its turn. -/
  aborted : Bool := false

inductive RunStage
  | queued
  | sleeping (deadline : Moment)
deriving DecidableEq, Repr

structure RunTask where
  run : Calls.Run
  stage : RunStage := .queued

/-! ## Transports -/

/-- A connection of its own, or one of a client or of a server. -/
inductive Machine
  | connection (connection : Connection)
  | client (client : Client)
  | accepted (accepted : Accepted)

namespace Machine

def node : Machine → NodeId
  | connection c => c.node
  | client c => c.node
  | accepted a => a.node

def isEnded : Machine → Bool
  | connection c => c.isEnded
  | client c => c.isEnded
  | accepted a => a.isEnded

def isRunning : Machine → Bool
  | connection c => c.isRunning
  | client c => c.isRunning
  | accepted a => a.isRunning

def deadline? : Machine → Option Moment
  | connection c => c.deadline?
  | client c => c.deadline?
  | accepted a => a.deadline?

def proceed (machine : Machine) (now : Moment) (stopped : Bool) :
    Machine × List Transport.Effect :=
  match machine with
  | connection c => let (c, effects) := c.proceed now stopped; (connection c, effects)
  | client c => let (c, effects) := c.proceed now stopped; (client c, effects)
  | accepted a => let (a, effects) := a.proceed now stopped; (accepted a, effects)

def receive (machine : Machine) (now : Moment) (fresh : LinkId) (input : Transport.Input) :
    Machine × List Transport.Effect :=
  match machine with
  | connection c => let (c, effects) := c.receive now input; (connection c, effects)
  | client c => let (c, effects) := c.receive now fresh input; (client c, effects)
  | accepted a => let (a, effects) := a.receive now fresh input; (accepted a, effects)

end Machine

structure Flag where
  stopped : Bool := false
  /-- Nobody can stop any more, which is taken for a stop by those that wait for one. -/
  dropped : Bool := false
deriving DecidableEq, Repr

structure Agent where
  machine : Machine
  flag : FlagId
  published : State
  socket : Option Socket := none
  remote : Option HubId := none
  inbox : List Transport.Input := []

structure WriterTask where
  writer : Transport.Writer
  socket : Option Socket

/-- A place that sockets connect to. -/
structure Hub where
  refusing : Bool := false
  backlog : List Socket := []
deriving DecidableEq, Repr

structure ServerTask where
  server : Server
  flag : FlagId
  hub : HubId

/-- The other end of a connection, read by hand. -/
structure Peer where
  socket : Socket
  buffer : Bytes := []
  lastBase : Option UInt64 := none
deriving DecidableEq, Repr

end RobotBus.Simulation
