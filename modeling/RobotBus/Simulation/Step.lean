import RobotBus.Simulation.Schedule

/-!
# Steps of a session

A session makes nodes, links, calls and transports and lets them act, all under names that it
chooses. Each step has an answer.
-/

namespace RobotBus.Simulation

/-- Links that break down on every message: with a text, with a text that tells the size of the
target, or without one. -/
inductive Breakdown
  | text
  | sized
  | silent
deriving DecidableEq, Repr

inductive ScriptStep
  | remove (node name : String)
  | replace (node link name : String)
  | transmit (node : String) (message : Message)
  | reply (node : String) (source : Option String) (payload : Bytes)
  | fault (text : String)
  | stop (handle : String)
deriving DecidableEq, Repr

inductive LinkKind
  | recording (keep : Bool)
  | faulty (breakdown : Breakdown)
  | tracing (name inner : String)
  | queue (name : String) (length : Nat)
  | reply (manager : String)
  | script (steps : List ScriptStep) (limit : Nat) (keep : Bool)
deriving DecidableEq, Repr

/-- What a procedure does with its arguments. -/
inductive Work
  | echo
  | reverse
  | constant (result : Bytes)
  | fail (text : String)
  | breakDown
deriving DecidableEq, Repr

def Work.respond : Work → Bytes → Calls.Response
  | echo, arguments => .result arguments
  | reverse, arguments => .result arguments.reverse
  | constant result, _ => .result result
  | fail text, _ => .failure text
  | breakDown, _ => .breakdown

inductive Step
  -- nodes and links
  | node (id : String)
  | dropNode (id : String)
  | link (id : String) (kind : LinkKind)
  | dropLink (id : String)
  | bridge (a b nameA nameB : String)
  | add (node link name : String)
  | replace (node link name : String)
  | remove (node name : String)
  | removeIf (node name link : String)
  | has (node name : String)
  | names (node : String)
  | nameOf (node link : String)
  | transmit (node : String) (message : Message) (deny : Option String)
  | broadcast (node : String) (source : Option String) (payload : Bytes) (deny : Option String)
  | announce (node : String)
  | subscribe (node name counter : String)
  | count (counter : String)
  | send (link : String) (message : Message)
  | take (link : String)
  | countReceived (link : String)
  | expect (link : String) (message : Message)
  | expectNothing (link : String)
  | wait (link : String) (count : Nat) (limit : Duration)
  | takeQueued (link : String)
  | closeQueue (link : String)
  -- calls
  | manager (id node : String)
  | newManager (id : String) (node : Option String) (endpoint : String)
  | dropManager (id : String)
  | invoke (id manager target : String) (arguments : Bytes) (timeout : Option Duration)
  | isFinished (id : String)
  | countPending (manager : String)
  | result (id : String)
  | abort (id : String)
  | publish (node name : String) (work : Work) (delay : Option Duration) (runtime : Bool)
  | advance (duration : Duration)
  -- transports
  | handle (id : String)
  | connection (id peer node name : String) (config : Transport.Config) (initial : Bytes)
      (announces stopped : Bool) (handle : Option String)
  | awaitConnection (id : String) (state : Transport.State)
  | stopConnection (id : String)
  | dropConnectionStop (id : String)
  | endConnection (id : String)
  | server (id node : String) (config : Transport.Config)
  | stopServer (id : String)
  | joinServer (id : String)
  | listen (id : String)
  | reserve (id : String)
  | accept (id listener : String)
  | connect (id hub : String)
  | client (id node hub name : String) (hint : Option String) (config : Transport.Config)
      (runtime : Bool)
  | awaitClient (id : String) (state : Transport.State)
  | stopClient (id : String)
  | joinClient (id : String)
  | peerSend (peer : String) (bytes : Bytes)
  | peerRead (peer : String) (count : Nat)
  | peerFrames (peer : String) (count : Nat) (keepalives : Bool)
  | peerEnd (peer : String)
  | peerShutDown (peer : String)
  | peerClose (peer : String)
  | peerReset (peer : String)
  | awaitLink (node name : String) (bound : Bool)
  | logs
deriving DecidableEq, Repr

inductive Answer
  | done
  | ok
  | failed (error : BusError)
  | refused (error : Transport.StartError)
  /-- The code under test broke down. -/
  | brokeDown
  /-- What was waited for has not come in time. -/
  | overdue
  | flag (value : Bool)
  | number (value : Nat)
  | name (value : Option String)
  | names (values : List String)
  | messages (values : List Message)
  | queued (frame : Wire.Frame)
  | queueEmpty
  | disconnected
  | manager (endpoint : String) (timeout : Duration) (same : Option Bool)
  /-- What came of a call, and the moment of the answer. -/
  | outcome (value : Calls.Outcome) (now : Moment)
  | state (value : Transport.State)
  | ended (returned published : Transport.State)
  | joined
  | bytes (value : Bytes)
  | frames (values : List Wire.Frame) (consecutive closed : Bool)
  | closed
  | lines (values : List String)

/-- Goes on in the world that a successful operation leads to. -/
def commit (result : Except BusError World) : Act Answer := do
  match result with
  | .ok world =>
    set world
    return .ok
  | .error error => return .failed error

/-! ## Waiting -/

inductive Clock
  | paused
  | running
deriving DecidableEq, Repr

/-- How long a step on a running clock waits. -/
def waitLimit : Duration := Duration.seconds 5

/-- Waits on a running clock for something that wakes the step. -/
def awaiting (holds : World → Bool) (answer : Act Answer) : Act Answer := do
  let deadline := (← now) + waitLimit
  if ← awaitTold (some deadline) holds then answer else return .overdue

/-- Waits on a running clock by looking from time to time, with a sleep in between that lets
everything run that is ready. -/
def watching (holds : World → Bool) (answer : Act Answer) : Act Answer := do
  let deadline := (← now) + waitLimit
  if ← awaitUntil patience (some deadline) holds then answer else return .overdue

/-- What code outside of a runtime is told. -/
def runtimeAbsence : String :=
  "there is no reactor running, must be called from the context of a Tokio 1.x runtime"

end RobotBus.Simulation
