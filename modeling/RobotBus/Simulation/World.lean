import RobotBus.Routing.Network
import RobotBus.Simulation.Agenda

/-!
# Worlds

A network with links of all kinds: those of procedures, of call managers and of connections, and
those that only record, fail or follow a script. `Lab` is the state that they keep, together with
the jobs that go on in the background.
-/

namespace RobotBus.Simulation

open Transport (SendQueue)

/-! ## Links -/

/-- What the link of a script does when it is sent a message. -/
inductive Action
  | remove (node : NodeId) (name : String)
  | replace (node : NodeId) (link : LinkId) (name : String)
  | transmit (node : NodeId) (message : Message)
  /-- Sends to the source of the message. -/
  | reply (node : NodeId) (source : Option String) (payload : Bytes)
  | fault (text : String)
  | stop (flag : FlagId)
deriving DecidableEq, Repr

/-- The actions are played for the first `limit` messages. -/
structure Script where
  actions : List Action
  limit : Nat
  keep : Bool
  played : Nat := 0

/-- What a link is. -/
inductive Instance
  | recorder (keep : Bool) (received : Fifo Message)
  | faulty (fault : Message → Option String)
  | traced (name : String) (inner : LinkId)
  | queue (queue : SendQueue)
  | replies (manager : ManagerId)
  | script (script : Script)
  /-- Leads to the node `far`, where the link `farLink` under the name `name` leads back. -/
  | bridge (far : NodeId) (name : String) (farLink : LinkId)
  | subscription (counter : String)
  | procedure (procedure : Calls.Procedure)

/-! ## Labs -/

/-- The names under which a session knows what it has made. -/
structure Directory where
  nodes : Bindings String NodeId := .empty
  links : Bindings String LinkId := .empty
  /-- Links that record what they receive. They keep their names when other links get the same. -/
  recorders : Bindings String LinkId := .empty
  /-- The reading end of each send queue, which outlives the name of its link. -/
  queues : Bindings String LinkId := .empty
  managers : Bindings String ManagerId := .empty
  calls : Bindings String Nat := .empty
  flags : Bindings String FlagId := .empty
  connections : Bindings String Nat := .empty
  clients : Bindings String Nat := .empty
  servers : Bindings String Nat := .empty
  hubs : Bindings String HubId := .empty

/-- How many times in a row a session is told at once that something has ended. After that jobs get
their turn first. -/
def fullCredit : Nat := 128

structure Lab where
  /-- Whether a connection to another socket can be made at all. -/
  reachable : Bool
  /-- The time that handing a frame to a node or an attempt to connect takes. -/
  pace : Duration
  directory : Directory := {}
  fresh : Nat := 0
  instances : Std.TreeMap LinkId Instance := {}
  managers : Bindings ManagerId Calls.Manager := .empty
  /-- The node of each manager, if it has one. -/
  homes : Bindings ManagerId NodeId := .empty
  /-- The manager of each node that has made one. -/
  endpoints : Bindings NodeId ManagerId := .empty
  calls : Bindings Nat CallTask := .empty
  runs : Std.TreeMap Nat RunTask := {}
  counters : Bindings String Nat := .empty
  flags : Bindings FlagId Flag := .empty
  agents : Bindings Nat Agent := .empty
  writers : Bindings LinkId WriterTask := .empty
  servers : Bindings Nat ServerTask := .empty
  hubs : Bindings HubId Hub := .empty
  peers : Bindings String Peer := .empty
  cables : Cables := .empty
  agenda : Agenda := {}
  /-- How much of `fullCredit` is left. -/
  credit : Nat := fullCredit

abbrev World := Network Lab

namespace Lab

/-! ## Waking -/

def wake (lab : Lab) (job : Job) : Lab :=
  { lab with agenda := lab.agenda.wake job }

def wakeAll (lab : Lab) (jobs : List Job) : Lab :=
  { lab with agenda := lab.agenda.wakeAll jobs }

/-- Wakes the transports that look at a stop flag and have not ended. -/
def wakeStoppable (lab : Lab) (flag : FlagId) : Lab :=
  let agents := lab.agents.filter fun _ agent => agent.flag = flag && !agent.machine.isEnded
  let servers := lab.servers.filter fun _ task => task.flag = flag && task.server.running
  lab.wakeAll (agents.keys.map .agent ++ servers.keys.map .server)

/-- Wakes the transport that reads what a socket sends. -/
def wakeReader (lab : Lab) (socket : Socket) : Lab :=
  let readers := lab.agents.filter fun _ agent => agent.socket = some socket.opposite
  lab.wakeAll (readers.keys.map .agent)

/-- Wakes the server that accepts what comes to a hub. -/
def wakeAcceptor (lab : Lab) (hub : HubId) : Lab :=
  let servers := lab.servers.filter fun _ task => task.hub = hub && task.server.running
  lab.wakeAll (servers.keys.map .server)

/-- Wakes the writer of a queue, if it has one. -/
def wakeWriter (lab : Lab) (queue : LinkId) : Lab :=
  if lab.writers.contains queue then lab.wake (.writer queue) else lab

/-- Whether something has come for a call of a manager. -/
def isCalledFor (manager : Calls.Manager) (task : CallTask) : Bool :=
  match task.stage with
  | .waiting call => (manager.calls.get? call).any fun found => found.channel ≠ .waiting
  | .queued .. | .ended _ => false

/-- Wakes the calls of a manager for which something has come. -/
def wakeCalls (lab : Lab) (id : ManagerId) : Lab :=
  match lab.managers.get? id with
  | none => lab
  | some manager =>
    let called := lab.calls.filter fun _ task => task.manager = id && isCalledFor manager task
    lab.wakeAll (called.keys.map .call)

def disarm (lab : Lab) (job : Job) : Lab :=
  { lab with agenda := lab.agenda.disarm job }

def arm (lab : Lab) (job : Job) (deadline : Moment) : Lab :=
  { lab with agenda := lab.agenda.arm job deadline }

/-! ## Changes -/

def setInstance (lab : Lab) (link : LinkId) (inst : Instance) : Lab :=
  { lab with instances := lab.instances.insert link inst }

def addInstance (lab : Lab) (inst : Instance) : LinkId × Lab :=
  (lab.fresh, { lab.setInstance lab.fresh inst with fresh := lab.fresh + 1 })

def stop (lab : Lab) (flag : FlagId) : Lab :=
  { lab with
    flags := lab.flags.modify flag fun f => { f with stopped := true } }.wakeStoppable flag

/-- Makes sure that nobody can stop what a flag stops any more. -/
def dropStop (lab : Lab) (flag : FlagId) : Lab :=
  { lab with
    flags := lab.flags.modify flag fun f => { f with dropped := true } }.wakeStoppable flag

def isStopped (lab : Lab) (flag : FlagId) : Bool :=
  (lab.flags.get? flag).any (·.stopped)

/-! ## What is still held -/

/-- Whether a link leaves its messages to another one or may bind it. -/
def refersTo (inst : Instance) (link : LinkId) : Bool :=
  match inst with
  | .traced _ inner => inner = link
  | .script script => script.actions.any fun action =>
    match action with
    | .replace _ other _ => other = link
    | _ => false
  | _ => false

/-- Whether the session or the table of a node holds a link. -/
def isNamed (lab : Lab) (nodes : Bindings NodeId Node) (link : LinkId) : Bool :=
  lab.directory.links.entries.any (fun entry => entry.2 = link)
    || nodes.entries.any fun entry => entry.2.links.entries.any fun bound => bound.2 = link

/-- Whether one of the links `near`, or one that leads to them without passing through `seen`, is
named. Such chains are followed for `fuel` links. -/
def leadsFromName (lab : Lab) (nodes : Bindings NodeId Node) :
    Nat → List LinkId → List LinkId → Bool
  | 0, _, _ => false
  | _ + 1, _, [] => false
  | fuel + 1, seen, near =>
    let seen := near ++ seen
    let further := lab.instances.toList.filter fun entry =>
      !seen.contains entry.1 && near.any (refersTo entry.2)
    near.any (lab.isNamed nodes) || lab.leadsFromName nodes fuel seen (further.map Prod.fst)

/-- Whether anything still holds a link: the session, the table of a node, a link in front of it, or
a script that binds it. -/
def isHeld (lab : Lab) (nodes : Bindings NodeId Node) (link : LinkId) : Bool :=
  lab.leadsFromName nodes (lab.instances.size + 1) [] [link]

/-- Whether a node is held by the session or by a transport. -/
def holdsNode (lab : Lab) (node : NodeId) : Bool :=
  lab.directory.nodes.entries.any (fun entry => entry.2 = node)
    || lab.agents.entries.any (fun entry =>
      entry.2.machine.node = node && !entry.2.machine.isEnded)
    || lab.servers.entries.any (fun entry => entry.2.server.node = node)

/-- A server is held by the session, and by itself while it runs. -/
def holdsServer (lab : Lab) (number : Nat) (task : ServerTask) : Bool :=
  task.server.running || lab.directory.servers.entries.any fun entry => entry.2 = number

/-- Whether a manager is held by the session, by its node or by a call that goes on. -/
def holdsManager (lab : Lab) (manager : ManagerId) : Bool :=
  lab.directory.managers.entries.any (fun entry => entry.2 = manager)
    || lab.endpoints.entries.any (fun entry => entry.2 = manager)
    || lab.calls.entries.any fun entry =>
      entry.2.manager = manager && match entry.2.stage with
        | .ended _ => false
        | _ => true

end Lab

/-- Removes the servers, nodes and managers that nothing holds any more. -/
def collect (world : World) : World :=
  let lab := world.links
  let lab := { lab with servers := lab.servers.filter lab.holdsServer }
  let nodes := world.nodes.filter fun id _ => lab.holdsNode id
  let lab := { lab with endpoints := lab.endpoints.filter fun id _ => nodes.contains id }
  let lab := { lab with managers := lab.managers.filter fun id _ => lab.holdsManager id }
  { world with nodes, links := lab }

end RobotBus.Simulation
