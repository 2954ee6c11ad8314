import RobotBus.Simulation.Schedule

/-!
# Directories

A session knows the things that it has made by names of its own. Looking up a name that stands for
nothing ends the session. A name can be given again, and then stands for the newer thing.
-/

namespace RobotBus.Simulation

/-! ## Looking up names -/

def nodeId (name : String) : Act NodeId := do
  require "node" ((← lab).directory.nodes.get? name)

def node (name : String) : Act (NodeId × Node) := do
  let id ← nodeId name
  return (id, ← require "node" ((← get).nodes.get? id))

def linkId (name : String) : Act LinkId := do
  require "link" ((← lab).directory.links.get? name)

def denied : Option String → Act (Option LinkId)
  | none => return none
  | some name => some <$> linkId name

def managerId (name : String) : Act ManagerId := do
  require "manager" ((← lab).directory.managers.get? name)

def flagId (name : String) : Act FlagId := do
  require "handle" ((← lab).directory.flags.get? name)

def recorder (name : String) : Act (LinkId × Bool × Fifo Message) := do
  let id ← require "recording" ((← lab).directory.recorders.get? name)
  match (← lab).instances[id]? with
  | some (.recorder keep received) => return (id, keep, received)
  | _ => throw (.missing "recording")

def sendQueue (name : String) : Act (LinkId × Transport.SendQueue) := do
  let id ← require "queue" ((← lab).directory.queues.get? name)
  match (← lab).instances[id]? with
  | some (.queue queue) => return (id, queue)
  | _ => throw (.missing "queue")

def callTask (name : String) : Act (Nat × CallTask) := do
  let number ← require "call" ((← lab).directory.calls.get? name)
  return (number, ← require "call" ((← lab).calls.get? number))

def agentOf (role : String) (number : Option Nat) : Act (Nat × Agent) := do
  let number ← require role number
  return (number, ← require role ((← lab).agents.get? number))

def connectionAgent (name : String) : Act (Nat × Agent) := do
  agentOf "connection" ((← lab).directory.connections.get? name)

def clientAgent (name : String) : Act (Nat × Agent) := do
  agentOf "client" ((← lab).directory.clients.get? name)

def serverTask (name : String) : Act (Nat × ServerTask) := do
  let number ← require "server" ((← lab).directory.servers.get? name)
  return (number, ← require "server" ((← lab).servers.get? number))

def hubId (name : String) : Act HubId := do
  require "listener" ((← lab).directory.hubs.get? name)

def peer (name : String) : Act Peer := do
  require "peer" ((← lab).peers.get? name)

/-! ## Making things -/

def addNode (name : String) : Act Unit := do
  let id := (← lab).fresh
  modify fun world => { world with nodes := world.nodes.insert id {} }
  modifyLab fun lab => { lab with
    fresh := id + 1
    directory := { lab.directory with nodes := lab.directory.nodes.insert name id } }

def addInstance (inst : Instance) : Act LinkId := do
  let (id, lab) := (← lab).addInstance inst
  modifyLab fun _ => lab
  return id

def nameLink (name : String) (id : LinkId) : Act Unit :=
  modifyLab fun lab => { lab with
    directory := { lab.directory with links := lab.directory.links.insert name id } }

def nameRecorder (name : String) (id : LinkId) : Act Unit :=
  modifyLab fun lab => { lab with
    directory := { lab.directory with recorders := lab.directory.recorders.insert name id } }

/-- Names a send queue. The queue that had the name before is closed. -/
def nameQueue (name : String) (id : LinkId) : Act Unit := do
  if let some earlier := (← lab).directory.queues.get? name then
    if let some (.queue queue) := (← lab).instances[earlier]? then
      modifyLab (·.setInstance earlier (.queue queue.close))
  modifyLab fun lab => { lab with
    directory := { lab.directory with queues := lab.directory.queues.insert name id } }

def addFlag (flag : Flag) : Act FlagId := do
  let id := (← lab).fresh
  modifyLab fun lab => { lab with fresh := id + 1, flags := lab.flags.insert id flag }
  return id

def addManager (node : Option NodeId) (endpoint : String) : Act ManagerId := do
  let id := (← lab).fresh
  modifyLab fun lab => { lab with
    fresh := id + 1
    managers := lab.managers.insert id { endpoint }
    homes := match node with
      | some node => lab.homes.insert id node
      | none => lab.homes }
  return id

def nameManager (name : String) (id : ManagerId) : Act Unit :=
  modifyLab fun lab => { lab with
    directory := { lab.directory with managers := lab.directory.managers.insert name id } }

def addAgent (agent : Agent) : Act Nat := do
  let number := (← lab).fresh
  modifyLab fun lab =>
    { lab with fresh := number + 1, agents := lab.agents.insert number agent }.wake
      (.agent number)
  return number

/-- A new hub, under a name. -/
def addHub (name : String) (hub : Hub) : Act HubId := do
  let id := (← lab).fresh
  modifyLab fun lab => { lab with
    fresh := id + 1
    hubs := lab.hubs.insert id hub
    directory := { lab.directory with hubs := lab.directory.hubs.insert name id } }
  return id

def addCable : Act Nat := do
  let number := (← lab).fresh
  modifyLab fun lab => { lab with fresh := number + 1, cables := lab.cables.insert number {} }
  return number

def addPeer (name : String) (socket : Socket) : Act Unit :=
  modifyLab fun lab => { lab with peers := lab.peers.insert name { socket } }

end RobotBus.Simulation
