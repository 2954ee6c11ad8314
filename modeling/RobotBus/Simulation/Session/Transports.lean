import RobotBus.Simulation.Directory
import RobotBus.Simulation.Step

/-!
# Transports of a session

Connections, servers and clients are started and awaited, and sockets are connected and accepted by
hand.
-/

namespace RobotBus.Simulation

open Transport (Connection Client Server)

def requireReachable : Act Unit := do
  if !(← lab).reachable then
    throw .unreachable

def startConnection (name peer nodeName link : String) (config : Transport.Config)
    (initial : Bytes) (announces stopped : Bool) (handle : Option String) : Act Unit := do
  requireReachable
  let id ← nodeId nodeName
  let flag ← match handle with
    | some handle => flagId handle
    | none => addFlag { stopped }
  let cable ← addCable
  addPeer peer ⟨cable, .far⟩
  let fresh := (← lab).fresh
  modifyLab fun lab => { lab with fresh := fresh + 2 }
  let connection := Connection.start id link fresh config announces initial (← now)
  let number ← addAgent
    { machine := .connection connection, flag, published := .handshaking
      socket := some ⟨cable, .near⟩ }
  modifyLab fun lab => { lab with
    directory := { lab.directory with
      connections := lab.directory.connections.insert name number } }

def hasEnded (number : Nat) (world : World) : Bool :=
  (world.links.agents.get? number).any (·.machine.isEnded)

def hasPublished (number : Nat) (state : Transport.State) (world : World) : Bool :=
  (world.links.agents.get? number).any (·.published == state)

def endConnection (name : String) : Act Answer := do
  let (number, _) ← connectionAgent name
  awaiting (hasEnded number) do
    let (_, agent) ← connectionAgent name
    match agent.machine with
    | .connection { stage := .ended state, .. } => return .ended state agent.published
    | _ => return .brokeDown

def startServer (name nodeName : String) (config : Transport.Config) : Act Answer := do
  let id ← nodeId nodeName
  match Server.start id config with
  | .error error => return .refused error
  | .ok server =>
    let flag ← addFlag {}
    let hub ← addHub name {}
    let number := (← lab).fresh
    modifyLab fun lab =>
      { lab with
        fresh := number + 1
        servers := lab.servers.insert number { server, flag, hub }
        directory := { lab.directory with
          servers := lab.directory.servers.insert name number } }.wake (.server number)
    return .ok

/-- Waits for the end of a stopped server. The session does not hold it any more after that, and its
hub refuses. -/
def joinServer (name : String) : Act Answer := do
  let (number, task) ← serverTask name
  let isStopped (world : World) : Bool :=
    (world.links.servers.get? number).all (!·.server.running)
  awaiting isStopped do
    modifyLab fun lab => { lab with
      hubs := lab.hubs.insert task.hub { refusing := true }
      directory := { lab.directory with servers := lab.directory.servers.erase name } }
    return .joined

/-- Opens the hub that refused under a name, or else a new one. -/
def openHub (name : String) : Act Unit := do
  let known := (← lab).directory.hubs.get? name
  match known, known.bind (← lab).hubs.get? with
  | some id, some { refusing := true, .. } =>
    modifyLab fun lab => { lab with hubs := lab.hubs.insert id {} }
  | _, _ => let _ ← addHub name {}

def startClient (name nodeName hub link : String) (hint : Option String)
    (config : Transport.Config) (runtime : Bool) : Act Answer := do
  let id ← nodeId nodeName
  match Client.start id link hint config with
  | .error error => return .refused error
  | .ok client =>
    if !runtime then
      return .refused (.noRuntime runtimeAbsence)
    let hub ← hubId hub
    let flag ← addFlag {}
    let number ← addAgent
      { machine := .client client, flag, published := .connecting, remote := some hub }
    if let some earlier := (← lab).directory.clients.get? name then
      if let some agent := (← lab).agents.get? earlier then
        modifyLab (·.dropStop agent.flag)
    modifyLab fun lab => { lab with
      directory := { lab.directory with clients := lab.directory.clients.insert name number } }
    return .state .connecting

def connectPeer (name hub : String) : Act Unit := do
  let hub ← hubId hub
  requireReachable
  let cable ← addCable
  addPeer name ⟨cable, .near⟩
  modifyLab fun lab =>
    { lab with
      hubs := lab.hubs.modify hub fun found =>
        { found with backlog := found.backlog ++ [Socket.mk cable .far] } }.wakeAcceptor hub

def acceptPeer (name listener : String) : Act Answer := do
  let hub := (← lab).directory.hubs.get? listener
  let waiting (world : World) : List Socket :=
    (hub.bind world.links.hubs.get?).elim [] (·.backlog)
  awaiting (fun world => !(waiting world).isEmpty) do
    match waiting (← get) with
    | socket :: rest =>
      if let some id := hub then
        modifyLab fun lab => { lab with
          hubs := lab.hubs.modify id fun found => { found with backlog := rest } }
      addPeer name socket
      return .done
    | [] => return .overdue

end RobotBus.Simulation
