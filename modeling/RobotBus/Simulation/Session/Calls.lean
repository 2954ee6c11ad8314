import RobotBus.Simulation.Directory
import RobotBus.Simulation.Step

/-!
# Calls of a session

Managers are asked for or made, procedures are published, and calls are started, awaited and
aborted.
-/

namespace RobotBus.Simulation

/-- The manager of a node, which is made and bound when it is asked for the first time. -/
def ownManager (node : NodeId) : Act ManagerId := do
  match (← lab).endpoints.get? node with
  | some id => return id
  | none =>
    let endpoint := Calls.Manager.defaultEndpoint
    let id ← addManager (some node) endpoint
    let link ← addInstance (.replies id)
    note [.endpointCreated endpoint]
    if ((← get).nodes.get? node).any (·.hasLink endpoint) then
      note [.endpointReplacedLink endpoint]
    modify (·.updateNode node (·.overwrite endpoint link))
    modifyLab fun lab => { lab with endpoints := lab.endpoints.insert node id }
    return id

def askManager (name nodeName : String) : Act Answer := do
  let before := (← lab).directory.managers.get? name
  let id ← ownManager (← nodeId nodeName)
  nameManager name id
  let manager ← require "manager" ((← lab).managers.get? id)
  return .manager manager.endpoint manager.defaultTimeout (before.map (· == id))

def startCall (name manager target : String) (arguments : Bytes) (timeout : Option Duration) :
    Act Unit := do
  let manager ← managerId manager
  let number := (← lab).fresh
  modifyLab fun lab =>
    { lab with
      fresh := number + 1
      calls := lab.calls.insert number { manager, stage := .queued target arguments timeout }
      directory := { lab.directory with calls := lab.directory.calls.insert name number } }.wake
        (.call number)

def isOver (task : CallTask) : Bool :=
  match task.stage with
  | .ended _ => true
  | _ => false

def awaitCall (clock : Clock) (name : String) : Act Answer := do
  let (number, _) ← callTask name
  let moment ← now
  let deadline := match clock with
    | .paused => none
    | .running => some (moment + waitLimit)
  let inTime ← awaitTold deadline fun world => (world.links.calls.get? number).any isOver
  let (_, task) ← callTask name
  match inTime, task.stage with
  | true, .ended (some outcome) => return .outcome outcome (← now)
  | true, _ => return .brokeDown
  | false, _ => return .overdue

/-- Aborts a call that is not over, and waits for its end. -/
def abortCall (name : String) : Act Answer := do
  let (number, task) ← callTask name
  if !isOver task then
    setCall number { task with aborted := true }
    modifyLab (·.wake (.call number))
    let _ ← awaitTold none fun world => (world.links.calls.get? number).any isOver
  return .flag (!isOver task)

def publish (nodeName name : String) (work : Work) (delay : Option Duration) (runtime : Bool) :
    Act Answer := do
  let id ← nodeId nodeName
  if runtime then
    let link ← addInstance (.procedure { node := id, name, delay, respond := work.respond })
    commit ((← get).addLink id name link)
  else
    return .failed (.noRuntime runtimeAbsence)

end RobotBus.Simulation
