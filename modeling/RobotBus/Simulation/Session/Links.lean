import RobotBus.Simulation.Directory
import RobotBus.Simulation.Step

/-!
# Links of a session

Links of all kinds are made, joined to bridges, sent messages, and asked for what they have
received.
-/

namespace RobotBus.Simulation

/-! ## Making links -/

def scriptAction : ScriptStep → Act Action
  | .remove node name => return .remove (← nodeId node) name
  | .replace node link name => return .replace (← nodeId node) (← linkId link) name
  | .transmit node message => return .transmit (← nodeId node) message
  | .reply node source payload => return .reply (← nodeId node) source payload
  | .fault text => return .fault text
  | .stop handle => return .stop (← flagId handle)

def Breakdown.faultText : Breakdown → Message → Option String
  | text, _ => some "this link is broken"
  | sized, message =>
    match message.target with
    | none => some "broken for None"
    | some target => some s!"broken for Some({(Utf8.encode target).length})"
  | silent, _ => none

def LinkKind.make : LinkKind → Act Instance
  | recording keep => return .recorder keep .empty
  | faulty breakdown => return .faulty breakdown.faultText
  | tracing name inner => return .traced name (← linkId inner)
  | queue name length =>
    match Transport.SendQueue.create name length with
    | .ok made => return .queue made
    | .error fault => throw (.badCapacity fault)
  | reply manager => return .replies (← managerId manager)
  | script steps limit keep => do
    let actions ← steps.mapM scriptAction
    return .script { actions, limit, keep }

/-- Two links that lead to each other's node. The first binding stays if the second one fails. -/
def addBridge (a b nameA nameB : String) : Act Answer := do
  let nodeA ← nodeId a
  let nodeB ← nodeId b
  let fresh := (← lab).fresh
  let linkA ← addInstance (.bridge nodeB nameB (fresh + 1))
  let linkB ← addInstance (.bridge nodeA nameA linkA)
  match ← commit ((← get).replaceLink nodeA nameA linkA) with
  | .ok => commit ((← get).replaceLink nodeB nameB linkB)
  | answer => return answer

/-! ## Messages -/

/-- Gives a message to a link as a node would, without a node. -/
def sendTo (link : LinkId) (message : Message) : Act Answer := do
  let (world, operations, verdict) := (← get).react behave link message
  set world
  operations.forM perform
  match verdict with
  | .keep => return .flag true
  | .remove => return .flag false
  | .fault _ => return .brokeDown

def takeMessages (name : String) : Act Answer := do
  let (id, keep, received) ← recorder name
  modifyLab (·.setInstance id (.recorder keep .empty))
  return .messages received.toList

def takeQueued (name : String) : Act Answer := do
  let (id, queue) ← sendQueue name
  match queue.take? with
  | some (frame, queue) =>
    modifyLab (·.setInstance id (.queue queue))
    return .queued frame
  | none =>
    let world ← get
    return if queue.closed || !world.links.isHeld world.nodes id then .disconnected else .queueEmpty

end RobotBus.Simulation
