import RobotBus.Simulation.Session.Calls
import RobotBus.Simulation.Session.Links
import RobotBus.Simulation.Session.Peers
import RobotBus.Simulation.Session.Transports

/-!
# Sessions

A session performs its steps one after the other in one world. On a paused clock everything that a
step has started runs until it waits, and each answer comes with the log since the answer before. On
a running clock only the steps that wait for something let other things run, and a step of its own
shows the log.
-/

namespace RobotBus.Simulation

open Transport (Connection)

/-! ## Logs -/

/-- The line of a notice on a running clock, where it does not show how long a message took. -/
def timelessLine : Notice → String
  | .slowDispatch source target _ payload =>
    Level.warn.label ++ " " ++ Notice.slowDispatchText source target "_" payload
  | notice => notice.line

/-- Whether a running clock shows a notice, whose moment may depend on the machine. -/
def isShown : Notice → Bool
  | .keepaliveDetected _ | .frameSent .. | .frameReceived .. | .keepaliveReceived _ => true
  | notice => notice.level.detail ≤ Level.warn.detail

def sorted (lines : List String) : List String :=
  lines.mergeSort fun a b => decide (a ≤ b)

/-- The lines since the last call, up to a level of detail. -/
def takeLines (clock : Clock) (detail : Nat) : Act (List String) := do
  let notices := (← get).log.filter fun notice => decide (notice.level.detail ≤ detail)
  modify fun world => { world with log := [] }
  match clock with
  | .paused => return sorted (notices.map (·.line))
  | .running => return sorted ((notices.filter isShown).map timelessLine)

/-! ## Steps -/

structure Settings where
  clock : Clock
  /-- The detail of the log. -/
  detail : Nat
  reachable : Bool
deriving DecidableEq, Repr

def performStep (settings : Settings) : Step → Act Answer
  | .node id => do addNode id; return .done
  | .dropNode id => do
    modifyLab fun lab => { lab with
      directory := { lab.directory with nodes := lab.directory.nodes.erase id } }
    return .done
  | .link id kind => do
    let link ← addInstance (← kind.make)
    nameLink id link
    match kind with
    | .recording .. => nameRecorder id link
    | .queue .. => nameQueue id link
    | _ => pure ()
    return .done
  | .dropLink id => do
    modifyLab fun lab => { lab with
      directory := { lab.directory with links := lab.directory.links.erase id } }
    return .done
  | .bridge a b nameA nameB => addBridge a b nameA nameB
  | .add nodeName link name => do
    commit ((← get).addLink (← nodeId nodeName) name (← linkId link))
  | .replace nodeName link name => do
    commit ((← get).replaceLink (← nodeId nodeName) name (← linkId link))
  | .remove nodeName name => do
    let (id, found) ← node nodeName
    perform (.remove id name)
    return .flag (found.hasLink name)
  | .removeIf nodeName name link => do
    let (id, found) ← node nodeName
    let link ← linkId link
    perform (.removeIf id name link)
    return .flag (found.binds name link)
  | .has nodeName name => do return .flag ((← node nodeName).2.hasLink name)
  | .names nodeName => do return .names (← node nodeName).2.names
  | .nameOf nodeName link => do return .name ((← node nodeName).2.nameOf (← linkId link))
  | .transmit nodeName message deny => do
    perform (.transmit (← nodeId nodeName) message (← denied deny))
    return .done
  | .broadcast nodeName source payload deny => do
    perform (.broadcast (← nodeId nodeName) ⟨none, source, payload⟩ (← denied deny))
    return .done
  | .announce nodeName => do perform (Connection.announcement (← nodeId nodeName)); return .done
  | .subscribe nodeName name counter => do
    let link ← addInstance (.subscription counter)
    commit ((← get).addLink (← nodeId nodeName) name link)
  | .count counter => do return .number (((← lab).counters.get? counter).getD 0)
  | .send link message => do sendTo (← linkId link) message
  | .take link => takeMessages link
  | .countReceived link => do return .number (← recorder link).2.2.size
  | .expect link message => do
    let (id, keep, received) ← recorder link
    match received.pop? with
    | none => return .brokeDown
    | some (oldest, received) =>
      modifyLab (·.setInstance id (.recorder keep received))
      return if oldest = message then .ok else .brokeDown
  | .expectNothing link => do
    return if (← recorder link).2.2.isEmpty then .ok else .brokeDown
  | .wait link count limit => do
    let (id, _) ← recorder link
    let _ ← awaitUntil batchSize (some ((← now) + limit)) fun world =>
      match world.links.instances[id]? with
      | some (.recorder _ received) => count ≤ received.size
      | _ => false
    takeMessages link
  | .takeQueued link => takeQueued link
  | .closeQueue link => do
    let (id, queue) ← sendQueue link
    modifyLab (·.setInstance id (.queue queue.close))
    return .done
  | .manager id nodeName => askManager id nodeName
  | .newManager id nodeName endpoint => do
    let home ← match nodeName with
      | some name => some <$> nodeId name
      | none => pure none
    nameManager id (← addManager home endpoint)
    return .done
  | .dropManager id => do
    modifyLab fun lab => { lab with
      directory := { lab.directory with managers := lab.directory.managers.erase id } }
    return .done
  | .invoke id manager target arguments timeout => do
    startCall id manager target arguments timeout
    return .done
  | .isFinished id => do return .flag (isOver (← callTask id).2)
  | .countPending manager => do
    let id ← managerId manager
    return .number (← require "manager" ((← lab).managers.get? id)).pendingCount
  | .result id => awaitCall settings.clock id
  | .abort id => abortCall id
  | .publish nodeName name work delay runtime => publish nodeName name work delay runtime
  | .advance duration => do pass duration; return .done
  | .handle id => do
    let flag ← addFlag {}
    modifyLab fun lab => { lab with
      directory := { lab.directory with flags := lab.directory.flags.insert id flag } }
    return .done
  | .connection id peer nodeName name config initial announces stopped handle => do
    startConnection id peer nodeName name config initial announces stopped handle
    return .done
  | .awaitConnection id state => do
    let (number, _) ← connectionAgent id
    awaiting (hasPublished number state) (return .ok)
  | .stopConnection id => do
    let (_, agent) ← connectionAgent id
    modifyLab (·.stop agent.flag)
    return .done
  | .dropConnectionStop id => do
    let (_, agent) ← connectionAgent id
    modifyLab (·.dropStop agent.flag)
    return .done
  | .endConnection id => endConnection id
  | .server id nodeName config => startServer id nodeName config
  | .stopServer id => do
    let (_, task) ← serverTask id
    modifyLab (·.stop task.flag)
    return .done
  | .joinServer id => joinServer id
  | .listen id => do openHub id; return .done
  | .reserve id => do
    let _ ← addHub id { refusing := true }
    return .done
  | .accept id listener => acceptPeer id listener
  | .connect id hub => do connectPeer id hub; return .done
  | .client id nodeName hub name hint config runtime =>
    startClient id nodeName hub name hint config runtime
  | .awaitClient id state => do
    let (number, _) ← clientAgent id
    awaiting (hasPublished number state) (return .ok)
  | .stopClient id => do
    let (_, agent) ← clientAgent id
    modifyLab (·.stop agent.flag)
    return .done
  | .joinClient id => do
    let (number, _) ← clientAgent id
    awaiting (hasEnded number) do
      return .state (← clientAgent id).2.published
  | .peerSend name bytes => do
    let found ← peer name
    found.act fun cables socket => cables.send socket bytes
    settle
    return .ok
  | .peerRead name count => peerRead name count
  | .peerFrames name count keepalives => peerFrames name count keepalives
  | .peerEnd name => peerEnd name
  | .peerShutDown name => do
    let found ← peer name
    found.act (·.shutDown)
    return .done
  | .peerClose name => do
    let found ← peer name
    found.act (·.close)
    return .done
  | .peerReset name => do
    let found ← peer name
    found.act (·.reset)
    return .done
  | .awaitLink nodeName name bound => do
    let id ← nodeId nodeName
    watching (fun world => (world.nodes.get? id).any (·.hasLink name == bound)) (return .ok)
  | .logs => do return .lines (← takeLines settings.clock settings.detail)

/-- A step with what it has started on a paused clock, and the log since the step before. -/
def performWhole (settings : Settings) (step : Step) : Act (Answer × List String) := do
  modify collect
  let answer ← performStep settings step
  match settings.clock with
  | .running => return (answer, [])
  | .paused =>
    modify collect
    settle
    modify collect
    return (answer, ← takeLines settings.clock settings.detail)

/-- Where a clock stands at first. A running clock is never looked at just when a millisecond begins,
so that no timer on it is due as soon as it is set. -/
def Clock.start : Clock → Moment
  | .paused => 0
  | .running => 1000

def newWorld (settings : Settings) : World where
  nodes := .empty
  now := settings.clock.start
  log := []
  links := {
    reachable := settings.reachable
    pace := match settings.clock with
      | .paused => 0
      | .running => 1000 }

/-- The answers to all steps of a session. -/
def runSession (settings : Settings) (steps : List Step) :
    Except Abort (List (Answer × List String)) :=
  (steps.mapM (performWhole settings)).run' (newWorld settings)

end RobotBus.Simulation
