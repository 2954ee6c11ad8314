import RobotBus.Simulation.Act

/-!
# Turns of transports

A transport that gets its turn runs until it waits, and takes the inputs that have come for it. A
writer empties its queue into its socket, and a server accepts what waits for it.
-/

namespace RobotBus.Simulation

open Transport (Effect Input)

/-- Connects to a hub. Where nothing is reachable, every attempt is refused. -/
def connect (number : Nat) (agent : Agent) : Act Unit := do
  let lab ← lab
  let hub := agent.remote.bind lab.hubs.get?
  let answer (input : Input) (agent : Agent) : Agent :=
    { agent with inbox := agent.inbox ++ [input] }
  match lab.reachable, agent.remote, hub with
  | true, some id, some hub =>
    if hub.refusing then
      modifyLab fun lab => { lab with
        agents := lab.agents.insert number
          (answer (.refused "Connection refused (os error 111)") agent) }
    else
      let near : Socket := ⟨lab.fresh, .near⟩
      modifyLab fun lab => { lab with
        fresh := lab.fresh + 1
        cables := lab.cables.insert lab.fresh {}
        hubs := lab.hubs.insert id { hub with backlog := hub.backlog ++ [near.opposite] }
        agents := lab.agents.insert number
          (answer .connected { agent with socket := near }) }.wakeAcceptor id
  | _, _, _ =>
    modifyLab fun lab => { lab with
      agents := lab.agents.insert number
        (answer (.refused "Network is unreachable (os error 101)") agent) }

/-- Closes the socket of an agent. Its writer ends, and with it the queue of its link. -/
def closeSocket (number : Nat) (agent : Agent) : Act Unit := do
  if let some socket := agent.socket then
    let lab ← lab
    for (queue, task) in lab.writers.entries do
      if task.socket = some socket then
        modifyLab fun lab => { lab.disarm (.writer queue) with
          writers := lab.writers.erase queue }
        if let some (.queue sendQueue) := lab.instances[queue]? then
          modifyLab (·.setInstance queue (.queue sendQueue.close))
    modifyLab fun lab =>
      { lab with
        cables := lab.cables.close socket
        agents := lab.agents.insert number { agent with socket := none } }.wakeReader socket

/-- Makes the links of a connection and starts its writer. -/
def openLink (agent : Agent) (ends : Transport.Ends) (name : String)
    (config : Transport.Config) : Act Unit := do
  let moment ← now
  modifyLab fun lab =>
    let lab := lab.setInstance ends.queue
      (.queue { link := name, capacity := config.sendQueueLength })
    let lab := if ends.link = ends.queue then lab
      else lab.setInstance ends.link (.traced name ends.queue)
    let writer :=
      Transport.Writer.start name config.traceFrames config.keepaliveInterval ⟨0⟩ moment
    { lab with writers := lab.writers.insert ends.queue { writer, socket := agent.socket } }.wake
      (.writer ends.queue)

def spendPace : Act Unit :=
  modify fun world => { world with now := world.now + world.links.pace }

/-- Carries out an effect of an agent. -/
def effect (number : Nat) (change : Effect) : Act Unit := do
  let agent ← require "agent" ((← lab).agents.get? number)
  match change with
  | .note notice => note [notice]
  | .publish state =>
    modifyLab fun lab => { lab with
      agents := lab.agents.insert number { agent with published := state } }
  | .perform operation =>
    perform operation
    if let .transmit .. := operation then
      spendPace
  | .openLink ends name config => openLink agent ends name config
  | .connect =>
    connect number agent
    spendPace
  | .write bytes =>
    if let some socket := agent.socket then
      modifyLab fun lab =>
        { lab with cables := lab.cables.send socket bytes }.wakeReader socket
  | .close => closeSocket number agent

/-- What an agent can take next: an answer to its attempt to connect, a stop, what its socket has
received, or the moment until which it waits. -/
def nextInput (number : Nat) : Act (Option Input) := do
  let lab ← lab
  let agent ← require "agent" (lab.agents.get? number)
  let moment ← now
  match agent.inbox with
  | input :: inbox =>
    modifyLab fun lab => { lab with agents := lab.agents.insert number { agent with inbox } }
    return some input
  | [] =>
    if (lab.flags.get? agent.flag).any fun flag => flag.stopped || flag.dropped then
      return some .stop
    let due := agent.machine.deadline?.any fun deadline => Timer.isDue deadline moment
    let otherwise := if due then some Input.time else none
    match agent.socket with
    | none => return otherwise
    | some socket =>
      let input := (lab.cables.inbound socket).input?
      modifyLab fun lab => { lab with cables := lab.cables.clear socket }
      return input.or otherwise

/-- Runs an agent until it waits. -/
def runAgent (number : Nat) : Nat → Act Unit
  | 0 => throw .endless
  | fuel + 1 => do
    let lab ← lab
    let agent ← require "agent" (lab.agents.get? number)
    let moment ← now
    let stopped := lab.isStopped agent.flag
    let turn (step : Machine × List Effect) : Act Unit := do
      let agent ← require "agent" ((← Simulation.lab).agents.get? number)
      modifyLab fun lab => { lab with
        agents := lab.agents.insert number { agent with machine := step.1 } }
      step.2.forM (effect number)
    if agent.machine.isRunning then
      turn (agent.machine.proceed moment stopped)
      runAgent number fuel
    else if agent.machine.isEnded then
      modifyLab (·.disarm (.agent number))
    else
      match ← nextInput number with
      | some input =>
        modifyLab fun lab => { lab with fresh := lab.fresh + 2 }
        turn (agent.machine.receive moment lab.fresh input)
        runAgent number fuel
      | none =>
        match agent.machine.deadline? with
        | some deadline => modifyLab (·.arm (.agent number) deadline)
        | none => modifyLab (·.disarm (.agent number))

/-- Runs a writer until its queue is empty and no keepalive is due. -/
def runWriter (queue : LinkId) : Nat → Act Unit
  | 0 => throw .endless
  | fuel + 1 => do
    let lab ← lab
    let moment ← now
    match lab.writers.get? queue, lab.instances[queue]? with
    | some task, some (.queue sendQueue) =>
      let write (batch : Transport.Writer × Transport.SendQueue × List Notice) : Act Unit := do
        let (writer, sendQueue, notices) := batch
        note notices
        modifyLab fun lab =>
          let lab := lab.setInstance queue (.queue sendQueue)
          let lab := match task.socket with
            | some socket =>
              { lab with cables := lab.cables.send socket writer.outbox }.wakeReader socket
            | none => lab
          { lab with
            writers := lab.writers.insert queue
              { task with writer := writer.flush writer.outbox.length } }
        runWriter queue fuel
      if !sendQueue.frames.isEmpty then
        write (task.writer.takeQueued sendQueue)
      else if task.writer.isDue moment then
        write (task.writer.beat sendQueue moment)
      else if let some ticker := task.writer.ticker then
        modifyLab (·.arm (.writer queue) ticker.next)
    | _, _ => return

/-- Accepts all sockets that wait at a server, unless it was stopped. -/
def runServer (number : Nat) (task : ServerTask) : Act Unit := do
  if !task.server.running then
    return
  let lab ← lab
  if lab.isStopped task.flag then
    let (server, effects) := task.server.finish
    modifyLab fun lab => { lab with servers := lab.servers.insert number { task with server } }
    for change in effects do
      if let .note notice := change then
        note [notice]
  else
    let backlog := (lab.hubs.get? task.hub).elim [] (·.backlog)
    let mut server := task.server
    for socket in backlog do
      let (next, accepted) := server.accept
      server := next
      modifyLab fun lab =>
        { lab with
          fresh := lab.fresh + 1
          agents := lab.agents.insert lab.fresh
            { machine := .accepted accepted, flag := task.flag, published := .handshaking
              socket := some socket } }.wake (.agent lab.fresh)
    let last := server
    modifyLab fun lab => { lab with
      servers := lab.servers.insert number { task with server := last }
      hubs := lab.hubs.modify task.hub fun hub => { hub with backlog := [] } }

end RobotBus.Simulation
