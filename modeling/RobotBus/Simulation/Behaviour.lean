import RobotBus.Simulation.World

/-!
# Behaviour of links

What each kind of link does with a message. Links change the state that they keep at once; their
operations on nodes are performed by the network.
-/

namespace RobotBus.Simulation

/-- The operation of an action on a received message. -/
def Action.operation? (received : Message) : Action → Option Operation
  | remove node name => some (.remove node name)
  | replace node link name => some (.replace node name link)
  | transmit node message => some (.transmit node message none)
  | reply node source payload => some (.transmit node ⟨received.source, source, payload⟩ none)
  | fault _ | stop _ => none

namespace Script

/-- The text of the fault that ends the actions, if one does. -/
def faultText? : List Action → Option String
  | [] => none
  | .fault text :: _ => some text
  | _ :: actions => faultText? actions

/-- The actions up to a fault. -/
def beforeFault : List Action → List Action
  | [] => []
  | .fault _ :: _ => []
  | action :: actions => action :: beforeFault actions

end Script

def reactScript (lab : Lab) (link : LinkId) (script : Script) (message : Message) :
    Reaction Lab :=
  let verdict := if script.keep then Verdict.keep else .remove
  if script.played < script.limit then
    let actions := Script.beforeFault script.actions
    let lab := lab.setInstance link (.script { script with played := script.played + 1 })
    let stopped := actions.foldl (fun lab action => match action with
      | .stop flag => lab.stop flag
      | _ => lab) lab
    { links := stopped
      operations := actions.filterMap (·.operation? message)
      verdict := match Script.faultText? script.actions with
        | some text => .fault (some text)
        | none => verdict }
  else
    { links := lab, verdict }

def reactProcedure (lab : Lab) (procedure : Calls.Procedure) (message : Message) : Reaction Lab :=
  match procedure.receive message with
  | (notices, none) => { links := lab, notices }
  | (notices, some run) =>
    let started := { lab with
      runs := lab.runs.insert lab.fresh { run }
      fresh := lab.fresh + 1 }
    { links := started.wake (.run lab.fresh), notices }

/-- What each link does with a message. A link that leaves its message to another one was made after
that one. -/
def behave (world : World) (link : LinkId) (message : Message) : Reaction Lab :=
  let lab := world.links
  match lab.instances[link]? with
  | none => { links := lab }
  | some (.recorder keep received) =>
    { links := lab.setInstance link (.recorder keep (received.push message))
      verdict := if keep then .keep else .remove }
  | some (.faulty fault) => { links := lab, verdict := .fault (fault message) }
  | some (.traced name inner) =>
    if inner < link then
      (behave world inner message).traced name message
    else
      { links := lab }
  | some (.queue queue) =>
    let (queue, notices, verdict) := queue.offer message
    { links := (lab.setInstance link (.queue queue)).wakeWriter link, notices, verdict }
  | some (.replies manager) =>
    match lab.managers.get? manager with
    | none => { links := lab, verdict := .remove }
    | some found =>
      let (found, notices) := found.receive message world.now
      { links := { lab with managers := lab.managers.insert manager found }.wakeCalls manager
        notices }
  | some (.script script) => reactScript lab link script message
  | some (.bridge far name farLink) =>
    if world.nodes.contains far then
      { links := lab
        operations := [.transmit far
          ⟨message.target, some (Path.through name message.source), message.payload⟩
          (some farLink)] }
    else
      { links := lab, verdict := .remove }
  | some (.subscription counter) =>
    if message.target = some Path.everyone ∧ message.payload = Payload.notification then
      { links := { lab with
          counters := lab.counters.insert counter ((lab.counters.get? counter).getD 0 + 1) } }
    else
      { links := lab }
  | some (.procedure procedure) => reactProcedure lab procedure message
termination_by link

end RobotBus.Simulation
