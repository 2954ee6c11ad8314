import RobotBus.Message
import RobotBus.Notice
import RobotBus.Routing.Node

/-!
# Networks

Nodes that route messages, and links that may send further messages or change the nodes while they
handle one. What a link does with a message is given by a `Behaviour`: it changes the state that
the links keep, names the operations that the link performs, in order, and ends with a verdict.
Routing is a machine on a stack of tasks: the operations of a link come before everything that was
to be done before it was called.
-/

namespace RobotBus

/-- Whether a message was addressed to one link or is for everyone. -/
inductive Reach
  | direct
  | everyone
deriving DecidableEq, Repr

/-- An operation on a node. -/
inductive Operation
  | transmit (node : NodeId) (message : Message) (deny : Option LinkId)
  | broadcast (node : NodeId) (message : Message) (deny : Option LinkId)
  | add (node : NodeId) (name : String) (link : LinkId)
  | replace (node : NodeId) (name : String) (link : LinkId)
  | remove (node : NodeId) (name : String)
  | removeIf (node : NodeId) (name : String) (link : LinkId)
deriving DecidableEq, Repr

/-- The nodes, the clock and the log, with the state `σ` that the links keep. -/
structure Network (σ : Type) where
  nodes : Bindings NodeId Node
  now : Moment
  log : List Notice
  links : σ

/-- What a link does when it is sent a message. -/
structure Reaction (σ : Type) where
  links : σ
  notices : List Notice := []
  operations : List Operation := []
  verdict : Verdict := .keep

/-- The reaction of a link that shows each message in the log and leaves it to the link behind. -/
def Reaction.traced {σ : Type} (reaction : Reaction σ) (name : String) (message : Message) :
    Reaction σ :=
  { reaction with
    notices := .frameSent message.source (Path.through name message.target) message.payload
      :: reaction.notices }

/-- How each link reacts to each message in each state of the network. -/
abbrev Behaviour (σ : Type) := Network σ → LinkId → Message → Reaction σ

inductive Task
  | perform (operation : Operation)
  | send (node : NodeId) (name : String) (link : LinkId) (message : Message) (reach : Reach)
  | settle (node : NodeId) (name : String) (link : LinkId) (target : Option String) (reach : Reach)
      (verdict : Verdict)
deriving DecidableEq, Repr

namespace Network

variable {σ : Type}

def note (net : Network σ) (notice : Notice) : Network σ :=
  { net with log := notice :: net.log }

def noteAll (net : Network σ) (notices : List Notice) : Network σ :=
  notices.foldl note net

def setNode (net : Network σ) (id : NodeId) (node : Node) : Network σ :=
  { net with nodes := net.nodes.insert id node }

def updateNode (net : Network σ) (id : NodeId) (f : Node → Node) : Network σ :=
  { net with nodes := net.nodes.modify id f }

/-- Tells about the replacement of a link, and binds the name to the new one. -/
def replaceLink (net : Network σ) (id : NodeId) (name : String) (link : LinkId) :
    Except BusError (Network σ) :=
  match net.nodes.get? id with
  | none => .ok net
  | some node => do
    let changed ← node.replace name link
    let net := net.setNode id changed
    return if node.hasLink name then net.note (.replacedLink name) else net

def addLink (net : Network σ) (id : NodeId) (name : String) (link : LinkId) :
    Except BusError (Network σ) :=
  match net.nodes.get? id with
  | none => .ok net
  | some node => net.setNode id <$> node.add name link

/-- A message for everyone goes to each link that is bound now, other than `deny`. -/
def broadcastTasks (id : NodeId) (node : Node) (message : Message) (deny : Option LinkId) :
    List Task :=
  (node.links.entries.filter fun e => deny ≠ some e.2).map fun e =>
    .send id e.1 e.2 { message with target := some Path.everyone } .everyone

/-- A message to a missing link is answered with a negative acknowledgement if it is reported. -/
def missing (net : Network σ) (id : NodeId) (node : Node) (target head : String)
    (message : Message) : Network σ × List Task :=
  let (reported, reporter) := node.reporter.report target head message.payload net.now
  let net := net.setNode id { node with reporter }
  if reported then
    (net.note (.missingLink target head message.source),
      [.perform (.transmit id ⟨message.source, some target, Payload.negativeAck⟩ none)])
  else
    (net, [])

/-- Routes a message at a node: to nobody, to everyone, or along the first segment of its target. -/
def transmitTasks (net : Network σ) (id : NodeId) (node : Node) (message : Message)
    (deny : Option LinkId) : Network σ × List Task :=
  match message.target with
  | none =>
    if Payload.isNegativeAck message.payload then (net, [])
    else (net.note (.unaddressed message.source), [])
  | some target =>
    if target = Path.everyone then
      (net, broadcastTasks id node message deny)
    else
      let (head, rest) := Path.split target
      match node.links.get? head with
      | none => net.missing id node target head message
      | some link => (net, [.send id head link { message with target := rest } .direct])

/-- Performs an operation, as far as its node exists. Operations of links have no result. -/
def perform (net : Network σ) : Operation → Network σ × List Task
  | .transmit id message deny =>
    match net.nodes.get? id with
    | none => (net, [])
    | some node => net.transmitTasks id node message deny
  | .broadcast id message deny =>
    match net.nodes.get? id with
    | none => (net, [])
    | some node => (net, broadcastTasks id node message deny)
  | .add id name link => ((net.addLink id name link).toOption.getD net, [])
  | .replace id name link => ((net.replaceLink id name link).toOption.getD net, [])
  | .remove id name => (net.updateNode id (·.remove name), [])
  | .removeIf id name link => (net.updateNode id (·.removeIf name link), [])

/-- After a link has handled a message: a link that asked for it is removed from the name under
which it was called, unless that is bound to another link by now. -/
def settle (net : Network σ) (id : NodeId) (name : String) (link : LinkId) (target : Option String)
    (reach : Reach) : Verdict → Network σ
  | .keep => net
  | .fault text => net.note (.linkFault name target text)
  | .remove =>
    let notice := match reach with
      | .direct => Notice.removalAsked name
      | .everyone => Notice.removalAskedInBroadcast name
    (net.note notice).updateNode id (·.removeIf name link)

/-- Lets a link handle a message, up to the operations that it performs. -/
def react (net : Network σ) (behaviour : Behaviour σ) (link : LinkId) (message : Message) :
    Network σ × List Operation × Verdict :=
  let reaction := behaviour net link message
  ({ net with links := reaction.links }.noteAll reaction.notices, reaction.operations,
    reaction.verdict)

/-- One task, with the tasks that have to be done right after it. -/
def step (behaviour : Behaviour σ) (net : Network σ) : Task → Network σ × List Task
  | .perform operation => net.perform operation
  | .send id name link message reach =>
    let (net, operations, verdict) := net.react behaviour link message
    (net, operations.map .perform ++ [.settle id name link message.target reach verdict])
  | .settle id name link target reach verdict =>
    (net.settle id name link target reach verdict, [])

/-- Does all tasks, if `fuel` steps are enough. -/
def run (behaviour : Behaviour σ) : Nat → Network σ → List Task → Option (Network σ)
  | _, net, [] => some net
  | 0, _, _ :: _ => none
  | fuel + 1, net, task :: tasks =>
    let (net, new) := net.step behaviour task
    run behaviour fuel net (new ++ tasks)

end Network

end RobotBus
