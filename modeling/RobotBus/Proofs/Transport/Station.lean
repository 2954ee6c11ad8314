import RobotBus.Proofs.Routing.Execution
import RobotBus.Proofs.Routing.Indifference
import RobotBus.Proofs.Transport.Silence
import RobotBus.Simulation.Behaviour

/-!
# Stations

A station is a connection with all that it deals with: its links and the queue behind them, its
writer, and the nodes around it with links of all kinds. Everybody moves in any order. Messages are
sent to the link of the connection or to a node, nodes and links work on what they have to do, bytes
come in and go out, and time passes. That nobody interrupts a step of the connection is a premise. A
station keeps a record of what it has brought about. What comes in is handed to the node as a
message that the own link is left out of (`handsOn_run`).

The links of the connection are those of a laboratory (`Line.StandsIn.behave_line`). The other links
are given by a behaviour of their own, which sees the nodes but neither the log nor the queue.
-/

namespace RobotBus.Transport

open Wire (Frame Bases)

/-! ## Links -/

/-- The links of a connection in use, with the queue behind them. -/
structure Line where
  ends : Ends
  name : String
  queue : SendQueue
deriving DecidableEq, Repr

/-- What links keep: the line of the connection, and what all other links keep. -/
structure Desk (τ : Type) where
  line : Option Line := none
  others : τ

namespace Desk

variable {τ : Type}

/-- A message is offered to the queue of the line. -/
def offer (line : Line) (message : Message) (others : τ) : Reaction (Desk τ) :=
  let (queue, notices, verdict) := line.queue.offer message
  { links := ⟨some { line with queue }, others⟩, notices, verdict }

/-- A link that does not belong to the line does as it likes. It does not read the log. -/
def elsewhere (others : Behaviour τ) (net : Network (Desk τ)) (link : LinkId)
    (message : Message) : Reaction (Desk τ) :=
  let reaction := others ⟨net.nodes, net.now, [], net.links.others⟩ link message
  { links := ⟨net.links.line, reaction.links⟩
    notices := reaction.notices
    operations := reaction.operations
    verdict := reaction.verdict }

def behave (others : Behaviour τ) : Behaviour (Desk τ) := fun net link message =>
  match net.links.line with
  | none => elsewhere others net link message
  | some line =>
    if link = line.ends.queue then
      offer line message net.links.others
    else if link = line.ends.link then
      (offer line message net.links.others).traced line.name message
    else
      elsewhere others net link message

end Desk

/-- A line that was made in a laboratory: its queue, and the link in front of it if there is one. -/
structure Line.StandsIn (line : Line) (lab : Simulation.Lab) : Prop where
  queue : lab.instances[line.ends.queue]? = some (.queue line.queue)
  front : line.ends.link = line.ends.queue ∨ line.ends.queue < line.ends.link ∧
    lab.instances[line.ends.link]? = some (.traced line.name line.ends.queue)

namespace Line.StandsIn

variable {τ : Type} {line : Line} {world : Simulation.World} {net : Network (Desk τ)}

theorem instances_wakeWriter (lab : Simulation.Lab) (queue : LinkId) :
    (lab.wakeWriter queue).instances = lab.instances := by
  rw [Simulation.Lab.wakeWriter]
  split <;> rfl

/-- The queue of a line in a laboratory behaves as it does here. -/
theorem behave_queue (h : line.StandsIn world.links) (message : Message) (others : τ) :
    let reaction := Simulation.behave world line.ends.queue message
    let model := Desk.offer line message others
    reaction.notices = model.notices ∧ reaction.operations = model.operations ∧
      reaction.verdict = model.verdict ∧
      ∀ after, model.links.line = some after → after.StandsIn reaction.links := by
  intro reaction model
  have hReaction : reaction =
      { links := (world.links.setInstance line.ends.queue
          (.queue (line.queue.offer message).1)).wakeWriter line.ends.queue
        notices := (line.queue.offer message).2.1
        verdict := (line.queue.offer message).2.2 } := by
    simp only [reaction]
    rw [Simulation.behave]
    simp only [h.queue]
  rw [hReaction]
  refine ⟨rfl, rfl, rfl, fun after hAfter => ?_⟩
  obtain rfl := Option.some.inj hAfter
  constructor
  · rw [instances_wakeWriter]
    exact Std.TreeMap.getElem?_insert_self
  · refine h.front.imp_right fun ⟨hLess, hFront⟩ => ⟨hLess, ?_⟩
    rw [instances_wakeWriter]
    refine Std.TreeMap.getElem?_insert.trans ((if_neg ?_).trans hFront)
    exact fun hSame => Nat.ne_of_lt hLess (Std.LawfulEqCmp.eq_of_compare hSame)

/-- So do all links of a line. -/
theorem behave_line (h : line.StandsIn world.links) (hLine : net.links.line = some line)
    (others : Behaviour τ) {link : LinkId}
    (hLink : link = line.ends.queue ∨ link = line.ends.link) (message : Message) :
    let reaction := Simulation.behave world link message
    let model := Desk.behave others net link message
    reaction.notices = model.notices ∧ reaction.operations = model.operations ∧
      reaction.verdict = model.verdict ∧
      ∀ after, model.links.line = some after → after.StandsIn reaction.links := by
  intro reaction model
  obtain ⟨hNotices, hOthers⟩ := h.behave_queue message net.links.others
  by_cases hQueue : link = line.ends.queue
  · have hModel : model = Desk.offer line message net.links.others := by
      simp only [model, Desk.behave, hLine, if_pos hQueue]
    have hReaction : reaction = Simulation.behave world line.ends.queue message := by
      simp only [reaction, hQueue]
    rw [hModel, hReaction]
    exact ⟨hNotices, hOthers⟩
  · have hFront : link = line.ends.link := hLink.resolve_left hQueue
    obtain ⟨hLess, hInstance⟩ := h.front.resolve_left fun hSame => hQueue (hFront.trans hSame)
    have hModel : model = (Desk.offer line message net.links.others).traced line.name message := by
      simp only [model, Desk.behave, hLine, if_neg hQueue, if_pos hFront]
    have hReaction : reaction =
        (Simulation.behave world line.ends.queue message).traced line.name message := by
      simp only [reaction, hFront]
      rw [Simulation.behave]
      simp only [hInstance, if_pos hLess]
    rw [hModel, hReaction]
    exact ⟨congrArg _ hNotices, hOthers⟩

end Line.StandsIn

/-! ## Steps -/

/-- A connection with all that it deals with, and a record of what it has brought about. -/
structure Station (τ : Type) where
  connection : Connection
  net : Network (Desk τ)
  /-- The first checksum base of the writer. -/
  bases : Bases
  writer : Option Writer := none
  /-- What nodes and links still have to do. -/
  tasks : List Task := []
  /-- What nodes and links have done. -/
  deeds : List Deed := []
  /-- What the link of the connection has answered to those who sent it a message. -/
  verdicts : List Verdict := []
  written : Bytes := []
  states : List State := []

namespace Station

variable {τ : Type}

inductive Event
  /-- Somebody sends a message to the link of the connection. -/
  | send (message : Message)
  /-- Somebody asks a node for something. -/
  | ask (operation : Operation)
  /-- Nodes and links do one of their tasks. -/
  | work (index : Nat)
  | elapse (now : Moment)
  | proceed (stopped : Bool)
  | receive (input : Input)
  /-- The writer takes all that waits in the queue. -/
  | collect
  /-- The writer sends a keepalive, with all that waits in the queue behind it. -/
  | beat
  /-- The socket takes bytes of the writer. -/
  | flush (count : Nat)
  /-- The writer fails. -/
  | sever
deriving DecidableEq, Repr

def start (far : Endpoint) (leftover : Bytes) (bases : Bases) (net : Network τ) :
    Station τ where
  connection := far.connect leftover net.now
  net := { net with links := { others := net.links } }
  bases

def perform (others : Behaviour τ) (s : Station τ) (task : Task) : Station τ :=
  let (net, led) := s.net.step (Desk.behave others) task
  { s with net, tasks := s.tasks ++ led, deeds := s.deeds ++ [⟨task, led⟩] }

/-- Nobody takes messages from the queue any more. -/
def shut (s : Station τ) : Station τ :=
  { s with
    net := { s.net with
      links := { s.net.links with
        line := s.net.links.line.map fun line => { line with queue := line.queue.close } } }
    writer := none }

/-- Makes the links of the connection and starts its writer. -/
def openLine (s : Station τ) (ends : Ends) (name : String) (config : Config) : Station τ :=
  let queue : SendQueue := { link := name, capacity := config.sendQueueLength }
  { s with
    net := { s.net with links := { s.net.links with line := some ⟨ends, name, queue⟩ } }
    writer := some
      (.start name config.traceFrames config.keepaliveInterval s.bases s.net.now) }

def carryOut (others : Behaviour τ) (s : Station τ) : Effect → Station τ
  | .note notice => { s with net := s.net.note notice }
  | .publish state => { s with states := s.states ++ [state] }
  | .perform operation => s.perform others (.perform operation)
  | .openLink ends name config => s.openLine ends name config
  | .close => s.shut
  | .write bytes => { s with written := s.written ++ bytes }
  | .connect => s

/-- The connection has done something. -/
def act (others : Behaviour τ) (s : Station τ) (done : Connection × List Effect) : Station τ :=
  done.2.foldl (carryOut others) { s with connection := done.1 }

/-- The writer has begun a batch. -/
def load (s : Station τ) (line : Line) (batch : Writer × SendQueue × List Notice) : Station τ :=
  { s with
    net := { s.net with
      links := { s.net.links with line := some { line with queue := batch.2.1 } } }.noteAll
        batch.2.2
    writer := some batch.1 }

/-- A turn of the writer, if it has written everything and there is a reason for another batch. -/
def turn (s : Station τ) (ready : Writer → SendQueue → Bool)
    (batch : Writer → SendQueue → Writer × SendQueue × List Notice) : Station τ :=
  match s.writer, s.net.links.line with
  | some writer, some line =>
    if writer.isIdle && ready writer line.queue then s.load line (batch writer line.queue) else s
  | _, _ => s

def answer (others : Behaviour τ) (s : Station τ) (message : Message) : Station τ :=
  let (net, operations, verdict) :=
    s.net.react (Desk.behave others) s.connection.ends.link message
  { s with
    net
    tasks := s.tasks ++ operations.map .perform
    verdicts := s.verdicts ++ [verdict] }

/-- An event that is not possible changes nothing. -/
def step (others : Behaviour τ) (s : Station τ) : Event → Station τ
  | .send message => s.answer others message
  | .ask operation => s.perform others (.perform operation)
  | .work index =>
    match s.tasks[index]? with
    | none => s
    | some task => { s with tasks := s.tasks.eraseIdx index }.perform others task
  | .elapse now => { s with net := { s.net with now } }
  | .proceed stopped => s.act others (s.connection.proceed s.net.now stopped)
  | .receive input => s.act others (s.connection.receive s.net.now input)
  | .collect => s.turn (fun _ queue => !queue.frames.isEmpty) Writer.takeQueued
  | .beat =>
    s.turn (fun writer _ => writer.isDue s.net.now) fun writer queue =>
      writer.beat queue s.net.now
  | .flush count =>
    match s.writer with
    | none => s
    | some writer =>
      { s with
        writer := some (writer.flush count)
        written := s.written ++ writer.outbox.take count }
  | .sever => s.shut

def run (others : Behaviour τ) (s : Station τ) (events : List Event) : Station τ :=
  events.foldl (step others) s

/-! ## Frames that come in -/

/-- A frame that is read is handed to the node as a message. If the message is for everyone, then it
does not go back to the link of the connection. -/
def HandsOn (others : Behaviour τ) (far : Endpoint) (s : Station τ) : Prop :=
  ∀ frame rest, s.connection.stage = .reading →
    (Frame.decoder far.config.maxPayloadLength).decode s.connection.buffer = .item frame rest →
    ∃ led, (s.step others (.proceed false)).deeds =
        s.deeds ++ [⟨.perform (far.delivery frame), led⟩] ∧
      (frame.target = some Path.everyone →
        ∀ id name message reach, .send id name far.ends.link message reach ∉ led)

section

variable {others : Behaviour τ} {far : Endpoint} {s : Station τ}

theorem connection_carryOut (others : Behaviour τ) (s : Station τ) (effects : List Effect) :
    (effects.foldl (carryOut others) s).connection = s.connection := by
  induction effects generalizing s with
  | nil => rfl
  | cons effect effects ih =>
    refine (ih (s.carryOut others effect)).trans ?_
    cases effect with
    | note notice | publish state | perform operation | openLink ends name config => rfl
    | connect | write bytes | close => rfl

theorem carryOut_notes (others : Behaviour τ) (s : Station τ) (notices : List Notice) :
    (notices.map .note).foldl (carryOut others) s = { s with net := s.net.noteAll notices } := by
  induction notices generalizing s with
  | nil => rfl
  | cons notice notices ih => exact ih { s with net := s.net.note notice }

/-- A node does what it is asked to, whatever is written to the log before. -/
theorem deeds_act (others : Behaviour τ) (s : Station τ) (connection : Connection)
    (notices : List Notice) (operation : Operation) :
    ∃ net : Network (Desk τ),
      (s.act others (connection, notices.map .note ++ [.perform operation])).deeds =
        s.deeds ++ [⟨.perform operation, (net.perform operation).2⟩] := by
  rw [act, List.foldl_append, carryOut_notes]
  exact ⟨s.net.noteAll notices, rfl⟩

theorem connection_turn (s : Station τ) (ready : Writer → SendQueue → Bool)
    (batch : Writer → SendQueue → Writer × SendQueue × List Notice) :
    (s.turn ready batch).connection = s.connection := by
  rw [turn]
  split
  · split <;> rfl
  · rfl

/-- Only the connection itself changes what it is. -/
theorem serves_step (h : far.Serves s.connection) (event : Event) :
    far.Serves (s.step others event).connection := by
  cases event with
  | proceed stopped =>
    rw [step, act, connection_carryOut]
    exact (h.proceed s.net.now stopped).1
  | receive input =>
    rw [step, act, connection_carryOut]
    exact h.receive_any s.net.now input
  | collect =>
    rw [step, connection_turn]
    exact h
  | beat =>
    rw [step, connection_turn]
    exact h
  | work index =>
    rw [step]
    split
    · exact h
    · exact h
  | flush count =>
    rw [step]
    split
    · exact h
    · exact h
  | send message | ask operation | elapse now | sever => exact h

theorem serves_run (h : far.Serves s.connection) (events : List Event) :
    far.Serves (s.run others events).connection := by
  induction events generalizing s with
  | nil => exact h
  | cons event events ih => exact ih (serves_step h event)

theorem handsOn_of_serves (h : far.Serves s.connection) : s.HandsOn others far := by
  intro frame rest hStage hItem
  have hProceed : s.connection.proceed s.net.now false =
      s.connection.dispatch frame rest s.net.now := by
    rw [Connection.proceed, hStage]
    simp only [Bool.false_eq_true, if_false, Connection.read, h.config_eq, hItem]
  have hOperation : Operation.transmit s.connection.node (s.connection.inbound frame)
      (some s.connection.ends.link) = far.delivery frame := by
    rw [Connection.inbound, h.node_eq, h.name_eq, h.ends_eq]
    rfl
  rw [step, hProceed, Connection.dispatch, hOperation]
  obtain ⟨net, hDeeds⟩ := deeds_act others s _ _ (far.delivery frame)
  refine ⟨_, hDeeds, fun hEveryone id name message reach hSent => ?_⟩
  refine (Network.linkAt_of_sent hSent).2 ?_
  rw [Endpoint.delivery, Operation.denied?, if_pos hEveryone]

/-- **What comes in for everyone does not go back.** -/
theorem handsOn_run (others : Behaviour τ) (far : Endpoint) (leftover : Bytes) (bases : Bases)
    (net : Network τ) (events : List Event) :
    ((start far leftover bases net).run others events).HandsOn others far :=
  handsOn_of_serves (serves_run (.connect far leftover net.now) events)

end

end Station

end RobotBus.Transport
