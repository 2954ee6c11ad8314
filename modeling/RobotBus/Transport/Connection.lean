import RobotBus.Keepalive
import RobotBus.Routing.Network
import RobotBus.Timer
import RobotBus.Transport.Config

/-!
# Connections

A connection after the handshake. It registers its link, tells the network if it was asked to, and
then hands the frames of its peer to the node, one after the other. Between two frames it looks
whether it was stopped. When it ends, for whatever reason, its link is removed and its last state is
published.

A connection is a machine that shares nothing with its surroundings: `proceed` is what it does by
itself, `receive` what it does with an input that it has waited for, and both tell the effects on
the surroundings in order.
-/

namespace RobotBus.Transport

open Wire (Frame)

/-- The links of a connection: the one that queues messages, and the one that is bound to a name,
which may be another one in front of it. -/
structure Ends where
  queue : LinkId
  link : LinkId
deriving DecidableEq, Repr

/-- The links of a new connection, of numbers from `fresh` on. Tracing puts a link in front. -/
def Ends.ofFresh (fresh : LinkId) (traced : Bool) : Ends :=
  ⟨fresh, if traced then fresh + 1 else fresh⟩

/-- What a transport does to its surroundings. -/
inductive Effect
  | note (notice : Notice)
  | publish (state : State)
  | perform (operation : Operation)
  /-- Makes the links of a connection, and a writer for what they queue. -/
  | openLink (ends : Ends) (name : String) (config : Config)
  | connect
  | write (bytes : Bytes)
  /-- Closes the socket and ends the writer. -/
  | close
deriving DecidableEq, Repr

/-- What a transport waits for. -/
inductive Input
  | stop
  | connected
  | refused (cause : String)
  | received (bytes : Bytes)
  | endOfStream
  /-- An error of the socket, which may be a regular end. -/
  | broken (cause : String) (regular : Bool)
  /-- The moment has come until which it waits. -/
  | time
deriving DecidableEq, Repr

inductive Connection.Stage
  | opening
  | reading
  | dispatched (frame : Frame) (since : Moment)
  | waiting (pollEnd : Moment)
  | ended (state : State)
deriving DecidableEq, Repr

structure Connection where
  node : NodeId
  name : String
  ends : Ends
  config : Config
  announces : Bool
  buffer : Bytes
  monitor : Keepalive.Monitor
  stage : Connection.Stage
deriving DecidableEq, Repr

namespace Connection

/-- A connection that is about to register. `leftover` was received behind the header. -/
def start (node : NodeId) (name : String) (fresh : LinkId) (config : Config) (announces : Bool)
    (leftover : Bytes) (now : Moment) : Connection where
  node
  name
  ends := .ofFresh fresh config.traceFrames
  config
  announces
  buffer := leftover
  monitor := .start config.keepaliveTimeout now
  stage := .opening

def isEnded (connection : Connection) : Bool :=
  match connection.stage with
  | .ended _ => true
  | _ => false

/-- The announcement that the network has changed. -/
def announcement (node : NodeId) : Operation :=
  .transmit node ⟨some Path.everyone, some Path.modificationSource, Payload.notification⟩ none

/-- Ends a connection that was registered. -/
def finish (connection : Connection) (state : State) (notice : Notice) :
    Connection × List Effect :=
  ({ connection with stage := .ended state },
    [.close, .perform (.removeIf connection.node connection.name connection.ends.link),
      .note notice, .publish state])

/-- Ends a connection that was never registered. -/
def giveUp (connection : Connection) (state : State) (notice : Notice) :
    Connection × List Effect :=
  ({ connection with stage := .ended state }, [.note notice, .publish state, .close])

/-- Registers the link under its name, whatever was bound to it before. -/
def register (connection : Connection) : Connection × List Effect :=
  if Path.isLinkName connection.name then
    ({ connection with stage := .reading },
      [.openLink connection.ends connection.name connection.config,
        .perform (.replace connection.node connection.name connection.ends.link),
        .publish .active, .note (.connectionActive connection.name)]
      ++ if connection.announces then [.perform (announcement connection.node)] else [])
  else
    connection.giveUp .failed
      (.notRegistered connection.name (BusError.invalidLinkName connection.name).message)

/-- What the log shows of a received frame. -/
def traceOf (connection : Connection) (frame : Frame) : List Notice :=
  if connection.config.traceFrames then
    if frame.isKeepalive then [.keepaliveReceived connection.name]
    else [.frameReceived connection.name frame.source frame.target frame.payload]
  else
    []

/-- A received frame as a message of the own node: answers go back through this connection. -/
def inbound (connection : Connection) (frame : Frame) : Message :=
  ⟨frame.target, some (Path.through connection.name frame.source), frame.payload⟩

/-- Hands a frame to the node. A message for everyone does not go back to the peer. -/
def dispatch (connection : Connection) (frame : Frame) (rest : Bytes) (now : Moment) :
    Connection × List Effect :=
  let detected :=
    if connection.monitor.isFirst frame.isKeepalive then [.keepaliveDetected connection.name]
    else []
  ({ connection with
      buffer := rest
      monitor := connection.monitor.receive frame.isKeepalive now
      stage := .dispatched frame now },
    (detected ++ connection.traceOf frame).map .note
      ++ [.perform (.transmit connection.node (connection.inbound frame)
        (some connection.ends.link))])

/-- Takes the next frame from the receive buffer, or waits for more bytes. -/
def read (connection : Connection) (now : Moment) : Connection × List Effect :=
  match (Frame.decoder connection.config.maxPayloadLength).decode connection.buffer with
  | .item frame rest => connection.dispatch frame rest now
  | .malformed cause =>
    connection.finish .failed (.connectionFailed (BusError.protocol cause.message).message)
  | .incomplete _ =>
    ({ connection with stage := .waiting (now + connection.config.readPollTimeout) }, [])

/-- Whether the time that a message took is worth a warning. -/
def slowness (connection : Connection) (frame : Frame) (since now : Moment) : List Effect :=
  if connection.config.traceFrames ∧ connection.config.slowDispatchThreshold < now - since then
    let message := connection.inbound frame
    [.note (.slowDispatch (message.source.getD "") message.target (now - since) message.payload)]
  else
    []

/-- What a connection does without an input, up to the next point where others can act. -/
def proceed (connection : Connection) (now : Moment) (stopped : Bool) :
    Connection × List Effect :=
  match connection.stage with
  | .opening =>
    if stopped then
      connection.giveUp .closing (.stoppedBeforeRegistration connection.name)
    else
      connection.register
  | .reading =>
    if stopped then connection.finish .closing .connectionStopped
    else connection.read now
  | .dispatched frame since =>
    ({ connection with stage := .reading }, connection.slowness frame since now)
  | .waiting _ | .ended _ => (connection, [])

/-- What a waiting connection does with an input. -/
def receive (connection : Connection) (now : Moment) (input : Input) :
    Connection × List Effect :=
  match connection.stage with
  | .waiting pollEnd =>
    match input with
    | .stop => connection.finish .closing .connectionStopped
    | .received bytes =>
      ({ connection with buffer := connection.buffer ++ bytes, stage := .reading },
        [.note (.bytesReceived bytes.length)])
    | .endOfStream => connection.finish .closing .connectionClosedByPeer
    | .broken cause true => connection.finish .closing (.connectionClosed cause)
    | .broken cause false => connection.finish .failed (.connectionFailed cause)
    | .time =>
      if Timer.isDue pollEnd now then
        if connection.monitor.isExpired now then
          connection.finish .closing (.keepaliveExpired connection.config.keepaliveTimeout)
        else
          ({ connection with stage := .reading }, [])
      else
        (connection, [])
    | .connected | .refused _ => (connection, [])
  | _ => (connection, [])

/-- The moment until which a connection waits. -/
def deadline? (connection : Connection) : Option Moment :=
  match connection.stage with
  | .waiting pollEnd => some pollEnd
  | _ => none

/-- Whether a connection goes on without an input. -/
def isRunning (connection : Connection) : Bool :=
  match connection.stage with
  | .opening | .reading | .dispatched .. => true
  | .waiting _ | .ended _ => false

end Connection

end RobotBus.Transport
