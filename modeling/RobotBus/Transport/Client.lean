import RobotBus.Transport.Connection
import RobotBus.Wire.Handshake

/-!
# Clients

A client keeps a connection to a remote node alive. It connects, exchanges headers, runs the
connection until it ends, pauses, and begins again, until it is stopped. A handshake that fails ends
the attempt. A client looks at its stop flag before it connects and when an attempt or a connection
is over; each look is the beginning of a step.
-/

namespace RobotBus.Transport

open Wire (Header)

inductive StartError
  | badConfig (cause : ConfigError)
  | badLinkName (name : String)
  | noRuntime (text : String)
deriving DecidableEq, Repr

def StartError.message : StartError → String
  | badConfig cause => cause.message
  | badLinkName name => "invalid link name " ++ Text.quote name
  | noRuntime text => text

inductive Client.Stage
  | resting
  | connecting (deadline : Moment)
  | handshaking (buffer : Bytes) (deadline : Moment)
  | connected (connection : Connection)
  /-- An attempt has failed. -/
  | departing
  | pausing (deadline : Moment)
  | ended
deriving DecidableEq, Repr

structure Client where
  node : NodeId
  name : String
  hint : Option String
  config : Config
  stage : Client.Stage := .resting
deriving DecidableEq, Repr

namespace Client

/-- A client that is about to connect. The configuration is checked before the name. -/
def start (node : NodeId) (name : String) (hint : Option String) (config : Config) :
    Except StartError Client :=
  match config.check with
  | .error cause => .error (.badConfig cause)
  | .ok () =>
    if Path.isLinkName name then .ok { node, name, hint, config }
    else .error (.badLinkName name)

/-- The last thing that a client does. -/
def finish (client : Client) : Client × List Effect :=
  ({ client with stage := .ended }, [.publish .closing, .note .clientStopped])

/-- After an attempt or a connection: pauses, unless the client was stopped. -/
def pause (client : Client) (now : Moment) (stopped : Bool) : Client × List Effect :=
  if stopped then client.finish
  else ({ client with stage := .pausing (now + client.config.reconnectDelay) }, [])

/-- Gives up an attempt. -/
def depart (client : Client) (effects : List Effect) : Client × List Effect :=
  ({ client with stage := .departing }, effects)

/-- Sends the own header over a new socket. -/
def greet (client : Client) (now : Moment) : Client × List Effect :=
  match (Header.mk client.hint).encode with
  | .ok bytes =>
    ({ client with stage := .handshaking [] (now + client.config.handshakeTimeout) },
      [.publish .handshaking, .write bytes])
  | .error cause =>
    client.depart
      [.publish .handshaking, .note (.handshakeFailed (BusError.protocol cause.message).message),
        .close]

/-- A failed handshake. -/
def decline (client : Client) (notice : Notice) : Client × List Effect :=
  client.depart [.note notice, .close]

/-- Looks for the header of the peer in all that was received. -/
def readHeader (client : Client) (buffer : Bytes) (deadline now : Moment) (fresh : LinkId) :
    Client × List Effect :=
  match Header.decoder.decode buffer with
  | .item header rest =>
    let connection :=
      Connection.start client.node client.name fresh client.config true rest now
    ({ client with stage := .connected connection }, [.note (.headerReceived header.hint)])
  | .malformed cause =>
    client.decline (.handshakeFailed (BusError.protocol cause.message).message)
  | .incomplete _ => ({ client with stage := .handshaking buffer deadline }, [])

/-- A step of the connection of a client. -/
def within (client : Client) (step : Connection × List Effect) : Client × List Effect :=
  ({ client with stage := .connected step.1 }, step.2)

/-- What a client does without an input. -/
def proceed (client : Client) (now : Moment) (stopped : Bool) : Client × List Effect :=
  match client.stage with
  | .resting =>
    if stopped then client.finish
    else
      ({ client with stage := .connecting (now + client.config.connectTimeout) },
        [.publish .connecting, .connect])
  | .connected connection =>
    if connection.isEnded then client.pause now stopped
    else client.within (connection.proceed now stopped)
  | .departing => client.pause now stopped
  | _ => (client, [])

/-- What a waiting client does with an input. `fresh` is the number of the first link for a new
connection. A client that was dropped may notice that before it connects. -/
def receive (client : Client) (now : Moment) (fresh : LinkId) (input : Input) :
    Client × List Effect :=
  match client.stage with
  | .connecting deadline =>
    match input with
    | .stop => client.finish
    | .connected => client.greet now
    | .refused cause => client.depart [.note (.connectingFailed cause)]
    | .time =>
      if Timer.isDue deadline now then
        client.depart [.note (.connectingTimedOut client.config.connectTimeout)]
      else
        (client, [])
    | _ => (client, [])
  | .handshaking buffer deadline =>
    match input with
    | .stop =>
      let (client, last) := client.finish
      (client, .close :: last)
    | .received bytes => client.readHeader (buffer ++ bytes) deadline now fresh
    | .endOfStream =>
      client.decline (.handshakeFailed Wire.ExchangeError.endOfStream.toBusError.message)
    | .broken cause _ => client.decline (.handshakeFailed (BusError.transport cause).message)
    | .time =>
      if Timer.isDue deadline now then
        client.decline (.handshakeTimedOut client.config.handshakeTimeout)
      else
        (client, [])
    | _ => (client, [])
  | .connected connection => client.within (connection.receive now input)
  | .pausing deadline =>
    match input with
    | .stop => client.finish
    | .time =>
      if Timer.isDue deadline now then ({ client with stage := .resting }, []) else (client, [])
    | _ => (client, [])
  | .resting => if input = .stop then client.finish else (client, [])
  | .departing | .ended => (client, [])

def deadline? (client : Client) : Option Moment :=
  match client.stage with
  | .connecting deadline | .handshaking _ deadline | .pausing deadline => some deadline
  | .connected connection => connection.deadline?
  | .resting | .departing | .ended => none

def isRunning (client : Client) : Bool :=
  match client.stage with
  | .resting | .departing => true
  | .connected connection => connection.isRunning || connection.isEnded
  | _ => false

def isEnded (client : Client) : Bool :=
  client.stage == .ended

end Client

end RobotBus.Transport
