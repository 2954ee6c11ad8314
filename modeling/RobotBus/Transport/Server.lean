import RobotBus.Transport.Client

/-!
# Servers

A server accepts connections until it is stopped. It numbers them with 64 bits, and each goes
through the handshake on its own. Its link is named by the hint of the client, or by its number if there is no
usable hint.
-/

namespace RobotBus.Transport

open Wire (Header)

inductive Accepted.Stage
  | greeting
  | handshaking (buffer : Bytes) (deadline : Moment)
  | connected (connection : Connection)
  | ended
deriving DecidableEq, Repr

/-- An accepted connection. -/
structure Accepted where
  node : NodeId
  number : UInt64
  config : Config
  stage : Accepted.Stage := .greeting
deriving DecidableEq, Repr

namespace Accepted

def finish (accepted : Accepted) (notice : Notice) : Accepted × List Effect :=
  ({ accepted with stage := .ended }, [.note notice, .close])

/-- The name of a client that gave no usable one. -/
def ownName (accepted : Accepted) : String :=
  s!"client-{accepted.number}"

/-- The link name for a hint. -/
def nameFor (accepted : Accepted) : Option String → String
  | none => accepted.ownName
  | some hint => if Path.isLinkName hint then hint else accepted.ownName

def hintNotices (hint : Option String) : List Notice :=
  match hint with
  | none => []
  | some hint => if Path.isLinkName hint then [] else [.invalidHint hint]

def readHeader (accepted : Accepted) (buffer : Bytes) (deadline now : Moment) (fresh : LinkId) :
    Accepted × List Effect :=
  match Header.decoder.decode buffer with
  | .item header rest =>
    let name := accepted.nameFor header.hint
    let connection :=
      Connection.start accepted.node name fresh accepted.config false rest now
    ({ accepted with stage := .connected connection },
      .note (.headerReceived header.hint) :: (hintNotices header.hint).map .note
        ++ [.note (.handshakeComplete name)])
  | .malformed cause =>
    accepted.finish (.acceptedUnestablished (BusError.protocol cause.message).message)
  | .incomplete _ => ({ accepted with stage := .handshaking buffer deadline }, [])

/-- What an accepted connection does without an input. The own header has no hint. -/
def proceed (accepted : Accepted) (now : Moment) (stopped : Bool) : Accepted × List Effect :=
  match accepted.stage with
  | .greeting =>
    if stopped then
      accepted.finish .stoppedBeforeHandshake
    else
      match (Header.mk none).encode with
      | .ok bytes =>
        ({ accepted with stage := .handshaking [] (now + accepted.config.handshakeTimeout) },
          [.write bytes])
      | .error cause => accepted.finish (.acceptedUnestablished cause.message)
  | .connected connection =>
    if connection.isEnded then
      ({ accepted with stage := .ended }, [])
    else
      let (connection, effects) := connection.proceed now stopped
      ({ accepted with stage := .connected connection }, effects)
  | _ => (accepted, [])

/-- What a waiting connection does with an input. `fresh` is the number of the
first link for it. -/
def receive (accepted : Accepted) (now : Moment) (fresh : LinkId) (input : Input) :
    Accepted × List Effect :=
  match accepted.stage with
  | .handshaking buffer deadline =>
    match input with
    | .stop => accepted.finish .stoppedDuringHandshake
    | .received bytes => accepted.readHeader (buffer ++ bytes) deadline now fresh
    | .endOfStream =>
      accepted.finish
        (.acceptedUnestablished Wire.ExchangeError.endOfStream.toBusError.message)
    | .broken cause _ =>
      accepted.finish (.acceptedUnestablished (BusError.transport cause).message)
    | .time =>
      if Timer.isDue deadline now then
        accepted.finish (.handshakeTimedOut accepted.config.handshakeTimeout)
      else
        (accepted, [])
    | _ => (accepted, [])
  | .connected connection =>
    let (connection, effects) := connection.receive now input
    ({ accepted with stage := .connected connection }, effects)
  | .greeting | .ended => (accepted, [])

def deadline? (accepted : Accepted) : Option Moment :=
  match accepted.stage with
  | .handshaking _ deadline => some deadline
  | .connected connection => connection.deadline?
  | .greeting | .ended => none

def isRunning (accepted : Accepted) : Bool :=
  match accepted.stage with
  | .greeting => true
  | .connected connection => connection.isRunning || connection.isEnded
  | _ => false

def isEnded (accepted : Accepted) : Bool :=
  accepted.stage == .ended

end Accepted

structure Server where
  node : NodeId
  config : Config
  acceptedCount : UInt64 := 0
  running : Bool := true
deriving DecidableEq, Repr

namespace Server

def start (node : NodeId) (config : Config) : Except StartError Server :=
  match config.check with
  | .error cause => .error (.badConfig cause)
  | .ok () => .ok { node, config }

/-- Accepts a connection, under the next number. -/
def accept (server : Server) : Server × Accepted :=
  ({ server with acceptedCount := server.acceptedCount + 1 },
    { node := server.node, number := server.acceptedCount, config := server.config })

/-- Accepts no more connections. -/
def finish (server : Server) : Server × List Effect :=
  ({ server with running := false }, [.note .serverStopped])

end Server

end RobotBus.Transport
