import RobotBus.Duration
import RobotBus.Wire.Frame

/-!
# Configuration of connections

Both ends of a connection are configured on their own. `Config.check` refuses configurations under
which a connection could not be watched or could not carry messages.
-/

namespace RobotBus.Transport

structure Config where
  /-- The pause of a client between two connections. -/
  reconnectDelay : Duration := Duration.seconds 1
  connectTimeout : Duration := Duration.seconds 5
  handshakeTimeout : Duration := Duration.seconds 5
  /-- A read that takes longer is given up, to look at the keepalive deadline. -/
  readPollTimeout : Duration := Duration.milliseconds 500
  keepaliveTimeout : Duration := Duration.seconds 5
  /-- The interval between own keepalives, if any are sent. -/
  keepaliveInterval : Option Duration := some (Duration.seconds 1)
  maxPayloadLength : Nat := 16 * 1024 * 1024
  /-- The number of messages that wait for a slow peer. -/
  sendQueueLength : Nat := 1024
  traceFrames : Bool := false
  slowDispatchThreshold : Duration := Duration.milliseconds 1000
deriving DecidableEq, Repr

inductive ConfigError
  | zeroReadPoll
  | keepaliveShorterThanReadPoll
  | zeroKeepaliveInterval
  | keepaliveIntervalTooLong
  | payloadLengthTooLarge
  | zeroSendQueue
deriving DecidableEq, Repr

def ConfigError.message : ConfigError → String
  | zeroReadPoll => "read poll timeout must be positive"
  | keepaliveShorterThanReadPoll =>
    "keepalive timeout must not be shorter than the read poll timeout"
  | zeroKeepaliveInterval => "keepalive interval must be positive"
  | keepaliveIntervalTooLong => "keepalive interval must be shorter than the keepalive timeout"
  | payloadLengthTooLarge => s!"max payload length can not exceed {Wire.largestPayload}"
  | zeroSendQueue => "send queue length must be positive"

namespace Config

/-- The default configuration with a log of all frames. -/
def tracing : Config :=
  { traceFrames := true }

/-- The keepalive interval has to lie between zero and the keepalive timeout. -/
def checkInterval (config : Config) : Except ConfigError Unit :=
  match config.keepaliveInterval with
  | none => .ok ()
  | some interval =>
    if interval = 0 then .error .zeroKeepaliveInterval
    else if config.keepaliveTimeout ≤ interval then .error .keepaliveIntervalTooLong
    else .ok ()

/-- The first fault of a configuration. -/
def check (config : Config) : Except ConfigError Unit := do
  if config.readPollTimeout = 0 then
    throw .zeroReadPoll
  if config.keepaliveTimeout < config.readPollTimeout then
    throw .keepaliveShorterThanReadPoll
  config.checkInterval
  if Wire.largestPayload < config.maxPayloadLength then
    throw .payloadLengthTooLarge
  if config.sendQueueLength = 0 then
    throw .zeroSendQueue

end Config

/-- The life cycle of a connection, as its observers see it. A connection that ended regularly is
closing; one that ended by a fault of the peer or of the socket has failed. -/
inductive State
  | connecting
  | handshaking
  | active
  | closing
  | failed
deriving DecidableEq, Repr

def State.isTerminal : State → Bool
  | closing | failed => true
  | _ => false

end RobotBus.Transport
