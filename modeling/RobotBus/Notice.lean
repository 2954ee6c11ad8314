import RobotBus.Duration
import RobotBus.Payload
import RobotBus.Text.Quoted

/-!
# Notices

What the bus writes to its log. A notice is an event; `Notice.level` says how important it is and
`Notice.text` words it.
-/

namespace RobotBus

inductive Level
  | error
  | warn
  | info
  | debug
  | trace
deriving DecidableEq, Repr

namespace Level

/-- The detail of a level: a level shows all notices of its own detail or less. -/
def detail : Level → Nat
  | error => 1
  | warn => 2
  | info => 3
  | debug => 4
  | trace => 5

def label : Level → String
  | error => "ERROR"
  | warn => "WARN"
  | info => "INFO"
  | debug => "DEBUG"
  | trace => "TRACE"

end Level

inductive Notice
  -- routing
  | replacedLink (name : String)
  | unaddressed (source : Option String)
  | removalAsked (name : String)
  | removalAskedInBroadcast (name : String)
  | missingLink (target head : String) (source : Option String)
  | linkFault (name : String) (target : Option String) (fault : Option String)
  -- calls
  | endpointCreated (endpoint : String)
  | endpointReplacedLink (endpoint : String)
  | invoking (target source : String)
  | invocationTimedOut (id : UInt32) (target : String)
  | messageToEndpoint (source : Option String)
  | malformedInvocationId (path : String)
  | replyArrived (id : UInt32) (target : String) (after : Duration)
  | replyAbandoned (id : UInt32)
  | replyUnknown (id : UInt32) (source : Option String)
  | invocationUndeliverable (id : UInt32) (target : String) (source : Option String)
  | unexpectedForInvocation (id : UInt32) (source : Option String) (payload : Bytes)
  | notAnInvocation (procedure : String) (source : Option String)
  | invocationWithoutSource (procedure : String)
  | procedureInvoked (procedure replyTo : String)
  | procedureFailed (procedure replyTo text : String)
  -- connections
  | headerReceived (hint : Option String)
  | invalidHint (hint : String)
  | stoppedBeforeRegistration (link : String)
  | notRegistered (link cause : String)
  | connectionActive (link : String)
  | connectionStopped
  | connectionClosedByPeer
  | connectionClosed (cause : String)
  | connectionFailed (cause : String)
  | keepaliveDetected (link : String)
  | keepaliveExpired (timeout : Duration)
  | bytesReceived (count : Nat)
  | frameDropped (target : Option String) (cause : String)
  | queueFull (link : String) (target : Option String)
  | queueAccepts (link : String)
  | slowDispatch (source : String) (target : Option String) (took : Duration) (payload : Bytes)
  | connectingFailed (cause : String)
  | connectingTimedOut (after : Duration)
  | handshakeFailed (cause : String)
  | handshakeTimedOut (after : Duration)
  | handshakeComplete (link : String)
  | acceptedUnestablished (cause : String)
  | stoppedBeforeHandshake
  | stoppedDuringHandshake
  | clientStopped
  | serverStopped
  -- frames
  | frameSent (source : Option String) (path : String) (payload : Bytes)
  | frameReceived (link : String) (source target : Option String) (payload : Bytes)
  | keepaliveSent (link : String)
  | keepaliveReceived (link : String)
deriving DecidableEq, Repr

namespace Notice

def level : Notice → Level
  | linkFault .. => .error
  | unaddressed .. | missingLink .. | endpointReplacedLink .. | invocationUndeliverable ..
  | unexpectedForInvocation .. | invocationWithoutSource .. | procedureFailed .. | invalidHint ..
  | notRegistered .. | connectionFailed .. | frameDropped .. | queueFull .. | slowDispatch .. =>
    .warn
  | keepaliveDetected .. => .info
  | invoking .. | replyArrived .. | procedureInvoked .. | headerReceived .. | bytesReceived ..
  | frameSent .. | frameReceived .. | keepaliveSent .. | keepaliveReceived .. => .trace
  | _ => .debug

private def orNull (path : Option String) : String :=
  path.getD "null"

private def idDigits (id : UInt32) : String :=
  Hex.padded 8 id.toNat

/-- The warning about a message that took long. -/
def slowDispatchText (source : String) (target : Option String) (took : String)
    (payload : Bytes) : String :=
  "dispatching a message from " ++ source ++ " to " ++ Text.quoteOption target ++ " took "
    ++ took ++ ": " ++ Payload.describe payload

def text : Notice → String
  | replacedLink name => "replaced current link on: " ++ name
  | unaddressed source =>
    "received message addressed to unreceiving node (source: " ++ Text.quoteOption source ++ ")"
  | removalAsked name => "link " ++ name ++ " asked to be removed"
  | removalAskedInBroadcast name => "link " ++ name ++ " asked to be removed during broadcast"
  | missingLink target head source =>
    "no link for " ++ target ++ " (" ++ head ++ ") from " ++ Text.quoteOption source
  | linkFault name target fault =>
    "error while dispatching to link " ++ name ++ " (target " ++ Text.quoteOption target ++ "): "
      ++ fault.getD "<non-string panic>"
  | endpointCreated endpoint => "creating RPC manager at " ++ endpoint
  | endpointReplacedLink endpoint => "RPC manager replaced a link at " ++ endpoint
  | invoking target source => "invoking " ++ target ++ " as " ++ source
  | invocationTimedOut id target => "invocation " ++ idDigits id ++ " of " ++ target ++ " timed out"
  | messageToEndpoint source =>
    "ignoring message to the RPC endpoint itself from " ++ Text.quoteOption source
  | malformedInvocationId path =>
    "ignoring message for malformed invocation id " ++ Text.quote path
  | replyArrived id target after =>
    "reply for invocation " ++ idDigits id ++ " of " ++ target ++ " after " ++ after.render
  | replyAbandoned id => "invocation " ++ idDigits id ++ " was abandoned before its reply arrived"
  | replyUnknown id source =>
    "discarding reply for unknown or expired invocation " ++ idDigits id ++ " from "
      ++ Text.quoteOption source
  | invocationUndeliverable id target source =>
    "invocation " ++ idDigits id ++ " could not be delivered to " ++ target ++ " (reported by "
      ++ Text.quoteOption source ++ ")"
  | unexpectedForInvocation id source payload =>
    "unexpected message for invocation " ++ idDigits id ++ " from " ++ Text.quoteOption source
      ++ ": " ++ Payload.describeTag payload
  | notAnInvocation procedure source =>
    "procedure " ++ procedure ++ " ignoring non-invocation message from "
      ++ Text.quoteOption source
  | invocationWithoutSource procedure =>
    "invocation of " ++ procedure ++ " without a source - there is nowhere to send the result"
  | procedureInvoked procedure replyTo => "invoking procedure " ++ procedure ++ " for " ++ replyTo
  | procedureFailed procedure replyTo text =>
    "procedure " ++ procedure ++ " failed for " ++ replyTo ++ ": " ++ text
  | headerReceived hint => "received handshake header with hint " ++ Text.quoteOption hint
  | invalidHint hint => "ignoring invalid link name hint " ++ Text.quote hint
  | stoppedBeforeRegistration link =>
    "transport stopped before link " ++ link ++ " was registered"
  | notRegistered link cause => "could not register link " ++ link ++ ": " ++ cause
  | connectionActive link => "connection active as link " ++ link
  | connectionStopped => "connection stopped"
  | connectionClosedByPeer => "connection closed by peer"
  | connectionClosed cause => "connection closed: " ++ cause
  | connectionFailed cause => "connection failed: " ++ cause
  | keepaliveDetected link =>
    "detected keepalive message - expecting future keepalives on " ++ link
  | keepaliveExpired timeout =>
    "no frame received for " ++ timeout.render ++ " - keepalive expired"
  | bytesReceived count => s!"received {count} bytes"
  | frameDropped target cause =>
    "dropping frame to " ++ Text.quoteOption target ++ " that can not be encoded: " ++ cause
  | queueFull link target =>
    "send queue of link " ++ link ++ " is full - dropping messages, starting with one to "
      ++ Text.quoteOption target
  | queueAccepts link => "send queue of link " ++ link ++ " accepts messages again"
  | slowDispatch source target took payload =>
    slowDispatchText source target took.render payload
  | connectingFailed cause => "connecting failed: " ++ cause
  | connectingTimedOut after => "connecting timed out after " ++ after.render
  | handshakeFailed cause => "handshake failed: " ++ cause
  | handshakeTimedOut after => "handshake timed out after " ++ after.render
  | handshakeComplete link => "initial handshake complete, registering as " ++ link
  | acceptedUnestablished cause => "connection ended before it was established: " ++ cause
  | stoppedBeforeHandshake => "server stopped before the handshake"
  | stoppedDuringHandshake => "server stopped during the handshake"
  | clientStopped => "client stopped"
  | serverStopped => "server stopped"
  | frameSent source path payload =>
    "[LOCAL] SEND " ++ orNull source ++ " -> " ++ path ++ ": " ++ Payload.describe payload
  | frameReceived link source target payload =>
    "[" ++ link ++ "] RECV " ++ orNull source ++ " -> " ++ orNull target ++ ": "
      ++ Payload.describe payload
  | keepaliveSent link => "[" ++ link ++ "] SEND keepalive"
  | keepaliveReceived link => "[" ++ link ++ "] RECV keepalive"

/-- The line that a log shows for a notice. -/
def line (notice : Notice) : String :=
  notice.level.label ++ " " ++ notice.text

end Notice

end RobotBus
