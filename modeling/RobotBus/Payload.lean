import RobotBus.Text.Hex

/-!
# Payloads

The first byte of a payload is a tag that tells the kind of message. Routing looks at notifications
and negative acknowledgements only; all other payloads are opaque to it.
-/

namespace RobotBus

inductive Tag
  | ping
  | eventOutput
  | eventInput
  | eventInputResponse
  | logTarget
  | booleanInput
  | booleanInputResponse
  | booleanOutput
  | floatInput
  | floatInputResponse
  | floatOutput
  | outputStream
  | notify
  | invoke
  | invokeReply
  | negativeAck
  | legacyEventInputUnsub
  | legacyBooleanInputUnsub
  | legacyFloatInputUnsub
deriving DecidableEq, Repr

namespace Tag

/-- All tags, in the order of their codes. -/
def all : List Tag :=
  [ping, eventOutput, eventInput, eventInputResponse, logTarget, booleanInput,
    booleanInputResponse, booleanOutput, floatInput, floatInputResponse, floatOutput, outputStream,
    notify, invoke, invokeReply, negativeAck, legacyEventInputUnsub, legacyBooleanInputUnsub,
    legacyFloatInputUnsub]

/-- The tag byte. -/
def code (tag : Tag) : UInt8 :=
  UInt8.ofNat (all.idxOf tag)

def ofCode? (code : UInt8) : Option Tag :=
  all[code.toNat]?

/-- The name under which diagnostics show the tag. -/
def name : Tag → String
  | ping => "Ping"
  | eventOutput => "EventOutput"
  | eventInput => "EventInput"
  | eventInputResponse => "EventInputResponse"
  | logTarget => "LogTarget"
  | booleanInput => "BooleanInput"
  | booleanInputResponse => "BooleanInputResponse"
  | booleanOutput => "BooleanOutput"
  | floatInput => "FloatInput"
  | floatInputResponse => "FloatInputResponse"
  | floatOutput => "FloatOutput"
  | outputStream => "OutputStream"
  | notify => "Notify"
  | invoke => "RemoteProcedure"
  | invokeReply => "RemoteProcedureReply"
  | negativeAck => "NonexistenceNotification"
  | legacyEventInputUnsub => "LEGACY_EventInputUnsubscription"
  | legacyBooleanInputUnsub => "LEGACY_BooleanInputUnsubscription"
  | legacyFloatInputUnsub => "LEGACY_FloatInputUnsubscription"

end Tag

namespace Payload

/-- The tag of a payload, if it has a known one. -/
def tag? : Bytes → Option Tag
  | [] => none
  | code :: _ => Tag.ofCode? code

def isNegativeAck (payload : Bytes) : Bool :=
  payload.head? == some Tag.negativeAck.code

def notification : Bytes := [Tag.notify.code]

def negativeAck : Bytes := [Tag.negativeAck.code]

def invocation (arguments : Bytes) : Bytes := Tag.invoke.code :: arguments

def reply (result : Bytes) : Bytes := Tag.invokeReply.code :: result

/-- The name of a tag byte, known or not. -/
def describeCode (code : UInt8) : String :=
  match Tag.ofCode? code with
  | some tag => tag.name
  | none => s!"Unknown #{code.toNat}"

/-- The tag of a payload, or that there is none. -/
def describeTag : Bytes → String
  | [] => "EMPTY"
  | code :: _ => describeCode code

/-- The tag, the other bytes and the size of a payload. -/
def describe (payload : Bytes) : String :=
  let size := if payload.length = 1 then "1 byte" else s!"{payload.length} bytes"
  match payload with
  | [] => "EMPTY"
  | [code] => describeCode code ++ " (" ++ size ++ ")"
  | code :: rest => describeCode code ++ " <" ++ Hex.ofBytes rest ++ "> (" ++ size ++ ")"

end Payload

end RobotBus
