import RobotBus.Message
import RobotBus.Wire.Checksum
import RobotBus.Wire.Decoder

/-!
# Frames

A frame is one message on the wire: target and source, the length of the payload in four bytes, the
checksum base, the payload and the checksum. Keepalive frames are told by their target and the first
two bytes of their payload.
-/

namespace RobotBus.Wire

abbrev Frame := Message

/-- The longest payload whose length has a positive form in four bytes. -/
def largestPayload : Nat := 2147483647

namespace Frame

def keepaliveTarget : String := "KEEPALIVE"

/-- The tag of a negative acknowledgement and the keepalive mark. -/
def keepalivePayload : Bytes := [15, 0x6d]

def keepalive : Frame := ⟨some keepaliveTarget, none, keepalivePayload⟩

/-- Peers may append further bytes to the payload of a keepalive. -/
def isKeepalive (frame : Frame) : Bool :=
  frame.target == some keepaliveTarget && frame.source.isNone
    && keepalivePayload.isPrefixOf frame.payload

/-- The bytes of a frame with the given checksum base. -/
def encode (frame : Frame) (base : UInt64) : Except EncodeError Bytes := do
  if largestPayload < frame.payload.length then
    throw .payloadTooLong
  let target ← textBytes frame.target
  let source ← textBytes frame.source
  return target ++ source ++ bigEndianBytes 4 frame.payload.length ++ baseBytes base
    ++ frame.payload ++ bigEndianBytes 8 (checksum base frame.payload).toNat

/-- Reads a frame whose payload has at most `limit` bytes. The length is judged before the payload
is awaited. -/
def read (limit : Nat) : Read Frame := do
  let target ← readText
  let source ← readText
  let length ← readI32
  if length < 0 ∨ (limit : Int) < length then
    refuse (.badPayloadLength length)
  else
    let base ← readU64
    let payload ← readBytes length.toNat
    let found ← readU64
    if found = checksum base payload then
      return { target, source, payload }
    else
      refuse (.checksumMismatch (checksum base payload) found)

theorem consuming_read (limit : Nat) : (read limit).Consuming := by
  refine consuming_readText.bind fun target => ?_
  refine consuming_readText.shrinking.bind fun source => ?_
  refine consuming_readI32.shrinking.bind fun length => ?_
  split
  · exact shrinking_refuse _
  · refine consuming_readU64.shrinking.bind fun base => ?_
    refine (shrinking_readBytes _).bind fun payload => ?_
    refine consuming_readU64.shrinking.bind fun found => ?_
    split
    · exact shrinking_pure _
    · exact shrinking_refuse _

theorem steady_read (limit : Nat) : (read limit).Steady := by
  refine steady_readText.bind fun target => ?_
  refine steady_readText.bind fun source => ?_
  refine steady_readI32.bind fun length => ?_
  split
  · exact steady_refuse _
  · refine steady_readU64.bind fun base => ?_
    refine (steady_readBytes _).bind fun payload => ?_
    refine steady_readU64.bind fun found => ?_
    split
    · exact steady_pure _
    · exact steady_refuse _

/-- The decoder of frames whose payload has at most `limit` bytes. -/
def decoder (limit : Nat) : Decoder Frame :=
  (read limit).decoder (consuming_read limit) (steady_read limit)

/-- Writes the parts of a frame behind a buffer, up to the first that can not be encoded. -/
def write (frame : Frame) (base : UInt64) (buffer : Bytes) : Bytes × Option EncodeError :=
  if largestPayload < frame.payload.length then
    (buffer, some .payloadTooLong)
  else
    match textBytes frame.target with
    | .error cause => (buffer, some cause)
    | .ok target =>
      let buffer := buffer ++ target
      match textBytes frame.source with
      | .error cause => (buffer, some cause)
      | .ok source =>
        (buffer ++ source ++ bigEndianBytes 4 frame.payload.length ++ baseBytes base
          ++ frame.payload ++ bigEndianBytes 8 (checksum base frame.payload).toNat, none)

/-- Appends a frame to a buffer. What was written of a frame that can not be encoded is taken
back. -/
def append (frame : Frame) (base : UInt64) (buffer : Bytes) : Bytes × Option EncodeError :=
  match frame.write base buffer with
  | (written, none) => (written, none)
  | (written, some cause) => (written.take buffer.length, some cause)

/-- The checksum base in the bytes of a frame with the given payload. -/
def baseOf (frame : Frame) (encoded : Bytes) : UInt64 :=
  let behind := 8 + frame.payload.length + 8
  UInt64.ofNat (bigEndian ((encoded.drop (encoded.length - behind)).take 8))

end Frame

/-- The bytes of frames one after the other, with consecutive bases. -/
def encodeAll : Bases → List Frame → Except EncodeError (List Bytes)
  | _, [] => .ok []
  | bases, frame :: frames => do
    let bytes ← frame.encode bases.take.1
    return bytes :: (← encodeAll bases.take.2 frames)

end RobotBus.Wire
