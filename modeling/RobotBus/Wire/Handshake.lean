import RobotBus.Wire.Receiver
import RobotBus.Error

/-!
# Handshake

The header that each side sends before its frames: a magic number, the version of the protocol and
the name under which the sender would like to be known.
-/

namespace RobotBus.Wire

structure Header where
  hint : Option String
deriving DecidableEq, Repr, Inhabited

namespace Header

def magic : UInt32 := 0x154000ca

def version : UInt16 := 1

/-- The fixed bytes in front of the hint. -/
def preamble : Bytes :=
  bigEndianBytes 4 magic.toNat ++ bigEndianBytes 2 version.toNat

def encode (header : Header) : Except EncodeError Bytes :=
  (preamble ++ ·) <$> textBytes header.hint

/-- Magic number and version are judged as soon as they are there. -/
def read : Read Header := do
  let found ← readU32
  if found ≠ magic then
    refuse (.badMagic found)
  else
    let found ← readU16
    if found ≠ version then
      refuse (.badVersion found)
    else
      let hint ← readText
      return { hint }

theorem consuming_read : read.Consuming := by
  refine consuming_readU32.bind fun found => ?_
  split
  · exact shrinking_refuse _
  · refine consuming_readU16.shrinking.bind fun found => ?_
    split
    · exact shrinking_refuse _
    · exact consuming_readText.shrinking.bind fun hint => shrinking_pure _

theorem steady_read : read.Steady := by
  refine steady_readU32.bind fun found => ?_
  split
  · exact steady_refuse _
  · refine steady_readU16.bind fun found => ?_
    split
    · exact steady_refuse _
    · exact steady_readText.bind fun hint => steady_pure _

def decoder : Decoder Header :=
  read.decoder consuming_read steady_read

/-- The buffer with the header appended. A hint that can not be encoded leaves the fixed bytes
behind. -/
def append (header : Header) (buffer : Bytes) : Bytes × Option EncodeError :=
  match textBytes header.hint with
  | .ok bytes => (buffer ++ preamble ++ bytes, none)
  | .error cause => (buffer ++ preamble, some cause)

end Header

/-! ## Exchange of headers -/

inductive ExchangeError
  | unencodable (cause : EncodeError)
  | malformed (cause : Malformed)
  | endOfStream
deriving DecidableEq, Repr

def ExchangeError.toBusError : ExchangeError → BusError
  | unencodable cause => .protocol cause.message
  | malformed cause => .protocol cause.message
  | endOfStream => .transport "unexpected end of file"

/-- The header of the peer, the bytes that were received after it, and the chunks not yet read. -/
structure Greeting where
  header : Header
  leftover : Bytes
  unread : List Bytes
deriving DecidableEq, Repr

/-- Reads chunks until a header has come. -/
def awaitHeader (receiver : Receiver) : List Bytes → Except ExchangeError Greeting
  | [] => .error .endOfStream
  | chunk :: chunks =>
    match receiver.feed Header.decoder.drainOne chunk with
    | (header :: _, receiver) => .ok ⟨header, receiver.rest, chunks⟩
    | ([], receiver) =>
      match receiver.pause.fault? with
      | some cause => .error (.malformed cause)
      | none => awaitHeader receiver chunks

/-- What a side has sent in the end, and what it got. -/
structure Exchange where
  sent : Bytes
  result : Except ExchangeError Greeting

/-- Sends the own header and reads that of the peer, who sends `chunks` and then ends its stream. -/
def exchange (own : Header) (chunks : List Bytes) : Exchange :=
  match own.encode with
  | .error cause => ⟨[], .error (.unencodable cause)⟩
  | .ok bytes => ⟨bytes, awaitHeader {} chunks⟩

end RobotBus.Wire
