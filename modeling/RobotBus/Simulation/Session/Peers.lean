import RobotBus.Simulation.Directory
import RobotBus.Simulation.Step

/-!
# Peers of a session

The far ends of connections, through which bytes and frames are read and written by hand.
-/

namespace RobotBus.Simulation

/-- Lets a peer do something with its socket. -/
def Peer.act (peer : Peer) (f : Cables → Socket → Cables) : Act Unit :=
  modifyLab fun lab =>
    { lab with cables := f lab.cables peer.socket }.wakeReader peer.socket

/-- Moves what has arrived at a peer into its buffer. -/
def collectBytes (name : String) : Act Peer := do
  let found ← peer name
  let pipe := (← lab).cables.inbound found.socket
  let filled := { found with buffer := found.buffer ++ pipe.bytes }
  modifyLab fun lab => { lab with
    cables := lab.cables.clear found.socket
    peers := lab.peers.insert name filled }
  return filled

def inboundOf (name : String) (world : World) : Option (Peer × Pipe) :=
  (world.links.peers.get? name).map fun found =>
    (found, world.links.cables.inbound found.socket)

/-- Reads up to `count` bytes, fewer only at the end of the stream. -/
def peerRead (name : String) (count : Nat) : Act Answer := do
  let _ ← peer name
  let enough (world : World) : Bool := (inboundOf name world).any fun (found, pipe) =>
    count ≤ found.buffer.length + pipe.bytes.length || !pipe.isOpen
  awaiting enough do
    let found ← collectBytes name
    modifyLab fun lab => { lab with
      peers := lab.peers.insert name { found with buffer := found.buffer.drop count } }
    return .bytes (found.buffer.take count)

/-- Frames in a buffer, with their checksum bases. -/
def framesIn (buffer : Bytes) : List (Wire.Frame × UInt64) × Bytes :=
  let drained := (Wire.Frame.decoder Wire.largestPayload).drain buffer
  let sized := drained.items.foldl (fun (acc : List (Wire.Frame × UInt64) × Bytes) frame =>
    let size := (frame.encode 0).toOption.elim 0 List.length
    (acc.1 ++ [(frame, frame.baseOf (acc.2.take size))], acc.2.drop size)) ([], buffer)
  (sized.1, drained.rest)

/-- The frames up to the one that is the last of `count` shown ones. -/
def cutFrames (shown : Wire.Frame → Bool) :
    Nat → List (Wire.Frame × UInt64) → List (Wire.Frame × UInt64)
  | _, [] => []
  | count, item :: rest =>
    if count = 0 then []
    else item :: cutFrames shown (if shown item.1 then count - 1 else count) rest

/-- Whether each base is the one before plus one. -/
def areConsecutive : Option UInt64 → List UInt64 → Bool
  | _, [] => true
  | none, base :: rest => areConsecutive (some base) rest
  | some before, base :: rest => base == before + 1 && areConsecutive (some base) rest

def bytesOf (frames : List (Wire.Frame × UInt64)) : Nat :=
  frames.foldl (fun size item => size + (item.1.encode 0).toOption.elim 0 List.length) 0

/-- Reads frames until `count` were shown or the stream has ended. -/
def peerFrames (name : String) (count : Nat) (keepalives : Bool) : Act Answer := do
  let _ ← peer name
  let shown (frame : Wire.Frame) : Bool := keepalives || !frame.isKeepalive
  let arrived (found : Peer) (pipe : Pipe) : List (Wire.Frame × UInt64) :=
    cutFrames shown count (framesIn (found.buffer ++ pipe.bytes)).1
  let complete (frames : List (Wire.Frame × UInt64)) : Bool :=
    count ≤ (frames.filter fun item => shown item.1).length
  let enough (world : World) : Bool := (inboundOf name world).any fun (found, pipe) =>
    complete (arrived found pipe) || !pipe.isOpen
  awaiting enough do
    let found ← collectBytes name
    let frames := arrived found {}
    let bases := frames.map (·.2)
    modifyLab fun lab => { lab with
      peers := lab.peers.insert name { found with
        buffer := found.buffer.drop (bytesOf frames)
        lastBase := bases.getLast?.or found.lastBase } }
    return .frames ((frames.map (·.1)).filter shown) (areConsecutive found.lastBase bases)
      (!complete frames)

def peerEnd (name : String) : Act Answer := do
  let found ← peer name
  awaiting (fun world => !(world.links.cables.inbound found.socket).isOpen) do
    return .closed

end RobotBus.Simulation
