import RobotBus.Bindings
import RobotBus.Transport.Connection

/-!
# Sockets

Streams between two sockets without a network: in each direction bytes arrive in order and without
loss, until the sender ends the stream or resets it.
-/

namespace RobotBus.Simulation

/-- One direction of a stream: the bytes that have not been read, and whether more can follow. -/
structure Pipe where
  bytes : Bytes := []
  ended : Bool := false
  reset : Bool := false
deriving DecidableEq, Repr

namespace Pipe

def isOpen (pipe : Pipe) : Bool :=
  !pipe.ended && !pipe.reset

def put (pipe : Pipe) (bytes : Bytes) : Pipe :=
  if pipe.isOpen then { pipe with bytes := pipe.bytes ++ bytes } else pipe

/-- What the reader of a pipe gets: all bytes first, and the end after that. -/
def input? (pipe : Pipe) : Option Transport.Input :=
  if !pipe.bytes.isEmpty then some (.received pipe.bytes)
  else if pipe.reset then some (.broken "Connection reset by peer (os error 104)" true)
  else if pipe.ended then some .endOfStream
  else none

end Pipe

inductive Side
  | near
  | far
deriving DecidableEq, Repr

def Side.other : Side → Side
  | near => far
  | far => near

/-- The two directions of a stream, by the side that reads them. -/
structure Cable where
  toNear : Pipe := {}
  toFar : Pipe := {}
deriving DecidableEq, Repr

def Cable.modify (cable : Cable) (f : Pipe → Pipe) : Side → Cable
  | .near => { cable with toNear := f cable.toNear }
  | .far => { cable with toFar := f cable.toFar }

structure Socket where
  cable : Nat
  side : Side
deriving DecidableEq, Repr

/-- The socket at the other end. -/
def Socket.opposite (socket : Socket) : Socket :=
  { socket with side := socket.side.other }

abbrev Cables := Bindings Nat Cable

namespace Cables

/-- The direction that a socket reads. A socket without a cable reads the end of its stream. -/
def inbound (cables : Cables) (socket : Socket) : Pipe :=
  match cables.get? socket.cable, socket.side with
  | some cable, .near => cable.toNear
  | some cable, .far => cable.toFar
  | none, _ => { ended := true }

def modifyInbound (cables : Cables) (socket : Socket) (f : Pipe → Pipe) : Cables :=
  cables.modify socket.cable fun cable => cable.modify f socket.side

def modifyOutbound (cables : Cables) (socket : Socket) (f : Pipe → Pipe) : Cables :=
  cables.modify socket.cable fun cable => cable.modify f socket.side.other

def send (cables : Cables) (socket : Socket) (bytes : Bytes) : Cables :=
  cables.modifyOutbound socket (Pipe.put · bytes)

/-- Takes the bytes that have arrived. -/
def clear (cables : Cables) (socket : Socket) : Cables :=
  cables.modifyInbound socket fun pipe => { pipe with bytes := [] }

/-- Ends the stream to the other side. -/
def shutDown (cables : Cables) (socket : Socket) : Cables :=
  cables.modifyOutbound socket fun pipe => { pipe with ended := true }

/-- Ends the stream in both directions. -/
def close (cables : Cables) (socket : Socket) : Cables :=
  (cables.shutDown socket).modifyInbound socket fun _ => { ended := true }

def reset (cables : Cables) (socket : Socket) : Cables :=
  (cables.modifyOutbound socket fun pipe => { pipe with reset := true }).modifyInbound socket
    fun _ => { ended := true }

end Cables

end RobotBus.Simulation
