import RobotBus.Wire.Field

/-!
# Checksums

The checksum of a frame covers its base and its payload. It is the cyclic redundancy check of 64
bits with bits taken from the least significant end, a zero register at the start and nothing added
at the end. The bases of a connection's frames are consecutive.
-/

namespace RobotBus.Wire

namespace Crc64

/-- The reflected generator polynomial. -/
def polynomial : UInt64 := 0x95ac9329ac4bc9b5

/-- Takes one bit out of the register. -/
def shiftBit (register : UInt64) : UInt64 :=
  if register &&& 1 = 1 then (register >>> 1) ^^^ polynomial else register >>> 1

def shiftByte (register : UInt64) : UInt64 :=
  shiftBit (shiftBit (shiftBit (shiftBit (shiftBit (shiftBit (shiftBit (shiftBit register)))))))

def feed (register : UInt64) (byte : UInt8) : UInt64 :=
  shiftByte (register ^^^ byte.toUInt64)

def ofBytes (bytes : Bytes) : UInt64 :=
  bytes.foldl feed 0

end Crc64

def baseBytes (base : UInt64) : Bytes :=
  bigEndianBytes 8 base.toNat

def checksum (base : UInt64) (payload : Bytes) : UInt64 :=
  Crc64.ofBytes (baseBytes base ++ payload)

/-- The supply of checksum bases: each base is the one before plus one, wrapping around. -/
structure Bases where
  next : UInt64
deriving DecidableEq, Repr

def Bases.take (bases : Bases) : UInt64 × Bases :=
  (bases.next, ⟨bases.next + 1⟩)

/-- The first `n` bases of a supply. -/
def Bases.first : Nat → Bases → List UInt64
  | 0, _ => []
  | n + 1, bases => bases.take.1 :: first n bases.take.2

end RobotBus.Wire
