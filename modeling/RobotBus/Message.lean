import RobotBus.Text.Hex

/-!
# Messages

A message carries a target path, the path that leads back to its sender, and a payload.
-/

namespace RobotBus

structure Message where
  target : Option String
  source : Option String
  payload : Bytes
deriving DecidableEq, Repr, Inhabited

end RobotBus
