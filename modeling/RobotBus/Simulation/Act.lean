import RobotBus.Simulation.Behaviour

/-!
# Acts

What a session or one of its jobs does to the world. An act can end the whole session.
-/

namespace RobotBus.Simulation

/-- Why a session can not go on: sockets can not be connected, a step names something that there is
not or asks for a queue that there can not be, or jobs never come to rest. -/
inductive Abort
  | unreachable
  | missing (role : String)
  | badCapacity (fault : Transport.CapacityFault)
  | endless
deriving DecidableEq, Repr

abbrev Act := StateT World (Except Abort)

/-- How many steps anything may take before it counts as endless. -/
def patience : Nat := 1099511627776

def lab : Act Lab := do
  return (← get).links

def now : Act Moment := do
  return (← get).now

def modifyLab (f : Lab → Lab) : Act Unit :=
  modify fun world => { world with links := f world.links }

def note (notices : List Notice) : Act Unit :=
  modify (·.noteAll notices)

def require (role : String) : Option α → Act α
  | some a => pure a
  | none => throw (.missing role)

/-- Performs an operation on a node, with everything that links do because of it. -/
def perform (operation : Operation) : Act Unit := do
  match Network.run behave patience (← get) [.perform operation] with
  | some world => set world
  | none => throw .endless

end RobotBus.Simulation
