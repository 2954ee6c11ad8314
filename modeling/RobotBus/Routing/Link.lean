/-!
# Links

Nodes and links are told apart by identity: a link keeps its number under every name it is bound
to.
-/

namespace RobotBus

abbrev NodeId := Nat

abbrev LinkId := Nat

/-- How a link ends handling a message: it stays bound, it asks to be removed, or it breaks down,
possibly with a text. -/
inductive Verdict
  | keep
  | remove
  | fault (text : Option String)
deriving DecidableEq, Repr

end RobotBus
