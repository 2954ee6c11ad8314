import RobotBus.Bindings
import RobotBus.Error
import RobotBus.Path
import RobotBus.Routing.Link
import RobotBus.Routing.MissingLink

/-!
# Nodes

A node binds links to names. A link may be bound to several names, and a name is bound to at most
one link.
-/

namespace RobotBus

structure Node where
  links : Bindings String LinkId := .empty
  reporter : MissingLinkReporter := {}

namespace Node

/-- Binds a name that is free, or already bound to this very link. -/
def add (node : Node) (name : String) (link : LinkId) : Except BusError Node :=
  if Path.isLinkName name then
    match node.links.get? name with
    | none => .ok { node with links := node.links.insert name link }
    | some bound => if bound = link then .ok node else .error (.duplicateName name)
  else
    .error (.invalidLinkName name)

/-- Binds a name whatever it was bound to. -/
def replace (node : Node) (name : String) (link : LinkId) : Except BusError Node :=
  if Path.isLinkName name then .ok { node with links := node.links.insert name link }
  else .error (.invalidLinkName name)

/-- Binds a name whatever it was bound to, and whether or not it is a link name. -/
def overwrite (node : Node) (name : String) (link : LinkId) : Node :=
  { node with links := node.links.insert name link }

def remove (node : Node) (name : String) : Node :=
  { node with links := node.links.erase name }

/-- Whether a name is bound to this very link. -/
def binds (node : Node) (name : String) (link : LinkId) : Bool :=
  node.links.get? name == some link

/-- Removes a binding only if it is the one to this link. -/
def removeIf (node : Node) (name : String) (link : LinkId) : Node :=
  if node.binds name link then node.remove name else node

def hasLink (node : Node) (name : String) : Bool :=
  node.links.contains name

/-- The bound names in ascending order. -/
def names (node : Node) : List String :=
  node.links.keys.mergeSort (fun a b => decide (a ≤ b))

def nameOf (node : Node) (link : LinkId) : Option String :=
  (node.links.find? (· == link)).map Prod.fst

end Node

end RobotBus
