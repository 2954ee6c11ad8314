/-!
# Paths

A path is a sequence of names between slashes. Its first segment selects a link, which receives the
rest of the path. `Path.through` puts a link in front of a path, so that an answer to the path goes
back through that link.
-/

namespace RobotBus

namespace Path

/-- The target of a message to everyone. -/
def everyone : String := "*"

/-- The source of notifications that the network has changed. -/
def modificationSource : String := "#modsrc"

/-- Paths with this mark belong to probes for links that may not exist. -/
def probeMark : List Char := "/rsch-".toList

/-- Whether `needle` occurs in a text as consecutive characters. -/
def occursIn (needle : List Char) : List Char → Bool
  | [] => needle.isEmpty
  | c :: rest => needle.isPrefixOf (c :: rest) || occursIn needle rest

def isProbe (path : String) : Bool :=
  occursIn probeMark path.toList

/-- The first segment, and what follows the first slash if there is one. -/
def split (path : String) : String × Option String :=
  let chars := path.toList
  let head := String.ofList (chars.takeWhile (· ≠ '/'))
  match chars.dropWhile (· ≠ '/') with
  | [] => (head, none)
  | _ :: rest => (head, some (String.ofList rest))

/-- The path that leads through a link and then along `path`. -/
def through (link : String) : Option String → String
  | none => link
  | some path => link ++ "/" ++ path

/-- Link names are single segments other than the target of messages to everyone. -/
def isLinkName (name : String) : Bool :=
  !name.toList.isEmpty && !name.toList.contains '/' && name != everyone

end Path

end RobotBus
