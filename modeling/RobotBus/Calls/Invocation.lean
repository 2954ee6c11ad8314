import RobotBus.Bindings
import RobotBus.Duration
import RobotBus.Text.Hex

/-!
# Invocations

A call is known by a number while it waits for its reply. `Pending` gives out numbers that no
waiting call has, in ascending order and wrapping around. A reply finds its call by a path of
exactly eight hexadecimal digits.
-/

namespace RobotBus.Calls

abbrev InvocationId := UInt32

/-! ## Paths -/

namespace InvocationId

/-- The value of a hexadecimal digit of either case. -/
def digit? (c : Char) : Option Nat :=
  if '0' ≤ c ∧ c ≤ '9' then some (c.toNat - 48)
  else if 'a' ≤ c ∧ c ≤ 'f' then some (c.toNat - 87)
  else if 'A' ≤ c ∧ c ≤ 'F' then some (c.toNat - 55)
  else none

/-- The value of digits behind others of the value `n`. -/
def value? : Nat → List Char → Option Nat
  | n, [] => some n
  | n, c :: cs => do value? (n * 16 + (← digit? c)) cs

def toPath (id : InvocationId) : String :=
  Hex.padded 8 id.toNat

def ofPath? (path : String) : Option InvocationId :=
  if path.toList.length = 8 then (value? 0 path.toList).map UInt32.ofNat else none

end InvocationId

/-! ## Waiting calls -/

/-- A call waits for its reply: which call of its manager, what it invoked, and since when. -/
structure Invocation where
  call : Nat
  target : String
  issuedAt : Moment
deriving DecidableEq, Repr

structure Pending where
  next : InvocationId := 0
  invocations : Bindings InvocationId Invocation := .empty

namespace Pending

/-- The first of `fuel` numbers from `id` on that no call has. -/
def freeId? (invocations : Bindings InvocationId Invocation) :
    Nat → InvocationId → Option InvocationId
  | 0, _ => none
  | fuel + 1, id => if invocations.contains id then freeId? invocations fuel (id + 1) else some id

/-- Gives a number to a call. There is none if all numbers are taken. -/
def register (pending : Pending) (invocation : Invocation) : Option (InvocationId × Pending) :=
  (freeId? pending.invocations (pending.invocations.size + 1) pending.next).map fun id =>
    (id, ⟨id + 1, pending.invocations.insert id invocation⟩)

def get? (pending : Pending) (id : InvocationId) : Option Invocation :=
  pending.invocations.get? id

def remove (pending : Pending) (id : InvocationId) : Pending :=
  { pending with invocations := pending.invocations.erase id }

def size (pending : Pending) : Nat :=
  pending.invocations.size

end Pending

end RobotBus.Calls
