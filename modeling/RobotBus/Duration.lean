/-!
# Durations

Spans and moments of time in nanoseconds, and the notation of a span in its largest fitting unit.
-/

namespace RobotBus

/-- A span of time in nanoseconds. -/
abbrev Duration := Nat

/-- A moment, as the nanoseconds since the clock was started. -/
abbrev Moment := Nat

namespace Duration

def milliseconds (n : Nat) : Duration :=
  n * 1000000

def seconds (n : Nat) : Duration :=
  n * 1000000000

/-- The first `places` decimal digits after the point of `n / 10 ^ places`. -/
def fractionDigits : Nat → Nat → List Char
  | 0, _ => []
  | places + 1, n => fractionDigits places (n / 10) ++ [Char.ofNat (48 + n % 10)]

/-- A fraction without trailing zeros, and without the point if nothing is left. -/
def fraction (places n : Nat) : List Char :=
  match ((fractionDigits places n).reverse.dropWhile (· = '0')).reverse with
  | [] => []
  | digits => '.' :: digits

def inUnit (ns : Duration) (places : Nat) (unit : String) : String :=
  let scale := Nat.pow 10 places
  toString (ns / scale) ++ String.ofList (fraction places (ns % scale)) ++ unit

/-- The largest unit with a positive whole part is used; nanoseconds are whole. -/
def render (ns : Duration) : String :=
  if 1000000000 ≤ ns then inUnit ns 9 "s"
  else if 1000000 ≤ ns then inUnit ns 6 "ms"
  else if 1000 ≤ ns then inUnit ns 3 "µs"
  else inUnit ns 0 "ns"

end Duration

end RobotBus
