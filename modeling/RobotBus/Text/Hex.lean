/-!
# Hexadecimal text

Lower-case hexadecimal digits, for bytes and for numbers of a fixed width.
-/

namespace RobotBus

abbrev Bytes := List UInt8

namespace Hex

/-- The lower-case digit of a value below sixteen. -/
def digit (n : Nat) : Char :=
  if n < 10 then Char.ofNat (48 + n) else Char.ofNat (87 + n)

/-- The last `width` hexadecimal digits of `n`, the most significant one first. -/
def digits : Nat → Nat → List Char
  | 0, _ => []
  | width + 1, n => digits width (n / 16) ++ [digit (n % 16)]

/-- `n` as exactly `width` digits, with leading zeros. -/
def padded (width n : Nat) : String :=
  String.ofList (digits width n)

/-- Two digits for each byte. -/
def ofBytes (bytes : Bytes) : String :=
  String.ofList (bytes.flatMap fun b => [digit (b.toNat / 16), digit (b.toNat % 16)])

theorem length_digits (width n : Nat) : (digits width n).length = width := by
  induction width generalizing n with
  | zero => rfl
  | succ width ih => simp [digits, ih]

end Hex

end RobotBus
