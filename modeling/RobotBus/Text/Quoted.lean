import RobotBus.Text.Hex
import RobotBus.Text.Unprintable

/-!
# Quoted text

The form in which names and paths appear inside messages: between double quotes, with characters
that would be invisible or ambiguous written as escapes.
-/

namespace RobotBus

namespace Text

/-- Hexadecimal digits of `n` without leading zeros. -/
def shortHex (n : Nat) : List Char :=
  Nat.toDigits 16 n

def unicodeEscape (c : Char) : List Char :=
  ['\\', 'u', '\x7b'] ++ shortHex c.toNat ++ ['\x7d']

/-- How one character is written between quotes. -/
def escape (c : Char) : List Char :=
  if c = '"' then ['\\', '"']
  else if c = '\\' then ['\\', '\\']
  else if c = '\x00' then ['\\', '0']
  else if c = '\t' then ['\\', 't']
  else if c = '\n' then ['\\', 'n']
  else if c = '\r' then ['\\', 'r']
  else if c.toNat < 0x20 || c.toNat = 0x7f then unicodeEscape c
  else if c.toNat < 0x7f then [c]
  else if isUnprintable c then unicodeEscape c
  else [c]

def quote (s : String) : String :=
  String.ofList (['"'] ++ s.toList.flatMap escape ++ ['"'])

/-- The form of a text that may be absent. -/
def quoteOption : Option String → String
  | none => "None"
  | some s => "Some(" ++ quote s ++ ")"

end Text

end RobotBus
