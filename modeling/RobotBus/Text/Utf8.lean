import RobotBus.Text.Hex

/-!
# UTF-8

Texts as bytes. `decode` is inverse to `encode`, and bytes that are not UTF-8 are described by the
place and the kind of the first fault.
-/

namespace RobotBus

namespace Utf8

/-- Where bytes stop being UTF-8: `length` bytes from `index` on can begin no character, or, when
there is no length, the bytes end within a character that begins at `index`. -/
structure Fault where
  index : Nat
  length : Option Nat
deriving DecidableEq, Repr

def Fault.message (fault : Fault) : String :=
  match fault.length with
  | some n => s!"invalid utf-8 sequence of {n} bytes from index {fault.index}"
  | none => s!"incomplete utf-8 byte sequence from index {fault.index}"

def isContinuation (b : UInt8) : Bool :=
  0x80 ≤ b && b ≤ 0xbf

/-- The bytes that may follow `lead` in a character of two or more bytes: the range of the second
byte, and how many continuation bytes come after that. -/
def tail? (lead : UInt8) : Option (UInt8 × UInt8 × Nat) :=
  if 0xc2 ≤ lead && lead ≤ 0xdf then some (0x80, 0xbf, 0)
  else if lead = 0xe0 then some (0xa0, 0xbf, 1)
  else if lead = 0xed then some (0x80, 0x9f, 1)
  else if 0xe1 ≤ lead && lead ≤ 0xef then some (0x80, 0xbf, 1)
  else if lead = 0xf0 then some (0x90, 0xbf, 2)
  else if 0xf1 ≤ lead && lead ≤ 0xf3 then some (0x80, 0xbf, 2)
  else if lead = 0xf4 then some (0x80, 0x8f, 2)
  else none

/-- Reads `n` continuation bytes after `seen` bytes of a character. The answer is the size of the
character and the rest, or the length of the fault. -/
def continuations : Nat → Nat → Bytes → Except (Option Nat) (Nat × Bytes)
  | 0, seen, rest => .ok (seen, rest)
  | _ + 1, _, [] => .error none
  | n + 1, seen, b :: rest =>
    if isContinuation b then continuations n (seen + 1) rest else .error (some seen)

/-- Reads one character, as `continuations` does. -/
def character (lead : UInt8) (rest : Bytes) : Except (Option Nat) (Nat × Bytes) :=
  if lead < 0x80 then .ok (1, rest)
  else match tail? lead, rest with
    | none, _ => .error (some 1)
    | some _, [] => .error none
    | some (low, high, more), b :: rest =>
      if low ≤ b && b ≤ high then continuations more 2 rest else .error (some 1)

/-- The first fault of `bytes`, whose place in the whole text is `index`. The fuel bounds the number
of characters. -/
def scan : Nat → Nat → Bytes → Fault
  | 0, index, _ => ⟨index, none⟩
  | _ + 1, index, [] => ⟨index, none⟩
  | fuel + 1, index, b :: rest =>
    match character b rest with
    | .error length => ⟨index, length⟩
    | .ok (size, rest) => scan fuel (index + size) rest

/-- The first place at which `bytes` are not UTF-8. -/
def firstFault (bytes : Bytes) : Fault :=
  scan (bytes.length + 1) 0 bytes

def encode (s : String) : Bytes :=
  s.toByteArray.data.toList

def decode (bytes : Bytes) : Except Fault String :=
  match String.fromUTF8? ⟨bytes.toArray⟩ with
  | some s => .ok s
  | none => .error (firstFault bytes)

theorem decode_eq_ok_iff {bytes : Bytes} {s : String} :
    decode bytes = .ok s ↔ encode s = bytes := by
  unfold decode String.fromUTF8? encode
  constructor
  · intro h
    split at h
    · rename_i found hFound
      cases h
      split at hFound
      · cases hFound
        rfl
      · cases hFound
    · cases h
  · rintro rfl
    have h : (⟨s.toByteArray.data.toList.toArray⟩ : ByteArray) = s.toByteArray := by
      cases s.toByteArray
      simp
    simp only [h, s.isValidUTF8, dite_true]
    rfl

/-- Bytes are refused if they are the encoding of no text. -/
theorem decode_eq_error_iff {bytes : Bytes} {fault : Fault} :
    decode bytes = .error fault ↔ (∀ s, encode s ≠ bytes) ∧ fault = firstFault bytes := by
  cases h : String.fromUTF8? ⟨bytes.toArray⟩ with
  | some found =>
    have hFound : decode bytes = .ok found := by simp only [decode, h]
    rw [hFound]
    refine ⟨nofun, ?_⟩
    rintro ⟨hNone, _⟩
    exact absurd (decode_eq_ok_iff.1 hFound) (hNone found)
  | none =>
    have hNone : decode bytes = .error (firstFault bytes) := by simp only [decode, h]
    rw [hNone]
    constructor
    · intro hFault
      cases hFault
      refine ⟨?_, rfl⟩
      intro s hs
      rw [decode_eq_ok_iff.2 hs] at hNone
      cases hNone
    · rintro ⟨_, rfl⟩
      rfl

@[simp] theorem decode_encode (s : String) : decode (encode s) = .ok s :=
  decode_eq_ok_iff.2 rfl

end Utf8

end RobotBus
