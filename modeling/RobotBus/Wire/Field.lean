import RobotBus.Text.Utf8

/-!
# Fields

The parts that frames and headers are made of: big-endian numbers and texts that may be absent. A
reader takes its field from the front of a buffer and says whether the buffer is too short for the
field or holds something else.
-/

namespace RobotBus.Wire

/-- The length that stands for an absent text. Every shorter length is that of a text. -/
def absentMarker : Nat := 0xffff

inductive Malformed
  | badText (fault : Utf8.Fault)
  | badPayloadLength (length : Int)
  | checksumMismatch (expected found : UInt64)
  | badMagic (found : UInt32)
  | badVersion (found : UInt16)
deriving DecidableEq, Repr

def Malformed.message : Malformed → String
  | badText fault => "string is not valid UTF-8: " ++ fault.message
  | badPayloadLength length => s!"invalid payload length {length}"
  | checksumMismatch expected found =>
    "checksum mismatch: expected " ++ Hex.padded 16 expected.toNat ++ ", was "
      ++ Hex.padded 16 found.toNat
  | badMagic found => "invalid magic number " ++ Hex.padded 8 found.toNat
  | badVersion found => s!"unsupported protocol version {found.toNat}"

/-- Why a field could not be read: at least `missing` more bytes are needed, or no further bytes can
help. -/
inductive ReadError
  | underflow (missing : Nat)
  | malformed (cause : Malformed)
deriving DecidableEq, Repr

def ReadError.message : ReadError → String
  | underflow _ => "buffer underflow"
  | malformed cause => cause.message

inductive EncodeError
  | textTooLong (bytes : Nat)
  | payloadTooLong
deriving DecidableEq, Repr

def EncodeError.message : EncodeError → String
  | textTooLong bytes => s!"string of {bytes} bytes is too long to be encoded"
  | payloadTooLong => "out of range integral type conversion attempted"

/-! ## Reading -/

/-- A reader of a field at the front of a buffer. The buffer that is left is known also when the
field can not be read. -/
abbrev Read := EStateM ReadError Bytes

/-- The number whose base-256 digits are `bytes`, the most significant one first. -/
def bigEndian (bytes : Bytes) : Nat :=
  bytes.foldl (fun n b => n * 256 + b.toNat) 0

def readBytes (n : Nat) : Read Bytes := fun buffer =>
  let taken := buffer.take n
  if taken.length < n then .error (.underflow (n - taken.length)) buffer
  else .ok taken (buffer.drop n)

def readNat (width : Nat) : Read Nat :=
  bigEndian <$> readBytes width

def readU16 : Read UInt16 :=
  UInt16.ofNat <$> readNat 2

def readU32 : Read UInt32 :=
  UInt32.ofNat <$> readNat 4

def readU64 : Read UInt64 :=
  UInt64.ofNat <$> readNat 8

/-- A number of four bytes in two's complement. -/
def readI32 : Read Int :=
  (fun n : Nat => Int.bmod n 4294967296) <$> readNat 4

def refuse (cause : Malformed) : Read α :=
  throw (.malformed cause)

/-- A text that may be absent, after its length in two bytes. -/
def readText : Read (Option String) := do
  let length ← readNat 2
  if length = absentMarker then
    return none
  let bytes ← readBytes length
  match Utf8.decode bytes with
  | .ok text => return some text
  | .error fault => refuse (.badText fault)

/-! ## Writing -/

/-- The last `width` base-256 digits of `n`, the most significant one first. -/
def bigEndianBytes : Nat → Nat → Bytes
  | 0, _ => []
  | width + 1, n => bigEndianBytes width (n / 256) ++ [UInt8.ofNat n]

theorem length_bigEndianBytes (width n : Nat) : (bigEndianBytes width n).length = width := by
  induction width generalizing n with
  | zero => rfl
  | succ width ih => simp [bigEndianBytes, ih]

def textBytes : Option String → Except EncodeError Bytes
  | none => .ok (bigEndianBytes 2 absentMarker)
  | some text =>
    let bytes := Utf8.encode text
    if bytes.length < absentMarker then .ok (bigEndianBytes 2 bytes.length ++ bytes)
    else .error (.textTooLong bytes.length)

/-! ## What a reader leaves -/

/-- A reader that leaves no more than it was given. -/
def Read.Shrinking (r : Read α) : Prop :=
  ∀ buffer a rest, r buffer = .ok a rest → rest.length ≤ buffer.length

/-- A reader that takes something whenever it succeeds. -/
def Read.Consuming (r : Read α) : Prop :=
  ∀ buffer a rest, r buffer = .ok a rest → rest.length < buffer.length

theorem Read.Consuming.shrinking {r : Read α} (h : r.Consuming) : r.Shrinking :=
  fun buffer a rest hr => Nat.le_of_lt (h buffer a rest hr)

theorem bind_eq_ok {r : Read α} {f : α → Read β} {buffer : Bytes} {b : β} {rest : Bytes}
    (h : (r >>= f) buffer = .ok b rest) :
    ∃ a mid, r buffer = .ok a mid ∧ f a mid = .ok b rest := by
  change EStateM.bind r f buffer = _ at h
  unfold EStateM.bind at h
  split at h
  · rename_i a mid hr
    exact ⟨a, mid, hr, h⟩
  · cases h

theorem map_eq_ok {r : Read α} {f : α → β} {buffer : Bytes} {b : β} {rest : Bytes}
    (h : (f <$> r) buffer = .ok b rest) : ∃ a, r buffer = .ok a rest ∧ f a = b := by
  change EStateM.map f r buffer = _ at h
  unfold EStateM.map at h
  split at h
  · rename_i a mid hr
    cases h
    exact ⟨a, hr, rfl⟩
  · cases h

theorem Read.Consuming.bind {r : Read α} {f : α → Read β} (hr : r.Consuming)
    (hf : ∀ a, (f a).Shrinking) : (r >>= f).Consuming := by
  intro buffer b rest h
  obtain ⟨a, mid, h₁, h₂⟩ := bind_eq_ok h
  exact Nat.lt_of_le_of_lt (hf a mid b rest h₂) (hr buffer a mid h₁)

theorem Read.Shrinking.bind {r : Read α} {f : α → Read β} (hr : r.Shrinking)
    (hf : ∀ a, (f a).Shrinking) : (r >>= f).Shrinking := by
  intro buffer b rest h
  obtain ⟨a, mid, h₁, h₂⟩ := bind_eq_ok h
  exact Nat.le_trans (hf a mid b rest h₂) (hr buffer a mid h₁)

theorem Read.Consuming.map {r : Read α} {f : α → β} (hr : r.Consuming) : (f <$> r).Consuming := by
  intro buffer b rest h
  obtain ⟨a, h₁, _⟩ := map_eq_ok h
  exact hr buffer a rest h₁

theorem shrinking_pure (a : α) : Read.Shrinking (pure a) := by
  intro buffer b rest h
  cases h
  exact Nat.le_refl _

theorem shrinking_refuse (cause : Malformed) : Read.Shrinking (refuse cause : Read α) := by
  intro buffer b rest h
  cases h

theorem readBytes_eq_ok_iff {n : Nat} {buffer taken rest : Bytes} :
    readBytes n buffer = .ok taken rest ↔ taken.length = n ∧ buffer = taken ++ rest := by
  simp only [readBytes, List.length_take]
  constructor
  · intro h
    split at h
    · cases h
    · cases h
      exact ⟨by simp; omega, by simp⟩
  · rintro ⟨rfl, rfl⟩
    simp

theorem shrinking_readBytes (n : Nat) : (readBytes n).Shrinking := by
  intro buffer a rest h
  obtain ⟨_, rfl⟩ := readBytes_eq_ok_iff.1 h
  simp

theorem consuming_readBytes {n : Nat} (hn : 0 < n) : (readBytes n).Consuming := by
  intro buffer a rest h
  obtain ⟨hLength, rfl⟩ := readBytes_eq_ok_iff.1 h
  simp
  omega

theorem consuming_readNat {width : Nat} (h : 0 < width) : (readNat width).Consuming :=
  (consuming_readBytes h).map

theorem consuming_readU16 : readU16.Consuming :=
  (consuming_readNat (by decide : 0 < 2)).map

theorem consuming_readU32 : readU32.Consuming :=
  (consuming_readNat (by decide : 0 < 4)).map

theorem consuming_readU64 : readU64.Consuming :=
  (consuming_readNat (by decide : 0 < 8)).map

theorem consuming_readI32 : readI32.Consuming :=
  (consuming_readNat (by decide : 0 < 4)).map

theorem consuming_readText : readText.Consuming := by
  refine (consuming_readNat (by decide)).bind fun length => ?_
  by_cases h : length = absentMarker
  · simp only [h, if_true]
    exact shrinking_pure none
  · simp only [h, if_false]
    refine (shrinking_readBytes length).bind fun bytes => ?_
    cases Utf8.decode bytes with
    | ok text => exact shrinking_pure (some text)
    | error fault => exact shrinking_refuse _

end RobotBus.Wire
