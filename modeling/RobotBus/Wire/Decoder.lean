import RobotBus.Wire.Steady

/-!
# Decoders

A decoder looks for one item at the front of a receive buffer. `Decoder.drain` takes items until the
buffer is incomplete or malformed, and `Decoder.receive` does so as chunks of a stream arrive.
-/

namespace RobotBus.Wire

inductive Decoded (α : Type)
  | item (value : α) (rest : Bytes)
  /-- At least `missing` more bytes are needed. -/
  | incomplete (missing : Nat)
  | malformed (cause : Malformed)

/-- A decoder takes something off the buffer with every item, and nothing otherwise. What follows
does not change its findings. -/
structure Decoder (α : Type) where
  decode : Bytes → Decoded α
  shrinks : ∀ buffer a rest, decode buffer = .item a rest → rest.length < buffer.length
  item_append : ∀ buffer a rest more, decode buffer = .item a rest →
    decode (buffer ++ more) = .item a (rest ++ more)
  malformed_append : ∀ buffer cause more, decode buffer = .malformed cause →
    decode (buffer ++ more) = .malformed cause
  incomplete_append : ∀ buffer missing more, decode buffer = .incomplete missing →
    more.length < missing → ∃ missing', decode (buffer ++ more) = .incomplete missing'

/-- What a reader makes of the whole buffer. -/
def Read.decode (r : Read α) (buffer : Bytes) : Decoded α :=
  match r buffer with
  | .ok a rest => .item a rest
  | .error (.underflow missing) _ => .incomplete missing
  | .error (.malformed cause) _ => .malformed cause

def Read.decoder (r : Read α) (h : r.Consuming) (hSteady : r.Steady) : Decoder α where
  decode := r.decode
  shrinks buffer a rest hd := by
    unfold Read.decode at hd
    split at hd
    · rename_i hr
      cases hd
      exact h buffer a rest hr
    · cases hd
    · cases hd
  item_append buffer a rest more hd := by
    have hs := hSteady buffer more
    unfold Read.decode at hd ⊢
    split at hd
    · rename_i hr
      cases hd
      rw [hr] at hs
      simp [hs]
    · cases hd
    · cases hd
  malformed_append buffer cause more hd := by
    have hs := hSteady buffer more
    unfold Read.decode at hd ⊢
    split at hd
    · cases hd
    · cases hd
    · rename_i hr
      cases hd
      rw [hr] at hs
      obtain ⟨rest, hs⟩ := hs
      simp [hs]
  incomplete_append buffer missing more hd hMore := by
    have hs := hSteady buffer more
    unfold Read.decode at hd ⊢
    split at hd
    · cases hd
    · rename_i hr
      cases hd
      rw [hr] at hs
      obtain ⟨missing', rest, hs⟩ := hs hMore
      exact ⟨missing', by simp [hs]⟩
    · cases hd

/-- Why decoding stopped: bytes are missing, no further bytes can help, or nothing more is to be
decoded. -/
inductive Pause
  | incomplete (missing : Nat)
  | malformed (cause : Malformed)
  | complete
deriving DecidableEq, Repr

/-- The fault that decoding stopped at, if it did. -/
def Pause.fault? : Pause → Option Malformed
  | malformed cause => some cause
  | incomplete _ | complete => none

structure Drained (α : Type) where
  items : List α
  rest : Bytes
  pause : Pause

/-- Takes all items at the front of the buffer. -/
def Decoder.drain (d : Decoder α) (buffer : Bytes) : Drained α :=
  match h : d.decode buffer with
  | .incomplete missing => ⟨[], buffer, .incomplete missing⟩
  | .malformed cause => ⟨[], buffer, .malformed cause⟩
  | .item a rest =>
    have : rest.length < buffer.length := d.shrinks buffer a rest h
    let more := d.drain rest
    { more with items := a :: more.items }
termination_by buffer.length

/-- Takes at most one item. -/
def Decoder.drainOne (d : Decoder α) (buffer : Bytes) : Drained α :=
  match d.decode buffer with
  | .incomplete missing => ⟨[], buffer, .incomplete missing⟩
  | .malformed cause => ⟨[], buffer, .malformed cause⟩
  | .item a rest => ⟨[a], rest, .complete⟩

/-- One receive buffer is drained after each chunk. The answer has what each chunk led to. -/
def Decoder.receive (d : Decoder α) : Bytes → List Bytes → List (Drained α)
  | _, [] => []
  | buffer, chunk :: chunks =>
    let drained := d.drain (buffer ++ chunk)
    drained :: d.receive drained.rest chunks

end RobotBus.Wire
