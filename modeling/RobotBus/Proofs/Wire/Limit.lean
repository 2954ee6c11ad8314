import RobotBus.Proofs.Wire.Stream

/-!
# Frames under a limit

A decoder judges the length of a payload before it awaits the payload, and the encoder does not know
the limit of the decoder. So an encoded frame is taken by a decoder or refused with its length
(`decode_encoded`), whatever follows. Of a stream of encoded frames, a decoder takes those in front of
the first one that is too long, and stops at that one (`Encoded.drain_cases`).
-/

namespace RobotBus.Wire

namespace Frame

theorem read_of_too_long {frame : Frame} {limit : Nat} {base : UInt64} {bytes : Bytes}
    (hLong : limit < frame.payload.length) (hEncode : frame.encode base = .ok bytes)
    (rest : Bytes) : ∃ left, read limit (bytes ++ rest) =
      .error (.malformed (.badPayloadLength frame.payload.length)) left := by
  obtain ⟨hLargest, target, source, hTarget, hSource, rfl⟩ := encode_eq_ok_iff.1 hEncode
  rw [largestPayload] at hLargest
  have hReadTarget : ∀ more, readText (target ++ more) = .ok frame.target more :=
    fun more => readText_eq_ok_iff.2 ⟨target, hTarget, rfl⟩
  have hReadSource : ∀ more, readText (source ++ more) = .ok frame.source more :=
    fun more => readText_eq_ok_iff.2 ⟨source, hSource, rfl⟩
  have hReadLength : ∀ more, readI32 (bigEndianBytes 4 frame.payload.length ++ more) =
      .ok (frame.payload.length : Int) more :=
    fun more => (readI32_eq_ok_iff (by omega)).2 rfl
  simp only [body, List.append_assoc]
  rw [read, bind_of_ok (hReadTarget _), bind_of_ok (hReadSource _), bind_of_ok (hReadLength _),
    if_pos (.inr (by omega))]
  exact ⟨_, rfl⟩

/-- **An encoded frame is taken if its payload is within the limit, and refused otherwise**, whatever
follows it. -/
theorem decode_encoded {frame : Frame} (limit : Nat) {base : UInt64} {bytes : Bytes}
    (hEncode : frame.encode base = .ok bytes) (rest : Bytes) :
    (decoder limit).decode (bytes ++ rest) =
      if frame.payload.length ≤ limit then .item frame rest
      else .malformed (.badPayloadLength frame.payload.length) := by
  split
  · rename_i hFits
    exact decode_of_encode hFits hEncode rest
  · rename_i hLong
    obtain ⟨left, hRead⟩ := read_of_too_long (Nat.lt_of_not_le hLong) hEncode rest
    show (read limit).decode (bytes ++ rest) = _
    rw [Read.decode, hRead]

end Frame

namespace Encoded

variable {limit : Nat} {frames : List Frame} {buffer later : Bytes}

/-- The front of encoded bytes, wherever they are cut, leads to their first frame, to nothing, or to
a fault if that frame is too long. -/
theorem decode_cases (limit : Nat) (h : Encoded frames (buffer ++ later)) :
    match (Frame.decoder limit).decode buffer with
    | .item frame rest => frame.payload.length ≤ limit ∧
      ∃ frames', frames = frame :: frames' ∧ Encoded frames' (rest ++ later)
    | .incomplete _ => later = [] → frames = []
    | .malformed cause => ∃ frame frames', frames = frame :: frames' ∧
      limit < frame.payload.length ∧ cause = .badPayloadLength frame.payload.length := by
  generalize hBytes : buffer ++ later = bytes at h
  cases h with
  | nil =>
    obtain ⟨rfl, rfl⟩ := List.append_eq_nil_iff.1 hBytes
    rw [Frame.decode_nil]
    exact fun _ => rfl
  | @cons frame base bytes rest frames hEncode hRest =>
    have hWhole := Frame.decode_encoded limit hEncode rest
    rw [← hBytes] at hWhole
    cases hFront : (Frame.decoder limit).decode buffer with
    | item found left =>
      rw [(Frame.decoder limit).item_append _ _ _ later hFront] at hWhole
      split at hWhole
      · rename_i hFits
        obtain ⟨rfl, rfl⟩ := Decoded.item.inj hWhole
        exact ⟨hFits, frames, rfl, hRest⟩
      · cases hWhole
    | incomplete missing =>
      rintro rfl
      rw [List.append_nil, hFront] at hWhole
      split at hWhole <;> cases hWhole
    | malformed cause =>
      rw [(Frame.decoder limit).malformed_append _ _ later hFront] at hWhole
      split at hWhole
      · cases hWhole
      · rename_i hLong
        exact ⟨frame, frames, rfl, Nat.lt_of_not_le hLong, Decoded.malformed.inj hWhole⟩

/-- The frames that were taken are followed by nothing that has come, or by one that is too long. -/
def StopsBefore (limit : Nat) (left : List Frame) (later : Bytes) : Pause → Prop
  | .incomplete _ => later = [] → left = []
  | .malformed cause => ∃ frame left', left = frame :: left' ∧
    limit < frame.payload.length ∧ cause = .badPayloadLength frame.payload.length
  | .complete => False

/-- **Of encoded frames, a decoder takes those in front of the first one that is too long**, as far
as their bytes have come, and it finds no fault but the length of that one. -/
theorem drain_cases (limit : Nat) (h : Encoded frames (buffer ++ later)) :
    ∃ left, frames = ((Frame.decoder limit).drain buffer).items ++ left ∧
      (∀ frame ∈ ((Frame.decoder limit).drain buffer).items, frame.payload.length ≤ limit) ∧
      StopsBefore limit left later ((Frame.decoder limit).drain buffer).pause := by
  fun_induction Decoder.drain (Frame.decoder limit) buffer generalizing frames with
  | case1 buffer missing hDecode =>
    have hCases := h.decode_cases limit
    rw [hDecode] at hCases
    exact ⟨frames, rfl, List.forall_mem_nil _, hCases⟩
  | case2 buffer cause hDecode =>
    have hCases := h.decode_cases limit
    rw [hDecode] at hCases
    exact ⟨frames, rfl, List.forall_mem_nil _, hCases⟩
  | case3 buffer frame rest hDecode _ more =>
    rename_i ih
    have hCases := h.decode_cases limit
    rw [hDecode] at hCases
    obtain ⟨hFits, frames', rfl, hRest⟩ := hCases
    obtain ⟨left, hSplit, hItems, hPause⟩ := ih hRest
    refine ⟨left, ?_, List.forall_mem_cons.2 ⟨hFits, hItems⟩, hPause⟩
    rw [List.cons_append, ← hSplit]

end Encoded

end RobotBus.Wire
