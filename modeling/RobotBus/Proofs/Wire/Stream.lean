import RobotBus.Proofs.Wire.Frame
import RobotBus.Wire.Receiver

/-!
# Streams in chunks

What a decoder makes of a stream does not depend on how the stream is cut into chunks.
`drain_append` says that draining a buffer and then draining what is left together with more bytes
is the same as draining everything at once; by induction over the chunks, `outcome_receive` says
that all cuts come to what draining the whole stream comes to. `decoding_ignores_cuts` states it
for frames, also for the receiver that looks at a chunk only when that can lead to something.

A stream that was encoded frame by frame is an `Encoded` one. Its frames are what a decoder finds at
the front of the stream, one after the other (`Encoded.decode_front`).
-/

namespace RobotBus.Wire

/-! ## Draining in parts -/

namespace Decoder

theorem drain_append (d : Decoder α) (buffer more : Bytes) :
    d.drain (buffer ++ more) =
      { d.drain ((d.drain buffer).rest ++ more) with
        items := (d.drain buffer).items ++ (d.drain ((d.drain buffer).rest ++ more)).items } := by
  fun_induction Decoder.drain d buffer with
  | case1 buffer missing h => rfl
  | case2 buffer cause h => rfl
  | case3 buffer a rest h _ drained ih =>
    rw [drain_of_item (d.item_append buffer a rest more h), ih]
    rfl

/-- What the answers to a sequence of chunks come to: all items, and how the last chunk left the
buffer. -/
def outcome (answers : List (Drained α)) : List α × Option (Bytes × Pause) :=
  (answers.flatMap (·.items), answers.getLast?.map fun drained => (drained.rest, drained.pause))

/-- **All cuts of a stream come to what draining the whole stream comes to.** -/
theorem outcome_receive (d : Decoder α) (buffer : Bytes) {chunks : List Bytes} (h : chunks ≠ []) :
    outcome (d.receive buffer chunks) =
      let drained := d.drain (buffer ++ chunks.flatten)
      (drained.items, some (drained.rest, drained.pause)) := by
  induction chunks generalizing buffer with
  | nil => exact absurd rfl h
  | cons chunk chunks ih =>
    cases chunks with
    | nil => simp [receive, outcome]
    | cons next chunks =>
      have hRest := ih (d.drain (buffer ++ chunk)).rest (List.cons_ne_nil next chunks)
      have hLast : d.receive (d.drain (buffer ++ chunk)).rest (next :: chunks) ≠ [] :=
        List.cons_ne_nil _ _
      have hFlat : buffer ++ (chunk :: next :: chunks).flatten =
          (buffer ++ chunk) ++ (next :: chunks).flatten := by
        rw [List.flatten_cons, List.append_assoc]
      simp only [outcome, Prod.mk.injEq] at hRest
      rw [receive, outcome, List.flatMap_cons, List.getLast?_cons_of_ne_nil hLast, hRest.1, hRest.2,
        hFlat, drain_append d (buffer ++ chunk)]

theorem outcome_receive_eq (d : Decoder α) {cut cut' : List Bytes} (h : cut ≠ []) (h' : cut' ≠ [])
    (hFlat : cut.flatten = cut'.flatten) :
    outcome (d.receive [] cut) = outcome (d.receive [] cut') := by
  rw [outcome_receive d [] h, outcome_receive d [] h', hFlat]

end Decoder

namespace Receiver

/-- What a receiver has made of a sequence of chunks: all items, and what is left with the fault, if
there is one. -/
def outcome (fed : List (List α × Receiver)) : List α × Option (Bytes × Option Malformed) :=
  ((fed.map shown).flatMap (·.1), (fed.map shown).getLast?.map (·.2))

theorem outcome_feedAll (d : Decoder α) (chunks : List Bytes) :
    outcome (feedAll {} d.drain chunks) =
      let (items, last) := Decoder.outcome (d.receive [] chunks)
      (items, last.map fun (rest, pause) => (rest, pause.fault?)) := by
  rw [outcome, feedAll_drain, Decoder.outcome, List.getLast?_map, List.flatMap_map, Option.map_map]
  simp only [Option.map_map]
  rfl

end Receiver

/-- **What a decoder finds in a stream does not depend on how the stream is cut**: neither the
frames nor what is left of the stream, nor whether the decoder waits or has met a fault. While it
waits, and behind a fault, it takes nothing off the buffer. A frame and a fault are found again
whatever bytes follow. -/
theorem Frame.decoding_ignores_cuts (limit : Nat) :
    (∀ cut cut' : List Bytes, cut ≠ [] → cut' ≠ [] → cut.flatten = cut'.flatten →
      Decoder.outcome ((decoder limit).receive [] cut) =
          Decoder.outcome ((decoder limit).receive [] cut') ∧
        Receiver.outcome (Receiver.feedAll {} (decoder limit).drain cut) =
          Receiver.outcome (Receiver.feedAll {} (decoder limit).drain cut')) ∧
    (∀ buffer missing, (decoder limit).decode buffer = .incomplete missing →
      (decoder limit).drain buffer = ⟨[], buffer, .incomplete missing⟩) ∧
    (∀ buffer cause more, (decoder limit).decode buffer = .malformed cause →
      (decoder limit).decode (buffer ++ more) = .malformed cause ∧
        (decoder limit).drain (buffer ++ more) = ⟨[], buffer ++ more, .malformed cause⟩) ∧
    (∀ buffer frame rest more, (decoder limit).decode buffer = .item frame rest →
      (decoder limit).decode (buffer ++ more) = .item frame (rest ++ more)) := by
  refine ⟨?_, ?_, ?_, ?_⟩
  · intro cut cut' hCut hCut' hFlat
    have hOutcome := Decoder.outcome_receive_eq (decoder limit) hCut hCut' hFlat
    refine ⟨hOutcome, ?_⟩
    rw [Receiver.outcome_feedAll, Receiver.outcome_feedAll, hOutcome]
  · intro buffer missing hBuffer
    exact Decoder.drain_of_incomplete hBuffer
  · intro buffer cause more hBuffer
    have hMore := (decoder limit).malformed_append _ _ more hBuffer
    exact ⟨hMore, Decoder.drain_of_malformed hMore⟩
  · intro buffer frame rest more hBuffer
    exact (decoder limit).item_append _ _ _ more hBuffer

theorem Frame.keepalive_in_two_chunks :
    ∃ bytes, keepalive.encode 0 = .ok bytes ∧
      Decoder.outcome ((decoder 2).receive [] [bytes.take 5, bytes.drop 5]) =
        ([keepalive], some ([], .incomplete 2)) := by
  obtain ⟨bytes, hEncode⟩ : ∃ bytes, keepalive.encode 0 = .ok bytes :=
    encode_isOk_iff.2 isEncodable_keepalive
  refine ⟨bytes, hEncode, ?_⟩
  have hFlat : [bytes.take 5, bytes.drop 5].flatten = [bytes].flatten := by
    simp
  obtain ⟨hCuts, _⟩ :=
    (decoding_ignores_cuts 2).1 _ _ (List.cons_ne_nil _ _) (List.cons_ne_nil _ _) hFlat
  have hItem : (decoder 2).decode bytes = .item keepalive [] := by
    rw [← List.append_nil bytes]
    exact decode_of_encode (Nat.le_refl 2) hEncode []
  rw [hCuts, Decoder.receive, Decoder.receive, List.nil_append, Decoder.drain_of_item hItem,
    Decoder.drain_of_incomplete (decode_nil 2)]
  rfl

/-! ## Frames one after the other -/

/-- Bytes that hold the given frames, each with some checksum base, and nothing else. -/
inductive Encoded : List Frame → Bytes → Prop
  | nil : Encoded [] []
  | cons {frame : Frame} {base : UInt64} {bytes rest : Bytes} {frames : List Frame} :
    frame.encode base = .ok bytes → Encoded frames rest → Encoded (frame :: frames) (bytes ++ rest)

namespace Encoded

theorem append {frames frames' : List Frame} {bytes bytes' : Bytes} (h : Encoded frames bytes)
    (h' : Encoded frames' bytes') : Encoded (frames ++ frames') (bytes ++ bytes') := by
  induction h with
  | nil => exact h'
  | cons hEncode _ ih =>
    rw [List.append_assoc]
    exact .cons hEncode ih

theorem singleton {frame : Frame} {base : UInt64} {bytes : Bytes}
    (h : frame.encode base = .ok bytes) : Encoded [frame] bytes := by
  have hSingle := Encoded.cons h .nil
  rwa [List.append_nil] at hSingle

/-- **The front of encoded bytes, wherever they are cut, leads to their first frame or to
nothing.** -/
theorem decode_front {limit : Nat} {frames : List Frame} {buffer later : Bytes}
    (h : Encoded frames (buffer ++ later))
    (hLimit : ∀ frame ∈ frames, frame.payload.length ≤ limit) :
    match (Frame.decoder limit).decode buffer with
    | .item frame rest => ∃ frames', frames = frame :: frames' ∧ Encoded frames' (rest ++ later)
    | .incomplete _ => later = [] → frames = []
    | .malformed _ => False := by
  generalize hBytes : buffer ++ later = bytes at h
  cases h with
  | nil =>
    obtain ⟨rfl, rfl⟩ := List.append_eq_nil_iff.1 hBytes
    rw [Frame.decode_nil]
    exact fun _ => rfl
  | @cons frame base bytes rest frames hEncode hRest =>
    have hFrame := hLimit frame List.mem_cons_self
    have hWhole := Frame.decode_of_encode hFrame hEncode rest
    rw [← hBytes] at hWhole
    cases hFront : (Frame.decoder limit).decode buffer with
    | item found left =>
      have hItem := (Frame.decoder limit).item_append _ _ _ later hFront
      rw [hWhole, Decoded.item.injEq] at hItem
      obtain ⟨rfl, rfl⟩ := hItem
      exact ⟨frames, rfl, hRest⟩
    | incomplete missing =>
      rintro rfl
      rw [List.append_nil, hFront] at hWhole
      cases hWhole
    | malformed cause =>
      rw [(Frame.decoder limit).malformed_append _ _ later hFront] at hWhole
      cases hWhole

end Encoded

end RobotBus.Wire
