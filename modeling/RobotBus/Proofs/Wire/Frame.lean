import RobotBus.Proofs.Wire.Field
import RobotBus.Wire.Frame

/-!
# Frames read back

`Frame.encode` succeeds exactly on the frames that fit the format (`encode_isOk_iff`), and
`Frame.read` accepts exactly what `Frame.encode` produces, for frames whose payload is within the
limit (`read_eq_ok_iff`). From the two, `decode_item_iff_encode` tells all there is to know about
the frames that a decoder finds: they are the encoded ones, the checksum base of each is determined
by its bytes, and with any byte missing at the end the decoder goes on waiting.
-/

namespace RobotBus.Wire

theorem length_baseBytes (base : UInt64) : (baseBytes base).length = 8 :=
  length_bigEndianBytes 8 base.toNat

theorem baseBytes_inj {a b : UInt64} (h : baseBytes a = baseBytes b) : a = b := by
  have hBytes := congrArg bigEndian h
  have ha : a.toNat < valueCount 8 := a.toNat_lt
  have hb : b.toNat < valueCount 8 := b.toNat_lt
  rw [baseBytes, baseBytes, bigEndian_bigEndianBytes, bigEndian_bigEndianBytes,
    Nat.mod_eq_of_lt ha, Nat.mod_eq_of_lt hb] at hBytes
  exact UInt64.toNat_inj.mp hBytes

namespace Frame

/-! ## Writing -/

/-- A frame that has a form on the wire. -/
def isEncodable (frame : Frame) : Bool :=
  textFits frame.target && textFits frame.source && decide (frame.payload.length ≤ 2147483647)

/-- What follows the texts of a frame. -/
def body (payload : Bytes) (base : UInt64) : Bytes :=
  bigEndianBytes 4 payload.length ++ (baseBytes base ++ (payload ++
    bigEndianBytes 8 (checksum base payload).toNat))

theorem encode_eq_ok_iff {frame : Frame} {base : UInt64} {bytes : Bytes} :
    frame.encode base = .ok bytes ↔
      frame.payload.length ≤ largestPayload ∧ ∃ target source,
        textBytes frame.target = .ok target ∧ textBytes frame.source = .ok source ∧
          bytes = target ++ (source ++ body frame.payload base) := by
  rw [encode]
  by_cases hLong : largestPayload < frame.payload.length
  · rw [if_pos hLong]
    refine ⟨fun h => ?_, fun h => absurd h.1 (by omega)⟩
    cases h
  · rw [if_neg hLong]
    cases hTarget : textBytes frame.target with
    | error cause =>
      refine ⟨fun h => ?_, fun ⟨_, _, _, h, _⟩ => ?_⟩ <;> cases h
    | ok target =>
      cases hSource : textBytes frame.source with
      | error cause =>
        refine ⟨fun h => ?_, fun ⟨_, _, _, _, h, _⟩ => ?_⟩ <;> cases h
      | ok source =>
        constructor
        · intro h
          refine ⟨by omega, target, source, rfl, rfl, ?_⟩
          cases h
          simp only [body, List.append_assoc]
        · rintro ⟨_, target', source', hT, hS, rfl⟩
          cases hT
          cases hS
          change Except.ok _ = Except.ok _
          simp only [body, List.append_assoc]

theorem encode_isOk_iff {frame : Frame} {base : UInt64} :
    (∃ bytes, frame.encode base = .ok bytes) ↔ frame.isEncodable = true := by
  simp only [encode_eq_ok_iff, isEncodable, Bool.and_eq_true, decide_eq_true_eq,
    ← textBytes_isOk_iff]
  constructor
  · rintro ⟨_, hLength, target, source, hTarget, hSource, _⟩
    exact ⟨⟨⟨target, hTarget⟩, source, hSource⟩, hLength⟩
  · rintro ⟨⟨⟨target, hTarget⟩, source, hSource⟩, hLength⟩
    exact ⟨_, hLength, target, source, hTarget, hSource, rfl⟩

/-- **Appending writes the bytes of the frame, or nothing.** -/
theorem append_eq (frame : Frame) (base : UInt64) (buffer : Bytes) :
    frame.append base buffer = match frame.encode base with
      | .ok bytes => (buffer ++ bytes, none)
      | .error cause => (buffer, some cause) := by
  rw [append, write, encode]
  by_cases hLong : largestPayload < frame.payload.length
  · rw [if_pos hLong, if_pos hLong]
    change (buffer.take buffer.length, some EncodeError.payloadTooLong) = _
    rw [List.take_length]
    rfl
  · rw [if_neg hLong, if_neg hLong]
    cases hTarget : textBytes frame.target with
    | error cause =>
      change (buffer.take buffer.length, some cause) = (buffer, some cause)
      rw [List.take_length]
    | ok target =>
      cases hSource : textBytes frame.source with
      | error cause =>
        change ((buffer ++ target).take buffer.length, some cause) = (buffer, some cause)
        rw [List.take_left]
      | ok source =>
        change (_, none) = (buffer ++ _, none)
        simp only [List.append_assoc]

theorem isEncodable_keepalive : keepalive.isEncodable = true := by
  decide +kernel

/-! ## Reading -/

theorem read_of_encode {frame : Frame} {limit : Nat} {base : UInt64} {bytes : Bytes}
    (hLimit : frame.payload.length ≤ limit) (hEncode : frame.encode base = .ok bytes)
    (rest : Bytes) : read limit (bytes ++ rest) = .ok frame rest := by
  obtain ⟨hLargest, target, source, hTarget, hSource, rfl⟩ := encode_eq_ok_iff.1 hEncode
  rw [largestPayload] at hLargest
  have hSum := (checksum base frame.payload).toNat_lt
  simp only [body, List.append_assoc]
  refine bind_eq_ok_iff.2 ⟨_, _, readText_eq_ok_iff.2 ⟨target, hTarget, rfl⟩, ?_⟩
  refine bind_eq_ok_iff.2 ⟨_, _, readText_eq_ok_iff.2 ⟨source, hSource, rfl⟩, ?_⟩
  refine bind_eq_ok_iff.2 ⟨_, _, (readI32_eq_ok_iff (by omega)).2 rfl, ?_⟩
  rw [if_neg (by omega)]
  refine bind_eq_ok_iff.2 ⟨_, _, readU64_eq_ok_iff.2 rfl, ?_⟩
  refine bind_eq_ok_iff.2 ⟨frame.payload, _, readBytes_eq_ok_iff.2 ⟨rfl, rfl⟩, ?_⟩
  refine bind_eq_ok_iff.2 ⟨_, _, readU64_eq_ok_iff.2 rfl, ?_⟩
  rw [if_pos rfl]
  exact pure_eq_ok_iff.2 ⟨rfl, rfl⟩

/-- A frame that was read was written before: with the base that was found in front of its
payload. -/
theorem encode_of_read {frame : Frame} {limit : Nat} {buffer rest : Bytes}
    (h : read limit buffer = .ok frame rest) :
    frame.payload.length ≤ limit ∧
      ∃ base bytes, frame.encode base = .ok bytes ∧ buffer = bytes ++ rest := by
  obtain ⟨target, behindTarget, hReadTarget, hBehindTarget⟩ := bind_eq_ok h
  obtain ⟨targetBytes, hTarget, rfl⟩ := readText_eq_ok_iff.1 hReadTarget
  obtain ⟨source, behindSource, hReadSource, hBehindSource⟩ := bind_eq_ok hBehindTarget
  obtain ⟨sourceBytes, hSource, rfl⟩ := readText_eq_ok_iff.1 hReadSource
  obtain ⟨length, behindLength, hReadLength, hBehindLength⟩ := bind_eq_ok hBehindSource
  have hSmall := readI32_lt hReadLength
  split at hBehindLength
  · exact absurd hBehindLength refuse_ne_ok
  · rename_i hJudged
    -- the length passed its test, so it is that of some payload
    obtain ⟨n, rfl⟩ := Int.eq_ofNat_of_zero_le (show 0 ≤ length by omega)
    obtain rfl := (readI32_eq_ok_iff (by omega)).1 hReadLength
    obtain ⟨base, behindBase, hReadBase, hBehindBase⟩ := bind_eq_ok hBehindLength
    obtain rfl := readU64_eq_ok_iff.1 hReadBase
    obtain ⟨payload, behindPayload, hReadPayload, hBehindPayload⟩ := bind_eq_ok hBehindBase
    obtain ⟨hPayload, rfl⟩ := readBytes_eq_ok_iff.1 hReadPayload
    obtain ⟨found, behindSum, hReadSum, hBehindSum⟩ := bind_eq_ok hBehindPayload
    obtain rfl := readU64_eq_ok_iff.1 hReadSum
    split at hBehindSum
    · rename_i hFound
      obtain ⟨rfl, rfl⟩ := pure_eq_ok_iff.1 hBehindSum
      rw [Int.toNat_natCast] at hPayload
      refine ⟨by rw [hPayload]; omega, base, _, encode_eq_ok_iff.2
        ⟨by rw [hPayload, largestPayload]; omega, targetBytes, sourceBytes, hTarget, hSource, rfl⟩,
        ?_⟩
      rw [body, hPayload, hFound]
      simp only [baseBytes, List.append_assoc]
    · exact absurd hBehindSum refuse_ne_ok

theorem read_eq_ok_iff {frame : Frame} {limit : Nat} {buffer rest : Bytes} :
    read limit buffer = .ok frame rest ↔
      frame.payload.length ≤ limit ∧
        ∃ base bytes, frame.encode base = .ok bytes ∧ buffer = bytes ++ rest := by
  constructor
  · exact encode_of_read
  · rintro ⟨hLimit, base, bytes, hEncode, rfl⟩
    exact read_of_encode hLimit hEncode rest

/-! ## Decoding -/

theorem decode_eq_item_iff {limit : Nat} {frame : Frame} {buffer rest : Bytes} :
    (decoder limit).decode buffer = .item frame rest ↔ read limit buffer = .ok frame rest := by
  change (read limit).decode buffer = _ ↔ _
  rw [Read.decode]
  split
  · rename_i hRead
    rw [hRead, Decoded.item.injEq, EStateM.Result.ok.injEq]
  · rename_i hRead
    rw [hRead]
    refine ⟨fun h => ?_, fun h => ?_⟩ <;> cases h
  · rename_i hRead
    rw [hRead]
    refine ⟨fun h => ?_, fun h => ?_⟩ <;> cases h

theorem decode_nil (limit : Nat) : (decoder limit).decode [] = .incomplete 2 := rfl

theorem decode_of_encode {frame : Frame} {limit : Nat} {base : UInt64} {bytes : Bytes}
    (hLimit : frame.payload.length ≤ limit) (hEncode : frame.encode base = .ok bytes)
    (rest : Bytes) : (decoder limit).decode (bytes ++ rest) = .item frame rest :=
  decode_eq_item_iff.2 (read_of_encode hLimit hEncode rest)

/-- The bytes of a frame hold its checksum base. -/
theorem base_eq_of_encode {frame : Frame} {base base' : UInt64} {bytes bytes' rest rest' : Bytes}
    (hEncode : frame.encode base = .ok bytes) (hEncode' : frame.encode base' = .ok bytes')
    (h : bytes ++ rest = bytes' ++ rest') : base = base' := by
  obtain ⟨_, target, source, hTarget, hSource, rfl⟩ := encode_eq_ok_iff.1 hEncode
  obtain ⟨_, target', source', hTarget', hSource', rfl⟩ := encode_eq_ok_iff.1 hEncode'
  cases hTarget.symm.trans hTarget'
  cases hSource.symm.trans hSource'
  simp only [body, List.append_assoc, List.append_cancel_left_eq] at h
  have hLengths : (baseBytes base).length = (baseBytes base').length := by
    rw [length_baseBytes, length_baseBytes]
  exact baseBytes_inj (List.append_inj h hLengths).1

/-- With a byte missing at the end a frame is awaited: it is not taken for another one, and not
refused. -/
theorem decode_of_prefix {frame : Frame} {limit : Nat} {base : UInt64} {bytes front : Bytes}
    (hLimit : frame.payload.length ≤ limit) (hEncode : frame.encode base = .ok bytes)
    (hPrefix : front <+: bytes) (hShorter : front ≠ bytes) :
    ∃ missing, (decoder limit).decode front = .incomplete missing := by
  obtain ⟨more, rfl⟩ := hPrefix
  have hWhole := decode_of_encode hLimit hEncode []
  rw [List.append_nil] at hWhole
  cases hFront : (decoder limit).decode front with
  | incomplete missing => exact ⟨missing, rfl⟩
  | malformed cause =>
    rw [(decoder limit).malformed_append _ _ more hFront] at hWhole
    cases hWhole
  | item found rest =>
    rw [(decoder limit).item_append _ _ _ more hFront, Decoded.item.injEq] at hWhole
    have hMore := (List.append_eq_nil_iff.1 hWhole.2).2
    rw [hMore, List.append_nil] at hShorter
    exact absurd rfl hShorter

/-- **A decoder finds a frame exactly where an encoded one stands** whose payload is within the
limit, and leaves what is behind it. The checksum base of that frame is determined, and the decoder
waits for the end of a frame of which only a part has come. -/
theorem decode_item_iff_encode (limit : Nat) (frame : Frame) (buffer rest : Bytes) :
    ((decoder limit).decode buffer = .item frame rest ↔
      frame.payload.length ≤ limit ∧
        ∃ base bytes, frame.encode base = .ok bytes ∧ buffer = bytes ++ rest) ∧
    (∀ base bytes base' bytes',
      frame.encode base = .ok bytes → buffer = bytes ++ rest →
      frame.encode base' = .ok bytes' → buffer = bytes' ++ rest → base = base') ∧
    (∀ base bytes front, frame.payload.length ≤ limit → frame.encode base = .ok bytes →
      front <+: bytes → front ≠ bytes →
      ∃ missing, (decoder limit).decode front = .incomplete missing) := by
  refine ⟨decode_eq_item_iff.trans read_eq_ok_iff, ?_, ?_⟩
  · intro base bytes base' bytes' hEncode hBuffer hEncode' hBuffer'
    exact base_eq_of_encode hEncode hEncode' (hBuffer.symm.trans hBuffer')
  · intro base bytes front hLimit hEncode hPrefix hShorter
    exact decode_of_prefix hLimit hEncode hPrefix hShorter

theorem decode_encoded_keepalive :
    ∃ bytes, keepalive.encode 0 = .ok bytes ∧
      (decoder 2).decode (bytes ++ [7]) = .item keepalive [7] := by
  obtain ⟨bytes, hEncode⟩ : ∃ bytes, keepalive.encode 0 = .ok bytes :=
    encode_isOk_iff.2 isEncodable_keepalive
  refine ⟨bytes, hEncode, ?_⟩
  exact (decode_item_iff_encode 2 keepalive (bytes ++ [7]) [7]).1.2
    ⟨by decide, 0, bytes, hEncode, rfl⟩

end Frame

end RobotBus.Wire
