import RobotBus.Proofs.Transport.Batches
import RobotBus.Proofs.Transport.Silence
import RobotBus.Proofs.Wire.Handshake

/-!
# Receive buffers

A reader asks for more bytes only while its buffer is shorter than the longest thing that it could
be waiting for (`Read.Within`). For a text this is bounded because its length has two bytes, for a
payload because its length is judged before the payload is awaited. The bounds add up along the
parts of a frame or a header, whichever part it is that lacks bytes.

A connection reads on only when its decoder asks for more. So a peer that withholds the rest of a
frame does not make the receive buffer grow beyond that bound (`withheld_bytes_are_few`), and the
bound is met by a frame with the longest texts and payload of which one byte is missing
(`Frame.exists_incomplete`).
-/

namespace RobotBus.Wire

/-! ## Readers -/

/-- A reader that takes at most `n` bytes, and never lacks any in a buffer of `n` bytes. -/
structure Read.Within (r : Read α) (n : Nat) : Prop where
  takes : ∀ buffer a rest, r buffer = .ok a rest → buffer.length ≤ rest.length + n
  lacks : ∀ buffer missing left, r buffer = .error (.underflow missing) left → buffer.length < n

namespace Read.Within

theorem mono {r : Read α} {m n : Nat} (h : r.Within m) (hLess : m ≤ n) : r.Within n where
  takes buffer a rest hRead := by
    have hTakes := h.takes buffer a rest hRead
    omega
  lacks buffer missing left hRead := Nat.lt_of_lt_of_le (h.lacks buffer missing left hRead) hLess

/-- What follows may depend on what was read before. -/
theorem bind {r : Read α} {f : α → Read β} {m n : Nat} (hr : r.Within m)
    (hf : ∀ buffer a mid, r buffer = .ok a mid → (f a).Within n) : (r >>= f).Within (m + n) where
  takes buffer b rest hRead := by
    obtain ⟨a, mid, hFirst, hSecond⟩ := bind_eq_ok hRead
    have hTaken := hr.takes buffer a mid hFirst
    have hBehind := (hf buffer a mid hFirst).takes mid b rest hSecond
    omega
  lacks buffer missing left hRead := by
    cases hFirst : r buffer with
    | error e mid =>
      rw [bind_of_error hFirst] at hRead
      cases hRead
      have hLacks := hr.lacks buffer missing left hFirst
      omega
    | ok a mid =>
      rw [bind_of_ok hFirst] at hRead
      have hTaken := hr.takes buffer a mid hFirst
      have hLacks := (hf buffer a mid hFirst).lacks mid missing left hRead
      omega

theorem map {r : Read α} {f : α → β} {n : Nat} (h : r.Within n) : (f <$> r).Within n where
  takes buffer b rest hRead := by
    obtain ⟨a, hFirst, _⟩ := map_eq_ok hRead
    exact h.takes buffer a rest hFirst
  lacks buffer missing left hRead := by
    change EStateM.map f r buffer = _ at hRead
    cases hFirst : r buffer with
    | error e mid =>
      simp only [EStateM.map, hFirst] at hRead
      cases hRead
      exact h.lacks buffer missing left hFirst
    | ok a mid =>
      simp only [EStateM.map, hFirst] at hRead
      cases hRead

end Read.Within

theorem within_pure (a : α) : Read.Within (pure a) 0 where
  takes buffer b rest hRead := by
    obtain ⟨_, rfl⟩ := pure_eq_ok_iff.1 hRead
    exact Nat.le_refl _
  lacks buffer missing left hRead := by cases hRead

theorem within_refuse (cause : Malformed) : Read.Within (refuse cause : Read α) 0 where
  takes buffer b rest hRead := absurd hRead refuse_ne_ok
  lacks buffer missing left hRead := by cases hRead

theorem within_readBytes (n : Nat) : (readBytes n).Within n where
  takes buffer taken rest hRead := by
    obtain ⟨hLength, rfl⟩ := readBytes_eq_ok_iff.1 hRead
    rw [List.length_append]
    omega
  lacks buffer missing left hRead := by
    simp only [readBytes, List.length_take] at hRead
    split at hRead
    · omega
    · cases hRead

theorem within_readNat (width : Nat) : (readNat width).Within width :=
  (within_readBytes width).map

theorem within_readU16 : readU16.Within 2 :=
  (within_readNat 2).map

theorem within_readU32 : readU32.Within 4 :=
  (within_readNat 4).map

theorem within_readU64 : readU64.Within 8 :=
  (within_readNat 8).map

theorem within_readI32 : readI32.Within 4 :=
  (within_readNat 4).map

theorem within_readText : readText.Within 65536 := by
  show readText.Within (2 + 65534)
  refine (within_readNat 2).bind ?_
  intro _ length _ hLength
  obtain ⟨hBound, _⟩ := readNat_eq_ok_iff.1 hLength
  rw [valueCount_two, absentMarker] at hBound
  split
  · exact (within_pure none).mono (Nat.zero_le _)
  · rename_i hMarker
    rw [absentMarker] at hMarker
    have hShort : length + 0 ≤ 65534 := by omega
    refine Read.Within.mono ?_ hShort
    refine (within_readBytes length).bind ?_
    intro _ bytes _ _
    cases Utf8.decode bytes with
    | ok text => exact within_pure (some text)
    | error fault => exact within_refuse _

/-! ## Frames and headers -/

/-- Two texts, the length of the payload, the base, the payload and the checksum. -/
theorem Frame.within_read (limit : Nat) : (Frame.read limit).Within (limit + 131092) := by
  have hRead : (Frame.read limit).Within (65536 + (65536 + (4 + (8 + (limit + (8 + 0)))))) := by
    refine within_readText.bind fun _ target _ _ => ?_
    refine within_readText.bind fun _ source _ _ => ?_
    refine within_readI32.bind fun _ length _ _ => ?_
    split
    · exact (within_refuse _).mono (Nat.zero_le _)
    · rename_i hJudged
      -- only a payload within the limit is awaited
      have hLimit : length.toNat ≤ limit := by omega
      refine within_readU64.bind fun _ base _ _ => ?_
      refine ((within_readBytes length.toNat).mono hLimit).bind fun _ payload _ _ => ?_
      refine within_readU64.bind fun _ found _ _ => ?_
      split
      · exact within_pure _
      · exact within_refuse _
  exact hRead.mono (by omega)

theorem Header.within_read : Header.read.Within 65542 := by
  have hRead : Header.read.Within (4 + (2 + (65536 + 0))) := by
    refine within_readU32.bind fun _ found _ _ => ?_
    split
    · exact (within_refuse _).mono (Nat.zero_le _)
    · refine within_readU16.bind fun _ found _ _ => ?_
      split
      · exact (within_refuse _).mono (Nat.zero_le _)
      · exact within_readText.bind fun _ hint _ _ => within_pure _
  exact hRead.mono (by omega)

theorem Read.Within.length_lt {r : Read α} {n : Nat} (h : r.Within n) {buffer : Bytes}
    {missing : Nat} (hDecode : r.decode buffer = .incomplete missing) : buffer.length < n := by
  unfold Read.decode at hDecode
  split at hDecode
  · cases hDecode
  · rename_i lacking left hRead
    exact h.lacks buffer lacking left hRead
  · cases hDecode

theorem Frame.length_lt_of_incomplete {limit missing : Nat} {buffer : Bytes}
    (h : (Frame.decoder limit).decode buffer = .incomplete missing) :
    buffer.length < limit + 131092 :=
  (Frame.within_read limit).length_lt h

theorem Header.length_lt_of_incomplete {missing : Nat} {buffer : Bytes}
    (h : Header.decoder.decode buffer = .incomplete missing) : buffer.length < 65542 :=
  Header.within_read.length_lt h

/-- **The bound is met**, by a frame with the longest texts of which the last byte is missing. -/
theorem Frame.exists_incomplete {limit : Nat} (h : limit ≤ largestPayload) :
    ∃ buffer missing, buffer.length + 1 = limit + 131092 ∧
      (Frame.decoder limit).decode buffer = .incomplete missing := by
  obtain ⟨text, hText⟩ := Utf8.exists_length_encode 65534
  have hBytes : textBytes (some text) = .ok (bigEndianBytes 2 65534 ++ Utf8.encode text) := by
    rw [textBytes, hText]
    rfl
  let frame : Frame := ⟨some text, some text, List.replicate limit 0⟩
  obtain ⟨bytes, hEncode, hLength⟩ : ∃ bytes, frame.encode 0 = .ok bytes ∧
      bytes.length = limit + 131092 := by
    refine ⟨_, encode_eq_ok_iff.2 ⟨?_, _, _, hBytes, hBytes, rfl⟩, ?_⟩
    · rw [List.length_replicate]
      exact h
    · simp only [body, List.length_append, length_bigEndianBytes, length_baseBytes, hText,
        List.length_replicate, frame]
      omega
  have hShorter : bytes.dropLast ≠ bytes := by
    intro hSame
    have hLengths := congrArg List.length hSame
    rw [List.length_dropLast] at hLengths
    omega
  have hLimit : frame.payload.length ≤ limit := Nat.le_of_eq List.length_replicate
  obtain ⟨missing, hIncomplete⟩ :=
    decode_of_prefix hLimit hEncode (List.dropLast_prefix bytes) hShorter
  refine ⟨bytes.dropLast, missing, ?_, hIncomplete⟩
  rw [List.length_dropLast]
  omega

end RobotBus.Wire

namespace RobotBus.Transport

open Wire (Frame Header)

/-! ## Connections -/

/-- **A peer that withholds data does not make the receive buffer grow without bound.** A decoder of
frames whose payload has at most `limit` bytes asks for more only while the buffer has fewer than
`limit + 131092` of them, and a decoder of headers while it has fewer than 65542. So whatever a
connection receives and whatever happens to it, its buffer is below that bound whenever it waits for
more. -/
theorem withheld_bytes_are_few :
    (∀ limit buffer missing, (Frame.decoder limit).decode buffer = .incomplete missing →
      buffer.length < limit + 131092) ∧
    (∀ buffer missing, Header.decoder.decode buffer = .incomplete missing →
      buffer.length < 65542) ∧
    ∀ (far : Endpoint) (leftover : Bytes) (began : Moment) (events : List Record.Event) pollEnd,
      let record := (Record.start far leftover began).run events
      record.connection.stage = .waiting pollEnd →
      record.connection.buffer.length < far.config.maxPayloadLength + 131092 := by
  refine ⟨fun _ _ _ => Frame.length_lt_of_incomplete,
    fun _ _ => Header.length_lt_of_incomplete, ?_⟩
  intro far leftover began events pollEnd record hWaits
  have hServes : far.Serves record.connection :=
    ((Record.Faithful.start far leftover began).run events).serves
  have hDeadline : record.connection.deadline?.isSome := by
    rw [Connection.deadline?, hWaits]
    rfl
  obtain ⟨missing, hIncomplete⟩ := hServes.incomplete hDeadline
  exact Frame.length_lt_of_incomplete hIncomplete

/-- Behind its header, a peer sends all of a frame with a payload of five bytes but its last byte. -/
theorem withheld_byte_is_awaited :
    let far : Endpoint := ⟨0, "hub", 0, { maxPayloadLength := 5 }, true⟩
    ∃ leftover pollEnd, leftover.length = 131096 ∧
      let record := (Record.start far leftover 0).run [.proceed false, .proceed false]
      record.connection.stage = .waiting pollEnd ∧
        record.connection.buffer.length < far.config.maxPayloadLength + 131092 := by
  intro far
  have hLimit : 5 ≤ Wire.largestPayload := by decide
  obtain ⟨leftover, missing, hLength, hIncomplete⟩ := Frame.exists_incomplete hLimit
  let record := (Record.start far leftover 0).run [.proceed false, .proceed false]
  let reading : Connection := { far.connect leftover 0 with stage := .reading }
  have hName : Path.isLinkName far.name = true := by decide
  have hRegistered : ((far.connect leftover 0).proceed 0 false).1 = reading := by
    show (Connection.register _).1 = _
    rw [Connection.register]
    exact congrArg Prod.fst (if_pos hName)
  have hRead : (Frame.decoder reading.config.maxPayloadLength).decode reading.buffer =
      .incomplete missing := hIncomplete
  have hStage : record.connection.stage = .waiting (0 + far.config.readPollTimeout) := by
    show (((far.connect leftover 0).proceed 0 false).1.proceed 0 false).1.stage = _
    rw [hRegistered]
    show (reading.read 0).1.stage = _
    rw [Connection.read, hRead]
    rfl
  refine ⟨leftover, 0 + far.config.readPollTimeout, by omega, hStage, ?_⟩
  exact withheld_bytes_are_few.2.2 far leftover 0 [.proceed false, .proceed false] _ hStage

end RobotBus.Transport
