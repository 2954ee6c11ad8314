import RobotBus.Proofs.Wire.Field
import RobotBus.Wire.Handshake

/-!
# Headers exchanged

`Header.read` accepts exactly what `Header.encode` produces (`Header.read_eq_ok_iff`), and refuses
exactly the streams at whose front something else can be seen (`Header.Shows`,
`Header.read_eq_malformed_iff`). A side that awaits the header of its peer looks at what has come
only when that can lead to something, and yet it finds what the decoder finds in the whole stream
(`outcome_awaitHeader`). So the end of an exchange does not depend on how the stream of the peer is
cut, and no byte behind the header is lost (`exchange_ignores_cuts`).
-/

namespace RobotBus.Wire

namespace Header

/-! ## Headers read back -/

theorem encode_eq_ok_iff {header : Header} {bytes : Bytes} :
    header.encode = .ok bytes ↔
      ∃ hint, textBytes header.hint = .ok hint ∧ bytes = preamble ++ hint := by
  rw [encode]
  cases hHint : textBytes header.hint with
  | error cause =>
    constructor
    · intro h
      cases h
    · rintro ⟨hint, hOk, _⟩
      cases hOk
  | ok hint =>
    constructor
    · intro h
      cases h
      exact ⟨hint, rfl, rfl⟩
    · rintro ⟨hint', hOk, rfl⟩
      cases hOk
      rfl

theorem encode_isOk_iff {header : Header} :
    (∃ bytes, header.encode = .ok bytes) ↔ textFits header.hint = true := by
  rw [← textBytes_isOk_iff]
  constructor
  · rintro ⟨bytes, h⟩
    obtain ⟨hint, hHint, _⟩ := encode_eq_ok_iff.1 h
    exact ⟨hint, hHint⟩
  · rintro ⟨hint, hHint⟩
    exact ⟨_, encode_eq_ok_iff.2 ⟨hint, hHint, rfl⟩⟩

theorem read_eq_ok_iff {header : Header} {buffer rest : Bytes} :
    read buffer = .ok header rest ↔
      ∃ bytes, header.encode = .ok bytes ∧ buffer = bytes ++ rest := by
  rw [read, bind_eq_ok_iff]
  constructor
  · rintro ⟨found, mid, hMagic, hMid⟩
    obtain rfl := readU32_eq_ok_iff.1 hMagic
    by_cases hFound : found = magic
    · rw [if_neg (by simp [hFound])] at hMid
      obtain ⟨known, behind, hVersion, hBehind⟩ := bind_eq_ok hMid
      obtain rfl := readU16_eq_ok_iff.1 hVersion
      by_cases hKnown : known = version
      · rw [if_neg (by simp [hKnown])] at hBehind
        obtain ⟨hint, left, hHint, hLeft⟩ := bind_eq_ok hBehind
        obtain ⟨bytes, hBytes, rfl⟩ := readText_eq_ok_iff.1 hHint
        obtain ⟨rfl, rfl⟩ := pure_eq_ok_iff.1 hLeft
        refine ⟨preamble ++ bytes, encode_eq_ok_iff.2 ⟨bytes, hBytes, rfl⟩, ?_⟩
        rw [hFound, hKnown, preamble, List.append_assoc, List.append_assoc]
      · rw [if_pos hKnown] at hBehind
        exact absurd hBehind refuse_ne_ok
    · rw [if_pos hFound] at hMid
      exact absurd hMid refuse_ne_ok
  · rintro ⟨bytes, hEncode, rfl⟩
    obtain ⟨hint, hHint, rfl⟩ := encode_eq_ok_iff.1 hEncode
    refine ⟨magic, bigEndianBytes 2 version.toNat ++ (hint ++ rest), ?_, ?_⟩
    · rw [readU32_eq_ok_iff, preamble, List.append_assoc, List.append_assoc]
    · rw [if_neg (by simp)]
      refine bind_eq_ok_iff.2 ⟨version, hint ++ rest, readU16_eq_ok_iff.2 rfl, ?_⟩
      rw [if_neg (by simp)]
      refine bind_eq_ok_iff.2 ⟨header.hint, rest, readText_eq_ok_iff.2 ⟨hint, hHint, rfl⟩, ?_⟩
      exact pure_eq_ok_iff.2 ⟨rfl, rfl⟩

/-! ## Headers refused -/

/-- What can be seen at the front of a stream that begins with no header: four bytes of another
magic number, six bytes with another version, or a complete hint that is not UTF-8. -/
inductive Shows : Bytes → Malformed → Prop
  | magic (found : UInt32) (rest : Bytes) : found ≠ Header.magic →
    Shows (bigEndianBytes 4 found.toNat ++ rest) (.badMagic found)
  | version (found : UInt16) (rest : Bytes) : found ≠ Header.version →
    Shows (bigEndianBytes 4 Header.magic.toNat ++ (bigEndianBytes 2 found.toNat ++ rest))
      (.badVersion found)
  | hint (bytes rest : Bytes) : bytes.length < absentMarker → (∀ text, Utf8.encode text ≠ bytes) →
    Shows (preamble ++ (bigEndianBytes 2 bytes.length ++ (bytes ++ rest)))
      (.badText (Utf8.firstFault bytes))

/-- **A stream is refused as soon as its front shows that it begins with no header.** -/
theorem read_eq_malformed_iff {buffer : Bytes} {cause : Malformed} :
    (∃ left, read buffer = .error (.malformed cause) left) ↔ Shows buffer cause := by
  constructor
  · rintro ⟨left, h⟩
    rw [read, bind_eq_malformed_iff] at h
    rcases h with h | ⟨found, mid, hMagic, h⟩
    · exact absurd h (map_ne_malformed readNat_ne_malformed)
    · obtain rfl := readU32_eq_ok_iff.1 hMagic
      by_cases hFound : found = Header.magic
      · subst hFound
        rw [if_neg (by simp), bind_eq_malformed_iff] at h
        rcases h with h | ⟨known, behind, hVersion, h⟩
        · exact absurd h (map_ne_malformed readNat_ne_malformed)
        · obtain rfl := readU16_eq_ok_iff.1 hVersion
          by_cases hKnown : known = Header.version
          · subst hKnown
            rw [if_neg (by simp), bind_eq_malformed_iff] at h
            rcases h with h | ⟨hint, left', _, h⟩
            · obtain ⟨bytes, rest, hShort, hNone, rfl, rfl⟩ := readText_eq_malformed_iff.1 ⟨left, h⟩
              have hShows := Shows.hint bytes rest hShort hNone
              rwa [preamble, List.append_assoc] at hShows
            · exact absurd h pure_ne_malformed
          · rw [if_pos hKnown] at h
            obtain ⟨rfl, _⟩ := refuse_eq_malformed_iff.1 h
            exact .version known behind hKnown
      · rw [if_pos hFound] at h
        obtain ⟨rfl, _⟩ := refuse_eq_malformed_iff.1 h
        exact .magic found mid hFound
  · intro h
    cases h with
    | magic found rest hFound =>
      refine ⟨rest, bind_eq_malformed_iff.2 (.inr ⟨found, rest, readU32_eq_ok_iff.2 rfl, ?_⟩)⟩
      rw [if_pos hFound]
      exact refuse_eq_malformed_iff.2 ⟨rfl, rfl⟩
    | version found rest hFound =>
      refine ⟨rest, bind_eq_malformed_iff.2 (.inr ⟨_, _, readU32_eq_ok_iff.2 rfl, ?_⟩)⟩
      rw [if_neg (by simp)]
      refine bind_eq_malformed_iff.2 (.inr ⟨found, rest, readU16_eq_ok_iff.2 rfl, ?_⟩)
      rw [if_pos hFound]
      exact refuse_eq_malformed_iff.2 ⟨rfl, rfl⟩
    | hint bytes rest hShort hNone =>
      obtain ⟨left, hText⟩ := readText_eq_malformed_iff.2 ⟨bytes, rest, hShort, hNone, rfl, rfl⟩
      rw [preamble, List.append_assoc]
      refine ⟨left, bind_eq_malformed_iff.2 (.inr ⟨_, _, readU32_eq_ok_iff.2 rfl, ?_⟩)⟩
      rw [if_neg (by simp)]
      refine bind_eq_malformed_iff.2 (.inr ⟨_, _, readU16_eq_ok_iff.2 rfl, ?_⟩)
      rw [if_neg (by simp)]
      exact bind_eq_malformed_iff.2 (.inl hText)

/-! ## Headers found at the front of a stream -/

theorem decode_eq_item_iff {header : Header} {buffer rest : Bytes} :
    decoder.decode buffer = .item header rest ↔
      ∃ bytes, header.encode = .ok bytes ∧ buffer = bytes ++ rest := by
  rw [← read_eq_ok_iff]
  change read.decode buffer = _ ↔ _
  rw [Read.decode]
  split
  · rename_i hRead
    rw [hRead, Decoded.item.injEq, EStateM.Result.ok.injEq]
  · rename_i hRead
    rw [hRead]
    refine ⟨fun h => ?_, fun h => ?_⟩ <;> cases h
  · rename_i hRead
    rw [hRead]
    refine ⟨fun h => ?_, fun h => ?_⟩ <;> cases h

theorem decode_eq_malformed_iff {buffer : Bytes} {cause : Malformed} :
    decoder.decode buffer = .malformed cause ↔ Shows buffer cause := by
  rw [← read_eq_malformed_iff]
  change read.decode buffer = _ ↔ _
  rw [Read.decode]
  split
  · rename_i hRead
    rw [hRead]
    constructor
    · rintro ⟨⟩
    · rintro ⟨left, ⟨⟩⟩
  · rename_i hRead
    rw [hRead]
    constructor
    · rintro ⟨⟩
    · rintro ⟨left, ⟨⟩⟩
  · rename_i found left hRead
    rw [hRead, Decoded.malformed.injEq]
    constructor
    · rintro rfl
      exact ⟨left, rfl⟩
    · rintro ⟨left', h⟩
      cases h
      rfl

end Header

/-! ## A receiver that awaits one item -/

namespace Receiver

/-- A receiver in whose bytes the first item is still to come. -/
structure Awaits (d : Decoder α) (receiver : Receiver) : Prop extends receiver.Fits d where
  incomplete : ∃ missing, d.decode receiver.rest = .incomplete missing

/-- What a receiver that looks at what is there makes of it. -/
theorem decode_drainOne (d : Decoder α) (receiver : Receiver) :
    match d.decode receiver.rest with
    | .item a rest => ∃ next, receiver.decode d.drainOne = ([a], next) ∧ next.rest = rest
    | .malformed cause =>
      ∃ next, receiver.decode d.drainOne = ([], next) ∧ next.pause.fault? = some cause
    | .incomplete _ => ∃ next, receiver.decode d.drainOne = ([], next) ∧
      next.pause.fault? = none ∧ next.rest = receiver.rest ∧ next.Awaits d := by
  rw [Receiver.decode, Decoder.drainOne]
  cases hRest : d.decode receiver.rest with
  | item a left => exact ⟨_, rfl, by simp [rest]⟩
  | malformed cause => exact ⟨_, rfl, rfl⟩
  | incomplete missing =>
    refine ⟨_, rfl, rfl, by simp [rest], ⟨rfl, .inr hRest⟩, missing, ?_⟩
    simpa [rest] using hRest

/-- **A receiver that awaits an item finds with a chunk what the decoder finds in all bytes so
far.** -/
theorem Awaits.feed {d : Decoder α} {receiver : Receiver} (h : receiver.Awaits d) (chunk : Bytes) :
    match d.decode (receiver.rest ++ chunk) with
    | .item a rest => ∃ next, receiver.feed d.drainOne chunk = ([a], next) ∧ next.rest = rest
    | .malformed cause =>
      ∃ next, receiver.feed d.drainOne chunk = ([], next) ∧ next.pause.fault? = some cause
    | .incomplete _ => ∃ next, receiver.feed d.drainOne chunk = ([], next) ∧
      next.pause.fault? = none ∧ next.rest = receiver.rest ++ chunk ∧ next.Awaits d := by
  obtain ⟨missing, hMissing⟩ := h.incomplete
  have hPut := h.toFits.put chunk
  rw [← rest_put]
  cases hPause : receiver.pause with
  | incomplete wanted =>
    by_cases hWanted : (receiver.put chunk).arrivedSize < wanted
    · -- too little has come, and so the decoder would find nothing either
      have hFeed : receiver.feed d.drainOne chunk = ([], receiver.put chunk) := by
        simp [Receiver.feed, Receiver.put, hPause] at hWanted ⊢
        omega
      have hBuffer : d.decode receiver.buffer = .incomplete wanted := by
        rcases h.stopsAt with hStart | hStops
        · rw [hPause] at hStart
          cases hStart
          omega
        · rwa [hPause] at hStops
      have hLength : (receiver.put chunk).arrived.reverse.flatten.length < wanted := by
        rw [length_arrived, ← hPut.arrivedSize_eq]
        exact hWanted
      obtain ⟨missing', hAll⟩ := d.incomplete_append _ _ _ hBuffer hLength
      have hAll : d.decode (receiver.put chunk).rest = .incomplete missing' := hAll
      rw [hAll]
      refine ⟨_, hFeed, ?_, rfl, hPut, missing', hAll⟩
      show receiver.pause.fault? = none
      rw [hPause]
      rfl
    · have hFeed : receiver.feed d.drainOne chunk = (receiver.put chunk).decode d.drainOne := by
        simp [Receiver.feed, Receiver.put, hPause] at hWanted ⊢
        omega
      rw [hFeed]
      exact decode_drainOne d _
  | malformed cause =>
    rcases h.stopsAt with hStart | hStops
    · rw [hPause] at hStart
      cases hStart
    · rw [hPause] at hStops
      have hAll : d.decode receiver.rest = .malformed cause := d.malformed_append _ _ _ hStops
      rw [hMissing] at hAll
      cases hAll
  | complete =>
    rcases h.stopsAt with hStart | hStops
    · rw [hPause] at hStart
      cases hStart
    · rw [hPause] at hStops
      exact hStops.elim

end Receiver

/-! ## The exchange -/

/-- The header of the peer and all bytes behind it, received or not, or the error that the exchange
ends with. -/
def Exchange.outcome (ended : Exchange) : Except BusError (Header × Bytes) :=
  match ended.result with
  | .ok greeting => .ok (greeting.header, greeting.leftover ++ greeting.unread.flatten)
  | .error cause => .error cause.toBusError

/-- What a whole stream leads to. -/
def Header.verdict (stream : Bytes) : Except BusError (Header × Bytes) :=
  match decoder.decode stream with
  | .item header rest => .ok (header, rest)
  | .malformed cause => .error (.protocol cause.message)
  | .incomplete _ => .error (.transport "unexpected end of file")

/-- **Awaiting a header chunk by chunk leads to what the whole stream leads to.** -/
theorem outcome_awaitHeader {receiver : Receiver} (h : receiver.Awaits Header.decoder)
    (sent : Bytes) (chunks : List Bytes) :
    Exchange.outcome ⟨sent, awaitHeader receiver chunks⟩ =
      Header.verdict (receiver.rest ++ chunks.flatten) := by
  induction chunks generalizing receiver with
  | nil =>
    obtain ⟨missing, hMissing⟩ := h.incomplete
    rw [List.flatten_nil, List.append_nil, Header.verdict, hMissing]
    rfl
  | cons chunk chunks ih =>
    have hFeed := h.feed chunk
    rw [List.flatten_cons, ← List.append_assoc, awaitHeader]
    cases hChunk : Header.decoder.decode (receiver.rest ++ chunk) with
    | item header rest =>
      rw [hChunk] at hFeed
      obtain ⟨next, hNext, rfl⟩ := hFeed
      rw [hNext, Header.verdict, Header.decoder.item_append _ _ _ chunks.flatten hChunk]
      rfl
    | malformed cause =>
      rw [hChunk] at hFeed
      obtain ⟨next, hNext, hFault⟩ := hFeed
      rw [hNext, Header.verdict, Header.decoder.malformed_append _ _ chunks.flatten hChunk]
      simp only [hFault]
      rfl
    | incomplete missing =>
      rw [hChunk] at hFeed
      obtain ⟨next, hNext, hFault, hRest, hAwaits⟩ := hFeed
      rw [hNext, ← hRest, ← ih hAwaits]
      simp only [hFault]

theorem awaits_empty : Receiver.Awaits Header.decoder {} where
  arrivedSize_eq := rfl
  stopsAt := .inl rfl
  incomplete := ⟨4, rfl⟩

theorem outcome_exchange {own : Header} {bytes : Bytes} (h : own.encode = .ok bytes)
    (chunks : List Bytes) : (exchange own chunks).outcome = Header.verdict chunks.flatten := by
  rw [exchange, h]
  exact outcome_awaitHeader awaits_empty bytes chunks

namespace Header

theorem verdict_eq_ok_iff {stream rest : Bytes} {header : Header} :
    verdict stream = .ok (header, rest) ↔
      ∃ bytes, header.encode = .ok bytes ∧ stream = bytes ++ rest := by
  rw [← decode_eq_item_iff, verdict]
  cases decoder.decode stream <;> simp

theorem verdict_eq_protocol_iff {stream : Bytes} {text : String} :
    verdict stream = .error (.protocol text) ↔
      ∃ cause, Shows stream cause ∧ text = cause.message := by
  simp only [← decode_eq_malformed_iff, verdict]
  cases decoder.decode stream <;> simp [eq_comm]

theorem verdict_eq_transport_iff {stream : Bytes} :
    verdict stream = .error (.transport "unexpected end of file") ↔
      (∀ (header : Header) bytes rest, header.encode = .ok bytes → stream ≠ bytes ++ rest) ∧
        ∀ cause, ¬ Shows stream cause := by
  have hItem : (∀ (header : Header) bytes rest, header.encode = .ok bytes →
      stream ≠ bytes ++ rest) ↔ ∀ header rest, decoder.decode stream ≠ .item header rest := by
    simp only [ne_eq, decode_eq_item_iff, not_exists, not_and]
    exact ⟨fun h header rest bytes => h header bytes rest,
      fun h header bytes rest => h header rest bytes⟩
  rw [hItem]
  simp only [← decode_eq_malformed_iff, verdict]
  cases decoder.decode stream <;> simp

end Header

/-- **The end of an exchange of headers does not depend on how the stream of the peer is cut, and no
byte behind the header of the peer is lost.** A side that can not encode its own header sends
nothing. Any other sends exactly that header, and then: it succeeds on the streams that begin with a
header, refuses those whose front shows something else, and misses the end of the header in all
others. -/
theorem exchange_ignores_cuts (own : Header) (chunks : List Bytes) :
    ((∃ bytes, own.encode = .ok bytes) ↔
      ∀ text, own.hint = some text → (Utf8.encode text).length ≤ 65534) ∧
    (match own.encode with
      | .error cause => (exchange own chunks).sent = [] ∧
        (exchange own chunks).outcome = .error (.protocol cause.message)
      | .ok bytes => (exchange own chunks).sent = bytes ∧
        (∀ (header : Header) rest, (exchange own chunks).outcome = .ok (header, rest) ↔
          ∃ front, header.encode = .ok front ∧ chunks.flatten = front ++ rest) ∧
        (∀ text, (exchange own chunks).outcome = .error (.protocol text) ↔
          ∃ cause, Header.Shows chunks.flatten cause ∧ text = cause.message) ∧
        ((exchange own chunks).outcome = .error (.transport "unexpected end of file") ↔
          (∀ (header : Header) front rest, header.encode = .ok front →
            chunks.flatten ≠ front ++ rest) ∧ ∀ cause, ¬ Header.Shows chunks.flatten cause)) ∧
    (∀ cut, cut.flatten = chunks.flatten → (exchange own cut).sent = (exchange own chunks).sent ∧
      (exchange own cut).outcome = (exchange own chunks).outcome) := by
  refine ⟨?_, ?_, ?_⟩
  · rw [Header.encode_isOk_iff]
    cases own.hint <;> simp [textFits]
  · cases hOwn : own.encode with
    | error cause =>
      rw [exchange, hOwn]
      exact ⟨rfl, rfl⟩
    | ok bytes =>
      simp only [outcome_exchange hOwn chunks]
      refine ⟨?_, fun header rest => Header.verdict_eq_ok_iff,
        fun text => Header.verdict_eq_protocol_iff, Header.verdict_eq_transport_iff⟩
      rw [exchange, hOwn]
  · intro cut hCut
    cases hOwn : own.encode with
    | error cause =>
      rw [exchange, exchange, hOwn]
      exact ⟨rfl, rfl⟩
    | ok bytes =>
      rw [outcome_exchange hOwn cut, outcome_exchange hOwn chunks, hCut]
      refine ⟨?_, rfl⟩
      rw [exchange, exchange, hOwn]

/-- The end of the header falls into the second chunk, and in the other cut onto the end of one. -/
theorem exchange_in_three_chunks :
    let own : Header := ⟨some "x"⟩
    let cut := [[0x15, 0x40, 0x00], [0xca, 0, 1, 0xff, 0xff, 97], [98, 99]]
    let cut' := [[0x15, 0x40, 0x00, 0xca, 0, 1, 0xff, 0xff], [97, 98, 99]]
    cut'.flatten = cut.flatten ∧ (exchange own cut').outcome = (exchange own cut).outcome ∧
      (exchange own cut).sent = [0x15, 0x40, 0x00, 0xca, 0, 1, 0, 1, 120] ∧
      (exchange own cut).outcome = .ok (⟨none⟩, [97, 98, 99]) := by
  intro own cut cut'
  have hFlat : cut'.flatten = cut.flatten := by decide
  obtain ⟨_, hSent, hCuts⟩ := exchange_ignores_cuts own cut
  have hOwn : own.encode = .ok [0x15, 0x40, 0x00, 0xca, 0, 1, 0, 1, 120] := by rfl
  rw [hOwn] at hSent
  obtain ⟨hSent, hOk, _⟩ := hSent
  refine ⟨hFlat, (hCuts cut' hFlat).2, hSent, (hOk ⟨none⟩ [97, 98, 99]).2 ⟨_, rfl, ?_⟩⟩
  decide +kernel

end RobotBus.Wire
