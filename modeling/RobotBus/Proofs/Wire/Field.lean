import RobotBus.Wire.Steady

/-!
# Fields read back

Each reader of a field accepts exactly what the writer of that field produces: it succeeds on a
buffer if and only if the buffer begins with the bytes of some value, and then it gives that value
and leaves what is behind. `readText_eq_ok_iff` says so for texts, `readU64_eq_ok_iff` and
`readI32_eq_ok_iff` for numbers. Numbers are never refused, and `readText_eq_malformed_iff` says
which texts are.
-/

namespace RobotBus.Wire

/-! ## Numbers -/

theorem bigEndian_concat (bytes : Bytes) (b : UInt8) :
    bigEndian (bytes ++ [b]) = bigEndian bytes * 256 + b.toNat := by
  simp [bigEndian, List.foldl_append]

/-- The number of values of `width` bytes. -/
def valueCount : Nat → Nat
  | 0 => 1
  | width + 1 => 256 * valueCount width

theorem bigEndian_bigEndianBytes (width n : Nat) :
    bigEndian (bigEndianBytes width n) = n % valueCount width := by
  induction width generalizing n with
  | zero => rw [valueCount, Nat.mod_one]; rfl
  | succ width ih =>
    have hByte : (UInt8.ofNat n).toNat = n % 256 := by simp
    rw [bigEndianBytes, bigEndian_concat, ih, hByte, valueCount, Nat.mod_mul]
    omega

theorem bigEndian_lt {width : Nat} {bytes : Bytes} (h : bytes.length = width) :
    bigEndian bytes < valueCount width := by
  induction width generalizing bytes with
  | zero =>
    rw [List.eq_nil_of_length_eq_zero h]
    decide
  | succ width ih =>
    rcases List.eq_nil_or_concat bytes with rfl | ⟨front, b, rfl⟩
    · simp at h
    · rw [List.concat_eq_append] at h ⊢
      have hFront : bigEndian front < valueCount width := ih (by simpa using h)
      have hByte := b.toNat_lt
      rw [bigEndian_concat, valueCount]
      omega

theorem bigEndianBytes_bigEndian {width : Nat} {bytes : Bytes} (h : bytes.length = width) :
    bigEndianBytes width (bigEndian bytes) = bytes := by
  induction width generalizing bytes with
  | zero =>
    rw [List.eq_nil_of_length_eq_zero h]
    rfl
  | succ width ih =>
    rcases List.eq_nil_or_concat bytes with rfl | ⟨front, b, rfl⟩
    · simp at h
    · rw [List.concat_eq_append] at h ⊢
      have hByte := b.toNat_lt
      have hFront : (bigEndian front * 256 + b.toNat) / 256 = bigEndian front := by omega
      have hLast : UInt8.ofNat (bigEndian front * 256 + b.toNat) = b := by
        apply UInt8.toNat_inj.mp
        rw [UInt8.toNat_ofNat']
        omega
      rw [bigEndian_concat, bigEndianBytes, hFront, hLast, ih (by simpa using h)]

/-! ## Composed readers -/

theorem bind_eq_ok_iff {r : Read α} {f : α → Read β} {buffer : Bytes} {b : β} {rest : Bytes} :
    (r >>= f) buffer = .ok b rest ↔ ∃ a mid, r buffer = .ok a mid ∧ f a mid = .ok b rest := by
  constructor
  · exact bind_eq_ok
  · rintro ⟨a, mid, hr, hf⟩
    rw [bind_of_ok hr, hf]

theorem map_eq_ok_iff {r : Read α} {f : α → β} {buffer : Bytes} {b : β} {rest : Bytes} :
    (f <$> r) buffer = .ok b rest ↔ ∃ a, r buffer = .ok a rest ∧ f a = b := by
  constructor
  · exact map_eq_ok
  · rintro ⟨a, hr, rfl⟩
    change EStateM.map f r buffer = _
    simp [EStateM.map, hr]

theorem pure_eq_ok_iff {a b : α} {buffer rest : Bytes} :
    (pure a : Read α) buffer = .ok b rest ↔ a = b ∧ buffer = rest := by
  change EStateM.Result.ok a buffer = .ok b rest ↔ _
  rw [EStateM.Result.ok.injEq]

theorem refuse_ne_ok {cause : Malformed} {a : α} {buffer rest : Bytes} :
    (refuse cause : Read α) buffer ≠ .ok a rest := by
  intro h
  cases h

/-! ## Readers of numbers -/

theorem readNat_eq_ok_iff {width n : Nat} {buffer rest : Bytes} :
    readNat width buffer = .ok n rest ↔
      n < valueCount width ∧ buffer = bigEndianBytes width n ++ rest := by
  rw [readNat, map_eq_ok_iff]
  constructor
  · rintro ⟨bytes, hRead, rfl⟩
    obtain ⟨hLength, rfl⟩ := readBytes_eq_ok_iff.1 hRead
    exact ⟨bigEndian_lt hLength, by rw [bigEndianBytes_bigEndian hLength]⟩
  · rintro ⟨hn, rfl⟩
    refine ⟨bigEndianBytes width n, readBytes_eq_ok_iff.2 ⟨length_bigEndianBytes width n, rfl⟩, ?_⟩
    rw [bigEndian_bigEndianBytes, Nat.mod_eq_of_lt hn]

theorem readU16_eq_ok_iff {n : UInt16} {buffer rest : Bytes} :
    readU16 buffer = .ok n rest ↔ buffer = bigEndianBytes 2 n.toNat ++ rest := by
  rw [readU16, map_eq_ok_iff]
  constructor
  · rintro ⟨m, hRead, rfl⟩
    obtain ⟨hBound, rfl⟩ := readNat_eq_ok_iff.1 hRead
    have hm : m < 65536 := hBound
    rw [UInt16.toNat_ofNat', Nat.mod_eq_of_lt (by omega)]
  · intro h
    exact ⟨n.toNat, readNat_eq_ok_iff.2 ⟨n.toNat_lt, h⟩, UInt16.ofNat_toNat⟩

theorem readU32_eq_ok_iff {n : UInt32} {buffer rest : Bytes} :
    readU32 buffer = .ok n rest ↔ buffer = bigEndianBytes 4 n.toNat ++ rest := by
  rw [readU32, map_eq_ok_iff]
  constructor
  · rintro ⟨m, hRead, rfl⟩
    obtain ⟨hBound, rfl⟩ := readNat_eq_ok_iff.1 hRead
    have hm : m < 4294967296 := hBound
    rw [UInt32.toNat_ofNat', Nat.mod_eq_of_lt (by omega)]
  · intro h
    exact ⟨n.toNat, readNat_eq_ok_iff.2 ⟨n.toNat_lt, h⟩, UInt32.ofNat_toNat⟩

theorem readU64_eq_ok_iff {n : UInt64} {buffer rest : Bytes} :
    readU64 buffer = .ok n rest ↔ buffer = bigEndianBytes 8 n.toNat ++ rest := by
  rw [readU64, map_eq_ok_iff]
  constructor
  · rintro ⟨m, hRead, rfl⟩
    obtain ⟨hBound, rfl⟩ := readNat_eq_ok_iff.1 hRead
    have hm : m < 18446744073709551616 := hBound
    rw [UInt64.toNat_ofNat', Nat.mod_eq_of_lt (by omega)]
  · intro h
    exact ⟨n.toNat, readNat_eq_ok_iff.2 ⟨n.toNat_lt, h⟩, UInt64.ofNat_toNat⟩

/-- A length that is not negative is read if and only if its bytes are there. -/
theorem readI32_eq_ok_iff {n : Nat} {buffer rest : Bytes} (hn : n < 2147483648) :
    readI32 buffer = .ok (n : Int) rest ↔ buffer = bigEndianBytes 4 n ++ rest := by
  rw [readI32, map_eq_ok_iff]
  constructor
  · rintro ⟨m, hRead, hm⟩
    obtain ⟨hBound, rfl⟩ := readNat_eq_ok_iff.1 hRead
    have hSmall : m < 4294967296 := hBound
    have hEq : m = n := by
      rw [Int.bmod_def] at hm
      omega
    rw [hEq]
  · intro h
    have hBound : n < valueCount 4 := Nat.lt_trans hn (by decide)
    refine ⟨n, readNat_eq_ok_iff.2 ⟨hBound, h⟩, ?_⟩
    rw [Int.bmod_def]
    omega

theorem readI32_lt {n : Int} {buffer rest : Bytes} (h : readI32 buffer = .ok n rest) :
    n < 2147483648 := by
  rw [readI32] at h
  obtain ⟨m, _, rfl⟩ := map_eq_ok h
  exact Int.bmod_lt (by decide)

/-! ## Texts -/

/-- A text that is absent or has at most 65534 bytes. -/
def textFits : Option String → Bool
  | none => true
  | some text => (Utf8.encode text).length ≤ 65534

theorem textBytes_isOk_iff {text : Option String} :
    (∃ bytes, textBytes text = .ok bytes) ↔ textFits text = true := by
  cases text with
  | none => simp [textBytes, textFits]
  | some text =>
    have hFits : textFits (some text) = true ↔ (Utf8.encode text).length < absentMarker := by
      rw [textFits, decide_eq_true_eq, absentMarker]
      omega
    rw [hFits, textBytes]
    split
    · rename_i hShort
      exact ⟨fun _ => hShort, fun _ => ⟨_, rfl⟩⟩
    · rename_i hLong
      refine ⟨?_, fun hShort => absurd hShort hLong⟩
      rintro ⟨bytes, hBytes⟩
      cases hBytes

/-- Of all lengths in two bytes only the last one is the mark of an absent text. -/
theorem valueCount_two : valueCount 2 = absentMarker + 1 := rfl

theorem readText_eq_ok_iff {text : Option String} {buffer rest : Bytes} :
    readText buffer = .ok text rest ↔
      ∃ bytes, textBytes text = .ok bytes ∧ buffer = bytes ++ rest := by
  rw [readText, bind_eq_ok_iff]
  constructor
  · rintro ⟨length, mid, hLength, h⟩
    obtain ⟨hBound, rfl⟩ := readNat_eq_ok_iff.1 hLength
    rw [valueCount_two] at hBound
    by_cases hMarker : length = absentMarker
    · rw [if_pos hMarker] at h
      obtain ⟨rfl, rfl⟩ := pure_eq_ok_iff.1 h
      exact ⟨_, rfl, by rw [hMarker]⟩
    · rw [if_neg hMarker] at h
      obtain ⟨bytes, behind, hBytes, hText⟩ := bind_eq_ok h
      obtain ⟨rfl, rfl⟩ := readBytes_eq_ok_iff.1 hBytes
      cases hDecode : Utf8.decode bytes with
      | error fault =>
        rw [hDecode] at hText
        exact absurd hText refuse_ne_ok
      | ok found =>
        rw [hDecode] at hText
        obtain ⟨rfl, rfl⟩ := pure_eq_ok_iff.1 hText
        have hEncode := Utf8.decode_eq_ok_iff.1 hDecode
        have hShort : bytes.length < absentMarker := by omega
        refine ⟨bigEndianBytes 2 bytes.length ++ bytes, ?_, by rw [List.append_assoc]⟩
        rw [textBytes, hEncode, if_pos hShort]
  · rintro ⟨bytes, hBytes, rfl⟩
    cases text with
    | none =>
      cases hBytes
      refine ⟨absentMarker, rest, readNat_eq_ok_iff.2 ⟨by decide, rfl⟩, ?_⟩
      rw [if_pos rfl]
      exact pure_eq_ok_iff.2 ⟨rfl, rfl⟩
    | some text =>
      rw [textBytes] at hBytes
      split at hBytes
      · rename_i hShort
        cases hBytes
        have hMarker : (Utf8.encode text).length ≠ absentMarker := by omega
        refine ⟨(Utf8.encode text).length, Utf8.encode text ++ rest,
          readNat_eq_ok_iff.2 ⟨?_, by rw [List.append_assoc]⟩, ?_⟩
        · rw [valueCount_two]
          omega
        · rw [if_neg hMarker]
          refine bind_eq_ok_iff.2 ⟨Utf8.encode text, rest, readBytes_eq_ok_iff.2 ⟨rfl, rfl⟩, ?_⟩
          rw [Utf8.decode_encode]
          exact pure_eq_ok_iff.2 ⟨rfl, rfl⟩
      · cases hBytes

/-! ## What readers refuse -/

/-- A composed reader refuses what its first part refuses, or what its second part refuses behind
the first one. -/
theorem bind_eq_malformed_iff {r : Read α} {f : α → Read β} {buffer left : Bytes}
    {cause : Malformed} :
    (r >>= f) buffer = .error (.malformed cause) left ↔
      r buffer = .error (.malformed cause) left ∨
        ∃ a mid, r buffer = .ok a mid ∧ f a mid = .error (.malformed cause) left := by
  cases hRead : r buffer with
  | error e mid => simp [bind_of_error hRead]
  | ok a mid =>
    rw [bind_of_ok hRead]
    constructor
    · intro h
      exact .inr ⟨a, mid, rfl, h⟩
    · rintro (h | ⟨a', mid', h, hf⟩)
      · cases h
      · cases h
        exact hf

theorem map_ne_malformed {r : Read α} {f : α → β} {buffer left : Bytes} {cause : Malformed}
    (h : r buffer ≠ .error (.malformed cause) left) :
    (f <$> r) buffer ≠ .error (.malformed cause) left := by
  change EStateM.map f r buffer ≠ _
  cases hRead : r buffer with
  | ok a mid => simp [EStateM.map, hRead]
  | error e mid => simpa [EStateM.map, hRead] using h

theorem readBytes_ne_malformed {n : Nat} {buffer left : Bytes} {cause : Malformed} :
    readBytes n buffer ≠ .error (.malformed cause) left := by
  rw [readBytes]
  split <;> simp

theorem readNat_ne_malformed {width : Nat} {buffer left : Bytes} {cause : Malformed} :
    readNat width buffer ≠ .error (.malformed cause) left :=
  map_ne_malformed readBytes_ne_malformed

theorem refuse_eq_malformed_iff {cause cause' : Malformed} {buffer left : Bytes} :
    (refuse cause : Read α) buffer = .error (.malformed cause') left ↔
      cause = cause' ∧ buffer = left := by
  change EStateM.Result.error (ReadError.malformed cause) buffer =
    .error (.malformed cause') left ↔ _
  simp

theorem pure_ne_malformed {a : α} {cause : Malformed} {buffer left : Bytes} :
    (pure a : Read α) buffer ≠ .error (.malformed cause) left := by
  intro h
  cases h

/-- A text is refused when all its bytes have come and they are not UTF-8. -/
theorem readText_eq_malformed_iff {buffer : Bytes} {cause : Malformed} :
    (∃ left, readText buffer = .error (.malformed cause) left) ↔
      ∃ bytes rest, bytes.length < absentMarker ∧ (∀ text, Utf8.encode text ≠ bytes) ∧
        buffer = bigEndianBytes 2 bytes.length ++ (bytes ++ rest) ∧
          cause = .badText (Utf8.firstFault bytes) := by
  constructor
  · rintro ⟨left, h⟩
    rw [readText, bind_eq_malformed_iff] at h
    rcases h with hLength | ⟨length, mid, hLength, h⟩
    · exact absurd hLength readNat_ne_malformed
    · obtain ⟨hBound, rfl⟩ := readNat_eq_ok_iff.1 hLength
      rw [valueCount_two] at hBound
      by_cases hMarker : length = absentMarker
      · rw [if_pos hMarker] at h
        exact absurd h pure_ne_malformed
      · rw [if_neg hMarker] at h
        rcases bind_eq_malformed_iff.1 h with hBytes | ⟨bytes, rest, hBytes, hText⟩
        · exact absurd hBytes readBytes_ne_malformed
        · obtain ⟨rfl, rfl⟩ := readBytes_eq_ok_iff.1 hBytes
          cases hDecode : Utf8.decode bytes with
          | ok text =>
            rw [hDecode] at hText
            exact absurd hText pure_ne_malformed
          | error fault =>
            rw [hDecode] at hText
            obtain ⟨rfl, _⟩ := refuse_eq_malformed_iff.1 hText
            obtain ⟨hNone, rfl⟩ := Utf8.decode_eq_error_iff.1 hDecode
            exact ⟨bytes, rest, by omega, hNone, rfl, rfl⟩
  · rintro ⟨bytes, rest, hShort, hNone, rfl, rfl⟩
    refine ⟨rest, bind_eq_malformed_iff.2 (.inr ⟨bytes.length, bytes ++ rest, ?_, ?_⟩)⟩
    · refine readNat_eq_ok_iff.2 ⟨?_, rfl⟩
      rw [valueCount_two]
      omega
    · rw [if_neg (by omega)]
      refine bind_eq_malformed_iff.2 (.inr ⟨bytes, rest, readBytes_eq_ok_iff.2 ⟨rfl, rfl⟩, ?_⟩)
      rw [Utf8.decode_eq_error_iff.2 ⟨hNone, rfl⟩]
      exact refuse_eq_malformed_iff.2 ⟨rfl, rfl⟩

end RobotBus.Wire
