import Mathlib.Algebra.Group.Nat.Defs
import Mathlib.Logic.Function.Iterate
import RobotBus.Proofs.Wire.Limit

/-!
# Bursts of errors

The register of a checksum takes eight steps for each byte. A step is linear in exclusive or
(`shiftBit_xor`), and it loses nothing, because the highest bit of the polynomial is set
(`shiftBit_injective`). Up to eight bytes can be added to the register all at once, before the
first step is taken (`foldl_feed_eq`). So bytes that differ in a window of eight have different
checksums, whatever stands in front of the window and behind it (`eq_of_ofBytes_eq`).

A decoder therefore refuses a frame that was damaged within such a window, of what the checksum
covers or of the checksum itself (`burst_is_refused`).
-/

namespace RobotBus.Wire

namespace Crc64

/-! ## Steps of the register -/

example : polynomial.toBitVec = (0xad93d23594c935a9#64).reverse := by decide +kernel

theorem toNat_and_one (register : UInt64) : (register &&& 1).toNat = register.toNat % 2 := by
  rw [UInt64.toNat_and]
  exact Nat.and_one_is_mod register.toNat

theorem and_one_cases (register : UInt64) : register &&& 1 = 0 ∨ register &&& 1 = 1 := by
  have hBit := toNat_and_one register
  rcases Nat.mod_two_eq_zero_or_one register.toNat with hZero | hOne
  · exact .inl (UInt64.toNat_inj.mp (hBit.trans hZero))
  · exact .inr (UInt64.toNat_inj.mp (hBit.trans hOne))

theorem xor_and_one (a b : UInt64) : (a ^^^ b) &&& 1 = (a &&& 1) ^^^ (b &&& 1) := by
  apply UInt64.toNat_inj.mp
  simp only [UInt64.toNat_and, UInt64.toNat_xor]
  exact Nat.and_xor_distrib_right

theorem toNat_half (register : UInt64) : (register >>> 1).toNat = register.toNat / 2 := by
  rw [UInt64.toNat_shiftRight]
  rfl

theorem shiftBit_of_zero {register : UInt64} (h : register &&& 1 = 0) :
    shiftBit register = register >>> 1 := by
  rw [shiftBit, h, if_neg (by decide)]

theorem shiftBit_of_one {register : UInt64} (h : register &&& 1 = 1) :
    shiftBit register = (register >>> 1) ^^^ polynomial := by
  rw [shiftBit, if_pos h]

/-- **A step is linear.** -/
theorem shiftBit_xor (a b : UInt64) : shiftBit (a ^^^ b) = shiftBit a ^^^ shiftBit b := by
  have hBit := xor_and_one a b
  rcases and_one_cases a with ha | ha <;> rcases and_one_cases b with hb | hb <;>
    rw [ha, hb] at hBit
  · rw [shiftBit_of_zero hBit, shiftBit_of_zero ha, shiftBit_of_zero hb, UInt64.shiftRight_xor]
  · rw [shiftBit_of_one hBit, shiftBit_of_zero ha, shiftBit_of_one hb, UInt64.shiftRight_xor]
    ac_rfl
  · rw [shiftBit_of_one hBit, shiftBit_of_one ha, shiftBit_of_zero hb, UInt64.shiftRight_xor]
    ac_rfl
  · -- the polynomial is added twice, and so not at all
    have hTwice : polynomial ^^^ polynomial = 0 := UInt64.xor_self
    calc shiftBit (a ^^^ b) = a >>> 1 ^^^ b >>> 1 := by
          rw [shiftBit_of_zero hBit, UInt64.shiftRight_xor]
      _ = a >>> 1 ^^^ b >>> 1 ^^^ (polynomial ^^^ polynomial) := by rw [hTwice, UInt64.xor_zero]
      _ = a >>> 1 ^^^ polynomial ^^^ (b >>> 1 ^^^ polynomial) := by ac_rfl
      _ = shiftBit a ^^^ shiftBit b := by rw [shiftBit_of_one ha, shiftBit_of_one hb]

/-- The highest bit shows whether the polynomial was added. -/
theorem eq_zero_of_shiftBit {register : UInt64} (h : shiftBit register = 0) : register = 0 := by
  have hHalf := toNat_half register
  have hBit := toNat_and_one register
  have hLess := register.toNat_lt
  rcases and_one_cases register with hZero | hOne
  · rw [shiftBit_of_zero hZero] at h
    rw [h] at hHalf
    rw [hZero] at hBit
    have hHalf : 0 = register.toNat / 2 := hHalf
    have hBit : 0 = register.toNat % 2 := hBit
    apply UInt64.toNat_inj.mp
    show register.toNat = 0
    omega
  · rw [shiftBit_of_one hOne, UInt64.xor_eq_zero_iff] at h
    have hHigh : 2 ^ 63 ≤ polynomial.toNat := by decide
    rw [← h] at hHigh
    omega

theorem shiftBit_injective : Function.Injective shiftBit := by
  intro a b h
  have hZero : shiftBit (a ^^^ b) = 0 := by
    rw [shiftBit_xor, h, UInt64.xor_self]
  exact UInt64.xor_eq_zero_iff.1 (eq_zero_of_shiftBit hZero)

theorem iterate_shiftBit_xor (n : Nat) (a b : UInt64) :
    shiftBit^[n] (a ^^^ b) = shiftBit^[n] a ^^^ shiftBit^[n] b := by
  induction n generalizing a b with
  | zero => rfl
  | succ n ih => rw [Function.iterate_succ_apply, shiftBit_xor, ih]; rfl

/-- Low bits that are zero are only moved out of the register. -/
theorem toNat_iterate_shiftBit {n : Nat} {register : UInt64} (h : 2 ^ n ∣ register.toNat) :
    (shiftBit^[n] register).toNat = register.toNat / 2 ^ n := by
  induction n generalizing register with
  | zero => rw [Nat.pow_zero, Nat.div_one]; rfl
  | succ n ih =>
    have hEven : register.toNat % 2 = 0 :=
      Nat.mod_eq_zero_of_dvd (Nat.dvd_trans (Nat.dvd_mul_left 2 (2 ^ n)) h)
    have hZero : register &&& 1 = 0 := UInt64.toNat_inj.mp ((toNat_and_one register).trans hEven)
    have hStep : (shiftBit register).toNat = register.toNat / 2 := by
      rw [shiftBit_of_zero hZero, toNat_half]
    have hRest : 2 ^ n ∣ (shiftBit register).toNat := by
      rw [hStep]
      exact Nat.dvd_div_of_mul_dvd (by rw [Nat.mul_comm]; exact h)
    rw [Function.iterate_succ_apply, ih hRest, hStep, Nat.div_div_eq_div_mul, Nat.pow_succ,
      Nat.mul_comm 2]

/-! ## Bytes that are added at once -/

/-- The register that bytes make up, the first one in the lowest place. -/
def word : Bytes → UInt64
  | [] => 0
  | byte :: bytes => byte.toUInt64 ^^^ (word bytes <<< 8)

theorem toNat_shiftLeft_eight {register : UInt64} (h : register.toNat < 2 ^ 56) :
    (register <<< 8).toNat = register.toNat * 256 := by
  rw [UInt64.toNat_shiftLeft]
  show register.toNat <<< 8 % 2 ^ 64 = _
  rw [Nat.shiftLeft_eq]
  omega

theorem toNat_word_lt {bytes : Bytes} (h : bytes.length ≤ 8) :
    (word bytes).toNat < 2 ^ (8 * bytes.length) := by
  induction bytes with
  | nil => decide
  | cons byte bytes ih =>
    rw [List.length_cons] at h
    have hRest := ih (by omega)
    have hBound : 2 ^ (8 * bytes.length) ≤ 2 ^ 56 := Nat.pow_le_pow_right (by decide) (by omega)
    have hPower : 2 ^ (8 * (bytes.length + 1)) = 2 ^ (8 * bytes.length) * 256 := by
      rw [Nat.mul_add, Nat.pow_add]
    have hByte : byte.toUInt64.toNat < 2 ^ (8 * (bytes.length + 1)) := by
      have hSmall := byte.toNat_lt
      have hPositive := Nat.two_pow_pos (8 * bytes.length)
      rw [UInt8.toNat_toUInt64]
      omega
    rw [List.length_cons, word, UInt64.toNat_xor]
    refine Nat.xor_lt_two_pow hByte ?_
    rw [toNat_shiftLeft_eight (by omega)]
    omega

/-- Up to seven bytes leave room for one below them. -/
theorem toNat_word_shiftLeft {bytes : Bytes} (h : bytes.length ≤ 7) :
    (word bytes <<< 8).toNat = (word bytes).toNat * 256 := by
  have hLess := toNat_word_lt (Nat.le_succ_of_le h)
  have hBound : 2 ^ (8 * bytes.length) ≤ 2 ^ 56 := Nat.pow_le_pow_right (by decide) (by omega)
  exact toNat_shiftLeft_eight (Nat.lt_of_lt_of_le hLess hBound)

theorem toUInt8_word (byte : UInt8) (bytes : Bytes) : (word (byte :: bytes)).toUInt8 = byte := by
  have hNone : (word bytes <<< 8).toUInt8 = 0 := by
    apply UInt8.toNat_inj.mp
    rw [UInt64.toNat_toUInt8, UInt64.toNat_shiftLeft]
    show (word bytes).toNat <<< 8 % 2 ^ 64 % 2 ^ 8 = 0
    rw [Nat.shiftLeft_eq]
    omega
  rw [word, UInt64.toUInt8_xor, hNone, UInt8.xor_zero]
  exact UInt8.toUInt8_toUInt64 byte

/-- **Up to eight bytes may be added to the register at once**, before all of their steps. -/
theorem foldl_feed_eq {bytes : Bytes} (h : bytes.length ≤ 8) (register : UInt64) :
    bytes.foldl feed register = shiftBit^[8 * bytes.length] (register ^^^ word bytes) := by
  induction bytes generalizing register with
  | nil => exact UInt64.xor_zero.symm
  | cons byte bytes ih =>
    rw [List.length_cons] at h
    -- the later bytes lie high enough to be moved down unchanged by the steps of the first one
    have hLater : shiftBit^[8] (word bytes <<< 8) = word bytes := by
      have hShifted := toNat_word_shiftLeft (Nat.le_of_succ_le_succ h)
      apply UInt64.toNat_inj.mp
      rw [toNat_iterate_shiftBit (by rw [hShifted]; exact Nat.dvd_mul_left 256 _), hShifted]
      omega
    have hFirst : feed register byte = shiftBit^[8] (register ^^^ byte.toUInt64) := rfl
    calc (byte :: bytes).foldl feed register
        = shiftBit^[8 * bytes.length] (feed register byte ^^^ word bytes) := ih (by omega) _
      _ = shiftBit^[8 * bytes.length] (shiftBit^[8] (register ^^^ word (byte :: bytes))) := by
          rw [word, ← UInt64.xor_assoc, iterate_shiftBit_xor 8, hLater, hFirst]
      _ = shiftBit^[8 * (byte :: bytes).length] (register ^^^ word (byte :: bytes)) := by
          rw [← Function.iterate_add_apply, List.length_cons, Nat.mul_add]

theorem word_injective {bytes bytes' : Bytes} (hLength : bytes.length = bytes'.length)
    (hShort : bytes.length ≤ 8) (h : word bytes = word bytes') : bytes = bytes' := by
  induction bytes generalizing bytes' with
  | nil => exact (List.eq_nil_of_length_eq_zero hLength.symm).symm
  | cons byte bytes ih =>
    cases bytes' with
    | nil => cases hLength
    | cons byte' bytes' =>
      rw [List.length_cons] at hShort
      have hLength : bytes.length = bytes'.length := Nat.succ.inj hLength
      have hByte : byte = byte' := by
        rw [← toUInt8_word byte bytes, h, toUInt8_word]
      rw [word, word, hByte, UInt64.xor_right_inj] at h
      have hShifted := congrArg UInt64.toNat h
      rw [toNat_word_shiftLeft (by omega), toNat_word_shiftLeft (by omega)] at hShifted
      have hWord : word bytes = word bytes' := UInt64.toNat_inj.mp (by omega)
      rw [hByte, ih hLength (by omega) hWord]

/-! ## Windows -/

theorem foldl_feed_left_injective (bytes : Bytes) :
    Function.Injective fun register => bytes.foldl feed register := by
  induction bytes with
  | nil => exact Function.injective_id
  | cons byte bytes ih =>
    intro a b h
    have hFirst : shiftBit^[8] (a ^^^ byte.toUInt64) = shiftBit^[8] (b ^^^ byte.toUInt64) := ih h
    exact (UInt64.xor_left_inj _).1 (shiftBit_injective.iterate 8 hFirst)

/-- **Bytes with the same checksum do not differ in a window of eight only.** -/
theorem eq_of_ofBytes_eq {front window window' back : Bytes}
    (hLength : window'.length = window.length) (hShort : window.length ≤ 8)
    (h : ofBytes (front ++ window' ++ back) = ofBytes (front ++ window ++ back)) :
    window' = window := by
  simp only [ofBytes, List.foldl_append] at h
  have hWindow := foldl_feed_left_injective back h
  rw [foldl_feed_eq hShort, foldl_feed_eq (by omega), hLength] at hWindow
  have hWord := (UInt64.xor_right_inj _).1 (shiftBit_injective.iterate _ hWindow)
  exact word_injective hLength (by omega) hWord

end Crc64

/-! ## Damaged frames -/

/-- Eight bytes are those of the number that is read from them. -/
theorem bigEndianBytes_ofNat {bytes : Bytes} (h : bytes.length = 8) :
    bigEndianBytes 8 (UInt64.ofNat (bigEndian bytes)).toNat = bytes := by
  have hLess : bigEndian bytes < 18446744073709551616 := bigEndian_lt h
  rw [UInt64.toNat_ofNat', Nat.mod_eq_of_lt hLess, bigEndianBytes_bigEndian h]

theorem ofNat_bigEndian_inj {bytes bytes' : Bytes} (h : bytes.length = 8)
    (h' : bytes'.length = 8)
    (hSame : UInt64.ofNat (bigEndian bytes) = UInt64.ofNat (bigEndian bytes')) :
    bytes = bytes' := by
  rw [← bigEndianBytes_ofNat h, hSame, bigEndianBytes_ofNat h']

/-- A window that begins and ends within the middle part of some bytes. -/
theorem exists_window {front window back lead middle tail : Bytes}
    (h : front ++ window ++ back = lead ++ middle ++ tail) (hFront : lead.length ≤ front.length)
    (hBack : tail.length ≤ back.length) :
    ∃ front' back', front = lead ++ front' ∧ back = back' ++ tail ∧
      middle = front' ++ window ++ back' := by
  have hPrefix : front <+: front ++ window ++ back := by
    rw [List.append_assoc]
    exact List.prefix_append ..
  have hLead : lead <+: front ++ window ++ back := by
    rw [h, List.append_assoc]
    exact List.prefix_append ..
  have hTail : tail <:+ front ++ window ++ back := by
    rw [h]
    exact List.suffix_append ..
  obtain ⟨front', rfl⟩ := List.prefix_of_prefix_length_le hLead hPrefix hFront
  obtain ⟨back', rfl⟩ := List.suffix_of_suffix_length_le hTail (List.suffix_append _ _) hBack
  refine ⟨front', back', rfl, rfl, ?_⟩
  rw [← List.append_assoc, List.append_cancel_right_eq] at h
  simpa only [List.append_assoc, List.append_cancel_left_eq] using h.symm

namespace Frame

/-- What a decoder makes of a frame with a checksum that is not that of its base and payload. -/
theorem decode_of_mismatch {target source : Option String} {targetBytes sourceBytes : Bytes}
    (hTarget : textBytes target = .ok targetBytes) (hSource : textBytes source = .ok sourceBytes)
    {payload : Bytes} (hLargest : payload.length ≤ largestPayload) {limit : Nat}
    (hLimit : payload.length ≤ limit) {base : UInt64} {found : Bytes} (hFound : found.length = 8)
    (hOther : UInt64.ofNat (bigEndian found) ≠ checksum base payload) (rest : Bytes) :
    (decoder limit).decode (targetBytes ++ sourceBytes ++ bigEndianBytes 4 payload.length ++
      (baseBytes base ++ payload) ++ found ++ rest) = .malformed
        (.checksumMismatch (checksum base payload) (UInt64.ofNat (bigEndian found))) := by
  rw [largestPayload] at hLargest
  have hReadTarget : ∀ more, readText (targetBytes ++ more) = .ok target more :=
    fun more => readText_eq_ok_iff.2 ⟨targetBytes, hTarget, rfl⟩
  have hReadSource : ∀ more, readText (sourceBytes ++ more) = .ok source more :=
    fun more => readText_eq_ok_iff.2 ⟨sourceBytes, hSource, rfl⟩
  have hReadLength : ∀ more, readI32 (bigEndianBytes 4 payload.length ++ more) =
      .ok (payload.length : Int) more :=
    fun more => (readI32_eq_ok_iff (by omega)).2 rfl
  have hReadBase : ∀ more, readU64 (baseBytes base ++ more) = .ok base more :=
    fun more => readU64_eq_ok_iff.2 rfl
  have hReadPayload : ∀ more, readBytes (payload.length : Int).toNat (payload ++ more) =
      .ok payload more :=
    fun more => readBytes_eq_ok_iff.2 ⟨by rw [Int.toNat_natCast], rfl⟩
  have hReadFound : ∀ more, readU64 (found ++ more) = .ok (.ofNat (bigEndian found)) more :=
    fun more => readU64_eq_ok_iff.2 (by rw [bigEndianBytes_ofNat hFound])
  have hRead : ∃ left, read limit (targetBytes ++ sourceBytes ++ bigEndianBytes 4 payload.length ++
      (baseBytes base ++ payload) ++ found ++ rest) = .error (.malformed
        (.checksumMismatch (checksum base payload) (UInt64.ofNat (bigEndian found)))) left := by
    simp only [List.append_assoc]
    rw [read, bind_of_ok (hReadTarget _), bind_of_ok (hReadSource _), bind_of_ok (hReadLength _),
      if_neg (by omega), bind_of_ok (hReadBase _), bind_of_ok (hReadPayload _),
      bind_of_ok (hReadFound _), if_neg hOther]
    exact ⟨_, rfl⟩
  obtain ⟨left, hRead⟩ := hRead
  show (read limit).decode _ = _
  rw [Read.decode, hRead]

/-- What a decoder makes of other bytes in the places of the base and the payload, and of the
checksum. -/
theorem decode_changed {frame : Frame} {base : UInt64} {bytes : Bytes}
    (hEncode : frame.encode base = .ok bytes) {limit : Nat}
    (hLimit : frame.payload.length ≤ limit) :
    ∃ lead sum, bytes = lead ++ (baseBytes base ++ frame.payload) ++ sum ∧ sum.length = 8 ∧
      UInt64.ofNat (bigEndian sum) = checksum base frame.payload ∧
      ∀ covered found rest, covered.length = frame.payload.length + 8 → found.length = 8 →
        UInt64.ofNat (bigEndian found) ≠ Crc64.ofBytes covered →
        (decoder limit).decode (lead ++ covered ++ found ++ rest) = .malformed
          (.checksumMismatch (Crc64.ofBytes covered) (UInt64.ofNat (bigEndian found))) := by
  obtain ⟨hLargest, target, source, hTarget, hSource, rfl⟩ := encode_eq_ok_iff.1 hEncode
  refine ⟨target ++ source ++ bigEndianBytes 4 frame.payload.length,
    bigEndianBytes 8 (checksum base frame.payload).toNat, ?_, length_bigEndianBytes 8 _, ?_, ?_⟩
  · simp only [body, List.append_assoc]
  · have hLess : (checksum base frame.payload).toNat < valueCount 8 := UInt64.toNat_lt _
    rw [bigEndian_bigEndianBytes, Nat.mod_eq_of_lt hLess, UInt64.ofNat_toNat]
  · intro covered found rest hCovered hFound hOther
    -- the first eight bytes are taken for the base, and what follows for the payload
    have hBase := @bigEndianBytes_ofNat (covered.take 8) (by rw [List.length_take]; omega)
    generalize UInt64.ofNat (bigEndian (covered.take 8)) = base' at hBase
    have hSplit : covered = baseBytes base' ++ covered.drop 8 := by
      rw [baseBytes, hBase, List.take_append_drop]
    have hPayload : (covered.drop 8).length = frame.payload.length := by
      rw [List.length_drop, hCovered]
      omega
    have hSum : checksum base' (covered.drop 8) = Crc64.ofBytes covered := by
      rw [checksum, ← hSplit]
    rw [← hSum] at hOther
    rw [← hPayload] at hLargest hLimit
    have hDecode := decode_of_mismatch hTarget hSource hLargest hLimit hFound hOther rest
    rw [hPayload, ← hSplit, hSum] at hDecode
    exact hDecode

/-- **A burst of errors is refused.** Let the bytes of a frame be changed in a window of at most
eight, which lies within the base and the payload, or within the checksum. Then a decoder that would
have taken the frame refuses what has come of it because of the checksum, whatever follows, and
takes nothing out of its buffer. -/
theorem burst_is_refused {frame : Frame} {base : UInt64} {limit : Nat}
    {front window window' back : Bytes}
    (hEncode : frame.encode base = .ok (front ++ window ++ back))
    (hLimit : frame.payload.length ≤ limit) (hShort : window.length ≤ 8)
    (hLength : window'.length = window.length) (hChanged : window' ≠ window)
    (hWhere : 8 ≤ back.length ∧ window.length + back.length ≤ frame.payload.length + 16 ∨
      window.length + back.length ≤ 8) (rest : Bytes) :
    let buffer := front ++ window' ++ back ++ rest
    ∃ expected found, expected ≠ found ∧
      (decoder limit).decode buffer = .malformed (.checksumMismatch expected found) ∧
      (decoder limit).drain buffer =
        ⟨[], buffer, .malformed (.checksumMismatch expected found)⟩ := by
  intro buffer
  obtain ⟨lead, sum, hBytes, hEight, hSum, hDecode⟩ := decode_changed hEncode hLimit
  have hLengths := congrArg List.length hBytes
  simp only [List.length_append, length_baseBytes] at hLengths
  -- it is enough to find the damaged bytes in their places
  suffices hFault : ∃ covered found, buffer = lead ++ covered ++ found ++ rest ∧
      covered.length = frame.payload.length + 8 ∧ found.length = 8 ∧
      UInt64.ofNat (bigEndian found) ≠ Crc64.ofBytes covered by
    obtain ⟨covered, found, hBuffer, hCovered, hFound, hOther⟩ := hFault
    have hRefused := hDecode covered found rest hCovered hFound hOther
    rw [← hBuffer] at hRefused
    exact ⟨_, _, Ne.symm hOther, hRefused, Decoder.drain_of_malformed hRefused⟩
  rcases hWhere with ⟨hBack, hWindow⟩ | hWindow
  · obtain ⟨front', back', rfl, rfl, hCovered⟩ := exists_window hBytes (by omega) (by omega)
    refine ⟨front' ++ window' ++ back', sum, ?_, ?_, hEight, ?_⟩
    · simp only [buffer, List.append_assoc]
    · have hSize := congrArg List.length hCovered
      simp only [List.length_append, length_baseBytes] at hSize ⊢
      omega
    · rw [hSum, checksum, hCovered]
      intro hSame
      exact hChanged (Crc64.eq_of_ofBytes_eq hLength hShort hSame.symm)
  · rw [← List.append_nil (_ ++ sum)] at hBytes
    obtain ⟨front', back', rfl, rfl, hFound⟩ := exists_window hBytes
      (by simp only [List.length_append, length_baseBytes]; omega) (Nat.zero_le _)
    have hSize : (front' ++ window' ++ back').length = 8 := by
      rw [hFound] at hEight
      simp only [List.length_append] at hEight ⊢
      omega
    refine ⟨baseBytes base ++ frame.payload, front' ++ window' ++ back', ?_, ?_, hSize, ?_⟩
    · simp only [buffer, List.append_assoc, List.nil_append]
    · rw [List.length_append, length_baseBytes, Nat.add_comm]
    · intro hSame
      have hBoth := ofNat_bigEndian_inj hSize hEight (hSame.trans hSum.symm)
      rw [hFound, List.append_cancel_right_eq, List.append_cancel_left_eq] at hBoth
      exact hChanged hBoth

/-- A keepalive with one bit flipped in its payload, and the beginning of another frame behind
it. -/
theorem flipped_bit_is_refused :
    let front : Bytes :=
      [0, 9, 0x4b, 0x45, 0x45, 0x50, 0x41, 0x4c, 0x49, 0x56, 0x45, 0xff, 0xff, 0, 0, 0, 2,
        0, 0, 0, 0, 0, 0, 0, 7, 0x0f]
    let window : Bytes := [0x6d]
    let window' : Bytes := [0x6c]
    let back : Bytes := [0x8c, 0x31, 0x75, 0x1f, 0x3d, 0xa4, 0xa1, 0x44]
    let buffer := front ++ window' ++ back ++ [0, 9]
    (keepalive.encode 7 = .ok (front ++ window ++ back) ∧ keepalive.payload.length ≤ 2 ∧
      window.length ≤ 8 ∧ window'.length = window.length ∧ window' ≠ window ∧
      8 ≤ back.length ∧ window.length + back.length ≤ keepalive.payload.length + 16) ∧
    ∃ expected found, expected ≠ found ∧
      (decoder 2).decode buffer = .malformed (.checksumMismatch expected found) ∧
      (decoder 2).drain buffer =
        ⟨[], buffer, .malformed (.checksumMismatch expected found)⟩ := by
  intro front window window' back buffer
  obtain ⟨bytes, hEncode⟩ : ∃ bytes, keepalive.encode 7 = .ok bytes :=
    encode_isOk_iff.2 isEncodable_keepalive
  have hBytes : (keepalive.encode 7).toOption = some (front ++ window ++ back) := by
    decide +kernel
  rw [hEncode] at hBytes
  rw [Option.some.inj hBytes] at hEncode
  refine ⟨⟨hEncode, by decide, by decide, by decide, by decide, by decide, by decide⟩, ?_⟩
  exact burst_is_refused hEncode (by decide) (by decide) (by decide) (by decide)
    (.inl (by decide)) [0, 9]

end Frame

end RobotBus.Wire
