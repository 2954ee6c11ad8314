import Mathlib.Data.List.Forall2
import Mathlib.Data.Nat.Digits.Defs
import RobotBus.Calls.Manager
import RobotBus.Proofs.Calls.InvocationPath

/-!
# Numerals of invocations

What a path has to look like to lead to a call, told without the reader of paths: a row of eight
digits from the usual sixteen, in either case, whose value in base sixteen is the number of the
call. Digits are characters of one byte, so that eight of them are eight bytes. The sources that a
manager sends are such numerals behind its endpoint, each number with one of its own
(`numerals_lead_to_calls`).
-/

namespace RobotBus.Calls

namespace InvocationId

/-! ## Digits -/

/-- The digits of each case, each at the place of its value. -/
def digitRows : List (List Char) :=
  [['0', '1', '2', '3', '4', '5', '6', '7', '8', '9', 'a', 'b', 'c', 'd', 'e', 'f'],
    ['0', '1', '2', '3', '4', '5', '6', '7', '8', '9', 'A', 'B', 'C', 'D', 'E', 'F']]

def IsDigit (c : Char) (value : Nat) : Prop :=
  ∃ row ∈ digitRows, row[value]? = some c

instance (c : Char) (value : Nat) : Decidable (IsDigit c value) :=
  inferInstanceAs (Decidable (∃ row ∈ digitRows, row[value]? = some c))

theorem toNat_le_of_digit? {c : Char} {value : Nat} (h : digit? c = some value) :
    c.toNat ≤ 102 := by
  have hLe : ∀ d : Char, c ≤ d → c.toNat ≤ d.toNat :=
    fun d hd => UInt32.le_iff_toNat_le.1 (Char.le_def.1 hd)
  rw [digit?] at h
  split at h
  · rename_i hDecimal
    exact Nat.le_trans (hLe '9' hDecimal.2) (by decide)
  · split at h
    · rename_i hLower
      exact hLe 'f' hLower.2
    · split at h
      · rename_i hUpper
        exact Nat.le_trans (hLe 'F' hUpper.2) (by decide)
      · cases h

/-- The reader of digits knows just the digits of the two rows. -/
theorem digit?_eq_some_iff {c : Char} {value : Nat} : digit? c = some value ↔ IsDigit c value := by
  constructor
  · intro h
    -- there are few characters up to the last digit
    have hAll : ∀ n ≤ 102, ∀ value ∈ digit? (Char.ofNat n), IsDigit (Char.ofNat n) value := by
      decide +kernel
    have hChar := hAll c.toNat (toNat_le_of_digit? h) value
    rw [Char.ofNat_toNat] at hChar
    exact hChar h
  · rintro ⟨row, hRow, hChar⟩
    have hAll : ∀ row ∈ digitRows, row.length = 16 ∧
        ∀ value < 16, row[value]?.bind digit? = some value := by
      decide
    obtain ⟨hLength, hDigits⟩ := hAll row hRow
    have hValue : value < row.length := (List.getElem?_eq_some_iff.1 hChar).1
    rw [hLength] at hValue
    have hDigit := hDigits value hValue
    rw [hChar] at hDigit
    exact hDigit

theorem toNat_le_of_isDigit {c : Char} {value : Nat} (h : IsDigit c value) : c.toNat ≤ 102 :=
  toNat_le_of_digit? (digit?_eq_some_iff.2 h)

theorem map_digit?_eq_iff {chars : List Char} {values : List Nat} :
    chars.map digit? = values.map some ↔ List.Forall₂ IsDigit chars values := by
  induction chars generalizing values with
  | nil => rw [List.map_nil, eq_comm, List.map_eq_nil_iff, List.forall₂_nil_left_iff]
  | cons c chars ih =>
    cases values with
    | nil => rw [List.map_nil, List.map_eq_nil_iff, List.forall₂_nil_right_iff]
    | cons value values =>
      rw [List.map_cons, List.map_cons, List.cons.injEq, List.forall₂_cons, digit?_eq_some_iff, ih]

/-! ## Numerals -/

/-- Eight digits that write a number, the most significant one first. -/
def IsNumeral (path : String) (id : InvocationId) : Prop :=
  ∃ values : List Nat, List.Forall₂ IsDigit path.toList values ∧ values.length = 8 ∧
    Nat.ofDigits 16 values.reverse = id.toNat

theorem denotes_iff {path : String} {id : InvocationId} : Denotes path id ↔ IsNumeral path id := by
  refine exists_congr fun values => ?_
  have hSteps : (fun n value : Nat => n * 16 + value) = fun n value => value + 16 * n := by
    funext n value
    omega
  rw [map_digit?_eq_iff, Nat.ofDigits_eq_foldr, List.foldr_reverse, hSteps]
  exact Iff.rfl

theorem utf8ByteSize_ofList {chars : List Char} (h : ∀ c ∈ chars, c.toNat ≤ 127) :
    (String.ofList chars).utf8ByteSize = chars.length := by
  induction chars with
  | nil => rfl
  | cons c chars ih =>
    rw [List.forall_mem_cons] at h
    have hSize : c.utf8Size = 1 := Char.utf8Size_eq_one_iff.2 (UInt32.le_iff_toNat_le.2 h.1)
    rw [String.ofList_cons, String.utf8ByteSize_append, String.utf8ByteSize_singleton, hSize,
      ih h.2, List.length_cons, Nat.add_comm]

namespace IsNumeral

variable {path : String} {id : InvocationId}

theorem exists_isDigit (h : IsNumeral path id) : ∀ c ∈ path.toList, ∃ value, IsDigit c value := by
  obtain ⟨values, hDigits, _⟩ := h
  intro c hChar
  obtain ⟨i, hi, rfl⟩ := List.getElem_of_mem hChar
  exact ⟨_, hDigits.get hi (hDigits.length_eq ▸ hi)⟩

theorem utf8ByteSize_eq (h : IsNumeral path id) : path.utf8ByteSize = 8 := by
  have hAscii : ∀ c ∈ path.toList, c.toNat ≤ 127 := by
    intro c hChar
    obtain ⟨value, hDigit⟩ := h.exists_isDigit c hChar
    exact Nat.le_trans (toNat_le_of_isDigit hDigit) (by decide)
  obtain ⟨values, hDigits, hLength, _⟩ := h
  rw [← String.ofList_toList (s := path), utf8ByteSize_ofList hAscii, hDigits.length_eq, hLength]

end IsNumeral

theorem toPath_injective : Function.Injective toPath := by
  intro id id' hSame
  have hRead := ofPath?_toPath id
  rw [hSame, ofPath?_toPath] at hRead
  exact (Option.some.inj hRead).symm

end InvocationId

open InvocationId (IsDigit IsNumeral ofPath? toPath)

namespace Manager

theorem sourceOf_injective (manager : Manager) : Function.Injective manager.sourceOf := by
  intro id id' hSame
  exact InvocationId.toPath_injective (String.append_right_inj _ |>.1 hSame)

/-- A call is invoked with the numeral of its number behind the endpoint. -/
theorem source_of_begin {manager : Manager} {target : String} {arguments : Bytes}
    {timeout : Duration} {now : Moment} {started : Started}
    (h : manager.begin target arguments timeout now = some started) :
    ∃ call, started.manager.calls.get? started.call = some call ∧
      started.message.source = some (manager.sourceOf call.id) := by
  obtain ⟨⟨id, pending⟩, _, rfl⟩ := Option.map_eq_some_iff.1 h
  refine ⟨{ id, target, timeout, deadline := now + timeout }, ?_, rfl⟩
  rw [Bindings.get?_insert, if_pos rfl]

end Manager

/-- **Exactly the numerals of eight hexadecimal digits lead to calls.** A path leads to the call
with the number that it writes. Each number has a path of its own, which leads back to it and which
its call is invoked with. Nothing else is taken for a number: no sign, no slash, no character beyond
ASCII and no other length. -/
theorem numerals_lead_to_calls :
    (∀ path id, ofPath? path = some id ↔ IsNumeral path id) ∧
    (∀ id, ofPath? (toPath id) = some id) ∧
    (∀ id id', toPath id = toPath id' → id = id') ∧
    (∀ (manager : Manager) id id', manager.sourceOf id = manager.sourceOf id' → id = id') ∧
    (∀ (manager : Manager) target arguments timeout now started,
      manager.begin target arguments timeout now = some started →
        ∃ call, started.manager.calls.get? started.call = some call ∧
          started.message.source = some (Path.through manager.endpoint (some (toPath call.id)))) ∧
    ∀ path, (path.utf8ByteSize ≠ 8 ∨
        ∃ c ∈ path.toList, c = '+' ∨ c = '-' ∨ c = '/' ∨ 127 < c.toNat) →
      ofPath? path = none := by
  have hIff : ∀ path id, ofPath? path = some id ↔ IsNumeral path id := by
    intro path id
    rw [InvocationId.ofPath?_eq_some_iff, InvocationId.denotes_iff]
  refine ⟨hIff, InvocationId.ofPath?_toPath, fun _ _ hSame => InvocationId.toPath_injective hSame,
    fun manager _ _ hSame => manager.sourceOf_injective hSame,
    fun _ _ _ _ _ _ hBegin => Manager.source_of_begin hBegin, ?_⟩
  intro path hOther
  refine Option.eq_none_iff_forall_ne_some.2 fun id hId => ?_
  have hNumeral := (hIff path id).1 hId
  rcases hOther with hLength | ⟨c, hChar, hKind⟩
  · exact hLength hNumeral.utf8ByteSize_eq
  · obtain ⟨value, hDigit⟩ := hNumeral.exists_isDigit c hChar
    have hNone : ∀ d : Char, InvocationId.digit? d = none → c ≠ d := by
      rintro d hNone rfl
      rw [InvocationId.digit?_eq_some_iff.2 hDigit] at hNone
      cases hNone
    rcases hKind with rfl | rfl | rfl | hBeyond
    · exact hNone '+' (by decide) rfl
    · exact hNone '-' (by decide) rfl
    · exact hNone '/' (by decide) rfl
    · have := InvocationId.toNat_le_of_isDigit hDigit
      omega

/-- Digits of both cases may be mixed. -/
example : ofPath? "00c0FFee" = some 0xc0ffee ∧ ofPath? "+00c0ffe" = none := by
  decide +kernel

end RobotBus.Calls
