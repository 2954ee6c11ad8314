import Mathlib.Algebra.Group.Nat.Defs
import RobotBus.Calls.Invocation

/-!
# Paths of invocations

The path under which a reply finds its call is eight hexadecimal digits of either case, and nothing
else is (`ofPath?_eq_some_iff`).
-/

namespace RobotBus.Calls.InvocationId

/-- Eight hexadecimal digits with the value of a number. -/
def Denotes (path : String) (id : InvocationId) : Prop :=
  ∃ values : List Nat, path.toList.map digit? = values.map some ∧ values.length = 8 ∧
    values.foldl (fun n value => n * 16 + value) 0 = id.toNat

theorem digit?_lt {c : Char} {value : Nat} (h : digit? c = some value) : value < 16 := by
  have hLe : ∀ d : Char, c ≤ d → c.toNat ≤ d.toNat :=
    fun d hd => UInt32.le_iff_toNat_le.1 (Char.le_def.1 hd)
  rw [digit?] at h
  split at h
  · rename_i hDecimal
    have hLast : c.toNat ≤ 57 := hLe '9' hDecimal.2
    cases h
    omega
  · split at h
    · rename_i hLower
      have hLast : c.toNat ≤ 102 := hLe 'f' hLower.2
      cases h
      omega
    · split at h
      · rename_i hUpper
        have hLast : c.toNat ≤ 70 := hLe 'F' hUpper.2
        cases h
        omega
      · cases h

theorem value?_eq_some_iff {chars : List Char} {n m : Nat} :
    value? n chars = some m ↔ ∃ values : List Nat, chars.map digit? = values.map some ∧
      values.foldl (fun n value => n * 16 + value) n = m := by
  induction chars generalizing n with
  | nil =>
    rw [value?, Option.some.injEq]
    constructor
    · rintro rfl
      exact ⟨[], rfl, rfl⟩
    · rintro ⟨values, hValues, hFold⟩
      obtain rfl := List.map_eq_nil_iff.1 hValues.symm
      exact hFold
  | cons c chars ih =>
    rw [value?, Option.bind_eq_bind, Option.bind_eq_some_iff]
    constructor
    · rintro ⟨value, hDigit, hRest⟩
      obtain ⟨values, hValues, hFold⟩ := ih.1 hRest
      refine ⟨value :: values, ?_, hFold⟩
      rw [List.map_cons, List.map_cons, hDigit, hValues]
    · rintro ⟨values, hValues, hFold⟩
      cases values with
      | nil => cases hValues
      | cons value values =>
        rw [List.map_cons, List.map_cons, List.cons.injEq] at hValues
        exact ⟨value, hValues.1, ih.2 ⟨values, hValues.2, hFold⟩⟩

/-- The number of values of `count` digits. -/
def valueCount : Nat → Nat
  | 0 => 1
  | count + 1 => 16 * valueCount count

theorem foldl_lt {values : List Nat} (h : ∀ value ∈ values, value < 16) {n bound : Nat}
    (hn : n < bound) :
    values.foldl (fun n value => n * 16 + value) n < bound * valueCount values.length := by
  induction values generalizing n bound with
  | nil => simpa [valueCount] using hn
  | cons value values ih =>
    have hValue := h value List.mem_cons_self
    have hRest := ih (fun later hLater => h later (List.mem_cons_of_mem value hLater))
      (show n * 16 + value < bound * 16 by omega)
    rw [List.foldl_cons, List.length_cons, valueCount, ← Nat.mul_assoc]
    exact hRest

theorem lt_of_map_digit? {chars : List Char} {values : List Nat}
    (h : chars.map digit? = values.map some) : ∀ value ∈ values, value < 16 := by
  intro value hValue
  have hSome : some value ∈ chars.map digit? := by
    rw [h]
    exact List.mem_map_of_mem hValue
  obtain ⟨c, _, hDigit⟩ := List.mem_map.1 hSome
  exact digit?_lt hDigit

theorem length_eq_of_map_digit? {chars : List Char} {values : List Nat}
    (h : chars.map digit? = values.map some) : values.length = chars.length := by
  have hLengths := congrArg List.length h
  rw [List.length_map, List.length_map] at hLengths
  exact hLengths.symm

/-- **A path leads to a call exactly if it is eight hexadecimal digits with the value of its
number.** -/
theorem ofPath?_eq_some_iff {path : String} {id : InvocationId} :
    ofPath? path = some id ↔ Denotes path id := by
  rw [ofPath?, Denotes]
  constructor
  · intro h
    split at h
    · rename_i hLength
      obtain ⟨n, hValue, hId⟩ := Option.map_eq_some_iff.1 h
      obtain ⟨values, hDigits, hFold⟩ := value?_eq_some_iff.1 hValue
      have hCount : values.length = 8 := by
        rw [← hLength]
        exact length_eq_of_map_digit? hDigits
      have hSmall := foldl_lt (lt_of_map_digit? hDigits) Nat.zero_lt_one
      rw [hFold, hCount, Nat.one_mul] at hSmall
      have hBound : n < 4294967296 := hSmall
      refine ⟨values, hDigits, hCount, ?_⟩
      rw [hFold, ← hId, UInt32.toNat_ofNat', Nat.mod_eq_of_lt (by omega)]
    · cases h
  · rintro ⟨values, hDigits, hCount, hFold⟩
    have hLength : path.toList.length = 8 := by
      rw [← hCount]
      exact (length_eq_of_map_digit? hDigits).symm
    rw [if_pos hLength, value?_eq_some_iff.2 ⟨values, hDigits, hFold⟩, Option.map_some,
      UInt32.ofNat_toNat]

theorem digit?_digit : ∀ n < 16, digit? (Hex.digit n) = some n := by
  decide

theorem value?_append (n : Nat) (chars chars' : List Char) :
    value? n (chars ++ chars') = (value? n chars).bind fun m => value? m chars' := by
  induction chars generalizing n with
  | nil => rfl
  | cons c chars ih =>
    rw [List.cons_append, value?, value?, Option.bind_eq_bind]
    cases digit? c with
    | none => rfl
    | some value => exact ih (n * 16 + value)

theorem value?_digits (width m n : Nat) :
    value? m (Hex.digits width n) = some (m * 16 ^ width + n % 16 ^ width) := by
  induction width generalizing n with
  | zero => rw [Hex.digits, value?, Nat.pow_zero, Nat.mul_one, Nat.mod_one, Nat.add_zero]
  | succ width ih =>
    have hDigit := digit?_digit (n % 16) (Nat.mod_lt n (by decide))
    have hValue : (m * 16 ^ width + n / 16 % 16 ^ width) * 16 + n % 16 =
        m * 16 ^ (width + 1) + n % 16 ^ (width + 1) := by
      rw [Nat.pow_succ', Nat.mod_mul, Nat.add_mul, Nat.mul_assoc, Nat.mul_comm (16 ^ width) 16]
      omega
    rw [Hex.digits, value?_append, ih, Option.bind_some, value?, hDigit]
    exact congrArg some hValue

/-- The path of a number leads to it. -/
theorem ofPath?_toPath (id : InvocationId) : ofPath? id.toPath = some id := by
  have hLength : id.toPath.toList.length = 8 := by
    rw [toPath, Hex.padded, String.toList_ofList, Hex.length_digits]
  have hSmall : id.toNat < 16 ^ 8 := id.toNat_lt
  rw [ofPath?, if_pos hLength, toPath, Hex.padded, String.toList_ofList, value?_digits,
    Nat.zero_mul, Nat.zero_add, Nat.mod_eq_of_lt hSmall, Option.map_some, UInt32.ofNat_toNat]

instance (path : String) (id : InvocationId) : Decidable (Denotes path id) :=
  decidable_of_iff _ ofPath?_eq_some_iff

end RobotBus.Calls.InvocationId
