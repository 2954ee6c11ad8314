import Mathlib.Algebra.Group.Nat.Defs
import Mathlib.Data.List.Nodup
import Mathlib.Data.List.Perm.Subperm
import Mathlib.Data.Nat.Find
import RobotBus.Calls.Invocation

/-!
# Numbers for calls that begin

A call that begins looks for a number from the next one on, and behind the largest number goes on
with zero. `Search` is that search as it runs, without any bound on its steps. It passes only
numbers that waiting calls have (`search_iff`), and as these are different from each other, it ends
after no more steps than there are waiting calls (`exists_search`). The bounded search of a
registration is the same one (`freeId?_eq_some_iff`), so a registration finds the first free number
(`register_takes_first_free`).
-/

namespace RobotBus.Calls

/-- Numbers of calls are different, as long as the calls are not too far apart. -/
theorem eq_of_ofNat {m n : Nat} (hm : m < n + UInt32.size) (hn : n < m + UInt32.size)
    (h : UInt32.ofNat m = UInt32.ofNat n) : m = n := by
  have hValues := congrArg UInt32.toNat h
  rw [UInt32.toNat_ofNat', UInt32.toNat_ofNat'] at hValues
  simp only [UInt32.size] at hm hn
  omega

namespace Pending

/-- The number that follows `first` after some steps. -/
def ahead (first : InvocationId) (steps : Nat) : InvocationId :=
  first + UInt32.ofNat steps

/-- A search begins at a number, passes some that calls have, and ends at one that is free. -/
inductive Search (invocations : Bindings InvocationId Invocation) :
    InvocationId → Nat → InvocationId → Prop
  | free {id : InvocationId} : invocations.get? id = none → Search invocations id 0 id
  | taken {id found : InvocationId} {steps : Nat} : invocations.get? id ≠ none →
    Search invocations (id + 1) steps found → Search invocations id (steps + 1) found

variable {invocations : Bindings InvocationId Invocation} {first found : InvocationId}
  {steps : Nat}

/-! ## Numbers one after the other -/

theorem ahead_zero (first : InvocationId) : ahead first 0 = first :=
  UInt32.add_zero first

theorem ahead_succ (first : InvocationId) (steps : Nat) :
    ahead first (steps + 1) = ahead (first + 1) steps := by
  rw [ahead, ahead, UInt32.ofNat_add, UInt32.add_comm (UInt32.ofNat steps), ← UInt32.add_assoc]
  rfl

/-- Only after as many steps as there are numbers does one come again. -/
theorem ahead_injective {m n : Nat} (hm : m < UInt32.size) (hn : n < UInt32.size)
    (h : ahead first m = ahead first n) : m = n :=
  eq_of_ofNat (Nat.lt_add_left n hm) (Nat.lt_add_left m hn) ((UInt32.add_right_inj first).1 h)

/-! ## Searches -/

/-- **A search finds the first free number**, and passes no other number that is free. -/
theorem search_iff : Search invocations first steps found ↔
    found = ahead first steps ∧ invocations.get? found = none ∧
      ∀ m < steps, invocations.get? (ahead first m) ≠ none := by
  induction steps generalizing first with
  | zero =>
    rw [ahead_zero]
    constructor
    · intro h
      cases h with
      | free hFree => exact ⟨rfl, hFree, nofun⟩
    · rintro ⟨rfl, hFree, _⟩
      exact .free hFree
  | succ steps ih =>
    rw [ahead_succ]
    constructor
    · intro h
      cases h with
      | taken hTaken hSearch =>
        obtain ⟨hFound, hFree, hPassed⟩ := ih.1 hSearch
        refine ⟨hFound, hFree, fun m hm => ?_⟩
        cases m with
        | zero =>
          rw [ahead_zero]
          exact hTaken
        | succ m =>
          rw [ahead_succ]
          exact hPassed m (Nat.lt_of_succ_lt_succ hm)
    · rintro ⟨hFound, hFree, hPassed⟩
      have hTaken := hPassed 0 (Nat.succ_pos steps)
      rw [ahead_zero] at hTaken
      refine .taken hTaken (ih.2 ⟨hFound, hFree, fun m hm => ?_⟩)
      have hNext := hPassed (m + 1) (Nat.succ_lt_succ hm)
      rwa [ahead_succ] at hNext

/-- The number that a search finds is free. -/
theorem Search.get?_eq_none (h : Search invocations first steps found) :
    invocations.get? found = none :=
  (search_iff.1 h).2.1

/-- The bound on a search takes nothing from it, as long as it is large enough. -/
theorem freeId?_eq_some_iff {fuel : Nat} : freeId? invocations fuel first = some found ↔
    ∃ steps < fuel, Search invocations first steps found := by
  induction fuel generalizing first with
  | zero => simp [freeId?]
  | succ fuel ih =>
    rw [freeId?, Bindings.contains]
    cases hEntry : invocations.get? first with
    | none =>
      rw [Option.isSome_none, if_neg Bool.false_ne_true, Option.some.injEq]
      constructor
      · rintro rfl
        exact ⟨0, Nat.succ_pos fuel, .free hEntry⟩
      · rintro ⟨steps, _, hSearch⟩
        cases hSearch with
        | free => rfl
        | taken hTaken => exact absurd hEntry hTaken
    | some invocation =>
      have hTaken : invocations.get? first ≠ none := by
        rw [hEntry]
        exact Option.some_ne_none invocation
      rw [Option.isSome_some, if_pos rfl, ih]
      constructor
      · rintro ⟨steps, hSteps, hSearch⟩
        exact ⟨steps + 1, Nat.succ_lt_succ hSteps, .taken hTaken hSearch⟩
      · rintro ⟨steps, hSteps, hSearch⟩
        cases hSearch with
        | free hFree => exact absurd hFree hTaken
        | @taken _ _ steps _ hSearch => exact ⟨steps, Nat.lt_of_succ_lt_succ hSteps, hSearch⟩

/-- Among one number more than there are entries, one is free. -/
theorem exists_free_ahead (first : InvocationId) (h : invocations.size < UInt32.size) :
    ∃ steps ≤ invocations.size, invocations.get? (ahead first steps) = none := by
  by_contra hNone
  push Not at hNone
  -- otherwise the table would have more keys than entries
  let passed := (List.range (invocations.size + 1)).map (ahead first)
  have hNodup : passed.Nodup := by
    refine List.Nodup.map_on ?_ List.nodup_range
    intro m hm n hn hSame
    rw [List.mem_range] at hm hn
    exact ahead_injective (by omega) (by omega) hSame
  have hKeys : passed ⊆ invocations.keys := by
    intro id hId
    obtain ⟨m, hm, rfl⟩ := List.mem_map.1 hId
    rw [List.mem_range, Nat.lt_succ_iff] at hm
    have hEntry := hNone m hm
    rw [ne_eq, Bindings.get?, Bindings.lookup_eq_none_iff, not_not] at hEntry
    exact hEntry
  have hLength := (hNodup.subperm hKeys).length_le
  rw [List.length_map, List.length_range, Bindings.keys, List.length_map, ← Bindings.size]
    at hLength
  omega

/-- **A search ends**, after no more steps than there are waiting calls. -/
theorem exists_search (first : InvocationId) (h : invocations.size < UInt32.size) :
    ∃ steps ≤ invocations.size, ∃ found, Search invocations first steps found := by
  have hFree := exists_free_ahead first h
  -- the first of the numbers that are free
  refine ⟨Nat.find hFree, (Nat.find_spec hFree).1, ahead first (Nat.find hFree),
    search_iff.2 ⟨rfl, (Nat.find_spec hFree).2, fun m hm hEntry => ?_⟩⟩
  have hBound := (Nat.find_spec hFree).1
  exact Nat.find_min hFree hm ⟨by omega, hEntry⟩

/-! ## Registrations -/

/-- **A call that begins gets the first free number, and nothing else is changed.** If not all
numbers are taken, the search from the next number on ends, and finds a number that no waiting call
has. All numbers that it passes are taken. The table has this call under that number besides what it
had before, and the next search begins behind it. -/
theorem register_takes_first_free (pending : Pending) (invocation : Invocation)
    (h : pending.size < 2 ^ 32) :
    ∃ steps id after, Search pending.invocations pending.next steps id ∧
      pending.register invocation = some (id, after) ∧
      steps ≤ pending.size ∧ id = ahead pending.next steps ∧ pending.get? id = none ∧
      (∀ m < steps, pending.get? (ahead pending.next m) ≠ none) ∧
      after.next = id + 1 ∧
      (∀ other, after.get? other =
        if id = other then some invocation else pending.get? other) ∧
      after.size = pending.size + 1 := by
  obtain ⟨steps, hSteps, id, hSearch⟩ := exists_search pending.next h
  obtain ⟨hId, hFree, hPassed⟩ := search_iff.1 hSearch
  have hFound : freeId? pending.invocations (pending.invocations.size + 1) pending.next =
      some id := freeId?_eq_some_iff.2 ⟨steps, Nat.lt_succ_of_le hSteps, hSearch⟩
  refine ⟨steps, id, ⟨id + 1, pending.invocations.insert id invocation⟩, hSearch, ?_, hSteps, hId,
    hFree, hPassed, rfl, fun other => Bindings.get?_insert _ id other invocation,
    Bindings.size_insert hFree invocation⟩
  rw [register, hFound]
  rfl

/-- With the largest number and zero taken, a search that begins at the largest number goes on
behind the end of the numbers and finds one. -/
theorem register_behind_largest :
    let pending : Pending := ⟨4294967295,
      (Bindings.empty.insert 4294967295 ⟨0, "lamp", 0⟩).insert 0 ⟨1, "lamp", 0⟩⟩
    pending.size < 2 ^ 32 ∧ ∃ after, pending.register ⟨2, "lamp", 0⟩ = some (1, after) ∧
      after.next = 2 ∧ after.size = 3 ∧ after.get? 0 = some ⟨1, "lamp", 0⟩ := by
  intro pending
  have hSize : pending.size < 2 ^ 32 := by decide
  obtain ⟨steps, id, after, _, hRegister, _, _, _, _, hNext, hOthers, hAfter⟩ :=
    register_takes_first_free pending ⟨2, "lamp", 0⟩ hSize
  have hId : (pending.register ⟨2, "lamp", 0⟩).map Prod.fst = some 1 := by decide
  rw [hRegister, Option.map_some, Option.some.injEq] at hId
  subst hId
  exact ⟨hSize, after, hRegister, hNext, hAfter, hOthers 0⟩

end Pending

end RobotBus.Calls
