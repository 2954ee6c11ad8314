/-!
# First in, first out

Sequences that grow at one end and shrink at the other. `toList` shows what they hold, the oldest
first. Adding and taking one takes constant time on average, and so does asking for the size.
-/

namespace RobotBus

structure Fifo (α : Type) where
  front : List α := []
  /-- What was added last comes first. -/
  back : List α := []
  size : Nat := 0
  size_eq : size = front.length + back.length := by rfl
deriving DecidableEq, Repr

namespace Fifo

variable {α : Type}

def empty : Fifo α := {}

instance : Inhabited (Fifo α) := ⟨empty⟩

def toList (q : Fifo α) : List α :=
  q.front ++ q.back.reverse

def isEmpty (q : Fifo α) : Bool :=
  q.size == 0

def push (q : Fifo α) (a : α) : Fifo α where
  front := q.front
  back := a :: q.back
  size := q.size + 1
  size_eq := by simp [q.size_eq]; omega

/-- All elements of a list, the first one first. -/
def ofList (l : List α) : Fifo α where
  front := l
  size := l.length
  size_eq := by simp

/-- The oldest element, and what is left without it. -/
def pop? (q : Fifo α) : Option (α × Fifo α) :=
  match h : q.front with
  | a :: front =>
    some (a,
      { front
        back := q.back
        size := q.size - 1
        size_eq := by have := q.size_eq; simp [h] at this; omega })
  | [] =>
    match q.toList with
    | [] => none
    | a :: rest => some (a, ofList rest)

theorem length_toList (q : Fifo α) : q.toList.length = q.size := by
  simp [toList, q.size_eq]

@[simp] theorem toList_empty : (empty : Fifo α).toList = [] := rfl

@[simp] theorem toList_ofList (l : List α) : (ofList l).toList = l := by
  simp [ofList, toList]

@[simp] theorem toList_push (q : Fifo α) (a : α) : (q.push a).toList = q.toList ++ [a] := by
  simp [push, toList]

theorem toList_of_pop? {q rest : Fifo α} {a : α} (h : q.pop? = some (a, rest)) :
    q.toList = a :: rest.toList := by
  unfold pop? at h
  split at h
  · rename_i hFront
    cases h
    simp [toList, hFront]
  · split at h
    · cases h
    · rename_i hList
      cases h
      simp [hList]

theorem pop?_eq_none_iff {q : Fifo α} : q.pop? = none ↔ q.toList = [] := by
  unfold pop?
  split
  · rename_i hFront
    simp [toList, hFront]
  · split <;> simp_all

theorem eq_empty {q : Fifo α} (h : q.toList = []) : q = empty := by
  obtain ⟨front, back, size, hSize⟩ := q
  obtain ⟨rfl, hBack⟩ := List.append_eq_nil_iff.1 h
  obtain rfl := List.reverse_eq_nil_iff.1 hBack
  obtain rfl := hSize
  rfl

end Fifo

end RobotBus
