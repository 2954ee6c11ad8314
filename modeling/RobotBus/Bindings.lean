/-!
# Bindings

Finite maps with distinct keys, in the order in which the keys were first bound. Looking up after
`insert` or `erase` is described by `get?_insert` and `get?_erase`.
-/

namespace RobotBus

structure Bindings (κ : Type) (α : Type) where
  entries : List (κ × α)
  distinct : (entries.map Prod.fst).Nodup := by simp

namespace Bindings

variable {κ α : Type}

def empty : Bindings κ α where
  entries := []

instance : Inhabited (Bindings κ α) := ⟨empty⟩

def keys (b : Bindings κ α) : List κ :=
  b.entries.map Prod.fst

def size (b : Bindings κ α) : Nat :=
  b.entries.length

/-- The first value of the list that satisfies `p`, with its key. -/
def find? (b : Bindings κ α) (p : α → Bool) : Option (κ × α) :=
  b.entries.find? fun e => p e.2

/-- Changes every value and no key. -/
def map (b : Bindings κ α) (f : κ → α → α) : Bindings κ α where
  entries := b.entries.map fun e => (e.1, f e.1 e.2)
  distinct := by
    have h : (b.entries.map fun e => (e.1, f e.1 e.2)).map Prod.fst = b.entries.map Prod.fst := by
      simp [Function.comp_def]
    rw [h]
    exact b.distinct

/-- Keeps the entries that satisfy `p`. -/
def filter (b : Bindings κ α) (p : κ → α → Bool) : Bindings κ α where
  entries := b.entries.filter fun e => p e.1 e.2
  distinct := b.distinct.sublist (List.filter_sublist.map _)

variable [DecidableEq κ]

def lookup (k : κ) : List (κ × α) → Option α
  | [] => none
  | e :: rest => if e.1 = k then some e.2 else lookup k rest

def get? (b : Bindings κ α) (k : κ) : Option α :=
  lookup k b.entries

def contains (b : Bindings κ α) (k : κ) : Bool :=
  (b.get? k).isSome

theorem lookup_eq_none_iff {k : κ} {l : List (κ × α)} :
    lookup k l = none ↔ k ∉ l.map Prod.fst := by
  induction l with
  | nil => simp [lookup]
  | cons e rest ih =>
      by_cases h : e.1 = k
      · simp [lookup, h]
      · simp only [lookup, h, if_false, ih, List.map_cons, List.mem_cons]
        simp [Ne.symm h]

/-- An existing key keeps its place, a new one comes last. -/
def insert (b : Bindings κ α) (k : κ) (a : α) : Bindings κ α :=
  if h : b.get? k = none then
    { entries := b.entries ++ [(k, a)]
      distinct := by
        have hk := lookup_eq_none_iff.1 h
        rw [List.map_append, List.nodup_append]
        refine ⟨b.distinct, by simp, ?_⟩
        intro x hx y hy
        simp only [List.map_cons, List.map_nil, List.mem_singleton] at hy
        subst hy
        exact fun e => hk (e ▸ hx) }
  else
    b.map fun k' a' => if k' = k then a else a'

def erase (b : Bindings κ α) (k : κ) : Bindings κ α :=
  b.filter fun k' _ => k' ≠ k

/-- Changes the value of `k`, if it has one. -/
def modify (b : Bindings κ α) (k : κ) (f : α → α) : Bindings κ α :=
  b.map fun k' a => if k' = k then f a else a

theorem lookup_append (k : κ) (l r : List (κ × α)) :
    lookup k (l ++ r) = (lookup k l).or (lookup k r) := by
  induction l with
  | nil => simp [lookup]
  | cons e rest ih => by_cases h : e.1 = k <;> simp [lookup, h, ih]

theorem lookup_map (k : κ) (f : κ → α → α) (l : List (κ × α)) :
    lookup k (l.map fun e => (e.1, f e.1 e.2)) = (lookup k l).map (f k) := by
  induction l with
  | nil => rfl
  | cons e rest ih =>
      by_cases h : e.1 = k
      · simp [lookup, h]
      · simp [lookup, h, ih]

@[simp] theorem get?_map (b : Bindings κ α) (f : κ → α → α) (k : κ) :
    (b.map f).get? k = (b.get? k).map (f k) :=
  lookup_map k f b.entries

theorem get?_insert (b : Bindings κ α) (k k' : κ) (a : α) :
    (b.insert k a).get? k' = if k = k' then some a else b.get? k' := by
  unfold insert
  by_cases h : b.get? k = none
  · simp only [h, dite_true]
    change lookup k' (b.entries ++ [(k, a)]) = _
    rw [lookup_append]
    by_cases hk : k = k'
    · subst hk
      have : lookup k b.entries = none := h
      simp [this, lookup]
    · simp [lookup, hk, get?]
  · simp only [h, dite_false, get?_map]
    by_cases hk : k = k'
    · subst hk
      obtain ⟨v, hv⟩ := Option.ne_none_iff_exists'.1 h
      simp [hv]
    · have hk' : ¬ k' = k := fun e => hk e.symm
      simp [hk, hk']

theorem size_insert {b : Bindings κ α} {k : κ} (h : b.get? k = none) (a : α) :
    (b.insert k a).size = b.size + 1 := by
  simp only [insert, h, dite_true, size, List.length_append, List.length_singleton]

theorem get?_modify (b : Bindings κ α) (k k' : κ) (f : α → α) :
    (b.modify k f).get? k' = if k' = k then (b.get? k').map f else b.get? k' := by
  by_cases h : k' = k <;> simp [modify, h]

theorem lookup_filter_ne (k k' : κ) (l : List (κ × α)) :
    lookup k' (l.filter fun e => decide (e.1 ≠ k)) = if k = k' then none else lookup k' l := by
  induction l with
  | nil => simp [lookup]
  | cons e rest ih =>
      by_cases he : e.1 = k <;> by_cases hk : k = k'
      · simp_all
      · have : ¬ e.1 = k' := fun h => hk (he.symm.trans h)
        simp_all [lookup]
      · have : ¬ e.1 = k' := fun h => he (h.trans hk.symm)
        simp_all [lookup]
      · by_cases h' : e.1 = k' <;> simp_all [lookup]

theorem get?_erase (b : Bindings κ α) (k k' : κ) :
    (b.erase k).get? k' = if k = k' then none else b.get? k' :=
  lookup_filter_ne k k' b.entries

theorem mem_of_lookup {k : κ} {a : α} {l : List (κ × α)} (h : lookup k l = some a) : (k, a) ∈ l := by
  induction l with
  | nil => cases h
  | cons e rest ih =>
      rw [lookup] at h
      split at h
      · rename_i hKey
        obtain rfl := hKey
        obtain rfl := Option.some.inj h
        exact List.mem_cons_self
      · exact List.mem_cons_of_mem e (ih h)

theorem lookup_of_mem {k : κ} {a : α} {l : List (κ × α)} (hKeys : (l.map Prod.fst).Nodup)
    (h : (k, a) ∈ l) : lookup k l = some a := by
  induction l with
  | nil => cases h
  | cons e rest ih =>
      rw [List.map_cons, List.nodup_cons] at hKeys
      rcases List.mem_cons.1 h with rfl | hRest
      · rw [lookup, if_pos rfl]
      · have hKey : ¬e.1 = k := fun hSame => hKeys.1 (hSame ▸ List.mem_map_of_mem hRest)
        rw [lookup, if_neg hKey, ih hKeys.2 hRest]

theorem mem_entries_iff {b : Bindings κ α} {k : κ} {a : α} :
    (k, a) ∈ b.entries ↔ b.get? k = some a :=
  ⟨lookup_of_mem b.distinct, mem_of_lookup⟩

end Bindings

end RobotBus
