import Mathlib.Data.List.Perm.Basic
import RobotBus.CopyOnWrite

/-!
# Shared contents

`Shared` answers every command as `Plain` does, although its snapshots are references
(`answers_shared`). The owners of a cell are counted: they are the references that the map itself
and its snapshots hold (`Shared.Counted`). So no snapshot sees the current cell while the map is its
only owner, and no update touches contents that a snapshot sees
(`Shared.Counted.contentsOf_update`).
-/

namespace RobotBus

namespace Bindings

variable {κ α : Type} [DecidableEq κ] {b : Bindings κ α} {k : κ} {a : α}

def values (b : Bindings κ α) : List α :=
  b.entries.map Prod.snd

theorem mem_values_of_get? (h : b.get? k = some a) : a ∈ b.values :=
  List.mem_map_of_mem (mem_entries_iff.2 h)

theorem values_insert (h : b.get? k = none) (a : α) : (b.insert k a).values = b.values ++ [a] := by
  simp only [insert, h, dite_true, values, List.map_append, List.map_cons, List.map_nil]

theorem perm_of_lookup {l : List (κ × α)} (hKeys : (l.map Prod.fst).Nodup)
    (h : lookup k l = some a) :
    (l.map Prod.snd).Perm (a :: (l.filter fun e => decide (e.1 ≠ k)).map Prod.snd) := by
  induction l with
  | nil => cases h
  | cons e rest ih =>
    rw [List.map_cons, List.nodup_cons] at hKeys
    by_cases hSame : e.1 = k
    · have hOthers : ∀ e' ∈ rest, decide (e'.1 ≠ k) = true := by
        intro e' hRest
        refine decide_eq_true fun hTwice => hKeys.1 ?_
        rw [hSame, ← hTwice]
        exact List.mem_map_of_mem hRest
      rw [lookup, if_pos hSame] at h
      rw [List.filter_cons_of_neg (by simpa using hSame), List.filter_eq_self.2 hOthers,
        ← Option.some.inj h, List.map_cons]
    · rw [lookup, if_neg hSame] at h
      rw [List.filter_cons_of_pos (by simpa using hSame), List.map_cons, List.map_cons]
      exact ((ih hKeys.2 h).cons e.2).trans (.swap ..)

/-- An erased key takes its value with it and no other one. -/
theorem values_perm_erase (h : b.get? k = some a) : b.values.Perm (a :: (b.erase k).values) :=
  perm_of_lookup b.distinct h

end Bindings

namespace CopyOnWrite

variable {κ α : Type}

namespace Shared

variable {map : Shared κ α} {held : List Nat} {cell other : Nat}

/-! ## Owners -/

/-- The number of references to a cell, if there are any. -/
def references (held : List Nat) (cell : Nat) : Option Nat :=
  if cell ∈ held then some (held.count cell) else none

theorem references_of_mem (h : cell ∈ held) : references held cell = some (held.count cell) :=
  if_pos h

theorem references_cons_of_ne (h : other ≠ cell) :
    references (cell :: held) other = references held other := by
  simp only [references, List.count_cons_of_ne (Ne.symm h), List.mem_cons, h, false_or]

theorem references_of_perm {held' : List Nat} (h : held.Perm held') (cell : Nat) :
    references held cell = references held' cell := by
  simp only [references, h.count_eq, h.mem_iff]

/-- The cells are those that are held, and the owners of each are counted. -/
structure Counted (map : Shared κ α) (held : List Nat) : Prop where
  owners : ∀ cell, (map.cells.get? cell).map Cell.owners = references held cell
  below : ∀ cell ∈ held, cell < map.fresh

theorem Counted.perm {held' : List Nat} (h : map.Counted held) (hPerm : held.Perm held') :
    map.Counted held' where
  owners cell := (h.owners cell).trans (references_of_perm hPerm cell)
  below cell hCell := h.below cell (hPerm.mem_iff.2 hCell)

theorem contentsOf_of_get? {found : Cell κ α} (h : map.cells.get? cell = some found) :
    map.contentsOf cell = found.contents := by
  rw [contentsOf, h]

theorem Counted.get?_of_mem (h : map.Counted held) (hCell : cell ∈ held) :
    map.cells.get? cell = some ⟨map.contentsOf cell, held.count cell⟩ := by
  have hOwners := (h.owners cell).trans (references_of_mem hCell)
  obtain ⟨⟨contents, owners⟩, hFound, hCount⟩ := Option.map_eq_some_iff.1 hOwners
  rw [contentsOf_of_get? hFound, ← hCount]
  exact hFound

theorem Counted.get?_cons (h : map.Counted (cell :: held)) :
    map.cells.get? cell = some ⟨map.contentsOf cell, held.count cell + 1⟩ := by
  rw [h.get?_of_mem List.mem_cons_self, List.count_cons_self]

theorem exists_count_eq_succ (h : cell ∈ held) : ∃ owners, held.count cell = owners + 1 :=
  Nat.exists_eq_succ_of_ne_zero (Nat.ne_of_gt (List.count_pos_iff.2 h))

/-- What a cell holds depends on the cells only. -/
theorem contentsOf_congr {map' : Shared κ α} (h : map'.cells.get? cell = map.cells.get? cell) :
    map'.contentsOf cell = map.contentsOf cell := by
  rw [contentsOf, contentsOf, h]

theorem Counted.acquire (h : map.Counted held) (hCurrent : map.current ∈ held) :
    map.acquire.Counted (map.current :: held) where
  owners cell := by
    show ((map.cells.modify map.current _).get? cell).map Cell.owners = _
    rw [Bindings.get?_modify]
    by_cases hSame : cell = map.current
    · rw [if_pos hSame, hSame, h.get?_of_mem hCurrent, references_of_mem List.mem_cons_self,
        List.count_cons_self]
      rfl
    · rw [if_neg hSame, h.owners, references_cons_of_ne hSame]
  below cell hCell := by
    rcases List.mem_cons.1 hCell with rfl | hHeld
    · exact h.below map.current hCurrent
    · exact h.below cell hHeld

theorem contentsOf_acquire (map : Shared κ α) (cell : Nat) :
    map.acquire.contentsOf cell = map.contentsOf cell := by
  rw [contentsOf, contentsOf, acquire, Bindings.get?_modify]
  by_cases hSame : cell = map.current
  · rw [if_pos hSame]
    cases map.cells.get? cell with
    | none => rfl
    | some found => rfl
  · rw [if_neg hSame]

/-- What is left of a cell that loses an owner. -/
theorem Counted.get?_release (h : map.Counted (cell :: held)) :
    (map.release cell).cells.get? other =
      if other = cell then
        if cell ∈ held then some ⟨map.contentsOf cell, held.count cell⟩ else none
      else map.cells.get? other := by
  have hFound := h.get?_cons
  by_cases hHeld : cell ∈ held
  · obtain ⟨owners, hOwners⟩ := exists_count_eq_succ hHeld
    rw [hOwners] at hFound
    simp only [release, hFound, Bindings.get?_insert, if_pos hHeld, hOwners, @eq_comm _ cell]
  · rw [List.count_eq_zero.2 hHeld] at hFound
    simp only [release, hFound, Bindings.get?_erase, if_neg hHeld, @eq_comm _ cell]

theorem fresh_release (map : Shared κ α) (cell : Nat) : (map.release cell).fresh = map.fresh := by
  rw [release]
  split <;> rfl

theorem Counted.release (h : map.Counted (cell :: held)) : (map.release cell).Counted held where
  owners other := by
    rw [h.get?_release]
    by_cases hSame : other = cell
    · rw [if_pos hSame, hSame, references]
      split <;> rfl
    · rw [if_neg hSame, h.owners, references_cons_of_ne hSame]
  below other hOther := by
    rw [fresh_release]
    exact h.below other (List.mem_cons_of_mem cell hOther)

/-- Whoever still holds a cell sees the same contents. -/
theorem Counted.contentsOf_release (h : map.Counted (cell :: held)) (hOther : other ∈ held) :
    (map.release cell).contentsOf other = map.contentsOf other := by
  by_cases hSame : other = cell
  · subst hSame
    have hLeft : (map.release other).cells.get? other = _ := h.get?_release
    rw [if_pos rfl, if_pos hOther] at hLeft
    exact contentsOf_of_get? hLeft
  · refine contentsOf_congr (h.get?_release.trans ?_)
    rw [if_neg hSame]

theorem current_release (map : Shared κ α) (cell : Nat) :
    (map.release cell).current = map.current := by
  rw [release]
  split <;> rfl

theorem snapshots_release (map : Shared κ α) (cell : Nat) :
    (map.release cell).snapshots = map.snapshots := by
  rw [release]
  split <;> rfl

/-! ## Updates -/

/-- An update gives up the current cell and writes to one that nobody holds: the same cell if no
snapshot held it, and a new one otherwise. -/
theorem Counted.update (h : map.Counted (map.current :: held))
    (f : Bindings κ α → Bindings κ α) :
    (map.update f).current ∉ held ∧ (map.update f).current < (map.update f).fresh ∧
      map.fresh ≤ (map.update f).fresh ∧
      ∀ cell, (map.update f).cells.get? cell =
        if cell = (map.update f).current then some ⟨f map.contents, 1⟩
        else (map.release map.current).cells.get? cell := by
  have hFound := h.get?_cons
  have hBelow : map.current < map.fresh := h.below map.current List.mem_cons_self
  by_cases hShared : map.current ∈ held
  · obtain ⟨owners, hOwners⟩ := exists_count_eq_succ hShared
    rw [hOwners] at hFound
    have hUpdate : map.update f =
        { map.release map.current with
          cells := (map.release map.current).cells.insert map.fresh ⟨f map.contents, 1⟩
          current := map.fresh
          fresh := map.fresh + 1 } := by
      simp only [Shared.update, hFound, fresh_release]
    rw [hUpdate]
    refine ⟨fun hHeld => ?_, Nat.lt_succ_self _, Nat.le_succ _, fun cell => ?_⟩
    · exact Nat.lt_irrefl _ (h.below map.fresh (List.mem_cons_of_mem _ hHeld))
    · rw [Bindings.get?_insert]
      simp only [@eq_comm _ cell]
  · rw [List.count_eq_zero.2 hShared] at hFound
    have hUpdate : map.update f =
        { map with cells := map.cells.insert map.current ⟨f map.contents, 1⟩ } := by
      simp only [Shared.update, hFound]
      rfl
    rw [hUpdate]
    refine ⟨hShared, hBelow, Nat.le_refl _, fun cell => ?_⟩
    rw [Bindings.get?_insert, h.get?_release]
    by_cases hSame : cell = map.current
    · rw [if_pos hSame, if_pos hSame.symm]
    · rw [if_neg hSame, if_neg (Ne.symm hSame), if_neg hSame]

theorem Counted.counted_update (h : map.Counted (map.current :: held))
    (f : Bindings κ α → Bindings κ α) :
    (map.update f).Counted ((map.update f).current :: held) := by
  obtain ⟨hNew, hBelow, hFresh, hCells⟩ := h.update f
  refine ⟨fun cell => ?_, fun cell hCell => ?_⟩
  · rw [hCells]
    by_cases hSame : cell = (map.update f).current
    · rw [if_pos hSame, hSame, references_of_mem List.mem_cons_self, List.count_cons_self,
        List.count_eq_zero.2 hNew]
      rfl
    · rw [if_neg hSame, h.release.owners, references_cons_of_ne hSame]
  · rcases List.mem_cons.1 hCell with rfl | hHeld
    · exact hBelow
    · exact Nat.lt_of_lt_of_le (h.below cell (List.mem_cons_of_mem _ hHeld)) hFresh

theorem Counted.contents_update (h : map.Counted (map.current :: held))
    (f : Bindings κ α → Bindings κ α) : (map.update f).contents = f map.contents := by
  obtain ⟨_, _, _, hCells⟩ := h.update f
  have hCurrent := hCells (map.update f).current
  rw [if_pos rfl] at hCurrent
  exact contentsOf_of_get? hCurrent

/-- **No update touches the contents that a snapshot sees.** -/
theorem Counted.contentsOf_update (h : map.Counted (map.current :: held))
    (f : Bindings κ α → Bindings κ α) (hOther : other ∈ held) :
    (map.update f).contentsOf other = map.contentsOf other := by
  obtain ⟨hNew, _, _, hCells⟩ := h.update f
  have hNe : other ≠ (map.update f).current := fun hSame => hNew (hSame ▸ hOther)
  rw [← h.contentsOf_release hOther]
  refine contentsOf_congr ((hCells other).trans ?_)
  rw [if_neg hNe]

theorem snapshots_update (map : Shared κ α) (f : Bindings κ α → Bindings κ α) :
    (map.update f).snapshots = map.snapshots := by
  rw [Shared.update]
  split
  · rfl
  · exact snapshots_release ..

/-! ## Snapshots -/

theorem get?_snapshots_forget (map : Shared κ α) (name name' : String) :
    (map.forget name).snapshots.get? name' =
      if name = name' then none else map.snapshots.get? name' := by
  rw [forget]
  cases hFound : map.snapshots.get? name with
  | none =>
    by_cases hSame : name = name'
    · rw [if_pos hSame, ← hSame, hFound]
    · rw [if_neg hSame]
  | some cell => exact Bindings.get?_erase ..

theorem current_forget (map : Shared κ α) (name : String) :
    (map.forget name).current = map.current := by
  rw [forget]
  split
  · rfl
  · exact current_release ..

/-- A forgotten snapshot holds its cell no more. -/
theorem Counted.forget (held : List Nat) (h : map.Counted (held ++ map.snapshots.values))
    (name : String) :
    (map.forget name).Counted (held ++ (map.forget name).snapshots.values) ∧
      ∀ other ∈ held ++ (map.forget name).snapshots.values,
        (map.forget name).contentsOf other = map.contentsOf other := by
  rw [Shared.forget]
  cases hFound : map.snapshots.get? name with
  | none => exact ⟨h, fun other hOther => rfl⟩
  | some cell =>
    have hPerm : (held ++ map.snapshots.values).Perm
        (cell :: (held ++ (map.snapshots.erase name).values)) :=
      ((Bindings.values_perm_erase hFound).append_left held).trans List.perm_middle
    have hCounted := h.perm hPerm
    exact ⟨⟨hCounted.release.owners, hCounted.release.below⟩,
      fun other => hCounted.contentsOf_release⟩

end Shared

/-! ## Refinement -/

/-- A map with references stands for one with copies. -/
structure Mirrors (map : Shared κ α) (plain : Plain κ α) : Prop where
  counted : map.Counted (map.current :: map.snapshots.values)
  contents : map.contents = plain.contents
  snapshots : ∀ name, (map.snapshots.get? name).map map.contentsOf = plain.snapshots.get? name

namespace Mirrors

variable {map : Shared κ α} {plain : Plain κ α}

theorem empty : Mirrors (.empty : Shared κ α) .empty where
  counted := by
    refine ⟨fun cell => ?_, fun cell hCell => ?_⟩
    · show ((Bindings.empty.insert 0 _).get? cell).map Cell.owners = Shared.references [0] cell
      rw [Bindings.get?_insert]
      by_cases hSame : 0 = cell
      · subst hSame
        rfl
      · rw [if_neg hSame, Shared.references_cons_of_ne (Ne.symm hSame)]
        rfl
    · rw [List.mem_singleton.1 hCell]
      exact Nat.zero_lt_one
  contents := rfl
  snapshots _ := rfl

theorem update (h : Mirrors map plain) (f : Bindings κ α → Bindings κ α) :
    Mirrors (map.update f) { plain with contents := f plain.contents } where
  counted := by
    rw [Shared.snapshots_update]
    exact h.counted.counted_update f
  contents := by
    rw [h.counted.contents_update f, h.contents]
  snapshots name := by
    rw [Shared.snapshots_update, ← h.snapshots name]
    refine Option.map_congr fun cell hFound => ?_
    exact h.counted.contentsOf_update f (Bindings.mem_values_of_get? hFound)

theorem forget (h : Mirrors map plain) (name : String) :
    Mirrors (map.forget name) { plain with snapshots := plain.snapshots.erase name } := by
  obtain ⟨hCounted, hContents⟩ := Shared.Counted.forget [map.current] h.counted name
  refine ⟨?_, ?_, fun name' => ?_⟩
  · rw [Shared.current_forget]
    exact hCounted
  · rw [Shared.contents, Shared.current_forget, hContents _ List.mem_cons_self]
    exact h.contents
  · rw [Bindings.get?_erase, ← h.snapshots name']
    have hNames := Shared.get?_snapshots_forget map name name'
    by_cases hSame : name = name'
    · rw [hNames, if_pos hSame, if_pos hSame]
      rfl
    · rw [if_neg hSame] at hNames
      rw [if_neg hSame, hNames]
      refine Option.map_congr fun cell hFound => hContents cell (List.mem_cons_of_mem _ ?_)
      exact Bindings.mem_values_of_get? (hNames.trans hFound)

section

variable [DecidableEq κ]

/-- A snapshot that is taken anew lets go of its former cell. -/
theorem snapshot (h : Mirrors map plain) (name : String) :
    Mirrors (map.perform (.snapshot name)).1
      { plain with snapshots := plain.snapshots.insert name plain.contents } := by
  have hAcquired := h.counted.acquire List.mem_cons_self
  obtain ⟨hCounted, hForgot⟩ :=
    Shared.Counted.forget [map.current, map.current] hAcquired name
  have hCurrent : (map.acquire.forget name).current = map.current :=
    Shared.current_forget ..
  have hNames (name' : String) : (map.acquire.forget name).snapshots.get? name' =
      if name = name' then none else map.snapshots.get? name' :=
    Shared.get?_snapshots_forget ..
  have hNew : (map.acquire.forget name).snapshots.get? name = none := by
    rw [hNames, if_pos rfl]
  have hKept (cell : Nat)
      (hCell : cell ∈ [map.current, map.current] ++ (map.acquire.forget name).snapshots.values) :
      (map.acquire.forget name).contentsOf cell = map.contentsOf cell :=
    (hForgot cell hCell).trans (Shared.contentsOf_acquire map cell)
  have hContents : (map.acquire.forget name).contentsOf map.current = plain.contents :=
    (hKept map.current List.mem_cons_self).trans h.contents
  refine ⟨?_, ?_, fun name' => ?_⟩
  · show Shared.Counted _ ((map.acquire.forget name).current ::
      ((map.acquire.forget name).snapshots.insert name map.current).values)
    rw [hCurrent, Bindings.values_insert hNew]
    have hCounted' := hCounted.perm (List.perm_append_comm.cons map.current)
    exact ⟨hCounted'.owners, hCounted'.below⟩
  · show (map.acquire.forget name).contentsOf (map.acquire.forget name).current = plain.contents
    rw [hCurrent, hContents]
  · show (((map.acquire.forget name).snapshots.insert name map.current).get? name').map
      (map.acquire.forget name).contentsOf = (plain.snapshots.insert name plain.contents).get? name'
    rw [Bindings.get?_insert, Bindings.get?_insert]
    by_cases hSame : name = name'
    · rw [if_pos hSame, if_pos hSame, Option.map_some, hContents]
    · rw [if_neg hSame, if_neg hSame, hNames, if_neg hSame, ← h.snapshots name']
      refine Option.map_congr fun cell hFound => hKept cell ?_
      have hStill := (hNames name').trans ((if_neg hSame).trans hFound)
      exact List.mem_append_right _ (Bindings.mem_values_of_get? hStill)

/-- One command keeps the maps alike, and both tell the same. -/
theorem perform (h : Mirrors map plain) (command : Command κ α) :
    Mirrors (map.perform command).1 (plain.perform command).1 ∧
      (map.perform command).2 = (plain.perform command).2 := by
  have hTell : tell command map.contents = tell command plain.contents :=
    congrArg (tell command) h.contents
  cases command with
  | insert key value | remove key | clear => exact ⟨h.update _, hTell⟩
  | get key | load => exact ⟨h, hTell⟩
  | snapshot name => exact ⟨h.snapshot name, rfl⟩
  | read name =>
    refine ⟨h, ?_⟩
    simp only [Shared.perform, Plain.perform, ← h.snapshots name]
    cases map.snapshots.get? name with
    | none => rfl
    | some cell => rfl
  | drop name =>
    refine ⟨h.forget name, ?_⟩
    simp only [Shared.perform, Plain.perform, Bindings.contains, ← h.snapshots name,
      Option.isSome_map]

end

end Mirrors

/-! ## Sequences of commands -/

variable [DecidableEq κ]

/-- A map after a sequence of commands. -/
def run {map : Type} (perform : map → Command κ α → map × Answer κ α) (start : map)
    (commands : List (Command κ α)) : map :=
  commands.foldl (fun map command => (perform map command).1) start

/-- What all changes of a sequence make of the contents. -/
def changes (contents : Bindings κ α) (commands : List (Command κ α)) : Bindings κ α :=
  commands.foldl (fun contents command => change command contents) contents

/-- Whether a command takes a snapshot anew or drops it. -/
def Command.rebinds (name : String) : Command κ α → Bool
  | .snapshot name' | .drop name' => name' = name
  | _ => false

theorem Mirrors.run {map : Shared κ α} {plain : Plain κ α} (h : Mirrors map plain)
    (commands : List (Command κ α)) :
    Mirrors (run Shared.perform map commands) (run Plain.perform plain commands) ∧
      answers Shared.perform map commands = answers Plain.perform plain commands := by
  induction commands generalizing map plain with
  | nil => exact ⟨h, rfl⟩
  | cons command commands ih =>
    obtain ⟨hStep, hAnswer⟩ := h.perform command
    obtain ⟨hRun, hAnswers⟩ := ih hStep
    exact ⟨hRun, congrArg₂ List.cons hAnswer hAnswers⟩

namespace Plain

variable (plain : Plain κ α)

theorem contents_perform (command : Command κ α) :
    (plain.perform command).1.contents = change command plain.contents := by
  cases command with
  | insert key value | remove key | clear | get key | load => rfl
  | snapshot name | read name | drop name => rfl

theorem contents_run (commands : List (Command κ α)) :
    (run perform plain commands).contents = changes plain.contents commands := by
  induction commands generalizing plain with
  | nil => rfl
  | cons command commands ih =>
    refine (ih _).trans ?_
    rw [contents_perform]
    rfl

theorem get?_snapshots_perform {command : Command κ α} {name : String}
    (h : command.rebinds name = false) :
    (plain.perform command).1.snapshots.get? name = plain.snapshots.get? name := by
  cases command with
  | insert key value | remove key | clear | get key | load | read name => rfl
  | snapshot name' =>
    exact (Bindings.get?_insert ..).trans (if_neg (of_decide_eq_false h))
  | drop name' =>
    exact (Bindings.get?_erase ..).trans (if_neg (of_decide_eq_false h))

theorem get?_snapshots_run {commands : List (Command κ α)} {name : String}
    (h : ∀ command ∈ commands, command.rebinds name = false) :
    (run perform plain commands).snapshots.get? name = plain.snapshots.get? name := by
  induction commands generalizing plain with
  | nil => rfl
  | cons command commands ih =>
    rw [List.forall_mem_cons] at h
    exact (ih _ h.2).trans (plain.get?_snapshots_perform h.1)

/-- A snapshot reads as the contents were when it was taken last. -/
theorem read_run (front : List (Command κ α)) {back : List (Command κ α)} {name : String}
    (hBack : ∀ command ∈ back, command.rebinds name = false) :
    ((run perform plain (front ++ .snapshot name :: back)).perform (.read name)).2 =
      .contents (changes plain.contents front).entries := by
  let middle := run perform plain front
  have hRun : run perform plain (front ++ .snapshot name :: back) =
      run perform (middle.perform (.snapshot name)).1 back :=
    List.foldl_append
  have hFound : (run perform plain (front ++ .snapshot name :: back)).snapshots.get? name =
      some (changes plain.contents front) := by
    rw [hRun, get?_snapshots_run _ hBack, ← plain.contents_run front]
    exact (Bindings.get?_insert ..).trans (if_pos rfl)
  rw [perform, hFound]

end Plain

/-- **References answer every command as copies do.** The cells in memory are those that the map and
its snapshots hold, with their owners counted. A snapshot reads as the contents were when it was
taken, and no update is lost. -/
theorem answers_shared (commands : List (Command κ α)) :
    let map := run Shared.perform .empty commands
    answers Shared.perform .empty commands = answers Plain.perform .empty commands ∧
      map.Counted (map.current :: map.snapshots.values) ∧
      map.contents = changes .empty commands ∧
      ∀ front name back, commands = front ++ .snapshot name :: back →
        (∀ command ∈ back, command.rebinds name = false) →
        (map.perform (.read name)).2 = .contents (changes .empty front).entries := by
  intro map
  have hEmpty : Mirrors (.empty : Shared κ α) .empty := .empty
  obtain ⟨hMirrors, hAnswers⟩ := hEmpty.run commands
  refine ⟨hAnswers, hMirrors.counted, hMirrors.contents.trans (Plain.contents_run ..), ?_⟩
  rintro front name back rfl hBack
  refine (hMirrors.perform (.read name)).2.trans ?_
  exact Plain.read_run .empty front hBack

end CopyOnWrite

end RobotBus
