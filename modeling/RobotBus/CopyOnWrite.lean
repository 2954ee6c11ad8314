import RobotBus.Bindings

/-!
# Copy on write

A map whose snapshots cost nothing to take. Contents live in cells that count their owners, the map
itself and its snapshots. An update changes the current cell in place if the map is its only owner,
and otherwise makes a changed copy the current cell. `Plain` gives the same commands their meaning
without cells: there a snapshot is a copy of the contents.
-/

namespace RobotBus.CopyOnWrite

variable {κ α : Type} [DecidableEq κ]

inductive Command (κ α : Type)
  | insert (key : κ) (value : α)
  | remove (key : κ)
  | clear
  | get (key : κ)
  | load
  | snapshot (name : String)
  | read (name : String)
  | drop (name : String)

/-- What a command tells: the value that was or is bound, a number of entries, all entries, or
whether there was something to drop. -/
inductive Answer (κ α : Type)
  | value (found : Option α)
  | count (entries : Nat)
  | contents (entries : List (κ × α))
  | existed (flag : Bool)
  | none

/-! ## Contents -/

/-- What a command does to contents, and what it tells about them. Commands on snapshots leave the
contents alone. -/
def change : Command κ α → Bindings κ α → Bindings κ α
  | .insert key value, contents => contents.insert key value
  | .remove key, contents => contents.erase key
  | .clear, _ => .empty
  | _, contents => contents

def tell : Command κ α → Bindings κ α → Answer κ α
  | .insert key _, contents => .value (contents.get? key)
  | .remove key, contents => .value (contents.get? key)
  | .clear, contents => .count contents.size
  | .get key, contents => .value (contents.get? key)
  | .load, contents => .contents contents.entries
  | _, _ => .none

/-! ## Cells -/

structure Cell (κ α : Type) where
  contents : Bindings κ α
  owners : Nat

structure Shared (κ α : Type) where
  cells : Bindings Nat (Cell κ α)
  current : Nat
  fresh : Nat
  snapshots : Bindings String Nat

namespace Shared

def empty : Shared κ α where
  cells := Bindings.empty.insert 0 ⟨.empty, 1⟩
  current := 0
  fresh := 1
  snapshots := .empty

def contentsOf (map : Shared κ α) (cell : Nat) : Bindings κ α :=
  match map.cells.get? cell with
  | some found => found.contents
  | none => .empty

def contents (map : Shared κ α) : Bindings κ α :=
  map.contentsOf map.current

/-- One owner of a cell less. A cell without owners is gone. -/
def release (map : Shared κ α) (cell : Nat) : Shared κ α :=
  match map.cells.get? cell with
  | some ⟨contents, owners + 2⟩ =>
    { map with cells := map.cells.insert cell ⟨contents, owners + 1⟩ }
  | _ => { map with cells := map.cells.erase cell }

/-- One owner of the current cell more. -/
def acquire (map : Shared κ α) : Shared κ α :=
  { map with cells := map.cells.modify map.current fun c => { c with owners := c.owners + 1 } }

def update (map : Shared κ α) (f : Bindings κ α → Bindings κ α) : Shared κ α :=
  match map.cells.get? map.current with
  | some ⟨contents, 1⟩ => { map with cells := map.cells.insert map.current ⟨f contents, 1⟩ }
  | _ =>
    let copy : Cell κ α := ⟨f map.contents, 1⟩
    let map := map.release map.current
    { map with
      cells := map.cells.insert map.fresh copy
      current := map.fresh
      fresh := map.fresh + 1 }

def forget (map : Shared κ α) (name : String) : Shared κ α :=
  match map.snapshots.get? name with
  | none => map
  | some cell => { map.release cell with snapshots := map.snapshots.erase name }

def perform (map : Shared κ α) : Command κ α → Shared κ α × Answer κ α
  | .snapshot name =>
    let map := map.acquire
    let cell := map.current
    let map := map.forget name
    ({ map with snapshots := map.snapshots.insert name cell }, .none)
  | .read name =>
    (map, match map.snapshots.get? name with
      | some cell => .contents (map.contentsOf cell).entries
      | none => .none)
  | .drop name => (map.forget name, .existed (map.snapshots.contains name))
  | .get key => (map, tell (.get key) map.contents)
  | .load => (map, tell .load map.contents)
  | command => (map.update (change command), tell command map.contents)

end Shared

/-! ## Copies -/

/-- The same map with a copy of its contents for each snapshot. -/
structure Plain (κ α : Type) where
  contents : Bindings κ α
  snapshots : Bindings String (Bindings κ α)

namespace Plain

def empty : Plain κ α := ⟨.empty, .empty⟩

def perform (map : Plain κ α) : Command κ α → Plain κ α × Answer κ α
  | .snapshot name => ({ map with snapshots := map.snapshots.insert name map.contents }, .none)
  | .read name =>
    (map, match map.snapshots.get? name with
      | some contents => .contents contents.entries
      | none => .none)
  | .drop name =>
    ({ map with snapshots := map.snapshots.erase name }, .existed (map.snapshots.contains name))
  | command => ({ map with contents := change command map.contents }, tell command map.contents)

end Plain

/-- The answers to a sequence of commands. -/
def answers {map : Type} (perform : map → Command κ α → map × Answer κ α) :
    map → List (Command κ α) → List (Answer κ α)
  | _, [] => []
  | m, command :: commands =>
    let (m, answer) := perform m command
    answer :: answers perform m commands

end RobotBus.CopyOnWrite
