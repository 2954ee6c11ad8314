import RobotBus.Proofs.Routing.Bridged
import RobotBus.Simulation.Behaviour

/-!
# Bridges in a laboratory

The bridges that a laboratory puts up are bridges (`carries_bridge`), and the links there that
record messages or break down are passive. So a network of such links is bridged (`bridged_of_lab`).
`row` is one of them, with three nodes.
-/

namespace RobotBus.Simulation

/-- What the links of a laboratory do if they forget every message. -/
def forgetful (lab : Lab) : Behaviour Lab := fun world link message =>
  behave { world with links := lab } link message

/-- A link that sends nothing. -/
def Instance.isPassive : Instance → Bool
  | recorder .. | faulty .. => true
  | _ => false

variable {lab : Lab} {bridges : List Bridge}

theorem carries_bridge {bridge : Bridge} (h : lab.instances[bridge.near.link]? =
      some (.bridge bridge.far.node bridge.far.name bridge.far.link)) :
    bridge.Carries (forgetful lab) := by
  intro world message hFar
  have hReaction : forgetful lab world bridge.near.link message =
      { links := lab, operations := [bridge.crossing message (some bridge.far.link)] } := by
    rw [forgetful, behave]
    simp only [h, hFar, if_true, Bridge.crossing]
  rw [hReaction]
  exact ⟨rfl, rfl⟩

theorem operations_of_isPassive {link : LinkId}
    (h : ∀ found, lab.instances[link]? = some found → found.isPassive = true) (world : World)
    (message : Message) : (forgetful lab world link message).operations = [] := by
  rw [forgetful, behave]
  cases hFound : lab.instances[link]? with
  | none => rfl
  | some found =>
    have hPassive := h found hFound
    cases found with
    | recorder keep received => rfl
    | faulty fault => rfl
    | _ => cases hPassive

/-- What can be checked of a laboratory and of the names at its nodes makes it a bridged network. -/
theorem bridged_of_lab {world : World}
    (hEnds : ∀ bridge ∈ crossings bridges,
      Path.isLinkName bridge.near.name = true ∧ world.Binds bridge.near)
    (hOnly : ∀ found ∈ world.nodes.entries, ∀ entry ∈ found.2.links.entries,
      ∀ bridge ∈ crossings bridges, entry.2 = bridge.near.link →
        found.1 = bridge.near.node ∧ entry.1 = bridge.near.name)
    (hBridges : ∀ bridge ∈ crossings bridges, lab.instances[bridge.near.link]? =
      some (.bridge bridge.far.node bridge.far.name bridge.far.link))
    (hOthers : ∀ entry ∈ lab.instances.toList, entry.2.isPassive = true ∨
      ∃ bridge ∈ crossings bridges, bridge.near.link = entry.1) :
    world.Bridged (forgetful lab) bridges where
  named bridge hBridge := (hEnds bridge (mem_crossings.2 hBridge)).1
  bound bridge hBridge := (hEnds bridge (mem_crossings.2 hBridge)).2
  only := by
    intro bridge hBridge id name hAt
    obtain ⟨node, hNode, hLink⟩ := Option.bind_eq_some_iff.1 hAt
    exact hOnly (id, node) (Bindings.mem_entries_iff.2 hNode) (name, bridge.near.link)
      (Bindings.mem_entries_iff.2 hLink) bridge (mem_crossings.2 hBridge) rfl
  carries bridge hBridge := carries_bridge (hBridges bridge (mem_crossings.2 hBridge))
  passive := by
    intro link hLink now message
    refine operations_of_isPassive ?_ now message
    intro found hFound
    rcases hOthers (link, found) (Std.TreeMap.mem_toList_iff_getElem?_eq_some.2 hFound) with
      hPassive | ⟨bridge, hBridge, hEnd⟩
    · exact hPassive
    · exact absurd ⟨bridge, mem_crossings.1 hBridge, hEnd⟩ hLink

/-! ## A row of three nodes -/

/-- The bridges of a row: from `a` at the first node to `b` at the second one, and from `c` there to
`d` at the third one. -/
def rowBridges : List Bridge :=
  [⟨⟨0, "a", 1⟩, ⟨1, "b", 2⟩⟩, ⟨⟨1, "c", 3⟩, ⟨2, "d", 4⟩⟩]

/-- Besides, there is a link that asks to be removed, and one that breaks down. -/
def rowLab : Lab where
  reachable := true
  pace := 0
  instances := Std.TreeMap.ofList
    [(1, Instance.bridge 1 "b" 2), (2, .bridge 0 "a" 1), (3, .bridge 2 "d" 4),
      (4, .bridge 1 "c" 3), (5, .recorder false .empty), (6, .faulty fun _ => none)] compare

def row : World where
  nodes := {
    entries :=
      [(0, { links := { entries := [("a", 1)] } }),
        (1, { links := { entries := [("e", 5), ("b", 2), ("c", 3)], distinct := by decide } }),
        (2, { links := { entries := [("d", 4), ("f", 6)], distinct := by decide } })]
    distinct := by decide }
  now := 0
  log := []
  links := rowLab

theorem bridged_row : row.Bridged (forgetful rowLab) rowBridges := by
  refine bridged_of_lab (by decide) (by decide) ?_ (by decide)
  simp only [crossings, rowBridges, List.map_cons, List.map_nil, List.cons_append, List.nil_append,
    List.forall_mem_cons]
  exact ⟨rfl, rfl, rfl, rfl, List.forall_mem_nil _⟩

theorem route_row : Route rowBridges 0 rowBridges 2 where
  isWalk := .cons ⟨⟨0, "a", 1⟩, ⟨1, "b", 2⟩⟩ (.cons ⟨⟨1, "c", 3⟩, ⟨2, "d", 4⟩⟩ (.nil 2))
  crosses _ h := .inl h

end RobotBus.Simulation
