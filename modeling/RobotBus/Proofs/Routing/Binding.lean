import RobotBus.Proofs.Routing.Bridged

/-!
# Bindings of a network

What is bound after each operation, in terms of what was bound before: `linkAt_add`,
`linkAt_replace`, `linkAt_remove`, `linkAt_removeIf` and `linkAt_transmit`. So a network binds a
link to a name only when it is asked to, by an operation that adds the link or replaces another one
by it (`linkAt_of_step`), and an operation concerns the name that it is about and no other
(`linkAt_perform_of_ne`). Nodes do not come or go by what nodes and links do (`contains_step`).
-/

namespace RobotBus

/-- The link that a task may bind anew. -/
def Task.bound? : Task → Option LinkId
  | .perform (.add _ _ link) | .perform (.replace _ _ link) => some link
  | _ => none

namespace Operation

/-- The node and the name that an operation on the links of a node is about. -/
def edits? : Operation → Option (NodeId × String)
  | .add node name _ | .replace node name _ | .remove node name | .removeIf node name _ =>
    some (node, name)
  | .transmit .. | .broadcast .. => none

/-- The binding that an operation asks for. -/
def binding? : Operation → Option Landing
  | .add node name link | .replace node name link => some ⟨node, name, link⟩
  | _ => none

end Operation

/-- The node and the name that a task is about. -/
def Task.edits? : Task → Option (NodeId × String)
  | perform operation => operation.edits?
  | settle node name _ _ _ _ => some (node, name)
  | send .. => none

namespace Node

/-- What is bound after an attempt to add a link. -/
theorem get?_add (node : Node) (name : String) (link : LinkId) (name' : String) :
    ((node.add name link).toOption.getD node).links.get? name' =
      if name = name' ∧ Path.isLinkName name = true ∧ node.links.get? name = none then some link
      else node.links.get? name' := by
  rw [add]
  by_cases hName : Path.isLinkName name = true
  · rw [if_pos hName]
    cases hBound : node.links.get? name with
    | none =>
      simp only [hName, and_true]
      exact Bindings.get?_insert ..
    | some bound =>
      rw [if_neg fun hFree => Option.some_ne_none bound hFree.2.2]
      by_cases hSame : bound = link
      · simp only [hSame, if_true]
        rfl
      · simp only [hSame, if_false]
        rfl
  · rw [if_neg hName, if_neg fun hFree => hName hFree.2.1]
    rfl

/-- What is bound after an attempt to replace a link. -/
theorem get?_replace (node : Node) (name : String) (link : LinkId) (name' : String) :
    ((node.replace name link).toOption.getD node).links.get? name' =
      if name = name' ∧ Path.isLinkName name = true then some link
      else node.links.get? name' := by
  rw [replace]
  by_cases hName : Path.isLinkName name = true
  · simp only [hName, if_true, and_true]
    exact Bindings.get?_insert ..
  · rw [if_neg hName, if_neg fun hValid => hName hValid.2]
    rfl

end Node

namespace Network

variable {σ : Type} {net : Network σ} {id id' : NodeId} {name name' : String} {link link' : LinkId}

theorem linkAt_setNode (net : Network σ) (id : NodeId) (node : Node) (id' : NodeId)
    (name : String) :
    (net.setNode id node).linkAt id' name =
      if id = id' then node.links.get? name else net.linkAt id' name := by
  rw [linkAt, setNode, Bindings.get?_insert]
  split
  · rfl
  · rfl

theorem linkAt_updateNode (net : Network σ) (id : NodeId) (f : Node → Node) (id' : NodeId)
    (name : String) :
    (net.updateNode id f).linkAt id' name =
      if id = id' then (net.nodes.get? id).bind fun node => (f node).links.get? name
      else net.linkAt id' name := by
  rw [linkAt, updateNode, Bindings.get?_modify]
  by_cases hId : id = id'
  · rw [if_pos hId.symm, if_pos hId, hId]
    cases net.nodes.get? id' with
    | none => rfl
    | some node => rfl
  · rw [if_neg (Ne.symm hId), if_neg hId, linkAt]

theorem linkAt_missing {node : Node} (hNode : net.nodes.get? id = some node)
    (target head : String) (message : Message) (id' : NodeId) (name' : String) :
    (net.missing id node target head message).1.linkAt id' name' = net.linkAt id' name' := by
  have hReporter : ∀ reporter : MissingLinkReporter,
      (net.setNode id { node with reporter }).linkAt id' name' = net.linkAt id' name' := by
    intro reporter
    rw [linkAt_setNode]
    split
    · rename_i hSame
      rw [← hSame, linkAt_of_get? hNode]
    · rfl
  simp only [missing]
  split
  · exact hReporter _
  · exact hReporter _

/-- To route a message leaves all bindings as they are. -/
theorem linkAt_transmit (net : Network σ) (id : NodeId) (message : Message)
    (deny : Option LinkId) (id' : NodeId) (name' : String) :
    (net.perform (.transmit id message deny)).1.linkAt id' name' = net.linkAt id' name' := by
  simp only [perform]
  cases hNode : net.nodes.get? id with
  | none => rfl
  | some node =>
    simp only [transmitTasks]
    split
    · split <;> rfl
    · split
      · rfl
      · split
        · exact linkAt_missing hNode _ _ _ _ _
        · rfl

theorem linkAt_broadcast (net : Network σ) (id : NodeId) (message : Message)
    (deny : Option LinkId) (id' : NodeId) (name' : String) :
    (net.perform (.broadcast id message deny)).1.linkAt id' name' = net.linkAt id' name' := by
  simp only [perform]
  split <;> rfl

theorem contains_of_get? {node : Node} (h : net.nodes.get? id = some node) :
    net.nodes.contains id = true := by
  rw [Bindings.contains, h, Option.isSome_some]

/-- What an attempt to change a node comes to. -/
theorem linkAt_attempt {node : Node} (hNode : net.nodes.get? id = some node)
    (attempt : Except BusError Node) (id' : NodeId) (name' : String) :
    ((net.setNode id <$> attempt).toOption.getD net).linkAt id' name' =
      if id = id' then (attempt.toOption.getD node).links.get? name' else net.linkAt id' name' := by
  cases attempt with
  | ok changed => exact linkAt_setNode ..
  | error cause =>
    show net.linkAt id' name' = if id = id' then node.links.get? name' else net.linkAt id' name'
    split
    · rename_i hSame
      rw [← hSame, linkAt_of_get? hNode]
    · rfl

/-- A link is added under a name that is free, or under which it is bound already. -/
theorem linkAt_add (net : Network σ) (id : NodeId) (name : String) (link : LinkId) (id' : NodeId)
    (name' : String) :
    (net.perform (.add id name link)).1.linkAt id' name' =
      if (id = id' ∧ name = name') ∧ net.nodes.contains id = true ∧
        Path.isLinkName name = true ∧ net.linkAt id name = none then some link
      else net.linkAt id' name' := by
  cases hNode : net.nodes.get? id with
  | none =>
    rw [if_neg (by simp [Bindings.contains, hNode])]
    simp only [perform, addLink, hNode]
    rfl
  | some node =>
    simp only [perform, addLink, hNode, contains_of_get? hNode, linkAt_of_get? hNode]
    rw [linkAt_attempt hNode, Node.get?_add]
    by_cases hId : id = id'
    · subst hId
      simp only [linkAt_of_get? hNode, true_and, if_true]
    · simp only [hId, false_and, if_false]

/-- A link is bound under a valid name whatever was bound there. -/
theorem linkAt_replace (net : Network σ) (id : NodeId) (name : String) (link : LinkId)
    (id' : NodeId) (name' : String) :
    (net.perform (.replace id name link)).1.linkAt id' name' =
      if (id = id' ∧ name = name') ∧ net.nodes.contains id = true ∧
        Path.isLinkName name = true then some link
      else net.linkAt id' name' := by
  cases hNode : net.nodes.get? id with
  | none =>
    rw [if_neg (by simp [Bindings.contains, hNode])]
    simp only [perform, replaceLink, hNode]
    rfl
  | some node =>
    -- the notice about the link that was there before does not matter
    have hQuiet : (net.perform (.replace id name link)).1.linkAt id' name' =
        ((net.setNode id <$> node.replace name link).toOption.getD net).linkAt id' name' := by
      simp only [perform, replaceLink, hNode]
      cases node.replace name link with
      | error cause => rfl
      | ok changed =>
        cases node.hasLink name with
        | true => rfl
        | false => rfl
    rw [hQuiet, linkAt_attempt hNode, Node.get?_replace, contains_of_get? hNode]
    by_cases hId : id = id'
    · subst hId
      simp only [linkAt_of_get? hNode, true_and, if_true]
    · simp only [hId, false_and, if_false]

theorem linkAt_remove (net : Network σ) (id : NodeId) (name : String) (id' : NodeId)
    (name' : String) :
    (net.perform (.remove id name)).1.linkAt id' name' =
      if id = id' ∧ name = name' then none else net.linkAt id' name' := by
  rw [perform, linkAt_updateNode]
  by_cases hId : id = id'
  · subst hId
    rw [if_pos rfl, linkAt]
    cases net.nodes.get? id with
    | none => simp
    | some node => simp [Node.remove, Bindings.get?_erase]
  · simp [hId]

/-- A link is removed where it is bound. -/
theorem linkAt_removeIf (net : Network σ) (id : NodeId) (name : String) (link : LinkId)
    (id' : NodeId) (name' : String) :
    (net.perform (.removeIf id name link)).1.linkAt id' name' =
      if (id = id' ∧ name = name') ∧ net.linkAt id name = some link then none
      else net.linkAt id' name' := by
  rw [perform, linkAt_updateNode]
  by_cases hId : id = id'
  · subst hId
    rw [if_pos rfl, linkAt, linkAt]
    cases net.nodes.get? id with
    | none => simp
    | some node => simp [get?_removeIf]
  · simp [hId]

/-- An operation concerns the name that it is about and no other. -/
theorem linkAt_perform_of_ne {operation : Operation} (h : operation.edits? ≠ some (id', name')) :
    (net.perform operation).1.linkAt id' name' = net.linkAt id' name' := by
  cases operation with
  | transmit id message deny => exact linkAt_transmit net id message deny id' name'
  | broadcast id message deny => exact linkAt_broadcast net id message deny id' name'
  | add id name link =>
    rw [linkAt_add, if_neg]
    rintro ⟨⟨rfl, rfl⟩, _⟩
    exact h rfl
  | replace id name link =>
    rw [linkAt_replace, if_neg]
    rintro ⟨⟨rfl, rfl⟩, _⟩
    exact h rfl
  | remove id name =>
    rw [linkAt_remove, if_neg]
    rintro ⟨rfl, rfl⟩
    exact h rfl
  | removeIf id name link =>
    rw [linkAt_removeIf, if_neg]
    rintro ⟨⟨rfl, rfl⟩, _⟩
    exact h rfl

/-- What is bound after an operation was bound before it, or is what the operation asked for, under
a valid name. -/
theorem binding_of_perform {operation : Operation}
    (h : (net.perform operation).1.linkAt id' name' = some link') :
    net.linkAt id' name' = some link' ∨
      operation.binding? = some ⟨id', name', link'⟩ ∧ Path.isLinkName name' = true := by
  cases operation with
  | transmit id message deny =>
    rw [linkAt_transmit] at h
    exact .inl h
  | broadcast id message deny =>
    rw [linkAt_broadcast] at h
    exact .inl h
  | add id name link =>
    rw [linkAt_add] at h
    split at h
    · rename_i hBound
      obtain ⟨⟨rfl, rfl⟩, _, hName, _⟩ := hBound
      obtain rfl := Option.some.inj h
      exact .inr ⟨rfl, hName⟩
    · exact .inl h
  | replace id name link =>
    rw [linkAt_replace] at h
    split at h
    · rename_i hBound
      obtain ⟨⟨rfl, rfl⟩, _, hName⟩ := hBound
      obtain rfl := Option.some.inj h
      exact .inr ⟨rfl, hName⟩
    · exact .inl h
  | remove id name =>
    rw [linkAt_remove] at h
    split at h
    · cases h
    · exact .inl h
  | removeIf id name link =>
    rw [linkAt_removeIf] at h
    split at h
    · cases h
    · exact .inl h

/-- A replaced link is bound to its name, and everything else is as before. -/
theorem linkAt_of_replace
    (h : (net.perform (.replace id name link)).1.linkAt id' name' = some link') :
    net.linkAt id' name' = some link' ∨ id = id' ∧ name = name' ∧ link = link' := by
  rcases binding_of_perform h with hOld | ⟨hNew, _⟩
  · exact .inl hOld
  · cases hNew
    exact .inr ⟨rfl, rfl, rfl⟩

/-- A link that was removed under its name is not bound to it. -/
theorem linkAt_of_removeIf
    (h : (net.perform (.removeIf id name link)).1.linkAt id' name' = some link') :
    net.linkAt id' name' = some link' ∧ ¬(id = id' ∧ name = name' ∧ link = link') := by
  rw [linkAt_removeIf] at h
  split at h
  · cases h
  · rename_i hOther
    refine ⟨h, ?_⟩
    rintro ⟨rfl, rfl, rfl⟩
    exact hOther ⟨⟨rfl, rfl⟩, h⟩

theorem linkAt_of_perform {operation : Operation}
    (h : (net.perform operation).1.linkAt id' name' = some link') :
    net.linkAt id' name' = some link' ∨ (Task.perform operation).bound? = some link' := by
  rcases binding_of_perform h with hOld | ⟨hNew, _⟩
  · exact .inl hOld
  · right
    cases operation with
    | add id name link | replace id name link =>
      cases hNew
      rfl
    | transmit id message deny | broadcast id message deny | remove id name
    | removeIf id name link => cases hNew

/-- **Only a task that asks for it binds a link.** -/
theorem linkAt_of_step {behaviour : Behaviour σ} {task : Task}
    (h : (net.step behaviour task).1.linkAt id' name' = some link') :
    net.linkAt id' name' = some link' ∨ task.bound? = some link' := by
  cases task with
  | perform operation => exact linkAt_of_perform h
  | send id name link message reach =>
    rw [step_send, linkAt_of_nodes (nodes_react net behaviour link message)] at h
    exact .inl h
  | settle id name link target reach verdict =>
    left
    rcases net.linkAt_settle id name link target reach verdict id' name' with
      hSame | ⟨_, hNone⟩
    · rw [← hSame]
      exact h
    · have hGone : none = some link' := hNone.symm.trans h
      cases hGone

/-! ## Nodes that stay -/

theorem contains_updateNode (net : Network σ) (id : NodeId) (f : Node → Node) (id' : NodeId) :
    (net.updateNode id f).nodes.contains id' = net.nodes.contains id' := by
  rw [updateNode, Bindings.contains, Bindings.contains, Bindings.get?_modify]
  split
  · rw [Option.isSome_map]
  · rfl

theorem contains_setNode_of_get? {node node' : Node} (h : net.nodes.get? id = some node)
    (id' : NodeId) : (net.setNode id node').nodes.contains id' = net.nodes.contains id' := by
  rw [setNode, Bindings.contains, Bindings.contains, Bindings.get?_insert]
  split
  · rename_i hSame
    rw [← hSame, h]
    rfl
  · rfl

theorem contains_missing {node : Node} (h : net.nodes.get? id = some node)
    (target head : String) (message : Message) (id' : NodeId) :
    (net.missing id node target head message).1.nodes.contains id' = net.nodes.contains id' := by
  simp only [missing]
  split
  · exact contains_setNode_of_get? h id'
  · exact contains_setNode_of_get? h id'

theorem contains_perform (net : Network σ) (operation : Operation) (id' : NodeId) :
    (net.perform operation).1.nodes.contains id' = net.nodes.contains id' := by
  cases operation with
  | transmit id message deny =>
    simp only [perform]
    cases hNode : net.nodes.get? id with
    | none => rfl
    | some node =>
      simp only [transmitTasks]
      split
      · split <;> rfl
      · split
        · rfl
        · split
          · exact contains_missing hNode _ _ _ id'
          · rfl
  | broadcast id message deny =>
    simp only [perform]
    split <;> rfl
  | add id name link =>
    simp only [perform, addLink]
    cases hNode : net.nodes.get? id with
    | none => rfl
    | some node =>
      cases hAdd : node.add name link with
      | error cause =>
        simp only [hAdd]
        rfl
      | ok changed =>
        simp only [hAdd]
        exact contains_setNode_of_get? hNode id'
  | replace id name link =>
    simp only [perform, replaceLink]
    cases hNode : net.nodes.get? id with
    | none => rfl
    | some node =>
      cases hReplace : node.replace name link with
      | error cause =>
        simp only [hReplace]
        rfl
      | ok changed =>
        simp only [hReplace]
        cases node.hasLink name with
        | true => exact contains_setNode_of_get? hNode id'
        | false => exact contains_setNode_of_get? hNode id'
  | remove id name => exact contains_updateNode net id _ id'
  | removeIf id name link => exact contains_updateNode net id _ id'

/-- Nodes do not come or go by what nodes and links do. -/
theorem contains_step (net : Network σ) (behaviour : Behaviour σ) (task : Task) (id' : NodeId) :
    (net.step behaviour task).1.nodes.contains id' = net.nodes.contains id' := by
  cases task with
  | perform operation => exact contains_perform net operation id'
  | send id name link message reach =>
    rw [step_send, nodes_react]
  | settle id name link target reach verdict =>
    show (net.settle id name link target reach verdict).nodes.contains id' = _
    cases verdict with
    | keep => rfl
    | fault text => rfl
    | remove => exact contains_updateNode _ id _ id'

end Network

end RobotBus
