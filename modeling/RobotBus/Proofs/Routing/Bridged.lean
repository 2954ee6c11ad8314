import RobotBus.Proofs.Routing.Bridge

/-!
# Bridged networks

The nodes of a bridged network are joined by bridges. The end of each bridge is one link, bound
under one name only, and it stays whatever it is sent. All other links are passive: they do as they
like with the messages that they get, but send none. Whatever nodes and links do, a bridged network
stays bridged.
-/

namespace RobotBus

/-- A bridge of a list, seen from one of its ends. -/
def Crosses (bridges : List Bridge) (bridge : Bridge) : Prop :=
  bridge ∈ bridges ∨ bridge.reverse ∈ bridges

/-- The bridges of a list, seen from both of their ends. -/
def crossings (bridges : List Bridge) : List Bridge :=
  bridges ++ bridges.map Bridge.reverse

/-- A link is the end of a bridge. -/
def IsEnd (bridges : List Bridge) (link : LinkId) : Prop :=
  ∃ bridge, Crosses bridges bridge ∧ bridge.near.link = link

theorem Crosses.reverse {bridges : List Bridge} {bridge : Bridge} (h : Crosses bridges bridge) :
    Crosses bridges bridge.reverse :=
  Or.symm h

theorem mem_crossings {bridges : List Bridge} {bridge : Bridge} :
    bridge ∈ crossings bridges ↔ Crosses bridges bridge := by
  rw [crossings, List.mem_append, List.mem_map, Crosses]
  constructor
  · rintro (hMem | ⟨other, hOther, rfl⟩)
    · exact .inl hMem
    · exact .inr hOther
  · rintro (hMem | hMem)
    · exact .inl hMem
    · exact .inr ⟨bridge.reverse, hMem, rfl⟩

/-- A way over the bridges of a list. -/
structure Route (bridges : List Bridge) (first : NodeId) (walk : List Bridge) (last : NodeId) :
    Prop where
  isWalk : Walk first walk last
  crosses : ∀ bridge ∈ walk, Crosses bridges bridge

theorem Route.nil (bridges : List Bridge) (node : NodeId) : Route bridges node [] node :=
  ⟨.nil node, nofun⟩

theorem Route.cons {first last : NodeId} {bridge : Bridge} {walk : List Bridge}
    (hBridge : Crosses bridges bridge) (hFirst : bridge.near.node = first)
    (h : Route bridges bridge.far.node walk last) : Route bridges first (bridge :: walk) last where
  isWalk := hFirst ▸ .cons bridge h.isWalk
  crosses := List.forall_mem_cons.2 ⟨hBridge, h.crosses⟩

/-- A link hands its messages to the node at the far end, which does not send them back in a
broadcast, and stays bound. -/
def Bridge.Carries {σ : Type} (behaviour : Behaviour σ) (bridge : Bridge) : Prop :=
  ∀ (net : Network σ) (message : Message), net.nodes.contains bridge.far.node = true →
    (behaviour net bridge.near.link message).operations =
        [bridge.crossing message (some bridge.far.link)] ∧
      (behaviour net bridge.near.link message).verdict = .keep

theorem Bridge.Carries.forwards {σ : Type} {behaviour : Behaviour σ} {bridge : Bridge}
    (h : bridge.Carries behaviour) : bridge.Forwards behaviour := fun net message hFar =>
  ⟨some bridge.far.link, (h net message hFar).1⟩

namespace Network

variable {σ : Type} {behaviour : Behaviour σ} {bridges : List Bridge} {net net' : Network σ}

/-- The link bound to a name at a node. -/
def linkAt (net : Network σ) (id : NodeId) (name : String) : Option LinkId :=
  (net.nodes.get? id).bind fun node => node.links.get? name

structure Bridged (behaviour : Behaviour σ) (bridges : List Bridge) (net : Network σ) : Prop where
  named : ∀ bridge, Crosses bridges bridge → Path.isLinkName bridge.near.name = true
  bound : ∀ bridge, Crosses bridges bridge → net.Binds bridge.near
  /-- The end of a bridge is bound nowhere else. -/
  only : ∀ bridge, Crosses bridges bridge → ∀ id name,
    net.linkAt id name = some bridge.near.link → id = bridge.near.node ∧ name = bridge.near.name
  carries : ∀ bridge, Crosses bridges bridge → bridge.Carries behaviour
  passive : ∀ link, ¬IsEnd bridges link → ∀ (now : Network σ) message,
    (behaviour now link message).operations = []

theorem linkAt_of_get? {id : NodeId} {node : Node} (h : net.nodes.get? id = some node)
    (name : String) : net.linkAt id name = node.links.get? name := by
  rw [linkAt, h, Option.bind_some]

theorem binds_iff {landing : Landing} :
    net.Binds landing ↔ net.linkAt landing.node landing.name = some landing.link := by
  rw [Binds, linkAt, Option.bind_eq_some_iff]
  rfl

theorem linkAt_of_nodes (h : net'.nodes = net.nodes) (id : NodeId) (name : String) :
    net'.linkAt id name = net.linkAt id name := by
  rw [linkAt, linkAt, h]

theorem contains_setNode (id : NodeId) (node : Node) {other : NodeId}
    (h : net.nodes.contains other = true) : (net.setNode id node).nodes.contains other = true := by
  rw [setNode, Bindings.contains, Bindings.get?_insert]
  split
  · rfl
  · exact h

namespace Bridged

theorem joined (h : Bridged behaviour bridges net) {bridge : Bridge}
    (hBridge : Crosses bridges bridge) : Joined behaviour net bridge where
  nearName := h.named bridge hBridge
  farName := h.named bridge.reverse hBridge.reverse
  near := h.bound bridge hBridge
  far := h.bound bridge.reverse hBridge.reverse
  there := (h.carries bridge hBridge).forwards
  back := (h.carries bridge.reverse hBridge.reverse).forwards

theorem joined_of_route (h : Bridged behaviour bridges net) {first last : NodeId}
    {walk : List Bridge} (hRoute : Route bridges first walk last) :
    ∀ bridge ∈ walk, Joined behaviour net bridge := fun bridge hBridge =>
  h.joined (hRoute.crosses bridge hBridge)

/-- Where a route from a node ends, there is a node. -/
theorem contains_of_route (h : Bridged behaviour bridges net) {first last : NodeId}
    {walk : List Bridge} (hRoute : Route bridges first walk last)
    (hFirst : net.nodes.contains first = true) : net.nodes.contains last = true := by
  obtain ⟨hWalk, hCrosses⟩ := hRoute
  induction hWalk with
  | nil => exact hFirst
  | cons bridge _ ih =>
    obtain ⟨hBridge, hLater⟩ := List.forall_mem_cons.1 hCrosses
    exact ih (h.bound bridge.reverse hBridge.reverse).contains hLater

/-- A link is the end of one bridge at most. -/
theorem eq_of_link (h : Bridged behaviour bridges net) {bridge bridge' : Bridge}
    (hBridge : Crosses bridges bridge) (hBridge' : Crosses bridges bridge')
    (hLink : bridge.near.link = bridge'.near.link) : bridge = bridge' := by
  have hAt := binds_iff.1 (h.bound bridge hBridge)
  rw [hLink] at hAt
  obtain ⟨hNode, hName⟩ := h.only bridge' hBridge' _ _ hAt
  have hFirst := (h.carries bridge hBridge net ⟨none, none, []⟩
    (h.bound _ hBridge.reverse).contains).1
  have hSecond := (h.carries bridge' hBridge' net ⟨none, none, []⟩
    (h.bound _ hBridge'.reverse).contains).1
  rw [hLink, hSecond, List.cons.injEq, Bridge.crossing, Bridge.crossing, Operation.transmit.injEq,
    Message.mk.injEq, Option.some.injEq, Option.some.injEq] at hFirst
  obtain ⟨⟨hFarNode, ⟨_, hFarName, _⟩, hFarLink⟩, _⟩ := hFirst
  exact Bridge.ext (Landing.ext hNode hName hLink)
    (Landing.ext hFarNode.symm hFarName.symm hFarLink.symm)

/-- A network stays bridged if the bridges stay bound and nothing else is bound anew. -/
theorem of_linkAt (h : Bridged behaviour bridges net)
    (hBound : ∀ bridge, Crosses bridges bridge → net'.Binds bridge.near)
    (hOnly : ∀ id name link, net'.linkAt id name = some link → net.linkAt id name = some link) :
    Bridged behaviour bridges net' where
  named := h.named
  bound := hBound
  only bridge hBridge id name hAt := h.only bridge hBridge id name (hOnly id name _ hAt)
  carries := h.carries
  passive := h.passive

theorem congr (h : Bridged behaviour bridges net)
    (hAt : ∀ id name, net'.linkAt id name = net.linkAt id name) :
    Bridged behaviour bridges net' := by
  refine h.of_linkAt ?_ ?_
  · intro bridge hBridge
    rw [binds_iff, hAt]
    exact binds_iff.1 (h.bound bridge hBridge)
  · intro id name link hLink
    rw [← hAt]
    exact hLink

theorem of_nodes (h : Bridged behaviour bridges net) (hNodes : net'.nodes = net.nodes) :
    Bridged behaviour bridges net' :=
  h.congr (linkAt_of_nodes hNodes)

end Bridged

/-! ## Verdicts -/

theorem get?_removeIf (node : Node) (name : String) (link : LinkId) (name' : String) :
    (node.removeIf name link).links.get? name' =
      if name = name' ∧ node.links.get? name = some link then none else node.links.get? name' := by
  rw [Node.removeIf, Node.binds]
  by_cases hLink : node.links.get? name = some link
  · rw [if_pos (by rw [hLink, beq_self_eq_true]), Node.remove, Bindings.get?_erase]
    simp only [hLink, and_true]
  · rw [if_neg (by simpa using hLink), if_neg fun hBoth => hLink hBoth.2]

theorem nodes_settle (net : Network σ) (id : NodeId) (name : String) (link : LinkId)
    (target : Option String) (reach : Reach) (verdict : Verdict) :
    (net.settle id name link target reach verdict).nodes =
      if verdict = .remove then net.nodes.modify id (·.removeIf name link) else net.nodes := by
  cases verdict <;> rfl

/-- A verdict concerns one node only. -/
theorem get?_settle (net : Network σ) {id id' : NodeId} (h : id' ≠ id) (name : String)
    (link : LinkId) (target : Option String) (reach : Reach) (verdict : Verdict) :
    (net.settle id name link target reach verdict).nodes.get? id' = net.nodes.get? id' := by
  rw [nodes_settle]
  split
  · rw [Bindings.get?_modify, if_neg h]
  · rfl

/-- A verdict can only take away the binding under which its link was called. -/
theorem linkAt_settle (net : Network σ) (id : NodeId) (name : String) (link : LinkId)
    (target : Option String) (reach : Reach) (verdict : Verdict) (id' : NodeId) (name' : String) :
    (net.settle id name link target reach verdict).linkAt id' name' = net.linkAt id' name' ∨
      net.linkAt id' name' = some link ∧
        (net.settle id name link target reach verdict).linkAt id' name' = none := by
  by_cases hId : id' = id
  · subst hId
    rw [linkAt, linkAt, nodes_settle]
    split
    · rw [Bindings.get?_modify, if_pos rfl]
      cases net.nodes.get? id' with
      | none => exact .inl rfl
      | some node =>
        rw [Option.map_some, Option.bind_some, Option.bind_some, get?_removeIf]
        split
        · rename_i hBound
          obtain ⟨rfl, hLink⟩ := hBound
          exact .inr ⟨hLink, rfl⟩
        · exact .inl rfl
    · exact .inl rfl
  · exact .inl (by rw [linkAt, linkAt, get?_settle net hId])

theorem Bridged.settle (h : Bridged behaviour bridges net) {link : LinkId}
    (hLink : ¬IsEnd bridges link) (id : NodeId) (name : String) (target : Option String)
    (reach : Reach) (verdict : Verdict) :
    Bridged behaviour bridges (net.settle id name link target reach verdict) := by
  refine h.of_linkAt ?_ ?_
  · intro bridge hBridge
    have hBound := binds_iff.1 (h.bound bridge hBridge)
    rw [binds_iff]
    rcases net.linkAt_settle id name link target reach verdict bridge.near.node
      bridge.near.name with hSame | ⟨hOther, _⟩
    · rw [hSame, hBound]
    · rw [hBound, Option.some.injEq] at hOther
      exact absurd ⟨bridge, hBridge, hOther⟩ hLink
  · intro id' name' link' hAt
    rcases net.linkAt_settle id name link target reach verdict id' name' with
      hSame | ⟨_, hNone⟩
    · rw [← hSame]
      exact hAt
    · rw [hNone] at hAt
      cases hAt

/-- A message to a passive link leads to nothing but its verdict. -/
theorem Bridged.does_send (h : Bridged behaviour bridges net) {link : LinkId}
    (hLink : ¬IsEnd bridges link) (id : NodeId) (name : String) (message : Message)
    (reach : Reach) :
    ∃ verdict net', Does behaviour net [.send id name link message reach]
        [⟨.send id name link message reach, [.settle id name link message.target reach verdict]⟩,
          ⟨.settle id name link message.target reach verdict, []⟩] net' ∧
      Bridged behaviour bridges net' ∧
      ∀ other, other ≠ id → net'.nodes.get? other = net.nodes.get? other := by
  have hFirst := Reaches.single behaviour net (.send id name link message reach) []
  rw [step_send, h.passive link hLink] at hFirst
  refine ⟨_, _, hFirst.trans (Reaches.single behaviour _ _ _), ?_, ?_⟩
  · exact (h.of_nodes (nodes_react net behaviour link message)).settle hLink _ _ _ _ _
  · intro other hOther
    exact (get?_settle _ hOther _ _ _ _ _).trans
      (congrArg (·.get? other) (nodes_react net behaviour link message))

/-- Bridges that have been used stay as they are. -/
theorem does_settling (net : Network σ) {walk : List Bridge}
    (hWalk : ∀ bridge ∈ walk, bridge.Carries behaviour) {settling : List Task}
    (hSettling : ∀ task ∈ settling, ∃ bridge ∈ walk, bridge.Settling behaviour task) :
    ∃ log, Does behaviour net settling log net ∧ calls log = [] ∧ originations log = [] := by
  induction settling with
  | nil => exact ⟨[], does_nil net, rfl, rfl⟩
  | cons task settling ih =>
    obtain ⟨log, hDoes, hCalls, hOriginations⟩ :=
      ih fun later hLater => hSettling later (List.mem_cons_of_mem task hLater)
    obtain ⟨bridge, hBridge, earlier, message, hFar, rfl⟩ := hSettling task List.mem_cons_self
    rw [(hWalk bridge hBridge earlier message hFar).2]
    refine ⟨_, .step hDoes, ?_, ?_⟩
    · exact hCalls
    · exact hOriginations

end Network

end RobotBus
