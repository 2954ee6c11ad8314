import RobotBus.Proofs.Routing.Execution
import RobotBus.Proofs.Routing.Path

/-!
# Bridges

A bridge joins two nodes. A link on each of them hands its messages to the other node, with the name
of the link there in front of the source, so that answers find the way back. `Walk` is a way over
bridges, `Bridge.back` the same way backwards. `Joined.reaches_far` is what a message does that is
sent over a bridge.
-/

namespace RobotBus

/-- A link under a name at a node. -/
@[ext]
structure Landing where
  node : NodeId
  name : String
  link : LinkId
deriving DecidableEq, Repr

/-- A bridge, seen from one of its ends. -/
@[ext]
structure Bridge where
  near : Landing
  far : Landing
deriving DecidableEq, Repr

namespace Bridge

/-- The same bridge, seen from its other end. -/
def reverse (bridge : Bridge) : Bridge :=
  ⟨bridge.far, bridge.near⟩

@[simp] theorem near_reverse (bridge : Bridge) : bridge.reverse.near = bridge.far := rfl

@[simp] theorem far_reverse (bridge : Bridge) : bridge.reverse.far = bridge.near := rfl

@[simp] theorem reverse_reverse (bridge : Bridge) : bridge.reverse.reverse = bridge := rfl

/-- What a message comes to at the far end. -/
def crossing (bridge : Bridge) (message : Message) (deny : Option LinkId) : Operation :=
  .transmit bridge.far.node
    ⟨message.target, some (Path.through bridge.far.name message.source), message.payload⟩ deny

variable {σ : Type}

/-- The link at the near end hands its messages to the node at the far end, as long as there is
one. -/
def Forwards (behaviour : Behaviour σ) (bridge : Bridge) : Prop :=
  ∀ (net : Network σ) (message : Message), net.nodes.contains bridge.far.node = true →
    ∃ deny, (behaviour net bridge.near.link message).operations = [bridge.crossing message deny]

/-- What is left to do for the near end when a message has crossed a bridge. -/
def Settling (behaviour : Behaviour σ) (bridge : Bridge) (task : Task) : Prop :=
  ∃ (net : Network σ) (message : Message), net.nodes.contains bridge.far.node = true ∧ task =
    .settle bridge.near.node bridge.near.name bridge.near.link message.target .direct
      (behaviour net bridge.near.link message).verdict

/-- A way over bridges, backwards. -/
def back (walk : List Bridge) : List Bridge :=
  (walk.map reverse).reverse

theorem back_cons (bridge : Bridge) (walk : List Bridge) :
    back (bridge :: walk) = back walk ++ [bridge.reverse] := by
  rw [back, List.map_cons, List.reverse_cons, back]

theorem back_back (walk : List Bridge) : back (back walk) = walk := by
  have hSelf : reverse ∘ reverse = id := rfl
  rw [back, back, List.map_reverse, List.reverse_reverse, List.map_map, hSelf, List.map_id]

theorem mem_back {bridge : Bridge} {walk : List Bridge} :
    bridge ∈ back walk ↔ bridge.reverse ∈ walk := by
  rw [back, List.mem_reverse, List.mem_map]
  constructor
  · rintro ⟨other, hOther, rfl⟩
    exact hOther
  · intro h
    exact ⟨bridge.reverse, h, rfl⟩

/-- The names on the way back are those of the far ends. -/
theorem names_back (walk : List Bridge) :
    (back walk).map (·.near.name) = walk.reverse.map (·.far.name) := by
  rw [back, List.map_reverse, List.map_map, ← List.map_reverse]
  rfl

end Bridge

/-! ## Walks -/

/-- A way over bridges from one node to another. -/
inductive Walk : NodeId → List Bridge → NodeId → Prop
  | nil (node : NodeId) : Walk node [] node
  | cons (bridge : Bridge) {walk : List Bridge} {last : NodeId}
      (h : Walk bridge.far.node walk last) : Walk bridge.near.node (bridge :: walk) last

namespace Walk

variable {first mid last : NodeId} {walk walk' : List Bridge}

theorem append (h : Walk first walk mid) (h' : Walk mid walk' last) :
    Walk first (walk ++ walk') last := by
  induction h with
  | nil => exact h'
  | cons bridge _ ih => exact .cons bridge (ih h')

theorem of_cons {bridge : Bridge} (h : Walk first (bridge :: walk) last) :
    bridge.near.node = first ∧ Walk bridge.far.node walk last := by
  cases h with
  | cons _ h => exact ⟨rfl, h⟩

/-- A walk ends at one node only. -/
theorem last_unique {last' : NodeId} (h : Walk first walk last) (h' : Walk first walk last') :
    last = last' := by
  induction h with
  | nil =>
    cases h'
    rfl
  | cons bridge _ ih => exact ih h'.of_cons.2

theorem of_append (h : Walk first (walk ++ walk') last) :
    ∃ mid, Walk first walk mid ∧ Walk mid walk' last := by
  induction walk generalizing first with
  | nil => exact ⟨first, .nil first, h⟩
  | cons bridge walk ih =>
    cases h with
    | cons _ h =>
      obtain ⟨mid, hFront, hRest⟩ := ih h
      exact ⟨mid, .cons bridge hFront, hRest⟩

theorem back (h : Walk first walk last) : Walk last (Bridge.back walk) first := by
  induction h with
  | nil node => exact .nil node
  | cons bridge _ ih =>
    rw [Bridge.back_cons]
    exact ih.append (.cons bridge.reverse (.nil _))

end Walk

/-! ## Crossing -/

namespace Network

variable {σ : Type} {behaviour : Behaviour σ} {net : Network σ}

/-- A link is bound to its name at its node. -/
def Binds (net : Network σ) (landing : Landing) : Prop :=
  ∃ node ∈ net.nodes.get? landing.node, node.links.get? landing.name = some landing.link

instance (net : Network σ) (landing : Landing) : Decidable (net.Binds landing) :=
  inferInstanceAs (Decidable (∃ node ∈ net.nodes.get? landing.node, _))

theorem Binds.contains {landing : Landing} (h : net.Binds landing) :
    net.nodes.contains landing.node = true := by
  obtain ⟨node, hNode, _⟩ := h
  rw [Bindings.contains, Option.mem_def.1 hNode, Option.isSome_some]

/-- A message along a path through a bound link goes to that link, and to nothing else. -/
theorem Binds.step_transmit {landing : Landing} (h : net.Binds landing)
    (hName : Path.isLinkName landing.name = true) (rest source : Option String) (payload : Bytes)
    (deny : Option LinkId) :
    net.step behaviour (.perform (.transmit landing.node
        ⟨some (Path.through landing.name rest), source, payload⟩ deny)) =
      (net, [.send landing.node landing.name landing.link ⟨rest, source, payload⟩ .direct]) := by
  obtain ⟨node, hNode, hLink⟩ := h
  have hSlash := (Path.isLinkName_iff.1 hName).2.1
  simp only [step, perform, Option.mem_def.1 hNode, transmitTasks,
    if_neg (Path.through_ne_everyone hName rest), Path.split_through hSlash, hLink]

/-- Both ends of a bridge are bound under valid names, and messages cross it both ways. -/
structure Joined (behaviour : Behaviour σ) (net : Network σ) (bridge : Bridge) : Prop where
  nearName : Path.isLinkName bridge.near.name = true
  farName : Path.isLinkName bridge.far.name = true
  near : net.Binds bridge.near
  far : net.Binds bridge.far
  there : bridge.Forwards behaviour
  back : bridge.reverse.Forwards behaviour

theorem Joined.reverse {bridge : Bridge} (h : Joined behaviour net bridge) :
    Joined behaviour net bridge.reverse :=
  ⟨h.farName, h.nearName, h.far, h.near, h.back, h.there⟩

theorem Joined.of_nodes {net' : Network σ} {bridge : Bridge} (h : Joined behaviour net bridge)
    (hNodes : net'.nodes = net.nodes) : Joined behaviour net' bridge := by
  refine ⟨h.nearName, h.farName, ?_, ?_, h.there, h.back⟩
  · rw [Binds, hNodes]
    exact h.near
  · rw [Binds, hNodes]
    exact h.far

/-- Calls at the near ends of some bridges, one after the other, that change neither the nodes nor
the clock, and what is left to do for these ends. -/
structure Passage (behaviour : Behaviour σ) (net : Network σ) (walk : List Bridge)
    (log : List Deed) (net' : Network σ) (settling : List Task) : Prop where
  stops : (calls log).map Prod.fst = walk.map (·.near.node)
  originations : originations log = []
  nodes : net'.nodes = net.nodes
  now : net'.now = net.now
  settling : ∀ task ∈ settling, ∃ bridge ∈ walk, bridge.Settling behaviour task

theorem Passage.trans {mid net' : Network σ} {walk walk' : List Bridge} {log log' : List Deed}
    {settling settling' : List Task} (h : Passage behaviour net walk log mid settling)
    (h' : Passage behaviour mid walk' log' net' settling') :
    Passage behaviour net (walk ++ walk') (log ++ log') net' (settling' ++ settling) where
  stops := by rw [calls_append, List.map_append, List.map_append, h.stops, h'.stops]
  originations := by
    rw [originations_append, h.originations, h'.originations, List.append_nil]
  nodes := h'.nodes.trans h.nodes
  now := h'.now.trans h.now
  settling task hTask := by
    rcases List.mem_append.1 hTask with hLater | hEarlier
    · obtain ⟨bridge, hBridge, hSettling⟩ := h'.settling task hLater
      exact ⟨bridge, List.mem_append_right walk hBridge, hSettling⟩
    · obtain ⟨bridge, hBridge, hSettling⟩ := h.settling task hEarlier
      exact ⟨bridge, List.mem_append_left walk' hBridge, hSettling⟩

/-- A call along a path through the near end of a bridge becomes a call at the far end. -/
theorem Joined.reaches_far {bridge : Bridge} (h : Joined behaviour net bridge)
    (rest source : Option String) (payload : Bytes) (deny : Option LinkId) (tasks : List Task) :
    ∃ log net' deny' settling,
      Reaches behaviour net (.perform (.transmit bridge.near.node
          ⟨some (Path.through bridge.near.name rest), source, payload⟩ deny) :: tasks) log net'
        (.perform (bridge.crossing ⟨rest, source, payload⟩ deny') :: (settling ++ tasks)) ∧
      Passage behaviour net [bridge] log net' settling := by
  obtain ⟨deny', hOperations⟩ := h.there net ⟨rest, source, payload⟩ h.far.contains
  have hFirst := Reaches.single behaviour net (.perform (.transmit bridge.near.node
    ⟨some (Path.through bridge.near.name rest), source, payload⟩ deny)) tasks
  have hSecond := Reaches.single behaviour net (.send bridge.near.node
    bridge.near.name bridge.near.link ⟨rest, source, payload⟩ .direct) tasks
  rw [h.near.step_transmit h.nearName] at hFirst
  rw [step_send, hOperations] at hSecond
  refine ⟨_, _, deny', _, hFirst.trans hSecond, ?_⟩
  exact {
    stops := rfl
    originations := rfl
    nodes := nodes_react net behaviour _ _
    now := now_react net behaviour _ _
    settling := by
      intro task hTask
      rw [List.mem_singleton.1 hTask]
      exact ⟨bridge, List.mem_singleton_self _, net, ⟨rest, source, payload⟩, h.far.contains,
        rfl⟩ }

end Network

end RobotBus
