import RobotBus.Proofs.Routing.Binding

/-!
# What nodes do not see

Nodes work alike whatever was logged before and whatever links keep (`perform_eq`, `settle_eq`). A
link that is bound nowhere, and that no task mentions, stays out of their reach (`Unknown.step`),
because nodes send to bound links only. And a message for everyone is not sent to the link that it
is denied to (`linkAt_of_sent`).
-/

namespace RobotBus

namespace Operation

/-- The link that a message for everyone is not sent to. -/
def denied? : Operation → Option LinkId
  | transmit _ message deny => if message.target = some Path.everyone then deny else none
  | broadcast _ _ deny => deny
  | _ => none

end Operation

/-- The link that a task is about to call or to bind. -/
def Task.link? : Task → Option LinkId
  | .send _ _ link _ _ => some link
  | task => task.bound?

theorem Task.link?_of_bound? {task : Task} {link : LinkId} (h : task.bound? = some link) :
    task.link? = some link := by
  cases task with
  | perform operation => exact h
  | send node name link message reach | settle node name link target reach verdict => cases h

namespace Network

variable {σ : Type} {net : Network σ} {behaviour : Behaviour σ}

/-! ## What nodes see -/

/-- All that nodes see of a network. -/
def core (net : Network σ) : Network Unit where
  nodes := net.nodes
  now := net.now
  log := []
  links := ()

/-- A network in which nodes have done something. -/
def absorb (net : Network σ) (done : Network Unit) : Network σ :=
  { net with nodes := done.nodes, now := done.now, log := done.log ++ net.log }

theorem missing_eq (net : Network σ) (id : NodeId) (node : Node) (target head : String)
    (message : Message) :
    net.missing id node target head message =
      (net.absorb (net.core.missing id node target head message).1,
        (net.core.missing id node target head message).2) := by
  cases hReported : (node.reporter.report target head message.payload net.now).1 with
  | true =>
    simp only [missing, core, hReported, if_true]
    rfl
  | false =>
    simp only [missing, core, hReported, Bool.false_eq_true, if_false]
    rfl

theorem transmitTasks_eq (net : Network σ) (id : NodeId) (node : Node) (message : Message)
    (deny : Option LinkId) :
    net.transmitTasks id node message deny =
      (net.absorb (net.core.transmitTasks id node message deny).1,
        (net.core.transmitTasks id node message deny).2) := by
  rw [transmitTasks, transmitTasks]
  cases message.target with
  | none =>
    cases hQuiet : Payload.isNegativeAck message.payload with
    | true => rfl
    | false => rfl
  | some target =>
    by_cases hEveryone : target = Path.everyone
    · simp only [hEveryone, if_true]
      rfl
    · simp only [hEveryone, if_false]
      cases node.links.get? (Path.split target).1 with
      | none => exact missing_eq ..
      | some link => rfl

/-- **Nodes work alike whatever was logged and whatever links keep.** -/
theorem perform_eq (net : Network σ) (operation : Operation) :
    net.perform operation =
      (net.absorb (net.core.perform operation).1, (net.core.perform operation).2) := by
  cases operation with
  | transmit id message deny =>
    simp only [perform, core]
    cases net.nodes.get? id with
    | none => rfl
    | some node => exact transmitTasks_eq ..
  | broadcast id message deny =>
    simp only [perform, core]
    cases net.nodes.get? id with
    | none => rfl
    | some node => rfl
  | add id name link =>
    simp only [perform, addLink, core]
    cases net.nodes.get? id with
    | none => rfl
    | some node =>
      cases hAdd : node.add name link with
      | error cause =>
        simp only [hAdd]
        rfl
      | ok changed =>
        simp only [hAdd]
        rfl
  | replace id name link =>
    simp only [perform, replaceLink, core]
    cases net.nodes.get? id with
    | none => rfl
    | some node =>
      cases hReplace : node.replace name link with
      | error cause =>
        simp only [hReplace]
        rfl
      | ok changed =>
        simp only [hReplace]
        cases node.hasLink name with
        | true => rfl
        | false => rfl
  | remove id name => rfl
  | removeIf id name link => rfl

theorem settle_eq (net : Network σ) (id : NodeId) (name : String) (link : LinkId)
    (target : Option String) (reach : Reach) (verdict : Verdict) :
    net.settle id name link target reach verdict =
      net.absorb (net.core.settle id name link target reach verdict) := by
  cases verdict with
  | keep => rfl
  | fault text => rfl
  | remove => rfl

theorem noteAll_eq (net : Network σ) (notices : List Notice) :
    net.noteAll notices = { net with log := notices.reverse ++ net.log } := by
  rw [noteAll]
  induction notices generalizing net with
  | nil => rfl
  | cons notice notices ih =>
    refine (ih (net.note notice)).trans ?_
    rw [List.reverse_cons, List.append_assoc]
    rfl

theorem react_eq (net : Network σ) (behaviour : Behaviour σ) (link : LinkId) (message : Message) :
    net.react behaviour link message =
      ({ net with
          log := (behaviour net link message).notices.reverse ++ net.log
          links := (behaviour net link message).links },
        (behaviour net link message).operations, (behaviour net link message).verdict) := by
  rw [react, noteAll_eq]

/-! ## Links out of reach -/

/-- A link that nobody at hand can name: it is bound nowhere, and no task calls it or binds it. -/
structure Unknown (link : LinkId) (net : Network σ) (tasks : List Task) : Prop where
  unbound : ∀ id name, net.linkAt id name ≠ some link
  unnamed : ∀ task ∈ tasks, task.link? ≠ some link

theorem linkAt_of_broadcast {id id' : NodeId} {node : Node} {name : String} {link : LinkId}
    {message message' : Message} {deny : Option LinkId} {reach : Reach}
    (hNode : net.nodes.get? id = some node)
    (h : .send id' name link message' reach ∈ broadcastTasks id node message deny) :
    net.linkAt id' name = some link ∧ deny ≠ some link := by
  obtain ⟨⟨_, _⟩, hEntry, hSame⟩ := List.mem_map.1 h
  obtain ⟨hBound, hDeny⟩ := List.mem_filter.1 hEntry
  cases hSame
  refine ⟨(linkAt_of_get? hNode _).trans ?_, of_decide_eq_true hDeny⟩
  exact Bindings.mem_entries_iff.1 hBound

/-- A node sends to links that it has bound, and not to the one that a message for everyone is
denied to. -/
theorem linkAt_of_sent {operation : Operation} {id : NodeId} {name : String} {link : LinkId}
    {message : Message} {reach : Reach}
    (h : .send id name link message reach ∈ (net.perform operation).2) :
    net.linkAt id name = some link ∧ operation.denied? ≠ some link := by
  cases operation with
  | transmit id' message' deny =>
    simp only [perform] at h
    split at h
    · cases h
    · rename_i node hNode
      simp only [transmitTasks] at h
      split at h
      · split at h <;> cases h
      · rename_i target hTarget
        split at h
        · rename_i hEveryone
          rw [Operation.denied?, hTarget, hEveryone, if_pos rfl]
          exact linkAt_of_broadcast hNode h
        · rename_i hDirect
          rw [Operation.denied?, hTarget, if_neg fun hSame => hDirect (Option.some.inj hSame)]
          refine ⟨?_, (Option.some_ne_none link).symm⟩
          split at h
          · simp only [missing] at h
            split at h
            · cases List.mem_singleton.1 h
            · cases h
          · rename_i hBound
            cases List.mem_singleton.1 h
            exact (linkAt_of_get? hNode _).trans hBound
  | broadcast id' message' deny =>
    simp only [perform] at h
    split at h
    · cases h
    · rename_i node hNode
      exact linkAt_of_broadcast hNode h
  | add id' name' link' | replace id' name' link' | remove id' name' | removeIf id' name' link' =>
    cases h

/-- What a node has to do after an operation mentions no link that is out of its reach. -/
theorem link?_of_led {operation : Operation} {task : Task} {link : LinkId}
    (hUnbound : ∀ id name, net.linkAt id name ≠ some link)
    (h : task ∈ (net.perform operation).2) : task.link? ≠ some link := by
  rcases led_perform_cases h with ⟨id, name, _, _, _, rfl⟩ | ⟨_, _, _, rfl⟩
  · intro hSame
    obtain rfl := Option.some.inj hSame
    exact hUnbound id name (linkAt_of_sent h).1
  · exact (Option.some_ne_none link).symm

namespace Unknown

variable {link : LinkId} {tasks tasks' : List Task}

theorem of_nodes {net' : Network σ} (h : net.Unknown link tasks)
    (hNodes : net'.nodes = net.nodes) : net'.Unknown link tasks where
  unbound id name := by
    rw [linkAt_of_nodes hNodes]
    exact h.unbound id name
  unnamed := h.unnamed

theorem append (h : net.Unknown link tasks) (hNew : ∀ task ∈ tasks', task.link? ≠ some link) :
    net.Unknown link (tasks ++ tasks') where
  unbound := h.unbound
  unnamed task hTask := by
    rcases List.mem_append.1 hTask with hOld | hLed
    · exact h.unnamed task hOld
    · exact hNew task hLed

theorem erase (h : net.Unknown link tasks) (index : Nat) :
    net.Unknown link (tasks.eraseIdx index) where
  unbound := h.unbound
  unnamed task hTask := h.unnamed task (List.mem_of_mem_eraseIdx hTask)

end Unknown

/-- A link stays out of reach if the task at hand does not mention it, and no link asks a node to
bind it. -/
theorem Unknown.step {link : LinkId} {tasks : List Task} (h : net.Unknown link tasks) {task : Task}
    (hTask : task.link? ≠ some link)
    (hAsked : ∀ link' message, ∀ operation ∈ (behaviour net link' message).operations,
      (Task.perform operation).bound? ≠ some link) :
    (net.step behaviour task).1.Unknown link (tasks ++ (net.step behaviour task).2) := by
  have hBound : task.bound? ≠ some link := fun hSame => hTask (Task.link?_of_bound? hSame)
  refine .append ⟨fun id name hLink => ?_, h.unnamed⟩ fun new hNew => ?_
  · rcases linkAt_of_step hLink with hOld | hBinds
    · exact h.unbound id name hOld
    · exact hBound hBinds
  · cases task with
    | perform operation => exact link?_of_led h.unbound hNew
    | send id name link' message reach =>
      rcases List.mem_append.1 hNew with hOperation | hVerdict
      · obtain ⟨operation, hMem, rfl⟩ := List.mem_map.1 hOperation
        exact hAsked link' message operation hMem
      · rw [List.mem_singleton.1 hVerdict]
        exact (Option.some_ne_none link).symm
    | settle id name link' target reach verdict => cases hNew

end Network

end RobotBus
