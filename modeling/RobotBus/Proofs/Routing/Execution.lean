import RobotBus.Routing.Network

/-!
# Executions

What the machine of a network does, task by task, with a log of all deeds. An execution leads from
the tasks at hand to those that are left (`Reaches`), and is complete when nothing is left (`Does`).
Executions can be put one after the other (`Reaches.trans`), and what waits behind the tasks at hand
does not matter to them (`Reaches.append`, `Does.append`). Complete executions are those of
`Network.run` (`run_eq_some_iff`).
-/

namespace RobotBus

/-- A task that was done, with the tasks that it led to. -/
structure Deed where
  task : Task
  led : List Task
deriving DecidableEq, Repr

def Task.operation? : Task → Option Operation
  | .perform operation => some operation
  | .send .. | .settle .. => none

namespace Deed

/-- The node and the message of a call of `transmit`. -/
def call? (deed : Deed) : Option (NodeId × Message) :=
  match deed.task with
  | .perform (.transmit node message _) => some (node, message)
  | _ => none

/-- The operations that a node adds by itself, without a link that asks for them. -/
def originated (deed : Deed) : List Operation :=
  match deed.task with
  | .perform _ => deed.led.filterMap Task.operation?
  | .send .. | .settle .. => []

end Deed

/-- All calls of `transmit`, in order. -/
def calls (log : List Deed) : List (NodeId × Message) :=
  log.filterMap Deed.call?

/-- All operations that nodes have added by themselves. -/
def originations (log : List Deed) : List Operation :=
  log.flatMap Deed.originated

theorem calls_append (log log' : List Deed) : calls (log ++ log') = calls log ++ calls log' :=
  List.filterMap_append

theorem originations_append (log log' : List Deed) :
    originations (log ++ log') = originations log ++ originations log' :=
  List.flatMap_append

namespace Network

variable {σ : Type} {behaviour : Behaviour σ}

/-- To do some tasks takes a network with tasks to another one. -/
inductive Reaches (behaviour : Behaviour σ) :
    Network σ → List Task → List Deed → Network σ → List Task → Prop
  | refl (net : Network σ) (tasks : List Task) : Reaches behaviour net tasks [] net tasks
  | step {net net' : Network σ} {task : Task} {tasks tasks' : List Task} {log : List Deed}
      (h : Reaches behaviour (net.step behaviour task).1 ((net.step behaviour task).2 ++ tasks)
        log net' tasks') :
      Reaches behaviour net (task :: tasks) (⟨task, (net.step behaviour task).2⟩ :: log) net' tasks'

/-- All tasks are done, and all that they lead to. -/
def Does (behaviour : Behaviour σ) (net : Network σ) (tasks : List Task) (log : List Deed)
    (net' : Network σ) : Prop :=
  Reaches behaviour net tasks log net' []

theorem Reaches.trans {net mid net' : Network σ} {tasks tasks' tasks'' : List Task}
    {log log' : List Deed} (h : Reaches behaviour net tasks log mid tasks')
    (h' : Reaches behaviour mid tasks' log' net' tasks'') :
    Reaches behaviour net tasks (log ++ log') net' tasks'' := by
  induction h with
  | refl => exact h'
  | step _ ih => exact .step (ih h')

theorem Reaches.append {net net' : Network σ} {tasks tasks' : List Task} {log : List Deed}
    (h : Reaches behaviour net tasks log net' tasks') (more : List Task) :
    Reaches behaviour net (tasks ++ more) log net' (tasks' ++ more) := by
  induction h with
  | refl => exact .refl _ _
  | step _ ih =>
    rw [List.append_assoc] at ih
    exact .step ih

theorem Reaches.single (behaviour : Behaviour σ) (net : Network σ) (task : Task)
    (tasks : List Task) :
    Reaches behaviour net (task :: tasks) [⟨task, (net.step behaviour task).2⟩]
      (net.step behaviour task).1 ((net.step behaviour task).2 ++ tasks) :=
  .step (.refl _ _)

theorem does_nil (net : Network σ) : Does behaviour net [] [] net :=
  .refl _ _

theorem Does.append {net mid net' : Network σ} {tasks tasks' : List Task} {log log' : List Deed}
    (h : Does behaviour net tasks log mid) (h' : Does behaviour mid tasks' log' net') :
    Does behaviour net (tasks ++ tasks') (log ++ log') net' :=
  Reaches.trans (Reaches.append h tasks') h'

/-- A task and all that it leads to. -/
theorem does_of_step {net mid net' : Network σ} {task : Task} {led : List Task} {log : List Deed}
    (hStep : net.step behaviour task = (mid, led)) (h : Does behaviour mid led log net') :
    Does behaviour net [task] (⟨task, led⟩ :: log) net' := by
  have hSingle := Reaches.single behaviour net task []
  rw [hStep, List.append_nil] at hSingle
  exact hSingle.trans h

/-- Complete executions are the runs that have enough fuel. -/
theorem run_eq_some_iff {fuel : Nat} {net net' : Network σ} {tasks : List Task} :
    run behaviour fuel net tasks = some net' ↔
      ∃ log, Does behaviour net tasks log net' ∧ log.length ≤ fuel := by
  constructor
  · intro h
    induction fuel generalizing net tasks with
    | zero =>
      cases tasks with
      | nil =>
        cases h
        exact ⟨[], does_nil _, Nat.le_refl 0⟩
      | cons task tasks => cases h
    | succ fuel ih =>
      cases tasks with
      | nil =>
        cases h
        exact ⟨[], does_nil _, Nat.zero_le _⟩
      | cons task tasks =>
        obtain ⟨log, hDoes, hLength⟩ := ih h
        exact ⟨_, .step hDoes, Nat.succ_le_succ hLength⟩
  · rintro ⟨log, hDoes, hLength⟩
    rw [Does] at hDoes
    generalize hEnd : ([] : List Task) = tasks' at hDoes
    induction hDoes generalizing fuel with
    | refl => rw [← hEnd, run]
    | step _ ih =>
      cases fuel with
      | zero => cases hLength
      | succ fuel => exact ih (Nat.le_of_succ_le_succ hLength) hEnd

/-! ## What links leave alone -/

@[simp] theorem nodes_noteAll (net : Network σ) (notices : List Notice) :
    (net.noteAll notices).nodes = net.nodes := by
  rw [noteAll]
  induction notices generalizing net with
  | nil => rfl
  | cons notice notices ih => exact ih (net.note notice)

@[simp] theorem now_noteAll (net : Network σ) (notices : List Notice) :
    (net.noteAll notices).now = net.now := by
  rw [noteAll]
  induction notices generalizing net with
  | nil => rfl
  | cons notice notices ih => exact ih (net.note notice)

@[simp] theorem links_noteAll (net : Network σ) (notices : List Notice) :
    (net.noteAll notices).links = net.links := by
  rw [noteAll]
  induction notices generalizing net with
  | nil => rfl
  | cons notice notices ih => exact ih (net.note notice)

theorem nodes_react (net : Network σ) (behaviour : Behaviour σ) (link : LinkId)
    (message : Message) : (net.react behaviour link message).1.nodes = net.nodes :=
  nodes_noteAll _ _

theorem now_react (net : Network σ) (behaviour : Behaviour σ) (link : LinkId)
    (message : Message) : (net.react behaviour link message).1.now = net.now :=
  now_noteAll _ _

theorem links_react (net : Network σ) (behaviour : Behaviour σ) (link : LinkId)
    (message : Message) :
    (net.react behaviour link message).1.links = (behaviour net link message).links :=
  links_noteAll _ _

theorem links_missing (net : Network σ) (id : NodeId) (node : Node) (target head : String)
    (message : Message) : (net.missing id node target head message).1.links = net.links := by
  simp only [missing]
  split <;> rfl

theorem links_transmitTasks (net : Network σ) (id : NodeId) (node : Node) (message : Message)
    (deny : Option LinkId) : (net.transmitTasks id node message deny).1.links = net.links := by
  rw [transmitTasks]
  split
  · split <;> rfl
  · split
    · rfl
    · simp only
      split
      · exact links_missing ..
      · rfl

/-- What links keep is out of reach for operations on nodes. -/
theorem links_perform (net : Network σ) (operation : Operation) :
    (net.perform operation).1.links = net.links := by
  cases operation with
  | transmit id message deny =>
    rw [perform]
    cases net.nodes.get? id with
    | none => rfl
    | some node => exact links_transmitTasks net id node message deny
  | broadcast id message deny =>
    rw [perform]
    cases net.nodes.get? id <;> rfl
  | add id name link =>
    rw [perform, addLink]
    cases net.nodes.get? id with
    | none => rfl
    | some node => cases hAdd : node.add name link <;> simp only [hAdd] <;> rfl
  | replace id name link =>
    rw [perform, replaceLink]
    cases net.nodes.get? id with
    | none => rfl
    | some node =>
      cases hReplace : node.replace name link with
      | error cause =>
        simp only [hReplace]
        rfl
      | ok changed =>
        simp only [hReplace]
        cases hBound : node.hasLink name <;> rfl
  | remove id name => rfl
  | removeIf id name link => rfl

theorem links_settle (net : Network σ) (id : NodeId) (name : String) (link : LinkId)
    (target : Option String) (reach : Reach) (verdict : Verdict) :
    (net.settle id name link target reach verdict).links = net.links := by
  cases verdict <;> rfl

/-- A message that a link handles leads to what the link asks for, and to its verdict. -/
theorem step_send (net : Network σ) (node : NodeId) (name : String) (link : LinkId)
    (message : Message) (reach : Reach) :
    net.step behaviour (.send node name link message reach) =
      ((net.react behaviour link message).1,
        (behaviour net link message).operations.map .perform ++
          [.settle node name link message.target reach (behaviour net link message).verdict]) :=
  rfl

/-- All that a node adds to an operation by itself are messages to links and calls of
`transmit`. -/
theorem led_perform_cases {net : Network σ} {operation : Operation} {task : Task}
    (h : task ∈ (net.perform operation).2) :
    (∃ id name link message reach, task = .send id name link message reach) ∨
      ∃ id message deny, task = .perform (.transmit id message deny) := by
  have hBroadcast : ∀ id node message deny, task ∈ broadcastTasks id node message deny →
      ∃ id name link message reach, task = .send id name link message reach := by
    intro id node message deny hTask
    rw [broadcastTasks, List.mem_map] at hTask
    obtain ⟨entry, _, rfl⟩ := hTask
    exact ⟨id, entry.1, entry.2, _, .everyone, rfl⟩
  cases operation with
  | transmit id message deny =>
    simp only [perform] at h
    split at h
    · cases h
    · rename_i node _
      simp only [transmitTasks] at h
      split at h
      · split at h <;> cases h
      · split at h
        · exact .inl (hBroadcast _ _ _ _ h)
        · split at h
          · simp only [missing] at h
            split at h
            · exact .inr ⟨_, _, _, List.mem_singleton.1 h⟩
            · cases h
          · exact .inl ⟨_, _, _, _, _, List.mem_singleton.1 h⟩
  | broadcast id message deny =>
    simp only [perform] at h
    split at h
    · cases h
    · exact .inl (hBroadcast _ _ _ _ h)
  | add id name link | replace id name link | remove id name | removeIf id name link => cases h

end Network

end RobotBus
