import RobotBus.Proofs.Routing.Binding
import RobotBus.Proofs.Transport.Origin
import RobotBus.Simulation.Step

/-!
# Fleets

Any number of transports, of all kinds, that share a network. Everybody takes steps in any order:
code asks nodes for something, nodes and links work on what they were asked for, which may be
anything and comes in no particular order, transports go on by themselves or with any input, and any
of them may have been stopped. A fleet begins with no node and no transport.

That a step of a transport is not interrupted is a premise: in one event it looks at its stop flag
or hears something, registers or removes its link, and leaves its messages to the nodes.

The links of a fleet are numbered as they are made, so that each connection has links of its own.
The history keeps what the nodes can not tell later: the operations on the links of a node, the
links that connections have registered, and the links that have asked to be removed.

`steps` lists what an event can do, and `step_turn` says what that is for bindings, transports and
history. What holds of all reachable fleets follows by cases on `Turn`.
-/

namespace RobotBus

/-- An operation with its result. -/
def Network.attempt {σ : Type} (net : Network σ) :
    Operation → Except BusError (Network σ × List Task)
  | .add id name link => (·, []) <$> net.addLink id name link
  | .replace id name link => (·, []) <$> net.replaceLink id name link
  | operation => .ok (net.perform operation)

namespace Transport

open Simulation (Machine)

/-! ## Fleets and their events -/

/-- What a history tells. -/
inductive Fleet.Mark
  /-- A link was added, replaced or removed, but not by a connection of its own. -/
  | edited (operation : Operation)
  | registered (landing : Landing)
  /-- A link has answered a message by asking to be removed. -/
  | refused (link : LinkId)
deriving DecidableEq, Repr

structure Fleet (σ : Type) where
  net : Network σ
  /-- What nodes and links still have to do. -/
  tasks : List Task := []
  members : List Machine := []
  /-- The number of the next link. -/
  fresh : LinkId := 0
  /-- The nodes that have a call manager of their own. -/
  endpoints : List NodeId := []
  history : List Fleet.Mark := []

/-- What code asks a node for. -/
inductive Request
  | operate (operation : Operation)
  /-- A link that is told about changes of the network. -/
  | subscribe (node : NodeId) (name : String)
  | publish (node : NodeId) (name : String) (runtime : Bool)
  /-- The call manager of the node. -/
  | manager (node : NodeId)
deriving DecidableEq, Repr

/-- A transport that somebody begins. -/
inductive Launch
  | connection (node : NodeId) (name : String) (config : Config) (announces : Bool)
    (leftover : Bytes)
  | client (node : NodeId) (name : String) (hint : Option String) (config : Config)
  | accepted (server : Server)
deriving DecidableEq, Repr

/-- The operation that a request comes down to, with a new link. -/
def Request.operation? (fresh : LinkId) : Request → Option Operation
  | operate operation => some operation
  | subscribe node name | publish node name _ => some (.add node name fresh)
  | manager _ => none

def Launch.machine? (fresh : LinkId) (now : Moment) : Launch → Option Machine
  | connection node name config announces leftover =>
    some (.connection (.start node name fresh config announces leftover now))
  | client node name hint config => (Client.start node name hint config).toOption.map .client
  | accepted server => some (.accepted server.accept.2)

namespace Fleet

variable {σ : Type}

inductive Event
  | create (id : NodeId)
  | request (request : Request)
  | launch (launch : Launch)
  | elapse (now : Moment)
  | work (index : Nat)
  | proceed (number : Nat) (stopped : Bool)
  | receive (number : Nat) (input : Input)
deriving DecidableEq, Repr

/-- A fleet without nodes and transports. -/
def start (links : σ) : Fleet σ where
  net := ⟨.empty, 0, [], links⟩

def registrationsOf (history : List Mark) : List Landing :=
  history.filterMap fun
    | .registered landing => some landing
    | _ => none

/-- The links that connections have registered so far, in order. -/
def registrations (fleet : Fleet σ) : List Landing :=
  registrationsOf fleet.history

def marksOf (operation : Operation) : List Mark :=
  if operation.edits?.isSome then [.edited operation] else []

/-- Carries out an operation that code has asked for. -/
def operate (fleet : Fleet σ) (operation : Operation) : Except BusError (Fleet σ) := do
  let (net, led) ← fleet.net.attempt operation
  return { fleet with
    net
    tasks := fleet.tasks ++ led
    fresh := fleet.fresh + 1
    history := fleet.history ++ marksOf operation }

/-- The manager of a node is made. Its link takes the place of whatever is bound to the endpoint. -/
def managed (fleet : Fleet σ) (node : NodeId) : Fleet σ :=
  let endpoint := Calls.Manager.defaultEndpoint
  { fleet with
    net := fleet.net.updateNode node (·.overwrite endpoint fleet.fresh)
    fresh := fleet.fresh + 1
    endpoints := node :: fleet.endpoints
    history := fleet.history ++ marksOf (.replace node endpoint fleet.fresh) }

/-- A manager is made when it is asked for the first time. -/
def ask (fleet : Fleet σ) : Request → Except BusError (Fleet σ)
  | .operate operation => fleet.operate operation
  | .subscribe node name => fleet.operate (.add node name fleet.fresh)
  | .publish node name runtime =>
    if runtime then fleet.operate (.add node name fleet.fresh)
    else .error (.noRuntime Simulation.runtimeAbsence)
  | .manager node => .ok (if node ∈ fleet.endpoints then fleet else fleet.managed node)

/-- What a task leaves in the history. -/
def marksOfTask (behaviour : Behaviour σ) (net : Network σ) : Task → List Mark
  | .perform operation => marksOf operation
  | .send _ _ link message _ =>
    if (behaviour net link message).verdict = .remove then [.refused link] else []
  | .settle .. => []

/-- Does one of the tasks. -/
def work (behaviour : Behaviour σ) (fleet : Fleet σ) (index : Nat) (task : Task) : Fleet σ :=
  let (net, led) := fleet.net.step behaviour task
  { fleet with
    net
    tasks := fleet.tasks.eraseIdx index ++ led
    history := fleet.history ++ marksOfTask behaviour fleet.net task }

/-- A transport has done something. Its link is registered and removed at once, and messages are
left to the node. -/
def act (fleet : Fleet σ) (number : Nat) (done : Machine × List Effect) : Fleet σ :=
  let performed := operations done.2
  { fleet with
    net := (performed.filter (·.edits?.isSome)).foldl (fun net edit => (net.perform edit).1)
      fleet.net
    tasks := fleet.tasks ++ (performed.filter (·.edits?.isNone)).map .perform
    members := fleet.members.set number done.1
    history := fleet.history ++
      performed.filterMap fun operation => operation.binding?.map .registered }

/-- An event for which there is nobody changes nothing, and neither does a request that fails. -/
def step (behaviour : Behaviour σ) (fleet : Fleet σ) : Event → Fleet σ
  | .create id =>
    if fleet.net.nodes.contains id then fleet
    else { fleet with net := fleet.net.setNode id {} }
  | .request request => (fleet.ask request).toOption.getD fleet
  | .launch launch =>
    match launch.machine? fleet.fresh fleet.net.now with
    | none => fleet
    | some machine =>
      if fleet.net.nodes.contains machine.node then
        { fleet with members := fleet.members ++ [machine], fresh := fleet.fresh + 2 }
      else
        fleet
  | .elapse now => { fleet with net := { fleet.net with now } }
  | .work index =>
    match fleet.tasks[index]? with
    | none => fleet
    | some task => fleet.work behaviour index task
  | .proceed number stopped =>
    match fleet.members[number]? with
    | none => fleet
    | some machine => fleet.act number (machine.proceed fleet.net.now stopped)
  | .receive number input =>
    match fleet.members[number]? with
    | none => fleet
    | some machine =>
      { fleet.act number (machine.receive fleet.net.now fleet.fresh input) with
        fresh := fleet.fresh + 2 }

def run (behaviour : Behaviour σ) (fleet : Fleet σ) (events : List Event) : Fleet σ :=
  events.foldl (step behaviour) fleet

/-- What holds of a new fleet and is kept by each event holds of all reachable fleets. -/
theorem run_induction (behaviour : Behaviour σ) {P : Fleet σ → Prop}
    (hStep : ∀ fleet event, P fleet → P (step behaviour fleet event)) {fleet : Fleet σ}
    (h : P fleet) (events : List Event) : P (fleet.run behaviour events) := by
  induction events generalizing fleet with
  | nil => exact h
  | cons event events ih => exact ih (hStep fleet event h)

/-- What one event can do, if there is somebody for it. -/
inductive Steps (behaviour : Behaviour σ) (fleet : Fleet σ) : Event → Fleet σ → Prop
  | nothing (event : Event) : Steps behaviour fleet event fleet
  | create {id : NodeId} : ¬fleet.net.nodes.contains id = true →
    Steps behaviour fleet (.create id) { fleet with net := fleet.net.setNode id {} }
  | request {request : Request} {next : Fleet σ} : fleet.ask request = .ok next →
    Steps behaviour fleet (.request request) next
  | launch {launch : Launch} {machine : Machine} :
    launch.machine? fleet.fresh fleet.net.now = some machine →
    fleet.net.nodes.contains machine.node = true → Steps behaviour fleet (.launch launch)
      { fleet with members := fleet.members ++ [machine], fresh := fleet.fresh + 2 }
  | elapse (now : Moment) :
    Steps behaviour fleet (.elapse now) { fleet with net := { fleet.net with now } }
  | work {index : Nat} {task : Task} : fleet.tasks[index]? = some task →
    Steps behaviour fleet (.work index) (fleet.work behaviour index task)
  | proceed {number : Nat} {machine : Machine} (stopped : Bool) :
    fleet.members[number]? = some machine → Steps behaviour fleet (.proceed number stopped)
      (fleet.act number (machine.proceed fleet.net.now stopped))
  | receive {number : Nat} {machine : Machine} (input : Input) :
    fleet.members[number]? = some machine → Steps behaviour fleet (.receive number input)
      { fleet.act number (machine.receive fleet.net.now fleet.fresh input) with
        fresh := fleet.fresh + 2 }

theorem steps (behaviour : Behaviour σ) (fleet : Fleet σ) (event : Event) :
    Steps behaviour fleet event (fleet.step behaviour event) := by
  cases event with
  | create id =>
    rw [step]
    split
    · exact .nothing _
    · rename_i hFree
      exact .create hFree
  | request request =>
    rw [step]
    cases hAsk : fleet.ask request with
    | error cause => exact .nothing _
    | ok next => exact .request hAsk
  | launch launch =>
    rw [step]
    split
    · exact .nothing _
    · rename_i machine hMachine
      split
      · rename_i hNode
        exact .launch hMachine hNode
      · exact .nothing _
  | elapse now => exact .elapse now
  | work index =>
    rw [step]
    split
    · exact .nothing _
    · rename_i task hTask
      exact .work hTask
  | proceed number stopped =>
    rw [step]
    split
    · exact .nothing _
    · rename_i machine hMachine
      exact .proceed stopped hMachine
  | receive number input =>
    rw [step]
    split
    · exact .nothing _
    · rename_i machine hMachine
      exact .receive input hMachine

end Fleet

end Transport

/-! ## Operations with results -/

namespace Network

variable {σ : Type} {net : Network σ}

theorem perform_of_attempt {operation : Operation} {net' : Network σ} {led : List Task}
    (h : net.attempt operation = .ok (net', led)) : net.perform operation = (net', led) := by
  cases operation with
  | add id name link =>
    rw [attempt] at h
    rw [perform]
    cases hAdd : net.addLink id name link with
    | error cause =>
      rw [hAdd] at h
      cases h
    | ok changed =>
      rw [hAdd] at h
      cases h
      rfl
  | replace id name link =>
    rw [attempt] at h
    rw [perform]
    cases hReplace : net.replaceLink id name link with
    | error cause =>
      rw [hReplace] at h
      cases h
    | ok changed =>
      rw [hReplace] at h
      cases h
      rfl
  | transmit id message deny | broadcast id message deny | remove id name
  | removeIf id name link => exact Except.ok.inj h

end Network

/-- The link that a task is about to remove because it has asked for that. -/
def Task.refusal? : Task → Option LinkId
  | .settle _ _ link _ _ .remove => some link
  | _ => none

namespace Network

variable {σ : Type} {net : Network σ}

/-- To route a message removes nothing. -/
theorem refusal?_of_perform {operation : Operation} {task : Task}
    (h : task ∈ (net.perform operation).2) : task.refusal? = none := by
  rcases led_perform_cases h with ⟨id, name, link, message, reach, rfl⟩ | ⟨id, message, deny, rfl⟩
  · rfl
  · rfl

end Network

namespace Transport

open Simulation (Machine)

namespace Fleet

variable {σ : Type} {behaviour : Behaviour σ} {fleet next : Fleet σ}

/-! ## Requests that succeed -/

/-- The fleet after an operation that code has asked for. -/
def operated (fleet : Fleet σ) (operation : Operation) : Fleet σ :=
  let (net, led) := fleet.net.perform operation
  { fleet with
    net
    tasks := fleet.tasks ++ led
    fresh := fleet.fresh + 1
    history := fleet.history ++ marksOf operation }

theorem operate_eq {operation : Operation} (h : fleet.operate operation = .ok next) :
    next = fleet.operated operation := by
  rw [operate] at h
  cases hAttempt : fleet.net.attempt operation with
  | error cause =>
    rw [hAttempt] at h
    cases h
  | ok done =>
    rw [hAttempt] at h
    rw [operated, Network.perform_of_attempt hAttempt]
    exact (Except.ok.inj h).symm

/-- What a request that succeeds can do. -/
inductive Asks (fleet : Fleet σ) : Request → Fleet σ → Prop
  /-- The node has its manager already. -/
  | nothing (node : NodeId) : Asks fleet (.manager node) fleet
  | operate {request : Request} {operation : Operation} :
    request.operation? fleet.fresh = some operation → Asks fleet request (fleet.operated operation)
  | manage (node : NodeId) : Asks fleet (.manager node) (fleet.managed node)

theorem asks {request : Request} (h : fleet.ask request = .ok next) : Asks fleet request next := by
  cases request with
  | operate operation | subscribe node name =>
    rw [operate_eq h]
    exact .operate rfl
  | publish node name runtime =>
    cases runtime with
    | true =>
      rw [operate_eq h]
      exact .operate rfl
    | false => cases h
  | manager node =>
    rw [ask] at h
    split at h
    · cases h
      exact .nothing node
    · cases h
      exact .manage node

/-! ## Links that have asked to be removed -/

/-- A link that is about to be removed because it has asked for that has asked for it. -/
def Settled (fleet : Fleet σ) : Prop :=
  ∀ task ∈ fleet.tasks, ∀ link, task.refusal? = some link → .refused link ∈ fleet.history

/-- A fleet stays settled if what is added to the tasks removes no link. -/
theorem Settled.of_led (h : Settled fleet) (led : List Task) {marks : List Mark}
    (hTasks : ∀ task ∈ next.tasks, task ∈ fleet.tasks ∨ task ∈ led)
    (hLed : ∀ task ∈ led, ∀ link, task.refusal? = some link → .refused link ∈ marks)
    (hHistory : next.history = fleet.history ++ marks) : Settled next := by
  intro task hTask link hLink
  rw [hHistory, List.mem_append]
  rcases hTasks task hTask with hOld | hNew
  · exact .inl (h task hOld link hLink)
  · exact .inr (hLed task hNew link hLink)

theorem settled_ask (h : Settled fleet) {request : Request} (hNext : fleet.ask request = .ok next) :
    Settled next := by
  cases asks hNext with
  | nothing => exact h
  | manage => exact h.of_led [] (fun task hTask => .inl hTask) (List.forall_mem_nil _) rfl
  | @operate _ operation =>
    refine h.of_led (fleet.net.perform operation).2 (fun task => List.mem_append.1) ?_ rfl
    intro task hTask link hLink
    rw [Network.refusal?_of_perform hTask] at hLink
    cases hLink

theorem settled_work (h : Settled fleet) (index : Nat) (task : Task) :
    Settled (fleet.work behaviour index task) := by
  refine h.of_led (fleet.net.step behaviour task).2 ?_ ?_ rfl
  · intro other hOther
    rcases List.mem_append.1 hOther with hOld | hNew
    · exact .inl (List.mem_of_mem_eraseIdx hOld)
    · exact .inr hNew
  · intro other hOther link hLink
    cases task with
    | perform operation =>
      rw [Network.refusal?_of_perform hOther] at hLink
      cases hLink
    | settle id name link' target reach verdict => cases hOther
    | send id name link' message reach =>
      rw [Network.step_send, List.mem_append, List.mem_map, List.mem_singleton] at hOther
      rcases hOther with ⟨operation, _, rfl⟩ | rfl
      · cases hLink
      · rw [marksOfTask]
        cases hVerdict : (behaviour fleet.net link' message).verdict with
        | keep | fault text =>
          rw [hVerdict] at hLink
          cases hLink
        | remove =>
          rw [hVerdict] at hLink
          cases hLink
          exact List.mem_singleton_self _

theorem settled_act (h : Settled fleet) (number : Nat) (done : Machine × List Effect) :
    Settled (fleet.act number done) := by
  refine h.of_led _ (fun task => List.mem_append.1) ?_ rfl
  intro task hTask link hLink
  obtain ⟨operation, _, rfl⟩ := List.mem_map.1 hTask
  cases hLink

theorem settled_step (behaviour : Behaviour σ) (h : Settled fleet) (event : Event) :
    Settled (fleet.step behaviour event) := by
  have hSteps := steps behaviour fleet event
  generalize fleet.step behaviour event = next at hSteps ⊢
  cases hSteps with
  | nothing | create | launch | elapse => exact h
  | request hAsk => exact settled_ask h hAsk
  | work => exact settled_work h _ _
  | proceed => exact settled_act h _ _
  | @receive number machine input =>
    exact settled_act h number (machine.receive fleet.net.now fleet.fresh input)

/-! ## Turns -/

/-- What no event takes away: nodes, link numbers that were given, and marks of the history. -/
structure Keeps (fleet next : Fleet σ) : Prop where
  nodes : ∀ id, fleet.net.nodes.contains id = true → next.net.nodes.contains id = true
  fresh : fleet.fresh ≤ next.fresh
  history : ∀ mark ∈ fleet.history, mark ∈ next.history

/-- A transport has taken a step: it has registered what it was going to register, and has nothing
else to register than before, or a fresh link. -/
structure Succeeds (fleet next : Fleet σ) (number : Nat) (before after : Machine) : Prop where
  taken : fleet.members[number]? = some before
  put : next.members = fleet.members.set number after
  node : after.node = before.node
  landing : ∀ landing, after.landing? = some landing →
    before.landing? = some landing ∨ before.arriving? = some landing
  arriving : ∀ landing, after.arriving? = some landing → before.arriving? = some landing ∨
    landing.node = before.node ∧ fleet.fresh ≤ landing.link ∧ landing.link < next.fresh

/-- Bindings are those after an operation. -/
def BoundBy (fleet next : Fleet σ) (operation : Operation) : Prop :=
  ∀ id name, next.net.linkAt id name = (fleet.net.perform operation).1.linkAt id name

/-- **What one event does to bindings, transports and registrations.** -/
inductive Turn (fleet next : Fleet σ) : Prop
  | idle : (∀ id name, next.net.linkAt id name = fleet.net.linkAt id name) →
    next.members = fleet.members → next.registrations = fleet.registrations → Turn fleet next
  | join (machine : Machine) :
    (∀ id name, next.net.linkAt id name = fleet.net.linkAt id name) →
    next.members = fleet.members ++ [machine] → next.registrations = fleet.registrations →
    machine.landing? = none → fleet.net.nodes.contains machine.node = true →
    (∀ landing, machine.arriving? = some landing →
      landing.node = machine.node ∧ fleet.fresh ≤ landing.link ∧ landing.link < next.fresh) →
    Turn fleet next
  /-- A link is added, replaced or removed, but not by a connection of its own. -/
  | edit (operation : Operation) : .edited operation ∈ next.history →
    BoundBy fleet next operation →
    next.members = fleet.members → next.registrations = fleet.registrations → Turn fleet next
  /-- A link is removed because it has asked for that. -/
  | refuse (id : NodeId) (name : String) (link : LinkId) : .refused link ∈ fleet.history →
    BoundBy fleet next (.removeIf id name link) →
    next.members = fleet.members → next.registrations = fleet.registrations → Turn fleet next
  | stay (number : Nat) (before after : Machine) : Succeeds fleet next number before after →
    (∀ id name, next.net.linkAt id name = fleet.net.linkAt id name) →
    after.landing? = before.landing? → next.registrations = fleet.registrations → Turn fleet next
  | land (number : Nat) (before after : Machine) (landing : Landing) :
    Succeeds fleet next number before after →
    BoundBy fleet next (.replace landing.node landing.name landing.link) →
    before.arriving? = some landing → after.landing? = some landing →
    next.registrations = fleet.registrations ++ [landing] → Turn fleet next
  | leave (number : Nat) (before after : Machine) (landing : Landing) :
    Succeeds fleet next number before after →
    BoundBy fleet next (.removeIf landing.node landing.name landing.link) →
    before.landing? = some landing → after.landing? = none →
    next.registrations = fleet.registrations → Turn fleet next

theorem registrationsOf_append (history marks : List Mark) :
    registrationsOf (history ++ marks) = registrationsOf history ++ registrationsOf marks :=
  List.filterMap_append

theorem registrations_of_append {marks : List Mark} (h : next.history = fleet.history ++ marks) :
    next.registrations = fleet.registrations ++ registrationsOf marks := by
  rw [registrations, h, registrationsOf_append]
  rfl

theorem registrationsOf_marksOf (operation : Operation) :
    registrationsOf (marksOf operation) = [] := by
  rw [marksOf]
  split <;> rfl

theorem registrationsOf_marksOfTask (behaviour : Behaviour σ) (net : Network σ) (task : Task) :
    registrationsOf (marksOfTask behaviour net task) = [] := by
  cases task with
  | perform operation => exact registrationsOf_marksOf operation
  | send id name link message reach =>
    rw [marksOfTask]
    split <;> rfl
  | settle id name link target reach verdict => rfl

theorem registrations_eq {marks : List Mark} (h : next.history = fleet.history ++ marks)
    (hMarks : registrationsOf marks = []) : next.registrations = fleet.registrations := by
  rw [registrations_of_append h, hMarks, List.append_nil]

/-- To perform an operation edits what it is about, or nothing. -/
theorem turn_of_perform {operation : Operation} (hBound : BoundBy fleet next operation)
    (hHistory : next.history = fleet.history ++ marksOf operation)
    (hMembers : next.members = fleet.members) : Turn fleet next := by
  have hSame := registrations_eq hHistory (registrationsOf_marksOf operation)
  cases hEdits : operation.edits? with
  | none =>
    refine .idle ?_ hMembers hSame
    intro id name
    rw [hBound id name, Network.linkAt_perform_of_ne]
    rw [hEdits]
    exact nofun
  | some edited =>
    refine .edit operation ?_ hBound hMembers hSame
    rw [hHistory, marksOf, hEdits]
    exact List.mem_append_right _ (List.mem_singleton_self _)

/-! ### Requests -/

theorem isLinkName_defaultEndpoint : Path.isLinkName Calls.Manager.defaultEndpoint = true := by
  decide +kernel

/-- The endpoint of a manager is a link name, although nobody looks at that. -/
theorem linkAt_overwrite_endpoint (net : Network σ) (node : NodeId) (link : LinkId) (id : NodeId)
    (name : String) :
    (net.updateNode node (·.overwrite Calls.Manager.defaultEndpoint link)).linkAt id name =
      (net.perform (.replace node Calls.Manager.defaultEndpoint link)).1.linkAt id name := by
  rw [Network.linkAt_replace, Network.linkAt_updateNode]
  by_cases hId : node = id
  · subst hId
    rw [if_pos rfl]
    cases hNode : net.nodes.get? node with
    | none => simp [Bindings.contains, hNode, Network.linkAt]
    | some found =>
      simp [Bindings.contains, hNode, Network.linkAt, Node.overwrite, Bindings.get?_insert,
        isLinkName_defaultEndpoint]
  · simp [hId]

theorem turn_ask {request : Request} (h : fleet.ask request = .ok next) : Turn fleet next := by
  cases asks h with
  | nothing => exact .idle (fun id name => rfl) rfl rfl
  | operate => exact turn_of_perform (fun id name => rfl) rfl rfl
  | manage node =>
    exact turn_of_perform (fun id name => linkAt_overwrite_endpoint fleet.net node _ id name) rfl
      rfl

/-! ### Tasks -/

theorem turn_work (hSettled : Settled fleet) (index : Nat) {task : Task}
    (hTask : task ∈ fleet.tasks) :
    Turn fleet (fleet.work behaviour index task) := by
  have hSame : (fleet.work behaviour index task).registrations = fleet.registrations :=
    registrations_eq rfl (registrationsOf_marksOfTask behaviour fleet.net task)
  cases task with
  | perform operation => exact turn_of_perform (fun id name => rfl) rfl rfl
  | send id name link message reach =>
    refine .idle ?_ rfl hSame
    intro id' name'
    exact Network.linkAt_of_nodes (Network.nodes_react fleet.net behaviour link message) id' name'
  | settle id name link target reach verdict =>
    cases verdict with
    | keep | fault text => exact .idle (fun id' name' => rfl) rfl hSame
    | remove =>
      refine .refuse id name link (hSettled _ hTask link rfl) ?_ rfl hSame
      intro id' name'
      exact Network.linkAt_of_nodes rfl id' name'

/-! ### Transports -/

theorem edits?_of_isTransmission {operation : Operation} (h : IsTransmission operation) :
    operation.edits? = none := by
  obtain ⟨node, message, deny, rfl⟩ := h
  rfl

theorem binding?_of_isTransmission {operation : Operation} (h : IsTransmission operation) :
    operation.binding? = none := by
  obtain ⟨node, message, deny, rfl⟩ := h
  rfl

/-- What a transport says leaves bindings and registrations alone. -/
theorem filter_edits_of_transmissions {performed : List Operation}
    (h : ∀ operation ∈ performed, IsTransmission operation) :
    performed.filter (·.edits?.isSome) = [] := by
  rw [List.filter_eq_nil_iff]
  intro operation hOperation
  rw [edits?_of_isTransmission (h operation hOperation)]
  exact Bool.false_ne_true

theorem filterMap_binding_of_transmissions {performed : List Operation}
    (h : ∀ operation ∈ performed, IsTransmission operation) :
    performed.filterMap (fun operation => operation.binding?.map Mark.registered) = [] := by
  rw [List.filterMap_eq_nil_iff]
  intro operation hOperation
  rw [binding?_of_isTransmission (h operation hOperation)]
  rfl

/-- **What a step of a transport does to bindings and registrations**: nothing, or it registers its
link, or it removes it. -/
theorem act_cases (fleet : Fleet σ) (number : Nat) {before : Machine}
    {done : Machine × List Effect} {stopped : Bool}
    (hMoves : Moves stopped before.landing? (operations done.2) done.1.landing?) :
    ((∀ id name, (fleet.act number done).net.linkAt id name = fleet.net.linkAt id name) ∧
      done.1.landing? = before.landing? ∧
      (fleet.act number done).registrations = fleet.registrations) ∨
    (∃ landing : Landing,
      BoundBy fleet (fleet.act number done) (.replace landing.node landing.name landing.link) ∧
      before.landing? = none ∧ done.1.landing? = some landing ∧
      (fleet.act number done).registrations = fleet.registrations ++ [landing]) ∨
    (∃ landing : Landing,
      BoundBy fleet (fleet.act number done) (.removeIf landing.node landing.name landing.link) ∧
      before.landing? = some landing ∧ done.1.landing? = none ∧
      (fleet.act number done).registrations = fleet.registrations) := by
  have hRegistrations : (fleet.act number done).registrations = fleet.registrations ++
      registrationsOf ((operations done.2).filterMap
        fun operation => operation.binding?.map .registered) := registrations_of_append rfl
  have hNet : (fleet.act number done).net = ((operations done.2).filter (·.edits?.isSome)).foldl
      (fun net edit => (net.perform edit).1) fleet.net := rfl
  generalize before.landing? = landed at hMoves ⊢
  generalize done.1.landing? = landing at hMoves ⊢
  generalize operations done.2 = performed at hMoves hRegistrations hNet
  cases hMoves with
  | stay =>
    refine .inl ⟨?_, rfl, hRegistrations.trans (List.append_nil _)⟩
    intro id name
    exact Network.linkAt_of_nodes (congrArg Network.nodes hNet) id name
  | speak landing _ hTransmission =>
    have hOnly := List.forall_mem_singleton.2 hTransmission
    rw [filter_edits_of_transmissions hOnly] at hNet
    rw [filterMap_binding_of_transmissions hOnly] at hRegistrations
    refine .inl ⟨?_, rfl, hRegistrations.trans (List.append_nil _)⟩
    intro id name
    exact Network.linkAt_of_nodes (congrArg Network.nodes hNet) id name
  | @land landing performed _ hTransmissions =>
    rw [List.filter_cons_of_pos rfl, filter_edits_of_transmissions hTransmissions] at hNet
    have hMarks : (.replace landing.node landing.name landing.link :: performed).filterMap
        (fun operation => operation.binding?.map Mark.registered) = [.registered landing] := by
      have hFirst : (Operation.replace landing.node landing.name landing.link).binding?.map
          Mark.registered = some (.registered landing) := rfl
      simp only [List.filterMap_cons, hFirst, filterMap_binding_of_transmissions hTransmissions]
    rw [hMarks] at hRegistrations
    refine .inr (.inl ⟨landing, ?_, rfl, rfl, hRegistrations⟩)
    intro id name
    exact Network.linkAt_of_nodes (congrArg Network.nodes hNet) id name
  | leave landing =>
    refine .inr (.inr ⟨landing, ?_, rfl, rfl, hRegistrations.trans (List.append_nil _)⟩)
    intro id name
    exact Network.linkAt_of_nodes (congrArg Network.nodes hNet) id name

theorem turn_act (fresh : LinkId) {number : Nat} {before : Machine} {done : Machine × List Effect}
    {stopped : Bool} (hMoves : Moves stopped before.landing? (operations done.2) done.1.landing?)
    (hSucceeds : Succeeds fleet { fleet.act number done with fresh } number before done.1) :
    Turn fleet { fleet.act number done with fresh } := by
  rcases act_cases fleet number hMoves with
    ⟨hSame, hLanding, hRegistrations⟩ | ⟨landing, hBound, hBefore, hAfter, hNew⟩ |
      ⟨landing, hBound, hBefore, hAfter, hRegistrations⟩
  · exact .stay number before done.1 hSucceeds hSame hLanding hRegistrations
  · refine .land number before done.1 landing hSucceeds hBound ?_ hAfter hNew
    rcases hSucceeds.landing landing hAfter with hOld | hArriving
    · rw [hBefore] at hOld
      cases hOld
    · exact hArriving
  · exact .leave number before done.1 landing hSucceeds hBound hBefore hAfter hRegistrations

theorem turn_proceed {number : Nat} {machine : Machine}
    (h : fleet.members[number]? = some machine) (now : Moment) (stopped : Bool) :
    Turn fleet (fleet.act number (machine.proceed now stopped)) := by
  refine turn_act fleet.fresh (machine.moves_proceed now stopped) ⟨h, rfl, ?_, ?_, ?_⟩
  · exact machine.node_proceed now stopped
  · intro landing hLanding
    exact Machine.landing?_of_proceed hLanding
  · intro landing hArriving
    rw [machine.arriving?_proceed] at hArriving
    cases hArriving

theorem turn_receive {number : Nat} {machine : Machine}
    (h : fleet.members[number]? = some machine) (now : Moment) (input : Input) :
    Turn fleet { fleet.act number (machine.receive now fleet.fresh input) with
      fresh := fleet.fresh + 2 } := by
  refine turn_act (fleet.fresh + 2) (machine.moves_receive now false fleet.fresh input)
    ⟨h, rfl, ?_, ?_, ?_⟩
  · exact machine.node_receive now fleet.fresh input
  · intro landing hLanding
    exact .inl (Machine.landing?_of_receive hLanding)
  · intro landing hArriving
    exact Machine.arriving?_of_receive hArriving

/-- A transport that was begun has at most a link to register, with a fresh number. -/
theorem arriving?_of_launch {launch : Launch} {fresh : LinkId} {now : Moment} {machine : Machine}
    (h : launch.machine? fresh now = some machine) {landing : Landing}
    (hArriving : machine.arriving? = some landing) :
    landing.node = machine.node ∧ fresh ≤ landing.link ∧ landing.link < fresh + 2 := by
  cases launch with
  | connection node name config announces leftover =>
    cases h
    cases hArriving
    exact ⟨rfl, Ends.link_ofFresh fresh config.traceFrames⟩
  | client node name hint config =>
    cases hStart : Client.start node name hint config with
    | error cause =>
      rw [Launch.machine?, hStart] at h
      cases h
    | ok client =>
      rw [Launch.machine?, hStart] at h
      cases h
      have hNone : client.connection? = none := by
        rw [Client.connection?, Client.stage_of_start hStart]
      obtain ⟨connection, hConnection, _⟩ := Machine.arriving?_eq_some_iff.1 hArriving
      cases hNone.symm.trans hConnection
  | accepted server =>
    cases h
    cases hArriving

theorem isNew_of_launch {launch : Launch} {fresh : LinkId} {now : Moment} {machine : Machine}
    (h : launch.machine? fresh now = some machine) : machine.IsNew := by
  cases launch with
  | connection node name config announces leftover =>
    cases h
    exact .connection _ _ _ _ _ _ _
  | client node name hint config =>
    cases hStart : Client.start node name hint config with
    | error cause =>
      rw [Launch.machine?, hStart] at h
      cases h
    | ok client =>
      rw [Launch.machine?, hStart] at h
      cases h
      exact .client hStart
  | accepted server =>
    cases h
    exact .accepted server

/-- A new node has no bindings. -/
theorem linkAt_create {net : Network σ} {id : NodeId} (h : ¬net.nodes.contains id = true)
    (id' : NodeId) (name : String) : (net.setNode id {}).linkAt id' name = net.linkAt id' name := by
  rw [Network.linkAt_setNode]
  split
  · rename_i hSame
    have hNone : net.nodes.get? id' = none := by
      simpa [Bindings.contains, hSame] using h
    rw [Network.linkAt, hNone]
    rfl
  · rfl

/-! ### All events -/

/-- **Every event is a turn.** -/
theorem step_turn (behaviour : Behaviour σ) (hSettled : Settled fleet) (event : Event) :
    Turn fleet (fleet.step behaviour event) := by
  have hSteps := steps behaviour fleet event
  generalize fleet.step behaviour event = next at hSteps ⊢
  cases hSteps with
  | nothing | elapse => exact .idle (fun id name => rfl) rfl rfl
  | create hFree => exact .idle (fun id name => linkAt_create hFree id name) rfl rfl
  | request hAsk => exact turn_ask hAsk
  | @launch _ machine hMachine hNode =>
    exact .join machine (fun id name => rfl) rfl rfl (isNew_of_launch hMachine).landing? hNode
      fun landing hArriving => arriving?_of_launch hMachine hArriving
  | work hTask => exact turn_work hSettled _ (List.mem_of_getElem? hTask)
  | proceed stopped hMachine => exact turn_proceed hMachine fleet.net.now stopped
  | receive input hMachine => exact turn_receive hMachine fleet.net.now input

theorem contains_edit (net : Network σ) (edits : List Operation) (id : NodeId) :
    (edits.foldl (fun net edit => (net.perform edit).1) net).nodes.contains id =
      net.nodes.contains id := by
  induction edits generalizing net with
  | nil => rfl
  | cons edit edits ih =>
    rw [List.foldl_cons, ih, Network.contains_perform]

theorem keeps_refl (fleet : Fleet σ) : Keeps fleet fleet :=
  ⟨fun _ => id, Nat.le_refl _, fun _ => id⟩

theorem keeps_ask {request : Request} (h : fleet.ask request = .ok next) : Keeps fleet next := by
  cases asks h with
  | nothing => exact keeps_refl fleet
  | @operate _ operation =>
    refine ⟨?_, Nat.le_succ _, fun mark => List.mem_append_left _⟩
    intro id hId
    show (fleet.net.perform operation).1.nodes.contains id = true
    rw [Network.contains_perform]
    exact hId
  | manage node =>
    refine ⟨?_, Nat.le_succ _, fun mark => List.mem_append_left _⟩
    intro id hId
    show (fleet.net.updateNode node _).nodes.contains id = true
    rw [Network.contains_updateNode]
    exact hId

theorem keeps_act (fleet : Fleet σ) (number : Nat) (done : Machine × List Effect) {fresh : LinkId}
    (h : fleet.fresh ≤ fresh) : Keeps fleet { fleet.act number done with fresh } := by
  refine ⟨?_, h, fun mark => List.mem_append_left _⟩
  intro id hId
  show (List.foldl _ fleet.net _).nodes.contains id = true
  rw [contains_edit]
  exact hId

theorem keeps_work (behaviour : Behaviour σ) (fleet : Fleet σ) (index : Nat) (task : Task) :
    Keeps fleet (fleet.work behaviour index task) := by
  refine ⟨?_, Nat.le_refl _, fun mark => List.mem_append_left _⟩
  intro id hId
  show (fleet.net.step behaviour task).1.nodes.contains id = true
  rw [Network.contains_step]
  exact hId

/-- **Every event keeps nodes, numbers and marks.** -/
theorem keeps_step (behaviour : Behaviour σ) (fleet : Fleet σ) (event : Event) :
    Keeps fleet (fleet.step behaviour event) := by
  have hSteps := steps behaviour fleet event
  generalize fleet.step behaviour event = next at hSteps ⊢
  cases hSteps with
  | nothing => exact keeps_refl fleet
  | create => exact ⟨fun id hId => Network.contains_setNode _ {} hId, Nat.le_refl _, fun _ => id⟩
  | request hAsk => exact keeps_ask hAsk
  | launch => exact ⟨fun _ => id, Nat.le_add_right _ _, fun _ => id⟩
  | elapse => exact ⟨fun _ => id, Nat.le_refl _, fun _ => id⟩
  | work => exact keeps_work behaviour fleet _ _
  | proceed => exact keeps_act fleet _ _ (Nat.le_refl _)
  | receive => exact keeps_act fleet _ _ (Nat.le_add_right _ _)

end Fleet

end Transport

end RobotBus
