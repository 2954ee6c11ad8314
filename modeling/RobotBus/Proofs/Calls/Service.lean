import RobotBus.Calls.Procedure
import RobotBus.Proofs.Calls.Numbering
import RobotBus.Proofs.Calls.Resolution
import RobotBus.Proofs.Routing.Bridged

/-!
# Services

A procedure at the last node of a walk over bridges, and a manager at the first node that invokes
it. Everything on the way takes its time: tasks are done in any order, runs of the procedure end in
any order and however they like, calls are looked after at any time, and strangers interfere. An
`Exchange` is the state of all this. Each task and each run knows the call that it serves, if there
is one, and hands that on to whatever it leads to; nothing depends on it.
-/

namespace RobotBus.Calls

/-- What a link is to a service. -/
inductive Role
  | bridge (bridge : Bridge)
  | procedure
  | endpoint
  | other

structure Service where
  endpoint : Landing
  walk : List Bridge
  procedure : Procedure
  /-- The link of the procedure. -/
  link : LinkId
  role : LinkId → Role
  isWalk : Walk endpoint.node walk procedure.node
  endpointName : Path.isLinkName endpoint.name = true
  procedureName : Path.isLinkName procedure.name = true
  bridgeNames : ∀ bridge ∈ walk,
    Path.isLinkName bridge.near.name = true ∧ Path.isLinkName bridge.far.name = true
  role_endpoint : role endpoint.link = .endpoint
  role_procedure : role link = .procedure
  role_bridges : ∀ bridge ∈ walk,
    role bridge.near.link = .bridge bridge ∧ role bridge.far.link = .bridge bridge.reverse

/-- What links keep: the manager, runs that are to be started, and whatever else there is. -/
structure Desk (τ : Type) where
  manager : Manager
  spawned : List Run := []
  others : τ

/-- What was asked of a call, and when. -/
structure Request where
  arguments : Bytes
  timeout : Duration
  issuedAt : Moment
deriving DecidableEq, Repr

/-- What is known of calls afterwards. -/
inductive Happening
  | invoked (call : Nat) (request : Request)
  | started (call : Nat) (arguments : Bytes)
  | concluded (call : Nat) (response : Response)
  | arrived (call : Nat) (result : Bytes)
  | ended (call : Nat) (outcome : Outcome)

/-- Something happens: the service is invoked, a task is done, a run ends, a call is looked after,
a stranger performs an operation, or time passes. -/
inductive Move
  | invoke (arguments : Bytes) (timeout : Duration)
  | work (index : Nat)
  | conclude (index : Nat) (response : Response)
  | poll (call : Nat)
  | intrude (operation : Operation)
  | wait (duration : Duration)

/-- Tasks and runs come with the number of the call that they serve. -/
structure Exchange (τ : Type) where
  net : Network (Desk τ)
  tasks : List (Option Nat × Task) := []
  runs : List (Option Nat × Run) := []
  log : List Happening := []

/-- The run, if its procedure responds in this way. -/
def Run.responding (run : Run) (response : Response) : Run :=
  { run with procedure := { run.procedure with respond := fun _ => response } }

def Happening.call : Happening → Nat
  | invoked call _ | started call _ | concluded call _ | arrived call _ | ended call _ => call

def Move.isInvoke : Move → Bool
  | invoke .. => true
  | _ => false

/-- What is told of a task or a run that serves a call. -/
def tell (label : Option Nat) (happenings : Nat → List Happening) : List Happening :=
  label.elim [] happenings

variable {τ : Type}

namespace Service

/-- The target of all calls: the names on the way, and that of the procedure. -/
def target (service : Service) : String :=
  Path.via (service.walk.map (·.near.name)) service.procedure.name

/-- What links do. The manager and the runs are out of reach for links that have no part in the
service. -/
def behave (service : Service) (others : Network (Desk τ) → LinkId → Message → Reaction τ) :
    Behaviour (Desk τ) := fun net link message =>
  match service.role link with
  | .bridge bridge =>
    if net.nodes.contains bridge.far.node then
      { links := net.links, operations := [bridge.crossing message (some bridge.far.link)] }
    else
      { links := net.links, verdict := .remove }
  | .procedure =>
    let (notices, run) := service.procedure.receive message
    { links := { net.links with spawned := net.links.spawned ++ run.toList }, notices }
  | .endpoint =>
    let (manager, notices) := net.links.manager.receive message net.now
    { links := { net.links with manager }, notices }
  | .other =>
    let reaction := others net link message
    { links := { net.links with others := reaction.links }
      notices := reaction.notices
      operations := reaction.operations
      verdict := reaction.verdict }

/-- The result that a task hands to the manager. -/
def reply? (service : Service) : Task → Option Bytes
  | .send _ _ link message _ =>
    match service.role link, Payload.tag? message.payload with
    | .endpoint, some .invokeReply => some (message.payload.drop 1)
    | _, _ => none
  | .perform _ | .settle .. => none

/-- Before anything is invoked. -/
def opening (service : Service) (net : Network τ) (timeout : Duration) : Exchange τ where
  net := {
    nodes := net.nodes
    now := net.now
    log := net.log
    links := { manager := Manager.start service.endpoint.name timeout, others := net.links } }

variable (service : Service) (others : Network (Desk τ) → LinkId → Message → Reaction τ)

def invoke (exchange : Exchange τ) (arguments : Bytes) (timeout : Duration) : Exchange τ :=
  let desk := exchange.net.links
  let now := exchange.net.now
  match desk.manager.begin service.target arguments timeout now with
  | none => exchange
  | some begun =>
    { exchange with
      net := { exchange.net with links := { desk with manager := begun.manager } }
      tasks := (some begun.call, .perform (.transmit service.endpoint.node begun.message none)) ::
        exchange.tasks
      log := exchange.log ++ [.invoked begun.call ⟨arguments, timeout, now⟩] }

/-- Does one of the tasks. The runs that it spawns serve the same call. -/
def work (exchange : Exchange τ) (index : Nat) : Exchange τ :=
  match exchange.tasks[index]? with
  | none => exchange
  | some (call, task) =>
    let (net, led) := exchange.net.step (service.behave others) task
    let runs := net.links.spawned
    { net := { net with links := { net.links with spawned := [] } }
      tasks := led.map (call, ·) ++ exchange.tasks.eraseIdx index
      runs := runs.map (call, ·) ++ exchange.runs
      log := exchange.log ++ tell call fun call =>
        runs.map (.started call ·.arguments) ++ (service.reply? task).toList.map (.arrived call) }

/-- Ends one of the runs with a response. -/
def conclude (exchange : Exchange τ) (index : Nat) (response : Response) : Exchange τ :=
  match exchange.runs[index]? with
  | none => exchange
  | some (call, run) =>
    let (_, reply) := (run.responding response).conclude
    let replies := reply.toList.map fun message =>
      Task.perform (.transmit run.procedure.node message none)
    { exchange with
      tasks := replies.map (call, ·) ++ exchange.tasks
      runs := exchange.runs.eraseIdx index
      log := exchange.log ++ tell call fun call => [.concluded call response] }

def poll (exchange : Exchange τ) (call : Nat) : Exchange τ :=
  let desk := exchange.net.links
  let (manager, _, outcome) := desk.manager.poll call exchange.net.now
  { exchange with
    net := { exchange.net with links := { desk with manager } }
    log := exchange.log ++ outcome.toList.map (.ended call) }

def step (exchange : Exchange τ) : Move → Exchange τ
  | .invoke arguments timeout => service.invoke exchange arguments timeout
  | .work index => service.work others exchange index
  | .conclude index response => conclude exchange index response
  | .poll call => poll exchange call
  | .intrude operation =>
    { exchange with tasks := (none, .perform operation) :: exchange.tasks }
  | .wait duration =>
    { exchange with net := { exchange.net with now := exchange.net.now + duration } }

def run (exchange : Exchange τ) (moves : List Move) : Exchange τ :=
  moves.foldl (service.step others) exchange

/-- Only replies change what the manager knows. -/
theorem manager_step (net : Network (Desk τ)) {task : Task} (h : service.reply? task = none) :
    (net.step (service.behave others) task).1.links.manager = net.links.manager := by
  cases task with
  | perform operation => exact congrArg Desk.manager (Network.links_perform net operation)
  | settle node name link target reach verdict =>
    exact congrArg Desk.manager (Network.links_settle net node name link target reach verdict)
  | send node name link message reach =>
    rw [Network.step_send, Network.links_react, behave]
    rw [reply?] at h
    cases hRole : service.role link with
    | bridge bridge =>
      simp only
      split <;> rfl
    | procedure => rfl
    | other => rfl
    | endpoint =>
      have hTag : Payload.tag? message.payload ≠ some .invokeReply := by
        intro hReply
        rw [hRole, hReply] at h
        cases h
      exact Manager.receive_ignored net.now (.inr (.inr (.inr hTag)))

/-- No task begins a call. -/
theorem started_step (net : Network (Desk τ)) (h : net.links.manager.Sound) (task : Task) :
    (net.step (service.behave others) task).1.links.manager.started =
      net.links.manager.started := by
  cases hReply : service.reply? task with
  | none => rw [service.manager_step others net hReply]
  | some result =>
    cases task with
    | perform | settle => cases hReply
    | send node name link message reach =>
      rw [Network.step_send, Network.links_react, behave]
      rw [reply?] at hReply
      cases hRole : service.role link with
      | endpoint => exact h.started_receive message net.now
      | bridge | procedure | other => simp only [hRole, reduceCtorEq] at hReply

/-- All links of the service are bound, and strangers have no replies for the manager. -/
structure Intact (exchange : Exchange τ) : Prop where
  bridges : ∀ bridge ∈ service.walk,
    exchange.net.Binds bridge.near ∧ exchange.net.Binds bridge.far
  procedure : exchange.net.Binds ⟨service.procedure.node, service.procedure.name, service.link⟩
  endpoint : exchange.net.Binds service.endpoint
  strangers : ∀ entry ∈ exchange.tasks, entry.1 = none → service.reply? entry.2 = none

instance (exchange : Exchange τ) : Decidable (service.Intact exchange) :=
  decidable_of_iff ((∀ bridge ∈ service.walk,
      exchange.net.Binds bridge.near ∧ exchange.net.Binds bridge.far) ∧
    exchange.net.Binds ⟨service.procedure.node, service.procedure.name, service.link⟩ ∧
    exchange.net.Binds service.endpoint ∧
    ∀ entry ∈ exchange.tasks, entry.1 = none → service.reply? entry.2 = none)
    ⟨fun ⟨hBridges, hProcedure, hEndpoint, hStrangers⟩ =>
      ⟨hBridges, hProcedure, hEndpoint, hStrangers⟩,
    fun h => ⟨h.bridges, h.procedure, h.endpoint, h.strangers⟩⟩

end Service

end RobotBus.Calls
