import RobotBus.Proofs.Calls.Numbering
import RobotBus.Proofs.Calls.Service

/-!
# Journeys

A message on its way over a walk, to a link at the last node. Wherever it is, there is one task that
takes it on (`Journey.IsTask`), and this task leads to one such task again, until the message is
handed to its link (`Journey.advance`). The invocation of a call and its reply are on journeys of
this kind, one of them the way back of the other.
-/

namespace RobotBus.Calls

/-- A message to a link at the end of a walk, with what the link will get as its target, and with
the source and the payload at the start. -/
structure Journey where
  walk : List Bridge
  goal : Landing
  rest : Option String
  source : Option String
  payload : Bytes

/-- Tasks that take a message on, other than what is left to do for the links on its way. -/
def isLive : Task → Bool
  | .perform _ | .send .. => true
  | .settle .. => false

namespace Journey

/-- The message between what lies behind it and what lies before it. -/
def message (journey : Journey) (before after : List Bridge) : Message :=
  ⟨Path.along (after.map (·.near.name)) (some (Path.through journey.goal.name journey.rest)),
    Path.along (before.reverse.map (·.far.name)) journey.source, journey.payload⟩

/-- The message as its link gets it. -/
def final (journey : Journey) : Message :=
  ⟨journey.rest, Path.along (journey.walk.reverse.map (·.far.name)) journey.source,
    journey.payload⟩

def arrival (journey : Journey) : Task :=
  .send journey.goal.node journey.goal.name journey.goal.link journey.final .direct

/-- A task that takes the message on: it is routed at a node, or sent over a bridge, or it has
arrived. -/
inductive IsTask (journey : Journey) : Task → Prop
  | transmit (before after : List Bridge) (hSplit : before ++ after = journey.walk)
      (node : NodeId) (hWalk : Walk node after journey.goal.node) (deny : Option LinkId) :
      IsTask journey (.perform (.transmit node (journey.message before after) deny))
  | cross (before : List Bridge) (bridge : Bridge) (after : List Bridge)
      (hSplit : before ++ bridge :: after = journey.walk)
      (hWalk : Walk bridge.far.node after journey.goal.node) :
      IsTask journey (.send bridge.near.node bridge.near.name bridge.near.link
        (journey.message before after) .direct)
  | arrive : IsTask journey journey.arrival

theorem IsTask.isLive {journey : Journey} {task : Task} (h : journey.IsTask task) :
    isLive task = true := by
  cases h <;> rfl

theorem message_concat (journey : Journey) (before : List Bridge) (bridge : Bridge)
    (after : List Bridge) : journey.message (before ++ [bridge]) after =
      ⟨(journey.message before after).target,
        some (Path.through bridge.far.name (journey.message before after).source),
        journey.payload⟩ := by
  rw [message, List.reverse_concat]
  rfl

/-- The bridges of the walk and the link at its end are bound, and the bridges are bridges of the
service. -/
structure Open {τ : Type} (service : Service) (net : Network (Desk τ)) (journey : Journey) :
    Prop where
  bound : ∀ bridge ∈ journey.walk, net.Binds bridge.near ∧ net.Binds bridge.far
  named : ∀ bridge ∈ journey.walk, Path.isLinkName bridge.near.name = true
  roles : ∀ bridge ∈ journey.walk, service.role bridge.near.link = .bridge bridge
  goal : net.Binds journey.goal
  goalName : Path.isLinkName journey.goal.name = true

variable {τ : Type} {service : Service} {net : Network (Desk τ)} {journey : Journey}
  (others : Network (Desk τ) → LinkId → Message → Reaction τ)

/-- At a node the message goes to the next bridge, or has arrived. -/
theorem step_transmit (hOpen : journey.Open service net) {before after : List Bridge}
    (hSplit : before ++ after = journey.walk) {node : NodeId}
    (hWalk : Walk node after journey.goal.node) (deny : Option LinkId) :
    ∃ next, journey.IsTask next ∧ net.step (service.behave others)
      (.perform (.transmit node (journey.message before after) deny)) = (net, [next]) := by
  cases after with
  | nil =>
    obtain rfl : node = journey.goal.node := (hWalk.last_unique (.nil node)).symm
    rw [List.append_nil] at hSplit
    subst hSplit
    exact ⟨_, .arrive, hOpen.goal.step_transmit hOpen.goalName _ _ _ deny⟩
  | cons bridge after =>
    obtain ⟨rfl, hFar⟩ := hWalk.of_cons
    have hBridge : bridge ∈ journey.walk := by
      rw [← hSplit]
      exact List.mem_append_right before List.mem_cons_self
    exact ⟨_, .cross before bridge after hSplit hFar,
      (hOpen.bound bridge hBridge).1.step_transmit (hOpen.named bridge hBridge) _ _ _ deny⟩

/-- A bridge takes the message to the next node, and nothing else happens. -/
theorem step_cross (hOpen : journey.Open service net) {before : List Bridge} {bridge : Bridge}
    {after : List Bridge} (hSplit : before ++ bridge :: after = journey.walk)
    (hWalk : Walk bridge.far.node after journey.goal.node) :
    ∃ next settle, journey.IsTask next ∧ isLive settle = false ∧
      (net.step (service.behave others) (.send bridge.near.node bridge.near.name bridge.near.link
        (journey.message before after) .direct)).2 = [next, settle] ∧
      (net.step (service.behave others) (.send bridge.near.node bridge.near.name bridge.near.link
        (journey.message before after) .direct)).1.links = net.links := by
  have hBridge : bridge ∈ journey.walk := by
    rw [← hSplit]
    exact List.mem_append_right before List.mem_cons_self
  have hReaction : service.behave others net bridge.near.link (journey.message before after) =
      { links := net.links
        operations :=
          [bridge.crossing (journey.message before after) (some bridge.far.link)] } := by
    rw [Service.behave, hOpen.roles bridge hBridge]
    exact if_pos (hOpen.bound bridge hBridge).2.contains
  have hNext : journey.IsTask (.perform
      (bridge.crossing (journey.message before after) (some bridge.far.link))) := by
    have hConcat : before ++ [bridge] ++ after = journey.walk := by
      rw [List.append_assoc, List.singleton_append, hSplit]
    have hTransmit := IsTask.transmit (before ++ [bridge]) after hConcat bridge.far.node hWalk
      (some bridge.far.link)
    rw [message_concat] at hTransmit
    exact hTransmit
  rw [Network.step_send, hReaction]
  refine ⟨_, _, hNext, rfl, rfl, ?_⟩
  rw [Network.links_react, hReaction]

/-- A task that takes the message on leads to one such task, and to nothing else that lasts, unless
the message has arrived. -/
theorem advance (hOpen : journey.Open service net) {task : Task} (h : journey.IsTask task) :
    task = journey.arrival ∨ ∃ next, journey.IsTask next ∧
      (net.step (service.behave others) task).2.filter isLive = [next] ∧
      (net.step (service.behave others) task).1.links = net.links ∧
      service.reply? task = none := by
  cases h with
  | transmit before after hSplit node hWalk deny =>
    obtain ⟨next, hNext, hStep⟩ := step_transmit others hOpen hSplit hWalk deny
    rw [hStep]
    exact .inr ⟨next, hNext, List.filter_cons_of_pos hNext.isLive, rfl, rfl⟩
  | cross before bridge after hSplit hWalk =>
    obtain ⟨next, settle, hNext, hSettle, hLed, hLinks⟩ :=
      step_cross others hOpen hSplit hWalk
    have hBridge : bridge ∈ journey.walk := by
      rw [← hSplit]
      exact List.mem_append_right before List.mem_cons_self
    refine .inr ⟨next, hNext, ?_, hLinks, ?_⟩
    · rw [hLed, List.filter_cons_of_pos hNext.isLive,
        List.filter_cons_of_neg (by rw [hSettle]; exact Bool.false_ne_true), List.filter_nil]
    · rw [Service.reply?, hOpen.roles bridge hBridge]
  | arrive => exact .inl rfl

end Journey

/-! ## Invocations and replies -/

namespace Service

/-- The source of the invocation of a call, which leads to the manager. -/
def sourceOf (service : Service) (call : Nat) : String :=
  Path.through service.endpoint.name (some (InvocationId.toPath (UInt32.ofNat call)))

/-- The way of an invocation to the procedure. -/
def outbound (service : Service) (call : Nat) (arguments : Bytes) : Journey where
  walk := service.walk
  goal := ⟨service.procedure.node, service.procedure.name, service.link⟩
  rest := none
  source := some (service.sourceOf call)
  payload := Payload.invocation arguments

/-- The way of a reply to the manager. -/
def inbound (service : Service) (call : Nat) (result : Bytes) : Journey where
  walk := Bridge.back service.walk
  goal := service.endpoint
  rest := some (InvocationId.toPath (UInt32.ofNat call))
  source := some service.procedure.name
  payload := Payload.reply result

/-- The run of the procedure for a call. -/
def runOf (service : Service) (call : Nat) (arguments : Bytes) : Run :=
  ⟨service.procedure, Path.via (service.walk.reverse.map (·.far.name)) (service.sourceOf call),
    arguments⟩

variable {τ : Type} {service : Service} {exchange : Exchange τ}
  (others : Network (Desk τ) → LinkId → Message → Reaction τ)

theorem message_outbound (service : Service) (call : Nat) (arguments : Bytes) :
    (service.outbound call arguments).message [] service.walk =
      ⟨some service.target, some (service.sourceOf call), Payload.invocation arguments⟩ := by
  rw [Journey.message, Service.outbound, Path.through, Path.along_some]
  rfl

theorem message_inbound (service : Service) (call : Nat) (arguments result : Bytes) :
    (service.inbound call result).message [] (Bridge.back service.walk) =
      ⟨some (service.runOf call arguments).replyTo, some service.procedure.name,
        Payload.reply result⟩ := by
  rw [Journey.message, Service.inbound, Bridge.names_back, Path.along_some]
  rfl

theorem Intact.open_outbound (h : service.Intact exchange) (call : Nat) (arguments : Bytes) :
    (service.outbound call arguments).Open service exchange.net where
  bound := h.bridges
  named bridge hBridge := (service.bridgeNames bridge hBridge).1
  roles bridge hBridge := (service.role_bridges bridge hBridge).1
  goal := h.procedure
  goalName := service.procedureName

theorem Intact.open_inbound (h : service.Intact exchange) (call : Nat) (result : Bytes) :
    (service.inbound call result).Open service exchange.net where
  bound bridge hBridge := (h.bridges bridge.reverse (Bridge.mem_back.1 hBridge)).symm
  named bridge hBridge := (service.bridgeNames bridge.reverse (Bridge.mem_back.1 hBridge)).2
  roles bridge hBridge := (service.role_bridges bridge.reverse (Bridge.mem_back.1 hBridge)).2
  goal := h.endpoint
  goalName := service.endpointName

theorem reply?_outbound (service : Service) (call : Nat) (arguments : Bytes) :
    service.reply? (service.outbound call arguments).arrival = none := by
  rw [Journey.arrival, outbound, reply?, service.role_procedure]

theorem reply?_inbound (service : Service) (call : Nat) (result : Bytes) :
    service.reply? (service.inbound call result).arrival = some result := by
  rw [Journey.arrival, inbound, reply?, service.role_endpoint]
  rfl

/-- An invocation that arrives starts the run of its call. -/
theorem step_outbound (service : Service) (net : Network (Desk τ)) (call : Nat)
    (arguments : Bytes) :
    (net.step (service.behave others) (service.outbound call arguments).arrival).1.links =
        { net.links with spawned := net.links.spawned ++ [service.runOf call arguments] } ∧
      (net.step (service.behave others) (service.outbound call arguments).arrival).2.filter isLive =
        [] := by
  have hReceive : service.procedure.receive (service.outbound call arguments).final =
      ([], some (service.runOf call arguments)) := by
    rw [Procedure.receive, Journey.final, outbound, Path.along_some]
    rfl
  have hReaction : service.behave others net service.link (service.outbound call arguments).final =
      { links := { net.links with
          spawned := net.links.spawned ++ [service.runOf call arguments] } } := by
    rw [behave, service.role_procedure]
    simp only [hReceive]
    rfl
  rw [Journey.arrival, Network.step_send, Network.links_react]
  change (service.behave others net service.link _).links = _ ∧
    List.filter isLive ((service.behave others net service.link _).operations.map _ ++ _) = _
  rw [hReaction]
  exact ⟨rfl, rfl⟩

/-- A reply that arrives is handed to the manager. -/
theorem step_inbound (service : Service) (net : Network (Desk τ)) (call : Nat) (result : Bytes) :
    ∃ source, (net.step (service.behave others) (service.inbound call result).arrival).1.links =
        { net.links with
          manager := (net.links.manager.receive (Manager.replyTo call source result) net.now).1 } ∧
      (net.step (service.behave others) (service.inbound call result).arrival).2.filter isLive =
        [] := by
  have hReaction : (service.behave others net service.endpoint.link
      (service.inbound call result).final).links = { net.links with
        manager := (net.links.manager.receive (service.inbound call result).final net.now).1 } := by
    rw [behave, service.role_endpoint]
  have hOperations : (service.behave others net service.endpoint.link
      (service.inbound call result).final).operations = [] := by
    rw [behave, service.role_endpoint]
  refine ⟨(service.inbound call result).final.source, ?_, ?_⟩
  · rw [Journey.arrival, Network.step_send, Network.links_react]
    exact hReaction
  · rw [Journey.arrival, Network.step_send]
    change List.filter isLive
      ((service.behave others net service.endpoint.link _).operations.map _ ++ _) = _
    rw [hOperations]
    rfl

end Service

end RobotBus.Calls
