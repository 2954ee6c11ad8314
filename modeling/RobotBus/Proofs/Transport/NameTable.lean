import RobotBus.Proofs.Transport.Fleet

/-!
# Names that lead to their links

Names come to a node in many ways: code binds links to them, peers ask for them with a hint, and a
call manager takes its endpoint without a look at it. In every reachable fleet all bound names are
link names nevertheless (`named_run`), so that a path through a name leads to the link that is bound
to it and to no other. An event changes at most the binding of the name that it is about
(`linkAt_step`), a request that fails changes nothing, and to add a link takes no binding away.
`names_lead_to_their_links` puts this together.
-/

namespace RobotBus

/-! ## Operations that fail -/

theorem map_eq_error_iff {ε α β : Type} {f : α → β} {result : Except ε α} {cause : ε} :
    f <$> result = .error cause ↔ result = .error cause := by
  cases result with
  | error other =>
    show Except.error other = Except.error cause ↔ Except.error other = Except.error cause
    rw [Except.error.injEq, Except.error.injEq]
  | ok value =>
    constructor
    · intro h
      cases h
    · intro h
      cases h

namespace Node

variable {node : Node} {name : String} {link : LinkId} {cause : BusError}

theorem add_eq_error_iff : node.add name link = .error cause ↔
    Path.isLinkName name = false ∧ cause = .invalidLinkName name ∨
      Path.isLinkName name = true ∧ ∃ bound, node.links.get? name = some bound ∧ bound ≠ link ∧
        cause = .duplicateName name := by
  rw [add]
  cases hName : Path.isLinkName name with
  | false => simp [eq_comm]
  | true =>
    cases hBound : node.links.get? name with
    | none => simp
    | some bound =>
      by_cases hSame : bound = link
      · simp [hSame]
      · simp [hSame, @eq_comm _ cause]

theorem replace_eq_error_iff : node.replace name link = .error cause ↔
    Path.isLinkName name = false ∧ cause = .invalidLinkName name := by
  rw [replace]
  cases Path.isLinkName name <;> simp [eq_comm]

end Node

namespace Network

variable {σ : Type} {net : Network σ}

/-- Why an operation that code has asked for fails. -/
inductive Refuses (net : Network σ) : Operation → BusError → Prop
  | addUnder (id : NodeId) (name : String) (link : LinkId) : net.nodes.contains id = true →
    Path.isLinkName name = false → Refuses net (.add id name link) (.invalidLinkName name)
  | addOver (id : NodeId) (name : String) (link bound : LinkId) : Path.isLinkName name = true →
    net.linkAt id name = some bound → bound ≠ link →
    Refuses net (.add id name link) (.duplicateName name)
  | replaceUnder (id : NodeId) (name : String) (link : LinkId) : net.nodes.contains id = true →
    Path.isLinkName name = false → Refuses net (.replace id name link) (.invalidLinkName name)

theorem addLink_eq_error_iff {id : NodeId} {name : String} {link : LinkId} {cause : BusError} :
    net.addLink id name link = .error cause ↔ net.Refuses (.add id name link) cause := by
  cases hNode : net.nodes.get? id with
  | none =>
    rw [addLink, hNode]
    constructor
    · intro h
      cases h
    · intro h
      cases h with
      | addUnder _ _ _ hContains => simp [Bindings.contains, hNode] at hContains
      | addOver _ _ _ bound _ hBound => simp [linkAt, hNode] at hBound
  | some node =>
    have hLinkAt := linkAt_of_get? hNode name
    rw [addLink, hNode]
    simp only [map_eq_error_iff, Node.add_eq_error_iff]
    constructor
    · rintro (⟨hName, rfl⟩ | ⟨hName, bound, hBound, hNe, rfl⟩)
      · exact .addUnder id name link (contains_of_get? hNode) hName
      · exact .addOver id name link bound hName (hLinkAt.trans hBound) hNe
    · intro h
      cases h with
      | addUnder _ _ _ _ hName => exact .inl ⟨hName, rfl⟩
      | addOver _ _ _ bound hName hBound hNe =>
        exact .inr ⟨hName, bound, hLinkAt.symm.trans hBound, hNe, rfl⟩

theorem replaceLink_eq_error_iff {id : NodeId} {name : String} {link : LinkId} {cause : BusError} :
    net.replaceLink id name link = .error cause ↔ net.Refuses (.replace id name link) cause := by
  cases hNode : net.nodes.get? id with
  | none =>
    rw [replaceLink, hNode]
    constructor
    · intro h
      cases h
    · intro h
      cases h with
      | replaceUnder _ _ _ hContains => simp [Bindings.contains, hNode] at hContains
  | some node =>
    rw [replaceLink, hNode]
    simp only [bind_pure_comp, map_eq_error_iff, Node.replace_eq_error_iff]
    constructor
    · rintro ⟨hName, rfl⟩
      exact .replaceUnder id name link (contains_of_get? hNode) hName
    · intro h
      cases h with
      | replaceUnder _ _ _ _ hName => exact ⟨hName, rfl⟩

theorem attempt_eq_error_iff {operation : Operation} {cause : BusError} :
    net.attempt operation = .error cause ↔ net.Refuses operation cause := by
  cases operation with
  | add id name link => rw [← addLink_eq_error_iff, attempt, map_eq_error_iff]
  | replace id name link => rw [← replaceLink_eq_error_iff, attempt, map_eq_error_iff]
  | transmit id message deny | broadcast id message deny | remove id name
  | removeIf id name link =>
    constructor
    · intro h
      cases h
    · intro h
      cases h

/-- An operation that fails does nothing, also when a link asks for it. -/
theorem perform_of_refuses {operation : Operation} {cause : BusError}
    (h : net.Refuses operation cause) : net.perform operation = (net, []) := by
  cases h with
  | addUnder id name link hContains hName =>
    rw [perform, addLink_eq_error_iff.2 (.addUnder id name link hContains hName)]
    rfl
  | addOver id name link bound hName hBound hNe =>
    rw [perform, addLink_eq_error_iff.2 (.addOver id name link bound hName hBound hNe)]
    rfl
  | replaceUnder id name link hContains hName =>
    rw [perform, replaceLink_eq_error_iff.2 (.replaceUnder id name link hContains hName)]
    rfl

/-- To add a link takes no binding away. -/
theorem linkAt_add_of_bound {node : NodeId} {under : String} {new : LinkId} {id : NodeId}
    {name : String} {link : LinkId} (h : net.linkAt id name = some link) :
    (net.perform (.add node under new)).1.linkAt id name = some link := by
  rw [linkAt_add]
  split
  · rename_i hFree
    obtain ⟨⟨rfl, rfl⟩, _, _, hNone⟩ := hFree
    rw [hNone] at h
    cases h
  · exact h

end Network

namespace Transport

open Simulation (Machine)

/-! ## The name that an event is about -/

/-- Whether a request is for a new link under a name. -/
def Request.adds : Request → Bool
  | operate (.add ..) | subscribe .. | publish .. => true
  | operate _ | manager _ => false

/-- The node and the name that a request is about. -/
def Request.edits? : Request → Option (NodeId × String)
  | operate operation => operation.edits?
  | subscribe node name | publish node name _ => some (node, name)
  | manager node => some (node, Calls.Manager.defaultEndpoint)

namespace Fleet

variable {σ : Type} {behaviour : Behaviour σ} {fleet next : Fleet σ}

def edits? (fleet : Fleet σ) : Event → Option (NodeId × String)
  | .request request => request.edits?
  | .work index => fleet.tasks[index]?.bind Task.edits?
  | .proceed number _ | .receive number _ => fleet.members[number]?.bind Machine.place?
  | .create _ | .launch _ | .elapse _ => none

theorem edits?_of_operation? {request : Request} {fresh : LinkId} {operation : Operation}
    (h : request.operation? fresh = some operation) : request.edits? = operation.edits? := by
  cases request with
  | operate | subscribe | publish =>
    cases h
    rfl
  | manager => cases h

theorem linkAt_ask {request : Request} (h : fleet.ask request = .ok next) {id : NodeId}
    {name : String} (hOther : request.edits? ≠ some (id, name)) :
    next.net.linkAt id name = fleet.net.linkAt id name := by
  cases asks h with
  | nothing => rfl
  | operate hOperation =>
    rw [edits?_of_operation? hOperation] at hOther
    exact Network.linkAt_perform_of_ne hOther
  | manage node =>
    show (fleet.net.updateNode node _).linkAt id name = fleet.net.linkAt id name
    rw [linkAt_overwrite_endpoint]
    exact Network.linkAt_perform_of_ne hOther

theorem linkAt_work {task : Task} (index : Nat) {id : NodeId} {name : String}
    (hOther : task.edits? ≠ some (id, name)) :
    (fleet.work behaviour index task).net.linkAt id name = fleet.net.linkAt id name := by
  cases task with
  | perform operation => exact Network.linkAt_perform_of_ne hOther
  | send node under link message reach =>
    exact Network.linkAt_of_nodes (Network.nodes_react fleet.net behaviour link message) id name
  | settle node under link target reach verdict =>
    cases verdict with
    | keep | fault text => rfl
    | remove =>
      have hRemoved : (fleet.net.perform (.removeIf node under link)).1.linkAt id name =
          fleet.net.linkAt id name := Network.linkAt_perform_of_ne hOther
      rw [← hRemoved]
      exact Network.linkAt_of_nodes rfl id name

/-- A transport changes a binding only where it has a link, or is going to register one. -/
theorem holder_of_linkAt_act (fleet : Fleet σ) (number : Nat) {before : Machine}
    {done : Machine × List Effect} {stopped : Bool}
    (hMoves : Moves stopped before.landing? (operations done.2) done.1.landing?)
    (hLanding : ∀ landing, done.1.landing? = some landing →
      before.landing? = some landing ∨ before.arriving? = some landing)
    {id : NodeId} {name : String}
    (hChanged : (fleet.act number done).net.linkAt id name ≠ fleet.net.linkAt id name) :
    ∃ landing : Landing, (before.arriving? = some landing ∨ before.landing? = some landing) ∧
      landing.node = id ∧ landing.name = name := by
  have hPlace : ∀ {operation : Operation} {landing : Landing},
      BoundBy fleet (fleet.act number done) operation →
      operation.edits? = some (landing.node, landing.name) →
      landing.node = id ∧ landing.name = name := by
    intro operation landing hBound hEdits
    rw [hBound] at hChanged
    have hSame : operation.edits? = some (id, name) :=
      Decidable.byContradiction fun hOther => hChanged (Network.linkAt_perform_of_ne hOther)
    rw [hEdits] at hSame
    exact Prod.mk.inj (Option.some.inj hSame)
  rcases act_cases fleet number hMoves with
    ⟨hSame, _⟩ | ⟨landing, hBound, _, hAfter, _⟩ | ⟨landing, hBound, hBefore, _⟩
  · exact absurd (hSame id name) hChanged
  · exact ⟨landing, (hLanding landing hAfter).symm, hPlace hBound rfl⟩
  · exact ⟨landing, .inr hBefore, hPlace hBound rfl⟩

theorem linkAt_act (fleet : Fleet σ) (number : Nat) {before : Machine}
    {done : Machine × List Effect} {stopped : Bool}
    (hMoves : Moves stopped before.landing? (operations done.2) done.1.landing?)
    (hLanding : ∀ landing, done.1.landing? = some landing →
      before.landing? = some landing ∨ before.arriving? = some landing)
    {id : NodeId} {name : String} (hOther : before.place? ≠ some (id, name)) :
    (fleet.act number done).net.linkAt id name = fleet.net.linkAt id name := by
  refine Decidable.byContradiction fun hChanged => hOther ?_
  obtain ⟨landing, hHolds, rfl, rfl⟩ := holder_of_linkAt_act fleet number hMoves hLanding hChanged
  rcases hHolds with hArriving | hBefore
  · exact Machine.place?_of_arriving? hArriving
  · exact Machine.place?_of_landing? hBefore

/-- **An event changes at most the binding of the name that it is about.** -/
theorem linkAt_step (behaviour : Behaviour σ) (fleet : Fleet σ) {event : Event} {id : NodeId}
    {name : String} (hOther : fleet.edits? event ≠ some (id, name)) :
    (fleet.step behaviour event).net.linkAt id name = fleet.net.linkAt id name := by
  have hSteps := steps behaviour fleet event
  generalize fleet.step behaviour event = next at hSteps ⊢
  cases hSteps with
  | nothing | launch | elapse => rfl
  | create hFree => exact linkAt_create hFree id name
  | request hAsk => exact linkAt_ask hAsk hOther
  | work hTask =>
    rw [edits?, hTask] at hOther
    exact linkAt_work _ hOther
  | @proceed number machine stopped hMachine =>
    rw [edits?, hMachine] at hOther
    exact linkAt_act fleet number (machine.moves_proceed _ stopped)
      (fun _ => Machine.landing?_of_proceed) hOther
  | @receive number machine input hMachine =>
    rw [edits?, hMachine] at hOther
    exact linkAt_act fleet number (machine.moves_receive _ false fleet.fresh input)
      (fun _ hLanding => .inl (Machine.landing?_of_receive hLanding)) hOther

/-! ## Names -/

/-- All names that are bound are link names. -/
def Named (fleet : Fleet σ) : Prop :=
  ∀ id name link, fleet.net.linkAt id name = some link → Path.isLinkName name = true

theorem Named.of_bound (h : Named fleet) {operation : Operation}
    (hBound : BoundBy fleet next operation) : Named next := by
  intro id name link hLink
  rw [hBound id name] at hLink
  rcases Network.binding_of_perform hLink with hOld | ⟨_, hName⟩
  · exact h id name link hOld
  · exact hName

theorem Named.turn (h : Named fleet) (hTurn : Turn fleet next) : Named next := by
  have hSame : (∀ id name, next.net.linkAt id name = fleet.net.linkAt id name) → Named next := by
    intro hSame id name link hLink
    rw [hSame] at hLink
    exact h id name link hLink
  cases hTurn with
  | idle hBindings => exact hSame hBindings
  | join _ hBindings => exact hSame hBindings
  | stay _ _ _ _ hBindings => exact hSame hBindings
  | edit _ _ hBound => exact h.of_bound hBound
  | refuse _ _ _ _ hBound => exact h.of_bound hBound
  | land _ _ _ _ _ hBound => exact h.of_bound hBound
  | leave _ _ _ _ _ hBound => exact h.of_bound hBound

theorem named_run (behaviour : Behaviour σ) (links : σ) (events : List Event) :
    Named ((start links).run behaviour events) := by
  have hBoth : ((start links).run behaviour events).Settled ∧
      Named ((start links).run behaviour events) := by
    refine run_induction (P := fun fleet : Fleet σ => fleet.Settled ∧ Named fleet) behaviour ?_ ?_
      events
    · rintro fleet event ⟨hSettled, hNamed⟩
      exact ⟨settled_step behaviour hSettled event,
        hNamed.turn (step_turn behaviour hSettled event)⟩
    · refine ⟨List.forall_mem_nil _, ?_⟩
      intro id name link hLink
      cases hLink
  exact hBoth.2

theorem operation?_of_adds {request : Request} {fresh : LinkId} {operation : Operation}
    (hAdds : request.adds = true) (h : request.operation? fresh = some operation) :
    ∃ node under new, operation = .add node under new := by
  cases request with
  | operate asked =>
    cases h
    cases operation with
    | add node under new => exact ⟨node, under, new, rfl⟩
    | transmit | broadcast | replace | remove | removeIf => cases hAdds
  | subscribe node under | publish node under runtime =>
    cases h
    exact ⟨node, under, fresh, rfl⟩
  | manager => cases h

theorem linkAt_ask_of_adds {request : Request} (hAdds : request.adds = true)
    (h : fleet.ask request = .ok next) {id : NodeId} {name : String} {link : LinkId}
    (hLink : fleet.net.linkAt id name = some link) : next.net.linkAt id name = some link := by
  cases asks h with
  | nothing | manage => cases hAdds
  | operate hOperation =>
    obtain ⟨node, under, new, rfl⟩ := operation?_of_adds hAdds hOperation
    exact Network.linkAt_add_of_bound hLink

/-- What is about a name that is no link name changes no binding. -/
theorem linkAt_step_of_invalid (behaviour : Behaviour σ) (hNamed : Named fleet) {event : Event}
    (hNext : Named (fleet.step behaviour event)) {node : NodeId} {under : String}
    (hEdits : fleet.edits? event = some (node, under)) (hInvalid : Path.isLinkName under = false)
    (id : NodeId) (name : String) :
    (fleet.step behaviour event).net.linkAt id name = fleet.net.linkAt id name := by
  by_cases hSame : (node, under) = (id, name)
  · cases hSame
    have hNone : ∀ fleet : Fleet σ, Named fleet → fleet.net.linkAt node under = none := by
      intro fleet hNamed
      rw [Option.eq_none_iff_forall_ne_some]
      intro link hLink
      rw [hNamed node under link hLink] at hInvalid
      cases hInvalid
    rw [hNone _ hNext, hNone _ hNamed]
  · refine linkAt_step behaviour fleet ?_
    rw [hEdits]
    exact fun h => hSame (Option.some.inj h)

/-- **A bound name leads to its link.** In every reachable fleet each name that is bound is not
empty, has no slash and is not the target of messages to everyone. So a message to the name goes to
the link that is bound to it, without a target, and a message to a path through the name goes there
with the rest of the path. An operation that fails does nothing, and so does a request that fails or
an event that is about another kind of name. To add a link takes no binding away, whoever adds it,
and every event leaves the bindings of all names alone but the one that it is about. -/
theorem names_lead_to_their_links (behaviour : Behaviour σ) (links : σ) (events : List Event) :
    let fleet := (start links).run behaviour events
    (∀ id name link, fleet.net.linkAt id name = some link →
      (name ≠ "" ∧ '/' ∉ name.toList ∧ name ≠ "*") ∧
      ∀ source payload deny,
        fleet.net.step behaviour (.perform (.transmit id ⟨some name, source, payload⟩ deny)) =
          (fleet.net, [.send id name link ⟨none, source, payload⟩ .direct]) ∧
        ∀ rest, fleet.net.step behaviour
            (.perform (.transmit id ⟨some (name ++ "/" ++ rest), source, payload⟩ deny)) =
          (fleet.net, [.send id name link ⟨some rest, source, payload⟩ .direct])) ∧
    (∀ operation cause,
      (fleet.net.attempt operation = .error cause ↔ fleet.net.Refuses operation cause) ∧
      (fleet.net.attempt operation = .error cause →
        fleet.net.perform operation = (fleet.net, []))) ∧
    (∀ request cause, fleet.ask request = .error cause →
      fleet.step behaviour (.request request) = fleet) ∧
    (∀ event node under, fleet.edits? event = some (node, under) →
      Path.isLinkName under = false → ∀ id name,
        (fleet.step behaviour event).net.linkAt id name = fleet.net.linkAt id name) ∧
    (∀ id name link, fleet.net.linkAt id name = some link →
      (∀ node under new,
        (fleet.net.perform (.add node under new)).1.linkAt id name = some link) ∧
      ∀ request next, request.adds = true → fleet.ask request = .ok next →
        next.net.linkAt id name = some link) ∧
    (∀ event id name, fleet.edits? event ≠ some (id, name) →
      (fleet.step behaviour event).net.linkAt id name = fleet.net.linkAt id name) := by
  intro fleet
  have hNamed : Named fleet := named_run behaviour links events
  refine ⟨?_, ?_, ?_, ?_, ?_, ?_⟩
  · intro id name link hLink
    have hName : Path.isLinkName name = true := hNamed id name link hLink
    have hBinds : fleet.net.Binds ⟨id, name, link⟩ := Network.binds_iff.2 hLink
    obtain ⟨hNonempty, hSlash, hOne⟩ := Path.isLinkName_iff.1 hName
    refine ⟨⟨?_, hSlash, hOne⟩, ?_⟩
    · rintro rfl
      exact hNonempty rfl
    · intro source payload deny
      refine ⟨hBinds.step_transmit hName none source payload deny, ?_⟩
      intro rest
      exact hBinds.step_transmit hName (some rest) source payload deny
  · intro operation cause
    refine ⟨Network.attempt_eq_error_iff, ?_⟩
    intro hError
    exact Network.perform_of_refuses (Network.attempt_eq_error_iff.1 hError)
  · intro request cause hError
    rw [step, hError]
    rfl
  · intro event node under hEdits hInvalid id name
    refine linkAt_step_of_invalid behaviour hNamed ?_ hEdits hInvalid id name
    have hNext := named_run behaviour links (events ++ [event])
    rw [run, List.foldl_append] at hNext
    exact hNext
  · intro id name link hLink
    refine ⟨fun node under new => Network.linkAt_add_of_bound hLink, ?_⟩
    intro request next hAdds hNext
    exact linkAt_ask_of_adds hAdds hNext hLink
  · intro event id name hOther
    exact linkAt_step behaviour fleet hOther

/-- A lamp that binds itself under a second name when it is told something, and an arm whose server
has taken its name from the hint of the peer. -/
theorem lamp_and_arm :
    let behaviour : Behaviour Unit := fun _ _ _ => { links := (), operations := [.add 0 "echo" 7] }
    let header := ((Wire.Header.mk (some "arm")).encode.toOption).getD []
    let events : List Event :=
      [.create 0, .request (.operate (.add 0 "lamp" 7)), .request (.manager 0),
        .launch (.accepted ⟨0, {}, 0, true⟩), .proceed 0 false, .receive 0 (.received header),
        .proceed 0 false, .request (.operate (.transmit 0 ⟨some "lamp", none, []⟩ none)),
        .work 0, .work 0]
    let fleet := (start ()).run behaviour events
    (fleet.net.linkAt 0 "lamp" = some 7 ∧ fleet.net.linkAt 0 "echo" = some 7 ∧
      fleet.net.linkAt 0 "arm" = some 4) ∧
    fleet.net.step behaviour
        (.perform (.transmit 0 ⟨some ("arm" ++ "/" ++ "joint/2"), none, []⟩ none)) =
      (fleet.net, [.send 0 "arm" 4 ⟨some "joint/2", none, []⟩ .direct]) ∧
    (fleet.net.attempt (.add 0 "lamp" 8) = .error (.duplicateName "lamp") ∧
      fleet.net.perform (.add 0 "lamp" 8) = (fleet.net, [])) ∧
    (fleet.ask (.subscribe 0 "*") = .error (.invalidLinkName "*") ∧
      fleet.step behaviour (.request (.subscribe 0 "*")) = fleet) ∧
    (fleet.step behaviour (.request (.operate (.replace 0 "a/b" 8)))).net.linkAt 0 "lamp" =
      fleet.net.linkAt 0 "lamp" ∧
    (∃ next, fleet.ask (.publish 0 "door" true) = .ok next ∧
      next.net.linkAt 0 "lamp" = some 7) ∧
    (fleet.step behaviour (.request (.operate (.remove 0 "arm")))).net.linkAt 0 "lamp" =
      fleet.net.linkAt 0 "lamp" := by
  intro behaviour header events fleet
  have hLamp : fleet.net.linkAt 0 "lamp" = some 7 := by
    decide +kernel
  have hArm : fleet.net.linkAt 0 "arm" = some 4 := by
    decide +kernel
  obtain ⟨hLeads, hFails, hAskFails, hInvalid, hAdds, hOthers⟩ :=
    names_lead_to_their_links behaviour () events
  have hDuplicate : fleet.net.attempt (.add 0 "lamp" 8) = .error (.duplicateName "lamp") :=
    (hFails _ _).1.2 (.addOver 0 "lamp" 8 7 (by decide +kernel) hLamp (by decide))
  have hEveryone : fleet.ask (.subscribe 0 "*") = .error (.invalidLinkName "*") := by
    have hRefused : fleet.net.attempt (.add 0 "*" fleet.fresh) = .error (.invalidLinkName "*") :=
      (hFails _ _).1.2 (.addUnder 0 "*" fleet.fresh (by decide +kernel) (by decide +kernel))
    rw [ask, operate, hRefused]
    rfl
  have hDoor : (fleet.ask (.publish 0 "door" true)).isOk = true := by
    decide +kernel
  refine ⟨⟨hLamp, by decide +kernel, hArm⟩, ((hLeads 0 "arm" 4 hArm).2 none [] none).2 "joint/2",
    ⟨hDuplicate, (hFails _ _).2 hDuplicate⟩, ⟨hEveryone, hAskFails _ _ hEveryone⟩,
    hInvalid _ 0 "a/b" rfl (by decide +kernel) 0 "lamp", ?_,
    hOthers _ 0 "lamp" (by decide)⟩
  cases hNext : fleet.ask (.publish 0 "door" true) with
  | error cause =>
    rw [hNext] at hDoor
    cases hDoor
  | ok next => exact ⟨next, rfl, (hAdds 0 "lamp" 7 hLamp).2 _ next rfl hNext⟩

end Fleet

end Transport

end RobotBus
