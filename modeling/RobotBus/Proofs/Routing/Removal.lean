import RobotBus.Proofs.Routing.Binding
import RobotBus.Proofs.Routing.Nesting

/-!
# Removal of links that ask for it

Links may change what is bound while a message is routed, also under the very name that they are
called by. `routing_removes_as_asked` says what is left for routing itself to do: a change is one
that some link has asked for during its call, or it is the removal of the binding that was called,
after a verdict that asks for it, of the link that was called and no other. Every call ends with
its verdict being dealt with, and so it takes away that binding if the link is still there, and
nothing at all otherwise.
-/

namespace RobotBus

/-- What is bound after a verdict has been dealt with: a binding is gone if its link has asked for
that and is still bound there, and all else is as before. -/
def Sending.Settled {σ : Type} (sending : Sending) (before after : Network σ) : Prop :=
  ∀ id name, after.linkAt id name =
    if sending.verdict = .remove ∧
        (sending.landing.node = id ∧ sending.landing.name = name) ∧
        before.linkAt sending.landing.node sending.landing.name = some sending.landing.link then none
    else before.linkAt id name

namespace Network

variable {σ : Type} {net net' : Network σ} {log : List (Episode σ)} {task : Task}
  {led : List Task} {id : NodeId} {name : String}

/-- All that happens to bindings in the course of a run. -/
structure RemovesAsAsked (net net' : Network σ) (log : List (Episode σ)) : Prop where
  /-- Nothing happens between the episodes. -/
  linked : Linked net net' log
  /-- A binding is changed by an operation that a link asks for inside of its call, or it is removed
  by the verdict of its own link. -/
  changes : ∀ (front back : List (Episode σ)) (episode : Episode σ),
    log = front ++ episode :: back → ∀ id name,
      episode.after.linkAt id name ≠ episode.before.linkAt id name →
        ∃ (front' inner : List (Episode σ)) (call : Episode σ) (sending : Sending),
          front = front' ++ call :: inner ∧ call.toDeed = sending.deed ∧ call.Encloses inner ∧
          ((∃ operation ∈ sending.operations, operation.edits? = some (id, name) ∧
              episode.pending = ⟨call.depth + 1, .perform operation⟩) ∨
            episode.pending = ⟨call.depth, sending.settling⟩ ∧ sending.verdict = .remove ∧
              sending.landing = ⟨id, name, sending.landing.link⟩ ∧
              episode.before.linkAt id name = some sending.landing.link ∧
              episode.after.linkAt id name = none)
  /-- After each call its verdict is dealt with, as soon as all is done that the link asks for. -/
  settles : ∀ (front back : List (Episode σ)) (call : Episode σ) (sending : Sending),
    log = front ++ call :: back → call.toDeed = sending.deed →
      ∃ (inner back' : List (Episode σ)) (settling : Episode σ),
        back = inner ++ settling :: back' ∧ call.Encloses inner ∧
        settling.pending = ⟨call.depth, sending.settling⟩ ∧
        sending.Settled settling.before settling.after

/-! ## Single tasks -/

/-- What is bound after a verdict, in terms of what was bound before it. -/
theorem linkAt_settle_eq (net : Network σ) (id : NodeId) (name : String) (link : LinkId)
    (target : Option String) (reach : Reach) (verdict : Verdict) (id' : NodeId) (name' : String) :
    (net.settle id name link target reach verdict).linkAt id' name' =
      if verdict = .remove ∧ (id = id' ∧ name = name') ∧ net.linkAt id name = some link then none
      else net.linkAt id' name' := by
  cases verdict with
  | keep | fault text =>
    rw [if_neg]
    · rfl
    · rintro ⟨⟨⟩, _⟩
  | remove =>
    simp only [settle, true_and]
    cases reach with
    | direct => exact linkAt_removeIf (net.note (.removalAsked name)) id name link id' name'
    | everyone =>
      exact linkAt_removeIf (net.note (.removalAskedInBroadcast name)) id name link id' name'

theorem Possible.settled {sending : Sending} (h : Possible net sending.settling led net') :
    sending.Settled net net' := by
  generalize hTask : sending.settling = task at h
  cases h with
  | perform operation hNodes hLed => cases hTask
  | send other hNodes => cases hTask
  | @settle now id name link target reach verdict hNodes =>
    cases hTask
    intro id' name'
    rw [linkAt_settle_eq, linkAt_of_nodes hNodes, linkAt_of_nodes hNodes]

/-- A task concerns the name that it is about and no other. -/
theorem Possible.linkAt_of_ne (h : Possible net task led net')
    (hTask : task.edits? ≠ some (id, name)) : net'.linkAt id name = net.linkAt id name := by
  cases h with
  | @perform now operation _ hNodes hLed =>
    rw [linkAt_perform_of_ne hTask, linkAt_of_nodes hNodes]
  | send sending hNodes => exact linkAt_of_nodes hNodes id name
  | @settle now id' name' link target reach verdict hNodes =>
    have hOther : ¬(id' = id ∧ name' = name) := by
      rintro ⟨rfl, rfl⟩
      exact hTask rfl
    rw [linkAt_settle_eq, if_neg fun hGone => hOther hGone.2.1, linkAt_of_nodes hNodes]

/-- What a node does by itself leaves all bindings as they are. -/
theorem edits?_of_led_perform {operation : Operation} (h : task ∈ (net.perform operation).2) :
    task.edits? = none := by
  rcases led_perform_cases h with ⟨id, name, link, message, reach, rfl⟩ | ⟨id, message, deny, rfl⟩
  · rfl
  · rfl

/-! ## Runs -/

/-- What is bound changes by what some link has asked for, or by its verdict. -/
theorem Runs.enclosing_call {depth : Nat} {operation : Operation}
    {front back : List (Episode σ)} {episode : Episode σ}
    (h : Runs net [⟨depth, .perform operation⟩] (front ++ episode :: back) net')
    (hRoutes : operation.edits? = none) (hEdits : episode.task.edits? ≠ none) :
    ∃ (front' inner : List (Episode σ)) (call : Episode σ) (sending : Sending),
      front = front' ++ call :: inner ∧ call.toDeed = sending.deed ∧ call.Encloses inner ∧
      (episode.pending ∈ sending.inside call.depth ∨
        episode.pending = ⟨call.depth, sending.settling⟩) := by
  rcases h.origin with ⟨early, late, hAtHand, _⟩ |
    ⟨front', parent, inner, early, late, rfl, hParent, hLeads, hInner⟩
  · -- the message that is routed changes nothing by itself
    have hMem : episode.pending ∈ [(⟨depth, .perform operation⟩ : Pending)] := by
      rw [hAtHand]
      exact List.mem_append_right _ List.mem_cons_self
    have hTask : episode.task = .perform operation :=
      congrArg Pending.task (List.mem_singleton.1 hMem)
    rw [hTask] at hEdits
    exact absurd hRoutes hEdits
  · have hLed : episode.task ∈ parent.led := by
      have hMem : episode.pending ∈ parent.leads := by
        rw [hLeads]
        exact List.mem_append_right _ List.mem_cons_self
      obtain ⟨task, hTask, hSame⟩ := List.mem_map.1 hMem
      rw [← show task = episode.task from congrArg Pending.task hSame]
      exact hTask
    obtain ⟨⟨task, led⟩, depth', before, after⟩ := parent
    cases hParent with
    | perform other hNodes hPerm =>
      -- nor does what a node does by itself
      exact absurd (edits?_of_led_perform (hPerm.mem_iff.1 hLed)) hEdits
    | settle id name link target reach verdict hNodes => cases hLed
    | send sending hNodes =>
      have hCall : sending.deed = sending.deed := rfl
      obtain ⟨hEncloses, hCase⟩ := hInner.enclosed hCall hLeads
      exact ⟨front', inner, _, sending, rfl, hCall, hEncloses, hCase⟩

/-- **Routing removes exactly the links that ask for it.** -/
theorem routing_removes_as_asked {depth : Nat} {operation : Operation}
    (hRoutes : operation.edits? = none)
    (h : Runs net [⟨depth, .perform operation⟩] log net') : RemovesAsAsked net net' log where
  linked := h.linked
  changes := by
    rintro front back episode rfl id name hChanged
    obtain ⟨hTask, -⟩ := h.after
    have hEdits : episode.task.edits? = some (id, name) :=
      Decidable.byContradiction fun hOther => hChanged (hTask.linkAt_of_ne hOther)
    obtain ⟨front', inner, call, sending, hFront, hCall, hEncloses, hCase⟩ :=
      h.enclosing_call hRoutes (by rw [hEdits]; exact Option.some_ne_none _)
    refine ⟨front', inner, call, sending, hFront, hCall, hEncloses, ?_⟩
    rcases hCase with hInside | hSettling
    · obtain ⟨asked, hAsked, hSame⟩ := List.mem_map.1 hInside
      refine .inl ⟨asked, hAsked, ?_, hSame.symm⟩
      have hPerform : episode.task = .perform asked := (congrArg Pending.task hSame).symm
      rw [hPerform] at hEdits
      exact hEdits
    · right
      have hVerdict : episode.task = sending.settling := congrArg Pending.task hSettling
      rw [hVerdict] at hTask
      have hSettled := hTask.settled id name
      split at hSettled
      · rename_i hGone
        obtain ⟨hRemove, ⟨rfl, rfl⟩, hBound⟩ := hGone
        exact ⟨hSettling, hRemove, rfl, hBound, hSettled⟩
      · exact absurd hSettled hChanged
  settles := by
    rintro front back call sending rfl hCall
    obtain ⟨inner, settling, back', hBack, hEncloses, hSettling, hTask⟩ := h.returns hCall
    refine ⟨inner, back', settling, hBack, hEncloses, hSettling, ?_⟩
    have hVerdict : settling.task = sending.settling := congrArg Pending.task hSettling
    rw [hVerdict] at hTask
    exact hTask.settled

/-! ## Links that ask for their removal -/

/-- The first link puts another one in its place before it asks to be removed, the second one asks
to be removed when it is called first, and the third one takes itself down, adds itself again and
breaks down. The links count the calls of the second one. -/
def restless : Behaviour Nat := fun net link _ =>
  if link = 1 then { links := net.links, operations := [.replace 0 "a" 5], verdict := .remove }
  else if link = 2 then
    { links := net.links + 1, verdict := if net.links = 0 then .remove else .keep }
  else
    { links := net.links, operations := [.remove 0 "d", .add 0 "d" 3], verdict := .fault none }

/-- The second link is bound under two names. -/
def restlessNode : Network Nat where
  nodes := {
    entries := [(0, { links := {
      entries := [("a", 1), ("b", 2), ("c", 2), ("d", 3)]
      distinct := by decide } })] }
  now := 0
  log := []
  links := 0

theorem restless_node_removes_as_asked : ∃ log net',
    Runs restlessNode [⟨0, .perform (.broadcast 0 ⟨none, some "s", [1]⟩ none)⟩] log net' ∧
      RemovesAsAsked restlessNode net' log ∧
      ["a", "b", "c", "d"].map (net'.linkAt 0) = [some 5, none, some 2, some 3] := by
  have hRun : (run restless 60 restlessNode
      [.perform (.broadcast 0 ⟨none, some "s", [1]⟩ none)]).map
        (fun net => ["a", "b", "c", "d"].map (net.linkAt 0)) =
          some [some 5, none, some 2, some 3] := by
    decide +kernel
  obtain ⟨net', hRun, hTable⟩ := Option.map_eq_some_iff.1 hRun
  obtain ⟨deeds, hDoes, -⟩ := run_eq_some_iff.1 hRun
  obtain ⟨log, hRuns, -⟩ := runs_of_does hDoes 0
  exact ⟨log, net', hRuns, routing_removes_as_asked rfl hRuns, hTable⟩

end Network

end RobotBus
