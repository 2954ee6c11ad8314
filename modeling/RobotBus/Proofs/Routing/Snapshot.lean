import Mathlib.Data.List.Nodup
import RobotBus.Proofs.Routing.Bridged
import RobotBus.Proofs.Routing.Nesting

/-!
# Broadcasts of a snapshot

While a node goes through its links, these may change what is bound there, call nodes again, or
break down. The message still goes once to each name that was bound at the beginning, and to the
link that was bound there then, unless that is the one to be left out
(`broadcast_calls_snapshot`). What is sent at the depth of a broadcast was at hand at its beginning
(`Runs.sendsAt_eq`), since links call nodes one level deeper.
-/

namespace RobotBus

/-- The binding under which a task at some depth calls a link, and the message. -/
def Pending.sentAt? (depth : Nat) (pending : Pending) : Option (Landing × Message) :=
  match pending.task with
  | .send node name link message _ =>
    if pending.depth = depth then some (⟨node, name, link⟩, message) else none
  | .perform _ | .settle .. => none

theorem Pending.sentAt?_of_lt {depth : Nat} {pending : Pending} (h : depth < pending.depth) :
    pending.sentAt? depth = none := by
  rw [sentAt?]
  split
  · exact if_neg (Nat.ne_of_gt h)
  · rfl
  · rfl

namespace Network

variable {σ : Type} {net net' : Network σ} {depth : Nat} {pending : List Pending}
  {log : List (Episode σ)} {id : NodeId} {message : Message} {deny : Option LinkId}

/-- The messages that links are sent at a depth, in order. -/
def sendsAt (depth : Nat) (log : List (Episode σ)) : List (Landing × Message) :=
  log.filterMap fun episode => episode.pending.sentAt? depth

/-- What is led to by a call, or by what is deeper, calls no link at the depth of the call. -/
theorem sentAt?_leads {episode : Episode σ}
    (h : depth < episode.depth ∨ episode.depth = depth ∧ episode.task.operation? = none)
    (hTask : Possible episode.before episode.task episode.led episode.after) :
    ∀ next ∈ episode.leads,
      depth < next.depth ∨ next.depth = depth ∧ next.task.operation? = none ∧
        next.sentAt? depth = none := by
  intro next hNext
  rcases h with hDeeper | ⟨rfl, hCall⟩
  · exact .inl (Nat.lt_of_lt_of_le hDeeper (Episode.le_of_mem_leads hNext))
  · obtain ⟨⟨task, led⟩, depth, before, after⟩ := episode
    cases hTask with
    | perform operation hNodes hLed => cases hCall
    | send sending hNodes =>
      rw [@Sending.leads_eq _ sending _ rfl] at hNext
      rcases List.mem_append.1 hNext with hInside | hSettling
      · exact .inl (Sending.lt_of_mem_inside hInside)
      · rw [List.mem_singleton.1 hSettling]
        exact .inr ⟨rfl, rfl, rfl⟩
    | settle id name link target reach verdict hNodes => cases hNext

/-- **Links call nodes one level deeper**, so at their own depth only those links are called that
were to be called at the beginning. -/
theorem Runs.sendsAt_eq (h : Runs net pending log net')
    (hPending : ∀ next ∈ pending,
      depth < next.depth ∨ next.depth = depth ∧ next.task.operation? = none) :
    sendsAt depth log = pending.filterMap (Pending.sentAt? depth) := by
  induction h with
  | nil net => rfl
  | @step net' rest log episode hTask hRest ih =>
    have hLeads := sentAt?_leads (hPending episode.pending List.mem_cons_self) hTask
    have hNone : episode.leads.filterMap (Pending.sentAt? depth) = [] := by
      rw [List.filterMap_eq_nil_iff]
      intro next hNext
      rcases hLeads next hNext with hDeeper | ⟨_, _, hSent⟩
      · exact Pending.sentAt?_of_lt hDeeper
      · exact hSent
    have hLater : sendsAt depth log = rest.filterMap (Pending.sentAt? depth) := by
      rw [ih, List.filterMap_append, hNone, List.nil_append]
      intro next hNext
      rcases List.mem_append.1 hNext with hLed | hWaiting
      · rcases hLeads next hLed with hDeeper | ⟨hDepth, hCall, _⟩
        · exact .inl hDeeper
        · exact .inr ⟨hDepth, hCall⟩
      · exact hPending next (List.mem_cons_of_mem _ hWaiting)
    rw [sendsAt, List.filterMap_cons, List.filterMap_cons, ← sendsAt, hLater]

/-! ## Broadcasts -/

/-- The message of a broadcast for one binding of a node. -/
def copyFor (id : NodeId) (message : Message) (entry : String × LinkId) : Landing × Message :=
  (⟨id, entry.1, entry.2⟩, ⟨some "*", message.source, message.payload⟩)

/-- The messages that a broadcast hands to the bindings of a node, except those of one link. -/
def copies (net : Network σ) (id : NodeId) (message : Message) (deny : Option LinkId) :
    List (Landing × Message) :=
  match net.nodes.get? id with
  | none => []
  | some node =>
    (node.links.entries.filter fun entry => deny ≠ some entry.2).map (copyFor id message)

/-- To call a link with its copy. -/
def copyTask (copy : Landing × Message) : Task :=
  .send copy.1.node copy.1.name copy.1.link copy.2 .everyone

theorem copyFor_injective (id : NodeId) (message : Message) :
    Function.Injective (copyFor id message) := by
  intro entry entry' h
  have hLanding : (⟨id, entry.1, entry.2⟩ : Landing) = ⟨id, entry'.1, entry'.2⟩ :=
    congrArg Prod.fst h
  obtain ⟨-, hName, hLink⟩ := Landing.mk.inj hLanding
  exact Prod.ext hName hLink

theorem nodup_copies (net : Network σ) (id : NodeId) (message : Message) (deny : Option LinkId) :
    (copies net id message deny).Nodup := by
  rw [copies]
  split
  · exact List.nodup_nil
  · rename_i node _
    have hEntries : node.links.entries.Nodup := node.links.distinct.of_map Prod.fst
    exact (hEntries.filter _).map (copyFor_injective id message)

theorem mem_copies {landing : Landing} {sent : Message} :
    (landing, sent) ∈ copies net id message deny ↔
      landing.node = id ∧ net.linkAt id landing.name = some landing.link ∧
        deny ≠ some landing.link ∧ sent = ⟨some "*", message.source, message.payload⟩ := by
  rw [copies, linkAt]
  cases net.nodes.get? id with
  | none =>
    constructor
    · intro h
      cases h
    · rintro ⟨_, hNone, _⟩
      cases hNone
  | some node =>
    rw [Option.bind_some, List.mem_map]
    constructor
    · rintro ⟨⟨name, link⟩, hEntry, hCopy⟩
      obtain ⟨hMem, hDeny⟩ := List.mem_filter.1 hEntry
      obtain ⟨rfl, rfl⟩ := Prod.mk.inj hCopy
      exact ⟨rfl, Bindings.mem_entries_iff.1 hMem, of_decide_eq_true hDeny, rfl⟩
    · obtain ⟨node', name, link⟩ := landing
      rintro ⟨rfl, hLink, hDeny, rfl⟩
      refine ⟨(name, link), List.mem_filter.2 ⟨Bindings.mem_entries_iff.2 hLink, ?_⟩, rfl⟩
      exact decide_eq_true hDeny

theorem copies_of_nodes {now : Network σ} (h : now.nodes = net.nodes) (id : NodeId)
    (message : Message) (deny : Option LinkId) :
    copies now id message deny = copies net id message deny := by
  rw [copies, copies, h]

/-- All that a broadcast has to do is to hand out its copies. -/
theorem perform_broadcast (net : Network σ) (id : NodeId) (message : Message)
    (deny : Option LinkId) :
    (net.perform (.broadcast id message deny)).2 =
      (copies net id message deny).map copyTask := by
  rw [perform, copies]
  cases net.nodes.get? id with
  | none => rfl
  | some node =>
    show broadcastTasks id node message deny = _
    rw [List.map_map]
    rfl

/-- What links are sent by a broadcast itself. -/
theorem Runs.sendsAt_broadcast
    (h : Runs net [⟨depth, .perform (.broadcast id message deny)⟩] log net') :
    (sendsAt depth log).Perm (copies net id message deny) := by
  obtain ⟨now, led, log, hNodes, hLed, rfl, hRest⟩ := h.of_operation
  rw [perform_broadcast, copies_of_nodes hNodes] at hLed
  have hCalls : ∀ next ∈ led.map (Pending.mk depth),
      depth < next.depth ∨ next.depth = depth ∧ next.task.operation? = none := by
    intro next hNext
    obtain ⟨task, hTask, rfl⟩ := List.mem_map.1 hNext
    obtain ⟨copy, _, rfl⟩ := List.mem_map.1 (hLed.mem_iff.1 hTask)
    exact .inr ⟨rfl, rfl⟩
  have hSome : (Pending.sentAt? depth ∘ Pending.mk depth ∘ copyTask) = some := by
    funext copy
    exact if_pos rfl
  rw [sendsAt, List.filterMap_cons_none rfl, ← sendsAt, hRest.sendsAt_eq hCalls]
  refine ((hLed.map _).filterMap _).trans ?_
  rw [List.map_map, List.filterMap_map, hSome, List.filterMap_some]

/-- **A broadcast calls each link that is bound at its beginning once under each name**, whatever
these links do. -/
theorem broadcast_calls_snapshot
    (h : Runs net [⟨depth, .perform (.broadcast id message deny)⟩] log net') :
    (∀ landing sent, (sendsAt depth log).count (landing, sent) =
      if landing.node = id ∧ net.linkAt id landing.name = some landing.link ∧
        deny ≠ some landing.link ∧ sent = ⟨some "*", message.source, message.payload⟩
      then 1 else 0) ∧
    ∀ log' net'', Runs net [⟨depth, .perform (.broadcast id message deny)⟩] log' net'' →
      (sendsAt depth log').Perm (sendsAt depth log) := by
  have hCopies := h.sendsAt_broadcast
  constructor
  · intro landing sent
    have hNodup := nodup_copies net id message deny
    rw [hCopies.count_eq, hNodup.count]
    exact if_congr mem_copies rfl rfl
  · intro log' net'' h'
    exact h'.sendsAt_broadcast.trans hCopies.symm

/-! ## A node that changes under a broadcast -/

/-- One link takes another one down, puts a new one in place of a third one and adds a fourth one,
broadcasts a message of its own and then breaks down. A link that is called otherwise asks to be
removed if its number is even. -/
def meddling : Behaviour Unit := fun _ link _ =>
  if link = 1 then
    { links := ()
      operations := [.remove 0 "b", .replace 0 "c" 4, .add 0 "e" 5,
        .broadcast 0 ⟨none, none, [7]⟩ (some 1)]
      verdict := .fault none }
  else { links := (), verdict := if link % 2 = 0 then .remove else .keep }

/-- The meddling link is bound under two names. -/
def meddled : Network Unit where
  nodes := {
    entries := [(0, { links := {
      entries := [("a", 1), ("b", 2), ("c", 3), ("d", 1)]
      distinct := by decide } })] }
  now := 0
  log := []
  links := ()

theorem meddled_broadcast_calls_snapshot : ∃ log net',
    Runs meddled [⟨0, .perform (.broadcast 0 ⟨none, some "s", [1]⟩ none)⟩] log net' ∧
      (sendsAt 0 log).count (⟨0, "a", 1⟩, ⟨some "*", some "s", [1]⟩) = 1 ∧
      (sendsAt 0 log).count (⟨0, "b", 2⟩, ⟨some "*", some "s", [1]⟩) = 1 ∧
      (sendsAt 0 log).count (⟨0, "c", 3⟩, ⟨some "*", some "s", [1]⟩) = 1 ∧
      (sendsAt 0 log).count (⟨0, "d", 1⟩, ⟨some "*", some "s", [1]⟩) = 1 ∧
      (sendsAt 0 log).count (⟨0, "c", 4⟩, ⟨some "*", some "s", [1]⟩) = 0 ∧
      (sendsAt 0 log).count (⟨0, "e", 5⟩, ⟨some "*", some "s", [1]⟩) = 0 := by
  have hRun : (run meddling 60 meddled
      [.perform (.broadcast 0 ⟨none, some "s", [1]⟩ none)]).isSome = true := by
    decide +kernel
  obtain ⟨net', hRun⟩ := Option.isSome_iff_exists.1 hRun
  obtain ⟨deeds, hDoes, -⟩ := run_eq_some_iff.1 hRun
  obtain ⟨log, hRuns, -⟩ := runs_of_does hDoes 0
  have hCount := (broadcast_calls_snapshot hRuns).1
  refine ⟨log, net', hRuns, ?_, ?_, ?_, ?_, ?_, ?_⟩
  · exact (hCount _ _).trans (if_pos (by decide))
  · exact (hCount _ _).trans (if_pos (by decide))
  · exact (hCount _ _).trans (if_pos (by decide))
  · exact (hCount _ _).trans (if_pos (by decide))
  · exact (hCount _ _).trans (if_neg (by decide))
  · exact (hCount _ _).trans (if_neg (by decide))

end Network

end RobotBus
