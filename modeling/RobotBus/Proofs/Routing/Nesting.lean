import RobotBus.Proofs.Routing.Bridge

/-!
# Nested calls

A link that is sent a message may call nodes, which send messages to links, and so on. What nodes
do then does not depend on what these links are like: `Possible` says what one task can do with any
links, with any order in which a table is gone through, and at any time. In a run of such tasks
(`Runs`) each episode has a depth. A link is called at the depth of the operation that sends to it,
what it asks for is done one level deeper, and then its verdict is dealt with. So a call encloses
what is deeper, up to its verdict (`Runs.returns`), and whatever is done was asked for by a call
that encloses it, or is part of the operation that the run is of (`Runs.origin`). The runs of a
network with a given behaviour are among them (`runs_of_does`).
-/

namespace RobotBus

/-- A task at hand, with the number of calls of links that it is inside of. -/
structure Pending where
  depth : Nat
  task : Task

namespace Pending

/-- What a link asks for is inside of its call, and all else is beside it. -/
def depthOf (pending : Pending) : Task → Nat
  | .perform _ =>
    match pending.task with
    | .send .. => pending.depth + 1
    | .perform _ | .settle .. => pending.depth
  | .send .. | .settle .. => pending.depth

def lead (pending : Pending) (led : List Task) : List Pending :=
  led.map fun task => ⟨pending.depthOf task, task⟩

theorem le_depthOf (pending : Pending) (task : Task) : pending.depth ≤ pending.depthOf task := by
  cases task with
  | perform operation =>
    obtain ⟨depth, task⟩ := pending
    cases task with
    | perform _ | settle _ _ _ _ _ _ => exact Nat.le_refl depth
    | send _ _ _ _ _ => exact Nat.le_succ depth
  | send _ _ _ _ _ | settle _ _ _ _ _ _ => exact Nat.le_refl _

/-- What a node does by itself is not inside of a call. -/
theorem lead_perform (depth : Nat) (operation : Operation) (led : List Task) :
    (⟨depth, .perform operation⟩ : Pending).lead led = led.map (Pending.mk depth) := by
  refine List.map_congr_left fun task _ => ?_
  cases task with
  | perform _ | send _ _ _ _ _ | settle _ _ _ _ _ _ => rfl

end Pending

/-- A deed with its depth, between the network before it and the one after it. -/
structure Episode (σ : Type) extends Deed where
  depth : Nat
  before : Network σ
  after : Network σ

namespace Episode

variable {σ : Type}

def pending (episode : Episode σ) : Pending :=
  ⟨episode.depth, episode.task⟩

/-- What an episode leaves to be done. -/
def leads (episode : Episode σ) : List Pending :=
  episode.pending.lead episode.led

/-- Everything in a log is deeper than an episode. -/
def Encloses (episode : Episode σ) (log : List (Episode σ)) : Prop :=
  ∀ inner ∈ log, episode.depth < inner.depth

theorem le_of_mem_leads {episode : Episode σ} {next : Pending} (h : next ∈ episode.leads) :
    episode.depth ≤ next.depth := by
  obtain ⟨task, _, rfl⟩ := List.mem_map.1 h
  exact episode.pending.le_depthOf task

end Episode

/-- A call of a link: what the link asks for, one operation after the other, before it ends with a
verdict. -/
structure Sending where
  landing : Landing
  message : Message
  reach : Reach
  operations : List Operation
  verdict : Verdict

namespace Sending

/-- What is done about the verdict. -/
def settling (sending : Sending) : Task :=
  .settle sending.landing.node sending.landing.name sending.landing.link sending.message.target
    sending.reach sending.verdict

def deed (sending : Sending) : Deed where
  task := .send sending.landing.node sending.landing.name sending.landing.link sending.message
    sending.reach
  led := sending.operations.map .perform ++ [sending.settling]

/-- What a link asks for, as it is to be done inside of a call. -/
def inside (sending : Sending) (depth : Nat) : List Pending :=
  sending.operations.map fun operation => ⟨depth + 1, .perform operation⟩

theorem lt_of_mem_inside {sending : Sending} {depth : Nat} {next : Pending}
    (h : next ∈ sending.inside depth) : depth < next.depth := by
  obtain ⟨operation, _, rfl⟩ := List.mem_map.1 h
  exact Nat.lt_succ_self depth

theorem leads_eq {σ : Type} {sending : Sending} {call : Episode σ}
    (h : call.toDeed = sending.deed) :
    call.leads = sending.inside call.depth ++ [⟨call.depth, sending.settling⟩] := by
  have hTask : call.task = sending.deed.task := congrArg Deed.task h
  have hLed : call.led = sending.deed.led := congrArg Deed.led h
  rw [Episode.leads, Pending.lead, hLed, deed, List.map_append, List.map_map, Episode.pending,
    hTask]
  rfl

end Sending

namespace Network

variable {σ : Type}

/-- What a task can do and lead to, whatever links do. The clock, the log and what the links keep
may change at any time, and the links of a node may be gone through in any order. -/
inductive Possible : Network σ → Task → List Task → Network σ → Prop
  | perform {net now : Network σ} (operation : Operation) {led : List Task}
      (hNodes : now.nodes = net.nodes) (hLed : led.Perm (now.perform operation).2) :
      Possible net (.perform operation) led (now.perform operation).1
  | send {net net' : Network σ} (sending : Sending) (hNodes : net'.nodes = net.nodes) :
      Possible net sending.deed.task sending.deed.led net'
  | settle {net now : Network σ} (id : NodeId) (name : String) (link : LinkId)
      (target : Option String) (reach : Reach) (verdict : Verdict)
      (hNodes : now.nodes = net.nodes) :
      Possible net (.settle id name link target reach verdict) []
        (now.settle id name link target reach verdict)

/-- All tasks at hand are done, each with what it leads to before the next one. -/
inductive Runs : Network σ → List Pending → List (Episode σ) → Network σ → Prop
  | nil (net : Network σ) : Runs net [] [] net
  | step {net' : Network σ} {rest : List Pending} {log : List (Episode σ)} (episode : Episode σ)
      (hTask : Possible episode.before episode.task episode.led episode.after)
      (hRest : Runs episode.after (episode.leads ++ rest) log net') :
      Runs episode.before (episode.pending :: rest) (episode :: log) net'

/-- The episodes of a log follow one another from one network to another. -/
def Linked (net net' : Network σ) : List (Episode σ) → Prop
  | [] => net = net'
  | episode :: log => episode.before = net ∧ Linked episode.after net' log

variable {net net' : Network σ} {pending early late : List Pending}
  {log front back : List (Episode σ)} {episode call : Episode σ}

/-! ## The runs of a behaviour -/

theorem possible_step (behaviour : Behaviour σ) (net : Network σ) (task : Task) :
    Possible net task (net.step behaviour task).2 (net.step behaviour task).1 := by
  cases task with
  | perform operation => exact .perform operation rfl (.refl _)
  | send id name link message reach =>
    rw [step_send]
    exact .send ⟨⟨id, name, link⟩, message, reach, _, _⟩ (nodes_react net behaviour link message)
  | settle id name link target reach verdict => exact .settle id name link target reach verdict rfl

theorem runs_of_reaches {behaviour : Behaviour σ} {tasks tasks' : List Task} {deeds : List Deed}
    (h : Reaches behaviour net tasks deeds net' tasks') (hEnd : tasks' = [])
    (hPending : pending.map Pending.task = tasks) :
    ∃ log, Runs net pending log net' ∧ log.map Episode.toDeed = deeds := by
  induction h generalizing pending with
  | refl net tasks =>
    rw [hEnd, List.map_eq_nil_iff] at hPending
    rw [hPending]
    exact ⟨[], .nil net, rfl⟩
  | @step net net' task tasks tasks' deeds h ih =>
    obtain ⟨first, rest, rfl, rfl, rfl⟩ := List.map_eq_cons_iff.1 hPending
    let episode : Episode σ := ⟨⟨first.task, (net.step behaviour first.task).2⟩, first.depth, net,
      (net.step behaviour first.task).1⟩
    have hLeads : (episode.leads ++ rest).map Pending.task =
        (net.step behaviour first.task).2 ++ rest.map Pending.task := by
      rw [List.map_append, Episode.leads, Pending.lead, List.map_map]
      congr 1
      exact List.map_id _
    obtain ⟨log, hRuns, hDeeds⟩ := ih hEnd hLeads
    have hTask := possible_step behaviour net first.task
    refine ⟨episode :: log, .step episode hTask hRuns, ?_⟩
    rw [List.map_cons, hDeeds]

/-- What a network does with a given behaviour is a run, at whichever depth it begins. -/
theorem runs_of_does {behaviour : Behaviour σ} {tasks : List Task} {deeds : List Deed}
    (h : Does behaviour net tasks deeds net') (depth : Nat) :
    ∃ log, Runs net (tasks.map (Pending.mk depth)) log net' ∧ log.map Episode.toDeed = deeds := by
  refine runs_of_reaches h rfl ?_
  rw [List.map_map]
  exact List.map_id _

/-! ## Parts of a run -/

theorem Runs.linked (h : Runs net pending log net') : Linked net net' log := by
  induction h with
  | nil net => exact rfl
  | step episode _ _ ih => exact ⟨rfl, ih⟩

/-- A run of an operation begins with what the node does by itself. -/
theorem Runs.of_operation {depth : Nat} {operation : Operation}
    (h : Runs net [⟨depth, .perform operation⟩] log net') :
    ∃ (now : Network σ) (led : List Task) (log' : List (Episode σ)),
      now.nodes = net.nodes ∧ led.Perm (now.perform operation).2 ∧
      log = ⟨⟨.perform operation, led⟩, depth, net, (now.perform operation).1⟩ :: log' ∧
      Runs (now.perform operation).1 (led.map (Pending.mk depth)) log' net' := by
  generalize hPending : [(⟨depth, .perform operation⟩ : Pending)] = pending at h
  cases h with
  | nil => cases hPending
  | @step _ rest log episode hTask hRest =>
    obtain ⟨hFirst, rfl⟩ := List.cons.inj hPending
    obtain ⟨⟨task, led⟩, depth', before, after⟩ := episode
    obtain ⟨rfl, rfl⟩ := Pending.mk.inj hFirst
    rw [List.append_nil, Episode.leads, Episode.pending, Pending.lead_perform] at hRest
    generalize hOperation : Task.perform operation = task at hTask
    cases hTask with
    | send sending hNodes => cases hOperation
    | settle id name link target reach verdict hNodes => cases hOperation
    | @perform now other _ hNodes hLed =>
      obtain rfl := Task.perform.inj hOperation
      exact ⟨now, led, log, hNodes, hLed, rfl, hRest⟩

/-- What waits behind some tasks is begun after all that these have led to. -/
theorem Runs.split (h : Runs net (early ++ late) log net') :
    ∃ front back mid, log = front ++ back ∧ Runs net early front mid ∧ Runs mid late back net' := by
  generalize hPending : early ++ late = pending at h
  induction h generalizing early with
  | nil net =>
    obtain ⟨rfl, rfl⟩ := List.append_eq_nil_iff.1 hPending
    exact ⟨[], [], net, rfl, .nil net, .nil net⟩
  | @step net' rest log episode hTask hRest ih =>
    cases early with
    | nil =>
      rw [List.nil_append] at hPending
      subst hPending
      exact ⟨[], episode :: log, episode.before, rfl, .nil _, .step episode hTask hRest⟩
    | cons first early =>
      obtain ⟨rfl, rfl⟩ := List.cons.inj hPending
      obtain ⟨front, back, mid, rfl, hFront, hBack⟩ := ih (List.append_assoc _ _ _)
      exact ⟨episode :: front, back, mid, rfl, .step episode hTask hFront, hBack⟩

/-- After each episode comes what it has led to. -/
theorem Runs.after (h : Runs net pending (front ++ episode :: back) net') :
    Possible episode.before episode.task episode.led episode.after ∧
      ∃ rest, Runs episode.after (episode.leads ++ rest) back net' := by
  generalize hLog : front ++ episode :: back = log at h
  induction h generalizing front with
  | nil net => exact absurd hLog (by simp)
  | @step net' rest log first hTask hRest ih =>
    cases front with
    | nil =>
      obtain ⟨rfl, rfl⟩ := List.cons.inj hLog
      exact ⟨hTask, rest, hRest⟩
    | cons _ front => exact ih (List.cons.inj hLog).2

/-- Nothing in a run is less deep than what it begins with. -/
theorem Runs.le_depth {bound : Nat} (h : Runs net pending log net')
    (hPending : ∀ next ∈ pending, bound ≤ next.depth) : ∀ episode ∈ log, bound ≤ episode.depth := by
  induction h with
  | nil net =>
    intro episode hMem
    cases hMem
  | @step net' rest log first hTask hRest ih =>
    have hFirst : bound ≤ first.depth := hPending first.pending List.mem_cons_self
    intro episode hMem
    rcases List.mem_cons.1 hMem with rfl | hLater
    · exact hFirst
    · refine ih ?_ episode hLater
      intro next hNext
      rcases List.mem_append.1 hNext with hLed | hWaiting
      · exact Nat.le_trans hFirst (Episode.le_of_mem_leads hLed)
      · exact hPending next (List.mem_cons_of_mem _ hWaiting)

/-- Whatever is done was at hand at the beginning, or an earlier episode has led to it. In between
is all that comes of what was to be done before it. -/
theorem Runs.origin (h : Runs net pending (front ++ episode :: back) net') :
    (∃ early late, pending = early ++ episode.pending :: late ∧
        Runs net early front episode.before) ∨
      ∃ front' parent inner early late, front = front' ++ parent :: inner ∧
        Possible parent.before parent.task parent.led parent.after ∧
        parent.leads = early ++ episode.pending :: late ∧
        Runs parent.after early inner episode.before := by
  generalize hLog : front ++ episode :: back = log at h
  induction h generalizing front with
  | nil net => exact absurd hLog (by simp)
  | @step net' rest log first hTask hRest ih =>
    cases front with
    | nil =>
      obtain ⟨rfl, rfl⟩ := List.cons.inj hLog
      exact .inl ⟨[], rest, rfl, .nil _⟩
    | cons other front =>
      obtain ⟨rfl, hTail⟩ := List.cons.inj hLog
      rcases ih hTail with ⟨early, late, hAtHand, hEarly⟩ | ⟨front', parent, inner, hFront⟩
      · -- either the first episode has led to it, or it has waited behind the first one
        rcases List.append_eq_append_iff.1 hAtHand with ⟨more, rfl, hWaiting⟩ | ⟨more, hLed, hMore⟩
        · refine .inl ⟨other.pending :: more, late, by rw [hWaiting]; rfl, ?_⟩
          exact .step other hTask hEarly
        · cases more with
          | nil =>
            rw [List.append_nil] at hLed
            rw [List.nil_append] at hMore
            refine .inl ⟨[other.pending], late, by rw [← hMore]; rfl, ?_⟩
            refine .step other hTask ?_
            rw [List.append_nil, hLed]
            exact hEarly
          | cons next more =>
            obtain ⟨rfl, _⟩ := List.cons.inj hMore
            exact .inr ⟨[], other, front, early, more, rfl, hTask, hLed, hEarly⟩
      · obtain ⟨early, late, rfl, hParent⟩ := hFront
        exact .inr ⟨other :: front', parent, inner, early, late, rfl, hParent⟩

/-! ## Calls -/

/-- **A call encloses all that its link asks for**, and then its verdict is dealt with. -/
theorem Runs.returns {sending : Sending} (h : Runs net pending (front ++ call :: back) net')
    (hCall : call.toDeed = sending.deed) :
    ∃ inner settling back', back = inner ++ settling :: back' ∧ call.Encloses inner ∧
      settling.pending = ⟨call.depth, sending.settling⟩ ∧
      Possible settling.before settling.task settling.led settling.after := by
  obtain ⟨_, rest, hBack⟩ := h.after
  rw [Sending.leads_eq hCall, List.append_assoc] at hBack
  obtain ⟨inner, back', mid, rfl, hInner, hLast⟩ := hBack.split
  have hEncloses : call.Encloses inner :=
    hInner.le_depth fun next hNext => Sending.lt_of_mem_inside hNext
  generalize hPending : [(⟨call.depth, sending.settling⟩ : Pending)] ++ rest = waiting at hLast
  cases hLast with
  | nil => cases hPending
  | @step _ later log settling hTask hLater =>
    obtain ⟨hSettling, -⟩ := List.cons.inj hPending
    exact ⟨inner, settling, log, rfl, hEncloses, hSettling.symm, hTask⟩

/-- What a call has led to is one of the operations that the link asks for, or comes of the
verdict. The call encloses everything in between. -/
theorem Runs.enclosed {sending : Sending} (h : Runs call.after early log episode.before)
    (hCall : call.toDeed = sending.deed) (hLeads : call.leads = early ++ episode.pending :: late) :
    call.Encloses log ∧ (episode.pending ∈ sending.inside call.depth ∨
      episode.pending = ⟨call.depth, sending.settling⟩) := by
  rw [Sending.leads_eq hCall] at hLeads
  constructor
  · have hPrefix : early <+: sending.inside call.depth := by
      rcases List.prefix_concat_iff.1 ⟨_, hLeads.symm⟩ with hAll | hPrefix
      · -- nothing comes after the verdict
        rw [hAll, List.self_eq_append_right] at hLeads
        cases hLeads
      · exact hPrefix
    exact h.le_depth fun next hNext => Sending.lt_of_mem_inside (hPrefix.subset hNext)
  · have hMem : episode.pending ∈ early ++ episode.pending :: late :=
      List.mem_append_right _ List.mem_cons_self
    rw [← hLeads] at hMem
    rcases List.mem_append.1 hMem with hInside | hSettling
    · exact .inl hInside
    · exact .inr (List.mem_singleton.1 hSettling)

end Network

end RobotBus
