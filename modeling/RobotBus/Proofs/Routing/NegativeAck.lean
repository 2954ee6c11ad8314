import RobotBus.Proofs.Routing.Duality

/-!
# Negative acknowledgements

In a bridged network a message that is not for everyone follows its target from bridge to bridge,
until the first segment of what is left of the target is not that of a bridge (`exists_route`). If
there is no such link at all, the node where the message has come to may report it: it sends one
negative acknowledgement back. This one goes the way of the message backwards, and further along the
source that the message had at first. It gets shorter with each bridge, and is not reported wherever
it ends, so that it is the only message that nodes send by themselves.
-/

namespace RobotBus

/-- A node reports a message along `path`: there is no link for it, and neither its payload nor the
path nor an earlier report stand against it. -/
structure Node.Reports (node : Node) (path : String) (payload : Bytes) (now : Moment) : Prop where
  missing : node.links.get? (Path.split path).1 = none
  notAck : Payload.isNegativeAck payload = false
  notProbe : Path.isProbe path = false
  notSuppressed : node.reporter.suppresses (Path.split path).1 now = false

/-- No bridge leads from a node along a path. -/
def Stops (bridges : List Bridge) (last : NodeId) (rest : Option String) : Prop :=
  ∀ path ∈ rest, ∀ bridge, Crosses bridges bridge → bridge.near.node = last →
    bridge.near.name ≠ (Path.split path).1

/-- From the end of a route, where `message` has become `message'`, one negative acknowledgement is
sent, and no other message of a node. It comes to the node where the route began, with the source of
the message as its target and the target as its source. -/
structure Acknowledged (walk : List Bridge) (first last : NodeId) (message message' : Message)
    (log : List Deed) : Prop where
  once : originations log =
    [.transmit last ⟨message'.source, message'.target, Payload.negativeAck⟩ none]
  returns : ∃ back onward, calls log = (last, message') :: back ++
      (first, ⟨message.source, message.target, Payload.negativeAck⟩) :: onward ∧
    back.map Prod.fst = (Bridge.back walk).map (·.near.node)

/-- A message comes to the end of its route. If it is reported there it is acknowledged, and
otherwise nodes send nothing by themselves. -/
structure Ended (walk : List Bridge) (first last : NodeId) (message message' : Message)
    (reported : Prop) (log : List Deed) : Prop where
  arrives : ∃ onward, calls log = (last, message') :: onward
  quiet : ¬reported → originations log = []
  acknowledged : reported → Acknowledged walk first last message message' log

theorem Acknowledged.append {walk : List Bridge} {first last : NodeId} {message message' : Message}
    {log ending : List Deed} (h : Acknowledged walk first last message message' log)
    (hCalls : calls ending = []) (hOriginations : originations ending = []) :
    Acknowledged walk first last message message' (log ++ ending) := by
  constructor
  · rw [originations_append, hOriginations, List.append_nil, h.once]
  · rw [calls_append, hCalls, List.append_nil]
    exact h.returns

theorem Ended.append {walk : List Bridge} {first last : NodeId} {message message' : Message}
    {reported : Prop} {log ending : List Deed}
    (h : Ended walk first last message message' reported log) (hCalls : calls ending = [])
    (hOriginations : originations ending = []) :
    Ended walk first last message message' reported (log ++ ending) := by
  refine ⟨?_, ?_, fun hReported => (h.acknowledged hReported).append hCalls hOriginations⟩
  · rw [calls_append, hCalls, List.append_nil]
    exact h.arrives
  · intro hNot
    rw [originations_append, hOriginations, List.append_nil, h.quiet hNot]

/-- Every target leads along a route to where it stops. -/
theorem exists_route (bridges : List Bridge) (first : NodeId) (target : Option String) :
    ∃ walk last rest, Route bridges first walk last ∧
      target = Path.along (walk.map (·.near.name)) rest ∧ Stops bridges last rest := by
  induction hLength : target.elim 0 (fun path => path.toList.length + 1)
    using Nat.strongRecOn generalizing first target with
  | ind length ih =>
    by_cases hStops : Stops bridges first target
    · exact ⟨[], first, target, .nil bridges first, rfl, hStops⟩
    · obtain ⟨path, rfl, bridge, hBridge, hNode, hName⟩ :
          ∃ path, target = some path ∧ ∃ bridge, Crosses bridges bridge ∧
            bridge.near.node = first ∧ bridge.near.name = (Path.split path).1 := by
        simpa [Stops] using hStops
      have hShorter : (Path.split path).2.elim 0 (fun rest => rest.toList.length + 1) < length := by
        rw [← hLength]
        cases hRest : (Path.split path).2 with
        | none => exact Nat.succ_pos _
        | some rest => exact Nat.succ_lt_succ (Path.length_rest_lt hRest)
      obtain ⟨walk, last, rest, hRoute, hTarget, hEnd⟩ :=
        ih _ hShorter bridge.far.node (Path.split path).2 rfl
      refine ⟨bridge :: walk, last, rest, .cons hBridge hNode hRoute, ?_, hEnd⟩
      rw [List.map_cons, Path.along_cons, ← hTarget, hName, Path.through_split]

namespace Network

variable {σ : Type} {behaviour : Behaviour σ} {bridges : List Bridge} {net : Network σ}
  {first last : NodeId}

/-- A complete execution begins with its first task. -/
theorem Does.eq_cons {net' : Network σ} {task : Task} {tasks : List Task} {log : List Deed}
    (h : Does behaviour net (task :: tasks) log net') :
    ∃ led later, log = ⟨task, led⟩ :: later := by
  cases h with
  | step h => exact ⟨_, _, rfl⟩

/-- What is done at the end of a walk is all that a message leads to. -/
theorem Leads.does {walk : List Bridge} {message message' : Message}
    (h : Leads behaviour net walk first message last message')
    (hCarries : ∀ bridge ∈ walk, bridge.Carries behaviour) (P : List Deed → Prop)
    (hEnd : ∀ mid deny, mid.nodes = net.nodes → mid.now = net.now → ∃ log net',
      Does behaviour mid [.perform (.transmit last message' deny)] log net' ∧ P log)
    (deny : Option LinkId) :
    ∃ there log ending net', Does behaviour net [.perform (.transmit first message deny)]
        (there ++ (log ++ ending)) net' ∧ P log ∧
      (calls there).map Prod.fst = walk.map (·.near.node) ∧ originations there = [] ∧
      calls ending = [] ∧ originations ending = [] := by
  obtain ⟨there, mid, deny', settling, hThere, hPassage⟩ := h deny []
  obtain ⟨log, net', hLog, hP⟩ := hEnd mid deny' hPassage.nodes hPassage.now
  obtain ⟨ending, hEnding, hCalls, hOriginations⟩ :=
    does_settling net' hCarries hPassage.settling
  rw [List.append_nil] at hThere
  exact ⟨there, log, ending, net', hThere.trans (hLog.append hEnding), hP, hPassage.stops,
    hPassage.originations, hCalls, hOriginations⟩

/-! ## The end of a route -/

theorem Bridged.not_isEnd (h : Bridged behaviour bridges net) {path : String} {link : LinkId}
    (hStops : Stops bridges last (some path))
    (hLink : net.linkAt last (Path.split path).1 = some link) :
    ¬IsEnd bridges link := by
  rintro ⟨bridge, hBridge, rfl⟩
  obtain ⟨hNode, hName⟩ := h.only bridge hBridge _ _ hLink
  exact hStops path rfl bridge hBridge hNode.symm hName.symm

theorem Bridged.of_reporter (h : Bridged behaviour bridges net) {id : NodeId} {node : Node}
    (hNode : net.nodes.get? id = some node) (reporter : MissingLinkReporter) :
    Bridged behaviour bridges (net.setNode id { node with reporter }) := by
  refine h.congr fun other name => ?_
  rw [linkAt, linkAt, setNode, Bindings.get?_insert]
  split
  · rename_i hSame
    subst hSame
    rw [hNode, Option.bind_some, Option.bind_some]
  · rfl

/-- What a node does with a message for which it has no link. -/
theorem step_missing {node : Node} (hNode : net.nodes.get? last = some node) {path : String}
    (hPath : path ≠ Path.everyone) (hMissing : node.links.get? (Path.split path).1 = none)
    (source : Option String) (payload : Bytes) (deny : Option LinkId) :
    net.step behaviour (.perform (.transmit last ⟨some path, source, payload⟩ deny)) =
      net.missing last node path (Path.split path).1 ⟨some path, source, payload⟩ := by
  simp only [step, perform, hNode, transmitTasks, if_neg hPath, hMissing]

/-- A message that is reported leads to a negative acknowledgement. -/
theorem Bridged.step_reported (h : Bridged behaviour bridges net) {node : Node}
    (hNode : net.nodes.get? last = some node) {path : String} (hPath : path ≠ Path.everyone)
    (source : Option String) {payload : Bytes} (deny : Option LinkId)
    (hReports : node.Reports path payload net.now) :
    ∃ net', net.step behaviour (.perform (.transmit last ⟨some path, source, payload⟩ deny)) =
        (net', [.perform (.transmit last ⟨source, some path, Payload.negativeAck⟩ none)]) ∧
      Bridged behaviour bridges net' ∧
      ∀ id, net.nodes.contains id = true → net'.nodes.contains id = true := by
  have hReport : node.reporter.report path (Path.split path).1 payload net.now =
      (true, { node.reporter with last := some ((Path.split path).1, net.now) }) := by
    rw [MissingLinkReporter.report, MissingLinkReporter.isExempt, hReports.notAck,
      hReports.notProbe, hReports.notSuppressed]
    rfl
  rw [step_missing hNode hPath hReports.missing, missing, hReport]
  exact ⟨_, rfl, (h.of_reporter hNode _).of_nodes rfl, fun _ => contains_setNode last _⟩

/-- A message that is not reported leads to nothing. -/
theorem Bridged.step_unreported (h : Bridged behaviour bridges net) {node : Node}
    (hNode : net.nodes.get? last = some node) {path : String} (hPath : path ≠ Path.everyone)
    (hMissing : node.links.get? (Path.split path).1 = none) (source : Option String)
    {payload : Bytes} (deny : Option LinkId) (hQuiet : ¬node.Reports path payload net.now) :
    ∃ net', net.step behaviour (.perform (.transmit last ⟨some path, source, payload⟩ deny)) =
        (net', []) ∧ Bridged behaviour bridges net' := by
  have hReport : node.reporter.report path (Path.split path).1 payload net.now =
      (false, node.reporter) := by
    rw [MissingLinkReporter.report, MissingLinkReporter.isExempt, if_pos]
    apply Decidable.byContradiction
    intro hNothing
    simp only [Bool.or_eq_true, not_or, Bool.not_eq_true] at hNothing
    exact hQuiet ⟨hMissing, hNothing.1.1, hNothing.1.2, hNothing.2⟩
  rw [step_missing hNode hPath hMissing, missing, hReport]
  exact ⟨_, rfl, h.of_reporter hNode _⟩

/-- Where a route stops, a message that is not reported leads to nothing but what a passive link
does. -/
theorem Bridged.does_end (h : Bridged behaviour bridges net) {node : Node}
    (hNode : net.nodes.get? last = some node) {rest : Option String}
    (hStops : Stops bridges last rest) (hEnds : Path.EndsAtOne rest) (source : Option String)
    {payload : Bytes} (deny : Option LinkId)
    (hQuiet : ∀ path ∈ rest, ¬node.Reports path payload net.now) :
    ∃ log net',
      Does behaviour net [.perform (.transmit last ⟨rest, source, payload⟩ deny)] log net' ∧
      Bridged behaviour bridges net' ∧ originations log = [] := by
  cases rest with
  | none =>
    have hStep : ∃ net',
        net.step behaviour (.perform (.transmit last ⟨none, source, payload⟩ deny)) = (net', []) ∧
          net'.nodes = net.nodes := by
      simp only [step, perform, hNode, transmitTasks]
      split
      · exact ⟨_, rfl, rfl⟩
      · exact ⟨_, rfl, rfl⟩
    obtain ⟨net', hStep, hNodes⟩ := hStep
    exact ⟨_, net', does_of_step hStep (does_nil net'), h.of_nodes hNodes, rfl⟩
  | some path =>
    have hPath := hEnds.ne_everyone
    cases hLink : node.links.get? (Path.split path).1 with
    | none =>
      obtain ⟨net', hStep, hBridged⟩ :=
        h.step_unreported hNode hPath hLink source deny (hQuiet path rfl)
      exact ⟨_, net', does_of_step hStep (does_nil net'), hBridged, rfl⟩
    | some link =>
      have hEnd := h.not_isEnd hStops ((linkAt_of_get? hNode _).trans hLink)
      have hStep : net.step behaviour
          (.perform (.transmit last ⟨some path, source, payload⟩ deny)) =
            (net, [.send last (Path.split path).1 link ⟨(Path.split path).2, source, payload⟩
              .direct]) := by
        simp only [step, perform, hNode, transmitTasks, if_neg hPath, hLink]
      obtain ⟨verdict, net', hSend, hBridged, _⟩ := h.does_send hEnd last (Path.split path).1
        ⟨(Path.split path).2, source, payload⟩ .direct
      exact ⟨_, net', does_of_step hStep hSend, hBridged, rfl⟩

/-! ## The whole way -/

variable {message : Message}

theorem node_of_contains {id : NodeId} (h : net.nodes.contains id = true) :
    ∃ node, net.nodes.get? id = some node :=
  Option.isSome_iff_exists.1 h

/-- A negative acknowledgement ends somewhere, and leads to no other one. -/
theorem Bridged.does_negativeAck (h : Bridged behaviour bridges net)
    (hFirst : net.nodes.contains first = true) (hAck : Payload.isNegativeAck message.payload = true)
    (hTarget : Path.EndsAtOne message.target) (deny : Option LinkId) :
    ∃ log net', Does behaviour net [.perform (.transmit first message deny)] log net' ∧
      originations log = [] ∧ ∃ onward, calls log = (first, message) :: onward := by
  obtain ⟨target, source, payload⟩ := message
  obtain ⟨walk, last, rest, hRoute, rfl, hStops⟩ := exists_route bridges first target
  obtain ⟨node, hNode⟩ := node_of_contains (h.contains_of_route hRoute hFirst)
  have hQuiet : ∀ path ∈ rest, ¬node.Reports path payload net.now := fun path _ hReports => by
    rw [hReports.notAck] at hAck
    cases hAck
  have hLeads := leads_along hRoute.isWalk (h.joined_of_route hRoute) rest source payload
  obtain ⟨there, log, ending, net', hDoes, hLog, _, hThere, _, hEnding⟩ := hLeads.does
    (fun bridge hBridge => h.carries bridge (hRoute.crosses bridge hBridge))
    (fun log => originations log = []) (fun mid deny' hNodes hNow => by
      rw [← hNodes] at hNode
      rw [← hNow] at hQuiet
      obtain ⟨log, net', hLog, _, hNone⟩ :=
        (h.of_nodes hNodes).does_end hNode hStops hTarget.of_along _ deny' hQuiet
      exact ⟨log, net', hLog, hNone⟩) deny
  refine ⟨_, net', hDoes, ?_, ?_⟩
  · rw [originations_append, originations_append, hThere, hLog, hEnding]
    rfl
  · obtain ⟨led, later, hLater⟩ := hDoes.eq_cons
    rw [hLater]
    exact ⟨_, rfl⟩

/-- What is reported at the end of a route goes back to where the route began. -/
theorem Bridged.does_reported (h : Bridged behaviour bridges net) {walk : List Bridge}
    (hRoute : Route bridges first walk last) (hFirst : net.nodes.contains first = true)
    {node : Node} (hNode : net.nodes.get? last = some node) {path : String}
    (hPath : path ≠ Path.everyone) {source : Option String} (hSource : Path.EndsAtOne source)
    {payload : Bytes} (hReports : node.Reports path payload net.now) (deny : Option LinkId) :
    let message := ⟨Path.along (walk.map (·.near.name)) (some path), source, payload⟩
    let message' := ⟨some path, Path.along (walk.reverse.map (·.far.name)) source, payload⟩
    ∃ log net', Does behaviour net [.perform (.transmit last message' deny)] log net' ∧
      Acknowledged walk first last message message' log := by
  intro message message'
  obtain ⟨mid, hStep, hMid, hContains⟩ := h.step_reported hNode hPath message'.source deny hReports
  have hLeads := leads_back hRoute.isWalk (hMid.joined_of_route hRoute) (some path) source
    Payload.negativeAck
  have hBack : ∀ bridge ∈ Bridge.back walk, bridge.Carries behaviour := fun bridge hBridge =>
    hMid.carries bridge (hRoute.crosses bridge.reverse (Bridge.mem_back.1 hBridge)).reverse
  obtain ⟨there, log, ending, net', hDoes, ⟨hLog, onward, hOnward⟩, hStops, hThere, hCalls,
    hEnding⟩ := hLeads.does hBack
      (fun log => originations log = [] ∧ ∃ onward, calls log =
        (first, ⟨message.source, message.target, Payload.negativeAck⟩) :: onward)
      (fun later deny' hNodes _ => by
        have hLater := hContains first hFirst
        rw [← hNodes] at hLater
        exact (hMid.of_nodes hNodes).does_negativeAck hLater rfl hSource deny') none
  refine ⟨_, net', does_of_step hStep hDoes, ?_, calls there, onward, ?_, hStops⟩
  · have hNone : originations (there ++ (log ++ ending)) = [] := by
      rw [originations_append, originations_append, hThere, hLog, hEnding]
      rfl
    change [_] ++ originations (there ++ (log ++ ending)) = _
    rw [hNone]
    rfl
  · change (last, _) :: calls (there ++ (log ++ ending)) = _
    rw [calls_append, calls_append, hOnward, hCalls, List.append_nil]
    rfl

theorem Bridged.does_stop (h : Bridged behaviour bridges net) {walk : List Bridge}
    (hRoute : Route bridges first walk last) (hFirst : net.nodes.contains first = true)
    {node : Node} (hNode : net.nodes.get? last = some node) {rest : Option String}
    (hStops : Stops bridges last rest) (hEnds : Path.EndsAtOne rest) {source : Option String}
    (hSource : Path.EndsAtOne source) (payload : Bytes) (deny : Option LinkId) :
    let message := ⟨Path.along (walk.map (·.near.name)) rest, source, payload⟩
    let message' := ⟨rest, Path.along (walk.reverse.map (·.far.name)) source, payload⟩
    ∃ log net', Does behaviour net [.perform (.transmit last message' deny)] log net' ∧
      Ended walk first last message message' (∃ path ∈ rest, node.Reports path payload net.now)
        log := by
  intro message message'
  by_cases hReported : ∃ path ∈ rest, node.Reports path payload net.now
  · obtain ⟨path, hRest, hReports⟩ := id hReported
    obtain rfl := Option.mem_def.1 hRest
    obtain ⟨log, net', hDoes, hAcknowledged⟩ :=
      h.does_reported hRoute hFirst hNode hEnds.ne_everyone hSource hReports deny
    obtain ⟨back, onward, hCalls, _⟩ := hAcknowledged.returns
    exact ⟨log, net', hDoes, ⟨_, hCalls⟩, fun hNot => absurd hReported hNot, fun _ => hAcknowledged⟩
  · have hQuiet : ∀ path ∈ rest, ¬node.Reports path payload net.now := fun path hPath hReports =>
      hReported ⟨path, hPath, hReports⟩
    obtain ⟨log, net', hDoes, _, hNone⟩ :=
      h.does_end hNode hStops hEnds message'.source deny hQuiet
    refine ⟨log, net', hDoes, ?_, fun _ => hNone, fun hYes => absurd hYes hReported⟩
    obtain ⟨led, later, hLater⟩ := hDoes.eq_cons
    rw [hLater]
    exact ⟨_, rfl⟩

/-- **A message leads to one negative acknowledgement at most, which names its path.** In a bridged
network, whatever way its bridges take, a message that is not for everyone follows its target along
a route and is done with after finitely many steps. Exactly if the node where the route stops
reports it, this node sends a negative acknowledgement, which arrives at the node where the message
was sent, with the source of the message as its target and the target as its source. Nodes send no
other message by themselves. -/
theorem negativeAck_names_path (h : Bridged behaviour bridges net)
    (hFirst : net.nodes.contains first = true) (message : Message)
    (hTarget : Path.EndsAtOne message.target) (hSource : Path.EndsAtOne message.source)
    (deny : Option LinkId) :
    ∃ walk last rest node, Route bridges first walk last ∧ net.nodes.get? last = some node ∧
      message.target = Path.along (walk.map (·.near.name)) rest ∧ Stops bridges last rest ∧
      let returning := Path.along (walk.reverse.map (·.far.name)) message.source
      let reported := ∃ path ∈ rest, node.Reports path message.payload net.now
      ∃ there log net',
        run behaviour (there ++ log).length net [.perform (.transmit first message deny)] =
          some net' ∧
        Does behaviour net [.perform (.transmit first message deny)] (there ++ log) net' ∧
        (calls there).map Prod.fst = walk.map (·.near.node) ∧ originations there = [] ∧
        Ended walk first last message ⟨rest, returning, message.payload⟩ reported log := by
  obtain ⟨target, source, payload⟩ := message
  obtain ⟨walk, last, rest, hRoute, rfl, hStops⟩ := exists_route bridges first target
  obtain ⟨node, hNode⟩ := node_of_contains (h.contains_of_route hRoute hFirst)
  refine ⟨walk, last, rest, node, hRoute, hNode, rfl, hStops, ?_⟩
  intro returning reported
  have hLeads := leads_along hRoute.isWalk (h.joined_of_route hRoute) rest source payload
  obtain ⟨there, log, ending, net', hDoes, hEnded, hWay, hThere, hCalls, hEnding⟩ := hLeads.does
    (fun bridge hBridge => h.carries bridge (hRoute.crosses bridge hBridge))
    (Ended walk first last ⟨_, source, payload⟩ ⟨rest, returning, payload⟩ reported)
    (fun mid deny' hNodes hNow => by
      rw [← hNodes] at hFirst hNode
      have hStop := (h.of_nodes hNodes).does_stop hRoute hFirst hNode hStops hTarget.of_along
        hSource payload deny'
      rw [hNow] at hStop
      exact hStop) deny
  exact ⟨there, log ++ ending, net', run_eq_some_iff.2 ⟨_, hDoes, Nat.le_refl _⟩, hDoes, hWay,
    hThere, hEnded.append hCalls hEnding⟩

open Simulation in
/-- A message along a row, beyond whose end there is no link. -/
theorem negativeAck_names_path_in_row :
    row.Bridged (forgetful rowLab) rowBridges ∧ row.nodes.contains 0 = true ∧
      Path.EndsAtOne (some "a/c/x/y") ∧ Path.EndsAtOne (some "s") ∧
      ∃ walk last rest node, Route rowBridges 0 walk last ∧ row.nodes.get? last = some node ∧
        some "a/c/x/y" = Path.along (walk.map (·.near.name)) rest ∧ Stops rowBridges last rest ∧
        let message : Message := ⟨some "a/c/x/y", some "s", [7]⟩
        let returning := Path.along (walk.reverse.map (·.far.name)) message.source
        let reported := ∃ path ∈ rest, node.Reports path message.payload row.now
        ∃ there log net',
          run (forgetful rowLab) (there ++ log).length row
            [.perform (.transmit 0 message none)] = some net' ∧
          Does (forgetful rowLab) row [.perform (.transmit 0 message none)] (there ++ log) net' ∧
          (calls there).map Prod.fst = walk.map (·.near.node) ∧ originations there = [] ∧
          Ended walk 0 last message ⟨rest, returning, message.payload⟩ reported log := by
  have hTarget : Path.EndsAtOne (some "a/c/x/y") := by
    rintro path hPath
    obtain rfl := Option.mem_some_iff.1 hPath
    decide
  have hSource : Path.EndsAtOne (some "s") := by
    rintro path hPath
    obtain rfl := Option.mem_some_iff.1 hPath
    decide
  exact ⟨bridged_row, by decide, hTarget, hSource,
    negativeAck_names_path bridged_row (by decide) ⟨some "a/c/x/y", some "s", [7]⟩ hTarget hSource
      none⟩

end Network

end RobotBus
